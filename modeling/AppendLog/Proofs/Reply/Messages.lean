import AppendLog.Proofs.Reply.Entries
import AppendLog.Proofs.Reply.ServerErrors

/-!
# The messages of several streams

A reply to a read is a list of streams, each a key with entries, and its messages are those of its
streams one after the other: `Reply.messages_flatten`. What holds of a whole reply is told from one
stream in front of the rest, `Reply.messages_cons`, and from one reply behind another,
`Reply.messages_append`.
-/

namespace AppendLog.Reply

/-- A stream in a reply: a key, and a part that can be read as entries. -/
def IsStream (command : Command) (key : String) (live : List Entry) (stream : Reply) : Prop :=
  ∃ name body, stream = array [name, body] ∧ name.IsText key ∧ entries command body = .ok live

/-- The entries of a stream, each with the key of the stream. -/
def tagged (key : String) (live : List Entry) : List Message := live.map fun entry => ⟨key, entry⟩

variable {command : Command} {stream : Reply}

theorem readStream_eq_ok_iff {found : List Message} : readStream command stream = .ok found ↔
    ∃ key live, stream.IsStream command key live ∧ found = tagged key live := by
  constructor
  · intro h
    obtain ⟨⟨name, body⟩, hpair, h⟩ := exists_of_bind_eq_ok h
    obtain ⟨key, hkey, h⟩ := exists_of_bind_eq_ok h
    obtain ⟨live, hlive, h⟩ := exists_of_bind_eq_ok h
    obtain rfl := Except.ok.inj h
    have hname : name.IsText key := (exact_readText command name).ok_iff.1 hkey
    exact ⟨key, live, ⟨name, body, eq_of_readPair hpair, hname, hlive⟩, rfl⟩
  · rintro ⟨key, live, ⟨name, body, rfl, hkey, hlive⟩, rfl⟩
    exact readStream_of_entries command hkey hlive

/-- The messages of an array are those of its streams, read one by one. -/
theorem messages_eq (command : Command) (streams : List Reply) :
    messages command (array streams) =
      (streams.mapM (readStream command)).map List.flatten := by
  simp only [messages, accepted, readArray, Bind.bind, Except.bind]
  cases streams.mapM (readStream command) <;> rfl

/-- The streams of one reply and then those of another; what fails first decides. -/
theorem messages_append (command : Command) (streams more : List Reply) :
    messages command (array (streams ++ more)) = (do
      let first ← messages command (array streams)
      let second ← messages command (array more)
      return first ++ second) := by
  simp only [messages_eq, List.mapM_append]
  cases streams.mapM (readStream command) with
  | error fault => rfl
  | ok first =>
    cases more.mapM (readStream command) with
    | error fault => rfl
    | ok second => simp [Bind.bind, Except.bind, Pure.pure, Except.pure, Except.map]

theorem messages_cons (command : Command) (stream : Reply) (rest : List Reply) :
    messages command (array (stream :: rest)) = (do
      let first ← readStream command stream
      let second ← messages command (array rest)
      return first ++ second) := by
  simp only [messages_eq, List.mapM_cons]
  cases readStream command stream with
  | error fault => rfl
  | ok first =>
    cases rest.mapM (readStream command) with
    | error fault => rfl
    | ok second => rfl

/-- The messages of all streams, each stream with the part that it has in them. -/
theorem messages_eq_ok_iff {streams : List Reply} {found : List Message} :
    messages command (array streams) = .ok found ↔
      ∃ parts : List (String × List Entry),
        List.Forall₂ (fun stream part => stream.IsStream command part.1 part.2) streams parts ∧
        found = parts.flatMap fun part => tagged part.1 part.2 := by
  induction streams generalizing found with
  | nil =>
    constructor
    · intro h
      obtain rfl := Except.ok.inj h
      exact ⟨[], .nil, rfl⟩
    · rintro ⟨parts, hparts, rfl⟩
      cases hparts
      rfl
  | cons stream rest ih =>
    rw [messages_cons]
    constructor
    · intro h
      obtain ⟨first, hfirst, h⟩ := exists_of_bind_eq_ok h
      obtain ⟨second, hsecond, h⟩ := exists_of_bind_eq_ok h
      obtain rfl := Except.ok.inj h
      obtain ⟨key, live, hstream, rfl⟩ := readStream_eq_ok_iff.1 hfirst
      obtain ⟨parts, hparts, rfl⟩ := ih.1 hsecond
      exact ⟨(key, live) :: parts, .cons hstream hparts, rfl⟩
    · rintro ⟨parts, hparts, rfl⟩
      cases hparts with
      | @cons _ part _ parts hstream hparts =>
        rw [readStream_eq_ok_iff.2 ⟨part.1, part.2, hstream, rfl⟩, ih.2 ⟨parts, hparts, rfl⟩]
        rfl

/-- A stream has its messages in one place: behind those of the streams in front of it, and in front
of those of the streams behind it. -/
theorem exists_of_messages {before after : List Reply} {found : List Message}
    (h : messages command (array (before ++ stream :: after)) = .ok found) :
    ∃ key live front back, stream.IsStream command key live ∧
      messages command (array before) = .ok front ∧ messages command (array after) = .ok back ∧
      found = front ++ tagged key live ++ back := by
  rw [messages_append, messages_cons] at h
  obtain ⟨front, hfront, h⟩ := exists_of_bind_eq_ok h
  obtain ⟨rest, hrest, h⟩ := exists_of_bind_eq_ok h
  obtain ⟨mine, hmine, hrest⟩ := exists_of_bind_eq_ok hrest
  obtain ⟨back, hback, hrest⟩ := exists_of_bind_eq_ok hrest
  obtain ⟨key, live, hstream, rfl⟩ := readStream_eq_ok_iff.1 hmine
  obtain rfl := Except.ok.inj hrest
  obtain rfl := Except.ok.inj h
  exact ⟨key, live, front, back, hstream, hfront, hback, (List.append_assoc _ _ _).symm⟩

/-- **The messages of a reply are those of its streams, in order.** A reply of streams is taken if
and only if each is a key with a part that can be read as entries, and as these entries, stream by
stream, each under the key of its own stream. So the streams of two replies together give the
messages of both, unless one fails; the first to fail decides. And each stream has its messages in
one place, none of them lost or joined with those of another stream of the same key. -/
theorem messages_flatten (command : Command) (streams : List Reply) :
    (∀ found, messages command (array streams) = .ok found ↔
      ∃ parts : List (String × List Entry),
        List.Forall₂ (fun stream part => stream.IsStream command part.1 part.2) streams parts ∧
        found = parts.flatMap fun part => tagged part.1 part.2) ∧
    (∀ more, messages command (array (streams ++ more)) = (do
      let first ← messages command (array streams)
      let second ← messages command (array more)
      return first ++ second)) ∧
    ∀ before stream after found, streams = before ++ stream :: after →
      messages command (array streams) = .ok found →
      ∃ key live front back, stream.IsStream command key live ∧
        messages command (array before) = .ok front ∧ messages command (array after) = .ok back ∧
        found = front ++ tagged key live ++ back := by
  refine ⟨fun found => messages_eq_ok_iff, messages_append command streams, ?_⟩
  rintro before stream after found rfl h
  exact exists_of_messages h

/-- A stream without entries, and two streams of one key, with a deleted entry in the first. -/
theorem messages_flatten_same_key :
    let entry (n : UInt64) : Entry := ⟨⟨n, 0⟩, ⟨[("k", "v".toUTF8)], by decide⟩⟩
    let gone : Reply := array [bulk "1-0".toUTF8, nil]
    let empty : Reply := array [bulk "b".toUTF8, nil]
    let first : Reply := array [bulk "a".toUTF8, array [(entry 5).toReply, gone]]
    let second : Reply := array [status "a", array [(entry 6).toReply]]
    messages .read (array [empty, first, second]) = .ok [⟨"a", entry 5⟩, ⟨"a", entry 6⟩] ∧
      [empty, first, second] = [empty] ++ first :: [second] ∧
      ∃ key live front back, first.IsStream .read key live ∧
        messages .read (array [empty]) = .ok front ∧ messages .read (array [second]) = .ok back ∧
        [⟨"a", entry 5⟩, ⟨"a", entry 6⟩] = front ++ tagged key live ++ back := by
  intro entry gone empty first second
  have hid : (⟨1, 0⟩ : EntryId).text = "1-0" := by decide
  have hgone : readElement .read gone = .ok none :=
    (exact_readElement .read gone).takes none (.deleted (isId_of_isText hid .bulk))
  have hempty : empty.IsStream .read "b" [] := ⟨_, _, rfl, .bulk, rfl⟩
  have hitems : [(entry 5).toReply, gone].mapM (readElement .read) =
      .ok [some (entry 5), none] := by
    rw [List.mapM_cons, readElement_toReply, List.mapM_cons, hgone]
    rfl
  have hfirst : first.IsStream .read "a" [entry 5] :=
    ⟨_, _, rfl, .bulk, entries_of_mapM .read hitems⟩
  have hsecond : second.IsStream .read "a" [entry 6] :=
    ⟨_, _, rfl, .status, entries_map_toReply .read [entry 6]⟩
  obtain ⟨hok, -, hplace⟩ := messages_flatten .read [empty, first, second]
  have hfound : messages .read (array [empty, first, second]) =
      .ok [⟨"a", entry 5⟩, ⟨"a", entry 6⟩] :=
    (hok _).2 ⟨[("b", []), ("a", [entry 5]), ("a", [entry 6])],
      .cons hempty (.cons hfirst (.cons hsecond .nil)), rfl⟩
  exact ⟨hfound, rfl, hplace [empty] first [second] _ rfl hfound⟩

end AppendLog.Reply
