import AppendLog.Proofs.Reply.Messages
import Mathlib.Data.Finset.Card

/-!
# Names that stand once

Fields are added one by one, and one whose name is taken is refused and changes nothing. So the
first value given for a name stays, in the place where it was given: `Fields.pairs_attempts` and
`Fields.get?_attempts` say so of any calls, whatever some of them come to. The bodies in a reply are
read with the same calls, but there a name that comes again is a mismatch.
-/

namespace AppendLog

namespace Fields

variable {fields : Fields} {name : String} {value : ByteArray} {calls : List (String × ByteArray)}

/-! ## One call -/

/-- Try to add a field: what refuses it, if anything does, and the fields after that. A call that
is refused leaves the fields on which it was made. -/
def attempt (fields : Fields) (pair : String × ByteArray) : Option Fault × Fields :=
  match fields.insert pair.1 pair.2 with
  | .ok next => (none, next)
  | .error fault => (some fault, fields)

theorem insert_of_mem (h : name ∈ fields.names) (value : ByteArray) :
    fields.insert name value = .error (.misuse .duplicateFieldName) :=
  dif_pos h

theorem attempt_of_mem (h : name ∈ fields.names) (value : ByteArray) :
    fields.attempt (name, value) = (some (.misuse .duplicateFieldName), fields) := by
  rw [attempt, insert_of_mem h]

theorem attempt_of_notMem (h : name ∉ fields.names) (value : ByteArray) :
    fields.attempt (name, value) =
      (none, ⟨fields.pairs ++ [(name, value)], nodup_push h value⟩) := by
  rw [attempt, insert_of_notMem h]

theorem nodup_names (fields : Fields) : fields.names.Nodup := fields.distinct

theorem contains_iff : fields.contains name ↔ name ∈ fields.names :=
  List.contains_iff_mem

theorem contains_eq_false_iff : fields.contains name = false ↔ name ∉ fields.names := by
  rw [← contains_iff, Bool.not_eq_true]

theorem contains_push (h : name ∉ fields.names) (value : ByteArray) (other : String) :
    contains ⟨fields.pairs ++ [(name, value)], nodup_push h value⟩ other =
      (fields.contains other || other == name) := by
  rw [contains, names, List.map_append, List.contains_append, List.map_singleton,
    List.contains_cons, List.contains_nil, Bool.or_false]
  rfl

theorem isSome_lookup_iff {pairs : List (String × ByteArray)} :
    (pairs.lookup name).isSome ↔ name ∈ pairs.map Prod.fst := by
  rw [List.lookup_isSome_iff, List.mem_map]
  simp only [beq_iff_eq, @eq_comm _ name]

/-- A name has a value if and only if it is there. -/
theorem isSome_get?_iff : (fields.get? name).isSome ↔ name ∈ fields.names :=
  isSome_lookup_iff

/-! ## Calls one after the other -/

/-- Try to add fields one by one: what refuses each of them, and the fields at the end. -/
def attempts (fields : Fields) : List (String × ByteArray) → List (Option Fault) × Fields
  | [] => ([], fields)
  | pair :: rest =>
    let (outcome, next) := fields.attempt pair
    let (outcomes, last) := next.attempts rest
    (outcome :: outcomes, last)

theorem attempts_append (fields : Fields) (before after : List (String × ByteArray)) :
    fields.attempts (before ++ after) =
      ((fields.attempts before).1 ++ ((fields.attempts before).2.attempts after).1,
        ((fields.attempts before).2.attempts after).2) := by
  induction before generalizing fields with
  | nil => rfl
  | cons pair rest ih => simp only [List.cons_append, attempts, ih]

theorem length_attempts (fields : Fields) (calls : List (String × ByteArray)) :
    (fields.attempts calls).1.length = calls.length := by
  induction calls generalizing fields with
  | nil => rfl
  | cons pair rest ih => simp only [attempts, List.length_cons, ih]

/-- Of calls with one name only the first adds a field, and none does if the name is there. -/
theorem pairs_attempts (fields : Fields) (calls : List (String × ByteArray)) :
    (fields.attempts calls).2.pairs = fields.pairs ++
      (calls.filter fun call => !fields.contains call.1).eraseDupsBy
        fun later earlier => later.1 == earlier.1 := by
  induction calls generalizing fields with
  | nil => simp [attempts]
  | cons pair rest ih =>
    obtain ⟨first, value⟩ := pair
    simp only [attempts, ih]
    by_cases h : first ∈ fields.names
    · rw [attempt_of_mem h, List.filter_cons_of_neg (by simp [contains_iff.2 h])]
    · rw [attempt_of_notMem h, List.filter_cons_of_pos (by simp [contains_eq_false_iff.2 h]),
        List.eraseDupsBy_cons, List.filter_filter, List.append_assoc, List.singleton_append]
      -- Later calls add what neither was there nor is added now.
      simp only [contains_push h, Bool.not_or, Bool.decide_eq_false, Bool.and_comm]

/-- The value of a name is the one that was there, or else the first one given for it. -/
theorem get?_attempts (fields : Fields) (calls : List (String × ByteArray)) (name : String) :
    (fields.attempts calls).2.get? name = (fields.get? name).or (calls.lookup name) := by
  induction calls generalizing fields with
  | nil => simp [attempts]
  | cons pair rest ih =>
    obtain ⟨first, value⟩ := pair
    simp only [attempts, ih]
    by_cases h : first ∈ fields.names
    · rw [attempt_of_mem h, List.lookup_cons]
      split
      · next hname =>
        obtain rfl := eq_of_beq hname
        obtain ⟨held, hheld⟩ := Option.isSome_iff_exists.1 (isSome_get?_iff.2 h)
        rw [hheld, Option.some_or, Option.some_or]
      · rfl
    · rw [attempt_of_notMem h, get?, List.lookup_append, Option.or_assoc, List.lookup_cons,
        List.lookup_cons, ← get?]
      split <;> rfl

/-- The names at the end are those that were there and those of the calls. -/
theorem mem_names_attempts : name ∈ (fields.attempts calls).2.names ↔
    name ∈ fields.names ∨ name ∈ calls.map Prod.fst := by
  rw [← isSome_get?_iff, get?_attempts, Option.isSome_or, Bool.or_eq_true, isSome_get?_iff,
    isSome_lookup_iff]

theorem insertAll_cons (fields : Fields) (name : String) (value : ByteArray)
    (rest : List (String × ByteArray)) : fields.insertAll ((name, value) :: rest) =
      fields.insert name value >>= fun next => next.insertAll rest :=
  List.foldlM_cons

theorem mem_names_attempts_empty :
    name ∈ (empty.attempts calls).2.names ↔ name ∈ calls.map Prod.fst := by
  rw [mem_names_attempts]
  exact or_iff_right List.not_mem_nil

/-- A list of pairs is taken as a whole if its names all stand once, and else refused. -/
theorem insertAll_eq (fields : Fields) (pairs : List (String × ByteArray)) :
    fields.insertAll pairs =
      if distinct : ((fields.pairs ++ pairs).map Prod.fst).Nodup then
        .ok ⟨fields.pairs ++ pairs, distinct⟩
      else .error (.misuse .duplicateFieldName) := by
  induction pairs generalizing fields with
  | nil =>
    have hnil : fields.pairs ++ [] = fields.pairs := List.append_nil _
    simp only [hnil, fields.distinct, dite_true]
    rfl
  | cons pair rest ih =>
    obtain ⟨first, value⟩ := pair
    rw [insertAll_cons]
    by_cases h : first ∈ fields.names
    · rw [insert_of_mem h, dif_neg]
      · rfl
      · -- The name stands among the fields, and then in front of the rest.
        intro distinct
        rw [List.map_append, List.nodup_append] at distinct
        exact distinct.2.2 first h first (by simp) rfl
    · rw [insert_of_notMem h]
      have hrest := ih ⟨fields.pairs ++ [(first, value)], nodup_push h value⟩
      simp only [List.append_assoc, List.singleton_append] at hrest
      exact hrest

theorem ofPairs_eq_ok_iff {pairs : List (String × ByteArray)} :
    ofPairs pairs = .ok fields ↔ fields.pairs = pairs := by
  rw [ofPairs, insertAll_eq]
  constructor
  · intro h
    split at h
    · obtain rfl := Except.ok.inj h
      rfl
    · cases h
  · rintro rfl
    exact dif_pos fields.distinct

theorem ofPairs_eq_error_iff {pairs : List (String × ByteArray)} {fault : Fault} :
    ofPairs pairs = .error fault ↔
      ¬ (pairs.map Prod.fst).Nodup ∧ fault = .misuse .duplicateFieldName := by
  rw [ofPairs, insertAll_eq]
  constructor
  · intro h
    split at h
    · cases h
    · next distinct => exact ⟨distinct, (Except.error.inj h).symm⟩
  · rintro ⟨distinct, rfl⟩
    exact dif_neg distinct

end Fields

namespace Reply

/-! ## Bodies in a reply -/

/-- An entry stands somewhere in a reply, as its id with its names and values, all of them. -/
inductive Carries (entry : Entry) : Reply → Prop where
  | element {raw : Reply} {items : List Reply} (hid : raw.IsId entry.id)
      (hpairs : IsPairs entry.fields.pairs items) : Carries entry (array [raw, array items])
  | inside {item : Reply} {items : List Reply} (mem : item ∈ items) (below : Carries entry item) :
      Carries entry (array items)

/-- An entry that a reader found in a reply. -/
def Finds (command : Command) (reply : Reply) (entry : Entry) : Prop :=
  (∃ found, entries command reply = .ok found ∧ entry ∈ found) ∨
    ∃ found, messages command reply = .ok found ∧ entry ∈ found.map Message.entry

variable {command : Command} {reply : Reply} {entry : Entry}

theorem carries_of_entries {found : List Entry} (h : entries command reply = .ok found)
    (hmem : entry ∈ found) : Carries entry reply := by
  have hserver : ∀ text, reply ≠ error text := by
    rintro text rfl
    cases h
  cases (exact_entries command hserver).ok_iff.1 h with
  | nil => cases hmem
  | array hfound =>
    obtain ⟨_, hlive, rfl⟩ := List.mem_filterMap.1 hmem
    obtain ⟨item, hitem, helement⟩ := exists_of_forall₂ hfound.flip _ hlive
    cases helement with
    | live hid distinct hpairs => exact .inside hitem (.element hid hpairs)

theorem carries_of_messages {found : List Message} (h : messages command reply = .ok found)
    (hmem : entry ∈ found.map Message.entry) : Carries entry reply := by
  cases reply with
  | array streams =>
    obtain ⟨parts, hparts, rfl⟩ := messages_eq_ok_iff.1 h
    simp only [List.mem_map, List.mem_flatMap, tagged] at hmem
    obtain ⟨_, ⟨⟨key, live⟩, hpart, _, hlive, rfl⟩, rfl⟩ := hmem
    obtain ⟨_, hstream, name, body, rfl, -, hbody⟩ := exists_of_forall₂ hparts.flip _ hpart
    exact .inside hstream (.inside (by simp) (carries_of_entries hbody hlive))
  | nil =>
    obtain rfl := Except.ok.inj h
    cases hmem
  | _ => cases h

theorem Finds.carries (h : Finds command reply entry) : Carries entry reply := by
  obtain ⟨found, hfound, hmem⟩ | ⟨found, hfound, hmem⟩ := h
  · exact carries_of_entries hfound hmem
  · exact carries_of_messages hfound hmem

/-- Names and values in which a name comes again are defective, and in nothing else. -/
theorem IsPairs.noPairs {pairs : List (String × ByteArray)} {items : List Reply}
    (h : IsPairs pairs items) {names : List String} (hnames : names.Nodup)
    (hrepeated : ¬ (names ++ pairs.map Prod.fst).Nodup) :
    NoPairs names .fieldNameRepeated items := by
  induction h generalizing names with
  | nil => exact absurd hnames (by simpa using hrepeated)
  | @cons n v pairs name value rest hname hvalue _ ih =>
    by_cases hn : n ∈ names
    · exact .repeated hname hvalue hn
    · have hnext : (names ++ [n]).Nodup := by simpa using hnames.concat hn
      exact .later hname hvalue hn (ih hnext (by simpa using hrepeated))

/-- A body in which a name comes again is refused, unless an element before it is. -/
theorem entries_of_repeated {before after items : List Reply} {raw : Reply} {id : EntryId}
    {pairs : List (String × ByteArray)} (hbefore : ∀ one ∈ before, ∃ entry, one.IsElement entry)
    (hid : raw.IsId id) (hpairs : IsPairs pairs items)
    (hrepeated : ¬ (pairs.map Prod.fst).Nodup) (command : Command) :
    entries command (array (before ++ array [raw, array items] :: after)) =
      .error (mismatch command .fieldNameRepeated) := by
  apply (exact_entries command (by simp)).refuses
  exact .element hbefore
    (.pairs hid hpairs.even_length (hpairs.noPairs List.nodup_nil hrepeated))

end Reply

namespace Fields

/-- What calls on empty fields come to, some of them refused. -/
structure KeepsFirsts (calls : List (String × ByteArray)) (outcomes : List (Option Fault))
    (fields : Fields) : Prop where
  /-- A call is refused if and only if its name was given before, and it then changes nothing. -/
  call : ∀ before name value after, calls = before ++ (name, value) :: after →
    let held := (empty.attempts before).2
    outcomes[before.length]? = some (held.attempt (name, value)).1 ∧
    (held.contains name ↔ name ∈ before.map Prod.fst) ∧
    if held.contains name then
      held.attempt (name, value) = (some (.misuse .duplicateFieldName), held)
    else ∃ next, held.attempt (name, value) = (none, next) ∧
      next.pairs = held.pairs ++ [(name, value)]
  /-- Left are the pairs of the calls, in order, without the later ones of a name. -/
  pairs : fields.pairs = calls.eraseDupsBy fun later earlier => later.1 == earlier.1
  once : ∀ name, fields.names.count name = if name ∈ calls.map Prod.fst then 1 else 0
  value : ∀ name, fields.get? name = calls.lookup name
  present : ∀ name, fields.contains name ↔ (fields.get? name).isSome
  size : fields.size = (calls.map Prod.fst).toFinset.card
  /-- Pairs that are taken as a whole are all kept, and are taken if no name comes again. -/
  whole : ∀ found, ofPairs calls = .ok found ↔ found.pairs = calls
  refused : ∀ fault, ofPairs calls = .error fault ↔
    ¬ (calls.map Prod.fst).Nodup ∧ fault = .misuse .duplicateFieldName

theorem call_outcome (before : List (String × ByteArray)) (name : String) (value : ByteArray)
    (after : List (String × ByteArray)) :
    (empty.attempts (before ++ (name, value) :: after)).1[before.length]? =
      some ((empty.attempts before).2.attempt (name, value)).1 := by
  rw [attempts_append, List.getElem?_append_right (by rw [length_attempts]), length_attempts,
    Nat.sub_self]
  rfl

theorem size_attempts (calls : List (String × ByteArray)) :
    (empty.attempts calls).2.size = (calls.map Prod.fst).toFinset.card := by
  have hnames : (calls.map Prod.fst).toFinset = (empty.attempts calls).2.names.toFinset := by
    ext name
    rw [List.mem_toFinset, List.mem_toFinset, mem_names_attempts_empty]
  rw [hnames, List.toFinset_card_of_nodup (nodup_names _), size, names, List.length_map]

theorem keepsFirsts (calls : List (String × ByteArray)) :
    KeepsFirsts calls (empty.attempts calls).1 (empty.attempts calls).2 where
  call before name value after h := by
    subst h
    refine ⟨call_outcome before name value after, ?_, ?_⟩
    · rw [contains_iff, mem_names_attempts_empty]
    · split
      · next h => exact attempt_of_mem (contains_iff.1 h) value
      · next h => exact ⟨_, attempt_of_notMem (mt contains_iff.2 h) value, rfl⟩
  pairs := by simp [pairs_attempts, contains, names, empty]
  once name := by
    simp only [(nodup_names _).count, mem_names_attempts_empty]
  value := get?_attempts empty calls
  present name := by rw [contains_iff, isSome_get?_iff]
  size := size_attempts calls
  whole _ := ofPairs_eq_ok_iff
  refused _ := ofPairs_eq_error_iff

/-- **A name stands once, with the value that it was given first.** However many calls are made on
empty fields, those that give a name again are refused and change nothing, and the others are kept
in order. Pairs are taken as a whole if and only if no name comes again. The names of an entry that
a reader finds in a reply stand once too: they are all the names that the entry has in the reply,
and an entry in which a name comes again is refused. -/
theorem first_values_stay (calls : List (String × ByteArray)) :
    KeepsFirsts calls (empty.attempts calls).1 (empty.attempts calls).2 ∧
    (∀ (command : Command) (reply : Reply) (entry : Entry), reply.Finds command entry →
      entry.fields.names.Nodup ∧ reply.Carries entry) ∧
    ∀ (command : Command) (before after items : List Reply) (raw : Reply) (id : EntryId)
      (pairs : List (String × ByteArray)), (∀ one ∈ before, ∃ entry, one.IsElement entry) →
      raw.IsId id → Reply.IsPairs pairs items → ¬ (pairs.map Prod.fst).Nodup →
      Reply.entries command (.array (before ++ .array [raw, .array items] :: after)) =
        .error (.protocol command.name (.mismatch .fieldNameRepeated)) :=
  ⟨keepsFirsts calls, fun _ _ entry h => ⟨nodup_names entry.fields, h.carries⟩,
    fun command _ _ _ _ _ _ hbefore hid hpairs hrepeated =>
      Reply.entries_of_repeated hbefore hid hpairs hrepeated command⟩

/-- A name given twice, with another between: the second value is refused when it is added, and the
whole body when it comes in a reply. -/
theorem first_values_stay_given_twice :
    let body := [("k", "1".toUTF8), ("", "2".toUTF8), ("k", "3".toUTF8)]
    let items : List Reply := body.flatMap fun (name, value) => [.bulk name.toUTF8, .bulk value]
    (empty.attempts body).2.get? "k" = some "1".toUTF8 ∧ (empty.attempts body).2.size = 2 ∧
      Reply.entries .range (.array [.nil, .array [.status "7-0", .array items]]) =
        .error (.protocol "XRANGE" (.mismatch .fieldNameRepeated)) := by
  intro body items
  obtain ⟨hkept, -, hrefused⟩ := first_values_stay body
  have hid : (Reply.status "7-0").IsId ⟨7, 0⟩ :=
    Reply.isId_of_isText (show (⟨7, 0⟩ : EntryId).text = "7-0" by decide) .status
  refine ⟨hkept.value "k", ?_, ?_⟩
  · rw [hkept.size]
    decide
  · refine hrefused .range [.nil] [] items _ _ body (fun one hmem => ?_) hid
      (Reply.isPairs_flatMap body) (by decide)
    exact ⟨none, List.mem_singleton.1 hmem ▸ .nil⟩

end Fields

end AppendLog
