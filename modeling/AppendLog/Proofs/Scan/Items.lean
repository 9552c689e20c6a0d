import AppendLog.Proofs.Scan.Progress
import AppendLog.Scan.Feed

/-!
# Entries one by one

The items of a scan are what calls for its pages bring, one after the other, and no call is made
before an item of it is wanted. `Feed.take_buffer` and `Feed.take_page` say what a feed does with
the entries that it holds and when it holds none; `Scan.exists_calls` puts these together for any
number of items, and `Scan.items_flatten` says what that means for the one who takes them.
-/

namespace AppendLog

namespace Ending

/-- The items that a call for a page brings: the entries of the page, or the fault of the call. -/
def items : Ending (Option Page) → List Feed.Item
  | finished (.ok page?) => (page?.elim [] Page.entries).map .ok
  | finished (.error fault) => [.error fault]
  | abandoned => []

theorem eq_of_page?_eq_some {ending : Ending (Option Page)} {page : Page}
    (h : ending.page? = some page) : ending = .finished (.ok (some page)) := by
  cases ending with
  | abandoned => cases h
  | finished result =>
    cases result with
    | error fault => cases h
    | ok page? =>
      obtain rfl : page? = some page := h
      rfl

/-- Calls that all brought a page. -/
theorem exists_pages {endings : List (Ending (Option Page))}
    (h : ∀ ending ∈ endings, ending.page? ≠ none) :
    ∃ pages : List Page, endings = pages.map fun page => .finished (.ok (some page)) := by
  induction endings with
  | nil => exact ⟨[], rfl⟩
  | cons ending rest ih =>
    rw [List.forall_mem_cons] at h
    obtain ⟨page, hpage⟩ := Option.ne_none_iff_exists'.1 h.1
    obtain ⟨pages, rfl⟩ := ih h.2
    exact ⟨page :: pages, by rw [eq_of_page?_eq_some hpage, List.map_cons]⟩

def isAbandoned : Ending (Option Page) → Bool
  | finished _ => false
  | abandoned => true

end Ending

/-! ## Calls for pages -/

/-- What calls for pages come to, one after the other over one link: how each of them ended, and the
link after them. -/
structure Calls where
  endings : List (Ending (Option Page))
  link : Link

/-- Call for the next page as often as `count` says. -/
def Scan.calls (client : Client) : (count : Nat) → Scan → Link → Calls
  | 0, _, link => ⟨[], link⟩
  | count + 1, scan, link =>
    let (ending, scan, link) := scan.fetchPage client link
    let later := calls client count scan link
    ⟨ending :: later.endings, later.link⟩

namespace Calls

/-- The items of all calls, in order. -/
def items (calls : Calls) : List Feed.Item := calls.endings.flatMap Ending.items

/-- No other call is needed for as many items as are wanted: these bring as many, or one of them
brought no page. -/
def Suffices (calls : Calls) (want : Option Nat) : Prop :=
  (∃ ending ∈ calls.endings, ending.page? = none) ∨ ∃ n, want = some n ∧ n ≤ calls.items.length

/-- The first items of a list, all of them if no number is given. -/
def upTo {α : Type} : Option Nat → List α → List α
  | none, items => items
  | some n, items => items.take n

/-- What the one who wants so many items gets of these calls: the items, unless one of the calls
took longer than anyone waits. -/
def taken (calls : Calls) (want : Option Nat) : Option (List Feed.Item) :=
  if calls.endings.any Ending.isAbandoned then none else some (upTo want calls.items)

variable {want : Option Nat} {link : Link}

theorem upTo_append {α : Type} (want : Option Nat) (before after : List α) :
    upTo want (before ++ after) =
      upTo want before ++ upTo (want.map (· - before.length)) after := by
  cases want with
  | none => rfl
  | some n => exact List.take_append

theorem not_suffices_nil (hwant : want ≠ some 0) : ¬ (⟨[], link⟩ : Calls).Suffices want := by
  rintro (⟨ending, hmem, -⟩ | ⟨n, rfl, hn⟩)
  · cases hmem
  · exact hwant (congrArg some (Nat.le_zero.1 hn))

/-- A call for a page that brought one, before other calls. -/
theorem items_page (page : Page) (later : List (Ending (Option Page))) :
    (⟨.finished (.ok (some page)) :: later, link⟩ : Calls).items =
      page.entries.map .ok ++ (⟨later, link⟩ : Calls).items := rfl

/-- Calls that brought pages, and one more. -/
theorem items_pages (pages : List Page) (last : Ending (Option Page)) :
    (⟨pages.map (fun page => .finished (.ok (some page))) ++ [last], link⟩ : Calls).items =
      (pages.flatMap Page.entries).map .ok ++ last.items := by
  induction pages with
  | nil => exact List.append_nil last.items
  | cons page pages ih =>
    rw [List.map_cons, List.cons_append, items_page, ih, List.flatMap_cons, List.map_append,
      List.append_assoc]

theorem any_pages (pages : List Page) (last : Ending (Option Page)) :
    (pages.map (fun page => Ending.finished (.ok (some page))) ++ [last]).any Ending.isAbandoned =
      last.isAbandoned := by
  simp [Ending.isAbandoned]

/-- What a page brings is not wanted any more from the calls after it. -/
theorem suffices_page (page : Page) (later : List (Ending (Option Page))) :
    (⟨.finished (.ok (some page)) :: later, link⟩ : Calls).Suffices want ↔
      (⟨later, link⟩ : Calls).Suffices (want.map (· - page.entries.length)) := by
  have hpage : Ending.page? (.finished (.ok (some page))) ≠ none := nofun
  rw [Suffices, Suffices, items_page, List.length_append, List.length_map]
  simp only [List.mem_cons, exists_eq_or_imp, hpage, false_or]
  cases want with
  | none => simp
  | some n =>
    simp only [Option.map_some, Option.some.injEq, exists_eq_left', Nat.sub_le_iff_le_add']

theorem taken_page (page : Page) (later : List (Ending (Option Page))) :
    (⟨.finished (.ok (some page)) :: later, link⟩ : Calls).taken want =
      ((⟨later, link⟩ : Calls).taken (want.map (· - page.entries.length))).map
        (upTo want (page.entries.map .ok) ++ ·) := by
  simp only [taken, List.any_cons, Ending.isAbandoned, Bool.false_or, items_page, upTo_append,
    List.length_map]
  split <;> rfl

/-- A call that brought no page brings one item at most. -/
theorem taken_singleton (hwant : want ≠ some 0) {ending : Ending (Option Page)}
    (hpage : ending.page? = none) : (⟨[ending], link⟩ : Calls).taken want =
      if ending.isAbandoned then none else some ending.items := by
  have hlength : ending.items.length ≤ 1 := by
    cases ending with
    | abandoned => exact Nat.zero_le 1
    | finished result =>
      cases result with
      | error fault => exact Nat.le_refl 1
      | ok page? =>
        obtain rfl : page? = none := hpage
        exact Nat.zero_le 1
  have hall : upTo want ending.items = ending.items := by
    cases want with
    | none => rfl
    | some n =>
      have hn : n ≠ 0 := fun h => hwant (congrArg some h)
      exact List.take_of_length_le (by omega)
  simp [taken, items, hall]

end Calls

/-! ## Taking items -/

namespace Feed

open Calls (upTo)

variable {client : Client} {want : Option Nat} {scan : Scan} {link : Link}

theorem take_zero (client : Client) (feed : Feed) (link : Link) :
    take client (some 0) feed link = (some [], link) := by
  rw [take, if_pos rfl]

/-- One step of a feed from which an item is wanted, and then the rest. -/
theorem take_step (hwant : want ≠ some 0) (feed : Feed) : take client want feed link =
    match feed.step client link with
    | .finished link => (some [], link)
    | .abandoned link => (none, link)
    | .again feed link => take client want feed link
    | .item (.error fault) _ link => (some [.error fault], link)
    | .item (.ok entry) feed link =>
      ((take client (want.map (· - 1)) feed link).1.map (.ok entry :: ·),
        (take client (want.map (· - 1)) feed link).2) := by
  rw [take, if_neg hwant]
  split <;> simp only [*]

theorem take_cons (hwant : want ≠ some 0) (entry : Entry) (rest : List Entry) :
    take client want ⟨scan, entry :: rest⟩ link =
      ((take client (want.map (· - 1)) ⟨scan, rest⟩ link).1.map (.ok entry :: ·),
        (take client (want.map (· - 1)) ⟨scan, rest⟩ link).2) := by
  rw [take_step hwant, step]

/-- A feed that holds nothing calls for a page, and goes on with what is on it. -/
theorem take_page (hwant : want ≠ some 0) {next : Scan} {after : Link} {page : Page}
    (hcall : scan.fetchPage client link = (.finished (.ok (some page)), next, after)) :
    take client want { scan } link = take client want ⟨next, page.entries⟩ after := by
  obtain ⟨entries, lastId, upToDate⟩ := page
  -- An empty page is passed over, and of any other the first entry is handed out at once.
  cases entries with
  | nil => rw [take_step hwant, step, hcall]
  | cons entry rest => rw [take_step hwant, step, hcall, take_cons hwant]

/-- Without a page the feed comes to its end. -/
theorem take_of_page?_eq_none (hwant : want ≠ some 0) {ending : Ending (Option Page)} {next : Scan}
    {after : Link} (hcall : scan.fetchPage client link = (ending, next, after))
    (hpage : ending.page? = none) :
    take client want { scan } link = ((⟨[ending], after⟩ : Calls).taken want, after) := by
  rw [take_step hwant, step, hcall, Calls.taken_singleton hwant hpage]
  cases ending with
  | abandoned => rfl
  | finished result =>
    cases result with
    | error fault => rfl
    | ok page? =>
      obtain rfl : page? = none := hpage
      rfl

/-- A feed hands out the entries that it holds, and then what it would hand out without them. -/
theorem take_buffer (client : Client) (want : Option Nat) (scan : Scan) (held : List Entry)
    (link : Link) :
    take client want ⟨scan, held⟩ link =
      ((take client (want.map (· - held.length)) { scan } link).1.map
          (upTo want (held.map .ok) ++ ·),
        (take client (want.map (· - held.length)) { scan } link).2) := by
  induction held generalizing want with
  | nil =>
    cases want with
    | none => simp [upTo]
    | some n => simp [upTo]
  | cons entry rest ih =>
    by_cases hwant : want = some 0
    · subst hwant
      simp [take_zero, upTo]
    · have hrest : (want.map (· - 1)).map (· - rest.length) =
          want.map (· - (entry :: rest).length) := by
        simp [Function.comp_def, Nat.sub_sub, Nat.add_comm]
      have hfirst (items : List Item) :
          upTo want (.ok entry :: items) = .ok entry :: upTo (want.map (· - 1)) items := by
        cases want with
        | none => rfl
        | some n =>
          obtain ⟨n, rfl⟩ := Nat.exists_eq_succ_of_ne_zero fun h => hwant (congrArg some h)
          rfl
      rw [take_cons hwant, ih, hrest, List.map_cons, hfirst]
      simp [Function.comp_def]

/-- After a fault the feed is at its end: it hands out nothing more, and sends nothing. -/
theorem finished_of_fault {feed next : Feed} {after : Link} {fault : Fault}
    (h : feed.step client link = .item (.error fault) next after) (later : Link) :
    next.step client later = .finished later := by
  obtain ⟨scan, buffer⟩ := feed
  cases buffer with
  | cons entry rest => cases h
  | nil =>
    simp only [step] at h
    split at h
    · cases h
    · cases h
    · next closed _ _ =>
      obtain ⟨-, rfl, -⟩ := Step.item.inj h
      have hover : closed.close.isOver = true := rfl
      simp only [step, Scan.fetchPage, Scan.plan, hover, if_true]
    · split at h <;> cases h

end Feed

/-! ## Items of a scan -/

namespace Scan

open Feed (take_zero take_page take_of_page?_eq_none take_buffer)

/-- What is taken of a scan is what the fewest calls for pages bring that suffice. -/
theorem exists_calls (client : Client) (want : Option Nat) (scan : Scan) (link : Link) :
    ∃ count, (scan.calls client count link).Suffices want ∧
      (∀ fewer < count, ¬ (scan.calls client fewer link).Suffices want) ∧
      scan.items client want link =
        ((scan.calls client count link).taken want, (scan.calls client count link).link) := by
  -- A page takes a turn of the link, so there is an induction on the turns that are left.
  induction hturns : link.turns.length using Nat.strongRecOn generalizing want scan link with
  | ind turns ih =>
    by_cases hwant : want = some 0
    · subst hwant
      exact ⟨0, .inr ⟨0, rfl, Nat.le_refl 0⟩, by simp, take_zero client { scan } link⟩
    have hnone : ¬ (scan.calls client 0 link).Suffices want := Calls.not_suffices_nil hwant
    generalize hcall : scan.fetchPage client link = result
    obtain ⟨ending, next, after⟩ := result
    have hsucc (count : Nat) : scan.calls client (count + 1) link =
        ⟨ending :: (next.calls client count after).endings,
          (next.calls client count after).link⟩ := by
      simp [calls, hcall]
    cases hpage : ending.page? with
    | none =>
      refine ⟨1, .inl ⟨ending, ?_, hpage⟩, fun fewer hfewer => ?_, ?_⟩
      · simp [hsucc]
      · rwa [Nat.lt_one_iff.1 hfewer]
      · rw [hsucc]
        exact take_of_page?_eq_none hwant hcall hpage
    | some page =>
      obtain rfl := Ending.eq_of_page?_eq_some hpage
      have hless := Feed.turns_lt_of_fetchPage hcall
      obtain ⟨count, hsuffices, hfewest, hitems⟩ :=
        ih _ (hturns ▸ hless) (want.map (· - page.entries.length)) next after rfl
      refine ⟨count + 1, ?_, fun fewer hfewer => ?_, ?_⟩
      · rw [hsucc, Calls.suffices_page]
        exact hsuffices
      · cases fewer with
        | zero => exact hnone
        | succ fewer =>
          rw [hsucc, Calls.suffices_page]
          exact hfewest fewer (Nat.lt_of_succ_lt_succ hfewer)
      · rw [items] at hitems
        rw [items, take_page hwant hcall, take_buffer, hitems, hsucc, Calls.taken_page]

/-- One call more comes behind the others. -/
theorem exists_last_call (client : Client) (count : Nat) (scan : Scan) (link : Link) :
    ∃ last, (scan.calls client (count + 1) link).endings =
      (scan.calls client count link).endings ++ [last] := by
  induction count generalizing scan link with
  | zero => exact ⟨_, rfl⟩
  | succ count ih =>
    obtain ⟨last, hlast⟩ := ih (scan.fetchPage client link).2.1 (scan.fetchPage client link).2.2
    exact ⟨last, congrArg ((scan.fetchPage client link).1 :: ·) hlast⟩

theorem length_endings_calls (client : Client) (count : Nat) (scan : Scan) (link : Link) :
    (scan.calls client count link).endings.length = count := by
  induction count with
  | zero => rfl
  | succ count ih =>
    obtain ⟨last, hlast⟩ := exists_last_call client count scan link
    rw [hlast, List.length_append, ih, List.length_singleton]

/-- All of a scan is taken with the first call that brings no page. -/
theorem exists_pages (client : Client) (scan : Scan) (link : Link) :
    ∃ (pages : List Page) (last : Ending (Option Page)) (after : Link), last.page? = none ∧
      scan.calls client (pages.length + 1) link =
        ⟨pages.map (fun page => .finished (.ok (some page))) ++ [last], after⟩ ∧
      scan.items client none link = (if last.isAbandoned then none
        else some ((pages.flatMap Page.entries).map .ok ++ last.items), after) := by
  obtain ⟨count, hsuffices, hfewest, hitems⟩ := exists_calls client none scan link
  cases count with
  | zero => exact absurd hsuffices (Calls.not_suffices_nil nofun)
  | succ count =>
    -- The calls before the last do not suffice, so each of them brought a page.
    have hbefore := hfewest count (Nat.lt_succ_self count)
    rw [Calls.Suffices, not_or, not_exists] at hbefore
    obtain ⟨pages, hpages⟩ := Ending.exists_pages fun ending hmem hpage =>
      hbefore.1 ending ⟨hmem, hpage⟩
    have hlength : pages.length = count := by
      rw [← length_endings_calls client count scan link, hpages, List.length_map]
    obtain ⟨last, hlast⟩ := exists_last_call client count scan link
    rw [hpages] at hlast
    have hcalls : scan.calls client (pages.length + 1) link =
        ⟨pages.map (fun page => .finished (.ok (some page))) ++ [last],
          (scan.calls client (count + 1) link).link⟩ := by
      rw [hlength, ← hlast]
    refine ⟨pages, last, _, ?_, hcalls, ?_⟩
    · obtain ⟨ending, hmem, hpage⟩ | ⟨n, hn, -⟩ := hsuffices
      · rw [hlast, List.mem_append, List.mem_singleton, List.mem_map] at hmem
        obtain ⟨page, -, rfl⟩ | rfl := hmem
        · cases hpage
        · exact hpage
      · cases hn
    · rw [hitems, ← hlength, hcalls, Calls.taken, Calls.items_pages, Calls.any_pages]
      rfl

/-- **The items of a scan are the entries of its pages, each page fetched when it is wanted.** From
any state of a scan, over any link: the one who takes some number of items gets them as the fewest
calls for pages bring that suffice for so many, and finds the link as these calls leave it. Who
takes them all gets every entry of the pages, in order, with nothing behind them if the last call
brought no page and its fault if it failed. After a fault the stream is over, and the link is left
alone. -/
theorem items_flatten (client : Client) (scan : Scan) (link : Link) :
    (∀ want, ∃ count, (scan.calls client count link).Suffices want ∧
      (∀ fewer < count, ¬ (scan.calls client fewer link).Suffices want) ∧
      scan.items client want link =
        ((scan.calls client count link).taken want, (scan.calls client count link).link)) ∧
    (∃ (pages : List Page) (last : Ending (Option Page)) (after : Link), last.page? = none ∧
      scan.calls client (pages.length + 1) link =
        ⟨pages.map (fun page => .finished (.ok (some page))) ++ [last], after⟩ ∧
      scan.items client none link = (if last.isAbandoned then none
        else some ((pages.flatMap Page.entries).map .ok ++ last.items), after)) ∧
    ∀ (feed next : Feed) (before after later : Link) (fault : Fault),
      feed.step client before = .item (.error fault) next after →
        next.step client later = .finished later :=
  ⟨fun want => exists_calls client want scan link, exists_pages client scan link,
    fun _ _ _ _ later _ h => Feed.finished_of_fault h later⟩

/-- A feed on a broken link hands out one fault. It is over then, though the other side answers
again. -/
theorem items_flatten_broken_link :
    let feed : Feed := { scan := { key := "s", pageSize := .atLeastOne 2 } }
    let restored : Link := { turns := [.answers default (.reply .nil)] }
    ∃ next after, feed.step {} { turns := [] } =
        .item (.error (LinkFailure.broken "script exhausted").fault) next after ∧
      next.step {} restored = .finished restored := by
  intro feed restored
  obtain ⟨-, -, hover⟩ := items_flatten {} feed.scan { turns := [] }
  have hstep : feed.step {} { turns := [] } = .item _ _ _ := rfl
  exact ⟨_, _, hstep, hover feed _ _ _ restored _ hstep⟩

end Scan

end AppendLog
