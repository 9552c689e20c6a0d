import AppendLog.Proofs.Reply.Results
import AppendLog.Reply.Reading

/-!
# Exact readers

A reader is exact when it takes all that has a form, as what the form says it stands for, and fails
on all else with what is wrong in it. `Reply.Exact` says so of one result: a form and a defect cover
everything between them, and the result follows whichever applies. Parts that are read one after the
other are exact together, `Reply.Exact.bind`: the defect is that of the first part without its form.
So it is with a list of items, `Reply.Exact.mapM`.
-/

namespace AppendLog.Reply

variable {α β : Type} {command : Command} {result : Except Fault α} {form : α → Prop}
  {defect : Mismatch → Prop}

/-- A result follows a form and a defect, of which one always applies. -/
structure Exact (command : Command) (result : Except Fault α) (form : α → Prop)
    (defect : Mismatch → Prop) : Prop where
  takes : ∀ a, form a → result = .ok a
  refuses : ∀ why, defect why → result = .error (mismatch command why)
  covers : (∃ a, form a) ∨ ∃ why, defect why

namespace Exact

theorem ok_iff (h : Exact command result form defect) {a : α} : result = .ok a ↔ form a := by
  constructor
  · intro hok
    rcases h.covers with ⟨b, hb⟩ | ⟨why, hwhy⟩
    · rw [h.takes b hb] at hok
      obtain rfl := Except.ok.inj hok
      exact hb
    · rw [h.refuses why hwhy] at hok
      cases hok
  · exact h.takes a

theorem error_iff (h : Exact command result form defect) {fault : Fault} :
    result = .error fault ↔ ∃ why, defect why ∧ fault = mismatch command why := by
  constructor
  · intro herror
    rcases h.covers with ⟨a, ha⟩ | ⟨why, hwhy⟩
    · rw [h.takes a ha] at herror
      cases herror
    · rw [h.refuses why hwhy] at herror
      exact ⟨why, hwhy, (Except.error.inj herror).symm⟩
  · rintro ⟨why, hwhy, rfl⟩
    exact h.refuses why hwhy

/-- Whatever is not taken is refused for a mismatch. -/
theorem taken_or_refused (h : Exact command result form defect) :
    (∃ a, result = .ok a) ∨ ∃ why, result = .error (mismatch command why) := by
  rcases h.covers with ⟨a, ha⟩ | ⟨why, hwhy⟩
  · exact .inl ⟨a, h.takes a ha⟩
  · exact .inr ⟨why, h.refuses why hwhy⟩

/-- A form and a defect may be said in other words. -/
theorem congr (h : Exact command result form defect) {form' : α → Prop} {defect' : Mismatch → Prop}
    (hform : ∀ a, form' a ↔ form a) (hdefect : ∀ why, defect' why ↔ defect why) :
    Exact command result form' defect' := by
  obtain rfl : form' = form := funext fun a => propext (hform a)
  obtain rfl : defect' = defect := funext fun why => propext (hdefect why)
  exact h

theorem ok (a : α) : Exact command (.ok a) (· = a) fun _ => False where
  takes := by
    rintro _ rfl
    rfl
  refuses := fun _ hwhy => hwhy.elim
  covers := .inl ⟨a, rfl⟩

/-- What is read second counts only where the first has its form. -/
theorem bind {next : α → Except Fault β} {form' : α → β → Prop} {defect' : α → Mismatch → Prop}
    (h : Exact command result form defect)
    (hnext : ∀ a, Exact command (next a) (form' a) (defect' a)) :
    Exact command (result >>= next) (fun b => ∃ a, form a ∧ form' a b)
      (fun why => defect why ∨ ∃ a, form a ∧ defect' a why) where
  takes := by
    rintro b ⟨a, ha, hb⟩
    rw [h.takes a ha]
    exact (hnext a).takes b hb
  refuses := by
    rintro why (hwhy | ⟨a, ha, hwhy⟩)
    · rw [h.refuses why hwhy]
      rfl
    · rw [h.takes a ha]
      exact (hnext a).refuses why hwhy
  covers := by
    rcases h.covers with ⟨a, ha⟩ | ⟨why, hwhy⟩
    · rcases (hnext a).covers with ⟨b, hb⟩ | ⟨why, hwhy⟩
      · exact .inl ⟨b, a, ha, hb⟩
      · exact .inr ⟨why, .inr ⟨a, ha, hwhy⟩⟩
    · exact .inr ⟨why, .inl hwhy⟩

/-- Items that are read one by one have the form of their results, or one of them is the first that
is defective. -/
theorem mapM {read : β → Except Fault α} {form : β → α → Prop} {defect : β → Mismatch → Prop}
    (h : ∀ item, Exact command (read item) (form item) (defect item)) (items : List β) :
    Exact command (items.mapM read) (List.Forall₂ form items)
      (fun why => ∃ before item after, items = before ++ item :: after ∧
        (∀ one ∈ before, ∃ a, form one a) ∧ defect item why) where
  takes := by
    intro found hfound
    exact mapM_eq_ok_iff.2 (hfound.imp fun item a ha => (h item).takes a ha)
  refuses := by
    rintro why ⟨before, item, after, rfl, hbefore, hwhy⟩
    refine mapM_eq_error (fun one hmem => ?_) ((h item).refuses why hwhy)
    obtain ⟨a, ha⟩ := hbefore one hmem
    exact ⟨a, (h one).takes a ha⟩
  covers := by
    induction items with
    | nil => exact .inl ⟨[], .nil⟩
    | cons item rest ih =>
      rcases (h item).covers with ⟨a, ha⟩ | ⟨why, hwhy⟩
      · rcases ih with ⟨found, hfound⟩ | ⟨why, before, bad, after, rfl, hbefore, hwhy⟩
        · exact .inl ⟨a :: found, .cons ha hfound⟩
        · refine .inr ⟨why, item :: before, bad, after, rfl, fun one hmem => ?_, hwhy⟩
          rcases List.mem_cons.1 hmem with rfl | hmem
          · exact ⟨a, ha⟩
          · exact hbefore one hmem
      · exact .inr ⟨why, [], item, rest, rfl, by simp, hwhy⟩

end Exact

end AppendLog.Reply
