import AppendLog.Fault
import Mathlib.Data.List.Forall2

/-!
# Results in sequence

A reader goes on with what it has read, and reads a list item by item. A result that was bound came
of a result before it, and a list is mapped to results exactly when each item is mapped to the
result in its place, `mapM_eq_ok_iff`; otherwise the first item that fails decides. What a result
can fail with follows from its parts: the rules of `FailsOnly`.
-/

namespace AppendLog

variable {α β γ : Type}

/-- A result that was bound came of a result before it. -/
theorem exists_of_bind_eq_ok {result : Except Fault α} {next : α → Except Fault β} {b : β}
    (h : result >>= next = .ok b) : ∃ a, result = .ok a ∧ next a = .ok b := by
  cases result with
  | error fault => cases h
  | ok a => exact ⟨a, rfl, h⟩

theorem exists_of_map_eq_ok {f : α → β} {result : Except Fault α} {b : β}
    (h : f <$> result = .ok b) : ∃ a, result = .ok a ∧ f a = b := by
  cases result with
  | error fault => cases h
  | ok a => exact ⟨a, rfl, Except.ok.inj h⟩

theorem exists_of_forall₂ {R : α → β → Prop} {xs : List α} {ys : List β}
    (h : List.Forall₂ R xs ys) : ∀ x ∈ xs, ∃ y ∈ ys, R x y := by
  induction h with
  | nil => simp
  | @cons x y xs ys hxy _ ih =>
    intro x' hmem
    rcases List.mem_cons.1 hmem with rfl | hmem
    · exact ⟨y, List.mem_cons_self, hxy⟩
    · obtain ⟨y', hy', hxy'⟩ := ih x' hmem
      exact ⟨y', List.mem_cons_of_mem y hy', hxy'⟩

/-- A list is mapped to results exactly when each item is, in its place. -/
theorem mapM_eq_ok_iff {f : α → Except Fault β} {xs : List α} {ys : List β} :
    xs.mapM f = .ok ys ↔ List.Forall₂ (fun x y => f x = .ok y) xs ys := by
  constructor
  · intro h
    induction xs generalizing ys with
    | nil =>
      obtain rfl := Except.ok.inj h
      exact .nil
    | cons x xs ih =>
      rw [List.mapM_cons] at h
      obtain ⟨y, hy, h⟩ := exists_of_bind_eq_ok h
      obtain ⟨rest, hrest, h⟩ := exists_of_bind_eq_ok h
      obtain rfl := Except.ok.inj h
      exact .cons hy (ih hrest)
  · intro h
    induction h with
    | nil => rfl
    | cons hy _ ih =>
      rw [List.mapM_cons, hy, ih]
      rfl

/-- A list is mapped to results only when each of its items is. -/
theorem exists_of_mapM_eq_ok {f : α → Except Fault β} {xs : List α} {ys : List β}
    (h : xs.mapM f = .ok ys) : ∀ x ∈ xs, ∃ y, f x = .ok y := by
  intro x hmem
  obtain ⟨y, -, hy⟩ := exists_of_forall₂ (mapM_eq_ok_iff.1 h) x hmem
  exact ⟨y, hy⟩

/-- Each result of a list came of one of its items. -/
theorem exists_item_of_mapM_eq_ok {f : α → Except Fault β} {xs : List α} {ys : List β}
    (h : xs.mapM f = .ok ys) : ∀ y ∈ ys, ∃ x ∈ xs, f x = .ok y :=
  exists_of_forall₂ (mapM_eq_ok_iff.1 h).flip

/-- A list that is mapped to results that are all fine. -/
theorem mapM_of_ok {f : α → Except Fault β} {g : α → β} {xs : List α}
    (hf : ∀ x ∈ xs, f x = .ok (g x)) : xs.mapM f = .ok (xs.map g) := by
  rw [mapM_eq_ok_iff, List.forall₂_map_right_iff, List.forall₂_same]
  exact hf

theorem mapM_map_of_ok {f : β → Except Fault γ} {g : α → β} {h : α → γ}
    (hf : ∀ a, f (g a) = .ok (h a)) (xs : List α) : (xs.map g).mapM f = .ok (xs.map h) := by
  rw [List.mapM_map]
  exact mapM_of_ok fun x _ => hf x

/-- The first item that fails decides. -/
theorem mapM_eq_error {f : α → Except Fault β} {before after : List α} {x : α} {fault : Fault}
    (hbefore : ∀ one ∈ before, ∃ y, f one = .ok y) (hx : f x = .error fault) :
    (before ++ x :: after).mapM f = .error fault := by
  induction before with
  | nil =>
    rw [List.nil_append, List.mapM_cons, hx]
    rfl
  | cons first before ih =>
    obtain ⟨y, hy⟩ := hbefore first List.mem_cons_self
    rw [List.cons_append, List.mapM_cons, hy,
      ih fun one hmem => hbefore one (List.mem_cons_of_mem first hmem)]
    rfl

/-- A list is not mapped to results only when one of its items is the first that fails. -/
theorem exists_of_mapM_eq_error {f : α → Except Fault β} {xs : List α} {fault : Fault}
    (h : xs.mapM f = .error fault) : ∃ before x after, xs = before ++ x :: after ∧
      (∀ one ∈ before, ∃ y, f one = .ok y) ∧ f x = .error fault := by
  induction xs with
  | nil => cases h
  | cons x xs ih =>
    rw [List.mapM_cons] at h
    cases hx : f x with
    | error fault' =>
      rw [hx] at h
      cases h
      exact ⟨[], x, xs, rfl, by simp, hx⟩
    | ok y =>
      have hrest : xs.mapM f = .error fault := by
        cases hxs : xs.mapM f with
        | error fault' =>
          rw [hx, hxs] at h
          exact h
        | ok ys =>
          rw [hx, hxs] at h
          cases h
      obtain ⟨before, bad, after, rfl, hbefore, hbad⟩ := ih hrest
      refine ⟨x :: before, bad, after, rfl, ?_, hbad⟩
      rw [List.forall_mem_cons]
      exact ⟨⟨y, hx⟩, hbefore⟩

/-! ## What results fail with -/

/-- A result fails with faults of one kind only. -/
def FailsOnly (kind : Fault → Prop) (result : Except Fault α) : Prop :=
  ∀ fault, result = .error fault → kind fault

namespace FailsOnly

variable {kind : Fault → Prop}

theorem ok (a : α) : FailsOnly kind (.ok a) := by
  intro fault h
  cases h

theorem error {fault : Fault} (hfault : kind fault) :
    FailsOnly kind (.error fault : Except Fault α) := by
  intro fault' h
  cases h
  exact hfault

theorem bind {result : Except Fault α} {next : α → Except Fault β} (h : FailsOnly kind result)
    (hnext : ∀ a, result = .ok a → FailsOnly kind (next a)) : FailsOnly kind (result >>= next) := by
  cases result with
  | error fault => exact error (h fault rfl)
  | ok a => exact hnext a rfl

theorem map (f : α → β) {result : Except Fault α} (h : FailsOnly kind result) :
    FailsOnly kind (f <$> result) := by
  cases result with
  | error fault => exact error (h fault rfl)
  | ok a => exact ok (f a)

theorem mapM {f : α → Except Fault β} (h : ∀ a, FailsOnly kind (f a)) (xs : List α) :
    FailsOnly kind (xs.mapM f) := by
  induction xs with
  | nil => exact ok []
  | cons x xs ih =>
    rw [List.mapM_cons]
    exact (h x).bind fun y _ => ih.bind fun ys _ => ok (y :: ys)

theorem foldlM {f : β → α → Except Fault β} (h : ∀ b a, FailsOnly kind (f b a)) (xs : List α)
    (b : β) : FailsOnly kind (xs.foldlM f b) := by
  induction xs generalizing b with
  | nil => exact ok b
  | cons x xs ih =>
    rw [List.foldlM_cons]
    exact (h b x).bind fun b' _ => ih b'

end FailsOnly

end AppendLog
