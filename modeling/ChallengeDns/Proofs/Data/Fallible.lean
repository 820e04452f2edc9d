import Mathlib

/-!
# Steps that may fail

A sequence of steps succeeds exactly when every single one does.  Going through a list with a step
that may fail then gives the results in order.
-/
namespace ChallengeDns

variable {α β ε : Type}

theorem bind_except_ok {x : Except ε α} {f : α → Except ε β} {b : β} :
    x >>= f = .ok b ↔ ∃ a, x = .ok a ∧ f a = .ok b := by
  cases x <;> simp [bind, Except.bind]

theorem toOption_bind (x : Except ε α) (f : α → Except ε β) :
    (x >>= f).toOption = x.toOption.bind fun a => (f a).toOption := by
  cases x <;> rfl

theorem mapError_except_ok {ε' : Type} {x : Except ε α} {f : ε → ε'} {a : α} :
    x.mapError f = .ok a ↔ x = .ok a := by
  cases x <;> simp [Except.mapError]

theorem mapM_except_cons (f : α → Except ε β) (x : α) (xs : List α) :
    (x :: xs).mapM f = (f x).bind fun y => (xs.mapM f).map (y :: ·) := by
  rw [List.mapM_cons]
  cases f x with
  | error e => rfl
  | ok y => cases xs.mapM f <;> rfl

theorem mapM_except_ok {f : α → Except ε β} {xs : List α} {ys : List β} :
    xs.mapM f = .ok ys ↔ List.Forall₂ (fun x y => f x = .ok y) xs ys := by
  induction xs generalizing ys with
  | nil =>
    change Except.ok [] = Except.ok ys ↔ _
    rw [List.forall₂_nil_left_iff, Except.ok.injEq, eq_comm]
  | cons x xs ih =>
    rw [mapM_except_cons, List.forall₂_cons_left_iff]
    constructor
    · intro done
      cases first : f x with
      | error e => simp [first, Except.bind] at done
      | ok y =>
        cases rest : xs.mapM f with
        | error e => simp [first, rest, Except.bind, Except.map] at done
        | ok zs =>
          simp only [first, rest, Except.bind, Except.map, Except.ok.injEq] at done
          exact ⟨y, zs, rfl, ih.mp rest, done.symm⟩
    · rintro ⟨y, zs, first, rest, rfl⟩
      rw [first, ih.mpr rest]
      rfl

theorem exists_mapM_except {f : α → Except ε β} {xs : List α}
    (succeed : ∀ x ∈ xs, ∃ y, f x = .ok y) : ∃ ys, xs.mapM f = .ok ys := by
  induction xs with
  | nil => exact ⟨[], rfl⟩
  | cons x xs ih =>
    obtain ⟨y, first⟩ := succeed x List.mem_cons_self
    obtain ⟨ys, rest⟩ := ih fun z member => succeed z (List.mem_cons_of_mem x member)
    exact ⟨y :: ys, by rw [mapM_except_cons, first, rest]; rfl⟩

theorem mem_mapM_except {f : α → Except ε β} {xs : List α} {ys : List β}
    (done : xs.mapM f = .ok ys) {y : β} (member : y ∈ ys) : ∃ x ∈ xs, f x = .ok y := by
  have related := mapM_except_ok.mp done
  clear done
  induction related with
  | nil => cases member
  | @cons x z xs zs first _ ih =>
    rcases List.mem_cons.mp member with rfl | later
    · exact ⟨x, List.mem_cons_self, first⟩
    · obtain ⟨w, inside, step⟩ := ih later
      exact ⟨w, List.mem_cons_of_mem x inside, step⟩

theorem exists_mem_mapM_except {f : α → Except ε β} {xs : List α} {ys : List β}
    (done : xs.mapM f = .ok ys) {x : α} (member : x ∈ xs) : ∃ y ∈ ys, f x = .ok y := by
  have related := mapM_except_ok.mp done
  clear done
  induction related with
  | nil => cases member
  | @cons z y xs ys first _ ih =>
    rcases List.mem_cons.mp member with rfl | later
    · exact ⟨y, List.mem_cons_self, first⟩
    · obtain ⟨w, inside, step⟩ := ih later
      exact ⟨w, List.mem_cons_of_mem y inside, step⟩

/-- All steps succeed, or the first one that fails tells what went wrong. -/
theorem mapM_except_cases (f : α → Except ε β) (xs : List α) :
    (∃ ys, xs.mapM f = .ok ys ∧ List.Forall₂ (fun x y => f x = .ok y) xs ys) ∨
      ∃ (i : Nat) (x : α) (e : ε), xs[i]? = some x ∧ f x = .error e ∧ xs.mapM f = .error e ∧
        ∀ j < i, ∀ y, xs[j]? = some y → ∃ b, f y = .ok b := by
  induction xs with
  | nil => exact Or.inl ⟨[], rfl, .nil⟩
  | cons x xs ih =>
    rw [mapM_except_cons]
    cases first : f x with
    | error e => exact Or.inr ⟨0, x, e, rfl, first, rfl, nofun⟩
    | ok y =>
      rcases ih with ⟨ys, done, related⟩ | ⟨i, z, e, inside, wrong, stopped, before⟩
      · exact Or.inl ⟨y :: ys, by rw [done]; rfl, .cons first related⟩
      · refine Or.inr ⟨i + 1, z, e, inside, wrong, by rw [stopped]; rfl, ?_⟩
        intro j less u here
        cases j with
        | zero =>
          cases here
          exact ⟨y, first⟩
        | succ j => exact before j (Nat.lt_of_succ_lt_succ less) u here

/-- What is found first in two lists that belong together belongs together. -/
theorem rel_find? {R : α → β → Prop} {p : α → Bool} {q : β → Bool}
    (agree : ∀ a b, R a b → p a = q b) {as : List α} {bs : List β}
    (related : List.Forall₂ R as bs) :
    Option.Rel R (as.find? p) (bs.find? q) := by
  induction related with
  | nil => exact .none
  | @cons a b as bs first _ ih =>
    rw [List.find?_cons, List.find?_cons, agree a b first]
    cases q b
    · exact ih
    · exact .some first

/-- Two lists that belong together repeat themselves at the same places if things are told apart on
one side exactly if they are on the other. -/
theorem rel_eraseDups [DecidableEq α] [DecidableEq β] {R : α → β → Prop}
    (told : ∀ a b a' b', R a b → R a' b' → (a = a' ↔ b = b')) {as : List α} {bs : List β}
    (related : List.Forall₂ R as bs) : List.Forall₂ R as.eraseDups bs.eraseDups := by
  induction size : as.length using Nat.strong_induction_on generalizing as bs with
  | _ n ih =>
    subst size
    cases related with
    | nil => exact .nil
    | @cons a b as bs first rest =>
      rw [List.eraseDups_cons, List.eraseDups_cons]
      refine .cons first (ih _ ?_ (List.rel_filter ?_ rest) rfl)
      · exact Nat.lt_succ_of_le (List.length_filter_le _ _)
      · intro c d later
        simp [told c d a b later first]

end ChallengeDns
