import Mathlib.Data.List.Forall2

/-!
# Results that may be errors

What is known of the parts when a computation in steps gives a value or an error: each step in front
has given a value, and so has each member of a list that was gone through.

## Main results

* `Imprint.bind_eq_ok`, `Imprint.bind_eq_error`: two steps.
* `Imprint.mapM_eq_ok_iff`, `Imprint.mapM_eq_error_iff`: a step for each member of a list.
-/

namespace Imprint

variable {α β δ ε : Type}

theorem bind_eq_ok {x : Except ε α} {f : α → Except ε β} {b : β} :
    (x >>= f) = .ok b ↔ ∃ a, x = .ok a ∧ f a = .ok b := by
  cases x <;> simp [bind, Except.bind]

theorem eq_ok_of_toOption {x : Except ε α} {a : α} (h : x.toOption = some a) : x = .ok a := by
  cases x <;> simp_all [Except.toOption]

theorem eq_pair_of_toOption {x : Except ε α × β} {a : α} (h : x.1.toOption = some a) :
    x = (.ok a, x.2) :=
  Prod.ext (eq_ok_of_toOption h) rfl

theorem mapError_eq_ok {x : Except ε α} {f : ε → δ} {a : α} :
    x.mapError f = .ok a ↔ x = .ok a := by
  cases x <;> simp [Except.mapError]

theorem bind_eq_error {x : Except ε α} {f : α → Except ε β} {e : ε} :
    (x >>= f) = .error e ↔ x = .error e ∨ ∃ a, x = .ok a ∧ f a = .error e := by
  cases x <;> simp [bind, Except.bind]

theorem mapError_eq_error {x : Except ε α} {f : ε → δ} {e : δ} :
    x.mapError f = .error e ↔ ∃ e', x = .error e' ∧ f e' = e := by
  cases x <;> simp [Except.mapError]

/-- Going through a list gives the values of its members, when each has one. -/
theorem mapM_eq_ok_iff {f : α → Except ε β} {xs : List α} {ys : List β} :
    xs.mapM f = .ok ys ↔ List.Forall₂ (fun x y => f x = .ok y) xs ys := by
  induction xs generalizing ys with
  | nil => simp [pure, Except.pure, eq_comm]
  | cons x xs ih =>
    rw [List.mapM_cons, bind_eq_ok]
    constructor
    · rintro ⟨y, hy, h⟩
      obtain ⟨zs, hzs, h⟩ := bind_eq_ok.1 h
      obtain rfl : y :: zs = ys := by simpa [pure, Except.pure] using h
      exact .cons hy (ih.1 hzs)
    · rintro (_ | @⟨_, y, _, zs, hy, hzs⟩)
      exact ⟨y, hy, bind_eq_ok.2 ⟨zs, ih.2 hzs, rfl⟩⟩

/-- Going through a list fails at the first member that has no value. -/
theorem mapM_eq_error_iff {f : α → Except ε β} {xs : List α} {e : ε} :
    xs.mapM f = .error e ↔ ∃ before x after ys, xs = before ++ x :: after ∧
      List.Forall₂ (fun x y => f x = .ok y) before ys ∧ f x = .error e := by
  induction xs with
  | nil => simp [pure, Except.pure]
  | cons x xs ih =>
    rw [List.mapM_cons, bind_eq_error]
    constructor
    · rintro (hx | ⟨y, hy, h⟩)
      · exact ⟨[], x, xs, [], rfl, .nil, hx⟩
      · have hxs : xs.mapM f = .error e := by
          rcases bind_eq_error.1 h with hxs | ⟨zs, -, h⟩
          · exact hxs
          · cases h
        obtain ⟨before, z, after, ys, rfl, hbefore, hz⟩ := ih.1 hxs
        exact ⟨x :: before, z, after, y :: ys, rfl, .cons hy hbefore, hz⟩
    · rintro ⟨before, z, after, ys, hsplit, hbefore, hz⟩
      cases hbefore with
      | nil =>
        obtain ⟨rfl, rfl⟩ : x = z ∧ xs = after := by simpa using hsplit
        exact .inl hz
      | @cons w y before ys hy hbefore =>
        obtain ⟨rfl, rfl⟩ : x = w ∧ xs = before ++ z :: after := by simpa using hsplit
        have hxs := ih.2 ⟨before, z, after, ys, rfl, hbefore, hz⟩
        exact .inr ⟨y, hy, bind_eq_error.2 (.inl hxs)⟩

/-- Going through a list gives the values of its members, when they are known. -/
theorem mapM_eq_some_map {f : α → Option β} {g : α → β} {xs : List α}
    (h : ∀ x ∈ xs, f x = some (g x)) : xs.mapM f = some (xs.map g) := by
  induction xs with
  | nil => rfl
  | cons x xs ih =>
    rw [List.mapM_cons, h x List.mem_cons_self, ih fun y hy => h y (List.mem_cons_of_mem _ hy)]
    rfl

/-- When going through a list gives values, each member has one of them. -/
theorem exists_mem_of_mapM_eq_some {f : α → Option β} {xs : List α} {ys : List β} {x : α}
    (h : xs.mapM f = some ys) (hx : x ∈ xs) : ∃ y ∈ ys, f x = some y := by
  induction xs generalizing ys with
  | nil => cases hx
  | cons w xs ih =>
    obtain ⟨y, hy, zs, hzs, rfl⟩ :
        ∃ y, f w = some y ∧ ∃ zs, xs.mapM f = some zs ∧ y :: zs = ys := by
      simpa [Option.bind_eq_some_iff] using h
    rcases List.mem_cons.1 hx with rfl | hx
    · exact ⟨y, List.mem_cons_self, hy⟩
    · obtain ⟨z, hz, heq⟩ := ih hzs hx
      exact ⟨z, List.mem_cons_of_mem y hz, heq⟩

/-- The last member of a list with a property. -/
theorem exists_last_of_exists {P : α → Prop} {xs : List α} (h : ∃ x ∈ xs, P x) :
    ∃ before x after, xs = before ++ x :: after ∧ P x ∧ ∀ y ∈ after, ¬ P y := by
  induction xs with
  | nil => simp at h
  | cons x xs ih =>
    by_cases hxs : ∃ y ∈ xs, P y
    · obtain ⟨before, y, after, rfl, hy, hafter⟩ := ih hxs
      exact ⟨x :: before, y, after, rfl, hy, hafter⟩
    · have hx : P x := by simpa [hxs] using h
      exact ⟨[], x, xs, rfl, hx, fun y hy hP => hxs ⟨y, hy, hP⟩⟩

/-- Where the second of two related lists is cut at a member, the first can be cut, too. -/
theorem exists_cut_of_forall₂ {R : α → β → Prop} {xs : List α} {before after : List β} {y : β}
    (h : List.Forall₂ R xs (before ++ y :: after)) :
    ∃ front x back, xs = front ++ x :: back ∧ List.Forall₂ R front before ∧ R x y ∧
      List.Forall₂ R back after := by
  induction before generalizing xs with
  | nil =>
    cases h with
    | cons hr hrest => exact ⟨[], _, _, rfl, .nil, hr, hrest⟩
  | cons z before ih =>
    cases h with
    | cons hr hrest =>
      obtain ⟨front, x, back, rfl, hfront, hx, hback⟩ := ih hrest
      exact ⟨_ :: front, x, back, rfl, .cons hr hfront, hx, hback⟩

/-- What a member of the second of two related lists is related to. -/
theorem exists_mem_of_forall₂ {R : α → β → Prop} {xs : List α} {ys : List β}
    (h : List.Forall₂ R xs ys) {y : β} (hy : y ∈ ys) : ∃ x ∈ xs, R x y := by
  induction h with
  | nil => cases hy
  | cons hr _ ih =>
    rcases List.mem_cons.1 hy with rfl | hy
    · exact ⟨_, List.mem_cons_self, hr⟩
    · obtain ⟨x, hx, hr'⟩ := ih hy
      exact ⟨x, List.mem_cons_of_mem _ hx, hr'⟩

end Imprint
