import Imprint.Text.Region
import Mathlib.Data.List.Infix

/-!
# Cutting a text step by step

The regions of a text begin with what the reader finds at its front, followed by the regions of what
comes behind it, or else with one plain character. So a text can be put together from parts: parts
that are found, and parts inside which nothing is found.

## Main definitions

* `Imprint.Text.Divided`: a text and its regions, one after another.
* `Imprint.Text.Detached`: a text in which nothing that is found depends on what follows.

## Main results

* `Imprint.Text.divided_regions`: the regions of a text divide it.
* `Imprint.Text.regions_append_found`: a part that is found is the first region.
* `Imprint.Text.regions_append_plain`: a part in which nothing is found is put in front.
* `Imprint.Text.findAll_append_plain`, `Imprint.Text.removeAll_append_plain`: a part in which
  nothing is found.
* `Imprint.Text.Detached.findAll_append`, `Imprint.Text.Detached.removeAll_append`: two texts of
  which the second has no part in what is found in the first.
-/

namespace Imprint.Text

variable {α : Type} {read? : List Char → Option (α × List Char)} {c : Char} {m r s t u : List Char}
  {a : α}

/-- An end of a text that is put together from two is one of the second, or goes back into the
first. -/
theorem suffix_append_cases {v : List Char} (h : v <:+ s ++ u) :
    v <:+ u ∨ ∃ w, w <:+ s ∧ w ≠ [] ∧ v = w ++ u := by
  obtain ⟨w, hw⟩ := h
  rcases List.append_eq_append_iff.1 hw with ⟨_ | ⟨c, a⟩, rfl, rfl⟩ | ⟨a, rfl, rfl⟩
  · exact .inl List.suffix_rfl
  · exact .inr ⟨c :: a, List.suffix_append _ _, by simp, rfl⟩
  · exact .inl (List.suffix_append _ _)

/-- Two characters stand next to each other in one of two texts, or where they meet. -/
theorem pair_infix_append {a b : Char} :
    [a, b] <:+: s ++ u ↔
      [a, b] <:+: s ∨ [a, b] <:+: u ∨ s.getLast? = some a ∧ u.head? = some b := by
  induction s with
  | nil => simp
  | cons c s ih =>
    rw [List.cons_append, List.infix_cons_iff, ih, List.infix_cons_iff]
    cases s with
    | nil =>
      cases u with
      | nil => simp [List.cons_prefix_cons]
      | cons d u =>
        simp only [List.nil_append, List.cons_prefix_cons, List.nil_prefix, List.prefix_nil,
          List.infix_nil, List.getLast?_singleton, List.getLast?_nil, List.head?_cons,
          Option.some.injEq, reduceCtorEq, and_true, and_false, false_and, or_false, false_or]
        rw [or_comm, eq_comm, eq_comm (a := b)]
    | cons d s =>
      simp [List.cons_prefix_cons, or_assoc]

/-! ### The first region -/

theorem regionsFrom_eq_drop (read? : List Char → Option (α × List Char)) (k : Nat)
    (s : List Char) : regionsFrom read? k s = regions read? (s.drop k) := by
  induction s generalizing k with
  | nil => cases k <;> rfl
  | cons c r ih =>
    cases k with
    | zero => rfl
    | succ k => exact ih k

theorem regions_cons_none (h : read? (c :: r) = none) :
    regions read? (c :: r) = Region.consPlain c (regions read? r) := by
  simp only [regions, regionsFrom, h]

/-- A part that is found is the first region. -/
theorem regions_append_found (hm : m ≠ []) (h : read? (m ++ u) = some (a, u)) :
    regions read? (m ++ u) = .found a :: regions read? u := by
  obtain ⟨c, m, rfl⟩ := List.exists_cons_of_ne_nil hm
  rw [List.cons_append] at h ⊢
  have hlength : (m ++ u).length - u.length = m.length := by simp
  simp only [regions, regionsFrom, h, hlength]
  rw [regionsFrom_eq_drop, List.drop_left]
  rfl

/-- A part at none of whose places anything is found is put in front of the regions. -/
theorem regions_append_plain (h : ∀ v, v <:+ m → v ≠ [] → read? (v ++ u) = none) :
    regions read? (m ++ u) = m.foldr Region.consPlain (regions read? u) := by
  induction m with
  | nil => rfl
  | cons c m ih =>
    have hc : read? (c :: (m ++ u)) = none := h (c :: m) List.suffix_rfl (by simp)
    rw [List.cons_append, regions_cons_none hc,
      ih fun v hv => h v (hv.trans (List.suffix_cons c m)), List.foldr_cons]

theorem foldr_consPlain_plain (s t : List Char) (rs : List (Region α)) :
    s.foldr Region.consPlain (.plain t :: rs) = .plain (s ++ t) :: rs := by
  induction s with
  | nil => rfl
  | cons c s ih =>
    rw [List.foldr_cons, ih]
    rfl

theorem foldr_consPlain_of_not_plain {rs : List (Region α)} (hs : s ≠ [])
    (hrs : ∀ t rs', rs ≠ .plain t :: rs') :
    s.foldr Region.consPlain rs = .plain s :: rs := by
  induction s with
  | nil => exact absurd rfl hs
  | cons c s ih =>
    rw [List.foldr_cons]
    by_cases hnil : s = []
    · subst hnil
      rcases rs with _ | ⟨t | a, rs⟩
      · rfl
      · exact absurd rfl (hrs t rs)
      · rfl
    · rw [ih hnil]
      rfl

theorem found_mem_foldr_consPlain {a : α} {rs : List (Region α)} (h : .found a ∈ rs) :
    .found a ∈ s.foldr Region.consPlain rs := by
  induction s with
  | nil => exact h
  | cons c s ih =>
    rw [List.foldr_cons]
    generalize s.foldr Region.consPlain rs = rs at ih
    rcases rs with _ | ⟨t | b, rs⟩
    · cases ih
    · simpa [Region.consPlain] using ih
    · exact List.mem_cons_of_mem _ ih

/-! ### The regions one after another -/

/-- A text and its regions: what is found at its front, or a plain stretch up to where something is
found or to the end, and then the regions of what comes behind. -/
inductive Divided (read? : List Char → Option (α × List Char)) :
    List Char → List (Region α) → Prop where
  | nil : Divided read? [] []
  | found {m r : List Char} {a : α} {rs : List (Region α)} (hm : m ≠ [])
      (h : read? (m ++ r) = some (a, r)) (hr : Divided read? r rs) :
      Divided read? (m ++ r) (.found a :: rs)
  | plain {t r : List Char} {rs : List (Region α)} (ht : t ≠ [])
      (hnone : ∀ v, v <:+ t → v ≠ [] → read? (v ++ r) = none) (hr : Divided read? r rs)
      (hrs : ∀ u rs', rs ≠ .plain u :: rs') : Divided read? (t ++ r) (.plain t :: rs)

theorem Divided.cons_of_none {rs : List (Region α)} (h : Divided read? s rs)
    (hc : read? (c :: s) = none) : Divided read? (c :: s) (Region.consPlain c rs) := by
  have hsingle {v : List Char} (hv : v <:+ [c]) (hne : v ≠ []) : v = [c] :=
    (List.suffix_cons_iff.1 hv).resolve_right fun hnil => hne (List.suffix_nil.1 hnil)
  cases h with
  | nil =>
    refine .plain (t := [c]) (r := []) (by simp) (fun v hv hne => ?_) .nil (by simp)
    rw [hsingle hv hne]
    exact hc
  | found hm hread hr =>
    refine .plain (t := [c]) (by simp) (fun v hv hne => ?_) (.found hm hread hr) (by simp)
    rw [hsingle hv hne]
    exact hc
  | @plain t r rs ht hnone hr hrs =>
    refine .plain (t := c :: t) (by simp) (fun v hv hne => ?_) hr hrs
    rcases List.suffix_cons_iff.1 hv with rfl | hv
    · exact hc
    · exact hnone v hv hne

/-- The regions of a text divide it, if the reader takes characters off the front. -/
theorem divided_regions
    (hread : ∀ {s a r}, read? s = some (a, r) → ∃ m, m ≠ [] ∧ s = m ++ r) (s : List Char) :
    Divided read? s (regions read? s) := by
  induction hn : s.length using Nat.strongRecOn generalizing s with
  | ind n ih =>
    subst hn
    cases s with
    | nil => exact .nil
    | cons c s =>
      cases hc : read? (c :: s) with
      | none =>
        rw [regions_cons_none hc]
        exact (ih _ (by simp) s rfl).cons_of_none hc
      | some x =>
        obtain ⟨a, r⟩ := x
        obtain ⟨m, hm, heq⟩ := hread hc
        rw [heq] at hc ⊢
        rw [regions_append_found hm hc]
        refine .found hm hc (ih _ ?_ r rfl)
        rw [heq, List.length_append]
        exact Nat.lt_add_of_pos_left (List.length_pos_iff.2 hm)

/-! ### What is found and what is plain -/

theorem findAll_cons_none (h : read? (c :: r) = none) :
    findAll read? (c :: r) = findAll read? r := by
  rw [findAll, regions_cons_none h, findAll]
  rcases regions read? r with _ | ⟨_ | _, rest⟩ <;> rfl

theorem removeAll_cons_none (h : read? (c :: r) = none) :
    removeAll read? (c :: r) = c :: removeAll read? r := by
  rw [removeAll, regions_cons_none h, removeAll]
  rcases regions read? r with _ | ⟨_ | _, rest⟩ <;> rfl

theorem findAll_append_found (hm : m ≠ []) (h : read? (m ++ u) = some (a, u)) :
    findAll read? (m ++ u) = a :: findAll read? u := by
  rw [findAll, regions_append_found hm h]
  rfl

theorem removeAll_append_found (hm : m ≠ []) (h : read? (m ++ u) = some (a, u)) :
    removeAll read? (m ++ u) = removeAll read? u := by
  rw [removeAll, regions_append_found hm h]
  rfl

/-- Nothing is found in a part at none of whose places anything is found. -/
theorem findAll_append_plain (h : ∀ v, v <:+ m → v ≠ [] → read? (v ++ u) = none) :
    findAll read? (m ++ u) = findAll read? u := by
  induction m with
  | nil => rfl
  | cons c m ih =>
    have hc : read? (c :: (m ++ u)) = none := h (c :: m) List.suffix_rfl (by simp)
    rw [List.cons_append, findAll_cons_none hc]
    exact ih fun v hv => h v (hv.trans (List.suffix_cons c m))

/-- A part at none of whose places anything is found stays. -/
theorem removeAll_append_plain (h : ∀ v, v <:+ m → v ≠ [] → read? (v ++ u) = none) :
    removeAll read? (m ++ u) = m ++ removeAll read? u := by
  induction m with
  | nil => rfl
  | cons c m ih =>
    have hc : read? (c :: (m ++ u)) = none := h (c :: m) List.suffix_rfl (by simp)
    rw [List.cons_append, removeAll_cons_none hc,
      ih fun v hv => h v (hv.trans (List.suffix_cons c m))]
    rfl

/-! ### What follows a text -/

/-- What follows a text has no part in what is found in it. -/
def Detached (read? : List Char → Option (α × List Char)) (s u : List Char) : Prop :=
  ∀ v, v <:+ s → v ≠ [] → read? (v ++ u) = (read? v).map fun x => (x.1, x.2 ++ u)

instance [DecidableEq α] (s u : List Char) : Decidable (Detached read? s u) :=
  decidable_of_iff (∀ v ∈ s.tails, v ≠ [] →
    read? (v ++ u) = (read? v).map fun x => (x.1, x.2 ++ u)) (by simp [Detached, List.mem_tails])

theorem Detached.of_suffix (h : Detached read? s u) (hr : r <:+ s) : Detached read? r u :=
  fun v hv => h v (hv.trans hr)

theorem Detached.orElse {read?' : List Char → Option (α × List Char)} (h : Detached read? s u)
    (h' : Detached read?' s u) : Detached (fun v => read? v <|> read?' v) s u := by
  intro v hv hne
  simp only [h v hv hne, h' v hv hne]
  cases read? v <;> rfl

theorem Detached.eq_some (h : Detached read? (m ++ r) u) (hm : m ≠ [])
    (hread : read? (m ++ r) = some (a, r)) : read? (m ++ (r ++ u)) = some (a, r ++ u) := by
  rw [← List.append_assoc, h _ List.suffix_rfl (by simp [hm]), hread]
  rfl

theorem Detached.eq_none (h : Detached read? (t ++ r) u)
    (hnone : ∀ v, v <:+ t → v ≠ [] → read? (v ++ r) = none) :
    ∀ v, v <:+ t → v ≠ [] → read? (v ++ (r ++ u)) = none := by
  rintro v ⟨x, rfl⟩ hne
  have hsuffix : v ++ r <:+ x ++ v ++ r := ⟨x, by simp⟩
  rw [← List.append_assoc, h _ hsuffix (by simp [hne]), hnone v (List.suffix_append x v) hne]
  rfl

/-- What is found in two texts, one after the other. -/
theorem Detached.findAll_append {rs : List (Region α)} (h : Detached read? s u)
    (hs : Divided read? s rs) : findAll read? (s ++ u) = findAll read? s ++ findAll read? u := by
  induction hs with
  | nil => rfl
  | @found m r a rs hm hread hr ih =>
    rw [List.append_assoc, findAll_append_found hm (h.eq_some hm hread),
      findAll_append_found hm hread, ih (h.of_suffix (List.suffix_append m r)), List.cons_append]
  | @plain t r rs ht hnone hr hrs ih =>
    rw [List.append_assoc, findAll_append_plain (h.eq_none hnone), findAll_append_plain hnone,
      ih (h.of_suffix (List.suffix_append t r))]

/-- What is plain in two texts, one after the other. -/
theorem Detached.removeAll_append {rs : List (Region α)} (h : Detached read? s u)
    (hs : Divided read? s rs) :
    removeAll read? (s ++ u) = removeAll read? s ++ removeAll read? u := by
  induction hs with
  | nil => rfl
  | @found m r a rs hm hread hr ih =>
    rw [List.append_assoc, removeAll_append_found hm (h.eq_some hm hread),
      removeAll_append_found hm hread, ih (h.of_suffix (List.suffix_append m r))]
  | @plain t r rs ht hnone hr hrs ih =>
    rw [List.append_assoc, removeAll_append_plain (h.eq_none hnone), removeAll_append_plain hnone,
      ih (h.of_suffix (List.suffix_append t r)), List.append_assoc]

end Imprint.Text
