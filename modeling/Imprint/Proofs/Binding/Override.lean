import Mathlib.Data.List.Sort
import Imprint.Proofs.Binding.Written

/-!
# Bindings that override each other

A binding is determined by what its keys are looked up as. The binding of a list of pairs looks a
key up as the value of its last pair, so the pairs of two lists in a row make the binding of the
first list overridden by that of the second. A list of variables is read in the same way: when two
are put together with a `;` between them, the first is read before the second, and then overridden
by it.

## Main results

* `Imprint.Binding.eq_of_get?`: bindings with the same look-ups are the same.
* `Imprint.Binding.get?_override`: what a look-up finds in an overridden binding.
* `Imprint.Binding.resolve_append`: the binding of two lists of variables in a row.
-/

namespace Imprint.Binding

variable {known : Option (List String)} {b c : Binding} {key value : String}

/-! ### Look-ups determine a binding -/

/-- The pairs of a binding are its look-ups. -/
theorem mem_entries_iff : (key, value) ∈ b.entries ↔ b.get? key = some value := by
  rw [get?, List.lookup_eq_some_iff]
  constructor
  · intro h
    obtain ⟨before, after, hsplit⟩ := List.append_of_mem h
    refine ⟨before, after, hsplit, fun p hp => ?_⟩
    have hsorted := b.sorted
    rw [hsplit, List.pairwise_append] at hsorted
    have hlt : p.1 < key := hsorted.2.2 p hp _ List.mem_cons_self
    exact bne_iff_ne.2 fun heq => String.lt_irrefl _ (heq ▸ hlt)
  · rintro ⟨before, after, hsplit, -⟩
    simp [hsplit]

theorem nodup_entries (b : Binding) : b.entries.Nodup :=
  b.sorted.imp fun {d e} (hlt : d.1 < e.1) (heq : d = e) => String.lt_irrefl _ (heq ▸ hlt)

theorem eq_of_get? (h : ∀ k, b.get? k = c.get? k) : b = c := by
  have hmem (e : String × String) : e ∈ b.entries ↔ e ∈ c.entries := by
    rw [mem_entries_iff (b := b), mem_entries_iff (b := c), h]
  have hperm := (List.perm_ext_iff_of_nodup b.nodup_entries c.nodup_entries).2 hmem
  refine eq_of_entries (hperm.eq_of_pairwise (fun d e _ _ hlt hgt => ?_) b.sorted c.sorted)
  exact absurd (String.lt_trans hlt hgt) (String.lt_irrefl _)

theorem mem_keys_iff : key ∈ b.keys ↔ ∃ value, b.get? key = some value := by
  simp [keys, ← mem_entries_iff]

/-! ### Pairs in a row -/

/-- A key that is bound again and again has the value of its last pair. -/
theorem get?_foldl_insert (pairs : List (String × String)) (b : Binding) (k : String) :
    (pairs.foldl (fun b p => b.insert p.1 p.2) b).get? k =
      (pairs.reverse.lookup k).or (b.get? k) := by
  induction pairs generalizing b with
  | nil => rfl
  | cons p pairs ih =>
    obtain ⟨key, value⟩ := p
    rw [List.foldl_cons, ih, get?_insert, List.reverse_cons, List.lookup_append, Option.or_assoc]
    congr 1
    by_cases hk : k = key
    · simp [hk]
    · simp [hk, List.lookup_cons, beq_eq_false_iff_ne.2 hk]

theorem get?_ofList (pairs : List (String × String)) (k : String) :
    (ofList pairs).get? k = pairs.reverse.lookup k := by
  rw [ofList, get?_foldl_insert, get?_empty, Option.or_none]

/-- A key that both bindings have is looked up in the second one. -/
theorem get?_override (b c : Binding) (k : String) :
    (b.override c).get? k = (c.get? k).or (b.get? k) := by
  rw [override, get?_foldl_insert, ← get?_ofList, ofList_entries]

theorem ofList_append (ps qs : List (String × String)) :
    ofList (ps ++ qs) = (ofList ps).override (ofList qs) := by
  refine eq_of_get? fun k => ?_
  rw [get?_override, get?_ofList, get?_ofList, get?_ofList, List.reverse_append,
    List.lookup_append]

/-- The keys of a binding are those of the pairs that it was made from: no key is ever lost. -/
theorem mem_keys_ofList {pairs : List (String × String)} :
    key ∈ (ofList pairs).keys ↔ ∃ p ∈ pairs, p.1 = key := by
  rw [mem_keys_iff, get?_ofList, ← Option.ne_none_iff_exists', ne_eq, List.lookup_eq_none_iff]
  simp only [List.mem_reverse, bne_iff_ne, ne_eq, not_forall, not_not, exists_prop]
  exact exists_congr fun p => and_congr_right fun _ => eq_comm

/-! ### Lists of variables in a row -/

/-- The entries of a list of variables are the texts between its semicolons that are not blank. -/
theorem tokens_intercalate {entries : List (List Char)} (hne : entries ≠ [])
    (h : ∀ t ∈ entries, ';' ∉ t) :
    tokens (String.ofList (List.intercalate [';'] entries)) =
      entries.filter (!Text.isAllBlank ·) := by
  rw [tokens, String.toList_ofList, Text.segments_intercalate hne h]

theorem tokens_append (u v : String) : tokens (u ++ ";" ++ v) = tokens u ++ tokens v := by
  have hsemicolon : (u ++ ";" ++ v).toList = u.toList ++ ';' :: v.toList := by
    simp [String.toList_append]
  rw [tokens, tokens, tokens, hsemicolon, Text.segments_append_sep, List.filter_append]

/-- Two lists of variables in a row are read from left to right, and the second overrides the
first. -/
theorem resolve_append (known : Option (List String)) (u v : String) :
    resolve known (u ++ ";" ++ v) = (do
      let x ← resolve known u
      let y ← resolve known v
      return x.override y) := by
  simp only [resolve, tokens_append, List.mapM_append, bind_assoc]
  cases (tokens u).mapM (entryOf known) with
  | error e => rfl
  | ok ps =>
    cases (tokens v).mapM (entryOf known) with
    | error e => rfl
    | ok qs => exact congrArg Except.ok (ofList_append ps qs)

end Imprint.Binding
