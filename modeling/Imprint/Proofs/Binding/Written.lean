import Imprint.Binding
import Imprint.Proofs.Results
import Imprint.Proofs.Text.Lines
import Imprint.Proofs.Text.Trim

/-!
# Bindings as lists of variables

A binding is written as a list of variables by writing each pair with an `=` in it and a `;` after
it. The list is read back as the same binding when no key and no value holds a character at which
the list is cut, and none has a blank character at an end. Every binding that is read from a list of
variables on one line is of this kind.

## Main definitions

* `Imprint.Binding.written`: a binding as a list of variables.
* `Imprint.Binding.IsKey`, `Imprint.Binding.IsValue`, `Imprint.Binding.Writable`: what can be
  written.

## Main results

* `Imprint.Binding.resolve_written`: reading what was written.
* `Imprint.Binding.writable_of_resolve`: what is read can be written.
-/

namespace Imprint.Binding

variable {known : Option (List String)} {b : Binding} {e : String × String} {vars : String}

/-! ### Writing -/

/-- A key that can be written. -/
structure IsKey (key : String) : Prop where
  nonempty : key ≠ ""
  trimmed : Text.trim key.toList = key.toList
  no_equals : '=' ∉ key.toList
  no_semicolon : ';' ∉ key.toList
  no_lineFeed : '\n' ∉ key.toList

/-- A value that can be written. -/
structure IsValue (value : String) : Prop where
  trimmed : Text.trim value.toList = value.toList
  no_semicolon : ';' ∉ value.toList
  no_lineFeed : '\n' ∉ value.toList

/-- A binding all of whose keys and values can be written. -/
def Writable (b : Binding) : Prop :=
  ∀ e ∈ b.entries, IsKey e.1 ∧ IsValue e.2

/-- A pair as an entry of a list of variables. -/
def writtenEntry (e : String × String) : List Char :=
  e.1.toList ++ '=' :: e.2.toList

/-- A binding as a list of variables. The list of no variable is a lone separator. -/
def written (b : Binding) : List Char :=
  if b.isEmpty then [';'] else (b.entries.map writtenEntry).flatMap (· ++ [';'])

/-! ### The pairs of a binding -/

/-- A pair whose key comes after all others goes to the end. -/
theorem insertEntry_of_lt {es : List (String × String)} {key value : String}
    (h : ∀ e ∈ es, e.1 < key) : insertEntry key value es = es ++ [(key, value)] := by
  induction es with
  | nil => rfl
  | cons e es ih =>
    have hlt : e.1 < key := h e List.mem_cons_self
    have hnot : ¬ key < e.1 := fun hgt => absurd (String.lt_trans hlt hgt) (String.lt_irrefl _)
    have hne : key ≠ e.1 := fun heq => absurd (heq ▸ hlt) (String.lt_irrefl _)
    simp [insertEntry, hnot, hne, ih fun e' he' => h e' (List.mem_cons_of_mem _ he')]

theorem entries_foldl_insert {es : List (String × String)}
    (h : (b.entries ++ es).Pairwise (fun a b => a.1 < b.1)) :
    (es.foldl (fun b p => b.insert p.1 p.2) b).entries = b.entries ++ es := by
  induction es generalizing b with
  | nil => simp
  | cons e es ih =>
    have hlt : ∀ e' ∈ b.entries, e'.1 < e.1 := fun e' he' =>
      (List.pairwise_append.1 h).2.2 e' he' e List.mem_cons_self
    have hentries : (b.insert e.1 e.2).entries = b.entries ++ [e] := insertEntry_of_lt hlt
    have hsorted : ((b.insert e.1 e.2).entries ++ es).Pairwise (fun a b => a.1 < b.1) := by
      simpa [hentries] using h
    rw [List.foldl_cons, ih hsorted, hentries]
    simp

theorem eq_of_entries {b c : Binding} (h : b.entries = c.entries) : b = c := by
  cases b
  cases c
  simpa using h

/-- A binding is that of its pairs. -/
theorem ofList_entries (b : Binding) : ofList b.entries = b :=
  eq_of_entries (entries_foldl_insert (b := empty) b.sorted)

theorem mem_entries_foldl_insert {pairs : List (String × String)}
    (h : e ∈ (pairs.foldl (fun b p => b.insert p.1 p.2) b).entries) :
    e ∈ b.entries ∨ e ∈ pairs := by
  induction pairs generalizing b with
  | nil => exact .inl h
  | cons p pairs ih =>
    rcases ih h with h | h
    · rcases mem_insertEntry h with rfl | h
      · exact .inr List.mem_cons_self
      · exact .inl h
    · exact .inr (List.mem_cons_of_mem _ h)

/-- The pairs of a binding are among those that it was made from. -/
theorem mem_of_mem_entries_ofList {pairs : List (String × String)}
    (h : e ∈ (ofList pairs).entries) : e ∈ pairs := by
  rcases mem_entries_foldl_insert h with h | h
  · cases h
  · exact h

/-! ### Reading what was written -/

/-- An entry is read as the pair that was written. -/
theorem entryOf_writtenEntry (hkey : IsKey e.1) (hvalue : IsValue e.2)
    (hknown : allowed known e.1 = true) : entryOf known (writtenEntry e) = .ok e := by
  have hcut : Text.cutAt? '=' (writtenEntry e) = some (e.1.toList, e.2.toList) := by
    refine Text.cutWhere?_append (fun c hc => ?_) (by simp) _
    exact beq_eq_false_iff_ne.2 fun h => hkey.no_equals (h ▸ hc)
  simp [entryOf, hcut, hkey.trimmed, hvalue.trimmed, hkey.nonempty, hknown]

/-- The entries of a written binding are its pairs as they were written. -/
theorem tokens_written (h : b.Writable) :
    tokens (String.ofList b.written) = b.entries.map writtenEntry := by
  have hsemicolon : ∀ t ∈ b.entries.map writtenEntry, ';' ∉ t := by
    intro t ht
    obtain ⟨e, he, rfl⟩ := List.mem_map.1 ht
    obtain ⟨hkey, hvalue⟩ := h e he
    simp [writtenEntry, hkey.no_semicolon, hvalue.no_semicolon]
  have hkept : ∀ t ∈ b.entries.map writtenEntry, (!Text.isAllBlank t) = true := by
    intro t ht
    obtain ⟨e, -, rfl⟩ := List.mem_map.1 ht
    have hequals : Text.isBlank '=' = false := by decide
    simp [Text.isAllBlank, writtenEntry, hequals]
  have hsegments : Text.segments ';' ((b.entries.map writtenEntry).flatMap (· ++ [';'])) =
      b.entries.map writtenEntry ++ [[]] := by
    have := Text.segments_flatMap_append hsemicolon []
    rwa [List.append_nil] at this
  by_cases hempty : b.isEmpty = true
  · have hnil : b.entries = [] := List.isEmpty_iff.1 hempty
    simp [tokens, written, hempty, hnil, Text.segments, Text.isAllBlank]
  · rw [tokens, written, if_neg hempty, String.toList_ofList, hsegments, List.filter_append,
      List.filter_eq_self.2 hkept]
    simp [Text.isAllBlank]

/-- A written binding is read back. -/
theorem resolve_written (h : b.Writable) (hknown : ∀ k ∈ b.keys, allowed known k = true) :
    resolve known (String.ofList b.written) = .ok b := by
  have hpairs : (b.entries.map writtenEntry).mapM (entryOf known) = .ok b.entries := by
    rw [mapM_eq_ok_iff, List.forall₂_map_left_iff, List.forall₂_same]
    intro e he
    obtain ⟨hkey, hvalue⟩ := h e he
    exact entryOf_writtenEntry hkey hvalue (hknown e.1 (List.mem_map_of_mem he))
  rw [resolve, tokens_written h, hpairs]
  exact congrArg Except.ok (ofList_entries b)

/-! ### The shape of a written binding -/

theorem getLast?_written (b : Binding) : b.written.getLast? = some ';' := by
  by_cases hempty : b.isEmpty = true
  · simp [written, hempty]
  · have hne : b.entries ≠ [] := fun h => hempty (List.isEmpty_iff.2 h)
    obtain ⟨init, e, he⟩ := List.eq_nil_or_concat b.entries |>.resolve_left hne
    simp [written, hempty, he]

/-- A written binding has no blank character at an end. -/
theorem trim_written (h : b.Writable) : Text.trim b.written = b.written := by
  have hsemicolon : Text.isBlank ';' = false := by decide
  rw [Text.trim_eq_self_iff, getLast?_written]
  refine ⟨?_, by simp [hsemicolon]⟩
  by_cases hempty : b.isEmpty = true
  · simp [written, hempty, hsemicolon]
  · obtain ⟨e, es, he⟩ := List.exists_cons_of_ne_nil fun h => hempty (List.isEmpty_iff.2 h)
    obtain ⟨hkey, -⟩ := h e (he ▸ List.mem_cons_self)
    obtain ⟨c, r, hc⟩ := List.exists_cons_of_ne_nil (l := e.1.toList) (by simpa using hkey.nonempty)
    have hhead := (Text.trim_eq_self_iff.1 hkey.trimmed).1
    simp only [hc, List.head?_cons, Option.mem_def, Option.some.injEq, forall_eq'] at hhead
    simpa [written, hempty, he, writtenEntry, hc] using hhead

/-- A written binding stays on one line. -/
theorem lineFeed_notMem_written (h : b.Writable) : '\n' ∉ b.written := by
  by_cases hempty : b.isEmpty = true
  · simp [written, hempty]
  · simp only [written, if_neg hempty, List.mem_flatMap, List.mem_map, not_exists, not_and]
    rintro t ⟨e, he, rfl⟩
    obtain ⟨hkey, hvalue⟩ := h e he
    simp [writtenEntry, hkey.no_lineFeed, hvalue.no_lineFeed]

/-! ### What is read -/

/-- A pair that was read from an entry has a key and a value that can be written. -/
theorem isKey_of_entryOf {token : List Char} (hsemicolon : ';' ∉ token) (hfeed : '\n' ∉ token)
    (h : entryOf known token = .ok e) : IsKey e.1 ∧ IsValue e.2 ∧ allowed known e.1 = true := by
  simp only [entryOf] at h
  split at h
  · cases h
  · next left right hcut =>
    split at h
    · cases h
    · next hne =>
      split at h
      · cases h
      · next hknown =>
        obtain ⟨c, hc, rfl, hleft⟩ := Text.cutWhere?_eq_some hcut
        obtain rfl : c = '=' := by simpa using hc
        simp only [List.mem_append, List.mem_cons, not_or] at hsemicolon hfeed
        obtain rfl : (String.ofList (Text.trim left), String.ofList (Text.trim right)) = e := by
          simpa using h
        refine ⟨⟨?_, ?_, ?_, ?_, ?_⟩, ⟨?_, ?_, ?_⟩, by simpa using hknown⟩
        · simpa using hne
        · simp [Text.trim_trim]
        · intro hmem
          have := hleft '=' (Text.mem_of_mem_trim (by simpa using hmem))
          simp at this
        · exact fun hmem => hsemicolon.1 (Text.mem_of_mem_trim (by simpa using hmem))
        · exact fun hmem => hfeed.1 (Text.mem_of_mem_trim (by simpa using hmem))
        · simp [Text.trim_trim]
        · exact fun hmem => hsemicolon.2.2 (Text.mem_of_mem_trim (by simpa using hmem))
        · exact fun hmem => hfeed.2.2 (Text.mem_of_mem_trim (by simpa using hmem))

/-- A binding that was read from a list of variables on one line can be written, and all its keys
are among those that may be used. -/
theorem writable_of_resolve (hfeed : '\n' ∉ vars.toList) (h : resolve known vars = .ok b) :
    b.Writable ∧ ∀ k ∈ b.keys, allowed known k = true := by
  obtain ⟨pairs, hpairs, h⟩ := bind_eq_ok.1 h
  obtain rfl : ofList pairs = b := by simpa using h
  have hread : ∀ e ∈ (ofList pairs).entries,
      IsKey e.1 ∧ IsValue e.2 ∧ allowed known e.1 = true := by
    intro e he
    obtain ⟨t, ht, hentry⟩ :=
      exists_mem_of_forall₂ (mapM_eq_ok_iff.1 hpairs) (mem_of_mem_entries_ofList he)
    have hsegment : t ∈ Text.segments ';' vars.toList := List.mem_of_mem_filter ht
    exact isKey_of_entryOf (Text.notMem_of_mem_segments hsegment)
      (fun hmem => hfeed (Text.mem_of_mem_segments hsegment hmem)) hentry
  constructor
  · exact fun e he => ⟨(hread e he).1, (hread e he).2.1⟩
  · intro k hk
    obtain ⟨e, he, rfl⟩ := List.mem_map.1 hk
    exact (hread e he).2.2

end Imprint.Binding
