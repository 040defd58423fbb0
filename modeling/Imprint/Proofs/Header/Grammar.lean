import Imprint.Proofs.Header.Extent

/-!
# The grammar of a header

A line of a header that the marker opens has to have two fields: after the marker and blanks a file
name without blanks, and after the next blank character a list of variables that is not blank. The
file name must hold neither a `..` nor the root. A header is accepted when it has such lines and all
of them are of this form, and then its directives are these lines, in their order. Otherwise the
first line that is not of this form is reported. What follows the first line that belongs to no
header has no part in this.

## Main definitions

* `Imprint.Marker.Fields`, `Imprint.Marker.Declares`: the fields of a line.
* `Imprint.Marker.Refuses`: what is wrong with a line.
* `Imprint.Source.markedLines`: the header lines that the marker opens.

## Main results

* `Imprint.Marker.ofLine_eq_ok_iff`, `Imprint.Marker.ofLine_eq_error_iff`: what is read from one
  line.
* `Imprint.Source.directives_eq_ok_iff`, `Imprint.Source.directives_eq_error_iff`: what is read from
  a header.
* `Imprint.Source.directives_of_take`: where reading stops.
* `Imprint.Source.directives_iff`: all of it.
-/

namespace Imprint

variable {m : Marker} {line filename vars rest : List Char} {n : Nat}

/-! ### The fields of a line -/

/-- The fields of a line: after blanks, the marker, a space and more blanks, a file name without
blanks, a blank character, and a list of variables that is not blank. -/
structure Marker.Fields (m : Marker) (line filename vars : List Char) : Prop where
  written : ∃ lead gap c, line = lead ++ (m.chars ++ ' ' :: (gap ++ (filename ++ c :: vars))) ∧
    (∀ x ∈ lead, Text.isBlank x = true) ∧ (∀ x ∈ gap, Text.isBlank x = true) ∧
      Text.isBlank c = true
  filename_ne : filename ≠ []
  filename_solid : ∀ x ∈ filename, Text.isBlank x = false
  vars_visible : ∃ x ∈ vars, Text.isBlank x = false

/-- The fields of a line that declares an output: the file name stays inside the directory that the
output is put into. -/
structure Marker.Declares (m : Marker) (line filename vars : List Char) : Prop extends
    m.Fields line filename vars where
  stays : ∀ c ∈ Path.components ⟨String.ofList filename⟩, c ≠ .parent ∧ c ≠ .root

/-- What is wrong with a line: it does not have the fields, or its file name leads out of the
directory. -/
inductive Marker.Refuses (m : Marker) (line : List Char) : DirectiveFlaw → Prop
  | fields (h : ∀ filename vars, ¬ m.Fields line filename vars) : Refuses m line .fields
  | leaves {filename vars : List Char} (h : m.Fields line filename vars)
      (hleaves : ∃ c ∈ Path.components ⟨String.ofList filename⟩, c = .parent ∨ c = .root) :
      Refuses m line (.leaves (String.ofList filename))

theorem Text.exists_visible_iff {s : List Char} :
    (∃ x ∈ s, isBlank x = false) ↔ trim s ≠ [] := by
  simp [trim_eq_nil_iff]

theorem Directive.fields?_eq_some_iff {list : List Char} :
    fields? rest = some (filename, list) ↔
      filename ≠ [] ∧ (∀ x ∈ filename, Text.isBlank x = false) ∧
        ∃ c right, rest = filename ++ c :: right ∧ Text.isBlank c = true ∧
          (∃ x ∈ right, Text.isBlank x = false) ∧ list = Text.trim right := by
  simp only [Text.exists_visible_iff]
  constructor
  · intro h
    simp only [fields?] at h
    split at h
    · next left right hcut =>
      split at h
      · cases h
      · next hne =>
        obtain ⟨rfl, rfl⟩ := Prod.mk.inj (Option.some.inj h)
        obtain ⟨c, hc, rfl, hsolid⟩ := Text.cutWhere?_eq_some hcut
        simp only [Bool.or_eq_true, List.isEmpty_iff, not_or] at hne
        exact ⟨hne.1, hsolid, c, right, rfl, hc, hne.2, rfl⟩
    · cases h
  · rintro ⟨hne, hsolid, c, right, rfl, hc, hright, rfl⟩
    simp [fields?, Text.cutWhere?_append hsolid hc, hne, hright]

namespace Marker

/-- A line with the fields, trimmed. -/
theorem Fields.trim_eq (h : m.Fields line filename vars) : ∃ gap c,
    Text.trim line = m.chars ++ ' ' :: (gap ++ (filename ++ c :: Text.trimEnd vars)) ∧
      (∀ x ∈ gap, Text.isBlank x = true) ∧ Text.isBlank c = true := by
  obtain ⟨lead, gap, c, rfl, hlead, hgap, hc⟩ := h.written
  refine ⟨gap, c, ?_, hgap, hc⟩
  have hstart : Text.trimStart (lead ++ (m.chars ++ ' ' :: (gap ++ (filename ++ c :: vars)))) =
      m.chars ++ ' ' :: (gap ++ (filename ++ c :: vars)) := by
    rw [Text.trimStart, List.dropWhile_append_of_pos hlead]
    exact Text.trimStart_eq_self_iff.2 (by simp [chars, m.first_not_blank])
  obtain ⟨x, hx, hvisible⟩ := h.vars_visible
  have hend : Text.trimEnd (gap ++ (filename ++ c :: vars)) =
      gap ++ (filename ++ c :: Text.trimEnd vars) := by
    have hne : Text.trimEnd vars ≠ [] := fun hnil => by
      rw [Text.trimEnd_eq_nil_iff.1 hnil x hx] at hvisible
      cases hvisible
    have hassoc (v : List Char) : gap ++ (filename ++ c :: v) = (gap ++ filename ++ [c]) ++ v := by
      simp
    rw [hassoc, Text.trimEnd_append, if_neg (by simpa using hne), hassoc]
  rw [trim_of_not_blank hstart ⟨x, by simp [hx], hvisible⟩, hend]

theorem opensLine_iff :
    m.opensLine line = true ↔ ∃ rest, Text.trim line = m.chars ++ ' ' :: rest := by
  rw [opensLine, opens, Text.startsWith_iff]
  exact exists_congr fun rest => by rw [List.append_assoc, List.singleton_append, eq_comm]

theorem Fields.opensLine (h : m.Fields line filename vars) : m.opensLine line = true := by
  obtain ⟨gap, c, htrim, -⟩ := h.trim_eq
  exact opensLine_iff.2 ⟨_, htrim⟩

/-- The fields that a line has are found. -/
theorem Fields.fields?_eq (h : m.Fields line filename vars)
    (hline : Text.trim line = m.chars ++ ' ' :: rest) :
    Directive.fields? (Text.trimStart rest) = some (filename, Text.trim vars) := by
  obtain ⟨gap, c, htrim, hgap, hc⟩ := h.trim_eq
  obtain rfl : rest = gap ++ (filename ++ c :: Text.trimEnd vars) := by
    simpa using hline.symm.trans htrim
  have hstart : Text.trimStart (gap ++ (filename ++ c :: Text.trimEnd vars)) =
      filename ++ c :: Text.trimEnd vars := by
    obtain ⟨d, ds, rfl⟩ := List.exists_cons_of_ne_nil h.filename_ne
    rw [Text.trimStart, List.dropWhile_append_of_pos hgap]
    exact Text.trimStart_eq_self_iff.2 (by simpa using h.filename_solid d List.mem_cons_self)
  have hvisible : ∃ x ∈ Text.trimEnd vars, Text.isBlank x = false := by
    rw [Text.exists_visible_iff, Text.trim_trimEnd, ← Text.exists_visible_iff]
    exact h.vars_visible
  rw [hstart, Directive.fields?_eq_some_iff]
  exact ⟨h.filename_ne, h.filename_solid, c, _, rfl, hc, hvisible, (Text.trim_trimEnd vars).symm⟩

/-- The fields that are found in a line are its fields. -/
theorem exists_fields_of_fields? {list : List Char}
    (hline : Text.trim line = m.chars ++ ' ' :: rest)
    (h : Directive.fields? (Text.trimStart rest) = some (filename, list)) :
    ∃ vars, m.Fields line filename vars ∧ list = Text.trim vars := by
  obtain ⟨hne, hsolid, c, right, hrest, hc, ⟨x, hx, hvisible⟩, rfl⟩ :=
    Directive.fields?_eq_some_iff.1 h
  obtain ⟨lead, tail, hlead, htail, hsplit⟩ := Text.exists_blanks_trim line
  refine ⟨right ++ tail, ⟨⟨lead, rest.takeWhile Text.isBlank, c, ?_, hlead, ?_, hc⟩, hne, hsolid,
    ⟨x, List.mem_append_left _ hx, hvisible⟩⟩, (Text.trim_append_of_blank htail right).symm⟩
  · have hgap : rest = rest.takeWhile Text.isBlank ++ (filename ++ c :: right) := by
      rw [← hrest]
      exact List.takeWhile_append_dropWhile.symm
    calc line = lead ++ ((m.chars ++ ' ' :: rest) ++ tail) := by rw [← hline, ← hsplit]
      _ = lead ++ (m.chars ++ ' ' :: (rest.takeWhile Text.isBlank ++
          (filename ++ c :: (right ++ tail)))) := by
        conv_lhs => rw [hgap]
        simp
  · exact fun _ => List.mem_takeWhile_imp

/-! ### What is read from a line -/

theorem leaves_eq_true_iff {name : String} : Directive.leaves name = true ↔
    ∃ c ∈ Path.components ⟨name⟩, c = .parent ∨ c = .root := by
  simp [Directive.leaves]

/-- A line that the marker opens is read by its fields. -/
theorem ofLine_eq (hm : m.chars ≠ commentOpening) (n : Nat)
    (hline : Text.trim line = m.chars ++ ' ' :: rest) :
    Directive.Declaration.ofLine m n line =
      match Directive.fields? (Text.trimStart rest) with
      | none => .error (.malformed n (String.ofList (Text.trim line)) .fields)
      | some (filename, vars) =>
        if Directive.leaves (String.ofList filename) then
          .error (.malformed n (String.ofList (Text.trim line)) (.leaves (String.ofList filename)))
        else .ok (some ⟨String.ofList filename, String.ofList vars, n⟩) := by
  have hcomment := not_isCommentLine_of_opensLine hm (opensLine_iff.2 ⟨rest, hline⟩)
  have hspace : Text.trimStart (' ' :: rest) = Text.trimStart rest := by
    rw [Text.trimStart_cons, if_pos (by decide)]
  rw [isCommentLine, hline] at hcomment
  rcases hfields : Directive.fields? (Text.trimStart rest) with - | ⟨filename, vars⟩ <;>
    simp only [Directive.Declaration.ofLine, hline, hcomment, Text.after?_append, Option.getD_some,
      hspace, hfields, Bool.false_eq_true, ↓reduceIte]

theorem Declares.ofLine_eq (h : m.Declares line filename vars) (hm : m.chars ≠ commentOpening)
    (n : Nat) : Directive.Declaration.ofLine m n line =
      .ok (some ⟨String.ofList filename, String.ofList (Text.trim vars), n⟩) := by
  obtain ⟨rest, hline⟩ := opensLine_iff.1 h.opensLine
  have hstays : ¬ Directive.leaves (String.ofList filename) = true := by
    rw [leaves_eq_true_iff]
    rintro ⟨c, hc, hleaves⟩
    exact hleaves.elim (h.stays c hc).1 (h.stays c hc).2
  simp only [Marker.ofLine_eq hm n hline, h.fields?_eq hline, if_neg hstays]

theorem Refuses.ofLine_eq {flaw : DirectiveFlaw} (h : m.Refuses line flaw)
    (hm : m.chars ≠ commentOpening) (hopens : m.opensLine line = true) (n : Nat) :
    Directive.Declaration.ofLine m n line =
      .error (.malformed n (String.ofList (Text.trim line)) flaw) := by
  obtain ⟨rest, hline⟩ := opensLine_iff.1 hopens
  rw [Marker.ofLine_eq hm n hline]
  cases h with
  | fields hnone =>
    cases hfields : Directive.fields? (Text.trimStart rest) with
    | none => rfl
    | some x =>
      obtain ⟨vars, hvars, -⟩ := exists_fields_of_fields? hline hfields
      exact absurd hvars (hnone _ _)
  | leaves hfields hleaves =>
    simp only [hfields.fields?_eq hline, if_pos (leaves_eq_true_iff.2 hleaves)]

theorem declares_or_refuses (m : Marker) (line : List Char) :
    (∃ filename vars, m.Declares line filename vars) ∨ ∃ flaw, m.Refuses line flaw := by
  by_cases hfields : ∃ filename vars, m.Fields line filename vars
  · obtain ⟨filename, vars, hfields⟩ := hfields
    by_cases hleaves : ∃ c ∈ Path.components ⟨String.ofList filename⟩, c = .parent ∨ c = .root
    · exact .inr ⟨_, .leaves hfields hleaves⟩
    · refine .inl ⟨filename, vars, hfields, fun c hc => ?_⟩
      exact not_or.1 fun hor => hleaves ⟨c, hc, hor⟩
  · simp only [not_exists] at hfields
    exact .inr ⟨_, .fields hfields⟩

/-- A line that the marker opens is accepted when it declares an output. -/
theorem ofLine_eq_ok_iff (hm : m.chars ≠ commentOpening) (hopens : m.opensLine line = true)
    {declared : Option Directive.Declaration} :
    Directive.Declaration.ofLine m n line = .ok declared ↔
      ∃ filename vars, m.Declares line filename vars ∧
        declared = some ⟨String.ofList filename, String.ofList (Text.trim vars), n⟩ := by
  constructor
  · intro h
    rcases declares_or_refuses m line with ⟨filename, vars, hdeclares⟩ | ⟨flaw, hrefuses⟩
    · exact ⟨filename, vars, hdeclares, Except.ok.inj (h.symm.trans (hdeclares.ofLine_eq hm n))⟩
    · cases h.symm.trans (hrefuses.ofLine_eq hm hopens n)
  · rintro ⟨filename, vars, hdeclares, rfl⟩
    exact hdeclares.ofLine_eq hm n

/-- A line that the marker opens is refused for what is wrong with it. -/
theorem ofLine_eq_error_iff (hm : m.chars ≠ commentOpening) (hopens : m.opensLine line = true)
    {e : HeaderError} :
    Directive.Declaration.ofLine m n line = .error e ↔
      ∃ flaw, m.Refuses line flaw ∧ e = .malformed n (String.ofList (Text.trim line)) flaw := by
  constructor
  · intro h
    rcases declares_or_refuses m line with ⟨filename, vars, hdeclares⟩ | ⟨flaw, hrefuses⟩
    · cases h.symm.trans (hdeclares.ofLine_eq hm n)
    · exact ⟨flaw, hrefuses, Except.error.inj (h.symm.trans (hrefuses.ofLine_eq hm hopens n))⟩
  · rintro ⟨flaw, hrefuses, rfl⟩
    exact hrefuses.ofLine_eq hm hopens n

/-- A header line that the marker does not open declares nothing. -/
theorem ofLine_of_not_opensLine (hheader : m.isHeaderLine line = true)
    (hopens : m.opensLine line = false) (n : Nat) :
    Directive.Declaration.ofLine m n line = .ok none := by
  have hcomment : isCommentLine line = true := by
    simpa [isHeaderLine, hopens] using hheader
  rcases Directive.Declaration.ofLine_cases m n line with ⟨-, hline⟩ | ⟨hnot, -⟩
  · exact hline
  · rw [hcomment] at hnot
    cases hnot

end Marker

/-! ### The lines that the marker opens -/

namespace Source

variable {s : Source} {xs : List (Nat × List Char)} {ds : List Directive} {e : HeaderError}

/-- The header lines that the marker opens, with their numbers. -/
def markedLines (s : Source) : List (Nat × List Char) :=
  s.numberedHeader.filter fun x => s.marker.opensLine x.2

theorem mem_markedLines_iff : (n, line) ∈ s.markedLines ↔ ∃ i, n = i + 1 ∧ i < s.header.length ∧
    s.lines[i]? = some line ∧ s.marker.opensLine line = true := by
  have hheader (i : Nat) :
      s.header[i]? = some line ↔ i < s.header.length ∧ s.lines[i]? = some line := by
    rw [← s.header_append_afterHeader]
    constructor
    · intro h
      have hi := (List.getElem?_eq_some_iff.1 h).1
      exact ⟨hi, (List.getElem?_append_left hi).trans h⟩
    · rintro ⟨hi, h⟩
      rwa [List.getElem?_append_left hi] at h
  rw [markedLines, List.mem_filter, mem_numberedHeader_iff]
  simp only [hheader]
  exact ⟨fun ⟨⟨i, ⟨hi, h⟩, hn⟩, hopens⟩ => ⟨i, hn, hi, h, hopens⟩,
    fun ⟨i, hn, hi, h, hopens⟩ => ⟨⟨i, ⟨hi, h⟩, hn⟩, hopens⟩⟩

/-- The numbers of these lines increase. -/
theorem pairwise_markedLines (s : Source) : s.markedLines.Pairwise fun x y => x.1 < y.1 := by
  have hnumbers : s.header.zipIdx.Pairwise fun x y => x.2 < y.2 := by
    rw [← List.pairwise_map, List.zipIdx_map_snd]
    exact List.pairwise_lt_range'
  refine List.Pairwise.filter _ (List.pairwise_map.2 (hnumbers.imp fun hlt => ?_))
  exact Nat.succ_lt_succ hlt

/-- The directive that a line with its number declares at a place among such lines. -/
def DeclaresAs (m : Marker) (x : (Nat × List Char) × Nat) (d : Directive) : Prop :=
  ∃ filename vars, m.Declares x.1.2 filename vars ∧
    d = ⟨String.ofList filename, String.ofList (Text.trim vars), x.2, x.1.1⟩

/-- Lines declare outputs when directives are declared by them. -/
theorem exists_declares_of_forall₂ (h : List.Forall₂ (DeclaresAs m) xs.zipIdx ds) :
    ∀ x ∈ xs, ∃ filename vars, m.Declares x.2 filename vars := by
  intro x hx
  obtain ⟨i, hi⟩ := List.mem_iff_getElem?.1 hx
  obtain ⟨d, -, filename, vars, hd, -⟩ :=
    exists_mem_of_forall₂ h.flip (List.mk_mem_zipIdx_iff_getElem?.2 hi)
  exact ⟨filename, vars, hd⟩

theorem DeclaresAs.unique {m : Marker} (hm : m.chars ≠ commentOpening) :
    Relator.RightUnique (DeclaresAs m) := by
  rintro ⟨⟨n, line⟩, i⟩ - - ⟨filename, vars, h, rfl⟩ ⟨filename', vars', h', rfl⟩
  have heq := (h.ofLine_eq hm n).symm.trans (h'.ofLine_eq hm n)
  simp only [Except.ok.injEq, Option.some.injEq, Directive.Declaration.mk.injEq] at heq
  simp only [heq]

/-- Header lines are all read when those that the marker opens declare outputs. -/
theorem exists_declared (hm : s.marker.chars ≠ commentOpening)
    (hxs : ∀ x ∈ xs, s.marker.isHeaderLine x.2 = true)
    (h : ∀ x ∈ xs.filter (s.marker.opensLine ·.2), ∃ filename vars,
      s.marker.Declares x.2 filename vars) :
    ∃ declared, List.Forall₂ (fun x d => Directive.Declaration.ofLine s.marker x.1 x.2 = .ok d) xs
      declared := by
  induction xs with
  | nil => exact ⟨[], .nil⟩
  | cons x xs ih =>
    rw [List.forall_mem_cons] at hxs
    cases hopens : s.marker.opensLine x.2 with
    | true =>
      simp only [List.filter_cons, hopens, ↓reduceIte, List.forall_mem_cons] at h
      obtain ⟨⟨filename, vars, hx⟩, h⟩ := h
      obtain ⟨declared, hdeclared⟩ := ih hxs.2 h
      exact ⟨_ :: declared, .cons (hx.ofLine_eq hm x.1) hdeclared⟩
    | false =>
      simp only [List.filter_cons, hopens, Bool.false_eq_true, ↓reduceIte] at h
      obtain ⟨declared, hdeclared⟩ := ih hxs.2 h
      exact ⟨_ :: declared, .cons (Marker.ofLine_of_not_opensLine hxs.1 hopens x.1) hdeclared⟩

/-- What header lines declare is declared by those that the marker opens. -/
theorem forall₂_declared (hm : s.marker.chars ≠ commentOpening)
    (hxs : ∀ x ∈ xs, s.marker.isHeaderLine x.2 = true)
    {declared : List (Option Directive.Declaration)}
    (h : List.Forall₂ (fun x d => Directive.Declaration.ofLine s.marker x.1 x.2 = .ok d) xs
      declared) (k : Nat) :
    List.Forall₂ (DeclaresAs s.marker) ((xs.filter (s.marker.opensLine ·.2)).zipIdx k)
      ((declared.reduceOption.zipIdx k).map fun x => ⟨x.1.filename, x.1.vars, x.2, x.1.line⟩) := by
  induction h generalizing k with
  | nil => exact .nil
  | @cons x d xs declared hx _ ih =>
    rw [List.forall_mem_cons] at hxs
    cases hopens : s.marker.opensLine x.2 with
    | true =>
      obtain ⟨filename, vars, hdeclares, rfl⟩ := (Marker.ofLine_eq_ok_iff hm hopens).1 hx
      simp only [List.filter_cons, hopens, ↓reduceIte, List.reduceOption_cons_of_some,
        List.zipIdx_cons, List.map_cons]
      exact .cons ⟨filename, vars, hdeclares, rfl⟩ (ih hxs.2 (k + 1))
    | false =>
      obtain rfl : none = d :=
        Except.ok.inj ((Marker.ofLine_of_not_opensLine hxs.1 hopens x.1).symm.trans hx)
      simp only [List.filter_cons, hopens, Bool.false_eq_true, ↓reduceIte,
        List.reduceOption_cons_of_none]
      exact ih hxs.2 k

theorem isHeaderLine_of_mem_numberedHeader {x : Nat × List Char} (hx : x ∈ s.numberedHeader) :
    s.marker.isHeaderLine x.2 = true := by
  obtain ⟨i, hi, -⟩ := mem_numberedHeader_iff.1 (show (x.1, x.2) ∈ s.numberedHeader from hx)
  exact isHeaderLine_of_mem_header (List.mem_of_getElem? hi)

/-! ### What is read from a header -/

/-- A header is accepted when the marker opens a line of it and every such line declares an output,
and its directives are these outputs in their order. -/
theorem directives_eq_ok_iff (hm : s.marker.chars ≠ commentOpening) :
    s.directives = .ok ds ↔
      s.markedLines ≠ [] ∧ List.Forall₂ (DeclaresAs s.marker) s.markedLines.zipIdx ds := by
  have hheader := fun x => isHeaderLine_of_mem_numberedHeader (s := s) (x := x)
  have hread {ds : List Directive} (h : s.directives = .ok ds) :
      ds ≠ [] ∧ List.Forall₂ (DeclaresAs s.marker) s.markedLines.zipIdx ds := by
    have hne := directives_ne_nil h
    obtain ⟨declared, hdeclared, -, rfl⟩ := directives_eq_ok.1 h
    exact ⟨hne, forall₂_declared hm hheader (mapM_declarations_eq_ok_iff.1 hdeclared) 0⟩
  constructor
  · intro h
    obtain ⟨hne, hds⟩ := hread h
    refine ⟨fun hnil => ?_, hds⟩
    rw [hnil] at hds
    exact hne (List.forall₂_nil_left_iff.1 hds)
  · rintro ⟨hne, hds⟩
    obtain ⟨declared, hdeclared⟩ :=
      exists_declared hm hheader (exists_declares_of_forall₂ hds)
    obtain rfl : Directive.number declared.reduceOption = ds :=
      List.right_unique_forall₂' (DeclaresAs.unique hm)
        (forall₂_declared hm hheader hdeclared 0) hds
    refine directives_eq_ok.2
      ⟨declared, mapM_declarations_eq_ok_iff.2 hdeclared, fun hnil => ?_, rfl⟩
    rw [hnil] at hds
    exact hne (List.zipIdx_eq_nil_iff.1 (List.forall₂_nil_right_iff.1 hds))

/-- A header is refused because it has no line that the marker opens. -/
theorem directives_eq_empty_iff (hm : s.marker.chars ≠ commentOpening) {path : Path} :
    s.directives = .error (.empty path) ↔ s.markedLines = [] ∧ path = s.path := by
  have hheader := fun x => isHeaderLine_of_mem_numberedHeader (s := s) (x := x)
  have hread {declared : List (Option Directive.Declaration)}
      (h : s.declarations.mapM id = .ok declared) :
      (declared.reduceOption = [] ↔ s.markedLines = []) ∧ s.directives =
        if declared.reduceOption.isEmpty then .error (.empty s.path)
        else .ok (Directive.number declared.reduceOption) := by
    have hlines := (forall₂_declared hm hheader (mapM_declarations_eq_ok_iff.1 h) 0).length_eq
    rw [← markedLines, List.length_map, List.length_zipIdx, List.length_zipIdx] at hlines
    refine ⟨?_, by rw [directives, h]; rfl⟩
    rw [← List.length_eq_zero_iff, ← hlines, List.length_eq_zero_iff]
  constructor
  · intro h
    rcases bind_eq_error.1 h with hfails | ⟨declared, hdeclared, -⟩
    · obtain ⟨before, x, after, declared, hsplit, -, hx⟩ := mapM_eq_error_iff.1 hfails
      obtain ⟨y, -, rfl⟩ := List.mem_map.1 (show x ∈ s.declarations by simp [hsplit])
      obtain ⟨flaw, hflaw⟩ := Directive.Declaration.exists_flaw_of_ofLine hx
      cases hflaw
    · obtain ⟨hnil, hdirectives⟩ := hread hdeclared
      rw [hdirectives] at h
      split at h
      · next hempty =>
        exact ⟨hnil.1 (List.isEmpty_iff.1 hempty),
          (HeaderError.empty.inj (Except.error.inj h)).symm⟩
      · cases h
  · rintro ⟨hnil, rfl⟩
    have hnone : ∀ x ∈ s.numberedHeader.filter (s.marker.opensLine ·.2), ∃ filename vars,
        s.marker.Declares x.2 filename vars := fun x hx => by
      rw [← markedLines, hnil] at hx
      cases hx
    obtain ⟨declared, hdeclared⟩ := exists_declared hm hheader hnone
    obtain ⟨hempty, hdirectives⟩ := hread (mapM_declarations_eq_ok_iff.2 hdeclared)
    rw [hdirectives, hempty.2 hnil]
    rfl

/-- A header is refused at the first line that the marker opens and that does not declare an
output. -/
theorem directives_eq_malformed_iff (hm : s.marker.chars ≠ commentOpening) {content : String}
    {flaw : DirectiveFlaw} : s.directives = .error (.malformed n content flaw) ↔
      ∃ before line after, s.markedLines = before ++ (n, line) :: after ∧
        (∀ x ∈ before, ∃ filename vars, s.marker.Declares x.2 filename vars) ∧
        s.marker.Refuses line flaw ∧ content = String.ofList (Text.trim line) := by
  constructor
  · intro h
    obtain ⟨before, line, after, declared, hheader, hbefore, hline⟩ := exists_line_of_malformed h
    have hopens : s.marker.opensLine line = true := by
      have hline' : s.marker.isHeaderLine line = true :=
        isHeaderLine_of_mem_numberedHeader (s := s) (x := (n, line)) (by simp [hheader])
      by_contra hnot
      cases (Marker.ofLine_of_not_opensLine hline' (by simpa using hnot) n).symm.trans hline
    refine ⟨before.filter (s.marker.opensLine ·.2), line, after.filter (s.marker.opensLine ·.2),
      ?_, fun x hx => ?_, ?_⟩
    · simp [markedLines, hheader, List.filter_append, hopens]
    · obtain ⟨hx, hopened⟩ := List.mem_filter.1 hx
      obtain ⟨d, -, hd⟩ := exists_mem_of_forall₂ hbefore.flip hx
      obtain ⟨filename, vars, hdeclares, -⟩ := (Marker.ofLine_eq_ok_iff hm hopened).1 hd
      exact ⟨filename, vars, hdeclares⟩
    · obtain ⟨flaw', hrefuses, heq⟩ := (Marker.ofLine_eq_error_iff hm hopens).1 hline
      obtain ⟨-, rfl, rfl⟩ := HeaderError.malformed.inj heq
      exact ⟨hrefuses, rfl⟩
  · rintro ⟨before, line, after, hsplit, hbefore, hrefuses, rfl⟩
    obtain ⟨front, rest, hheader, rfl, hrest⟩ := List.filter_eq_append_iff.1 hsplit
    obtain ⟨gap, back, rfl, hgap, hopens, -⟩ := List.filter_eq_cons_iff.1 hrest
    have hlines : ∀ x ∈ front ++ gap, s.marker.isHeaderLine x.2 = true := fun x hx =>
      isHeaderLine_of_mem_numberedHeader (s := s) (by
        rw [hheader, ← List.append_assoc]
        exact List.mem_append_left _ hx)
    have hfront : (front ++ gap).filter (s.marker.opensLine ·.2) =
        front.filter (s.marker.opensLine ·.2) := by
      rw [List.filter_append, List.filter_eq_nil_iff.2 hgap, List.append_nil]
    obtain ⟨declared, hdeclared⟩ := exists_declared hm hlines (by rwa [hfront])
    let read (x : Nat × List Char) := Directive.Declaration.ofLine s.marker x.1 x.2
    refine bind_eq_error.2 (.inl (mapM_eq_error_iff.2 ⟨(front ++ gap).map read, read (n, line),
      back.map read, declared, ?_, List.forall₂_map_left_iff.2 hdeclared,
      hrefuses.ofLine_eq hm hopens n⟩))
    rw [declarations, hheader, ← List.append_assoc, List.map_append, List.map_cons]

/-- What a header is refused for: it has no line that the marker opens, or the first of them that
does not declare an output. -/
theorem directives_eq_error_iff (hm : s.marker.chars ≠ commentOpening) :
    s.directives = .error e ↔ (s.markedLines = [] ∧ e = .empty s.path) ∨
      ∃ before n line after flaw, s.markedLines = before ++ (n, line) :: after ∧
        (∀ x ∈ before, ∃ filename vars, s.marker.Declares x.2 filename vars) ∧
        s.marker.Refuses line flaw ∧ e = .malformed n (String.ofList (Text.trim line)) flaw := by
  cases e with
  | empty path => simp [directives_eq_empty_iff hm]
  | malformed number content flaw =>
    rw [directives_eq_malformed_iff hm]
    constructor
    · rintro ⟨before, line, after, hsplit, hbefore, hrefuses, rfl⟩
      exact .inr ⟨before, number, line, after, flaw, hsplit, hbefore, hrefuses, rfl⟩
    · rintro (⟨-, h⟩ | ⟨before, _, line, after, _, hsplit, hbefore, hrefuses, h⟩)
      · cases h
      · obtain ⟨rfl, rfl, rfl⟩ := HeaderError.malformed.inj h
        exact ⟨before, line, after, hsplit, hbefore, hrefuses, rfl⟩

/-- Directives are numbered from zero, and they keep the numbers of their lines. -/
theorem map_index_and_line (h : List.Forall₂ (DeclaresAs m) xs.zipIdx ds) :
    ds.map Directive.index = List.range xs.length ∧ ds.map Directive.line = xs.map Prod.fst := by
  have hmap {α : Type} {f : (Nat × List Char) × Nat → α} {g : Directive → α}
      (hfg : ∀ x d, DeclaresAs m x d → g d = f x) : ds.map g = xs.zipIdx.map f := by
    rw [← List.forall₂_eq_eq_eq, List.forall₂_map_left_iff, List.forall₂_map_right_iff]
    exact h.flip.imp fun d x => hfg x d
  constructor
  · rw [hmap (f := Prod.snd) (by rintro x _ ⟨_, _, -, rfl⟩; rfl), List.zipIdx_map_snd,
      List.range_eq_range']
  · rw [hmap (f := Prod.fst ∘ Prod.fst) (by rintro x _ ⟨_, _, -, rfl⟩; rfl), ← List.map_map,
      List.zipIdx_map_fst]

/-! ### Where reading stops -/

/-- The longest beginning with a property is found in one member more than it has. -/
theorem takeWhile_eq_of_take {p : List Char → Bool} {ls ls' : List (List Char)}
    (h : ls'.take ((ls.takeWhile p).length + 1) = ls.take ((ls.takeWhile p).length + 1)) :
    ls'.takeWhile p = ls.takeWhile p := by
  have htake : (ls'.takeWhile p).take ((ls.takeWhile p).length + 1) = ls.takeWhile p := by
    rw [List.take_takeWhile, h, ← List.take_takeWhile]
    exact List.take_of_length_le (Nat.le_succ _)
  have hlength := congrArg List.length htake
  rw [List.length_take] at hlength
  rwa [List.take_of_length_le (by omega)] at htake

/-- Nothing after the first line that belongs to no header has a part in what is read. -/
theorem directives_of_take {t : Source} (hpath : t.path = s.path) (hmarker : t.marker = s.marker)
    (h : t.lines.take (s.header.length + 1) = s.lines.take (s.header.length + 1)) :
    t.directives = s.directives := by
  have hheader : t.header = s.header := by
    rw [header, header, hmarker]
    exact takeWhile_eq_of_take h
  have hdeclarations : t.declarations = s.declarations := by
    rw [declarations, declarations, numberedHeader, numberedHeader, hheader, hmarker]
  rw [directives, directives, hdeclarations, hpath]

/-- A header is accepted exactly when the marker opens a line of it and every such line declares an
output: its directives are then these outputs, in the order of their lines, numbered from zero, and
with the numbers of their lines. Otherwise the first such line that does not declare an output is
reported, or that there is none. Sources that agree up to the first line that belongs to no header
are read alike. -/
theorem directives_iff (s : Source) (hm : s.marker.chars ≠ commentOpening) :
    (∀ n line, (n, line) ∈ s.markedLines ↔ ∃ i, n = i + 1 ∧ i < s.header.length ∧
      s.lines[i]? = some line ∧ s.marker.opensLine line = true) ∧
    ((∃ ds, s.directives = .ok ds) ↔ s.markedLines ≠ [] ∧
      ∀ x ∈ s.markedLines, ∃ filename vars, s.marker.Declares x.2 filename vars) ∧
    (∀ ds, s.directives = .ok ds →
      List.Forall₂ (DeclaresAs s.marker) s.markedLines.zipIdx ds ∧
      ds.map Directive.index = List.range s.markedLines.length ∧
      ds.map Directive.line = s.markedLines.map Prod.fst ∧
      ds.Pairwise fun d d' => d.line < d'.line) ∧
    (∀ e, s.directives = .error e ↔ (s.markedLines = [] ∧ e = .empty s.path) ∨
      ∃ before n line after flaw, s.markedLines = before ++ (n, line) :: after ∧
        (∀ x ∈ before, ∃ filename vars, s.marker.Declares x.2 filename vars) ∧
        s.marker.Refuses line flaw ∧ e = .malformed n (String.ofList (Text.trim line)) flaw) ∧
    ∀ t : Source, t.path = s.path → t.marker = s.marker →
      t.lines.take (s.header.length + 1) = s.lines.take (s.header.length + 1) →
      t.directives = s.directives := by
  refine ⟨fun n line => mem_markedLines_iff, ⟨?_, ?_⟩, fun ds h => ?_,
    fun e => directives_eq_error_iff hm, fun t => directives_of_take⟩
  · rintro ⟨ds, h⟩
    obtain ⟨hne, hds⟩ := (directives_eq_ok_iff hm).1 h
    exact ⟨hne, exists_declares_of_forall₂ hds⟩
  · rintro ⟨hne, hdeclares⟩
    cases h : s.directives with
    | ok ds => exact ⟨ds, rfl⟩
    | error e =>
      rcases (directives_eq_error_iff hm).1 h with
        ⟨hnil, -⟩ | ⟨before, n, line, after, flaw, hsplit, -, hrefuses, -⟩
      · exact absurd hnil hne
      · obtain ⟨filename, vars, hline⟩ := hdeclares (n, line) (by simp [hsplit])
        cases (hline.ofLine_eq hm n).symm.trans (hrefuses.ofLine_eq hm hline.opensLine n)
  · obtain ⟨-, hds⟩ := (directives_eq_ok_iff hm).1 h
    obtain ⟨hindex, hline⟩ := map_index_and_line hds
    refine ⟨hds, hindex, hline, List.pairwise_map.1 ?_⟩
    rw [hline]
    exact List.pairwise_map.2 s.pairwise_markedLines

/-- A header with a comment between two directives, and a line behind it. -/
def interleaved : Source :=
  ⟨⟨"t"⟩, "## a.txt v=1;\n/* c */\n  ## sub/b.txt  w = 2 ; \nbody\n## c.txt", .standard⟩

/-- The same header before another line. -/
def interleavedShort : Source :=
  ⟨⟨"t"⟩, "## a.txt v=1;\n/* c */\n  ## sub/b.txt  w = 2 ; \nbody", .standard⟩

/-- Its two directives are accepted, and what comes after the first line behind it has no part in
this. -/
theorem directives_interleaved :
    (∃ ds, interleaved.directives = .ok ds ∧ ds.map Directive.index = [0, 1] ∧
      ds.map Directive.line = [1, 3]) ∧
    interleavedShort.directives = interleaved.directives := by
  have hlines : interleaved.markedLines = [(1, "## a.txt v=1;".toList),
      (3, "  ## sub/b.txt  w = 2 ; ".toList)] := by decide +kernel
  have hstays (filename : String) (h : Directive.leaves filename = false) :
      ∀ c ∈ Path.components ⟨filename⟩, c ≠ .parent ∧ c ≠ .root := by
    simpa [Directive.leaves] using h
  have hblank (l : List Char) (h : l.all Text.isBlank = true) :
      ∀ x ∈ l, Text.isBlank x = true := List.all_eq_true.1 h
  have hsolid (l : List Char) (h : l.all (!Text.isBlank ·) = true) :
      ∀ x ∈ l, Text.isBlank x = false := by simpa using h
  have hfirst : interleaved.marker.Declares "## a.txt v=1;".toList "a.txt".toList "v=1;".toList :=
    ⟨⟨⟨[], [], ' ', by decide +kernel, hblank _ (by decide), hblank _ (by decide), by decide⟩,
      by decide, hsolid _ (by decide +kernel), ⟨'v', by decide +kernel, by decide⟩⟩,
      hstays _ (by decide +kernel)⟩
  have hsecond : interleaved.marker.Declares "  ## sub/b.txt  w = 2 ; ".toList
      "sub/b.txt".toList " w = 2 ; ".toList :=
    ⟨⟨⟨[' ', ' '], [], ' ', by decide +kernel, hblank _ (by decide), hblank _ (by decide),
      by decide⟩, by decide, hsolid _ (by decide +kernel), ⟨'w', by decide +kernel, by decide⟩⟩,
      hstays _ (by decide +kernel)⟩
  obtain ⟨-, haccepted, hread, -, hbehind⟩ := directives_iff interleaved (by decide)
  obtain ⟨ds, hds⟩ := haccepted.2 ⟨by simp [hlines], by
    rw [hlines]
    simpa using ⟨⟨_, _, hfirst⟩, ⟨_, _, hsecond⟩⟩⟩
  obtain ⟨-, hindex, hline, -⟩ := hread ds hds
  rw [hlines] at hindex hline
  exact ⟨⟨ds, hds, hindex, hline⟩, hbehind interleavedShort rfl rfl (by decide +kernel)⟩

end Source

end Imprint
