import Imprint.Proofs.Header.Grammar
import Imprint.Proofs.Path.Spelling
import Imprint.Proofs.Run.Contained

/-!
# File names that are declared again

The files of a header are written one after another, so a directive overwrites what an earlier one
wrote when both name the same file. Reading the header warns of this, line by line. But a file name
is looked for among the earlier ones as it is written, and a file has more than one spelling: of
`a.txt` and `./a.txt` the second overwrites the first without a warning. The warning is complete
where every overwritten file name stands once more in the spelling in which it is declared again, so
in particular for tidy file names. A false warning is never given.

## Main definitions

* `Imprint.Source.overwriting`: the warning.
* `Imprint.Source.Announces`: what a header warns of.

## Main results

* `Imprint.Source.overwriting_line_inj`: the warning tells the line.
* `Imprint.Source.announces_line_iff`: the lines that a header warns of.
* `Imprint.Source.sameFile_iff_of_denotes`: the same file is the same location.
* `Imprint.Source.announces_iff`: when the lines that are warned of are those that overwrite a file.
-/

namespace Imprint

/-! ### Declarations with the file name of an earlier one -/

namespace Source

open Directive

variable {s : Source} {ds : List Directive} {d : Directive} {j : Nat}
  {declared : List (Option Declaration)} {decls : List Declaration} {x : Declaration}

theorem mem_repeated_iff : x ∈ repeated decls ↔
    ∃ j, decls[j]? = some x ∧ ∃ y ∈ decls.take j, y.filename = x.filename := by
  simp only [repeated, List.mem_map, List.mem_filter, List.any_eq_true, beq_iff_eq, Prod.exists,
    List.mk_mem_zipIdx_iff_getElem?, exists_and_right, exists_eq_right]

/-- Before no error stand all results. -/
theorem beforeError_eq (h : s.declarations.mapM id = .ok declared) :
    beforeError s.declarations = declared := by
  have hall := mapM_eq_ok_iff.1 h
  clear h
  generalize s.declarations = results at hall
  induction hall with
  | nil => rfl
  | cons hx _ ih =>
    cases hx
    rw [beforeError, ih]

/-- Directives are declarations with their places. -/
theorem getElem?_number (decls : List Declaration) (j : Nat) :
    (Directive.number decls)[j]? =
      decls[j]?.map fun x => ⟨x.filename, x.vars, j, x.line⟩ := by
  simp [Directive.number, Function.comp_def]

theorem map_filename_number (decls : List Declaration) :
    (Directive.number decls).map Directive.filename = decls.map Declaration.filename := by
  refine List.ext_getElem? fun j => ?_
  simp [getElem?_number, Function.comp_def]

theorem map_line_number (decls : List Declaration) :
    (Directive.number decls).map Directive.line = decls.map Declaration.line := by
  refine List.ext_getElem? fun j => ?_
  simp [getElem?_number, Function.comp_def]

/-- The directives of a header stand on lines of their own. -/
theorem nodup_line (h : s.directives = .ok ds) : (ds.map Directive.line).Nodup := by
  have hm : s.marker.chars ≠ commentOpening := by
    obtain ⟨d, hd⟩ := List.exists_mem_of_ne_nil ds (directives_ne_nil h)
    obtain ⟨number, line, hline, hdeclares⟩ := exists_line_of_directives h hd
    exact chars_ne_of_ofLine (List.mem_takeWhile_imp hline) hdeclares
  have hlines := (map_index_and_line ((directives_eq_ok_iff hm).1 h).2).2
  rw [hlines]
  exact (List.pairwise_map.2 s.pairwise_markedLines).imp Nat.ne_of_lt

/-! ### The warning -/

/-- The warning that the file name on a line was declared before. -/
def overwriting (line : Nat) (filename : String) : Log.Event :=
  ⟨.warn, .header,
    s!"line {line}: `{filename}` already declared; the later directive overwrites it"⟩

/-- Reading the header warns that a line declares a file name again. -/
def Announces (s : Source) (line : Nat) : Prop :=
  ∃ filename, overwriting line filename ∈ s.headerEvents

theorem text_overwriting (line : Nat) (filename : String) : ∃ rest,
    (overwriting line filename).text.toList =
      "line ".toList ++ (Nat.toDigits 10 line ++ ':' :: rest) := by
  have htext : (overwriting line filename).text = "line " ++ line.repr ++ ": `" ++ filename ++
    "` already declared; the later directive overwrites it" := rfl
  have hcolon : ": `".toList = ':' :: " `".toList := by simp
  rw [htext]
  simp only [String.toList_append, Nat.repr_eq_ofList_toDigits, String.toList_ofList, hcolon,
    List.append_assoc, List.cons_append]
  exact ⟨_, rfl⟩

/-- The warning tells the line. -/
theorem overwriting_line_inj {m n : Nat} {f g : String} (h : overwriting m f = overwriting n g) :
    m = n := by
  obtain ⟨rest, hm⟩ := text_overwriting m f
  obtain ⟨rest', hn⟩ := text_overwriting n g
  have hdigits (k : Nat) (r : List Char) :
      (Nat.toDigits 10 k ++ ':' :: r).takeWhile Char.isDigit = Nat.toDigits 10 k := by
    have hall : ∀ c ∈ Nat.toDigits 10 k, c.isDigit = true :=
      fun c hc => Nat.isDigit_of_mem_toDigits (by decide) (by decide) hc
    rw [List.takeWhile_append_of_pos hall]
    simp
  rw [h, hn, List.append_cancel_left_eq] at hm
  have hsame : Nat.toDigits 10 m = Nat.toDigits 10 n := by
    rw [← hdigits m rest, ← hm, hdigits]
  rw [← Nat.ofDigitChars_ten_toDigits (n := m), hsame, Nat.ofDigitChars_ten_toDigits]

/-- What is warned of are the file names that are repeated. -/
theorem overwriting_mem_headerEvents_iff {n : Nat} {f : String} :
    overwriting n f ∈ s.headerEvents ↔
      ∃ x ∈ repeated (beforeError s.declarations).reduceOption,
        overwriting x.line x.filename = overwriting n f := by
  constructor
  · intro h
    rcases List.mem_append.1 h with h | h
    · exact List.mem_map.1 h
    · -- the number of directives is no warning
      cases hdirectives : s.directives <;> simp [hdirectives, overwriting] at h
  · exact fun h => List.mem_append_left _ (List.mem_map.2 h)

/-- A header that is accepted warns of a line when an earlier directive has the same file name, as
it is written. -/
theorem announces_line_iff (h : s.directives = .ok ds) (hd : ds[j]? = some d) :
    s.Announces d.line ↔ ∃ e ∈ ds.take j, e.filename = d.filename := by
  have hlines := nodup_line h
  obtain ⟨declared, hdeclared, -, rfl⟩ := directives_eq_ok.1 h
  rw [map_line_number] at hlines
  rw [getElem?_number] at hd
  obtain ⟨x, hx, rfl⟩ := Option.map_eq_some_iff.1 hd
  have hearlier : (∃ e ∈ (Directive.number declared.reduceOption).take j,
      e.filename = x.filename) ↔ ∃ y ∈ declared.reduceOption.take j, y.filename = x.filename := by
    rw [← List.mem_map, ← List.mem_map, List.map_take, map_filename_number, List.map_take]
  simp only [Announces, overwriting_mem_headerEvents_iff, beforeError_eq hdeclared,
    mem_repeated_iff, hearlier]
  constructor
  · rintro ⟨f, y, ⟨k, hk, hrepeated⟩, hsame⟩
    -- no two declarations stand on one line, so the line tells which of them is repeated
    have hline : declared.reduceOption[k]?.map Declaration.line =
        declared.reduceOption[j]?.map Declaration.line := by
      rw [hk, hx]
      exact congrArg some (overwriting_line_inj hsame)
    rw [← List.getElem?_map, ← List.getElem?_map] at hline
    have hk' : k < (declared.reduceOption.map Declaration.line).length := by
      rw [List.length_map]
      exact (List.getElem?_eq_some_iff.1 hk).1
    obtain rfl := (List.getElem?_inj hk' hlines).1 hline
    obtain rfl := Option.some.inj (hk.symm.trans hx)
    exact hrepeated
  · intro hrepeated
    exact ⟨x.filename, x, ⟨j, hx, hrepeated⟩, rfl⟩

/-! ### Files that are overwritten -/

/-- Declared files that can be reached are the same file when they are the same location. -/
theorem sameFile_iff_of_denotes {store : Store} {dir : Path} {f g : String} {l k : Location}
    (hf : Declared.IsFilename f) (hg : Declared.IsFilename g)
    (hl : store.Denotes (dir.join ⟨f⟩) l) (hk : store.Denotes (dir.join ⟨g⟩) k) :
    Path.SameFile (dir.join ⟨f⟩) (dir.join ⟨g⟩) ↔ l = k := by
  have hfabs := Path.isAbsolute_of_isFilename hf
  have hgabs := Path.isAbsolute_of_isFilename hg
  rw [← Store.locate_of_denotes hl, ← Store.locate_of_denotes hk, Store.locate, Store.locate,
    Path.sameFile_join_iff hfabs hgabs, ← Path.location_join_eq_iff hfabs
    (fun h => (hf.stays _ h).1 rfl) (fun h => (hf.stays _ h).2 rfl) hgabs
    (fun h => (hg.stays _ h).1 rfl) (fun h => (hg.stays _ h).2 rfl)]

/-- A header that is accepted warns of a line when an earlier directive has its file name, as it is
written. So it warns only of lines that overwrite a file, and of all of them just when a file that
is declared again in any spelling was declared in the same spelling, too. Tidy file names have one
spelling only. -/
theorem announces_iff (s : Source) {ds : List Directive} (h : s.directives = .ok ds) (dir : Path)
    {j : Nat} {d : Directive} (hd : ds[j]? = some d) :
    (s.Announces d.line ↔ ∃ e ∈ ds.take j, e.filename = d.filename) ∧
    (s.Announces d.line → ∃ e ∈ ds.take j,
      Path.SameFile (dir.join ⟨e.filename⟩) (dir.join ⟨d.filename⟩)) ∧
    ((s.Announces d.line ↔ ∃ e ∈ ds.take j,
        Path.SameFile (dir.join ⟨e.filename⟩) (dir.join ⟨d.filename⟩)) ↔
      ((∃ e ∈ ds.take j, Path.SameFile ⟨e.filename⟩ ⟨d.filename⟩) →
        ∃ e ∈ ds.take j, e.filename = d.filename)) ∧
    ((∀ e ∈ ds.take (j + 1), Path.IsTidy ⟨e.filename⟩) →
      (s.Announces d.line ↔ ∃ e ∈ ds.take j,
        Path.SameFile (dir.join ⟨e.filename⟩) (dir.join ⟨d.filename⟩))) := by
  have hd_mem : d ∈ ds.take (j + 1) := by
    rw [List.take_add_one, hd]
    simp
  have hrelative : ∀ e ∈ ds.take (j + 1), (⟨e.filename⟩ : Path).isAbsolute = false := fun e he =>
    Path.isAbsolute_of_isFilename (isFilename_of_directives h (List.mem_of_mem_take he))
  have hsub {e : Directive} (he : e ∈ ds.take j) : e ∈ ds.take (j + 1) :=
    List.take_subset_take_left ds (Nat.le_succ j) he
  have hjoin : (∃ e ∈ ds.take j,
      Path.SameFile (dir.join ⟨e.filename⟩) (dir.join ⟨d.filename⟩)) ↔
      ∃ e ∈ ds.take j, Path.SameFile ⟨e.filename⟩ ⟨d.filename⟩ :=
    exists_congr fun e => and_congr_right fun he =>
      Path.sameFile_join_iff (hrelative e (hsub he)) (hrelative d hd_mem)
  have hverbatim : (∃ e ∈ ds.take j, e.filename = d.filename) →
      ∃ e ∈ ds.take j, Path.SameFile ⟨e.filename⟩ ⟨d.filename⟩ := by
    rintro ⟨e, he, hsame⟩
    exact ⟨e, he, hsame ▸ Path.SameFile.refl _⟩
  rw [hjoin, announces_line_iff h hd]
  refine ⟨Iff.rfl, hverbatim, ⟨fun hiff => hiff.2, fun hagain => ⟨hverbatim, hagain⟩⟩, fun htidy =>
    ⟨hverbatim, ?_⟩⟩
  rintro ⟨e, he, hsame⟩
  have hpath := (htidy e (hsub he)).eq_of_sameFile (htidy d hd_mem) hsame
  exact ⟨e, he, Path.mk.inj hpath⟩

/-- A header that declares a file twice, with another one in between. -/
def repeatingSource : Source :=
  ⟨⟨"t"⟩, "## a.txt v=1;\n## sub/b.txt v=2;\n## a.txt v=3;\n${v}\n", .standard⟩

/-- It is warned of the third line and not of the second. -/
theorem announces_iff_repeating :
    repeatingSource.Announces 3 ∧ ¬ repeatingSource.Announces 2 := by
  have hdirectives : repeatingSource.directives = .ok [⟨"a.txt", "v=1;", 0, 1⟩,
      ⟨"sub/b.txt", "v=2;", 1, 2⟩, ⟨"a.txt", "v=3;", 2, 3⟩] :=
    eq_ok_of_toOption (by decide +kernel)
  obtain ⟨-, -, -, hthird⟩ := announces_iff repeatingSource hdirectives ⟨"gen"⟩ (j := 2) rfl
  obtain ⟨hsecond, -⟩ := announces_iff repeatingSource hdirectives ⟨"gen"⟩ (j := 1) rfl
  refine ⟨(hthird (by decide +kernel)).2 ⟨_, List.mem_cons_self, Path.SameFile.refl _⟩,
    fun hannounces => ?_⟩
  obtain ⟨e, he, hname⟩ := hsecond.1 hannounces
  obtain rfl := List.mem_singleton.1 he
  exact absurd hname (by decide)

/-- A file that is declared again in another spelling is overwritten without a warning. -/
theorem not_announces_iff :
    ¬ ∀ (s : Source) (ds : List Directive) (dir : Path) (j : Nat) (d : Directive),
      s.directives = .ok ds → ds[j]? = some d →
      (s.Announces d.line ↔ ∃ e ∈ ds.take j,
        Path.SameFile (dir.join ⟨e.filename⟩) (dir.join ⟨d.filename⟩)) := by
  intro h
  let source : Source := ⟨⟨"t.mako"⟩, "## a.txt v=1;\n## ./a.txt v=2;\n${v}\n", .standard⟩
  have hdirectives : source.directives =
      .ok [⟨"a.txt", "v=1;", 0, 1⟩, ⟨"./a.txt", "v=2;", 1, 2⟩] :=
    eq_ok_of_toOption (by decide +kernel)
  have hsame : Path.SameFile (Path.join ⟨"gen"⟩ ⟨"a.txt"⟩) (Path.join ⟨"gen"⟩ ⟨"./a.txt"⟩) := by
    decide +kernel
  have hannounces := (h source _ ⟨"gen"⟩ 1 _ hdirectives rfl).2 ⟨_, List.mem_cons_self, hsame⟩
  obtain ⟨e, he, hname⟩ := (announces_line_iff hdirectives (j := 1) rfl).1 hannounces
  obtain rfl := List.mem_singleton.1 he
  exact absurd hname (by decide)

end Source

end Imprint
