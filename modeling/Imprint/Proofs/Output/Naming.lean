import Imprint.OutputName
import Imprint.Proofs.Output.Siblings
import Imprint.Proofs.Path.Parent
import Imprint.Proofs.Text.Removal

/-!
# The names of an output

The name of a single output is what is left of the file name of its template when every occurrence
of the suffix is removed. Removing may bring a new occurrence together, but only where pieces of the
file name meet, and it always makes the name shorter. So the output is no other spelling of the
template.

While the output is written it stands under two more names, which only add to its own. So the three
paths are siblings, none of them is another one, and different outputs are staged in different
places.

## Main results

* `Imprint.OutputName.derive_eq_ok_iff`: which name is derived, and when.
* `Imprint.OutputName.derive_sibling`: an output with a derived name stands beside its template.
* `Imprint.OutputName.staging_siblings`: the paths at which an output is staged.
-/

namespace Imprint.OutputName

open Imprint.Path Imprint.Text

variable {template final : Path} {suffix name n : String} {ps : List (List Char)} {c : Config}

/-! ### Derived names -/

/-- The name that is derived is what is left of the file name; it has to be there and to differ. -/
theorem derive_eq_ok_iff (hsuffix : suffix ≠ "")
    (hps : Pieces suffix.toList (template.fileName?.getD "").toList ps) :
    derive template suffix = .ok name ↔
      name.toList = ps.flatten ∧ name ≠ "" ∧ name ≠ template.fileName?.getD "" := by
  have hne : suffix.toList ≠ [] := mt String.toList_eq_nil_iff.1 hsuffix
  have hname : name.toList = ps.flatten ↔ String.ofList ps.flatten = name :=
    ⟨fun h => h ▸ String.ofList_toList, fun h => h ▸ String.toList_ofList⟩
  simp only [derive, hps.replaceAll_nil hne, hname, Bool.or_eq_true, decide_eq_true_eq,
    String.isEmpty_iff]
  split
  · next h =>
    refine iff_of_false (by simp) ?_
    rintro ⟨rfl, hempty, hfile⟩
    exact h.elim hfile hempty
  · next h =>
    rw [not_or] at h
    simp only [Except.ok.injEq]
    constructor
    · rintro rfl
      exact ⟨rfl, h.2, h.1⟩
    · exact And.left

/-- No name is derived only when the suffix does not occur, or nothing is left. -/
theorem derive_eq_error (hsuffix : suffix ≠ "") {e : Collision}
    (hps : Pieces suffix.toList (template.fileName?.getD "").toList ps)
    (h : derive template suffix = .error e) :
    ¬ suffix.toList <:+: (template.fileName?.getD "").toList ∨ ps.flatten = [] := by
  by_contra hnot
  rw [not_or, not_not] at hnot
  have hne : suffix.toList ≠ [] := mt String.toList_eq_nil_iff.1 hsuffix
  have hok : derive template suffix = .ok (String.ofList ps.flatten) := by
    refine (derive_eq_ok_iff hsuffix hps).2
      ⟨String.toList_ofList, fun hempty => ?_, fun hfile => ?_⟩
    · exact hnot.2 (by rw [← String.toList_ofList (l := ps.flatten), hempty]; rfl)
    · refine (hps.flatten_eq_iff hne).1 ?_ hnot.1
      rw [← String.toList_ofList (l := ps.flatten), hfile]
  rw [hok] at h
  cases h

/-- A derived name stands for the file name of the template without the suffix. -/
theorem exists_file_of_derive (hsuffix : suffix ≠ "") (h : derive template suffix = .ok name) :
    ∃ file ps, template.fileName? = some file ∧ Pieces suffix.toList file.toList ps ∧
      2 ≤ ps.length ∧ name.toList = ps.flatten ∧ name ≠ file := by
  have hne : suffix.toList ≠ [] := mt String.toList_eq_nil_iff.1 hsuffix
  obtain ⟨ps, hps⟩ := exists_pieces hne (template.fileName?.getD "").toList
  obtain ⟨hname, hempty, hfile⟩ := (derive_eq_ok_iff hsuffix hps).1 h
  have hoccurs : suffix.toList <:+: (template.fileName?.getD "").toList := by
    by_contra hnot
    exact hfile (String.toList_inj.1 (hname.trans ((hps.flatten_eq_iff hne).2 hnot)))
  cases hf : template.fileName? with
  | none =>
    rw [hf] at hoccurs
    exact absurd (List.infix_nil.1 hoccurs) hne
  | some file =>
    rw [hf] at hps hfile hoccurs
    exact ⟨file, ps, rfl, hps, hps.two_le_length hoccurs, hname, hfile⟩

/-- A derived name is what the pieces of the file name make together, in none of which the suffix
stands, and it is not the file name. When it is a name at all, the output is a sibling of the
template. No name is derived only when the suffix does not occur or no name is left. -/
theorem derive_sibling (hsuffix : suffix ≠ "") (template : Path) :
    (∀ name, derive template suffix = .ok name →
      (∃ file ps, template.fileName? = some file ∧ Pieces suffix.toList file.toList ps ∧
        2 ≤ ps.length ∧ (∀ p ∈ ps, ¬ suffix.toList <:+: p) ∧ name.toList = ps.flatten ∧
        name ≠ file) ∧
      name ≠ "" ∧ '/' ∉ name.toList ∧
      (name ≠ "." → name ≠ ".." → IsPlain name ∧
        (template.withFileName name).fileName? = some name ∧
        (template.withFileName name).parent? = template.parent? ∧
        (template.withFileName name).components ≠ template.components)) ∧
    ((∃ e, derive template suffix = .error e) →
      ¬ suffix.toList <:+: (template.fileName?.getD "").toList ∨
        ∀ ps, Pieces suffix.toList (template.fileName?.getD "").toList ps →
          ¬ IsPlain (String.ofList ps.flatten)) := by
  have hne : suffix.toList ≠ [] := mt String.toList_eq_nil_iff.1 hsuffix
  refine ⟨fun name h => ?_, fun ⟨e, h⟩ => ?_⟩
  · obtain ⟨file, ps, hfile, hps, htwo, hname, hdiffers⟩ := exists_file_of_derive hsuffix h
    have hslash : '/' ∉ name.toList := fun hmem =>
      (isPlain_of_fileName? hfile).2.2.2 (hps.mem_of_mem_flatten (hname ▸ hmem))
    have hempty : name ≠ "" := by
      obtain ⟨ps', hps'⟩ := exists_pieces hne (template.fileName?.getD "").toList
      exact ((derive_eq_ok_iff hsuffix hps').1 h).2.1
    refine ⟨⟨file, ps, hfile, hps, htwo, hps.not_isInfix, hname, hdiffers⟩, hempty, hslash, ?_⟩
    intro hdot hdots
    have hplain : IsPlain name := ⟨hempty, hdot, hdots, hslash⟩
    exact ⟨hplain, fileName?_withFileName hfile hplain, parent?_withFileName hfile hplain,
      mt (components_withFileName_eq_iff hfile hplain).1 hdiffers⟩
  · obtain ⟨ps, hps⟩ := exists_pieces hne (template.fileName?.getD "").toList
    refine (derive_eq_error hsuffix hps h).imp_right fun hnil ps' hps' hplain => ?_
    have heq : ps'.flatten = ps.flatten := by
      rw [← hps'.replaceAll_nil hne, hps.replaceAll_nil hne]
    exact hplain.1 (by rw [heq, hnil])

/-- The suffix that comes together where the first one was removed stays in the name. -/
theorem derive_sibling_rejoined :
    ".mako" ≠ "" ∧ derive ⟨"gen/x.ma.makoko"⟩ ".mako" = .ok "x.mako" ∧
      (⟨"gen/x.mako"⟩ : Path).parent? = (⟨"gen/x.ma.makoko"⟩ : Path).parent? ∧
      (⟨"gen/x.mako"⟩ : Path).components ≠ (⟨"gen/x.ma.makoko"⟩ : Path).components := by
  have hsuffix : ".mako" ≠ "" := by decide
  have hname : derive ⟨"gen/x.ma.makoko"⟩ ".mako" = .ok "x.mako" := by decide +kernel
  obtain ⟨-, -, -, hsibling⟩ := (derive_sibling hsuffix ⟨"gen/x.ma.makoko"⟩).1 _ hname
  obtain ⟨-, -, hparent, hdiffers⟩ := hsibling (by decide) (by decide)
  exact ⟨hsuffix, hname, hparent, hdiffers⟩

/-- A derived name need not be free of the suffix. -/
theorem not_derive_suffixFree :
    ¬ ∀ (template : Path) (suffix name : String), suffix ≠ "" →
      derive template suffix = .ok name → ¬ suffix.toList <:+: name.toList := by
  intro h
  exact h ⟨"x.ma.makoko"⟩ ".mako" "x.mako" (by decide) (by decide +kernel) ⟨['x'], [], rfl⟩

/-! ### Staging -/

/-- What a valid configuration puts in front of a name can stand there. -/
theorem isNamePrefix_of_check (h : c.check = .ok ()) :
    Config.isNamePrefix c.stagingPrefix = true := by
  unfold Config.check at h
  split at h
  · cases h
  · split at h
    · cases h
    · split at h
      · cases h
      · next hfront => simpa using hfront

theorem length_ne_zero_of_check (h : c.check = .ok ()) : c.stagingPrefix.length ≠ 0 := by
  have hfront := isNamePrefix_of_check h
  simp only [Config.isNamePrefix, Bool.and_eq_true, Bool.not_eq_true',
    String.isEmpty_eq_false_iff] at hfront
  exact mt String.length_eq_zero_iff.1 hfront.1

/-- The staging path of an output is a sibling of it. -/
theorem staging_eq (hname : final.fileName? = some n) (front : String) :
    staging final front = final.withFileName (front ++ n) := by
  rw [staging, hname, Option.getD_some]

/-- The path of the formatted result is a sibling, too. -/
theorem formatted_staging_eq (hvalid : c.check = .ok ()) (hname : final.fileName? = some n) :
    formatted (staging final c.stagingPrefix) =
      final.withFileName (c.stagingPrefix ++ n ++ ".formatted") := by
  have hplain := isPlain_front_append (isNamePrefix_of_check hvalid) (isPlain_of_fileName? hname)
  rw [← withFileName_append hname hplain, ← staging_eq hname]
  rfl

/-- Outputs that are staged in one place are one output. -/
theorem components_eq_of_staging (hvalid : c.check = .ok ()) (hname : final.fileName? = some n)
    {q : Path} {m : String} (hq : q.fileName? = some m)
    (h : (staging q c.stagingPrefix).components = (staging final c.stagingPrefix).components) :
    m = n ∧ q.components = final.components := by
  have hfront := isNamePrefix_of_check hvalid
  rw [staging_eq hq, staging_eq hname] at h
  obtain ⟨cs, hcs, hstaged⟩ := components_withFileName hname
    (isPlain_front_append hfront (isPlain_of_fileName? hname))
  obtain ⟨cs', hcs', hstaged'⟩ := components_withFileName hq
    (isPlain_front_append hfront (isPlain_of_fileName? hq))
  obtain ⟨rfl, hlast⟩ := List.append_inj' (hstaged'.symm.trans (h.trans hstaged)) rfl
  have hnames : c.stagingPrefix ++ m = c.stagingPrefix ++ n := by simpa using hlast
  obtain rfl : m = n := by
    rw [← String.toList_inj, String.toList_append, String.toList_append] at hnames
    exact String.toList_inj.1 (List.append_cancel_left hnames)
  exact ⟨rfl, hcs'.trans hcs.symm⟩

/-- The paths at which an output is staged have names of their own in its directory. No two of the
three say the same or are about one location, and the staging path tells which output it is for. -/
theorem staging_siblings (hvalid : c.check = .ok ()) (hname : final.fileName? = some n) :
    let staged := staging final c.stagingPrefix
    (∃ dir, final.parent? = some dir ∧ staged.parent? = some dir ∧
      (formatted staged).parent? = some dir) ∧
    staged.fileName? = some (c.stagingPrefix ++ n) ∧
    (formatted staged).fileName? = some (c.stagingPrefix ++ n ++ ".formatted") ∧
    [final, staged, formatted staged].Pairwise (fun p q => p.components ≠ q.components) ∧
    (∀ content f, (Output.Staged.ofFinal final content c.stagingPrefix f).Separate) ∧
    ∀ q m, q.fileName? = some m →
      (staging q c.stagingPrefix).components = staged.components →
        m = n ∧ q.components = final.components := by
  intro staged
  have hfront := isNamePrefix_of_check hvalid
  have hplain := isPlain_front_append hfront (isPlain_of_fileName? hname)
  have hplain' := isPlain_append_ending hplain ".formatted" (by decide) (by decide)
  have hstaged : staged = final.withFileName (c.stagingPrefix ++ n) := staging_eq hname _
  have hformatted : formatted staged = final.withFileName (c.stagingPrefix ++ n ++ ".formatted") :=
    formatted_staging_eq hvalid hname
  obtain ⟨dir, hdir, -⟩ := parent?_of_fileName? hname
  have hdistinct : [final, staged, formatted staged].Pairwise
      (fun p q => p.components ≠ q.components) := by
    obtain ⟨cs, hcs, hcs', hcs''⟩ :=
      @Output.Staged.components_ofFinal final [] c.stagingPrefix n c.formatter hname hfront
    replace hcs : final.components = cs ++ [.name n] := hcs
    replace hcs' : staged.components = cs ++ [.name (c.stagingPrefix ++ n)] := hcs'
    replace hcs'' : (formatted staged).components =
        cs ++ [.name (c.stagingPrefix ++ n ++ ".formatted")] := hcs''
    have hlong := length_ne_zero_of_check hvalid
    have hending : (".formatted").length = 10 := rfl
    simp only [List.pairwise_cons, List.mem_cons, List.not_mem_nil, or_false, forall_eq_or_imp,
      forall_eq, hcs, hcs', hcs'', ne_eq, List.append_cancel_left_eq, List.cons.injEq,
      Component.name.injEq, and_true, false_implies, implies_true, List.Pairwise.nil]
    -- each name is longer than the one before
    refine ⟨⟨?_, ?_⟩, ?_⟩ <;> refine ne_of_apply_ne String.length ?_ <;>
      simp only [String.length_append] <;> omega
  refine ⟨⟨dir, hdir, ?_, ?_⟩, ?_, ?_, hdistinct,
    fun _ _ => Output.Staged.separate_ofFinal hname hfront,
    fun q m hq => components_eq_of_staging hvalid hname hq⟩
  · rw [hstaged, parent?_withFileName hname hplain, hdir]
  · rw [hformatted, parent?_withFileName hname hplain', hdir]
  · rw [hstaged, fileName?_withFileName hname hplain]
  · rw [hformatted, fileName?_withFileName hname hplain']

/-- Dots in front of a name make another name, not another place. -/
theorem staging_siblings_dots :
    let c : Config := { stagingPrefix := ".." }
    let final : Path := ⟨"b/../x.txt/"⟩
    c.check = .ok () ∧ final.fileName? = some "x.txt" ∧
      (∃ dir, final.parent? = some dir ∧ (staging final c.stagingPrefix).parent? = some dir ∧
        (formatted (staging final c.stagingPrefix)).parent? = some dir) ∧
      (staging final c.stagingPrefix).fileName? = some "..x.txt" := by
  intro c final
  have hvalid : c.check = .ok () := by decide +kernel
  have hname : final.fileName? = some "x.txt" := by decide +kernel
  obtain ⟨hparents, hstaged, -⟩ := staging_siblings hvalid hname
  exact ⟨hvalid, hname, hparents, hstaged⟩

end Imprint.OutputName
