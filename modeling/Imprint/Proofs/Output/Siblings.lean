import Imprint.Config.Basic
import Imprint.Output.Staged
import Imprint.Proofs.Store.Denotation

/-!
# The three paths of a staged output

An output stands at three paths while it is written: the final one, the one with a text in front of
its name, and that one with an ending. When the text in front can stand in front of a name, the
three are names in one directory, and no two of them denote the same location.

## Main definitions

* `Imprint.Output.Staged.Separate`: three paths that never denote the same location.
* `Imprint.Output.Staged.ResultApart`: a path for the result that is apart from the two others.

## Main results

* `Imprint.Output.Staged.components_ofFinal`: the three paths are names in one directory.
* `Imprint.Output.Staged.separate_ofFinal`: they are separate.
* `Imprint.Output.Staged.resultApart_ofFinal`: whatever stands in front of the name, the path for
  the result is apart.
-/

namespace Imprint

namespace Path

/-- A plain name with a text in front that can stand in front of a name. -/
theorem isPlain_front_append {front n : String} (hfront : Config.isNamePrefix front = true)
    (hn : IsPlain n) : IsPlain (front ++ n) := by
  simp only [Config.isNamePrefix, Bool.and_eq_true, Bool.not_eq_true', List.all_eq_true,
    bne_iff_ne, String.isEmpty_eq_false_iff] at hfront
  obtain ⟨hne, hchars⟩ := hfront
  obtain ⟨c, r, hcr⟩ := List.exists_cons_of_ne_nil (mt String.toList_eq_nil_iff.1 hne)
  have hn' : n.toList ≠ [] := mt String.toList_eq_nil_iff.1 hn.1
  have htext : (front ++ n).toList = c :: (r ++ n.toList) := by simp [hcr]
  refine ⟨?_, ?_, ?_, ?_⟩
  · rw [ne_eq, ← String.toList_inj, htext]
    simp
  · rw [ne_eq, ← String.toList_inj, htext]
    simp [hn']
  · -- a `..` would have a `.` for its name
    rw [ne_eq, ← String.toList_inj, htext]
    intro h
    obtain ⟨-, h⟩ : c = '.' ∧ r ++ n.toList = ['.'] := by simpa using h
    rcases List.append_eq_singleton_iff.1 h with ⟨-, h⟩ | ⟨-, h⟩
    · exact hn.2.1 (String.toList_inj.1 h)
    · exact hn' h
  · rw [String.toList_append, List.mem_append, not_or]
    exact ⟨fun h => (hchars '/' h).1 rfl, hn.2.2.2⟩

/-- A plain name with an ending of two characters or more. -/
theorem isPlain_append_ending {n : String} (hn : IsPlain n) (ending : String)
    (hslash : '/' ∉ ending.toList) (hlong : 2 ≤ ending.length) : IsPlain (n ++ ending) := by
  have hlen : 3 ≤ (n ++ ending).length := by
    have hpos : 0 < n.toList.length := List.length_pos_iff.2 (mt String.toList_eq_nil_iff.1 hn.1)
    rw [String.length_append]
    simp only [String.length_toList] at hpos
    omega
  refine ⟨?_, ?_, ?_, ?_⟩
  · rintro h
    simp [h] at hlen
  · rintro h
    simp [h, show (".").length = 1 from rfl] at hlen
  · rintro h
    simp [h, show ("..").length = 2 from rfl] at hlen
  · simp [hn.2.2.2, hslash]

/-- An ending of a sibling is an ending of its name. -/
theorem withFileName_append {p : Path} {n m : String} (h : p.fileName? = some n) (hm : IsPlain m)
    (ending : String) :
    (⟨(p.withFileName m).text ++ ending⟩ : Path) = p.withFileName (m ++ ending) := by
  obtain ⟨q, hq, -⟩ := parent?_of_fileName? h
  have hlong : (⟨m ++ ending⟩ : Path).isAbsolute = false := by
    obtain ⟨c, r, hcr⟩ := List.exists_cons_of_ne_nil (mt String.toList_eq_nil_iff.1 hm.1)
    have := hm.not_isAbsolute
    simp only [isAbsolute, hcr, String.toList_append] at this ⊢
    simpa using this
  simp only [withFileName, h, hq, join, hm.not_isAbsolute, hlong, Bool.false_eq_true, ↓reduceIte]
  split <;> simp [String.append_assoc]

end Path

namespace Output.Staged

open Imprint.Path

/-- No two of the three paths are about the same location. -/
structure Separate (w : Staged) : Prop where
  staging_final : ∀ s : Store, s.locate w.staging ≠ s.locate w.final
  result_final : ∀ s : Store, s.locate w.result ≠ s.locate w.final
  staging_result : ∀ s : Store, s.locate w.staging ≠ s.locate w.result

variable {final : Path} {content : List Char} {front n : String} {f : Config.Formatter}

/-- The three paths are names in one directory. -/
theorem components_ofFinal (hname : final.fileName? = some n)
    (hfront : Config.isNamePrefix front = true) :
    let w := ofFinal final content front f
    ∃ cs, w.final.components = cs ++ [.name n] ∧
      w.staging.components = cs ++ [.name (front ++ n)] ∧
      w.result.components = cs ++ [.name (front ++ n ++ ".formatted")] := by
  intro w
  have hplain := isPlain_front_append hfront (isPlain_of_fileName? hname)
  have hplain' := isPlain_append_ending hplain ".formatted" (by decide) (by decide)
  have hstaging : w.staging = final.withFileName (front ++ n) := by
    simp [w, ofFinal, OutputName.staging, hname]
  have hresult : w.result = final.withFileName (front ++ n ++ ".formatted") := by
    rw [← withFileName_append hname hplain, ← hstaging]
    rfl
  obtain ⟨cs, hcs, hcs'⟩ := components_withFileName hname hplain
  obtain ⟨cs', hcs'', hcs'''⟩ := components_withFileName hname hplain'
  obtain rfl : cs = cs' := List.append_cancel_right (hcs.symm.trans hcs'')
  exact ⟨cs, hcs, hstaging ▸ hcs', hresult ▸ hcs'''⟩

/-- The three paths of an output are separate. -/
theorem separate_ofFinal (hname : final.fileName? = some n)
    (hfront : Config.isNamePrefix front = true) : (ofFinal final content front f).Separate := by
  obtain ⟨cs, hfinal, hstaging, hresult⟩ :=
    @components_ofFinal final content front n f hname hfront
  have hfn : 0 < front.length := by
    simp only [Config.isNamePrefix, Bool.and_eq_true, Bool.not_eq_true',
      String.isEmpty_eq_false_iff] at hfront
    exact Nat.pos_of_ne_zero (mt String.length_eq_zero_iff.1 hfront.1)
  have hne : ∀ a b : String, a.length ≠ b.length → a ≠ b := fun a b h hab => h (hab ▸ rfl)
  have hending : (".formatted").length = 10 := rfl
  refine ⟨fun s => ?_, fun s => ?_, fun s => ?_⟩
  · refine location_ne_of_name_ne s.site.cwd hstaging hfinal (hne _ _ ?_)
    simp only [String.length_append]
    omega
  · refine location_ne_of_name_ne s.site.cwd hresult hfinal (hne _ _ ?_)
    simp only [String.length_append]
    omega
  · refine location_ne_of_name_ne s.site.cwd hstaging hresult (hne _ _ ?_)
    simp only [String.length_append]
    omega

/-! ### Whatever stands in front of the name -/

/-- The last name of a path with an ending has the ending. -/
theorem exists_of_denotes_append {text ending : String} (hending : '/' ∉ ending.toList) {s : Store}
    {l : Location} (h : s.Denotes ⟨text ++ ending⟩ l) : ∃ m a, l = m ++ [a ++ ending] := by
  obtain ⟨m, a, init, rfl, -, hsegs⟩ := h.segments
  obtain ⟨init', last, -, hsegs'⟩ := Text.segments_append_of_notMem hending text.toList
  have hlast : last ++ ending.toList = a.toList := by
    have heq : init' ++ [last ++ ending.toList] = init ++ [a.toList] := by
      rw [← hsegs', ← hsegs, Path.segments, String.toList_append]
    exact List.singleton_inj.1 (List.append_inj' heq rfl).2
  refine ⟨m, String.ofList last, ?_⟩
  rw [← String.ofList_toList (s := a), ← hlast, String.ofList_append, String.ofList_toList]

/-- A sibling keeps the ending of its name. -/
theorem exists_text_withFileName (p : Path) (front ending : String) :
    ∃ text, (p.withFileName (front ++ ending)).text = text ++ ending := by
  have hjoin (q : Path) : ∃ text, (q.join ⟨front ++ ending⟩).text = text ++ ending := by
    simp only [join]
    split
    · exact ⟨front, rfl⟩
    · split
      · exact ⟨q.text ++ front, (String.append_assoc ..).symm⟩
      · exact ⟨q.text ++ "/" ++ front, (String.append_assoc ..).symm⟩
  simp only [withFileName]
  split <;> exact hjoin _

/-- The path for the result never denotes what one of the other paths denotes. -/
structure ResultApart (w : Staged) : Prop where
  final : ∀ {s t : Store} {k l : Location}, s.Denotes w.final k → t.Denotes w.result l → l ≠ k
  staging : ∀ {s t : Store} {k l : Location}, s.Denotes w.staging k → t.Denotes w.result l → l ≠ k

variable {s t : Store} {k l : Location}

/-- The path for the result denotes another location than the final path. -/
theorem ne_of_denotes_result_final (hfinal : s.Denotes final k)
    (hresult : t.Denotes (ofFinal final content front f).result l) : l ≠ k := by
  obtain ⟨m, n, rfl, hname⟩ := Store.fileName?_of_denotes hfinal
  obtain ⟨text, htext⟩ := exists_text_withFileName final front n
  have hslash : '/' ∉ (n ++ ".formatted").toList :=
    (isPlain_append_ending (isPlain_of_fileName? hname) _ (by decide) (by decide)).2.2.2
  have hpath : (ofFinal final content front f).result = ⟨text ++ (n ++ ".formatted")⟩ := by
    simp only [ofFinal, OutputName.formatted, OutputName.staging, hname, Option.getD_some, htext,
      String.append_assoc]
  rw [hpath] at hresult
  obtain ⟨m', a, rfl⟩ := exists_of_denotes_append hslash hresult
  intro h
  have hlen := congrArg String.length (List.singleton_inj.1 (List.append_inj' h rfl).2)
  simp only [String.length_append, show (".formatted").length = 10 from rfl] at hlen
  omega

/-- The path for the result denotes another location than the path for staging. -/
theorem ne_of_denotes_result_staging
    (hstaging : s.Denotes (ofFinal final content front f).staging k)
    (hresult : t.Denotes (ofFinal final content front f).result l) : l ≠ k := by
  obtain ⟨m, n, init, rfl, -, hsegs⟩ := hstaging.segments
  have hslash : '/' ∉ (".formatted").toList := by decide
  obtain ⟨init', last, hsegs', hsegs''⟩ := Text.segments_append_of_notMem hslash
    (ofFinal final content front f).staging.text.toList
  obtain ⟨m', a, init'', rfl, -, hresult⟩ := hresult.segments
  have hlast : last = n.toList :=
    List.singleton_inj.1 (List.append_inj' (hsegs'.symm.trans hsegs) rfl).2
  have hending : last ++ (".formatted").toList = a.toList := by
    have hpath : (ofFinal final content front f).result.segments =
        init' ++ [last ++ (".formatted").toList] := by
      rw [← hsegs'', ← String.toList_append]
      rfl
    exact List.singleton_inj.1 (List.append_inj' (hpath.symm.trans hresult) rfl).2
  intro h
  have han : a = n := List.singleton_inj.1 (List.append_inj' h rfl).2
  have hlen := congrArg List.length hending
  simp only [hlast, han, List.length_append] at hlen
  exact absurd hlen (by simp)

/-- The path for the result is apart from the others, whatever stands in front of the name. -/
theorem resultApart_ofFinal (final : Path) (content : List Char) (front : String)
    (f : Config.Formatter) : (ofFinal final content front f).ResultApart where
  final := ne_of_denotes_result_final
  staging := ne_of_denotes_result_staging

end Output.Staged

end Imprint
