import Mathlib.Data.List.ReduceOption
import Mathlib.Data.List.TakeWhile
import Imprint.Directive
import Imprint.Proofs.Binding.Written
import Imprint.Run.Request

/-!
# Headers that are written and read

A header is written with one line for each output: the marker, the file name and the list of
variables, with a blank between two of them. It is read back as the outputs that were written, in
their order and numbered from the first line on, when nothing in a file name, a key or a value is
taken for an end of it. The outputs of any header that can be read are of this kind, so a header
that has been read can be written anew without a change to what it says.

## Main definitions

* `Imprint.Declared`: an output as a header declares it.
* `Imprint.Declared.WellFormed`: outputs that can be written.
* `Imprint.Source.declaring`: a template with a written header.
* `Imprint.Source.resolved`: the directives of a header with their bindings.

## Main results

* `Imprint.Source.resolved_declaring`: reading what was written.
* `Imprint.Source.wellFormed_of_resolved`: what is read can be written.
* `Imprint.Source.header_roundTrip`: both ways.
-/

namespace Imprint

variable {known : Option (List String)} {m : Marker}

/-! ### Written headers -/

/-- An output as a header declares it. -/
structure Declared where
  filename : String
  binding : Binding

namespace Declared

/-- A file name that can be written on a header line. -/
structure IsFilename (filename : String) : Prop where
  nonempty : filename ≠ ""
  no_blank : ∀ c ∈ filename.toList, Text.isBlank c = false
  stays : ∀ c ∈ Path.components ⟨filename⟩, c ≠ .parent ∧ c ≠ .root

instance (filename : String) : Decidable (IsFilename filename) :=
  decidable_of_iff (filename ≠ "" ∧ filename.toList.all (!Text.isBlank ·) = true ∧
    ∀ c ∈ Path.components ⟨filename⟩, c ≠ .parent ∧ c ≠ .root)
    ⟨fun h => ⟨h.1, by simpa using h.2.1, h.2.2⟩,
      fun h => ⟨h.nonempty, by simpa using h.no_blank, h.stays⟩⟩

/-- An output that can be written on a header line. -/
structure WellFormed (d : Declared) : Prop where
  filename : IsFilename d.filename
  binding : d.binding.Writable

/-- The header line of an output. -/
def line (m : Marker) (d : Declared) : List Char :=
  m.chars ++ ' ' :: (d.filename.toList ++ ' ' :: d.binding.written)

/-- The directive that the header line of an output is read as, at a place from zero. -/
def directive (d : Declared) (index : Nat) : Directive :=
  ⟨d.filename, String.ofList d.binding.written, index, index + 1⟩

/-- Outputs with the directives that their header lines are read as. -/
def numbered (ds : List Declared) : List (Directive × Binding) :=
  ds.zipIdx.map fun x => (x.1.directive x.2, x.1.binding)

end Declared

namespace Source

/-- A template with a header line for each output in front of a body. -/
def declaring (path : Path) (m : Marker) (ds : List Declared) (body : List Char) : Source :=
  ⟨path, String.ofList ((ds.map (·.line m)).flatMap (· ++ ['\n']) ++ body), m⟩

/-- The directives of a header, each with the binding of its list of variables. -/
def resolved (s : Source) (known : Option (List String)) :
    Except RunError (List (Directive × Binding)) := do
  let ds ← s.directives.mapError .header
  ds.mapM fun d => return (d, ← (Binding.resolve known d.vars).mapError .binding)

/-- The output of a directive with its binding. -/
def declaredOf (x : Directive × Binding) : Declared :=
  ⟨x.1.filename, x.2⟩

end Source

/-! ### A written line -/

namespace Declared

variable {d : Declared}

theorem WellFormed.leaves_eq_false (h : d.WellFormed) : Directive.leaves d.filename = false := by
  simp only [Directive.leaves, List.any_eq_false, Bool.or_eq_true, beq_iff_eq, not_or]
  exact h.filename.stays

theorem WellFormed.lineFeed_notMem (h : d.WellFormed) : '\n' ∉ d.line m := by
  have hblank : Text.isBlank '\n' = true := by decide
  have hfilename : '\n' ∉ d.filename.toList := fun hmem => by
    simp [h.filename.no_blank _ hmem] at hblank
  have hfirst : '\n' ≠ m.first := fun heq => by
    rw [heq, m.first_not_blank] at hblank
    cases hblank
  have hsecond : '\n' ≠ m.second := fun heq => by
    rw [heq, m.second_not_blank] at hblank
    cases hblank
  simp [line, Marker.chars, hfilename, hfirst, hsecond,
    Binding.lineFeed_notMem_written h.binding]

theorem getLast?_line (m : Marker) (d : Declared) : (d.line m).getLast? = some ';' := by
  simp [line, List.getLast?_cons, List.getLast?_append, Binding.getLast?_written]

theorem trim_line (m : Marker) (d : Declared) : Text.trim (d.line m) = d.line m := by
  rw [Text.trim_eq_self_iff, getLast?_line]
  constructor
  · simp [line, Marker.chars, m.first_not_blank]
  · rintro c ⟨rfl⟩
    decide

/-- A written line is no comment. -/
theorem not_isCommentLine (hm : m.chars ≠ commentOpening) (d : Declared) :
    isCommentLine (d.line m) = false := by
  rw [isCommentLine, trim_line, Bool.eq_false_iff, ne_eq, Text.startsWith_iff]
  rintro ⟨t, ht⟩
  simp only [commentOpening, line, Marker.chars, List.cons_append, List.nil_append,
    List.cons.injEq] at ht
  exact hm (by simp [Marker.chars, commentOpening, ← ht.1, ← ht.2.1])

theorem opensLine (m : Marker) (d : Declared) : m.opensLine (d.line m) = true := by
  rw [Marker.opensLine, trim_line, Marker.opens, Text.startsWith_iff]
  exact ⟨d.filename.toList ++ ' ' :: d.binding.written, by simp [line]⟩

/-- The fields of a written line. -/
theorem WellFormed.fields? (h : d.WellFormed) :
    Directive.fields? (d.filename.toList ++ ' ' :: d.binding.written) =
      some (d.filename.toList, d.binding.written) := by
  have hcut : Text.cutWhere? Text.isBlank (d.filename.toList ++ ' ' :: d.binding.written) =
      some (d.filename.toList, d.binding.written) :=
    Text.cutWhere?_append h.filename.no_blank (by decide) _
  have hwritten : d.binding.written ≠ [] := fun hnil => by
    simpa [hnil] using Binding.getLast?_written d.binding
  simp [Directive.fields?, hcut, Binding.trim_written h.binding, h.filename.nonempty, hwritten]

/-- A written line declares the output. -/
theorem WellFormed.ofLine (h : d.WellFormed) (hm : m.chars ≠ commentOpening) (number : Nat) :
    Directive.Declaration.ofLine m number (d.line m) =
      .ok (some ⟨d.filename, String.ofList d.binding.written, number⟩) := by
  have hcomment := not_isCommentLine hm d
  rw [isCommentLine, trim_line] at hcomment
  have hstart : Text.trimStart (' ' :: (d.filename.toList ++ ' ' :: d.binding.written)) =
      d.filename.toList ++ ' ' :: d.binding.written := by
    have hblank : Text.isBlank ' ' = true := by decide
    rw [Text.trimStart_cons, if_pos hblank, Text.trimStart_eq_self_iff]
    obtain ⟨c, r, hc⟩ :=
      List.exists_cons_of_ne_nil (l := d.filename.toList) (by simpa using h.filename.nonempty)
    simpa [hc] using h.filename.no_blank c (by simp [hc])
  have hafter : Text.after? m.chars (d.line m) =
      some (' ' :: (d.filename.toList ++ ' ' :: d.binding.written)) := Text.after?_append _ _
  simp [Directive.Declaration.ofLine, trim_line, hcomment, hafter, hstart, h.fields?,
    h.leaves_eq_false]

end Declared

/-! ### Reading what was written -/

namespace Source

variable {ds : List Declared} {body : List Char} {s : Source} {path : Path}

theorem lines_declaring (h : ∀ d ∈ ds, d.WellFormed) :
    (declaring path m ds body).lines = ds.map (·.line m) ++ Text.lines body := by
  have hfeed : ∀ l ∈ ds.map (·.line m), '\n' ∉ l := by
    intro l hl
    obtain ⟨d, hd, rfl⟩ := List.mem_map.1 hl
    exact (h d hd).lineFeed_notMem
  have hreturn (d : Declared) : Text.dropReturn (d.line m) = d.line m :=
    Text.dropReturn_eq_self (by simp [Declared.getLast?_line])
  rw [lines, declaring, String.toList_ofList, Text.lines_flatMap_append hfeed]
  simp [hreturn]

/-- The header ends where the body begins. -/
theorem header_declaring (h : ∀ d ∈ ds, d.WellFormed)
    (hbody : ∀ l ∈ (Text.lines body).head?, m.isHeaderLine l = false) :
    (declaring path m ds body).header = ds.map (·.line m) := by
  have hlines : ∀ l ∈ ds.map (·.line m), m.isHeaderLine l = true := by
    intro l hl
    obtain ⟨d, -, rfl⟩ := List.mem_map.1 hl
    simp [Marker.isHeaderLine, Declared.opensLine]
  have hrest : (Text.lines body).takeWhile m.isHeaderLine = [] := by
    cases hb : Text.lines body with
    | nil => rfl
    | cons l ls => simp [hbody l (by simp [hb])]
  rw [header, lines_declaring h, declaring, List.takeWhile_append_of_pos hlines, hrest,
    List.append_nil]

theorem directives_eq_ok {dirs : List Directive} :
    s.directives = .ok dirs ↔ ∃ declared, s.declarations.mapM id = .ok declared ∧
      declared.reduceOption ≠ [] ∧ dirs = Directive.number declared.reduceOption := by
  rw [directives, bind_eq_ok]
  refine exists_congr fun declared => and_congr_right fun _ => ?_
  by_cases hempty : declared.reduceOption = []
  · simp [hempty]
  · simpa [hempty] using eq_comm

/-- The directives of a written header are those of its outputs, in their order. -/
theorem directives_declaring (hm : m.chars ≠ commentOpening) (hne : ds ≠ [])
    (h : ∀ d ∈ ds, d.WellFormed)
    (hbody : ∀ l ∈ (Text.lines body).head?, m.isHeaderLine l = false) :
    (declaring path m ds body).directives =
      .ok (ds.zipIdx.map fun x => x.1.directive x.2) := by
  let declared (x : Declared × Nat) : Directive.Declaration :=
    ⟨x.1.filename, String.ofList x.1.binding.written, x.2 + 1⟩
  have hdeclarations :
      (declaring path m ds body).declarations.mapM id = .ok (ds.zipIdx.map (some ∘ declared)) := by
    rw [mapM_eq_ok_iff, declarations, numberedHeader, header_declaring h hbody, List.zipIdx_map]
    simp only [List.map_map, List.forall₂_map_left_iff, List.forall₂_map_right_iff,
      List.forall₂_same]
    intro x hx
    exact (h x.1 (List.fst_mem_of_mem_zipIdx hx)).ofLine hm (x.2 + 1)
  have hreduced : (ds.zipIdx.map (some ∘ declared)).reduceOption = ds.zipIdx.map declared := by
    simp [List.reduceOption, List.filterMap_map]
  refine directives_eq_ok.2 ⟨_, hdeclarations, ?_⟩
  rw [hreduced]
  refine ⟨by simpa using hne, Eq.symm ?_⟩
  apply List.ext_getElem
  · simp [Directive.number]
  · intro i _ _
    simp only [Directive.number, List.getElem_map, List.getElem_zipIdx, Nat.zero_add, declared,
      Declared.directive]

/-- A written header is read back with its bindings. -/
theorem resolved_declaring (hm : m.chars ≠ commentOpening) (hne : ds ≠ [])
    (h : ∀ d ∈ ds, d.WellFormed)
    (hknown : ∀ d ∈ ds, ∀ k ∈ d.binding.keys, Binding.allowed known k = true)
    (hbody : ∀ l ∈ (Text.lines body).head?, m.isHeaderLine l = false) :
    (declaring path m ds body).resolved known = .ok (Declared.numbered ds) := by
  rw [resolved, directives_declaring hm hne h hbody]
  refine bind_eq_ok.2 ⟨_, rfl, ?_⟩
  rw [mapM_eq_ok_iff, Declared.numbered, List.forall₂_map_left_iff, List.forall₂_map_right_iff,
    List.forall₂_same]
  intro x hx
  have hd := List.fst_mem_of_mem_zipIdx hx
  refine bind_eq_ok.2 ⟨x.1.binding, mapError_eq_ok.2 ?_, rfl⟩
  exact Binding.resolve_written (h x.1 hd).binding (hknown x.1 hd)

/-- The directives of a header and their bindings are resolved one by one. -/
theorem resolved_eq_ok {outputs : List (Directive × Binding)} (h : s.resolved known = .ok outputs) :
    s.directives = .ok (outputs.map Prod.fst) ∧
      ∀ x ∈ outputs, Binding.resolve known x.1.vars = .ok x.2 := by
  obtain ⟨dirs, hdirs, h⟩ := bind_eq_ok.1 h
  rw [mapM_eq_ok_iff] at h
  have hread : List.Forall₂ (fun d (x : Directive × Binding) =>
      d = x.1 ∧ Binding.resolve known x.1.vars = .ok x.2) dirs outputs := by
    refine h.imp fun d x hx => ?_
    obtain ⟨b, hb, hpair⟩ := bind_eq_ok.1 hx
    obtain rfl : (d, b) = x := by simpa [pure, Except.pure] using hpair
    exact ⟨rfl, mapError_eq_ok.1 hb⟩
  have hfst : dirs = outputs.map Prod.fst := by
    rw [← List.forall₂_eq_eq_eq, List.forall₂_map_right_iff]
    exact hread.imp fun _ _ hx => hx.1
  refine ⟨hfst ▸ mapError_eq_ok.1 hdirs, fun x hx => ?_⟩
  obtain ⟨d, -, -, hresolve⟩ := exists_mem_of_forall₂ hread hx
  exact hresolve

/-! ### What is read -/

/-- What a header line declares has a file name that can be written, and stays on one line. -/
theorem isFilename_of_ofLine {number : Nat} {line : List Char} {declared : Directive.Declaration}
    (hfeed : '\n' ∉ line)
    (h : Directive.Declaration.ofLine m number line = .ok (some declared)) :
    Declared.IsFilename declared.filename ∧ '\n' ∉ declared.vars.toList := by
  simp only [Directive.Declaration.ofLine] at h
  split at h
  · cases h
  · split at h
    · cases h
    · next filename vars hfields =>
      split at h
      · cases h
      · next hleaves =>
        obtain rfl : ⟨String.ofList filename, String.ofList vars, number⟩ = declared := by
          simpa using h
        simp only [Directive.fields?] at hfields
        split at hfields
        · next left right hcut =>
          split at hfields
          · cases hfields
          · next hne =>
            obtain ⟨rfl, rfl⟩ : left = filename ∧ Text.trim right = vars := by
              simpa using hfields
            obtain ⟨c, -, hrest, hblank⟩ := Text.cutWhere?_eq_some hcut
            simp only [Bool.or_eq_true, List.isEmpty_iff, not_or] at hne
            refine ⟨⟨by simpa using hne.1, by simpa using hblank, ?_⟩, ?_⟩
            · simpa only [Directive.leaves, List.any_eq_true, not_exists, not_and, Bool.or_eq_true,
                beq_iff_eq, not_or] using hleaves
            · intro hmem
              have hright : '\n' ∈ right := Text.mem_of_mem_trim (by simpa using hmem)
              refine hfeed (Text.mem_of_mem_trim ?_)
              refine (Text.isSuffix_getD_after? m.chars _).subset ?_
              refine (Text.isSuffix_trimStart _).subset ?_
              rw [hrest]
              exact List.mem_append_right _ (List.mem_cons_of_mem _ hright)
        · cases hfields

/-- A header line that declares an output is opened by the marker, which is not that of comments. -/
theorem chars_ne_of_ofLine {number : Nat} {line : List Char} {declared : Directive.Declaration}
    (hline : m.isHeaderLine line = true)
    (h : Directive.Declaration.ofLine m number line = .ok (some declared)) :
    m.chars ≠ commentOpening := by
  intro hm
  simp only [Directive.Declaration.ofLine] at h
  split at h
  · cases h
  · next hcomment =>
    rw [Marker.isHeaderLine, isCommentLine, Bool.or_eq_true, or_iff_right hcomment,
      Marker.opensLine, Marker.opens, Text.startsWith_iff] at hline
    rw [Text.startsWith_iff] at hcomment
    exact hcomment (hm ▸ (List.prefix_append _ _).trans hline)

/-- Each directive is what a header line declares. -/
theorem exists_line_of_directives {dirs : List Directive} {d : Directive}
    (h : s.directives = .ok dirs) (hd : d ∈ dirs) :
    ∃ number, ∃ line ∈ s.header,
      Directive.Declaration.ofLine s.marker number line =
        .ok (some ⟨d.filename, d.vars, d.line⟩) := by
  obtain ⟨declared, hdeclared, -, rfl⟩ := directives_eq_ok.1 h
  simp only [Directive.number, List.mem_map] at hd
  obtain ⟨x, hx, rfl⟩ := hd
  have hsome : some x.1 ∈ declared :=
    List.reduceOption_mem_iff.1 (List.fst_mem_of_mem_zipIdx hx)
  obtain ⟨y, hy, hid⟩ := exists_mem_of_forall₂ (mapM_eq_ok_iff.1 hdeclared) hsome
  obtain ⟨z, hz, rfl⟩ := List.mem_map.1 hy
  simp only [numberedHeader, List.mem_map] at hz
  obtain ⟨w, hw, rfl⟩ := hz
  exact ⟨w.2 + 1, w.1, List.fst_mem_of_mem_zipIdx hw, hid⟩

theorem directives_ne_nil {dirs : List Directive} (h : s.directives = .ok dirs) : dirs ≠ [] := by
  obtain ⟨declared, -, hne, rfl⟩ := directives_eq_ok.1 h
  simpa [Directive.number] using hne

/-- The outputs of a header that was read can be written, and so can its marker. -/
theorem wellFormed_of_resolved {outputs : List (Directive × Binding)}
    (h : s.resolved known = .ok outputs) :
    s.marker.chars ≠ commentOpening ∧ outputs ≠ [] ∧
      ∀ x ∈ outputs, (declaredOf x).WellFormed ∧
        ∀ k ∈ x.2.keys, Binding.allowed known k = true := by
  obtain ⟨dirs, hdirs, h⟩ := bind_eq_ok.1 h
  rw [mapError_eq_ok] at hdirs
  rw [mapM_eq_ok_iff] at h
  have hheader : ∀ line ∈ s.header, '\n' ∉ line ∧ s.marker.isHeaderLine line = true :=
    fun line hline => ⟨Text.notMem_of_mem_lines ((List.takeWhile_prefix _).subset hline),
      List.mem_takeWhile_imp hline⟩
  have hne : outputs ≠ [] := by
    rintro rfl
    exact directives_ne_nil hdirs (List.forall₂_nil_right_iff.1 h)
  have hread : ∀ x ∈ outputs, s.marker.chars ≠ commentOpening ∧ (declaredOf x).WellFormed ∧
      ∀ k ∈ x.2.keys, Binding.allowed known k = true := by
    intro x hx
    obtain ⟨d, hd, hresolve⟩ := exists_mem_of_forall₂ h hx
    obtain ⟨b, hb, hpair⟩ := bind_eq_ok.1 hresolve
    obtain rfl : (d, b) = x := by simpa [pure, Except.pure] using hpair
    obtain ⟨number, line, hline, hdeclares⟩ := exists_line_of_directives hdirs hd
    obtain ⟨hfeed, hopens⟩ := hheader line hline
    obtain ⟨hfilename, hvars⟩ := isFilename_of_ofLine hfeed hdeclares
    obtain ⟨hwritable, hallowed⟩ := Binding.writable_of_resolve hvars (mapError_eq_ok.1 hb)
    exact ⟨chars_ne_of_ofLine hopens hdeclares, ⟨hfilename, hwritable⟩, hallowed⟩
  obtain ⟨x, hx⟩ := List.exists_mem_of_ne_nil _ hne
  exact ⟨(hread x hx).1, hne, fun x hx => (hread x hx).2⟩

/-- Headers are written and read back. Whatever outputs a header is written for are read from it, in
their order, whatever the body behind the header; and the outputs read from any template can be
written and are read back. -/
theorem header_roundTrip :
    (∀ (known : Option (List String)) (path : Path) (m : Marker) (ds : List Declared)
      (body : List Char), m.chars ≠ commentOpening → ds ≠ [] → (∀ d ∈ ds, d.WellFormed) →
      (∀ d ∈ ds, ∀ k ∈ d.binding.keys, Binding.allowed known k = true) →
      (∀ l ∈ (Text.lines body).head?, m.isHeaderLine l = false) →
      (declaring path m ds body).resolved known = .ok (Declared.numbered ds)) ∧
    ∀ (known : Option (List String)) (s : Source) (outputs : List (Directive × Binding)),
      s.resolved known = .ok outputs →
      (∀ x ∈ outputs, (declaredOf x).WellFormed) ∧
      ∀ (path : Path) (body : List Char),
        (∀ l ∈ (Text.lines body).head?, s.marker.isHeaderLine l = false) →
        (declaring path s.marker (outputs.map declaredOf) body).resolved known =
          .ok (Declared.numbered (outputs.map declaredOf)) := by
  refine ⟨fun known path m ds body => resolved_declaring, fun known s outputs h => ?_⟩
  obtain ⟨hm, hne, houtputs⟩ := wellFormed_of_resolved h
  refine ⟨fun x hx => (houtputs x hx).1, fun path body hbody => ?_⟩
  refine resolved_declaring hm (by simpa using hne) ?_ ?_ hbody
  · intro d hd
    obtain ⟨x, hx, rfl⟩ := List.mem_map.1 hd
    exact (houtputs x hx).1
  · intro d hd
    obtain ⟨x, hx, rfl⟩ := List.mem_map.1 hd
    exact (houtputs x hx).2

/-- A header with a value that holds an `=` and a blank, and with an output without variables. -/
def twoOutputs : List Declared :=
  [⟨"a.txt", Binding.empty.insert "k" "x = 1"⟩, ⟨"sub/b.txt", Binding.empty⟩]

/-- That header is read back, and what was read from it can be written again. -/
theorem header_roundTrip_twoOutputs :
    (declaring ⟨"t"⟩ .standard twoOutputs ['x']).resolved none =
        .ok (Declared.numbered twoOutputs) ∧
      (declaring ⟨"u"⟩ .standard twoOutputs []).resolved none =
        .ok (Declared.numbered twoOutputs) := by
  have hwellFormed : ∀ d ∈ twoOutputs, d.WellFormed := by
    simp only [twoOutputs, List.mem_cons, List.not_mem_nil, or_false, forall_eq_or_imp, forall_eq]
    refine ⟨⟨by decide, ?_⟩, ⟨by decide, ?_⟩⟩
    · intro e he
      obtain rfl : e = ("k", "x = 1") := by
        simpa [Binding.insert, Binding.insertEntry, Binding.empty] using he
      exact ⟨⟨by decide, by decide, by decide, by decide, by decide⟩,
        ⟨by decide, by decide, by decide⟩⟩
    · rintro e ⟨⟩
  have hread := header_roundTrip.1 none ⟨"t"⟩ .standard twoOutputs ['x'] (by decide)
    (by simp [twoOutputs]) hwellFormed (fun _ _ _ _ => rfl) (by decide)
  exact ⟨hread, (header_roundTrip.2 none _ _ hread).2 ⟨"u"⟩ [] (by simp)⟩

end Source

end Imprint
