import Imprint.Config.Load
import Imprint.Proofs.Template.Loading
import Imprint.Proofs.Yaml.Record

/-!
# What a configuration file says

A configuration is a record, and the formatter in it is a record, too. When a file holds one, it is
given by what the document of the file describes: each setting that is given has the value that
is read, and each other one its standard value, in the formatter as well as outside of it. The
configuration of the file has these settings, but for the include directories that are relative.
They are seen from the directory of the file.

## Main definitions

* `Imprint.Config.Formatter.layout`, `Imprint.Config.layout`: the settings, their readings and their
  places.
* `Imprint.Config.Given`: the settings that a text gives.
* `Imprint.Config.HeldAt`: the configuration that a file holds.

## Main results

* `Imprint.Config.Formatter.read_eq_ok_iff`, `Imprint.Config.read_eq_ok_iff`: records are read just
  when they are described.
* `Imprint.Config.ofText_eq_ok_iff`: a text is read just when it gives settings.
* `Imprint.Config.load_iff_heldAt`: a file is loaded just when it holds a configuration.
-/

namespace Imprint

open Yaml

namespace Config

variable {p : Place} {node : Node} {name text : String} {c d : Config}

/-! ### The formatter -/

namespace Formatter

variable {f g : Formatter}

/-- The fields of the formatter. -/
def layout : List (RecordField Formatter) :=
  [.ofRead "program" readText program,
    .ofRead "args" (Read.list readText) args,
    .ofRead "in_place_flag" readText inPlaceFlag,
    .ofRead "timeout_secs" readSeconds timeout,
    .ofRead "enabled" Read.truth enabled]

theorem reads_iff_of_mem_layout : ∀ F ∈ layout, ∀ f p node x,
    F.Reads p node x ↔ ∃ g, readField F.name f p node = .ok g ∧ F.get g = x := by
  simp only [layout, RecordField.ofRead, List.forall_mem_cons]
  exact ⟨item_eq_ok_iff (fun f x => { f with program := x }) (fun _ _ _ => rfl) fun _ _ => rfl,
    item_eq_ok_iff (fun f x => { f with args := x }) (fun _ _ _ => rfl) fun _ _ => rfl,
    item_eq_ok_iff (fun f x => { f with inPlaceFlag := x }) (fun _ _ _ => rfl) fun _ _ => rfl,
    item_eq_ok_iff (fun f x => { f with timeout := x }) (fun _ _ _ => rfl) fun _ _ => rfl,
    item_eq_ok_iff (fun f x => { f with enabled := x }) (fun _ _ _ => rfl) fun _ _ => rfl,
    fun _ hF => absurd hF List.not_mem_nil⟩

/-- Reading a field leaves the others as they are. -/
theorem get_eq_of_readField (h : readField name f p node = .ok g) :
    ∀ F ∈ layout, name ≠ F.name → F.get g = F.get f := by
  unfold readField at h
  split at h
  case h_6 => cases h
  all_goals
    obtain ⟨x, -, hg⟩ := bind_eq_ok.1 h
    obtain rfl := Except.ok.inj hg
    simp [layout, RecordField.ofRead]

theorem law_of_mem_layout (F : RecordField Formatter) (hF : F ∈ layout) : F.Law readField :=
  ⟨reads_iff_of_mem_layout F hF, fun hname h => get_eq_of_readField h F hF hname⟩

/-- The layout has all fields. -/
theorem eq_of_layout (h : ∀ F ∈ layout, F.get f = F.get g) : f = g := by
  simp only [layout, RecordField.ofRead, List.forall_mem_cons] at h
  obtain ⟨hprogram, hargs, hflag, htimeout, henabled, -⟩ := h
  cases f
  cases g
  congr

theorem read_eq_ok_iff : read p node = .ok f ↔ Describes layout {} p node f :=
  record_eq_ok_iff law_of_mem_layout fun _ _ => eq_of_layout

end Formatter

/-! ### The settings -/

/-- The fields of a configuration. -/
def layout : List (RecordField Config) :=
  [.ofRead "marker" readText marker,
    .ofRead "template_suffix" readText templateSuffix,
    .ofRead "staging_prefix" readText stagingPrefix,
    .ofRead "include_dirs" (Read.list readPath) includeDirs,
    .ofRead "known_keys" (Read.maybe (Read.list readText)) knownKeys,
    ⟨"formatter", Describes Formatter.layout {}, formatter⟩]

theorem reads_iff_of_mem_layout : ∀ F ∈ layout, ∀ c p node x,
    F.Reads p node x ↔ ∃ d, readField F.name c p node = .ok d ∧ F.get d = x := by
  simp only [layout, RecordField.ofRead, List.forall_mem_cons]
  exact ⟨item_eq_ok_iff (fun c x => { c with marker := x }) (fun _ _ _ => rfl) fun _ _ => rfl,
    item_eq_ok_iff (fun c x => { c with templateSuffix := x }) (fun _ _ _ => rfl) fun _ _ => rfl,
    item_eq_ok_iff (fun c x => { c with stagingPrefix := x }) (fun _ _ _ => rfl) fun _ _ => rfl,
    item_eq_ok_iff (fun c x => { c with includeDirs := x }) (fun _ _ _ => rfl) fun _ _ => rfl,
    item_eq_ok_iff (fun c x => { c with knownKeys := x }) (fun _ _ _ => rfl) fun _ _ => rfl,
    fun c p node x => Formatter.read_eq_ok_iff.symm.trans
      (item_eq_ok_iff (fun c x => { c with formatter := x }) (fun _ _ _ => rfl) (fun _ _ => rfl)
        c p node x),
    fun _ hF => absurd hF List.not_mem_nil⟩

/-- Reading a field leaves the others as they are. -/
theorem get_eq_of_readField (h : readField name c p node = .ok d) :
    ∀ F ∈ layout, name ≠ F.name → F.get d = F.get c := by
  unfold readField at h
  split at h
  case h_7 => cases h
  all_goals
    obtain ⟨x, -, hd⟩ := bind_eq_ok.1 h
    obtain rfl := Except.ok.inj hd
    simp [layout, RecordField.ofRead]

theorem law_of_mem_layout (F : RecordField Config) (hF : F ∈ layout) : F.Law readField :=
  ⟨reads_iff_of_mem_layout F hF, fun hname h => get_eq_of_readField h F hF hname⟩

/-- The layout has all fields. -/
theorem eq_of_layout (h : ∀ F ∈ layout, F.get c = F.get d) : c = d := by
  simp only [layout, RecordField.ofRead, List.forall_mem_cons] at h
  obtain ⟨hmarker, hsuffix, hstaging, hdirs, hkeys, hformatter, -⟩ := h
  cases c
  cases d
  congr

theorem read_eq_ok_iff : read p node = .ok c ↔ Describes layout {} p node c :=
  record_eq_ok_iff law_of_mem_layout fun _ _ => eq_of_layout

/-- The settings that a text gives: the standard ones when it is blank, and else those that its
document describes, when it is one. -/
inductive Given (text : String) : Config → Prop where
  | blank (h : Text.isAllBlank text.toList = true) : Given text {}
  | document {c : Config} (h : Text.isAllBlank text.toList = false)
      (hsound : (Document.ofText text.toList).isSound = true)
      (hroot : Describes layout {} ⟨(Document.ofText text.toList).root, []⟩
        (Document.ofText text.toList).root c) : Given text c

theorem ofText_eq_ok_iff : ofText text = .ok c ↔ Given text c := by
  rw [ofText]
  constructor
  · intro h
    split at h
    · next hblank =>
      obtain rfl := Except.ok.inj h
      exact .blank hblank
    · next hblank =>
      obtain ⟨d, hd, h⟩ := bind_eq_ok.1 h
      split at h
      · next hsound =>
        obtain rfl := Except.ok.inj h
        exact .document (by simpa using hblank) hsound (read_eq_ok_iff.1 hd)
      · cases h
  · rintro (hblank | ⟨hblank, hsound, hroot⟩)
    · rw [if_pos hblank]
    · rw [if_neg (by simp [hblank]), ofDocument, Document.read, read_eq_ok_iff.2 hroot]
      exact if_pos hsound

-- in the formatter, too, only what is given differs from the standard
example : (ofText "staging_prefix: new-\nformatter:\n  enabled: false\n").toOption =
    some { stagingPrefix := "new-", formatter := { enabled := false } } := by decide +kernel

/-! ### The configuration in a file -/

variable {s : Store} {path : Path}

/-- The configuration that a file holds: the settings that its text gives, when they can be used,
with every relative include directory joined to the directory of the file. -/
def HeldAt (s : Store) (path : Path) (c : Config) : Prop :=
  ∃ text given, s.readText path = .ok text ∧ Given text given ∧ given.check = .ok () ∧
    c = { given with includeDirs := given.includeDirs.map fun dir =>
      if dir.isAbsolute then dir else (path.parent?.getD ⟨""⟩).join dir }

theorem relativeTo_eq (base : Path) (c : Config) : c.relativeTo base =
    { c with includeDirs := c.includeDirs.map fun dir =>
      if dir.isAbsolute then dir else base.join dir } := by
  rw [relativeTo]
  congr
  funext dir
  split
  · next habsolute => exact Path.join_of_isAbsolute habsolute
  · rfl

theorem checkAt_eq_ok_iff {u : Unit} : c.checkAt path = .ok u ↔ c.check = .ok () := by
  rw [checkAt]
  cases c.check <;> simp

theorem loadQuietly_eq_ok_iff : loadQuietly s path = .ok c ↔ HeldAt s path c := by
  simp only [loadQuietly, bind_eq_ok, mapError_eq_ok, ofText_eq_ok_iff, checkAt_eq_ok_iff,
    relativeTo_eq, HeldAt]
  constructor
  · rintro ⟨text, htext, given, hgiven, ⟨⟩, hcheck, hc⟩
    exact ⟨text, given, htext, hgiven, hcheck, (Except.ok.inj hc).symm⟩
  · rintro ⟨text, given, htext, hgiven, hcheck, rfl⟩
    exact ⟨text, htext, given, hgiven, (), hcheck, rfl⟩

/-- Joining the include directories leaves all that is checked as it is. -/
theorem HeldAt.check (h : HeldAt s path c) : c.check = .ok () := by
  obtain ⟨text, given, -, -, hcheck, rfl⟩ := h
  exact hcheck

theorem yields_load (s : Store) (path : Path) :
    Log.Yields (load s path) (loadQuietly s path) := by
  intro log
  cases h : loadQuietly s path with
  | error e => exact ⟨log, by rw [load, h]; rfl⟩
  | ok c => exact ⟨_, by rw [load, h]; rfl⟩

theorem yields_load_iff {x : Except ConfigError Config} :
    Log.Yields (load s path) x ↔ loadQuietly s path = x := by
  refine ⟨fun h => ?_, fun h => h ▸ yields_load s path⟩
  obtain ⟨log, hlog⟩ := yields_load s path []
  exact (h.eq_of_run hlog).symm

/-- Loading a file gives a configuration just when the file holds it, and an error when it holds
none. What is given can be used, and its marker is the one that opens directives. For a template the
file beside it is loaded when there is one, and otherwise the settings are the standard ones. -/
theorem load_iff_heldAt (s : Store) (path template : Path) :
    (∀ c, Log.Yields (load s path) (.ok c) ↔ HeldAt s path c) ∧
      ((∃ e, Log.Yields (load s path) (.error e)) ↔ ¬ ∃ c, HeldAt s path c) ∧
      (∀ c, HeldAt s path c →
        c.check = .ok () ∧ Marker.ofString? c.marker = some c.markerOrStandard) ∧
      ((∃ content, s.FileAt (beside template) content) →
        discover s none template = load s (beside template)) ∧
      ((¬ ∃ content, s.FileAt (beside template) content) →
        discover s none template = pure {}) := by
  simp only [yields_load_iff, ← loadQuietly_eq_ok_iff, ← Store.isFile_iff]
  refine ⟨fun _ => trivial, ?_, fun c hc => ?_, fun hfile => ?_, fun hfile => ?_⟩
  · cases loadQuietly s path <;> simp
  · have hcheck := (loadQuietly_eq_ok_iff.1 hc).check
    exact ⟨hcheck, Marker.ofString?_eq_some_iff.2 (marker_of_check hcheck)⟩
  · exact if_pos hfile
  · exact if_neg hfile

end Config

end Imprint
