import Imprint.Proofs.Template.Closure
import Imprint.Proofs.Template.Scan

/-!
# The templates that tags name

Which templates are loaded is decided by the references in the flat text, and which are needed by
the tags. In legible texts these are the same, so whatever a tag names is loaded when there is a
file of this name, and only what a tag names can be missing. In other texts they differ: an array
of names is not seen in the flat text, and a name is cut at a quote inside it.

## Main results

* `Imprint.Template.compile_names`: what the tags of a compiled template name is there.
* `Imprint.Template.not_compile_names`: two texts for which this fails.
-/

namespace Imprint.Template

open Log

variable {store : Store} {searchPath : List Path} {name main : String} {s t : List Char}

/-- A missing template is one that a needed text refers to. -/
theorem exists_reference_of_notFound {m n : String} {path : List Path} {log log' : List Event}
    (h : (compile store searchPath name s).run.run log = (.error (.notFound m n path), log')) :
    ∃ t k u r, expanded name s = .ok t ∧ Needed store searchPath name t k u ∧
      r ∈ references u ∧ r.name = n ∧ locate store searchPath n = none := by
  rcases compile_eq_error h with hs | ⟨t, visited, l, ht, hvisits, hends | ⟨-, flaw, he⟩⟩
  · obtain ⟨line, he⟩ := expanded_eq_error hs
    cases he
  · cases hends with
    | @failed next rest _ hnext hvisit =>
      have hsound := Loading.sound_start.visits hvisits.perm
      obtain ⟨k, u, hneeded, hr⟩ := hsound.pending next (hnext ▸ List.mem_cons_self)
      rcases Loading.visit_eq_error hvisit with hfetch | ⟨hnone, -, he⟩
      · rcases fetch_eq_error hfetch with ⟨path', fault, he⟩ | ⟨line, he⟩
        · cases he
        · cases he
      · cases he
        exact ⟨t, k, u, next, ht, hneeded, hr, rfl, fetch_eq_none_iff.1 hnone⟩
  · cases he

/-- Each template of a compiled one was made from a needed text, and whatever is located and the
text refers to is there too. -/
theorem exists_needed_of_compiled {c : Compiled} {log log' : List Event}
    (h : (compile store searchPath name s).run.run log = (.ok c, log')) :
    ∃ t, expanded name s = .ok t ∧ ∀ template ∈ c.library.templates, ∃ u,
      Needed store searchPath name t template.name u ∧ ofText template.name u = .ok template ∧
        ∀ r ∈ references u, (locate store searchPath r.name).isSome →
          r.name ∈ c.library.templates.map (·.name) := by
  obtain ⟨t, visited, l, ht, hvisits, hpending, hlibrary⟩ := compile_eq_ok h
  have hsound := Loading.sound_start.visits hvisits.perm
  have hclosure := hsound.isClosure hpending
  have htemplates := Library.templates_of_ofTexts hlibrary
  refine ⟨t, ht, fun template htemplate => ?_⟩
  obtain ⟨⟨n, u⟩, hx, hname, htext⟩ := exists_mem_of_forall₂ htemplates htemplate
  obtain rfl : template.name = n := hname
  have hneeded := hsound.needed_of_mem_texts hx
  refine ⟨u, hneeded, htext, fun r hr hlocated => ?_⟩
  rw [map_name_of_forall₂ htemplates]
  exact hclosure.least.1.reference _ (List.mem_map_of_mem hx) u hneeded.assigned r hr hlocated

/-- Compiling loads what the tags name. When a template is compiled, every name in a tag of a
legible text among those that it was made from is the name of one of its templates, provided there
is a file of this name in the search path. And when a template is reported as missing, its name
stands in a tag of a needed text, if this text is legible. -/
theorem compile_names (store : Store) (searchPath : List Path) (name : String) (s : List Char) :
    (∀ c log log', (compile store searchPath name s).run.run log = (.ok c, log') →
      ∃ t, expanded name s = .ok t ∧ ∀ template ∈ c.library.templates, ∃ u,
        Needed store searchPath name t template.name u ∧ ofText template.name u = .ok template ∧
          (legible u = true → ∀ n ∈ namesIn u, (locate store searchPath n).isSome →
            n ∈ c.library.templates.map (·.name))) ∧
    ∀ m n path log log',
      (compile store searchPath name s).run.run log = (.error (.notFound m n path), log') →
        ∃ t k u, expanded name s = .ok t ∧ Needed store searchPath name t k u ∧
          locate store searchPath n = none ∧ (legible u = true → n ∈ namesIn u) := by
  refine ⟨fun c log log' hrun => ?_, fun m n path log log' hrun => ?_⟩
  · obtain ⟨t, ht, htemplates⟩ := exists_needed_of_compiled hrun
    refine ⟨t, ht, fun template htemplate => ?_⟩
    obtain ⟨u, hneeded, htext, hreferences⟩ := htemplates template htemplate
    refine ⟨u, hneeded, htext, fun hlegible n hn hlocated => ?_⟩
    rw [← map_name_references hlegible] at hn
    obtain ⟨r, hr, rfl⟩ := List.mem_map.1 hn
    exact hreferences r hr hlocated
  · obtain ⟨t, k, u, r, ht, hneeded, hr, rfl, hmissing⟩ := exists_reference_of_notFound hrun
    refine ⟨t, k, u, ht, hneeded, hmissing, fun hlegible => ?_⟩
    rw [← map_name_references hlegible]
    exact List.mem_map_of_mem hr

/-- A file with the name `a`. -/
def oneFileStore : Store where
  entries := [(["inc"], .directory), (["inc", "a"], .file "A".toUTF8)]

/-- A text that names the file in a tag, and others in a comment and a raw block. -/
def legibleText : List Char :=
  ("\x7b# \x7b% include 'x' %\x7d #\x7d\x7b%- include 'a' -%\x7d" ++
    "\x7b% raw %\x7d\x7b% include 'y' %\x7d\x7b% endraw %\x7d").toList

/-- The file is loaded. -/
theorem compile_names_legibleText :
    ∃ c log, (compile oneFileStore [⟨"inc"⟩] "m" legibleText).run.run [] = (.ok c, log) ∧
      legible legibleText = true ∧ namesIn legibleText = ["a"] ∧
      "a" ∈ c.library.templates.map (·.name) := by
  have hok : ((compile oneFileStore [⟨"inc"⟩] "m" legibleText).run.run
      []).1.toOption.any (fun c => c.library.templates.any (·.name == "m")) = true := by
    decide +kernel
  have hlegible : legible legibleText = true := by decide +kernel
  have hnames : namesIn legibleText = ["a"] := by decide +kernel
  rcases hrun : (compile oneFileStore [⟨"inc"⟩] "m" legibleText).run.run [] with ⟨e | c, log⟩
  · rw [hrun] at hok
    cases hok
  · rw [hrun] at hok
    obtain ⟨template, htemplate, hmain⟩ :
        ∃ template ∈ c.library.templates, template.name = "m" := by
      simpa [Except.toOption] using hok
    obtain ⟨t, ht, htemplates⟩ :=
      (compile_names oneFileStore [⟨"inc"⟩] "m" legibleText).1 c [] log hrun
    have htext : expanded "m" legibleText = .ok legibleText := rfl
    obtain rfl : legibleText = t := by simpa using htext.symm.trans ht
    obtain ⟨u, hneeded, -, hloaded⟩ := htemplates template htemplate
    rw [hmain] at hneeded
    obtain rfl : legibleText = u := by simpa using assigned_self.symm.trans hneeded.assigned
    refine ⟨c, log, rfl, hlegible, hnames, ?_⟩
    exact hloaded hlegible "a" (by simp [hnames]) (by decide +kernel)

/-- Neither holds of all texts: of an array of names no file is loaded, and a name with a quote
inside is looked for up to the quote. -/
theorem not_compile_names :
    (¬ ∀ (store : Store) (searchPath : List Path) (name : String) (s t u : List Char) (n : String),
      expanded name s = .ok t → ∀ c log log',
        (compile store searchPath name s).run.run log = (.ok c, log') →
          ∀ template ∈ c.library.templates, Needed store searchPath name t template.name u →
            n ∈ namesIn u → (locate store searchPath n).isSome →
              n ∈ c.library.templates.map (·.name)) ∧
    ¬ ∀ (store : Store) (searchPath : List Path) (name : String) (s t : List Char) (m n : String)
      (path : List Path), expanded name s = .ok t → ∀ log log',
        (compile store searchPath name s).run.run log = (.error (.notFound m n path), log') →
          ∃ k u, Needed store searchPath name t k u ∧ n ∈ namesIn u := by
  constructor
  · intro h
    let s := "\x7b% include [\"a\", \"b\"] %\x7d".toList
    have hok : ((compile oneFileStore [⟨"inc"⟩] "m" s).run.run []).1.toOption.map
        (·.library.templates.map (·.name)) = some ["m"] := by decide +kernel
    have hnames : namesIn s = ["a", "b"] := by decide +kernel
    rcases hrun : (compile oneFileStore [⟨"inc"⟩] "m" s).run.run [] with ⟨e | c, log⟩
    · rw [hrun] at hok
      cases hok
    · rw [hrun] at hok
      have htemplates : c.library.templates.map (·.name) = ["m"] := by
        simpa [Except.toOption] using hok
      obtain ⟨template, htemplate, hmain⟩ : ∃ template ∈ c.library.templates,
          template.name = "m" := by
        simpa using (htemplates ▸ List.mem_singleton_self "m" :
          "m" ∈ c.library.templates.map (·.name))
      have hloaded := h oneFileStore [⟨"inc"⟩] "m" s s s "a" rfl c [] log hrun template htemplate
        (hmain ▸ .self) (by simp [hnames]) (by decide +kernel)
      simp [htemplates] at hloaded
  · intro h
    let s := "\x7b% include \"it's\" %\x7d".toList
    have hreferences : references s = [⟨"it", false⟩] := by decide +kernel
    have hnames : namesIn s = ["it's"] := by decide +kernel
    have hends : (Loading.start "m" s).Ends {} [] "m" Eq (.error (.notFound "m" "it" [])) :=
      .failed (by rw [Loading.start, hreferences]; rfl) rfl
    have ht : expanded "m" s = .ok s := rfl
    obtain ⟨log, hrun⟩ := yields_compile ((Loading.Visits.nil _).yields_load ht hends) []
    obtain ⟨k, u, hneeded, hn⟩ := h {} [] "m" s s "m" "it" [] ht [] log hrun
    -- without files the only needed text is the one that is compiled
    have hassigned := hneeded.assigned
    by_cases hk : k = "m"
    · subst hk
      obtain rfl : s = u := by simpa using assigned_self.symm.trans hassigned
      simp [hnames] at hn
    · rw [assigned_of_ne hk, fetch_of_locate_none rfl] at hassigned
      cases hassigned

end Imprint.Template
