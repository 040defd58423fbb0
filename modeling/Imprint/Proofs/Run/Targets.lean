import Imprint.Proofs.Run.Plan

/-!
# One file for each directive

The files of the directives are written one after another, each over whatever the earlier ones left.
The template is compiled before the first of them, so no file has a part in the text of another, and
in the end a path that several directives denote holds the text of the last of them.

## Main definitions

* `Imprint.Run.IsOutputOf`: the entry that a directive gets when nothing is formatted.
* `Imprint.Run.Holds`: a store in which outputs have been written over another store.

## Main results

* `Imprint.Run.targets_unformatted`: what the files of the directives are and leave.
* `Imprint.Run.multi_unformatted`: the same of a whole run.
-/

namespace Imprint

/-- The bytes of an output as it was rendered. -/
def Rendered.bytes (o : Rendered) : ByteArray :=
  (String.ofList o.text).toUTF8

namespace Run

open Session

variable {programs : Formatting.Programs} {around : Nat → Template.Surroundings} {config : Config}
  {compiled : Template.Compiled} {dir : Path} {d : Directive} {ds : List Directive} {o : Rendered}
  {outputs : List Rendered} {s t u : Store}

/-- The entry that a directive gets when nothing is formatted. -/
structure IsOutputOf (around : Nat → Template.Surroundings) (config : Config)
    (compiled : Template.Compiled) (dir : Path) (d : Directive) (o : Rendered) : Prop where
  path : o.path = dir.join ⟨d.filename⟩
  /-- The template is rendered for the binding of the directive, in its surroundings. -/
  text : ∃ b, Binding.resolve config.knownKeys d.vars = .ok b ∧
    compiled.render (around d.index) b = .ok o.text
  size : o.size = (String.ofList o.text).utf8ByteSize
  status : o.status = .skipped .disabled

/-- The store `t` is `s` with outputs written to it, one after another. -/
structure Holds (s : Store) (outputs : List Rendered) (t : Store) : Prop where
  /-- Every path can be resolved. -/
  denotes : ∀ o ∈ outputs, ∃ l, t.Denotes o.path l
  /-- A file holds the last of the outputs whose paths denote it. -/
  last : ∀ before o after l, outputs = before ++ o :: after → t.Denotes o.path l →
    (∀ o' ∈ after, ¬ t.Denotes o'.path l) → t.get? l = some (.file o.bytes)
  /-- Elsewhere nothing has changed, but that directories have been made. -/
  other : ∀ l, (∀ o ∈ outputs, ¬ t.Denotes o.path l) → s.KeptAt t l
  keepsDirectories : s.KeepsDirectories t

theorem Holds.nil (s : Store) : Holds s [] s where
  denotes _ ho := absurd ho List.not_mem_nil
  last before _ _ _ h := absurd h.symm (by cases before <;> simp)
  other l _ := .refl s l
  keepsDirectories := .refl s

/-- One more output in front, over which the others were written. -/
theorem Holds.cons (hput : s.put o.path o.bytes = (.ok (), t)) (h : Holds t outputs u) :
    Holds s (o :: outputs) u := by
  obtain ⟨k, hk, hkt⟩ := Store.fileAt_of_put hput
  have hku : u.Denotes o.path k := hk.mono h.keepsDirectories
  have hdirs := Store.keepsDirectories_put s o.path o.bytes
  rw [hput] at hdirs
  refine ⟨?_, ?_, ?_, hdirs.trans h.keepsDirectories⟩
  · intro o' ho'
    rcases List.mem_cons.1 ho' with rfl | ho'
    · exact ⟨k, hku⟩
    · exact h.denotes o' ho'
  · intro before o' after l hsplit hl hafter
    cases before with
    | nil =>
      -- no later output denotes the file, so it is still there
      obtain ⟨rfl, rfl⟩ : o = o' ∧ outputs = after := by simpa using hsplit
      obtain rfl : k = l := hku.unique hl rfl
      exact (h.other k hafter).file_iff.2 hkt
    | cons b before =>
      obtain ⟨rfl, rfl⟩ : o = b ∧ outputs = before ++ o' :: after := by simpa using hsplit
      exact h.last before o' after l rfl hl hafter
  · intro l hl
    have hkl : s.locate o.path ≠ l := by
      rw [Store.locate_eq_of_site (hdirs.trans h.keepsDirectories).site,
        Store.locate_of_denotes hku]
      exact fun hloc => hl o List.mem_cons_self (hloc ▸ hku)
    have hst := Store.get?_put hput l
    rw [if_neg hkl] at hst
    exact Store.KeptAt.trans hst (h.other l fun o' ho' => hl o' (List.mem_cons_of_mem _ ho'))

/-- The file of a directive is put in place and then formatted there. -/
theorem exists_put_of_target (h : target programs around config compiled dir d s = (.ok o, t)) :
    ∃ u, o.path = dir.join ⟨d.filename⟩ ∧ textFor config compiled around d = .ok o.text ∧
      s.put o.path o.bytes = (.ok (), u) ∧
      Formatting.inPlace programs config.formatter o.path u = (.ok o.status, t) ∧
      t.size o.path = .ok o.size := by
  cases htext : textFor config compiled around d with
  | error e =>
    rw [target_of_textFor_error _ htext] at h
    cases h
  | ok text =>
    rcases hp : s.put (dir.join ⟨d.filename⟩) (String.ofList text).toUTF8 with ⟨e | ⟨⟩, u⟩
    · rw [target_of_put_error _ htext hp] at h
      cases h
    · rw [target_of_put_ok _ htext hp] at h
      simp only [Prod.mk.injEq] at h
      obtain ⟨hentry, rfl⟩ := h
      obtain ⟨status, size, hstatus, hsize, rfl⟩ := entryFor_eq_ok hentry
      exact ⟨u, rfl, rfl, hp, Prod.ext hstatus rfl, hsize⟩

/-- A text that is put in place is the output when nothing is formatted. -/
theorem target_of_put_unformatted (programs : Formatting.Programs)
    (hf : config.formatter.enabled = false) {text : List Char}
    (htext : textFor config compiled around d = .ok text)
    (hput : s.put (dir.join ⟨d.filename⟩) (String.ofList text).toUTF8 = (.ok (), t)) :
    target programs around config compiled dir d s =
      (.ok ⟨dir.join ⟨d.filename⟩, text, (String.ofList text).utf8ByteSize, .skipped .disabled⟩,
        t) := by
  rw [target_of_put_ok programs htext hput, Formatting.inPlace_of_disabled _ hf]
  simp only [entryFor, entryOf, (Store.fileAt_of_put hput).size]
  rfl

/-- What a directive gets when nothing is formatted. -/
theorem target_unformatted (hf : config.formatter.enabled = false)
    (h : target programs around config compiled dir d s = (.ok o, t)) :
    IsOutputOf around config compiled dir d o ∧ s.put o.path o.bytes = (.ok (), t) := by
  obtain ⟨u, hpath, htext, hput, hformat, hsize⟩ := exists_put_of_target h
  rw [Formatting.inPlace_of_disabled _ hf, Prod.mk.injEq] at hformat
  obtain ⟨hstatus, rfl⟩ := hformat
  obtain hstatus := Except.ok.inj hstatus
  have hbytes : o.bytes.size = o.size :=
    Except.ok.inj ((Store.fileAt_of_put hput).size.symm.trans hsize)
  exact ⟨⟨hpath, textFor_eq_ok.1 htext, hbytes.symm, hstatus.symm⟩, hput⟩

/-- The files of the directives when nothing is formatted: one for each directive, in their order,
and the last of those that are written to one path stays. -/
theorem targets_unformatted (hf : config.formatter.enabled = false)
    (h : targets programs around config compiled dir ds s = (.ok outputs, t)) :
    List.Forall₂ (IsOutputOf around config compiled dir) ds outputs ∧ Holds s outputs t := by
  induction ds generalizing s outputs with
  | nil =>
    obtain ⟨rfl, rfl⟩ : [] = outputs ∧ s = t := by simpa [targets] using h
    exact ⟨.nil, .nil s⟩
  | cons d ds ih =>
    obtain ⟨o, os, u, hd, hds, rfl⟩ := targets_cons_eq_ok _ _ _ _ _ h
    obtain ⟨hout, hput⟩ := target_unformatted hf hd
    obtain ⟨houts, hholds⟩ := ih hds
    exact ⟨.cons hout houts, .cons hput hholds⟩

/-- A run with one file for each directive and without a formatter that ends well. The body is
compiled once, from the store as it was before the run, and rendered for each directive in turn;
afterwards every path holds the last output that was written to it, and all else is as before. -/
theorem multi_unformatted {r : Request} {σ τ : Session} {report : Report}
    (hmode : r.mode = .multi dir) (hf : r.config.formatter.enabled = false)
    (hrun : (run programs around r).run.run σ = (.ok report, τ)) :
    ∃ text ds compiled events, σ.store.readText r.template = .ok text ∧
      (let source : Source := ⟨r.template, text, r.config.markerOrStandard⟩
      source.directives = .ok ds ∧
        (Template.compileSource σ.store (r.searchPath source) source).run.run [] =
          (.ok compiled, events)) ∧
      List.Forall₂ (IsOutputOf around r.config compiled dir) ds report.outputs ∧
      Holds σ.store report.outputs τ.store := by
  obtain ⟨ds, compiled, hplan, hts⟩ := run_multi_eq_ok hmode hrun
  obtain ⟨text, events, htext, hsource⟩ := multiPlan_eq_ok hplan
  obtain ⟨houts, hholds⟩ := targets_unformatted hf hts
  exact ⟨text, ds, compiled, events, htext, hsource, houts, hholds⟩

/-- A template whose header names one file in two ways. -/
def aliasingStore : Store where
  entries := [(["srv", "t.mako"],
    .file "## a.txt v=1;\n## b.txt v=2;\n## ./a.txt v=3;\n${v}\n".toUTF8)]
  site := { cwd := ["srv"] }

/-- A request for the files of that header in another place, without a formatter. -/
def aliasingRequest : Request where
  template := ⟨"t.mako"⟩
  mode := .multi ⟨"/tmp/gen"⟩
  config := { formatter := { enabled := false } }

/-- The third directive of the header has the last word on the file of the first. -/
theorem multi_unformatted_aliasing :
    ∃ report τ, (run Formatting.noPrograms (fun _ => {}) aliasingRequest).run.run
        ⟨aliasingStore, []⟩ = (.ok report, τ) ∧
      report.outputs.map (·.path.text) = ["/tmp/gen/a.txt", "/tmp/gen/b.txt", "/tmp/gen/./a.txt"] ∧
      τ.store.get? ["tmp", "gen", "a.txt"] = some (.file "3".toUTF8) ∧
      Holds aliasingStore report.outputs τ.store := by
  have hpaths : ((run Formatting.noPrograms (fun _ => {}) aliasingRequest).run.run
      ⟨aliasingStore, []⟩).1.toOption.map (·.outputs.map (·.path.text)) =
        some ["/tmp/gen/a.txt", "/tmp/gen/b.txt", "/tmp/gen/./a.txt"] := by decide +kernel
  have hlast : ((run Formatting.noPrograms (fun _ => {}) aliasingRequest).run.run
      ⟨aliasingStore, []⟩).2.store.get? ["tmp", "gen", "a.txt"] = some (.file "3".toUTF8) := by
    decide +kernel
  rcases hrun : (run Formatting.noPrograms (fun _ => {}) aliasingRequest).run.run
      ⟨aliasingStore, []⟩ with ⟨e | report, τ⟩
  · rw [hrun] at hpaths
    cases hpaths
  · rw [hrun] at hpaths hlast
    obtain ⟨-, -, -, -, -, -, -, hholds⟩ :=
      multi_unformatted (r := aliasingRequest) rfl rfl hrun
    exact ⟨report, τ, rfl, by simpa [Except.toOption] using hpaths, hlast, hholds⟩

end Run

end Imprint
