import Imprint.Proofs.Run.Targets
import Imprint.Proofs.Store.Leading
import Imprint.Proofs.Template.Sought

/-!
# Running again

A second run starts from what the first one has left. Its files can all be written: their
directories are there by now, and no directory stands where one of them is to be. It writes the same
texts in the same order, so it leaves what it has found, provided that it reads what the first run
has read and that its functions are answered as before. That is not so of itself, for a run
overwrites whatever stands at its paths, its own template included.

## Main definitions

* `Imprint.Run.Undisturbed`: what a run reads is the same in another store.
* `Imprint.Run.ApartFrom`: a path that outputs have nothing to do with.

## Main results

* `Imprint.Run.targets_again`: the files of the directives can be written again.
* `Imprint.Run.Holds.same`: written again, they change nothing.
* `Imprint.Run.Holds.undisturbed`: outputs that are apart from what is read do not disturb it.
* `Imprint.Run.multi_again`: a second run is like the first and changes nothing.
-/

namespace Imprint.Run

open Session

variable {programs : Formatting.Programs} {around : Nat → Template.Surroundings} {config : Config}
  {compiled : Template.Compiled} {dir : Path} {ds : List Directive} {outputs : List Rendered}
  {s t u : Store} {l : Location}

/-! ### Writing again -/

/-- Outputs that were written can be written where their paths can be resolved and no directory
stands. -/
theorem targets_again (hf : config.formatter.enabled = false)
    (h : targets programs around config compiled dir ds s = (.ok outputs, t))
    (hst : s.site = u.site)
    (hready : ∀ o ∈ outputs, ∃ l, u.Denotes o.path l ∧ u.get? l ≠ some .directory) :
    ∃ v, targets programs around config compiled dir ds u = (.ok outputs, v) ∧
      u.SameDirectories v := by
  induction ds generalizing s outputs u with
  | nil =>
    obtain ⟨rfl, -⟩ : [] = outputs ∧ s = t := by simpa [targets] using h
    exact ⟨u, rfl, .refl u⟩
  | cons d ds ih =>
    obtain ⟨o, os, s₁, hd, hds, rfl⟩ := targets_cons_eq_ok _ _ _ _ _ h
    obtain ⟨⟨hpath, hbinding, hsize, hstatus⟩, hput⟩ := target_unformatted hf hd
    obtain ⟨l, hl, hfree⟩ := hready o List.mem_cons_self
    have htaken : u.site.refusal? l o.bytes = none := by
      have hfirst := Store.refusal?_of_put hput
      rwa [Store.locate_eq_of_site hst, Store.locate_of_denotes hl, hst] at hfirst
    have hsite : s₁.site = s.site := by
      have hdirs := Store.keepsDirectories_put s o.path o.bytes
      rw [hput] at hdirs
      exact hdirs.site.symm
    have hdirs : u.SameDirectories (u.insert l (.file o.bytes)) :=
      Store.sameDirectories_insert_file hfree
    have htarget : target programs around config compiled dir d u =
        (.ok o, u.insert l (.file o.bytes)) := by
      rw [target_of_put_unformatted programs hf (textFor_eq_ok.2 hbinding)
        (hpath ▸ Store.put_of_denotes hl hfree htaken), ← hpath, ← hsize, ← hstatus]
    obtain ⟨v, hv, hdirs'⟩ := ih hds (hsite.trans (hst.trans hdirs.site)) fun o' ho' => by
      obtain ⟨l', hl', hfree'⟩ := hready o' (List.mem_cons_of_mem _ ho')
      exact ⟨l', hl'.mono hdirs.keepsDirectories, fun hdir => hfree' ((hdirs.same l').2 hdir)⟩
    refine ⟨v, ?_, hdirs.trans hdirs'⟩
    rw [targets_cons_ok _ _ _ _ _ htarget, hv]
    rfl

/-- No directory stands where an output has been written. -/
theorem Holds.get?_ne_directory (h : Holds s outputs t) (hl : ∃ o ∈ outputs, t.Denotes o.path l) :
    t.get? l ≠ some .directory := by
  obtain ⟨before, o, after, hsplit, ho, hafter⟩ := exists_last_of_exists hl
  simp [h.last before o after l hsplit ho hafter]

/-- Outputs that are written over themselves change nothing. -/
theorem Holds.same (h : Holds s outputs t) (h' : Holds t outputs u) (hdirs : t.SameDirectories u) :
    u.Same t := by
  refine ⟨hdirs.site.symm, fun l => ?_⟩
  have hiff (p : Path) : u.Denotes p l ↔ t.Denotes p l :=
    ⟨fun hp => hp.mono hdirs.symm.keepsDirectories, fun hp => hp.mono hdirs.keepsDirectories⟩
  by_cases hl : ∃ o ∈ outputs, t.Denotes o.path l
  · obtain ⟨before, o, after, hsplit, ho, hafter⟩ := exists_last_of_exists hl
    have hlast := h.last before o after l hsplit ho hafter
    have hlast' := h'.last before o after l hsplit ((hiff _).2 ho)
      fun o' ho' hp => hafter o' ho' ((hiff _).1 hp)
    rw [hlast, hlast']
  · rcases h'.other l fun o ho hp => hl ⟨o, ho, (hiff _).1 hp⟩ with heq | ⟨hnone, hdir⟩
    · exact heq
    · rw [(hdirs.same l).2 hdir] at hnone
      cases hnone

/-! ### Reading again -/

variable {r : Request} {σ τ : Session} {report : Report}

/-- What a run reads from one store is the same in another: the template, and the texts for which
the names stand that it may look for. -/
structure Undisturbed (r : Request) (s t : Store) : Prop where
  template : t.readText r.template = s.readText r.template
  sought : ∀ source main, readSource r s = .ok source →
    Template.expanded source.name source.body = .ok main →
      Template.SameTexts s t (r.searchPath source) source.name main

theorem Undisturbed.readSource_eq (h : Undisturbed r s t) : readSource r t = readSource r s := by
  simp only [readSource, h.template]

theorem Undisturbed.compiledFrom_eq (h : Undisturbed r s t) {source : Source}
    (hsource : readSource r s = .ok source) :
    compiledFrom r source t = compiledFrom r source s := by
  have hcompile := Template.compile_of_sameTexts (fun main => h.sought source main hsource) [] []
  rw [compiledFrom, compiledFrom, Template.compileSource, Template.compileSource, hcompile]

/-- A run plans the same where it reads the same. -/
theorem Undisturbed.multiPlan_eq_ok (h : Undisturbed r s t)
    {plan : List Directive × Template.Compiled} (hplan : multiPlan r s = .ok plan) :
    multiPlan r t = .ok plan := by
  obtain ⟨source, hsource, hrest⟩ := bind_eq_ok.1 hplan
  obtain ⟨ds, hds, hrest⟩ := bind_eq_ok.1 hrest
  obtain ⟨compiled, hcompiled, hplan⟩ := bind_eq_ok.1 hrest
  refine bind_eq_ok.2 ⟨source, h.readSource_eq.trans hsource, ?_⟩
  exact bind_eq_ok.2 ⟨ds, hds, bind_eq_ok.2
    ⟨compiled, (h.compiledFrom_eq hsource).trans hcompiled, hplan⟩⟩

/-- A path that outputs have nothing to do with: what it denotes by now it denoted before, and no
output was written there. -/
def ApartFrom (s t : Store) (outputs : List Rendered) (p : Path) : Prop :=
  ∀ l, t.Denotes p l → s.Denotes p l ∧ ∀ o ∈ outputs, ¬ t.Denotes o.path l

theorem Holds.fileAt_iff (h : Holds s outputs t) {p : Path} (hp : ApartFrom s t outputs p)
    {c : ByteArray} : t.FileAt p c ↔ s.FileAt p c := by
  constructor
  · rintro ⟨l, hl, hc⟩
    obtain ⟨hl', hnone⟩ := hp l hl
    exact ⟨l, hl', (h.other l hnone).file_iff.1 hc⟩
  · rintro ⟨l, hl, hc⟩
    have hl' := hl.mono h.keepsDirectories
    exact ⟨l, hl', (h.other l (hp l hl').2).file_iff.2 hc⟩

/-- Outputs disturb nothing when the template and the files that may be looked for are apart from
them. -/
theorem Holds.undisturbed (h : Holds s outputs t) {text : String}
    (hread : s.readText r.template = .ok text) (htemplate : ApartFrom s t outputs r.template)
    (hsought : ∀ source main, readSource r s = .ok source →
      Template.expanded source.name source.body = .ok main →
        ∀ n, Template.Sought s (r.searchPath source) source.name main n →
          ∀ d ∈ r.searchPath source, ApartFrom s t outputs (d.join ⟨n⟩)) :
    Undisturbed r s t where
  template := by
    obtain ⟨c, hc, htext⟩ := Store.readText_eq_ok_iff.1 hread
    rw [hread, Store.readText_eq_ok_iff]
    exact ⟨c, (h.fileAt_iff htemplate).2 hc, htext⟩
  sought source main hsource hmain n hn :=
    Template.fetch_congr fun d hd _ => h.fileAt_iff (hsought source main hsource hmain n hn d hd)

/-! ### Running again -/

/-- A run without a formatter that ends well and leaves what it reads as it was, run again on what
it has left and in the same surroundings, ends well with the same report and changes nothing. -/
theorem multi_again (hmode : r.mode = .multi dir) (hf : r.config.formatter.enabled = false)
    (hrun : (run programs around r).run.run σ = (.ok report, τ))
    (hread : Undisturbed r σ.store τ.store) (log : List Log.Event) :
    ∃ υ, (run programs around r).run.run ⟨τ.store, log⟩ = (.ok report, υ) ∧
      υ.store.Same τ.store := by
  obtain ⟨ds, compiled, hplan, hts⟩ := run_multi_eq_ok hmode hrun
  obtain ⟨-, hholds⟩ := targets_unformatted hf hts
  obtain ⟨v, hv, hdirs⟩ := targets_again hf hts hholds.keepsDirectories.site fun o ho => by
    obtain ⟨l, hl⟩ := hholds.denotes o ho
    exact ⟨l, hl, hholds.get?_ne_directory ⟨o, ho, hl⟩⟩
  obtain ⟨-, hholds'⟩ := targets_unformatted hf hv
  have hreport := ((gives_run_multi programs around hmode hplan).eq_of_run hrun).1
  have hgives := gives_run_multi programs around hmode (hread.multiPlan_eq_ok hplan)
  rw [hts] at hreport
  rw [hv, hreport] at hgives
  obtain ⟨log', hrun'⟩ := hgives log
  exact ⟨⟨v, log'⟩, hrun', hholds.same hholds' hdirs⟩

/-- A template for a file in two ways, which includes a part. -/
def includingText : String :=
  "## a.txt v=1;\n## ./a.txt v=2;\n\x7b% include 'part' %\x7d${v}\n"

/-- That template and the part. -/
def includingStore : Store where
  entries := [(["srv", "t.mako"], .file includingText.toUTF8),
    (["srv", "part"], .file "x".toUTF8)]
  site := { cwd := ["srv"] }

/-- The body of that template, its interpolation written out. -/
def includingBody : List Char :=
  "\x7b% include 'part' %\x7d\x7b\x7b v \x7d\x7d".toList

/-- A request for the files of a template, without a formatter, in the directory of the template. -/
def besideRequest : Request where
  template := ⟨"t.mako"⟩
  mode := .multi ⟨"/srv"⟩
  config := { formatter := { enabled := false } }

theorem fetch_part :
    Template.fetch includingStore [⟨"."⟩] "part" = .ok (some ['x']) :=
  eq_ok_of_toOption (by decide +kernel)

theorem eq_part_of_sought {n : String}
    (h : Template.Sought includingStore [⟨"."⟩] "t.mako" includingBody n) : n = "part" := by
  have hbody : Template.references includingBody = [⟨"part", false⟩] := by decide +kernel
  have hpart : Template.references ['x'] = [] := by decide +kernel
  exact h.name_eq hbody (by decide) fetch_part hpart

/-- What each run reports: the file is written twice. -/
def besideReport : Report :=
  ⟨⟨"t.mako"⟩, true, [⟨⟨"/srv/a.txt"⟩, ['x', '1'], 2, .skipped .disabled⟩,
    ⟨⟨"/srv/./a.txt"⟩, ['x', '2'], 2, .skipped .disabled⟩]⟩

/-- The file is written into the directory in which the part is looked for, and disturbs nothing. -/
theorem multi_again_beside :
    ∃ τ υ,
      (run Formatting.noPrograms (fun _ => {}) besideRequest).run.run ⟨includingStore, []⟩ =
        (.ok besideReport, τ) ∧
      (run Formatting.noPrograms (fun _ => {}) besideRequest).run.run ⟨τ.store, []⟩ =
        (.ok besideReport, υ) ∧
      υ.store.Same τ.store := by
  obtain ⟨τ, hrun, htemplate, hpart⟩ : ∃ τ,
      (run Formatting.noPrograms (fun _ => {}) besideRequest).run.run ⟨includingStore, []⟩ =
        (.ok besideReport, τ) ∧
      τ.store.readText ⟨"t.mako"⟩ = .ok includingText ∧
      Template.fetch τ.store [⟨"."⟩] "part" = .ok (some ['x']) := by
    refine ⟨_, eq_pair_of_toOption ?_, ?_, eq_ok_of_toOption ?_⟩
    · decide +kernel
    · decide +kernel
    · decide +kernel
  have hread : Undisturbed besideRequest includingStore τ.store := by
    have htext : includingStore.readText ⟨"t.mako"⟩ = .ok includingText := by decide +kernel
    refine ⟨htemplate.trans htext.symm, fun source main hsource hmain n hn => ?_⟩
    obtain ⟨text, htext', rfl⟩ := readSource_eq_ok.1 hsource
    obtain rfl : includingText = text := Except.ok.inj (htext.symm.trans htext')
    obtain rfl : includingBody = main :=
      Except.ok.inj ((eq_ok_of_toOption (by decide +kernel)).symm.trans hmain)
    obtain rfl := eq_part_of_sought hn
    exact hpart.trans fetch_part.symm
  obtain ⟨υ, hagain, hsame⟩ := multi_again (r := besideRequest) rfl rfl hrun hread []
  exact ⟨τ, υ, hrun, hagain, hsame⟩

/-- A template that names itself in its header. -/
def overwritingStore : Store where
  entries := [(["srv", "t.mako"], .file "## t.mako v=1;\n${v}\n".toUTF8)]
  site := { cwd := ["srv"] }

/-- Not every run can be made again, for a run may overwrite its own template. -/
theorem not_multi_again :
    ¬ ∀ (programs : Formatting.Programs) (around : Nat → Template.Surroundings) (r : Request)
        (dir : Path) (σ τ : Session) (report : Report),
      r.mode = .multi dir → r.config.formatter.enabled = false →
      (run programs around r).run.run σ = (.ok report, τ) →
      ∃ υ, (run programs around r).run.run ⟨τ.store, []⟩ = (.ok report, υ) ∧
        υ.store.Same τ.store := by
  intro h
  obtain ⟨τ, hrun, hfails⟩ : ∃ τ,
      (run Formatting.noPrograms (fun _ => {}) besideRequest).run.run ⟨overwritingStore, []⟩ =
        (.ok ⟨⟨"t.mako"⟩, true, [⟨⟨"/srv/t.mako"⟩, ['1'], 1, .skipped .disabled⟩]⟩, τ) ∧
      ((run Formatting.noPrograms (fun _ => {}) besideRequest).run.run
        ⟨τ.store, []⟩).1.toOption = none := by
    refine ⟨_, eq_pair_of_toOption ?_, ?_⟩
    · decide +kernel
    · decide +kernel
  obtain ⟨υ, hagain, -⟩ := h _ _ besideRequest _ _ _ _ rfl rfl hrun
  rw [hagain] at hfails
  cases hfails

end Imprint.Run
