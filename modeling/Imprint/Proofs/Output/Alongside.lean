import Imprint.Proofs.Output.Atomicity
import Imprint.Proofs.Output.Spared
import Imprint.Proofs.Store.Way

/-!
# Two staged outputs side by side

Two staged outputs can be written at the same time, a phase of one between two phases of the other.
They share the store, and each of them stands at three paths for a while. As long as no path of one
leads to or past a file of the other, neither can tell that it is not alone: a phase of one changes
nothing that a phase of the other relies on, but for directories that are there earlier than they
would be.

What each of them relies on is said for each phase. It is kept by its own phases, and by those of
the other because of what these may change at most.

## Main definitions

* `Imprint.Output.Staged.alongside`: two staged outputs that take turns.
* `Imprint.Output.Staged.Apart`: two staged outputs whose paths keep clear of each other.
* `Imprint.Output.Staged.Going`: what is true before each phase, whatever the other has done.
* `Imprint.Output.Staged.StaysOnWay`: what a phase changes at most.

## Main results

* `Imprint.Output.Staged.going_advance`: a phase keeps what its own work relies on.
* `Imprint.Output.Staged.Going.of_staysOnWay`: it keeps what the other work relies on.
* `Imprint.Output.Staged.alongside_ok`: two staged outputs that end well alone end well together.
-/

namespace Imprint

open Session Formatting

/-! ### Formatters that copy -/

/-- The formatter, if it is started at all, only prints, and when it succeeds it has printed the
file that it was handed. The time at which it is to be stopped is never beyond the last second. -/
def Formatting.OnlyCopies (programs : Programs) (f : Config.Formatter) (input output : Path) :
    Prop :=
  f.enabled = true → ∃ print, OnlyPrints programs (stagedInvocation f input output) print ∧
    (∀ s c, s.FileAt input c → (programs (stagedInvocation f input output) s).skip? f = none →
      print s = c) ∧
    ∀ s, programs.clock (stagedInvocation f input output) s + f.timeout ≤ lastSecond

/-- What stands in the file that a program is handed, the last of its arguments. -/
def Formatting.handed (i : Invocation) (s : Store) : ByteArray :=
  match i.args.getLast? with
  | none => .empty
  | some text =>
    match s.read ⟨text⟩ with
    | .ok c => c
    | .error _ => .empty

/-- Every program prints the file that it is handed. -/
def Formatting.copier : Programs where
  run i s := printer (handed i) i s

theorem Formatting.onlyCopies_copier {f : Config.Formatter} (hf : f.timeout ≤ lastSecond)
    (input output : Path) : OnlyCopies copier f input output := by
  intro _
  let i := stagedInvocation f input output
  have hprints := onlyPrints_printer i (handed i)
  refine ⟨handed i, ⟨hprints.output, hprints.frame⟩, fun s c hc _ => ?_, fun s => ?_⟩
  · simp only [handed, i, getLast?_stagedArgs, Store.read_eq_ok_iff.2 hc]
  · exact (Nat.zero_add f.timeout).trans_le hf

namespace Output

/-- Which of two staged outputs goes on. -/
inductive Side where
  | left
  | right
  deriving DecidableEq, Repr

/-- Two staged outputs at work: what each of them does next, and the session that they share. -/
structure Pair where
  left : Phase
  right : Phase
  session : Session

namespace Staged

/-- One phase of one of two staged outputs. -/
def turn (programs : Programs) (v w : Staged) (x : Pair) : Side → Pair
  | .left =>
    let r := (v.step programs x.left).run x.session
    ⟨r.1, x.right, r.2⟩
  | .right =>
    let r := (w.step programs x.right).run x.session
    ⟨x.left, r.1, r.2⟩

/-- Two staged outputs that take turns. -/
def alongside (programs : Programs) (v w : Staged) (schedule : List Side) (σ : Session) : Pair :=
  schedule.foldl (turn programs v w) ⟨.parents, .parents, σ⟩

/-- No path of the second goes to or past the location of a path of the first. -/
def KeepsClear (v w : Staged) (s : Store) : Prop :=
  ∀ p ∈ v.paths, ∀ q ∈ w.paths, s.locate p ∉ s.way q

instance (v w : Staged) (s : Store) : Decidable (v.KeepsClear w s) :=
  inferInstanceAs (Decidable (∀ p ∈ v.paths, ∀ q ∈ w.paths, s.locate p ∉ s.way q))

/-- Neither of two staged outputs has a path that goes to or past a path of the other. -/
def Apart (v w : Staged) (s : Store) : Prop :=
  v.KeepsClear w s ∧ w.KeepsClear v s

instance (v w : Staged) (s : Store) : Decidable (v.Apart w s) :=
  inferInstanceAs (Decidable (v.KeepsClear w s ∧ w.KeepsClear v s))

variable {programs : Programs} {v w : Staged} {s t t' u u' : Store} {p : Phase}

/-! ### What each phase relies on -/

/-- A result that counts as formatted is one of a program that succeeded. -/
theorem skip?_of_formatted {o : Outcome} {f : Config.Formatter} {input output : Path}
    (h : o.filledStatus f input output u = .formatted) : o.skip? f = none := by
  simp only [Outcome.filledStatus] at h
  split at h
  · cases h
  · assumption

/-- A formatter whose time can be told does not break off the work. -/
theorem fst_filled {f : Config.Formatter} {input output : Path}
    (h : programs.clock (stagedInvocation f input output) u + f.timeout ≤ lastSecond) :
    (filled programs f input output u).1 =
      .ok ((programs (stagedInvocation f input output) u).filledStatus f input output
        (filled programs f input output u).2) := by
  have hlate : ¬ lastSecond < programs.clock (stagedInvocation f input output) u +
      (stagedInvocation f input output).timeout :=
    Nat.not_lt.2 h
  simp [filled, Programs.start, hlate, Except.map]

/-- No directory stands where a path leads to. -/
def Free (u : Store) (p : Path) : Prop :=
  u.get? (u.locate p) ≠ some .directory

/-- Alone the output can be written: its directories can be made, and then nothing is in the way of
the two files. -/
structure Feasible (w : Staged) (s t : Store) : Prop where
  made : s.parents w.final = (.ok (), t)
  staging : ∃ l, t.Denotes w.staging l ∧ t.get? l ≠ some .directory ∧
    t.site.refusal? l w.bytes = none
  final : ∃ l, t.Denotes w.final l ∧ t.get? l ≠ some .directory

/-- What is true of the store before each phase, whatever the other output has done: the directories
are there, the file that has been written last is there, and no directory is in the way of the next.
No phase fails. -/
def Going (w : Staged) (s t : Store) : Phase → Store → Prop
  | .parents, u => s.KeepsDirectories u ∧ u.HasRoom t ∧ Free u w.staging ∧ Free u w.final
  | .stage, u => t.KeepsDirectories u ∧ Free u w.staging ∧ Free u w.final
  | .openResult, u => t.KeepsDirectories u ∧ u.FileAt w.staging w.bytes ∧ Free u w.final
  | .fillResult, u => t.KeepsDirectories u ∧ u.FileAt w.staging w.bytes ∧ Free u w.final ∧
    w.formatter.enabled = true ∧ u.FileAt w.result .empty
  | .promote status, u =>
    t.KeepsDirectories u ∧ u.FileAt (w.choice status).1 w.bytes ∧ Free u w.final
  | .clean _, u | .done (.ok _), u => u.FileAt w.final w.bytes
  | .dropStaging _, _ | .dropResult _, _ | .done (.error _), _ => False

theorem Free.of_sameDirectories {p : Path} (h : Free u p) (hdirs : u.SameDirectories u') :
    Free u' p := by
  rw [Free, ← Store.locate_eq_of_site hdirs.site]
  exact fun hd => h ((hdirs.same _).2 hd)

theorem free_iff_of_denotes {p : Path} {l : Location} (h : t.Denotes p l)
    (hst : t.site = u.site) :
    Free u p ↔ u.get? l ≠ some .directory := by
  rw [Free, Store.locate_eq_of_site hst.symm, Store.locate_of_denotes h]

/-- A file that the site takes is written where no directory stands, once the directories are
there. -/
theorem exists_write {p : Path} {l : Location} {c : ByteArray} (hp : t.Denotes p l)
    (hst : t.KeepsDirectories u) (hfree : Free u p) (hc : t.site.refusal? l c = none) :
    ∃ u', u.write p c = (none, u') :=
  ⟨_, Store.write_eq_none_iff.2
    ⟨l, hp.mono hst, (free_iff_of_denotes hp hst.site).1 hfree, hst.site ▸ hc, rfl⟩⟩

/-! ### Work that ends well alone -/

theorem sameDirectories_formatted
    (hcopies : OnlyCopies programs w.formatter w.staging w.result) (u : Store) :
    u.SameDirectories (w.formatted programs u).2 := by
  simp only [formatted]
  rcases hopened : opened w.formatter w.result u with ⟨_ | why, u'⟩
  · have hwrite := opened_eq_none hopened
    have hdirs := Store.sameDirectories_write u w.result .empty
    rw [hwrite] at hdirs
    obtain ⟨print, hprint, -⟩ := hcopies (enabled_of_opened hopened)
    exact hdirs.trans (hprint.sameDirectories_filled (Store.fileAt_of_write hwrite))
  · obtain rfl := opened_eq_some hopened
    exact .refl _

/-- An output that is written well alone is feasible. -/
theorem exists_feasible {status : Status}
    (hcopies : OnlyCopies programs w.formatter w.staging w.result)
    (h : Ends programs w .parents s (.ok status) t) : ∃ t₁, w.Feasible s t₁ := by
  obtain ⟨s₁, s₂, s₃, hparents, hwrite, -, hrename, -⟩ := exists_of_ends_ok h
  obtain ⟨l, hl, hfree, htaken, -⟩ := Store.write_eq_none_iff.1 hwrite
  obtain ⟨-, -, k, -, -, hk, hfree', -⟩ := Store.rename_eq_ok_iff.1 hrename
  have hwritten := Store.sameDirectories_write s₁ w.staging w.bytes
  rw [hwrite] at hwritten
  have hdirs := hwritten.trans (sameDirectories_formatted hcopies s₂)
  exact ⟨s₁, hparents, ⟨l, hl, hfree, htaken⟩,
    ⟨k, hk.mono hdirs.symm.keepsDirectories, fun hd => hfree' ((hdirs.same k).1 hd)⟩⟩

/-- Before the first phase nothing has been done. -/
theorem Feasible.going_start (h : w.Feasible s t) : Going w s t .parents s := by
  have hadds : s.AddsDirectories t := by
    have hadds := Store.addsDirectories_parents s w.final
    rwa [h.made] at hadds
  have hkeeps := hadds.keepsDirectories
  have hroom := Store.hasRoom_parents s w.final
  rw [h.made] at hroom
  obtain ⟨l, hl, hfree, -⟩ := h.staging
  obtain ⟨k, hk, hfree'⟩ := h.final
  exact ⟨.refl s, hroom,
    (free_iff_of_denotes hl hkeeps.site.symm).2 fun hd => hfree (hkeeps.keeps l hd),
    (free_iff_of_denotes hk hkeeps.site.symm).2 fun hd => hfree' (hkeeps.keeps k hd)⟩

/-! ### A phase of its own -/

theorem going_parents (hfeas : w.Feasible s t) (h : Going w s t .parents u) :
    Going w s t (w.advance programs .parents u).1 (w.advance programs .parents u).2 := by
  obtain ⟨hst, hroom, hstaging, hfinal⟩ := h
  obtain ⟨u', hu', hkeeps, hmade⟩ := Store.parents_of_hasRoom hfeas.made hst hroom
  have hfree {p : Path} {l : Location} (hl : t.Denotes p l) (hnot : t.get? l ≠ some .directory)
      (h : Free u p) : Free u' p := by
    rw [free_iff_of_denotes hl hroom.site.symm] at h
    rw [free_iff_of_denotes hl hkeeps.site, (hmade l).resolve_right hnot]
    exact h
  obtain ⟨l, hl, hnot, -⟩ := hfeas.staging
  obtain ⟨k, hk, hnot'⟩ := hfeas.final
  simp only [advance, hu']
  exact ⟨hkeeps, hfree hl hnot hstaging, hfree hk hnot' hfinal⟩

theorem going_stage (hfeas : w.Feasible s t) (h : Going w s t .stage u) :
    Going w s t (w.advance programs .stage u).1 (w.advance programs .stage u).2 := by
  obtain ⟨hkeeps, hstaging, hfinal⟩ := h
  obtain ⟨l, hl, -, htaken⟩ := hfeas.staging
  obtain ⟨u', hu'⟩ := exists_write hl hkeeps hstaging htaken
  have hdirs := Store.sameDirectories_write u w.staging w.bytes
  rw [hu'] at hdirs
  simp only [advance, hu']
  exact ⟨hkeeps.trans hdirs.keepsDirectories, Store.fileAt_of_write hu',
    hfinal.of_sameDirectories hdirs⟩

theorem going_openResult (hsep : w.Separate) (h : Going w s t .openResult u) :
    Going w s t (w.advance programs .openResult u).1 (w.advance programs .openResult u).2 := by
  obtain ⟨hkeeps, hstaging, hfinal⟩ := h
  simp only [advance]
  rcases hopened : opened w.formatter w.result u with ⟨_ | why, u'⟩
  · have hwrite := opened_eq_none hopened
    have hdirs := Store.sameDirectories_write u w.result .empty
    rw [hwrite] at hdirs
    refine ⟨hkeeps.trans hdirs.keepsDirectories, ?_, hfinal.of_sameDirectories hdirs,
      enabled_of_opened hopened, Store.fileAt_of_write hwrite⟩
    refine hstaging.mono hdirs.keepsDirectories ?_
    rw [Store.get?_write hwrite, if_neg (hsep.staging_result u).symm]
  · obtain rfl := opened_eq_some hopened
    exact ⟨hkeeps, hstaging, hfinal⟩

theorem going_fillResult (hsep : w.Separate)
    (hcopies : OnlyCopies programs w.formatter w.staging w.result)
    (h : Going w s t .fillResult u) :
    Going w s t (w.advance programs .fillResult u).1 (w.advance programs .fillResult u).2 := by
  obtain ⟨hkeeps, hstaging, hfinal, henabled, hresult⟩ := h
  obtain ⟨print, hprint, hprints, hclock⟩ := hcopies henabled
  have hdirs := hprint.sameDirectories_filled hresult
  have hget := hprint.get?_filled hresult
  have hstatus := fst_filled (hclock u)
  simp only [advance]
  rcases hfilled : filled programs w.formatter w.staging w.result u with ⟨why | status, u'⟩ <;>
    rw [hfilled] at hdirs hget hstatus
  · cases hstatus
  have hstatus' := Except.ok.inj hstatus
  refine ⟨hkeeps.trans hdirs.keepsDirectories, ?_, hfinal.of_sameDirectories hdirs⟩
  cases status with
  | formatted =>
    have hskip := skip?_of_formatted hstatus'.symm
    obtain ⟨l, hl, -⟩ := id hresult
    refine ⟨l, hl.mono hdirs.keepsDirectories, ?_⟩
    rw [hget, if_pos (Store.locate_of_denotes hl), hprints u _ hstaging hskip]
  | skipped why =>
    refine hstaging.mono hdirs.keepsDirectories ?_
    rw [hget, if_neg (hsep.staging_result u).symm]

theorem going_promote (hfeas : w.Feasible s t) {status : Status}
    (h : Going w s t (.promote status) u) :
    Going w s t (w.advance programs (.promote status) u).1
      (w.advance programs (.promote status) u).2 := by
  obtain ⟨hkeeps, hfile, hfinal⟩ := h
  obtain ⟨k, hk, -⟩ := hfeas.final
  obtain ⟨l, hl, hc⟩ := id hfile
  have hrename := Store.rename_eq_ok_iff.2
    ⟨l, w.bytes, k, hl, hc, hk.mono hkeeps, (free_iff_of_denotes hk hkeeps.site).1 hfinal, rfl⟩
  simp only [advance, hrename]
  exact Store.fileAt_of_rename hrename hfile

/-- A phase keeps what its own work relies on. -/
theorem going_advance (hsep : w.Separate)
    (hcopies : OnlyCopies programs w.formatter w.staging w.result) (hfeas : w.Feasible s t)
    (h : Going w s t p u) :
    Going w s t (w.advance programs p u).1 (w.advance programs p u).2 := by
  cases p with
  | parents => exact going_parents hfeas h
  | stage => exact going_stage hfeas h
  | openResult => exact going_openResult hsep h
  | fillResult => exact going_fillResult hsep hcopies h
  | promote status => exact going_promote hfeas h
  | clean status =>
    have hfile : u.FileAt w.final w.bytes := h
    refine hfile.mono (Store.sameDirectories_removed u _).keepsDirectories ?_
    exact Store.get?_removed (hsep.choice_final status u).2
  | dropStaging e => exact h.elim
  | dropResult e => exact h.elim
  | done outcome => exact h

/-! ### A phase of the other -/

/-- What a phase changes at most: the files at the paths of the work, and directories on the way to
the final path, which are added. -/
structure StaysOnWay (w : Staged) (u u' : Store) : Prop where
  keeps : u.KeepsDirectories u'
  entry : ∀ l, u'.get? l = u.get? l ∨ (∃ p ∈ w.paths, u.locate p = l) ∨
    l ∈ u.way w.final ∧ u'.get? l = some .directory

/-- A phase that makes no directories changes at most the files at its paths. -/
theorem StaysOnWay.of_touched (ps : List Path) (hps : ps ⊆ w.paths) (hdirs : u.SameDirectories u')
    (h : ∀ l, (∀ p ∈ ps, u.locate p ≠ l) → u'.get? l = u.get? l) : w.StaysOnWay u u' := by
  refine ⟨hdirs.keepsDirectories, fun l => ?_⟩
  by_cases htouched : ∃ p ∈ ps, u.locate p = l
  · obtain ⟨p, hp, hl⟩ := htouched
    exact .inr (.inl ⟨p, hps hp, hl⟩)
  · exact .inl (h l fun p hp hl => htouched ⟨p, hp, hl⟩)

/-- A phase changes no more than that. -/
theorem staysOnWay_advance (hcopies : OnlyCopies programs w.formatter w.staging w.result)
    (h : Going w s t p u) : w.StaysOnWay u (w.advance programs p u).2 := by
  by_cases hparents : p = .parents
  · subst hparents
    rw [snd_advance_parents]
    refine ⟨(Store.addsDirectories_parents u w.final).keepsDirectories, fun l => ?_⟩
    rcases Store.get?_parents u w.final l with hsame | ⟨-, hdir, hway⟩
    · exact .inl hsame
    · exact .inr (.inr ⟨hway, hdir⟩)
  · by_cases hfill : p = .fillResult
    · subst hfill
      obtain ⟨-, -, -, henabled, hresult⟩ := h
      obtain ⟨print, hprint, -⟩ := hcopies henabled
      rw [snd_advance_fillResult]
      refine .of_touched [w.result] (by simp [paths])
        (hprint.sameDirectories_filled hresult) fun l hl => ?_
      rw [hprint.get?_filled hresult, if_neg (hl _ List.mem_cons_self)]
    · have hdirs := sameDirectories_advance (w := w) programs hparents hfill u
      refine .of_touched (w.touched p) (fun q hq => mem_paths_of_touched hq) hdirs fun l hl => ?_
      rcases advance_keptAt programs hfill u hl with hsame | ⟨hnone, hdir⟩
      · exact hsame
      · rw [(hdirs.same l).2 hdir] at hnone
        cases hnone

theorem KeepsClear.of_site (h : v.KeepsClear w s) (hst : s.site = t.site) : v.KeepsClear w t := by
  intro p hp q hq
  rw [← Store.locate_eq_of_site hst, ← Path.way_eq_of_site hst]
  exact h p hp q hq

theorem Apart.of_site (h : v.Apart w s) (hst : s.site = t.site) : v.Apart w t :=
  ⟨h.1.of_site hst, h.2.of_site hst⟩

/-- What stands at the paths of one output stays while the other one goes on. -/
theorem StaysOnWay.get?_eq (h : v.StaysOnWay u u') (hapart : v.Apart w u) {q : Path}
    (hq : q ∈ w.paths) : u'.get? (u.locate q) = u.get? (u.locate q) := by
  rcases h.entry (u.locate q) with hsame | ⟨p, hp, hpq⟩ | ⟨hway, -⟩
  · exact hsame
  · exact absurd (hpq ▸ Path.locate_mem_way u q) (hapart.1 p hp q hq)
  · exact absurd hway (hapart.2 q hq v.final List.mem_cons_self)

/-- The room for the directories of one output stays while the other one goes on. -/
theorem StaysOnWay.hasRoom (h : v.StaysOnWay u u') (hapart : v.Apart w u) (hfeas : w.Feasible s t)
    (hst : s.KeepsDirectories u) (hroom : u.HasRoom t) : u'.HasRoom t := by
  refine ⟨h.keeps.site.symm.trans hroom.site, fun l hl => ?_⟩
  rcases h.entry l with hsame | ⟨p, hp, rfl⟩ | ⟨-, hdir⟩
  · rw [hsame, ← h.keeps.site]
    exact hroom.free l hl
  · have hmade := Store.get?_parents s w.final (u.locate p)
    rw [hfeas.made] at hmade
    rcases hmade with hsame | ⟨-, -, hway⟩
    · -- the directory has been there from the start, and stays
      exact .inl (h.keeps.keeps _ (hst.keeps _ (hsame ▸ hl)))
    · rw [Path.way_eq_of_site hst.site] at hway
      exact absurd hway (hapart.1 p hp w.final List.mem_cons_self)
  · exact .inl hdir

/-- A phase of one output keeps what the other one relies on. -/
theorem Going.of_staysOnWay (hapart : v.Apart w u) (hfeas : w.Feasible s t)
    (hstays : v.StaysOnWay u u') (h : Going w s t p u) : Going w s t p u' := by
  have hfile {q : Path} {c : ByteArray} (hq : q ∈ w.paths) (hc : u.FileAt q c) : u'.FileAt q c :=
    hc.mono hstays.keeps (hstays.get?_eq hapart hq)
  have hfree {q : Path} (hq : q ∈ w.paths) (hf : Free u q) : Free u' q := by
    rw [Free, ← Store.locate_eq_of_site hstays.keeps.site, hstays.get?_eq hapart hq]
    exact hf
  have hfinal : w.final ∈ w.paths := by simp [paths]
  have hstaging : w.staging ∈ w.paths := by simp [paths]
  have hresult : w.result ∈ w.paths := by simp [paths]
  cases p with
  | parents =>
    obtain ⟨hst, hroom, hs, hf⟩ := h
    exact ⟨hst.trans hstays.keeps, hstays.hasRoom hapart hfeas hst hroom, hfree hstaging hs,
      hfree hfinal hf⟩
  | stage =>
    obtain ⟨hkeeps, hs, hf⟩ := h
    exact ⟨hkeeps.trans hstays.keeps, hfree hstaging hs, hfree hfinal hf⟩
  | openResult =>
    obtain ⟨hkeeps, hs, hf⟩ := h
    exact ⟨hkeeps.trans hstays.keeps, hfile hstaging hs, hfree hfinal hf⟩
  | fillResult =>
    obtain ⟨hkeeps, hs, hf, henabled, hr⟩ := h
    exact ⟨hkeeps.trans hstays.keeps, hfile hstaging hs, hfree hfinal hf, henabled,
      hfile hresult hr⟩
  | promote status =>
    obtain ⟨hkeeps, hc, hf⟩ := h
    have hmem : (w.choice status).1 ∈ w.paths := by
      rcases mem_choice w status with hchoice | hchoice <;> simp [hchoice, hstaging, hresult]
    exact ⟨hkeeps.trans hstays.keeps, hfile hmem hc, hfree hfinal hf⟩
  | clean status => exact hfile hfinal h
  | dropStaging e => exact h
  | dropResult e => exact h
  | done outcome =>
    cases outcome with
    | ok status => exact hfile hfinal h
    | error e => exact h

/-! ### Taking turns -/

theorem Apart.symm (h : v.Apart w s) : w.Apart v s :=
  ⟨h.2, h.1⟩

/-- What an output needs to be written beside another one. -/
structure Ready (programs : Programs) (w : Staged) (s t : Store) : Prop where
  separate : w.Separate
  copies : OnlyCopies programs w.formatter w.staging w.result
  feasible : w.Feasible s t

/-- What both of two staged outputs rely on, in the surroundings that they began with. -/
structure BothGoing (v w : Staged) (s t t' : Store) (p q : Phase) (u : Store) : Prop where
  site : s.site = u.site
  left : Going v s t p u
  right : Going w s t' q u

theorem BothGoing.symm {q : Phase} (h : BothGoing v w s t t' p q u) :
    BothGoing w v s t' t q p u :=
  ⟨h.site, h.right, h.left⟩

/-- A phase of one output keeps what both rely on. -/
theorem going_step {q : Phase} {σ : Session} (hapart : v.Apart w s) (hv : Ready programs v s t)
    (hw : Ready programs w s t') (h : BothGoing v w s t t' p q σ.store) :
    BothGoing v w s t t' ((v.step programs p).run σ).1 q ((v.step programs p).run σ).2.store := by
  obtain ⟨hphase, hstore⟩ := (gives_step programs v p σ.store).run_eq
  rw [hphase, hstore]
  have hstays := staysOnWay_advance hv.copies h.left
  exact ⟨h.site.trans hstays.keeps.site, going_advance hv.separate hv.copies hv.feasible h.left,
    h.right.of_staysOnWay (hapart.of_site h.site) hw.feasible hstays⟩

/-- Whoever goes on, what both rely on is kept. -/
theorem going_alongside {σ : Session} (hapart : v.Apart w σ.store)
    (hv : Ready programs v σ.store t) (hw : Ready programs w σ.store t') (schedule : List Side) :
    let x := alongside programs v w schedule σ
    BothGoing v w σ.store t t' x.left x.right x.session.store := by
  intro x
  have hstart : BothGoing v w σ.store t t' .parents .parents σ.store :=
    ⟨rfl, hv.feasible.going_start, hw.feasible.going_start⟩
  refine List.foldlRecOn (motive := fun x : Pair =>
    BothGoing v w σ.store t t' x.left x.right x.session.store) schedule
    (turn programs v w) hstart ?_
  intro x hx side _
  cases side with
  | left => exact going_step hapart hv hw hx
  | right => exact (going_step hapart.symm hw hv hx.symm).symm

/-- Every turn of an output brings it closer to its end. -/
theorem rank_foldl_turn (programs : Programs) (v w : Staged) (schedule : List Side) (x : Pair) :
    (schedule.foldl (turn programs v w) x).left.rank ≤ x.left.rank - schedule.count .left ∧
      (schedule.foldl (turn programs v w) x).right.rank ≤
        x.right.rank - schedule.count .right := by
  induction schedule generalizing x with
  | nil => exact ⟨Nat.le_refl _, Nat.le_refl _⟩
  | cons side schedule ih =>
    obtain ⟨hleft, hright⟩ := ih (turn programs v w x side)
    simp only [List.foldl_cons, List.count_cons]
    cases side with
    | left =>
      have hstep := v.rank_step programs x.left x.session
      simp only [turn] at hleft hright ⊢
      simp only [beq_self_eq_true, ↓reduceIte, reduceCtorEq, beq_iff_eq, Nat.add_zero]
      omega
    | right =>
      have hstep := w.rank_step programs x.right x.session
      simp only [turn] at hleft hright ⊢
      simp only [beq_self_eq_true, ↓reduceIte, reduceCtorEq, beq_iff_eq, Nat.add_zero]
      omega

/-- An output that has had all its turns is written. -/
theorem written_of_going {σ : Session} (h : Going w s t p σ.store) (hp : p.rank ≤ 0) :
    (∃ status, p = .done (.ok status)) ∧ σ.store.read w.final = .ok w.bytes := by
  obtain ⟨outcome, rfl⟩ := Phase.eq_done_of_rank hp
  cases outcome with
  | ok status => exact ⟨⟨status, rfl⟩, Store.read_eq_ok_iff.2 h⟩
  | error e => exact h.elim

/-- An output that is written well alone is ready to be written beside another one. -/
theorem exists_ready {final : Path} {content : List Char} {front : String} {f : Config.Formatter}
    {σ : Session} {status : Status} (hfront : Config.isNamePrefix front = true) :
    let w := ofFinal final content front f
    OnlyCopies programs f w.staging w.result →
      ((writeStaged programs w).run.run σ).1 = .ok status → ∃ t, Ready programs w σ.store t := by
  intro w hcopies hrun
  obtain ⟨t, hfeas⟩ := exists_feasible hcopies (ends_of_run (Prod.ext hrun rfl))
  obtain ⟨l, hl, -⟩ := hfeas.final
  obtain ⟨-, n, -, hname⟩ := Store.fileName?_of_denotes hl
  exact ⟨t, separate_ofFinal hname hfront, hcopies, hfeas⟩

/-- Two staged outputs whose paths are apart and that are both written well alone, with formatters
that only copy, are written well side by side, in whatever order they take their turns: once an
output has had all its turns, it has ended well and its final path holds its content. -/
theorem alongside_ok {final final' : Path} {content content' : List Char} {front : String}
    {f f' : Config.Formatter} {σ : Session} (hfront : Config.isNamePrefix front = true) :
    let v := ofFinal final content front f
    let w := ofFinal final' content' front f'
    v.Apart w σ.store → OnlyCopies programs f v.staging v.result →
      OnlyCopies programs f' w.staging w.result →
      (∃ status, ((writeStaged programs v).run.run σ).1 = .ok status) →
      (∃ status, ((writeStaged programs w).run.run σ).1 = .ok status) →
      ∀ schedule : List Side,
        let x := alongside programs v w schedule σ
        (Phase.parents.rank ≤ schedule.count .left →
          (∃ status, x.left = .done (.ok status)) ∧ x.session.store.read final = .ok v.bytes) ∧
        (Phase.parents.rank ≤ schedule.count .right →
          (∃ status, x.right = .done (.ok status)) ∧
            x.session.store.read final' = .ok w.bytes) := by
  rintro v w hapart hcopies hcopies' ⟨status, hrun⟩ ⟨status', hrun'⟩ schedule
  obtain ⟨t, hv⟩ := exists_ready hfront hcopies hrun
  obtain ⟨t', hw⟩ := exists_ready hfront hcopies' hrun'
  have hboth := going_alongside hapart hv hw schedule
  obtain ⟨hrank, hrank'⟩ := rank_foldl_turn programs v w schedule ⟨.parents, .parents, σ⟩
  exact ⟨fun hturns => written_of_going hboth.left (hrank.trans (Nat.sub_eq_zero_of_le hturns).le),
    fun hturns => written_of_going hboth.right (hrank'.trans (Nat.sub_eq_zero_of_le hturns).le)⟩

/-- Two outputs for one directory, which is not there yet, take turns. One of them is named from the
root. -/
theorem alongside_ok_siblings :
    let σ : Session := ⟨{ site := { cwd := ["srv"] } }, []⟩
    let x := alongside copier (ofFinal ⟨"out/a.txt"⟩ ['a'] "." {})
      (ofFinal ⟨"/srv/out/b.txt"⟩ ['b'] "." {})
      (List.replicate 7 [Side.left, Side.right]).flatten σ
    x.session.store.read ⟨"out/a.txt"⟩ = .ok (ofFinal ⟨"out/a.txt"⟩ ['a'] "." {}).bytes ∧
      x.session.store.read ⟨"/srv/out/b.txt"⟩ =
        .ok (ofFinal ⟨"/srv/out/b.txt"⟩ ['b'] "." {}).bytes := by
  intro σ
  have hapart : (ofFinal ⟨"out/a.txt"⟩ ['a'] "." {}).Apart
      (ofFinal ⟨"/srv/out/b.txt"⟩ ['b'] "." {}) σ.store := by decide +kernel
  have hv : ((writeStaged copier (ofFinal ⟨"out/a.txt"⟩ ['a'] "." {})).run.run σ).1.toOption =
      some .formatted := by decide +kernel
  have hw : ((writeStaged copier
      (ofFinal ⟨"/srv/out/b.txt"⟩ ['b'] "." {})).run.run σ).1.toOption =
      some .formatted := by decide +kernel
  have hboth := alongside_ok (by decide +kernel) hapart (onlyCopies_copier (by decide) _ _)
    (onlyCopies_copier (by decide) _ _) ⟨_, eq_ok_of_toOption hv⟩ ⟨_, eq_ok_of_toOption hw⟩
    (List.replicate 7 [Side.left, Side.right]).flatten
  exact ⟨(hboth.1 (by decide)).2, (hboth.2 (by decide)).2⟩

/-- The staging file of one output can be the other output, which then is lost. -/
theorem not_alongside_ok :
    ¬ ∀ (programs : Programs) (final final' : Path) (content content' : List Char)
      (front : String) (f f' : Config.Formatter) (σ : Session),
      let v := ofFinal final content front f
      let w := ofFinal final' content' front f'
      Config.isNamePrefix front = true → final ≠ final' →
      OnlyCopies programs f v.staging v.result → OnlyCopies programs f' w.staging w.result →
      (∃ status, ((writeStaged programs v).run.run σ).1 = .ok status) →
      (∃ status, ((writeStaged programs w).run.run σ).1 = .ok status) →
      ∀ schedule : List Side, Phase.parents.rank ≤ schedule.count .left →
        Phase.parents.rank ≤ schedule.count .right →
        let x := alongside programs v w schedule σ
        ((∃ status, x.left = .done (.ok status)) ∧ ∃ status, x.right = .done (.ok status)) ∧
          x.session.store.read final = .ok v.bytes ∧
          x.session.store.read final' = .ok w.bytes := by
  intro h
  let v := ofFinal ⟨".a"⟩ ['v'] "." { enabled := false }
  let w := ofFinal ⟨"a"⟩ ['w'] "." { enabled := false }
  let schedule := List.replicate 7 Side.left ++ List.replicate 7 Side.right
  have hdisabled (input output : Path) : OnlyCopies noPrograms { enabled := false } input output :=
    fun hf => absurd hf (by decide)
  have hv : ((writeStaged noPrograms v).run.run (⟨{}, []⟩ : Session)).1.toOption =
      some (.skipped .disabled) := by decide +kernel
  have hw : ((writeStaged noPrograms w).run.run (⟨{}, []⟩ : Session)).1.toOption =
      some (.skipped .disabled) := by decide +kernel
  obtain ⟨-, hread, -⟩ := h noPrograms ⟨".a"⟩ ⟨"a"⟩ ['v'] ['w'] "." { enabled := false }
    { enabled := false } ⟨{}, []⟩ (by decide +kernel) (by decide) (hdisabled _ _) (hdisabled _ _)
    ⟨_, eq_ok_of_toOption hv⟩ ⟨_, eq_ok_of_toOption hw⟩ schedule (by decide) (by decide)
  have hthere := Store.isFile_iff.2 ⟨_, Store.read_eq_ok_iff.1 hread⟩
  revert hthere
  decide +kernel

end Staged

end Output

end Imprint
