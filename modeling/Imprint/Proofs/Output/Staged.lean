import Imprint.Output.Staged
import Imprint.Proofs.Formatting.Behaviour
import Imprint.Proofs.Output.Target

/-!
# The phases of a staged output

A phase of the work does one thing to the store and decides what comes next; which, depends on the
store alone. The states that the work passes through are those that its phases lead to, and from
each of them the work ends in one way.

## Main definitions

* `Imprint.Output.Staged.advance`: a phase as an operation on the store.
* `Imprint.Output.Staged.Visits`: the states that the work passes through.
* `Imprint.Output.Staged.Ends`: how the work ends.

## Main results

* `Imprint.Output.Staged.ends_of_run`: the result of the work is the end of its phases.
* `Imprint.Output.Staged.Visits.ends`: every state that is passed through ends in that way.
* `Imprint.Output.Staged.Visits.invariant`, `Imprint.Output.Staged.Ends.invariant`: what each phase
  preserves holds all along and in the end.
* `Imprint.Output.Staged.advance_keptAt`: a phase changes no entry that its paths are not about.
* `Imprint.Output.Staged.isQuiet_advance`: without a formatter the work does not break off.
* `Imprint.Output.Staged.Ends.path_eq_or_addsDirectories`: what a failure leaves.
-/

namespace Imprint.Output.Staged

open Session Formatting

variable (programs : Programs) (w : Staged)

/-- The bytes that are written to the staging file. -/
def bytes : ByteArray :=
  (String.ofList w.content).toUTF8

/-- One phase of the work as an operation on the store, and what is to be done next. -/
def advance : Phase → Store → Phase × Store
  | .parents, s =>
    match s.parents w.final with
    | (.ok (), t) => (.stage, t)
    | (.error e, t) => (.done (.error (.file e)), t)
  | .stage, s =>
    match s.write w.staging w.bytes with
    | (none, t) => (.openResult, t)
    | (some fault, t) => (.done (.error (.file ⟨w.staging, fault⟩)), t)
  | .openResult, s =>
    match opened w.formatter w.result s with
    | (some why, t) => (.promote (.skipped why), t)
    | (none, t) => (.fillResult, t)
  | .fillResult, s =>
    match filled programs w.formatter w.staging w.result s with
    | (.ok status, t) => (.promote status, t)
    | (.error why, t) => (.done (.error (.panic why)), t)
  | .promote status, s =>
    match s.rename (w.choice status).1 w.final with
    | .ok t => (.clean status, t)
    | .error fault => (.dropStaging ⟨w.final, fault⟩, s)
  | .clean status, s => (.done (.ok status), s.removed (w.choice status).2)
  | .dropStaging e, s => (.dropResult e, s.removed w.staging)
  | .dropResult e, s => (.done (.error (.file e)), s.removed w.result)
  | .done outcome, s => (.done outcome, s)

theorem gives_removeLeftover (p : Path) (s : Store) :
    Gives (removeLeftover p) s () (s.removed p) := by
  refine (gives_currentStore s).bind ?_
  cases h : s.remove p with
  | ok t =>
    rw [Store.removed_of_ok h]
    exact gives_setStore s t
  | error fault =>
    rw [Store.removed_of_error h]
    cases fault with
    | notFound => exact gives_pure _ s
    | _ => exact gives_report _ s

theorem gives_afterwards_ok {a : Action FileError Unit} {s t : Store}
    (h : Gives a.run s (.ok ()) t) (next : Phase) (failed : FileError → Phase) :
    Gives (afterwards a next failed) s next t :=
  h.bind (gives_pure next t)

theorem gives_afterwards_error {a : Action FileError Unit} {s t : Store} {e : FileError}
    (h : Gives a.run s (.error e) t) (next : Phase) (failed : FileError → Phase) :
    Gives (afterwards a next failed) s (failed e) t :=
  h.bind (gives_pure (failed e) t)

/-- Which phase comes next, and with which store, depends on the store alone. -/
theorem gives_step (p : Phase) (s : Store) :
    Gives (w.step programs p) s (w.advance programs p s).1 (w.advance programs p s).2 := by
  cases p with
  | parents =>
    have h := gives_makeParents w.final s
    simp only [step, advance]
    rcases hp : s.parents w.final with ⟨e | ⟨⟩, t⟩
    · rw [hp] at h
      exact gives_afterwards_error h _ _
    · rw [hp] at h
      exact gives_afterwards_ok h _ _
  | stage =>
    have h := gives_change w.staging (·.write w.staging w.bytes) s
    simp only [advance]
    rcases hw : s.write w.staging w.bytes with ⟨_ | fault, t⟩ <;> simp only [hw] at h
    · exact gives_afterwards_ok h _ _
    · exact gives_afterwards_error h _ _
  | openResult =>
    refine (gives_openResult w.formatter w.result s).bind ?_
    simp only [advance]
    rcases opened w.formatter w.result s with ⟨_ | why, t⟩ <;> exact gives_pure _ t
  | fillResult =>
    refine (gives_fillResult programs w.formatter w.staging w.result s).bind ?_
    simp only [advance]
    rcases filled programs w.formatter w.staging w.result s with ⟨_ | _, t⟩ <;>
      exact gives_pure _ t
  | promote status =>
    have h := gives_change w.final (Store.attempt (·.rename (w.choice status).1 w.final)) s
    simp only [advance]
    cases hr : s.rename (w.choice status).1 w.final with
    | ok t =>
      simp only [Store.attempt, hr] at h
      exact gives_afterwards_ok h _ _
    | error fault =>
      simp only [Store.attempt, hr] at h
      exact gives_afterwards_error h _ _
  | clean status =>
    exact (gives_removeLeftover _ s).bind ((gives_report _ _).bind (gives_pure _ _))
  | dropStaging e => exact (gives_removeLeftover _ s).bind (gives_pure _ _)
  | dropResult e => exact (gives_removeLeftover _ s).bind (gives_pure _ _)
  | done outcome => exact gives_pure _ s

/-! ### The states of the work -/

/-- A state that the work passes through: what is to be done next, and the session then. -/
inductive Visits (σ : Session) : Phase → Session → Prop
  | start : Visits σ .parents σ
  | step {p : Phase} {τ : Session} (h : Visits σ p τ) :
      Visits σ ((w.step programs p).run τ).1 ((w.step programs p).run τ).2

/-- The work, gone on with from a phase, ends with an outcome and leaves a store. -/
inductive Ends : Phase → Store → Except Failure Status → Store → Prop
  | done (outcome : Except Failure Status) (s : Store) : Ends (.done outcome) s outcome s
  | step {p : Phase} {s : Store} {outcome : Except Failure Status} {t : Store}
      (h : Ends (w.advance programs p s).1 (w.advance programs p s).2 outcome t) :
      Ends p s outcome t

variable {programs w} {s t : Store} {p : Phase} {outcome : Except Failure Status}

/-- What ends in one way does so too after one more phase. -/
theorem Ends.advance (h : Ends programs w p s outcome t) :
    Ends programs w (w.advance programs p s).1 (w.advance programs p s).2 outcome t := by
  cases h with
  | done => exact .done outcome s
  | step h => exact h

theorem Ends.of_done {o : Except Failure Status} (h : Ends programs w (.done o) s outcome t) :
    outcome = o ∧ t = s := by
  generalize hp : Phase.done o = p at h
  induction h with
  | done => cases hp; exact ⟨rfl, rfl⟩
  | step h ih => subst hp; exact ih rfl

theorem Phase.eq_done_of_rank {p : Phase} (h : p.rank ≤ 0) : ∃ o, p = .done o := by
  cases p with
  | done o => exact ⟨o, rfl⟩
  | _ => simp [Phase.rank] at h

variable (programs w)

theorem finish_done (n : Nat) (o : Except Failure Status)
    (h : (Phase.done o).rank ≤ n) (σ : Session) : w.finish programs n (.done o) h σ = (o, σ) := by
  cases n <;> rfl

theorem finish_succ {n : Nat} {p : Phase} (h : p.rank ≤ n + 1) (hp : ∀ o, p ≠ .done o)
    (σ : Session) :
    w.finish programs (n + 1) p h σ =
      w.finish programs n ((w.step programs p).run σ).1
        (Nat.le_trans (w.rank_step programs p σ) (Nat.sub_le_of_le_add h))
        ((w.step programs p).run σ).2 := by
  cases p with
  | done o => exact absurd rfl (hp o)
  | _ => rfl

/-- The rest of the work from a phase on is how the phase ends. -/
theorem ends_finish (n : Nat) (p : Phase) (h : p.rank ≤ n) (σ : Session) :
    Ends programs w p σ.store (w.finish programs n p h σ).1
      (w.finish programs n p h σ).2.store := by
  induction n generalizing p σ with
  | zero =>
    obtain ⟨o, rfl⟩ := Phase.eq_done_of_rank h
    rw [finish_done]
    exact .done o σ.store
  | succ n ih =>
    by_cases hp : ∃ o, p = .done o
    · obtain ⟨o, rfl⟩ := hp
      rw [finish_done]
      exact .done o σ.store
    · rw [finish_succ programs w h (fun o ho => hp ⟨o, ho⟩)]
      refine .step ?_
      obtain ⟨hphase, hstore⟩ := (gives_step programs w p σ.store).run_eq
      rw [← hphase, ← hstore]
      exact ih _ _ _

/-- The rest of the work passes through its end. -/
theorem visits_finish (n : Nat) (p : Phase) (h : p.rank ≤ n) {σ τ : Session}
    (hp : Visits programs w σ p τ) :
    Visits programs w σ (.done (w.finish programs n p h τ).1) (w.finish programs n p h τ).2 := by
  induction n generalizing p τ with
  | zero =>
    obtain ⟨o, rfl⟩ := Phase.eq_done_of_rank h
    rwa [finish_done]
  | succ n ih =>
    by_cases hd : ∃ o, p = .done o
    · obtain ⟨o, rfl⟩ := hd
      rwa [finish_done]
    · rw [finish_succ programs w h (fun o ho => hd ⟨o, ho⟩)]
      exact ih _ _ hp.step

variable {programs w} {σ τ : Session}

/-- The result of the work is the end of its phases. -/
theorem ends_of_run (h : (writeStaged programs w).run.run σ = (outcome, τ)) :
    Ends programs w .parents σ.store outcome τ.store := by
  have hends := ends_finish programs w 7 .parents (Nat.le_refl _) σ
  have hrun : w.finish programs 7 .parents (Nat.le_refl _) σ = (outcome, τ) := h
  rwa [hrun] at hends

/-- The end of the work is one of the states it passes through. -/
theorem visits_of_run (h : (writeStaged programs w).run.run σ = (outcome, τ)) :
    Visits programs w σ (.done outcome) τ := by
  have hstart : Visits programs w σ .parents σ := .start
  have hvisits := visits_finish programs w 7 .parents (Nat.le_refl _) hstart
  have hrun : w.finish programs 7 .parents (Nat.le_refl _) σ = (outcome, τ) := h
  rwa [hrun] at hvisits

/-- Every state that the work passes through ends as the whole work does. -/
theorem Visits.ends (h : Ends programs w .parents σ.store outcome t)
    (hv : Visits programs w σ p τ) : Ends programs w p τ.store outcome t := by
  induction hv with
  | start => exact h
  | @step p τ _ ih =>
    obtain ⟨hphase, hstore⟩ := (gives_step programs w p τ.store).run_eq
    rw [hphase, hstore]
    exact ih.advance

/-- An invariant of the phases holds in every state that the work passes through. -/
theorem Visits.invariant (Inv : Phase → Store → Prop) (hstart : Inv .parents σ.store)
    (hstep : ∀ p τ, Visits programs w σ p τ → Inv p τ.store →
      Inv (w.advance programs p τ.store).1 (w.advance programs p τ.store).2)
    (hv : Visits programs w σ p τ) : Inv p τ.store := by
  induction hv with
  | start => exact hstart
  | @step p τ hv ih =>
    obtain ⟨hphase, hstore⟩ := (gives_step programs w p τ.store).run_eq
    rw [hphase, hstore]
    exact hstep _ _ hv ih

/-- An invariant of the phases holds at the end. -/
theorem Ends.invariant (Inv : Phase → Store → Prop) (hstart : Inv p s)
    (hstep : ∀ p s, Inv p s → Inv (w.advance programs p s).1 (w.advance programs p s).2)
    (h : Ends programs w p s outcome t) : Inv (.done outcome) t := by
  induction h with
  | done => exact hstart
  | step _ ih => exact ih (hstep _ _ hstart)

/-- The work ends in one way only. -/
theorem Ends.unique {o : Except Failure Status} {u : Store}
    (h : Ends programs w p s outcome t) (h' : Ends programs w p s o u) :
    outcome = o ∧ t = u := by
  induction h with
  | done => exact h'.of_done.imp Eq.symm Eq.symm
  | step _ ih => exact ih h'.advance

/-- Whatever stands in the store, the work ends. -/
theorem exists_ends (programs : Programs) (w : Staged) (p : Phase) (s : Store) :
    ∃ outcome t, Ends programs w p s outcome t :=
  ⟨_, _, ends_finish programs w p.rank p (Nat.le_refl _) ⟨s, []⟩⟩

/-- What the whole work gives on a store. -/
theorem gives_writeStaged (h : Ends programs w .parents s outcome t) :
    Gives (writeStaged programs w).run s outcome t := by
  intro log
  rcases hrun : (writeStaged programs w).run.run ⟨s, log⟩ with ⟨o, τ⟩
  obtain ⟨rfl, rfl⟩ := h.unique (ends_of_run hrun)
  exact ⟨τ.log, rfl⟩

/-! ### What a phase changes -/

/-- The paths whose entries a phase changes, apart from what the formatter does. -/
def touched (w : Staged) : Phase → List Path
  | .stage => [w.staging]
  | .openResult => [w.result]
  | .promote status => [(w.choice status).1, w.final]
  | .clean status => [(w.choice status).2]
  | .dropStaging _ => [w.staging]
  | .dropResult _ => [w.result]
  | .parents | .fillResult | .done _ => []

theorem mem_choice (w : Staged) (status : Status) :
    (w.choice status = (w.result, w.staging)) ∨ w.choice status = (w.staging, w.result) := by
  cases status with
  | formatted => exact .inl rfl
  | skipped why => exact .inr rfl

section Leaves

variable (programs : Programs) (w : Staged) (s : Store)

theorem snd_advance_parents : (w.advance programs .parents s).2 = (s.parents w.final).2 := by
  simp only [advance]
  rcases s.parents w.final with ⟨_ | _, t⟩ <;> rfl

theorem snd_advance_stage :
    (w.advance programs .stage s).2 = (s.write w.staging w.bytes).2 := by
  simp only [advance]
  rcases s.write w.staging w.bytes with ⟨_ | _, t⟩ <;> rfl

theorem snd_advance_openResult :
    (w.advance programs .openResult s).2 = (opened w.formatter w.result s).2 := by
  simp only [advance]
  rcases opened w.formatter w.result s with ⟨_ | _, t⟩ <;> rfl

theorem snd_advance_fillResult :
    (w.advance programs .fillResult s).2 =
      (filled programs w.formatter w.staging w.result s).2 := by
  simp only [advance]
  rcases filled programs w.formatter w.staging w.result s with ⟨_ | _, t⟩ <;> rfl

end Leaves

/-- A phase without the formatter makes directories at most in the beginning. -/
theorem sameDirectories_advance (programs : Programs) {w : Staged} {p : Phase}
    (hp : p ≠ .parents) (hp' : p ≠ .fillResult) (s : Store) :
    s.SameDirectories (w.advance programs p s).2 := by
  cases p with
  | parents => exact absurd rfl hp
  | fillResult => exact absurd rfl hp'
  | stage =>
    rw [snd_advance_stage]
    exact Store.sameDirectories_write s w.staging w.bytes
  | openResult =>
    rw [snd_advance_openResult]
    exact sameDirectories_opened w.formatter w.result s
  | promote status =>
    simp only [advance]
    cases hr : s.rename (w.choice status).1 w.final with
    | ok t => exact Store.sameDirectories_rename hr
    | error fault => exact .refl s
  | clean status => exact Store.sameDirectories_removed s _
  | dropStaging e => exact Store.sameDirectories_removed s _
  | dropResult e => exact Store.sameDirectories_removed s _
  | done o => exact .refl s

/-- No phase changes what surrounds the store. -/
theorem site_advance (programs : Programs) (w : Staged) (p : Phase) (s : Store) :
    (w.advance programs p s).2.site = s.site := by
  by_cases hp : p = .parents
  · rw [hp, snd_advance_parents]
    exact (Store.addsDirectories_parents s w.final).site.symm
  · by_cases hp' : p = .fillResult
    · rw [hp', snd_advance_fillResult]
      exact site_filled programs w.staging w.result s
    · exact (sameDirectories_advance programs hp hp' s).site.symm

/-- A phase without the formatter changes no entry that its paths are not about. -/
theorem advance_keptAt (programs : Programs) {w : Staged} {p : Phase} (hp : p ≠ .fillResult)
    (s : Store) {l : Location} (hl : ∀ q ∈ w.touched p, s.locate q ≠ l) :
    s.KeptAt (w.advance programs p s).2 l := by
  cases p with
  | parents =>
    rw [snd_advance_parents]
    exact (Store.addsDirectories_parents s w.final).kept l
  | stage =>
    rw [snd_advance_stage]
    exact .of_eq (Store.get?_write_of_ne (hl _ List.mem_cons_self))
  | openResult =>
    rw [snd_advance_openResult]
    exact .of_eq (get?_opened_of_ne w.formatter (hl _ List.mem_cons_self))
  | fillResult => exact absurd rfl hp
  | promote status =>
    simp only [advance]
    cases hr : s.rename (w.choice status).1 w.final with
    | ok t =>
      exact .of_eq (Store.get?_rename hr (hl _ List.mem_cons_self)
        (hl _ (List.mem_cons_of_mem _ List.mem_cons_self)))
    | error fault => exact .refl s l
  | clean status => exact .of_eq (Store.get?_removed (hl _ List.mem_cons_self))
  | dropStaging e => exact .of_eq (Store.get?_removed (hl _ List.mem_cons_self))
  | dropResult e => exact .of_eq (Store.get?_removed (hl _ List.mem_cons_self))
  | done o => exact .refl s l

/-- The paths of a staged output. -/
def paths (w : Staged) : List Path :=
  [w.final, w.staging, w.result]

theorem mem_paths_of_touched {w : Staged} {q : Path} (h : q ∈ w.touched p) : q ∈ w.paths := by
  cases p with
  | promote status =>
    rcases mem_choice w status with hc | hc <;> simp_all [touched, paths] <;> tauto
  | clean status => rcases mem_choice w status with hc | hc <;> simp_all [touched, paths]
  | _ => simp_all [touched, paths]

/-- Whether a phase neither starts the formatter nor breaks off. -/
def IsQuiet : Phase → Prop
  | .fillResult | .done (.error (.panic _)) => False
  | _ => True

/-- Without a formatter none is started, and the work does not break off. -/
theorem isQuiet_advance (programs : Programs) {w : Staged} (hf : w.formatter.enabled = false)
    {p : Phase} (hp : IsQuiet p) (s : Store) : IsQuiet (w.advance programs p s).1 := by
  cases p with
  | parents =>
    simp only [Staged.advance]
    split <;> trivial
  | stage =>
    simp only [Staged.advance]
    split <;> trivial
  | openResult => simp [Staged.advance, opened, hf, IsQuiet]
  | fillResult => exact hp.elim
  | promote status =>
    simp only [Staged.advance]
    split <;> trivial
  | done o => exact hp
  | _ => trivial

/-- Without a formatter the work changes only what its paths are about. -/
theorem Ends.keptAt_of_disabled (h : Ends programs w .parents s outcome t)
    (hf : w.formatter.enabled = false) {l : Location}
    (hl : ∀ q ∈ w.paths, s.locate q ≠ l) : s.KeptAt t l := by
  have hstart : IsQuiet .parents := trivial
  have hinv := h.invariant (fun p u => IsQuiet p ∧ s.site = u.site ∧ s.KeptAt u l)
    ⟨hstart, rfl, .refl s l⟩ ?_
  · exact hinv.2.2
  · rintro p u ⟨hp, hsite, hu⟩
    have hfill : p ≠ .fillResult := by
      rintro rfl
      exact hp
    refine ⟨isQuiet_advance programs hf hp u, hsite.trans (site_advance programs w p u).symm,
      hu.trans (advance_keptAt programs hfill u fun q hq => ?_)⟩
    rw [← Store.locate_eq_of_site hsite]
    exact hl q (mem_paths_of_touched hq)

/-- Without a formatter the work does not break off. -/
theorem Ends.ne_panic_of_disabled (h : Ends programs w .parents s outcome t)
    (hf : w.formatter.enabled = false) (why : Panic) : outcome ≠ .error (.panic why) := by
  rintro rfl
  have hstart : IsQuiet .parents := trivial
  exact h.invariant (fun p _ => IsQuiet p) hstart fun _ u hp => isQuiet_advance programs hf hp u

/-- How far the work has come when it fails: an error before the output is moved ends it at once, a
later one is about the final path. -/
def FailureAt (w : Staged) (s : Store) : Phase → Store → Prop
  | .parents, u | .stage, u => s.AddsDirectories u
  | .dropStaging e, _ | .dropResult e, _ => e.path = w.final
  | .done (.error (.file e)), u => e.path = w.final ∨ e.path = w.staging ∨ s.AddsDirectories u
  | _, _ => True

/-- Work that fails elsewhere than at the final path or the staging file has done no more than make
directories. -/
theorem Ends.path_eq_or_addsDirectories {e : FileError}
    (h : Ends programs w .parents s (.error (.file e)) t) :
    e.path = w.final ∨ e.path = w.staging ∨ s.AddsDirectories t := by
  have hstart : FailureAt w s .parents s := Store.AddsDirectories.refl s
  refine h.invariant (FailureAt w s) hstart ?_
  intro p u hu
  cases p with
  | parents =>
    have hadds := Store.AddsDirectories.trans hu (Store.addsDirectories_parents u w.final)
    simp only [Staged.advance]
    rcases hq : u.parents w.final with ⟨e | ⟨⟩, v⟩ <;> rw [hq] at hadds
    · exact .inr (.inr hadds)
    · exact hadds
  | stage =>
    simp only [Staged.advance]
    rcases u.write w.staging w.bytes with ⟨_ | fault, v⟩
    · trivial
    · exact .inr (.inl rfl)
  | openResult =>
    simp only [Staged.advance]
    rcases opened w.formatter w.result u with ⟨_ | why, v⟩ <;> trivial
  | fillResult =>
    simp only [Staged.advance]
    rcases filled programs w.formatter w.staging w.result u with ⟨_ | _, v⟩ <;> trivial
  | promote status =>
    simp only [Staged.advance]
    cases u.rename (w.choice status).1 w.final with
    | ok v => trivial
    | error fault => rfl
  | clean status => trivial
  | dropStaging e => exact hu
  | dropResult e => exact .inl hu
  | done outcome => exact hu

end Imprint.Output.Staged
