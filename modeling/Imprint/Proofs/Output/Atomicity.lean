import Imprint.Proofs.Output.Siblings
import Imprint.Proofs.Output.Staged

/-!
# The final path of a staged output

Whoever looks at the final path while an output is written sees what stood there before or the
complete output. The one exception is a final path with a `..` in it that leads back over its own
last name: where nothing stood, a directory that the path needs can come to stand at the path
itself. Then the output cannot be moved there, and the work fails.

Work that fails leaves nothing at the two other paths that was not there, unless it is the staging
file itself that could not be written: what was taken of it stays.

The invariant compares every state with the store that the making of the directories leaves. From
then on only the two other paths change, until the output is moved.

## Main definitions

* `Imprint.Output.Staged.Shows`: the stores that can be seen while the work goes on.
* `Imprint.Output.Staged.Progress`: what is true before each phase.
* `Imprint.Output.Staged.Atomic`: what a staged output promises.

## Main results

* `Imprint.Output.Staged.progress_advance`: each phase keeps the invariant.
* `Imprint.Output.Staged.atomic_ofFinal`: a staged output keeps its promise.
-/

namespace Imprint.Output.Staged

open Session Formatting

variable {programs : Programs} {w : Staged} {print : Store → ByteArray} {σ τ : Session}
  {s t u v : Store} {p : Phase} {status : Status} {outcome : Except Failure Status}

/-- A store that can be seen while the work goes on: between two phases, or while the directories
are made one by one. -/
inductive Shows (programs : Programs) (w : Staged) (σ : Session) : Store → Prop
  | between {p : Phase} {τ : Session} (h : Visits programs w σ p τ) : Shows programs w σ τ.store
  | making {q : Path} {t : Store} (hq : w.final.parent? = some q) (hne : q.text.isEmpty = false)
      (h : Store.Making σ.store (Store.needed q) t) : Shows programs w σ t

/-- The complete output for a status: what the formatter printed when it was started, or the content
as it was. -/
def Complete (programs : Programs) (w : Staged) (print : Store → ByteArray) (σ : Session) :
    Status → ByteArray → Prop
  | .formatted, c => ∃ υ, Visits programs w σ .fillResult υ ∧ c = print υ.store
  | .skipped _, c => c = w.bytes

/-- Only what the paths for staging are about has changed. -/
structure Around (w : Staged) (s u : Store) : Prop where
  site : s.site = u.site
  frame : ∀ l, s.locate w.staging ≠ l → s.locate w.result ≠ l → u.get? l = s.get? l

/-- The store once the directories are made. -/
def base (w : Staged) (σ : Session) : Store :=
  (σ.store.parents w.final).2

/-- A file that is left at one of the paths for staging by work that failed: it was there before, or
it is what was taken of the staging file. -/
def Left (w : Staged) (s : Store) (e : FileError) (q : Path) (c : ByteArray) : Prop :=
  s.get? (s.locate q) = some (.file c) ∨
    q = w.staging ∧ e.path = w.staging ∧ Store.Taken w.bytes (some e.fault) c

/-- What is true of the store before each phase. -/
def Progress (programs : Programs) (w : Staged) (print : Store → ByteArray) (σ : Session) :
    Phase → Store → Prop
  | .parents, u => u = σ.store
  | .stage, u => u = w.base σ
  | .openResult, u => u.FileAt w.staging w.bytes ∧ w.Around (w.base σ) u
  | .fillResult, u =>
    u.FileAt w.staging w.bytes ∧ u.FileAt w.result .empty ∧ w.Around (w.base σ) u
  | .promote status, u =>
    (∃ c, Complete programs w print σ status c ∧ u.FileAt (w.choice status).1 c) ∧
      w.Around (w.base σ) u
  | .clean status, u =>
    (∃ c, Complete programs w print σ status c ∧ u.FileAt w.final c) ∧
      u.isFile (w.choice status).1 = false ∧
      (w.base σ).get? ((w.base σ).locate w.final) ≠ some .directory
  | .dropStaging _, u => w.Around (w.base σ) u
  | .dropResult _, u => u.isFile w.staging = false ∧ w.Around (w.base σ) u
  | .done (.ok status), u =>
    (∃ c, Complete programs w print σ status c ∧ u.FileAt w.final c) ∧
      u.isFile w.staging = false ∧ u.isFile w.result = false ∧
      (w.base σ).get? ((w.base σ).locate w.final) ≠ some .directory
  | .done (.error (.file e)), u =>
    w.Around (w.base σ) u ∧
      ∀ q ∈ [w.staging, w.result], ∀ c, u.FileAt q c → w.Left (w.base σ) e q c
  | .done (.error (.panic _)), u => w.Around (w.base σ) u

/-! ### Small facts -/

theorem Around.refl (w : Staged) (s : Store) : w.Around s s := ⟨rfl, fun _ _ _ => rfl⟩

theorem Around.trans (h : w.Around s u) (h' : w.Around u v) : w.Around s v := by
  refine ⟨h.site.trans h'.site, fun l hs hr => (h'.frame l ?_ ?_).trans (h.frame l hs hr)⟩
  · rwa [← Store.locate_eq_of_site h.site]
  · rwa [← Store.locate_eq_of_site h.site]

theorem around_write (w : Staged) {q : Path} (hq : q = w.staging ∨ q = w.result) (s : Store)
    (c : ByteArray) : w.Around s (s.write q c).2 := by
  refine ⟨(Store.sameDirectories_write s q c).site, fun l hs hr => Store.get?_write_of_ne ?_⟩
  rcases hq with rfl | rfl
  exacts [hs, hr]

theorem around_removed (w : Staged) {q : Path} (hq : q = w.staging ∨ q = w.result) (s : Store) :
    w.Around s (s.removed q) := by
  refine ⟨(Store.sameDirectories_removed s q).site, fun l hs hr => Store.get?_removed ?_⟩
  rcases hq with rfl | rfl
  exacts [hs, hr]

theorem Separate.choice_final (h : w.Separate) (status : Status) (s : Store) :
    s.locate (w.choice status).1 ≠ s.locate w.final ∧
      s.locate (w.choice status).2 ≠ s.locate w.final := by
  rcases mem_choice w status with hc | hc <;> rw [hc]
  exacts [⟨h.result_final s, h.staging_final s⟩, ⟨h.staging_final s, h.result_final s⟩]

theorem Separate.choice (h : w.Separate) (status : Status) (s : Store) :
    s.locate (w.choice status).2 ≠ s.locate (w.choice status).1 := by
  rcases mem_choice w status with hc | hc <;> rw [hc]
  exacts [h.staging_result s, (h.staging_result s).symm]

/-- What is not a file at a path does not become one by removing another file. -/
theorem isFile_removed_of_ne {p q : Path} (hs : s.isFile p = false)
    (hpq : s.locate q ≠ s.locate p) : (s.removed q).isFile p = false := by
  have hdirs := Store.sameDirectories_removed s q
  rw [Bool.eq_false_iff, ne_eq, Store.isFile_iff] at hs ⊢
  rintro ⟨c, hc⟩
  refine hs ⟨c, hc.mono hdirs.symm.keepsDirectories ?_⟩
  rw [← Store.locate_eq_of_site hdirs.site]
  exact (Store.get?_removed hpq).symm

/-! ### The phases keep the invariant -/

theorem progress_parents (hu : u = σ.store) :
    Progress programs w print σ (w.advance programs .parents u).1
      (w.advance programs .parents u).2 := by
  subst hu
  simp only [advance]
  rcases hq : σ.store.parents w.final with ⟨e | ⟨⟩, t⟩
  · obtain rfl : t = w.base σ := by rw [base, hq]
    exact ⟨.refl w _, fun q _ c hc => .inl (hc.of_locate)⟩
  · exact (congrArg Prod.snd hq).symm

/-- What a failed write leaves. -/
theorem left_of_write (hsep : w.Separate) {fault : Store.Fault}
    (hw : s.write w.staging w.bytes = (some fault, u)) {q : Path}
    (hq : q ∈ [w.staging, w.result]) {c : ByteArray} (hc : u.FileAt q c) :
    w.Left s ⟨w.staging, fault⟩ q c := by
  have hsite : s.site = u.site := by
    have hdirs := Store.sameDirectories_write s w.staging w.bytes
    rw [hw] at hdirs
    exact hdirs.site
  have hget := hc.of_locate
  rw [← Store.locate_eq_of_site hsite] at hget
  obtain ⟨-, -, rfl⟩ | ⟨l, b, hl, hd, htaken, rfl⟩ := Store.write_cases hw
  · exact .inl hget
  · rw [Store.get?_insert _ _ _ _ (Store.not_isFixed hd), ← Store.locate_of_denotes hl] at hget
    rcases List.mem_pair.1 hq with rfl | rfl
    · obtain rfl : b = c := by simpa using hget
      exact .inr ⟨rfl, rfl, htaken⟩
    · rw [if_neg (hsep.staging_result s).symm] at hget
      exact .inl hget

theorem progress_stage (hsep : w.Separate) (hu : u = w.base σ) :
    Progress programs w print σ (w.advance programs .stage u).1
      (w.advance programs .stage u).2 := by
  subst hu
  have haround := around_write w (.inl rfl) (w.base σ) w.bytes
  simp only [advance]
  rcases hw : (w.base σ).write w.staging w.bytes with ⟨_ | fault, t⟩ <;> rw [hw] at haround
  · exact ⟨Store.fileAt_of_write hw, haround⟩
  · exact ⟨haround, fun q hq c hc => left_of_write hsep hw hq hc⟩

theorem progress_openResult (hsep : w.Separate)
    (hu : Progress programs w print σ .openResult u) :
    Progress programs w print σ (w.advance programs .openResult u).1
      (w.advance programs .openResult u).2 := by
  obtain ⟨hstaging, haround⟩ := hu
  have hskip (why : Skip) : Progress programs w print σ (.promote (.skipped why)) u :=
    ⟨⟨_, rfl, hstaging⟩, haround⟩
  simp only [advance]
  rcases hopened : opened w.formatter w.result u with ⟨_ | why, t⟩
  · have hw := opened_eq_none hopened
    have hdirs := Store.sameDirectories_write u w.result .empty
    have hnext := around_write w (.inr rfl) u .empty
    rw [hw] at hdirs hnext
    refine ⟨hstaging.mono hdirs.keepsDirectories ?_, Store.fileAt_of_write hw,
      haround.trans hnext⟩
    rw [Store.get?_write hw, if_neg (hsep.staging_result u).symm]
  · obtain rfl := opened_eq_some hopened
    exact hskip why

theorem progress_fillResult (hsep : w.Separate)
    (hprint : OnlyPrints programs (stagedInvocation w.formatter w.staging w.result) print)
    (hv : Visits programs w σ .fillResult τ)
    (hu : Progress programs w print σ .fillResult τ.store) :
    Progress programs w print σ (w.advance programs .fillResult τ.store).1
      (w.advance programs .fillResult τ.store).2 := by
  obtain ⟨hstaging, hresult, haround⟩ := hu
  have hget := hprint.get?_filled hresult
  have hdirs := hprint.sameDirectories_filled hresult
  simp only [advance]
  rcases hf : filled programs w.formatter w.staging w.result τ.store with ⟨r, v⟩
  rw [hf] at hget hdirs
  have hnext : w.Around (w.base σ) v := haround.trans
    ⟨hdirs.site, fun l _ hr => by rw [hget, if_neg hr]⟩
  rcases r with why | _ | why
  · exact hnext
  · obtain ⟨k, hk, -⟩ := hresult
    refine ⟨⟨print τ.store, ⟨τ, hv, rfl⟩, k, hk.mono hdirs.keepsDirectories, ?_⟩, hnext⟩
    rw [hget, if_pos (Store.locate_of_denotes hk)]
  · refine ⟨⟨w.bytes, rfl, hstaging.mono hdirs.keepsDirectories ?_⟩, hnext⟩
    rw [hget, if_neg (hsep.staging_result τ.store).symm]

/-- Where only the paths for staging have changed, the final path has not. -/
theorem Separate.get?_final_of_around (hsep : w.Separate) (hu : w.Around s u) :
    u.get? (s.locate w.final) = s.get? (s.locate w.final) :=
  hu.frame _ (hsep.staging_final s) (hsep.result_final s)

theorem progress_promote (hsep : w.Separate)
    (hu : Progress programs w print σ (.promote status) u) :
    Progress programs w print σ (w.advance programs (.promote status) u).1
      (w.advance programs (.promote status) u).2 := by
  obtain ⟨⟨c, hc, hfile⟩, haround⟩ := hu
  simp only [advance]
  cases hr : u.rename (w.choice status).1 w.final with
  | error fault => exact haround
  | ok t =>
    refine ⟨⟨c, hc, Store.fileAt_of_rename hr hfile⟩, ?_, ?_⟩
    · exact Store.isFile_of_rename hr (hsep.choice_final status u).1
    · have hnot := Store.get?_ne_directory_of_rename hr
      rwa [← Store.locate_eq_of_site haround.site, hsep.get?_final_of_around haround] at hnot

theorem progress_clean (hsep : w.Separate)
    (hu : Progress programs w print σ (.clean status) u) :
    Progress programs w print σ (.done (.ok status)) (u.removed (w.choice status).2) := by
  obtain ⟨⟨c, hc, hfile⟩, hmoved, hdir⟩ := hu
  have hleft := Store.isFile_removed u (w.choice status).2
  have hmoved' := isFile_removed_of_ne hmoved (hsep.choice status u)
  refine ⟨⟨c, hc, ?_⟩, ?_⟩
  · exact hfile.mono (Store.sameDirectories_removed u _).keepsDirectories
      (Store.get?_removed (hsep.choice_final status u).2)
  · rcases mem_choice w status with h | h <;> rw [h] at hleft hmoved' ⊢
    exacts [⟨hleft, hmoved', hdir⟩, ⟨hmoved', hleft, hdir⟩]

/-- Each phase keeps the invariant. -/
theorem progress_advance (hsep : w.Separate)
    (hprint : OnlyPrints programs (stagedInvocation w.formatter w.staging w.result) print)
    (hv : Visits programs w σ p τ) (hu : Progress programs w print σ p τ.store) :
    Progress programs w print σ (w.advance programs p τ.store).1
      (w.advance programs p τ.store).2 := by
  cases p with
  | parents => exact progress_parents hu
  | stage => exact progress_stage hsep hu
  | openResult => exact progress_openResult hsep hu
  | fillResult => exact progress_fillResult hsep hprint hv hu
  | promote status => exact progress_promote hsep hu
  | clean status => exact progress_clean hsep hu
  | dropStaging e => exact ⟨Store.isFile_removed _ _, hu.trans (around_removed w (.inl rfl) _)⟩
  | dropResult e =>
    obtain ⟨hstaging, haround⟩ := hu
    have hstaging' := isFile_removed_of_ne hstaging (hsep.staging_result τ.store).symm
    have hresult := Store.isFile_removed τ.store w.result
    refine ⟨haround.trans (around_removed w (.inr rfl) _), fun q hq c hc => ?_⟩
    -- nothing is left at either path
    have hfile := Store.isFile_iff.2 ⟨c, hc⟩
    rcases List.mem_pair.1 hq with rfl | rfl
    · exact absurd hfile (by simp [Staged.advance, hstaging'])
    · exact absurd hfile (by simp [Staged.advance, hresult])
  | done outcome => exact hu

/-- The invariant holds in every state between two phases. -/
theorem Visits.progress (hsep : w.Separate)
    (hprint : OnlyPrints programs (stagedInvocation w.formatter w.staging w.result) print)
    (hv : Visits programs w σ p τ) : Progress programs w print σ p τ.store :=
  hv.invariant (Progress programs w print σ) rfl fun _ _ hv hu =>
    progress_advance hsep hprint hv hu

/-! ### What a staged output promises -/

/-- What a staged output promises about the final path and the two other paths. -/
structure Atomic (programs : Programs) (w : Staged) (print : Store → ByteArray) (σ : Session)
    (outcome : Except Failure Status) (τ : Session) : Prop where
  /-- The final path always shows what stood there, or the complete output when the work ends well.
  Only a path with a `..` can show a directory where nothing stood, and then the work fails. -/
  shown : ∀ t, Shows programs w σ t →
    let l := σ.store.locate w.final
    t.get? l = σ.store.get? l ∨
    (∃ status, outcome = .ok status) ∧ t.get? l = τ.store.get? l ∨
    (.parent ∈ w.final.components ∧ ∃ e, outcome = .error e) ∧
      σ.store.get? l = none ∧ t.get? l = some .directory
  /-- A formatted output is what the formatter printed. -/
  formatted : outcome = .ok .formatted → ∃ υ, Visits programs w σ .fillResult υ ∧
    τ.store.read w.final = .ok (print υ.store)
  /-- An output that was not formatted is the content. -/
  skipped : ∀ why, outcome = .ok (.skipped why) → τ.store.read w.final = .ok w.bytes
  /-- Nothing is left at the other paths when the work ends well. -/
  cleaned : ∀ status, outcome = .ok status →
    τ.store.isFile w.staging = false ∧ τ.store.isFile w.result = false
  /-- A file that is at one of them when the work has failed was there before, or is what was taken
  of the staging file. -/
  leftover : ∀ e, outcome = .error (.file e) → ∀ q ∈ [w.staging, w.result], ∀ c,
    τ.store.FileAt q c → w.Left σ.store e q c

/-- A directory at the final path comes from making the directories, and makes the work fail. -/
theorem error_of_base (hdone : Progress programs w print σ (.done outcome) τ.store)
    (hd : (w.base σ).get? ((w.base σ).locate w.final) = some .directory) :
    ∃ e, outcome = .error e := by
  cases outcome with
  | error e => exact ⟨e, rfl⟩
  | ok status =>
    obtain ⟨-, -, -, hnot⟩ := hdone
    exact absurd hd hnot

/-- Directories are made at the final path only when there is a `..` in it. -/
theorem parent_mem_of_madeAt {n : String} {q : Path}
    (hfinal : w.final.components = q.components ++ [.name n])
    (hmade : Store.MadeAt (Store.needed q) s t)
    (hne : t.get? (s.locate w.final) ≠ s.get? (s.locate w.final)) :
    .parent ∈ w.final.components := by
  obtain hsame | ⟨-, -, r, hr, hrl⟩ := hmade.made (s.locate w.final)
  · exact absurd hsame hne
  · by_contra hup
    exact Store.locate_ne_of_mem_needed hfinal hup hr s hrl

theorem site_base (w : Staged) (σ : Session) : σ.store.site = (w.base σ).site :=
  (Store.addsDirectories_parents σ.store w.final).site

theorem Visits.site_eq (hv : Visits programs w σ p τ) : σ.store.site = τ.store.site :=
  hv.invariant (fun _ u => σ.store.site = u.site) rfl fun p τ _ h =>
    h.trans (site_advance programs w p τ.store).symm

/-- Between two phases the final path shows what was there before or after the directories were
made, or what is there in the end. -/
theorem Visits.get?_final (hsep : w.Separate)
    (hprint : OnlyPrints programs (stagedInvocation w.formatter w.staging w.result) print)
    (hends : Ends programs w .parents σ.store outcome t) (hv : Visits programs w σ p τ) :
    let l := σ.store.locate w.final
    τ.store.get? l = σ.store.get? l ∨ τ.store.get? l = (w.base σ).get? l ∨
      (∃ status, outcome = .ok status) ∧ τ.store.get? l = t.get? l := by
  intro l
  have hu := hv.progress hsep hprint
  have hends := hv.ends hends
  have hkept (h : w.Around (w.base σ) τ.store) : τ.store.get? l = (w.base σ).get? l := by
    have := hsep.get?_final_of_around h
    rwa [← Store.locate_eq_of_site (site_base w σ)] at this
  cases p with
  | parents => exact .inl (by rw [hu])
  | stage => exact .inr (.inl (by rw [hu]))
  | openResult => exact .inr (.inl (hkept hu.2))
  | fillResult => exact .inr (.inl (hkept hu.2.2))
  | promote status => exact .inr (.inl (hkept hu.2))
  | clean status =>
    -- only the leftover is still to be removed
    obtain ⟨rfl, rfl⟩ := hends.advance.of_done
    refine .inr (.inr ⟨⟨status, rfl⟩, (Store.get?_removed ?_).symm⟩)
    rw [show l = τ.store.locate w.final from Store.locate_eq_of_site hv.site_eq _]
    exact (hsep.choice_final status τ.store).2
  | dropStaging e => exact .inr (.inl (hkept hu))
  | dropResult e => exact .inr (.inl (hkept hu.2))
  | done o =>
    obtain ⟨rfl, rfl⟩ := hends.of_done
    rcases outcome with (e | why) | status
    · exact .inr (.inl (hkept hu.1))
    · exact .inr (.inl (hkept hu))
    · exact .inr (.inr ⟨⟨status, rfl⟩, rfl⟩)

/-- Work whose paths are separate keeps the promise, when the formatter only prints. -/
theorem atomic_of_separate {n : String} (hname : w.final.fileName? = some n) (hsep : w.Separate)
    (hprint : OnlyPrints programs (stagedInvocation w.formatter w.staging w.result) print)
    (hrun : (writeStaged programs w).run.run σ = (outcome, τ)) :
    Atomic programs w print σ outcome τ := by
  have hdone := (visits_of_run hrun).progress hsep hprint
  have hbase := Store.locate_eq_of_site (site_base w σ)
  obtain ⟨q, hq, hfinal⟩ := Path.parent?_of_fileName? hname
  have hmade : Store.MadeAt (Store.needed q) σ.store (w.base σ) := Store.madeAt_parents hq _
  -- a directory that is on the way to the final path or at it makes the work fail
  have hdir (t) (hst : Store.MadeAt (Store.needed q) σ.store t)
      (hd : t.KeepsDirectories (w.base σ)) :
      t.get? (σ.store.locate w.final) = σ.store.get? (σ.store.locate w.final) ∨
        (.parent ∈ w.final.components ∧ ∃ e, outcome = .error e) ∧
          σ.store.get? (σ.store.locate w.final) = none ∧
          t.get? (σ.store.locate w.final) = some .directory := by
    by_cases hsame : t.get? (σ.store.locate w.final) = σ.store.get? (σ.store.locate w.final)
    · exact .inl hsame
    · obtain ⟨hn, ht⟩ := (hst.addsDirectories.kept _).resolve_left hsame
      have hup := parent_mem_of_madeAt hfinal hst hsame
      exact .inr ⟨⟨hup, error_of_base hdone (hbase w.final ▸ hd.keeps _ ht)⟩, hn, ht⟩
  refine ⟨?_, ?_, ?_, ?_, ?_⟩
  · intro t ht
    cases ht with
    | between hv =>
      obtain hsame | hsame | hsame := hv.get?_final hsep hprint (ends_of_run hrun)
      · exact .inl hsame
      · simp only [hsame]
        exact (hdir _ hmade (.refl _)).imp_right .inr
      · exact .inr (.inl hsame)
    | @making r t hr hne hm =>
      obtain rfl : q = r := Option.some.inj (hq.symm.trans hr)
      obtain ⟨hst, htb⟩ := hm.madeAt
      rw [← Store.store_parents hq hne] at htb
      exact (hdir _ hst htb.addsDirectories.keepsDirectories).imp_right .inr
  · rintro rfl
    obtain ⟨⟨c, ⟨υ, hv, rfl⟩, hfile⟩, -⟩ := hdone
    exact ⟨υ, hv, Store.read_eq_ok_iff.2 hfile⟩
  · rintro why rfl
    obtain ⟨⟨c, rfl, hfile⟩, -⟩ := hdone
    exact Store.read_eq_ok_iff.2 hfile
  · rintro status rfl
    exact ⟨hdone.2.1, hdone.2.2.1⟩
  · rintro e rfl r hr c hc
    refine (hdone.2 r hr c hc).imp_left fun hthere => ?_
    rw [← hbase] at hthere
    exact (hmade.addsDirectories.kept _).file_iff.1 hthere

/-- A staged output keeps the promise, when the text in front of its name can stand there and the
formatter only prints. -/
theorem atomic_ofFinal {final : Path} {content : List Char} {front n : String}
    {f : Config.Formatter} (hname : final.fileName? = some n)
    (hfront : Config.isNamePrefix front = true) :
    let w := ofFinal final content front f
    OnlyPrints programs (stagedInvocation f w.staging w.result) print →
      (writeStaged programs w).run.run σ = (outcome, τ) → Atomic programs w print σ outcome τ :=
  fun hprint hrun =>
    atomic_of_separate (n := n) hname (separate_ofFinal hname hfront) hprint hrun

/-- A store with an earlier output and what an earlier run left beside it. -/
def staleStore : Store :=
  { entries := [(["home", "out"], .directory), (["home", "out", "t.txt"], .file "old".toUTF8),
      (["home", "out", ".t.txt"], .file "half".toUTF8)],
    site := { cwd := ["home"] } }

/-- The output is replaced by what the formatter prints, and nothing is left beside it. -/
theorem atomic_ofFinal_replacing :
    let programs := printer fun _ => "new\n".toUTF8
    let w := ofFinal ⟨"out/t.txt"⟩ ['n', 'e', 'w'] "." {}
    ∃ τ, (writeStaged programs w).run.run ⟨staleStore, []⟩ = (.ok .formatted, τ) ∧
      τ.store.entries.map (·.1) = [["home", "out", "t.txt"], ["home", "out"]] ∧
      Atomic programs w (fun _ => "new\n".toUTF8) ⟨staleStore, []⟩ (.ok .formatted) τ := by
  intro programs w
  have hformatted : ((writeStaged programs w).run.run ⟨staleStore, []⟩).1.toOption =
      some .formatted := by decide +kernel
  have hentries : ((writeStaged programs w).run.run ⟨staleStore, []⟩).2.store.entries.map (·.1) =
      [["home", "out", "t.txt"], ["home", "out"]] := by decide +kernel
  rcases hrun : (writeStaged programs w).run.run ⟨staleStore, []⟩ with ⟨outcome, τ⟩
  rw [hrun] at hformatted hentries
  obtain rfl : outcome = .ok .formatted := by
    cases outcome with
    | error e => cases hformatted
    | ok status => simpa [Except.toOption] using hformatted
  exact ⟨τ, rfl, hentries, atomic_ofFinal (n := "t.txt") (by decide +kernel) (by decide +kernel)
    (onlyPrints_printer _ _) hrun⟩

/-- A final path that leads back over its own last name: the directory that it needs comes to stand
at the path itself, so the failure does not leave the path as it was. -/
theorem not_error_keeps_final :
    ¬ ∀ (programs : Programs) (f : Config.Formatter) (final : Path) (content : List Char)
      (front n : String) (print : Store → ByteArray) (σ τ : Session) (e : FileError),
      let w := ofFinal final content front f
      final.fileName? = some n → Config.isNamePrefix front = true →
      OnlyPrints programs (stagedInvocation f w.staging w.result) print →
      (writeStaged programs w).run.run σ = (.error (.file e), τ) →
      τ.store.get? (σ.store.locate final) = σ.store.get? (σ.store.locate final) := by
  intro h
  let w := ofFinal ⟨"a/../a"⟩ ['x'] "." { enabled := false }
  obtain ⟨τ, hrun, hmade⟩ : ∃ τ, (writeStaged noPrograms w).run.run ⟨{}, []⟩ =
      (.error (.file ⟨⟨"a/../a"⟩, .isDirectory⟩), τ) ∧ τ.store.get? ["a"] = some .directory :=
    ⟨_, Prod.ext (by decide +kernel) rfl, by decide +kernel⟩
  have hkept := h noPrograms _ ⟨"a/../a"⟩ _ _ "a" _ ⟨{}, []⟩ τ _ (by decide +kernel)
    (by decide +kernel) (onlyPrints_noPrograms _) hrun
  exact absurd (hmade.symm.trans hkept) (by decide +kernel)

end Imprint.Output.Staged
