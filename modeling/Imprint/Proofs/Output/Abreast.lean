import Imprint.Proofs.Output.Kinds
import Imprint.Proofs.Output.Staged

/-!
# Two staged outputs abreast

Without a formatter the work on a staged output looks at the contents of no file but the one it has
written itself. So in two stores that differ in contents only, whatever the files are, the same
output takes the same phases and fails in the same way or not at all. Each entry is then the same in
both stores, or it is what it was before in both.

## Main definitions

* `Imprint.Store.SameChanges`: two stores that were changed alike.
* `Imprint.Output.Staged.Abreast`: what holds between the phases of the two outputs.

## Main results

* `Imprint.Store.SameKinds.rename`, `Imprint.Store.SameKinds.remove`: moving and removing go alike.
* `Imprint.Store.Related.parents`, `Imprint.Store.Related.write`, `Imprint.Store.Related.rename`,
  `Imprint.Store.Related.removed`: each operation changes two stores alike.
* `Imprint.Output.Staged.Ends.related`: a relation that all phases keep holds at the ends.
* `Imprint.Output.Staged.Ends.abreast`: the two outputs end alike.
-/

namespace Imprint

namespace Store

variable {s s' t t' u u' : Store} {p q : Path} {c : ByteArray} {l : Location}

/-! ### Looking, moving and removing -/

theorem Alike.eq_or {x x' : Except Fault Store} (h : Alike x x') :
    (∃ u u', x = .ok u ∧ x' = .ok u' ∧ SameKinds u u') ∨
      ∃ fault, x = .error fault ∧ x' = .error fault := by
  cases h with
  | ok h => exact .inl ⟨_, _, rfl, rfl, h⟩
  | error fault => exact .inr ⟨fault, rfl, rfl⟩

theorem Alike.sameKinds (h : Alike (.ok u) (.ok u')) : SameKinds u u' := by
  cases h
  assumption

theorem SameKinds.denotes_iff (h : SameKinds s s') : s.Denotes p l ↔ s'.Denotes p l := by
  simp only [Denotes, h.aim]

theorem SameKinds.isFile (h : SameKinds s s') : s.isFile p = s'.isFile p := by
  rw [Bool.eq_iff_iff, isFile_iff, isFile_iff]
  simp only [FileAt, h.denotes_iff, exists_comm (α := ByteArray)]
  refine exists_congr fun l => ?_
  rcases h.cases l with ⟨hs, ht⟩ | ⟨hs, ht⟩ | ⟨c, c', hs, ht⟩ <;> simp [hs, ht]

theorem SameKinds.erase (h : SameKinds s s') (hl : s.get? l ≠ some .directory) :
    SameKinds (s.erase l) (s'.erase l) := by
  refine ⟨h.site, fun k => ?_⟩
  rw [get?_erase _ _ _ (not_isFixed hl), get?_erase _ _ _ (not_isFixed (h.ne_directory hl))]
  split
  · rfl
  · exact h.kinds k

theorem SameKinds.remove (h : SameKinds s s') : Alike (s.remove p) (s'.remove p) := by
  simp only [Store.remove, h.aim]
  cases Store.aim s' p with
  | error e => exact .error e
  | ok a =>
    obtain ⟨d, last, slash⟩ := a
    cases last with
    | name n =>
      simp only [bind, Except.bind]
      rcases h.cases (d ++ [n]) with ⟨hs, ht⟩ | ⟨hs, ht⟩ | ⟨c, c', hs, ht⟩ <;> rw [hs, ht]
      · exact .error _
      · exact .error _
      · cases slash with
        | true => exact .error _
        | false => exact .ok (h.erase (by simp [hs]))
    | _ => exact .error _

theorem SameKinds.rename (h : SameKinds s s') : Alike (s.rename p q) (s'.rename p q) := by
  simp only [Store.rename, h.aim]
  cases Store.aim s' p with
  | error e => exact .error e
  | ok a =>
    cases Store.aim s' q with
    | error e => exact .error e
    | ok b =>
      obtain ⟨d, last, slash⟩ := a
      obtain ⟨d', last', slash'⟩ := b
      simp only [bind, Except.bind]
      cases last with
      | name m =>
        cases last' with
        | name n =>
          rcases h.cases (d ++ [m]) with ⟨hs, ht⟩ | ⟨hs, ht⟩ | ⟨c, c', hs, ht⟩ <;>
            simp only [hs, ht]
          · exact .error _
          · exact .error _
          · split
            · exact .error _
            · have herase := h.erase (l := d ++ [m]) (by simp [hs])
              have hmoved (hd : s.get? (d' ++ [n]) ≠ some .directory) :
                  SameKinds ((s.erase (d ++ [m])).insert (d' ++ [n]) (.file c))
                    ((s'.erase (d ++ [m])).insert (d' ++ [n]) (.file c')) := by
                have hsame : s.SameDirectories (s.erase (d ++ [m])) :=
                  sameDirectories_erase (by simp [hs])
                exact herase.insert (fun he => hd ((hsame.same _).2 he)) rfl
              rcases h.cases (d' ++ [n]) with ⟨hs', ht'⟩ | ⟨hs', ht'⟩ | ⟨b, b', hs', ht'⟩ <;>
                simp only [hs', ht']
              · exact .ok (hmoved (by simp [hs']))
              · exact .error _
              · exact .ok (hmoved (by simp [hs']))
        | _ => exact .error _
      | _ => cases last' <;> exact .error _

/-! ### Changing two stores alike -/

/-- The same entry stands at a path in both stores. -/
def EqualAt (p : Path) (s s' : Store) : Prop :=
  ∀ k, s.Denotes p k → s.get? k = s'.get? k

/-- Two stores that were changed alike: each entry is the same in both by now, or it is in both what
it was before. -/
def SameChanges (s s' t t' : Store) : Prop :=
  ∀ k, t.get? k = t'.get? k ∨ t.get? k = s.get? k ∧ t'.get? k = s'.get? k

/-- Two stores that were changed alike and still differ in contents only. -/
structure Related (s s' t t' : Store) : Prop where
  kinds : SameKinds t t'
  changes : SameChanges s s' t t'

theorem SameKinds.related (h : SameKinds s s') : Related s s' s s' :=
  ⟨h, fun _ => .inr ⟨rfl, rfl⟩⟩

/-- A path has the same size where the same entry stands at it. -/
theorem SameKinds.size_eq (h : SameKinds s s') (hp : EqualAt p s s') : s'.size p = s.size p := by
  simp only [Store.size, find, h.aim]
  cases ha : Store.aim s' p with
  | error e => rfl
  | ok a =>
    obtain ⟨m, last, slash⟩ := a
    cases last with
    | name n =>
      simp only [bind, Except.bind]
      cases slash with
      | false => simp only [hp (m ++ [n]) ⟨m, n, h.aim ▸ ha, rfl⟩]
      | true =>
        rcases h.cases (m ++ [n]) with ⟨hs, ht⟩ | ⟨hs, ht⟩ | ⟨c, c', hs, ht⟩ <;>
          simp only [hs, ht]
    | _ => rfl

/-- Directories are made in both stores or in neither. -/
theorem Related.parents (h : Related s s' t t') (p : Path) :
    (t'.parents p).1 = (t.parents p).1 ∧ Related s s' (t.parents p).2 (t'.parents p).2 := by
  obtain ⟨hresult, hkinds⟩ := h.kinds.parents p
  refine ⟨hresult.symm, hkinds, fun k => ?_⟩
  rcases (addsDirectories_parents t p).kept k with hk | ⟨-, hk⟩
  · rcases (addsDirectories_parents t' p).kept k with hk' | ⟨-, hk'⟩
    · rw [hk, hk']
      exact h.changes k
    · exact .inl (((hkinds.sameDirectories.same k).2 hk').trans hk'.symm)
  · exact .inl (hk.trans ((hkinds.sameDirectories.same k).1 hk).symm)

theorem Related.insert (h : Related s s' t t') (hl : t.get? l ≠ some .directory) (e : Entry) :
    Related s s' (t.insert l e) (t'.insert l e) := by
  refine ⟨h.kinds.insert hl rfl, fun k => ?_⟩
  rw [get?_insert _ _ _ _ (not_isFixed hl),
    get?_insert _ _ _ _ (not_isFixed (h.kinds.ne_directory hl))]
  split
  · exact .inl rfl
  · exact h.changes k

/-- What is written is the same in both stores, also as far as a write that is cut short. -/
theorem Related.write (h : Related s s' t t') (p : Path) (c : ByteArray) :
    (t'.write p c).1 = (t.write p c).1 ∧ Related s s' (t.write p c).2 (t'.write p c).2 ∧
      ((t.write p c).1 = none → EqualAt p (t.write p c).2 (t'.write p c).2) := by
  have hfault := (h.kinds.write p c).1
  refine ⟨hfault.symm, ?_, fun hnone k hk => ?_⟩
  · simp only [Store.write, ← h.kinds.writeLocation]
    cases hl : t.writeLocation p with
    | error e => exact h
    | ok l =>
      have hd := (writeLocation_eq_ok_iff.1 hl).2
      simp only [fill, ← h.kinds.site]
      rcases t.site.refusal? l c with _ | ⟨e, _ | n⟩
      · exact h.insert hd _
      · exact h
      · exact h.insert hd _
  · have hu : t.write p c = (none, (t.write p c).2) := by rw [← hnone]
    have hu' : t'.write p c = (none, (t'.write p c).2) := by rw [← hnone, hfault]
    have hl : t.locate p = k := by
      rw [locate_eq_of_site (sameDirectories_write t p c).site]
      exact locate_of_denotes hk
    rw [get?_write hu, get?_write hu', ← locate_eq_of_site h.kinds.site, if_pos hl, if_pos hl]

/-- A file that is the same in both stores is the same after it has been moved. -/
theorem Related.rename (h : Related s s' t t') (hp : EqualAt p t t')
    (hu : t.rename p q = .ok u) (hu' : t'.rename p q = .ok u') :
    Related s s' u u' ∧ EqualAt q u u' := by
  have halike := h.kinds.rename (p := p) (q := q)
  rw [hu, hu'] at halike
  obtain ⟨a, c, b, ha, hc, hb, hd, rfl⟩ := rename_eq_ok_iff.1 hu
  obtain ⟨a', c', b', ha', hc', hb', hd', rfl⟩ := rename_eq_ok_iff.1 hu'
  obtain rfl := ha.unique ha' h.kinds.site
  obtain rfl := hb.unique hb' h.kinds.site
  obtain rfl : c = c' := by simpa [hc, hc'] using hp a ha
  have hget (k : Location) : ((t.erase a).insert b (.file c)).get? k =
      if k = b then some (.file c) else if k = a then none else t.get? k := by
    rw [get?_insert _ _ _ _ (not_isFixed_erase (not_isFixed hd)),
      get?_erase _ _ _ (not_isFixed (by simp [hc]))]
  have hget' (k : Location) : ((t'.erase a).insert b (.file c)).get? k =
      if k = b then some (.file c) else if k = a then none else t'.get? k := by
    rw [get?_insert _ _ _ _ (not_isFixed_erase (not_isFixed hd')),
      get?_erase _ _ _ (not_isFixed (by simp [hc']))]
  refine ⟨⟨halike.sameKinds, fun k => ?_⟩, fun k hk => ?_⟩
  · rw [hget, hget']
    split
    · exact .inl rfl
    · split
      · exact .inl rfl
      · exact h.changes k
  · have hkb : k = b := hk.unique hb rfl
    rw [hget, hget', if_pos hkb, if_pos hkb]

/-- A file is removed from both stores or from neither. -/
theorem Related.removed (h : Related s s' t t') (p : Path) :
    Related s s' (t.removed p) (t'.removed p) ∧
      ∀ q, EqualAt q t t' → EqualAt q (t.removed p) (t'.removed p) := by
  rcases (h.kinds.remove (p := p)).eq_or with ⟨u, u', hu, hu', hkinds⟩ | ⟨fault, hu, hu'⟩
  · have hdirs := sameDirectories_removed t p
    rw [removed_of_ok hu] at hdirs
    rw [removed_of_ok hu, removed_of_ok hu']
    obtain ⟨a, c, ha, hc, rfl⟩ := remove_eq_ok_iff.1 hu
    obtain ⟨a', c', ha', hc', rfl⟩ := remove_eq_ok_iff.1 hu'
    obtain rfl := ha.unique ha' h.kinds.site
    have hget (k : Location) : (t.erase a).get? k = if k = a then none else t.get? k :=
      get?_erase _ _ _ (not_isFixed (by simp [hc]))
    have hget' (k : Location) : (t'.erase a).get? k = if k = a then none else t'.get? k :=
      get?_erase _ _ _ (not_isFixed (by simp [hc']))
    refine ⟨⟨hkinds, fun k => ?_⟩, fun q hq k hk => ?_⟩
    · rw [hget, hget']
      split
      · exact .inl rfl
      · exact h.changes k
    · rw [hget, hget']
      split
      · rfl
      · exact hq k (hk.mono hdirs.symm.keepsDirectories)
  · rw [removed_of_error hu, removed_of_error hu']
    exact ⟨h, fun q hq => hq⟩

end Store

/-! ### The phases of two outputs -/

namespace Output.Staged

open Formatting Store

variable {programs : Programs} {w : Staged} {p : Phase} {s s' t t' : Store}
  {outcome outcome' : Except Failure Status}

/-- When each phase goes on alike from two stores and keeps a relation between them, the work ends
alike and the relation holds at the ends. -/
theorem Ends.related (R : Phase → Store → Store → Prop)
    (hstep : ∀ p s s', R p s s' →
      (w.advance programs p s').1 = (w.advance programs p s).1 ∧
        R (w.advance programs p s).1 (w.advance programs p s).2 (w.advance programs p s').2)
    (hstart : R p s s') (h : Ends programs w p s outcome t)
    (h' : Ends programs w p s' outcome' t') : outcome' = outcome ∧ R (.done outcome) t t' := by
  induction h generalizing s' with
  | done o s =>
    obtain ⟨rfl, rfl⟩ := h'.of_done
    exact ⟨rfl, hstart⟩
  | step _ ih =>
    obtain ⟨hphase, hnext⟩ := hstep _ _ _ hstart
    have hends := h'.advance
    rw [hphase] at hends
    exact ih hnext hends

/-- What holds between the phases of two outputs without a formatter: the stores were changed alike,
the staging file is the same once it is written, and so is the final file once it is moved. -/
def Abreast (w : Staged) (s s' : Store) : Phase → Store → Store → Prop
  | .fillResult, _, _ | .promote .formatted, _, _ => False
  | .openResult, t, t' | .promote (.skipped _), t, t' =>
    Related s s' t t' ∧ EqualAt w.staging t t'
  | .clean _, t, t' | .done (.ok _), t, t' => Related s s' t t' ∧ EqualAt w.final t t'
  | _, t, t' => Related s s' t t'

/-- Each phase takes both outputs the same way. -/
theorem Abreast.advance (hf : w.formatter.enabled = false) (h : Abreast w s s' p t t') :
    (w.advance programs p t').1 = (w.advance programs p t).1 ∧
      Abreast w s s' (w.advance programs p t).1 (w.advance programs p t).2
        (w.advance programs p t').2 := by
  cases p with
  | parents =>
    obtain ⟨hresult, hrelated⟩ := Related.parents h w.final
    simp only [Staged.advance]
    rcases hu : t.parents w.final with ⟨e | ⟨⟩, u⟩ <;>
      rcases hu' : t'.parents w.final with ⟨e' | ⟨⟩, u'⟩ <;>
      rw [hu, hu'] at hresult hrelated <;> cases hresult <;> exact ⟨rfl, hrelated⟩
  | stage =>
    simp only [Staged.advance]
    obtain ⟨hfault, hrelated, hequal⟩ := Related.write h w.staging w.bytes
    rcases hu : t.write w.staging w.bytes with ⟨fault, u⟩
    rcases hu' : t'.write w.staging w.bytes with ⟨fault', u'⟩
    rw [hu, hu'] at hfault hrelated hequal
    obtain rfl : fault' = fault := hfault
    cases fault' with
    | none => exact ⟨rfl, hrelated, hequal rfl⟩
    | some fault => exact ⟨rfl, hrelated⟩
  | openResult =>
    simp only [Staged.advance, opened, hf]
    exact ⟨rfl, h⟩
  | fillResult => cases h
  | promote status =>
    cases status with
    | formatted => cases h
    | skipped why =>
      obtain ⟨hrelated, hstaging⟩ := h
      have hchoice : w.choice (.skipped why) = (w.staging, w.result) := rfl
      simp only [Staged.advance, hchoice]
      rcases (hrelated.kinds.rename (p := w.staging) (q := w.final)).eq_or with
        ⟨u, u', hu, hu', -⟩ | ⟨fault, hu, hu'⟩
      · rw [hu, hu']
        exact ⟨rfl, hrelated.rename hstaging hu hu'⟩
      · rw [hu, hu']
        exact ⟨rfl, hrelated⟩
  | clean status =>
    obtain ⟨hrelated, hfinal⟩ := h
    obtain ⟨hrelated', hkeeps⟩ := hrelated.removed (w.choice status).2
    exact ⟨rfl, hrelated', hkeeps _ hfinal⟩
  | dropStaging e => exact ⟨rfl, (Related.removed h w.staging).1⟩
  | dropResult e => exact ⟨rfl, (Related.removed h w.result).1⟩
  | done outcome => exact ⟨rfl, h⟩

/-- Without a formatter an output ends alike in two stores that differ in contents only: with the
same outcome, the same changes, and the same size of the final file. -/
theorem Ends.abreast (hf : w.formatter.enabled = false) (hkinds : SameKinds s s')
    (h : Ends programs w .parents s outcome t) (h' : Ends programs w .parents s' outcome' t') :
    outcome' = outcome ∧ SameChanges s s' t t' ∧
      ∀ status, outcome = .ok status → t'.size w.final = t.size w.final := by
  have hstart : Abreast w s s' .parents s s' := hkinds.related
  obtain ⟨rfl, hend⟩ := h.related (Abreast w s s') (fun p u u' hu => hu.advance hf) hstart h'
  cases outcome' with
  | error e =>
    have hrelated : Related s s' t t' := hend
    exact ⟨rfl, hrelated.changes, fun _ hok => nomatch hok⟩
  | ok status =>
    obtain ⟨hrelated, hfinal⟩ := hend
    exact ⟨rfl, hrelated.changes, fun _ _ => hrelated.kinds.size_eq hfinal⟩

end Output.Staged

end Imprint
