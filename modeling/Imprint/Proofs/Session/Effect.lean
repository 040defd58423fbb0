import Imprint.Session

/-!
# What work does to the store

The events that a session has reported never decide how work goes on: they are only ever added to.
So work can be described by what it gives and which store it leaves, from whatever log it begins
with. This description is unique and follows the steps of the work.

## Main definitions

* `Imprint.Session.Gives`: what work gives and leaves on a store.

## Main results

* `Imprint.Session.Gives.eq_of_run`: the description says what a run gives.
* `Imprint.Session.Gives.bind`, `Imprint.Session.Gives.bind_ok`, `Imprint.Session.Gives.bind_error`:
  one step after another.
-/

namespace Imprint.Session

variable {α β ε δ : Type} {s t u : Store}

/-- The work, begun on the store `s` with whatever log, gives `a` and leaves the store `t`. -/
def Gives (w : Work α) (s : Store) (a : α) (t : Store) : Prop :=
  ∀ log, ∃ log', w.run ⟨s, log⟩ = (a, ⟨t, log'⟩)

theorem Gives.run_eq {w : Work α} {σ : Session} {a : α} (h : Gives w σ.store a t) :
    (w.run σ).1 = a ∧ (w.run σ).2.store = t := by
  obtain ⟨log, hrun⟩ := h σ.log
  exact ⟨congrArg Prod.fst hrun, congrArg (·.2.store) hrun⟩

/-- The description says what a run gives and which store it leaves. -/
theorem Gives.eq_of_run {w : Work α} {σ τ : Session} {a b : α} (h : Gives w σ.store a t)
    (hrun : w.run σ = (b, τ)) : a = b ∧ t = τ.store := by
  obtain ⟨ha, ht⟩ := h.run_eq
  rw [hrun] at ha ht
  exact ⟨ha.symm, ht.symm⟩

/-! ### Single steps -/

theorem gives_pure (a : α) (s : Store) : Gives (pure a) s a s := fun log => ⟨log, rfl⟩

theorem gives_currentStore (s : Store) : Gives currentStore s s s := fun log => ⟨log, rfl⟩

theorem gives_setStore (s t : Store) : Gives (setStore t) s () t := fun log => ⟨log, rfl⟩

theorem gives_report (e : Log.Event) (s : Store) : Gives (report e) s () s := fun _ => ⟨_, rfl⟩

theorem gives_reportAll (es : List Log.Event) (s : Store) : Gives (reportAll es) s () s :=
  fun _ => ⟨_, rfl⟩

/-- Work that only reads and reports gives what it gives on an empty log. -/
theorem gives_logging (w : Log.Logging ε α) (s : Store) :
    Gives (logging w).run s (w.run.run []).1 s := by
  intro log
  cases hw : (w.run.run []).1 with
  | ok a => exact ⟨_, by rw [← hw]; rfl⟩
  | error e => exact ⟨_, by rw [← hw]; rfl⟩

/-! ### One step after another -/

theorem Gives.bind {w : Work α} {f : α → Work β} {a : α} {b : β} (h : Gives w s a t)
    (h' : Gives (f a) t b u) : Gives (w >>= f) s b u := by
  intro log
  obtain ⟨log₁, hw⟩ := h log
  obtain ⟨log₂, hf⟩ := h' log₁
  refine ⟨log₂, ?_⟩
  rw [StateT.run_bind, hw]
  exact hf

theorem Gives.map {w : Work α} {a : α} (f : α → β) (h : Gives w s a t) :
    Gives (f <$> w) s (f a) t := by
  intro log
  obtain ⟨log', hw⟩ := h log
  refine ⟨log', ?_⟩
  rw [StateT.run_map, hw]
  rfl

/-- Work that cannot fail as a step of work that can. -/
theorem Gives.lift {w : Work α} {a : α} (h : Gives w s a t) :
    Gives (liftM w : Action ε α).run s (.ok a) t :=
  h.map Except.ok

theorem Gives.bind_ok {w : Action ε α} {f : α → Action ε β} {a : α} {r : Except ε β}
    (h : Gives w.run s (.ok a) t) (h' : Gives (f a).run t r u) : Gives (w >>= f).run s r u :=
  Gives.bind (f := ExceptT.bindCont fun x => f x) h h'

/-- After a failure no step follows. -/
theorem Gives.bind_error {w : Action ε α} {f : α → Action ε β} {e : ε}
    (h : Gives w.run s (.error e) t) : Gives (w >>= f).run s (.error e) t :=
  Gives.bind (f := ExceptT.bindCont fun x => f x) h (gives_pure _ _)

/-- A step that decides without changing the store, as part of a plan that fails. -/
theorem Gives.bind_read_error {γ : Type} {w : Action ε α} {f : α → Action ε β} {x : Except ε α}
    {y : α → Except ε γ} {e : ε} (h : Gives w.run s x s) (hplan : x >>= y = .error e)
    (h' : ∀ a, y a = .error e → Gives (f a).run s (.error e) s) :
    Gives (w >>= f).run s (.error e) s := by
  cases x with
  | error e' =>
    obtain rfl : e' = e := Except.error.inj hplan
    exact h.bind_error
  | ok a => exact h.bind_ok (h' a hplan)

/-- A step that decides without changing the store, as part of a plan that is made. -/
theorem Gives.bind_read_ok {γ : Type} {w : Action ε α} {f : α → Action ε β} {x : Except ε α}
    {y : α → Except ε γ} {c : γ} {r : Except ε β} (h : Gives w.run s x s)
    (hplan : x >>= y = .ok c) (h' : ∀ a, y a = .ok c → Gives (f a).run s r t) :
    Gives (w >>= f).run s r t := by
  cases x with
  | error e => cases hplan
  | ok a => exact h.bind_ok (h' a hplan)

theorem Gives.withError {w : Action ε α} {r : Except ε α} (f : ε → δ) (h : Gives w.run s r t) :
    Gives (withError f w).run s (r.mapError f) t :=
  h.map (Except.mapError f)

end Imprint.Session
