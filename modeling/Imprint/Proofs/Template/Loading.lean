import Mathlib.Data.Finset.Card
import Imprint.Proofs.Store.Operations
import Imprint.Template.Compile

/-!
# Loading templates

While templates are loaded, references are taken from the pending ones and visited. A visit marks a
name as seen and, when a file has the name, loads its text and adds the references of this text to
the pending ones. Here a visit is a function, and a run is a list of visits; the order in which
pending references are visited is a parameter of a run, and the loop takes the one that was added
last.

Every name that is ever pending occurs in the first text or in a file of the store, and it is loaded
once at most. So the visits that are left have a bound, whatever the order, and the loop never stops
for lack of turns.

## Main definitions

* `Imprint.Template.fetch`: the text that a name stands for in the search path.
* `Imprint.Template.Loading.visit`: the visit of a reference.
* `Imprint.Template.Loading.Visits`: visits one after another.
* `Imprint.Template.Loading.work`: a bound on the visits that are left.

## Main results

* `Imprint.Template.locate_eq_some_iff`: the first directory that has a file with the name.
* `Imprint.Template.Loading.work_visit_lt`: a visit leaves less work.
* `Imprint.Template.load_of_expanded`: the loop visits until nothing is pending or a visit fails.
-/

namespace Imprint

namespace Log

variable {α β ε : Type}

/-- The work gives `x`, whatever was reported before. -/
def Yields (w : Logging ε α) (x : Except ε α) : Prop :=
  ∀ log, ∃ log', w.run.run log = (x, log')

theorem Yields.eq_of_run {w : Logging ε α} {x y : Except ε α} (h : Yields w x)
    {log log' : List Event} (hrun : w.run.run log = (y, log')) : x = y := by
  obtain ⟨log'', hx⟩ := h log
  exact congrArg Prod.fst (hx.symm.trans hrun)

theorem yields_pure (a : α) : Yields (pure a : Logging ε α) (.ok a) := fun log => ⟨log, rfl⟩

theorem yields_throw (e : ε) : Yields (throw e : Logging ε α) (.error e) := fun log => ⟨log, rfl⟩

theorem yields_report (e : Event) : Yields (report e : Logging ε Unit) (.ok ()) :=
  fun _ => ⟨_, rfl⟩

theorem Yields.bind_ok {w : Logging ε α} {f : α → Logging ε β} {a : α} {x : Except ε β}
    (h : Yields w (.ok a)) (h' : Yields (f a) x) : Yields (w >>= f) x := by
  intro log
  obtain ⟨log₁, hw⟩ := h log
  obtain ⟨log₂, hf⟩ := h' log₁
  refine ⟨log₂, ?_⟩
  rw [ExceptT.run_bind, StateT.run_bind, hw]
  exact hf

/-- After a failure no step follows. -/
theorem Yields.bind_error {w : Logging ε α} {f : α → Logging ε β} {e : ε}
    (h : Yields w (.error e)) : Yields (w >>= f) (.error e) := by
  intro log
  obtain ⟨log₁, hw⟩ := h log
  refine ⟨log₁, ?_⟩
  rw [ExceptT.run_bind, StateT.run_bind, hw]
  rfl

end Log

namespace Template

open Log

variable {store : Store} {searchPath : List Path} {name : String}

/-! ### The text that a name stands for -/

/-- A file is located in the first directory that has one with the name. -/
theorem locate_eq_some_iff {p : Path} :
    locate store searchPath name = some p ↔
      ∃ before dir after, searchPath = before ++ dir :: after ∧ p = dir.join ⟨name⟩ ∧
        store.isFile p = true ∧ ∀ d ∈ before, store.isFile (d.join ⟨name⟩) = false := by
  simp only [locate, List.find?_eq_some_iff_append, List.map_eq_append_iff, List.map_eq_cons_iff]
  constructor
  · rintro ⟨hfile, -, -, ⟨before, -, rfl, rfl, dir, after, rfl, rfl, rfl⟩, hbefore⟩
    refine ⟨before, dir, after, rfl, rfl, hfile, fun d hd => ?_⟩
    simpa using hbefore _ (List.mem_map_of_mem hd)
  · rintro ⟨before, dir, after, rfl, rfl, hfile, hbefore⟩
    refine ⟨hfile, _, _, ⟨before, dir :: after, rfl, rfl, dir, after, rfl, rfl, rfl⟩, ?_⟩
    intro p hp
    obtain ⟨d, hd, rfl⟩ := List.mem_map.1 hp
    simpa using hbefore d hd

/-- The text that a name stands for: the one of the first file with the name, with its
interpolations written out. No text, when no directory of the search path has such a file. -/
def fetch (store : Store) (searchPath : List Path) (name : String) :
    Except RenderError (Option (List Char)) :=
  match locate store searchPath name with
  | none => .ok none
  | some path =>
    match store.readText path with
    | .error fault => .error (.unreadable path fault)
    | .ok s => (expanded name s.toList).map some

theorem expanded_eq_error {s : List Char} {e : RenderError} (h : expanded name s = .error e) :
    ∃ line, e = .unclosed name line := by
  simp only [expanded] at h
  split at h
  · cases h
  · cases h
    exact ⟨_, rfl⟩

/-- A text is refused because its file cannot be read or an interpolation in it is not closed. -/
theorem fetch_eq_error {e : RenderError} (h : fetch store searchPath name = .error e) :
    (∃ path fault, e = .unreadable path fault) ∨ ∃ line, e = .unclosed name line := by
  simp only [fetch] at h
  split at h
  · cases h
  · split at h
    · cases h
      exact .inl ⟨_, _, rfl⟩
    · next s _ =>
      cases ht : expanded name s.toList with
      | ok t => simp [ht, Except.map] at h
      | error e' =>
        obtain rfl : e' = e := by simpa [ht, Except.map] using h
        exact .inr (expanded_eq_error ht)

theorem fetch_of_locate_none (h : locate store searchPath name = none) :
    fetch store searchPath name = .ok none := by
  simp only [fetch, h]

/-- A text that was fetched was read from the located file. -/
theorem fetch_eq_some {t : List Char} (h : fetch store searchPath name = .ok (some t)) :
    ∃ path s, locate store searchPath name = some path ∧ store.readText path = .ok s ∧
      expanded name s.toList = .ok t := by
  simp only [fetch] at h
  split at h
  · cases h
  · next path hpath =>
    split at h
    · cases h
    · next s hs =>
      refine ⟨path, s, hpath, hs, ?_⟩
      cases ht : expanded name s.toList with
      | error e => simp [ht, Except.map] at h
      | ok u => simpa [ht, Except.map] using h

theorem fetch_eq_none_iff :
    fetch store searchPath name = .ok none ↔ locate store searchPath name = none := by
  refine ⟨fun h => ?_, fetch_of_locate_none⟩
  simp only [fetch] at h
  split at h
  · next hnone => exact hnone
  · split at h
    · cases h
    · next s hs => cases ht : expanded name s.toList <;> simp [ht, Except.map] at h

/-- The references of a text that was fetched are among those of the store. -/
theorem references_sublist_of_fetch {t : List Char}
    (h : fetch store searchPath name = .ok (some t)) :
    (references t).Sublist (referencesOfStore store) := by
  obtain ⟨path, s, -, hread, ht⟩ := fetch_eq_some h
  obtain ⟨content, ⟨l, hl, hfile⟩, hs⟩ := Store.readText_eq_ok_iff.1 hread
  have hmem : (l, Store.Entry.file content) ∈ store.entries := by
    rw [Store.get?_of_not_isFixed (Store.not_isFixed (by simp [hfile]))] at hfile
    obtain ⟨before, after, hentries, -⟩ := List.lookup_eq_some_iff.1 hfile
    simp [hentries]
  have hexpand : Shorthand.expand s.toList = .ok t := by
    cases he : Shorthand.expand s.toList with
    | error e => simp [expanded, he] at ht
    | ok u => simpa [expanded, he] using ht
  rw [referencesOfStore, List.flatMap]
  refine List.sublist_flatten_of_mem (List.mem_map.2 ⟨_, hmem, ?_⟩)
  simp only [hs, hexpand]

/-! ### Visits -/

/-- The names that a state can come to and has not seen. -/
def Loading.unseen (store : Store) (l : Loading) : Finset String :=
  ((l.pending ++ referencesOfStore store).map Reference.name).toFinset \ l.seen.toFinset

/-- A bound on the visits that are left: one for each pending reference, and one for each reference
that a name may still add. -/
def Loading.work (store : Store) (l : Loading) : Nat :=
  l.pending.length + (l.unseen store).card * (referencesOfStore store).length

/-- Visits a reference when `rest` is pending beside it. -/
def Loading.visit (store : Store) (searchPath : List Path) (main : String) (l : Loading)
    (next : Reference) (rest : List Reference) : Except RenderError Loading :=
  if l.seen.contains next.name then .ok { l with pending := rest }
  else
    match fetch store searchPath next.name with
    | .error e => .error e
    | .ok none =>
      if next.optional then .ok { l with seen := next.name :: l.seen, pending := rest }
      else .error (.notFound main next.name searchPath)
    | .ok (some t) =>
      .ok ⟨next.name :: l.seen, (references t).reverse ++ rest, (next.name, t) :: l.loaded⟩

variable {main : String} {l l' : Loading} {next : Reference} {rest : List Reference}

/-- What a visit can do: pass over a name that was seen, pass over a name that may be missing, or
load a text. -/
theorem Loading.visit_cases (h : l.visit store searchPath main next rest = .ok l') :
    (next.name ∈ l.seen ∧ l' = { l with pending := rest }) ∨
    (next.name ∉ l.seen ∧ fetch store searchPath next.name = .ok none ∧ next.optional = true ∧
      l' = { l with seen := next.name :: l.seen, pending := rest }) ∨
    ∃ t, next.name ∉ l.seen ∧ fetch store searchPath next.name = .ok (some t) ∧
      l' = ⟨next.name :: l.seen, (references t).reverse ++ rest, (next.name, t) :: l.loaded⟩ := by
  simp only [visit] at h
  by_cases hseen : next.name ∈ l.seen
  · simp only [List.contains_eq_mem, hseen, decide_true, ↓reduceIte, Except.ok.injEq] at h
    exact .inl ⟨hseen, h.symm⟩
  · simp only [List.contains_eq_mem, hseen, decide_false, Bool.false_eq_true, ↓reduceIte] at h
    split at h
    · cases h
    · next hnone =>
      split at h
      · next hoptional => exact .inr (.inl ⟨hseen, hnone, hoptional, by simpa using h.symm⟩)
      · cases h
    · next t ht => exact .inr (.inr ⟨t, hseen, ht, by simpa using h.symm⟩)

/-- Why a visit fails: the text under the name is refused, or it is required and there is none. -/
theorem Loading.visit_eq_error {e : RenderError}
    (h : l.visit store searchPath main next rest = .error e) :
    fetch store searchPath next.name = .error e ∨
      fetch store searchPath next.name = .ok none ∧ next.optional = false ∧
        e = .notFound main next.name searchPath := by
  simp only [visit] at h
  split at h
  · cases h
  · split at h
    · next hfetch =>
      cases h
      exact .inl hfetch
    · next hnone =>
      split at h
      · cases h
      · next hrequired =>
        cases h
        exact .inr ⟨hnone, by simpa using hrequired, rfl⟩
    · cases h

/-- The step of the loop is a visit. -/
theorem Loading.yields_step (store : Store) (searchPath : List Path) (main : String) (l : Loading)
    (next : Reference) (rest : List Reference) :
    Yields (l.step store searchPath main next rest)
      (l.visit store searchPath main next rest) := by
  simp only [step, visit, fetch]
  split
  · exact yields_pure _
  · cases locate store searchPath next.name with
    | none =>
      dsimp only
      split
      · exact yields_pure _
      · exact yields_throw _
    | some path =>
      refine (yields_report _).bind_ok ?_
      dsimp only
      cases store.readText path with
      | error fault => exact yields_throw _
      | ok s =>
        dsimp only
        cases expanded next.name s.toList with
        | error e => exact (yields_throw e).bind_error
        | ok t => exact (yields_pure t).bind_ok (yields_pure _)

/-! ### Visits one after another -/

/-- Visits of references, one after another. What may be taken from the pending references is given
by `order`. -/
inductive Loading.Visits (store : Store) (searchPath : List Path) (main : String)
    (order : List Reference → List Reference → Prop) :
    Loading → List Reference → Loading → Prop
  | nil (l : Loading) : Visits store searchPath main order l [] l
  | cons {l l' l'' : Loading} {next : Reference} {rest visited : List Reference}
      (hnext : order l.pending (next :: rest))
      (hvisit : l.visit store searchPath main next rest = .ok l')
      (hvisits : Visits store searchPath main order l' visited l'') :
      Visits store searchPath main order l (next :: visited) l''

/-- How a run of visits ends: nothing is pending, or a visit fails. -/
inductive Loading.Ends (store : Store) (searchPath : List Path) (main : String)
    (order : List Reference → List Reference → Prop) :
    Loading → Except RenderError Loading → Prop
  | done {l : Loading} (hpending : l.pending = []) : Ends store searchPath main order l (.ok l)
  | failed {l : Loading} {next : Reference} {rest : List Reference} {e : RenderError}
      (hnext : order l.pending (next :: rest))
      (hvisit : l.visit store searchPath main next rest = .error e) :
      Ends store searchPath main order l (.error e)

variable {order : List Reference → List Reference → Prop} {visited : List Reference}

/-- The visits of the loop are visits in some order. -/
theorem Loading.Visits.perm (h : l.Visits store searchPath main Eq visited l') :
    l.Visits store searchPath main List.Perm visited l' := by
  induction h with
  | nil l => exact .nil l
  | cons hnext hvisit _ ih => exact .cons (hnext ▸ .refl _) hvisit ih

/-! ### The work that is left -/

theorem Loading.unseen_visit_subset (hnext : l.pending.Perm (next :: rest))
    (h : l.visit store searchPath main next rest = .ok l') :
    l'.unseen store ⊆ l.unseen store := by
  intro n hn
  have hperm (r : Reference) : r ∈ l.pending ↔ r = next ∨ r ∈ rest := by
    rw [hnext.mem_iff, List.mem_cons]
  rcases visit_cases h with ⟨-, rfl⟩ | ⟨-, -, -, rfl⟩ | ⟨t, -, ht, rfl⟩
  · simp only [unseen, Finset.mem_sdiff, List.mem_toFinset, List.mem_map, List.mem_append] at hn ⊢
    obtain ⟨⟨r, hr, rfl⟩, hseen⟩ := hn
    exact ⟨⟨r, hr.imp_left fun h => (hperm r).2 (.inr h), rfl⟩, hseen⟩
  · simp only [unseen, Finset.mem_sdiff, List.mem_toFinset, List.mem_map, List.mem_append,
      List.mem_cons, not_or] at hn ⊢
    obtain ⟨⟨r, hr, rfl⟩, -, hseen⟩ := hn
    exact ⟨⟨r, hr.imp_left fun h => (hperm r).2 (.inr h), rfl⟩, hseen⟩
  · simp only [unseen, Finset.mem_sdiff, List.mem_toFinset, List.mem_map, List.mem_append,
      List.mem_cons, List.mem_reverse, not_or] at hn ⊢
    obtain ⟨⟨r, hr, rfl⟩, -, hseen⟩ := hn
    refine ⟨⟨r, ?_, rfl⟩, hseen⟩
    rcases hr with (hr | hr) | hr
    · exact .inr ((references_sublist_of_fetch ht).subset hr)
    · exact .inl ((hperm r).2 (.inr hr))
    · exact .inr hr

/-- A visit leaves less work, whichever of the pending references is visited. -/
theorem Loading.work_visit_lt (hnext : l.pending.Perm (next :: rest))
    (h : l.visit store searchPath main next rest = .ok l') : l'.work store < l.work store := by
  have hsubset := unseen_visit_subset hnext h
  have hcard := Finset.card_le_card hsubset
  have hlength : l.pending.length = rest.length + 1 := by simpa using hnext.length_eq
  have hmul : (l'.unseen store).card * (referencesOfStore store).length ≤
      (l.unseen store).card * (referencesOfStore store).length := Nat.mul_le_mul_right _ hcard
  simp only [work, hlength]
  rcases visit_cases h with ⟨-, rfl⟩ | ⟨-, -, -, rfl⟩ | ⟨t, hseen, ht, rfl⟩
  · dsimp only at hmul ⊢
    omega
  · dsimp only at hmul ⊢
    omega
  · -- the name that is seen now pays for the references that its text adds
    have hmem : next.name ∈ l.unseen store := by
      have hpending : next ∈ l.pending := hnext.mem_iff.2 List.mem_cons_self
      simp only [unseen, Finset.mem_sdiff, List.mem_toFinset, List.mem_map, List.mem_append]
      exact ⟨⟨next, .inl hpending, rfl⟩, hseen⟩
    have hgone : next.name ∉ Loading.unseen store
        ⟨next.name :: l.seen, (references t).reverse ++ rest, (next.name, t) :: l.loaded⟩ := by
      simp [unseen]
    have hlt := Finset.card_lt_card
      (Finset.ssubset_iff_subset_ne.2 ⟨hsubset, fun heq => hgone (heq ▸ hmem)⟩)
    have hrefs := (references_sublist_of_fetch ht).length_le
    have hpay := Nat.mul_le_mul_right (referencesOfStore store).length (Nat.succ_le_of_lt hlt)
    rw [Nat.succ_mul] at hpay
    simp only [List.length_append, List.length_reverse]
    omega

/-- No run of visits is longer than the work there is at its start. -/
theorem Loading.Visits.length_add_work_le
    (h : l.Visits store searchPath main List.Perm visited l') :
    visited.length + l'.work store ≤ l.work store := by
  induction h with
  | nil l => simp
  | cons hnext hvisit _ ih =>
    have hlt := work_visit_lt hnext hvisit
    simp only [List.length_cons]
    omega

/-! ### The loop -/

/-- However many references are pending, the visits come to an end. -/
theorem Loading.exists_ends (store : Store) (searchPath : List Path) (main : String) (l : Loading) :
    ∃ visited l' x, l.Visits store searchPath main Eq visited l' ∧
      l'.Ends store searchPath main Eq x := by
  induction hwork : l.work store using Nat.strong_induction_on generalizing l with
  | _ work ih =>
    cases hpending : l.pending with
    | nil => exact ⟨[], l, _, .nil l, .done hpending⟩
    | cons next rest =>
      cases hvisit : l.visit store searchPath main next rest with
      | error e => exact ⟨[], l, _, .nil l, .failed hpending hvisit⟩
      | ok l' =>
        have hlt := work_visit_lt (hpending ▸ .refl _) hvisit
        obtain ⟨visited, l'', x, hvisits, hends⟩ := ih _ (hwork ▸ hlt) l' rfl
        exact ⟨next :: visited, l'', x, .cons hpending hvisit hvisits, hends⟩

/-- The loop makes the visits, when it has a turn for each of the visits that are left. -/
theorem Loading.Visits.yields_run {x : Except RenderError Loading}
    (h : l.Visits store searchPath main Eq visited l') (hends : l'.Ends store searchPath main Eq x)
    {n : Nat} (hn : l.work store ≤ n) : Yields (run store searchPath main n l) x := by
  induction h generalizing n with
  | nil l =>
    cases hends with
    | done hpending =>
      cases n with
      | zero => exact yields_pure l
      | succ n => simpa only [run, hpending] using yields_pure l
    | failed hpending hvisit =>
      obtain ⟨n, rfl⟩ : ∃ m, n = m + 1 :=
        Nat.exists_eq_add_one_of_ne_zero
          (by simp only [work, hpending, List.length_cons] at hn; omega)
      have hstep := hvisit ▸ yields_step store searchPath main l _ _
      simpa only [run, hpending] using hstep.bind_error
  | cons hpending hvisit _ ih =>
    have hlt := work_visit_lt (hpending ▸ .refl _) hvisit
    obtain ⟨n, rfl⟩ : ∃ m, n = m + 1 := Nat.exists_eq_add_one_of_ne_zero (by omega)
    have hstep := hvisit ▸ yields_step store searchPath main _ _ _
    simpa only [run, hpending] using hstep.bind_ok (ih hends (by omega))

/-- What there is to do for a text: its references are pending. -/
def Loading.start (name : String) (t : List Char) : Loading :=
  ⟨[name], (references t).reverse, []⟩

/-- The texts that were loaded for a template, itself last. -/
def Loading.texts (name : String) (t : List Char) (l : Loading) : List (String × List Char) :=
  l.loaded.reverse ++ [(name, t)]

theorem Loading.work_start_le (store : Store) (name : String) (t : List Char) :
    let bound := (references t).length + (referencesOfStore store).length + 1
    (start name t).work store ≤ bound * bound := by
  intro bound
  have hcard : ((start name t).unseen store).card ≤
      (references t).length + (referencesOfStore store).length := by
    refine (Finset.card_le_card Finset.sdiff_subset).trans ((List.toFinset_card_le _).trans ?_)
    simp [start]
  have hmul := Nat.mul_le_mul_right (referencesOfStore store).length hcard
  have hlength : (start name t).pending.length = (references t).length := by simp [start]
  calc (start name t).work store
      ≤ bound + bound * ((references t).length + (referencesOfStore store).length) := by
        refine Nat.add_le_add (by omega) (hmul.trans ?_)
        exact Nat.mul_le_mul (by omega) (by omega)
    _ = bound * bound := by rw [Nat.add_comm, ← Nat.mul_succ]

variable {s t : List Char}

theorem yields_load_of_error {e : RenderError} (h : expanded name s = .error e) :
    Yields (load store searchPath name s) (.error e) := by
  simp only [load, h]
  exact (yields_throw e).bind_error

/-- Loading makes the visits; the bound on its turns never stops it. -/
theorem Loading.Visits.yields_load {l : Loading} {x : Except RenderError Loading}
    (ht : expanded name s = .ok t) (h : (start name t).Visits store searchPath name Eq visited l)
    (hends : l.Ends store searchPath name Eq x) :
    Yields (load store searchPath name s) (x.map (texts name t)) := by
  have hrun := h.yields_run hends (work_start_le store name t)
  simp only [load, ht]
  refine (yields_pure t).bind_ok ?_
  cases x with
  | error e => exact hrun.bind_error
  | ok l' => exact hrun.bind_ok (yields_pure _)

/-- Loading visits references until none is pending or a visit fails. -/
theorem load_of_expanded (store : Store) (searchPath : List Path)
    (h : expanded name s = .ok t) :
    ∃ visited l x, (Loading.start name t).Visits store searchPath name Eq visited l ∧
      l.Ends store searchPath name Eq x ∧
      Yields (load store searchPath name s) (x.map (Loading.texts name t)) := by
  obtain ⟨visited, l, x, hvisits, hends⟩ :=
    Loading.exists_ends store searchPath name (Loading.start name t)
  exact ⟨visited, l, x, hvisits, hends, hvisits.yields_load h hends⟩

end Template

end Imprint
