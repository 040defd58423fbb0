import Mathlib.Order.Bounds.Basic
import Imprint.Proofs.Results
import Imprint.Proofs.Template.Loading

/-!
# The templates that are loaded

The templates that a template needs are itself and, again and again, whatever the texts among them
refer to and the search path has. Loading ends with exactly these, in whatever order the pending
references are visited, although it looks for each name once only and never for its own.

## Main definitions

* `Imprint.Template.assigned`: the text under a name, that of the template itself included.
* `Imprint.Template.Needed`: the texts that a template needs.
* `Imprint.Template.Closed`: names that hold all the names their texts refer to.
* `Imprint.Template.IsClosure`: the least closed names, each with its text.
* `Imprint.Template.Loading.Sound`: what holds while templates are loaded.

## Main results

* `Imprint.Template.Loading.Sound.visits`: visits keep the invariant.
* `Imprint.Template.Loading.Sound.isClosure`: what there is when nothing is pending any more.
* `Imprint.Template.compile_isClosure`: loading ends, and a compiled template has what it needs.
-/

namespace Imprint.Template

open Log

variable {store : Store} {searchPath : List Path} {name : String} {s t : List Char}

/-! ### What a template needs -/

/-- The text under a name, `t` being the text of the template itself. -/
def assigned (store : Store) (searchPath : List Path) (name : String) (t : List Char) (n : String) :
    Except RenderError (Option (List Char)) :=
  if n = name then .ok (some t) else fetch store searchPath n

/-- The texts that a template needs, with their names. -/
inductive Needed (store : Store) (searchPath : List Path) (name : String) (t : List Char) :
    String → List Char → Prop
  | self : Needed store searchPath name t name t
  | reference {n : String} {u v : List Char} {r : Reference}
      (hneeded : Needed store searchPath name t n u) (hr : r ∈ references u)
      (hv : assigned store searchPath name t r.name = .ok (some v)) :
      Needed store searchPath name t r.name v

/-- Names that hold the template's own and all located names that their texts refer to. -/
structure Closed (store : Store) (searchPath : List Path) (name : String) (t : List Char)
    (names : Set String) : Prop where
  self : name ∈ names
  reference : ∀ n ∈ names, ∀ u, assigned store searchPath name t n = .ok (some u) →
    ∀ r ∈ references u, (locate store searchPath r.name).isSome → r.name ∈ names

/-- Texts by name: the least closed names, each once, the template's own with its own text and every
other with the text of the first file that a directory of the search path has under the name. -/
structure IsClosure (store : Store) (searchPath : List Path) (name : String) (t : List Char)
    (texts : List (String × List Char)) : Prop where
  least : IsLeast {names | Closed store searchPath name t names} {n | n ∈ texts.map Prod.fst}
  nodup : (texts.map Prod.fst).Nodup
  self : (name, t) ∈ texts
  other : ∀ x ∈ texts, x.1 ≠ name → ∃ before dir after raw,
    searchPath = before ++ dir :: after ∧
      (∀ d ∈ before, store.isFile (d.join ⟨x.1⟩) = false) ∧
      store.isFile (dir.join ⟨x.1⟩) = true ∧
      store.readText (dir.join ⟨x.1⟩) = .ok raw ∧ expanded x.1 raw.toList = .ok x.2

theorem assigned_self : assigned store searchPath name t name = .ok (some t) := if_pos rfl

theorem assigned_of_ne {n : String} (h : n ≠ name) :
    assigned store searchPath name t n = fetch store searchPath n := if_neg h

theorem Needed.assigned {n : String} {u : List Char} (h : Needed store searchPath name t n u) :
    assigned store searchPath name t n = .ok (some u) := by
  cases h with
  | self => exact assigned_self
  | reference _ _ hv => exact hv

/-- Every closed set of names holds the names that are needed. -/
theorem Closed.mem_of_needed {names : Set String} (h : Closed store searchPath name t names)
    {n : String} {u : List Char} (hn : Needed store searchPath name t n u) : n ∈ names := by
  induction hn with
  | self => exact h.self
  | @reference n u v r hneeded hr hv ih =>
    by_cases hname : r.name = name
    · exact hname ▸ h.self
    · rw [assigned_of_ne hname] at hv
      obtain ⟨path, -, hpath, -⟩ := fetch_eq_some hv
      exact h.reference n ih u hneeded.assigned r hr (by simp [hpath])

/-! ### The invariant -/

/-- What holds while templates are loaded: only what is needed was loaded, and each reference of a
loaded text was seen or is pending. -/
structure Loading.Sound (store : Store) (searchPath : List Path) (name : String) (t : List Char)
    (l : Loading) : Prop where
  self_seen : name ∈ l.seen
  loaded : ∀ x ∈ l.loaded, x.1 ≠ name ∧ x.1 ∈ l.seen ∧ fetch store searchPath x.1 = .ok (some x.2) ∧
    Needed store searchPath name t x.1 x.2
  nodup : (l.loaded.map Prod.fst).Nodup
  seen : ∀ n ∈ l.seen, n = name ∨ n ∈ l.loaded.map Prod.fst ∨ locate store searchPath n = none
  frontier : ∀ x ∈ l.texts name t, ∀ r ∈ references x.2, r.name ∈ l.seen ∨ r ∈ l.pending
  pending : ∀ r ∈ l.pending, ∃ n u, Needed store searchPath name t n u ∧ r ∈ references u

theorem Loading.mem_texts {l : Loading} {x : String × List Char} :
    x ∈ l.texts name t ↔ x ∈ l.loaded ∨ x = (name, t) := by
  simp [texts]

theorem Loading.sound_start : (start name t).Sound store searchPath name t where
  self_seen := List.mem_singleton_self name
  loaded x hx := absurd hx List.not_mem_nil
  nodup := List.nodup_nil
  seen n hn := .inl (List.mem_singleton.1 hn)
  frontier x hx r hr := by
    rcases mem_texts.1 hx with hx | rfl
    · exact absurd hx List.not_mem_nil
    · exact .inr (List.mem_reverse.2 hr)
  pending r hr := ⟨name, t, .self, List.mem_reverse.1 hr⟩

/-- A visit keeps the invariant, whichever of the pending references is visited. -/
theorem Loading.Sound.visit {l l' : Loading} {next : Reference} {rest : List Reference}
    (h : l.Sound store searchPath name t) (hnext : l.pending.Perm (next :: rest))
    (hvisit : l.visit store searchPath name next rest = .ok l') :
    l'.Sound store searchPath name t := by
  have hrest : ∀ r ∈ rest, r ∈ l.pending := fun r hr => hnext.mem_iff.2 (List.mem_cons_of_mem _ hr)
  -- a pending reference is the one that is visited, or it stays pending
  have hmove : ∀ x ∈ l.texts name t, ∀ r ∈ references x.2,
      r.name ∈ next.name :: l.seen ∨ r ∈ rest := by
    intro x hx r hr
    rcases h.frontier x hx r hr with hseen | hpending
    · exact .inl (List.mem_cons_of_mem _ hseen)
    · rcases List.mem_cons.1 (hnext.mem_iff.1 hpending) with rfl | hr'
      · exact .inl List.mem_cons_self
      · exact .inr hr'
  rcases visit_cases hvisit with ⟨hseen, rfl⟩ | ⟨-, hnone, -, rfl⟩ | ⟨u, hnew, hu, rfl⟩
  · refine ⟨h.self_seen, h.loaded, h.nodup, h.seen, fun x hx r hr => ?_,
      fun r hr => h.pending r (hrest r hr)⟩
    refine (hmove x hx r hr).imp_left fun hr' => ?_
    rcases List.mem_cons.1 hr' with heq | hr'
    · exact heq ▸ hseen
    · exact hr'
  · refine ⟨List.mem_cons_of_mem _ h.self_seen, fun x hx => ?_, h.nodup, fun n hn => ?_, hmove,
      fun r hr => h.pending r (hrest r hr)⟩
    · obtain ⟨hname, hx', hfetch⟩ := h.loaded x hx
      exact ⟨hname, List.mem_cons_of_mem _ hx', hfetch⟩
    · rcases List.mem_cons.1 hn with rfl | hn
      · exact .inr (.inr (fetch_eq_none_iff.1 hnone))
      · exact h.seen n hn
  · have hname : next.name ≠ name := fun heq => hnew (heq ▸ h.self_seen)
    obtain ⟨n₀, u₀, hneeded₀, hr₀⟩ := h.pending next (hnext.mem_iff.2 List.mem_cons_self)
    have hneeded : Needed store searchPath name t next.name u :=
      .reference hneeded₀ hr₀ (by rw [assigned_of_ne hname, hu])
    refine ⟨List.mem_cons_of_mem _ h.self_seen, fun x hx => ?_, ?_, fun n hn => ?_,
      fun x hx r hr => ?_, fun r hr => ?_⟩
    · rcases List.mem_cons.1 hx with rfl | hx
      · exact ⟨hname, List.mem_cons_self, hu, hneeded⟩
      · obtain ⟨hname', hx', hfetch⟩ := h.loaded x hx
        exact ⟨hname', List.mem_cons_of_mem _ hx', hfetch⟩
    · refine List.nodup_cons.2 ⟨fun hmem => ?_, h.nodup⟩
      obtain ⟨x, hx, (heq : x.1 = next.name)⟩ := List.mem_map.1 hmem
      exact hnew (heq ▸ (h.loaded x hx).2.1)
    · rcases List.mem_cons.1 hn with rfl | hn
      · exact .inr (.inl List.mem_cons_self)
      · exact (h.seen n hn).imp_right (Or.imp_left (List.mem_cons_of_mem _))
    · rcases mem_texts.1 hx with hx | rfl
      · rcases List.mem_cons.1 hx with rfl | hx
        · exact .inr (List.mem_append_left _ (List.mem_reverse.2 hr))
        · exact (hmove x (mem_texts.2 (.inl hx)) r hr).imp_right (List.mem_append_right _)
      · exact (hmove _ (mem_texts.2 (.inr rfl)) r hr).imp_right (List.mem_append_right _)
    · rcases List.mem_append.1 hr with hr | hr
      · exact ⟨next.name, u, hneeded, List.mem_reverse.1 hr⟩
      · exact h.pending r (hrest r hr)

/-- Visits keep the invariant. -/
theorem Loading.Sound.visits {l l' : Loading} {visited : List Reference}
    (h : l.Sound store searchPath name t)
    (hvisits : l.Visits store searchPath name List.Perm visited l') :
    l'.Sound store searchPath name t := by
  induction hvisits with
  | nil l => exact h
  | cons hnext hvisit _ ih => exact ih (h.visit hnext hvisit)

/-! ### When nothing is pending any more -/

theorem Loading.Sound.needed_of_mem_texts {l : Loading} (h : l.Sound store searchPath name t)
    {x : String × List Char} (hx : x ∈ l.texts name t) :
    Needed store searchPath name t x.1 x.2 := by
  rcases mem_texts.1 hx with hx | rfl
  · exact (h.loaded x hx).2.2.2
  · exact .self

/-- Exactly the needed texts are there when nothing is pending. -/
theorem Loading.Sound.mem_texts_iff {l : Loading} (h : l.Sound store searchPath name t)
    (hpending : l.pending = []) {n : String} {u : List Char} :
    (n, u) ∈ l.texts name t ↔ Needed store searchPath name t n u := by
  refine ⟨h.needed_of_mem_texts, fun hn => ?_⟩
  induction hn with
  | self => exact mem_texts.2 (.inr rfl)
  | @reference n u v r _ hr hv ih =>
    have hseen : r.name ∈ l.seen := by
      refine (h.frontier _ ih r hr).resolve_right fun hr' => ?_
      simp [hpending] at hr'
    by_cases hname : r.name = name
    · rw [hname, assigned_self] at hv
      simp only [Except.ok.injEq, Option.some.injEq] at hv
      exact mem_texts.2 (.inr (by rw [hname, hv]))
    · rw [assigned_of_ne hname] at hv
      rcases h.seen _ hseen with heq | hmem | hnone
      · exact absurd heq hname
      · obtain ⟨x, hx, heq⟩ := List.mem_map.1 hmem
        have hfetch := (h.loaded x hx).2.2.1
        rw [heq, hv] at hfetch
        simp only [Except.ok.injEq, Option.some.injEq] at hfetch
        exact mem_texts.2 (.inl (by rw [hfetch, ← heq]; exact hx))
      · rw [fetch_of_locate_none hnone] at hv
        cases hv

/-- When nothing is pending the loaded texts are the closure. -/
theorem Loading.Sound.isClosure {l : Loading} (h : l.Sound store searchPath name t)
    (hpending : l.pending = []) : IsClosure store searchPath name t (l.texts name t) where
  least := by
    refine ⟨⟨?_, ?_⟩, fun names hnames n hn => ?_⟩
    · exact List.mem_map.2 ⟨(name, t), mem_texts.2 (.inr rfl), rfl⟩
    · rintro n hn u hu r hr hlocated
      obtain ⟨⟨n, u'⟩, hx, rfl⟩ := List.mem_map.1 hn
      have hneeded := h.needed_of_mem_texts hx
      obtain rfl : u' = u := by simpa using hneeded.assigned.symm.trans hu
      have hseen : r.name ∈ l.seen := by
        refine (h.frontier _ hx r hr).resolve_right fun hr' => ?_
        simp [hpending] at hr'
      rcases h.seen _ hseen with heq | hmem | hnone
      · exact List.mem_map.2 ⟨(name, t), mem_texts.2 (.inr rfl), heq.symm⟩
      · obtain ⟨x, hx, heq⟩ := List.mem_map.1 hmem
        exact List.mem_map.2 ⟨x, mem_texts.2 (.inl hx), heq⟩
      · simp [hnone] at hlocated
    · obtain ⟨x, hx, rfl⟩ := List.mem_map.1 hn
      exact Closed.mem_of_needed hnames (h.needed_of_mem_texts hx)
  nodup := by
    have hname : name ∉ l.loaded.map Prod.fst := by
      intro hmem
      obtain ⟨x, hx, heq⟩ := List.mem_map.1 hmem
      exact (h.loaded x hx).1 heq
    simp only [texts, List.map_append, List.map_reverse, List.map_cons, List.map_nil]
    refine List.nodup_append.2 ⟨List.nodup_reverse.2 h.nodup, List.nodup_singleton _, ?_⟩
    rintro a ha b hb rfl
    exact hname (List.mem_singleton.1 hb ▸ List.mem_reverse.1 ha)
  self := mem_texts.2 (.inr rfl)
  other x hx hne := by
    rcases mem_texts.1 hx with hx | rfl
    · obtain ⟨path, raw, hlocate, hread, hexpand⟩ := fetch_eq_some (h.loaded x hx).2.2.1
      obtain ⟨before, dir, after, hpath, rfl, hfile, hbefore⟩ := locate_eq_some_iff.1 hlocate
      exact ⟨before, dir, after, raw, hpath, hbefore, hfile, hread, hexpand⟩
    · exact absurd rfl hne

/-! ### Compiling -/

/-- The compiled template of loaded texts. -/
def Compiled.ofTexts (name : String) (texts : List (String × List Char)) :
    Except RenderError Compiled :=
  match Library.ofTexts texts with
  | .error flaw => .error (.invalid name flaw)
  | .ok library =>
    match library.find? name with
    | some main => .ok ⟨name, library, main⟩
    | none => .error (.invalid name (.invalid name .malformed))

theorem yields_compile {x : Except RenderError (List (String × List Char))}
    (h : Yields (load store searchPath name s) x) :
    Yields (compile store searchPath name s) (x.bind (Compiled.ofTexts name)) := by
  cases x with
  | error e => exact h.bind_error
  | ok texts =>
    refine h.bind_ok ?_
    simp only [Except.bind, Compiled.ofTexts]
    cases Library.ofTexts texts with
    | error flaw => exact yields_throw _
    | ok library =>
      dsimp only
      cases library.find? name with
      | none => exact yields_throw _
      | some main => exact yields_pure _

theorem Compiled.ofTexts_eq_ok {texts : List (String × List Char)} {c : Compiled}
    (h : Compiled.ofTexts name texts = .ok c) : Library.ofTexts texts = .ok c.library := by
  simp only [ofTexts] at h
  split at h
  · cases h
  · next library hlibrary =>
    split at h
    · cases h
      exact hlibrary
    · cases h

theorem Compiled.ofTexts_eq_error {texts : List (String × List Char)} {e : RenderError}
    (h : Compiled.ofTexts name texts = .error e) : ∃ flaw, e = .invalid name flaw := by
  simp only [ofTexts] at h
  split at h
  · cases h
    exact ⟨_, rfl⟩
  · split at h
    · cases h
    · cases h
      exact ⟨_, rfl⟩

/-- A template that was compiled was made from texts that were loaded to the end. -/
theorem compile_eq_ok {c : Compiled} {log log' : List Event}
    (h : (compile store searchPath name s).run.run log = (.ok c, log')) :
    ∃ t visited l, expanded name s = .ok t ∧
      (Loading.start name t).Visits store searchPath name Eq visited l ∧ l.pending = [] ∧
      Library.ofTexts (l.texts name t) = .ok c.library := by
  cases ht : expanded name s with
  | error e => cases (yields_compile (yields_load_of_error ht)).eq_of_run h
  | ok t =>
    obtain ⟨visited, l, x, hvisits, hends, hload⟩ := load_of_expanded store searchPath ht
    have hresult := (yields_compile hload).eq_of_run h
    cases hends with
    | failed => cases hresult
    | done hpending => exact ⟨t, visited, l, rfl, hvisits, hpending, Compiled.ofTexts_eq_ok hresult⟩

/-- Compiling fails because of the text itself, at a visit, or when all texts have been loaded. -/
theorem compile_eq_error {e : RenderError} {log log' : List Event}
    (h : (compile store searchPath name s).run.run log = (.error e, log')) :
    expanded name s = .error e ∨ ∃ t visited l, expanded name s = .ok t ∧
      (Loading.start name t).Visits store searchPath name Eq visited l ∧
      (l.Ends store searchPath name Eq (.error e) ∨
        l.pending = [] ∧ ∃ flaw, e = .invalid name flaw) := by
  cases ht : expanded name s with
  | error e' =>
    cases (yields_compile (yields_load_of_error ht)).eq_of_run h
    exact .inl rfl
  | ok t =>
    obtain ⟨visited, l, x, hvisits, hends, hload⟩ := load_of_expanded store searchPath ht
    have hresult := (yields_compile hload).eq_of_run h
    refine .inr ⟨t, visited, l, rfl, hvisits, ?_⟩
    cases hends with
    | failed hnext hvisit =>
      cases hresult
      exact .inl (.failed hnext hvisit)
    | done hpending => exact .inr ⟨hpending, Compiled.ofTexts_eq_error hresult⟩

theorem name_of_ofText {template : Template} (h : ofText name s = .ok template) :
    template.name = name := by
  simp only [ofText, bind, Except.bind] at h
  split at h
  · cases h
  · split at h
    · cases h
    · split at h
      · cases h
      · cases h
        rfl

/-- The templates of a library are those of its texts, in their order. -/
theorem Library.templates_of_ofTexts {texts : List (String × List Char)} {library : Library}
    (h : Library.ofTexts texts = .ok library) :
    List.Forall₂ (fun x template => template.name = x.1 ∧ ofText x.1 x.2 = .ok template) texts
      library.templates := by
  simp only [ofTexts, bind, Except.bind] at h
  split at h
  · cases h
  · next templates htemplates =>
    split at h
    · cases h
    · obtain rfl : (⟨templates⟩ : Library) = library := by simpa using h
      refine (mapM_eq_ok_iff.1 htemplates).imp fun x template hx => ?_
      split at hx
      · next htemplate =>
        cases hx
        exact ⟨name_of_ofText htemplate, htemplate⟩
      · cases hx

/-- Templates have the names of the texts that they were made from. -/
theorem map_name_of_forall₂ {texts : List (String × List Char)} {templates : List Template}
    (h : List.Forall₂ (fun x template => template.name = x.1 ∧ ofText x.1 x.2 = .ok template)
      texts templates) : templates.map (·.name) = texts.map Prod.fst := by
  induction h with
  | nil => rfl
  | cons h _ ih => rw [List.map_cons, List.map_cons, h.1, ih]

/-- Loading ends: however pending references are chosen, there are no more visits than the work that
there is at the start, and the loop visits until nothing is pending or a visit fails. When nothing
is pending any more the loaded texts are the closure, whatever the order was. A template that is
compiled is made from its closure. -/
theorem compile_isClosure (store : Store) (searchPath : List Path) (name : String)
    (s : List Char) :
    (∀ t, expanded name s = .ok t →
      (∀ visited l, (Loading.start name t).Visits store searchPath name List.Perm visited l →
        visited.length ≤ (Loading.start name t).work store ∧
          (l.pending = [] → IsClosure store searchPath name t (l.texts name t))) ∧
      ∃ visited l x, (Loading.start name t).Visits store searchPath name Eq visited l ∧
        l.Ends store searchPath name Eq x ∧
        Yields (load store searchPath name s) (x.map (Loading.texts name t))) ∧
    ∀ c log log', (compile store searchPath name s).run.run log = (.ok c, log') →
      ∃ t texts, expanded name s = .ok t ∧ IsClosure store searchPath name t texts ∧
        List.Forall₂ (fun x template => template.name = x.1 ∧ ofText x.1 x.2 = .ok template) texts
          c.library.templates := by
  refine ⟨fun t ht => ⟨fun visited l hvisits => ⟨?_, ?_⟩, load_of_expanded store searchPath ht⟩,
    fun c log log' hrun => ?_⟩
  · have hlength := hvisits.length_add_work_le
    omega
  · exact (Loading.sound_start.visits hvisits).isClosure
  · obtain ⟨t, visited, l, ht, hvisits, hpending, hlibrary⟩ := compile_eq_ok hrun
    exact ⟨t, l.texts name t, ht, (Loading.sound_start.visits hvisits.perm).isClosure hpending,
      Library.templates_of_ofTexts hlibrary⟩

/-- Two templates that name each other and the one that names them, and a second file with the name
of one of them. -/
def cyclicStore : Store where
  entries := [(["inc"], .directory), (["two"], .directory),
    (["inc", "a"], .file "[\x7b% include 'b' %\x7d]".toUTF8),
    (["two", "a"], .file "not this".toUTF8),
    (["two", "b"], .file "\x7b% include 'a' %\x7d\x7b% include 'm' %\x7d".toUTF8)]

/-- A text that names one of them, and one that may be missing. -/
def cyclicText : List Char :=
  "\x7b% include 'a' %\x7d\x7b% include 'zip' ignore missing %\x7d".toList

/-- The cycle is loaded once. -/
theorem compile_isClosure_cyclic :
    ∃ c log t texts,
      (compile cyclicStore [⟨"none"⟩, ⟨"inc"⟩, ⟨"two"⟩] "m" cyclicText).run.run [] = (.ok c, log) ∧
      c.library.templates.map (·.name) = ["a", "b", "m"] ∧
      IsClosure cyclicStore [⟨"none"⟩, ⟨"inc"⟩, ⟨"two"⟩] "m" t texts ∧
      texts.map Prod.fst = ["a", "b", "m"] := by
  have hnames : ((compile cyclicStore [⟨"none"⟩, ⟨"inc"⟩, ⟨"two"⟩] "m" cyclicText).run.run
      []).1.toOption.map (·.library.templates.map (·.name)) = some ["a", "b", "m"] := by
    decide +kernel
  rcases hrun : (compile cyclicStore [⟨"none"⟩, ⟨"inc"⟩, ⟨"two"⟩] "m" cyclicText).run.run [] with
    ⟨e | c, log⟩
  · rw [hrun] at hnames
    cases hnames
  · rw [hrun] at hnames
    obtain ⟨t, texts, -, hclosure, htemplates⟩ :=
      (compile_isClosure cyclicStore _ "m" cyclicText).2 c [] log hrun
    have hnames' : c.library.templates.map (·.name) = ["a", "b", "m"] := by
      simpa [Except.toOption] using hnames
    exact ⟨c, log, t, texts, rfl, hnames', hclosure,
      (map_name_of_forall₂ htemplates).symm.trans hnames'⟩

end Imprint.Template
