import Imprint.Proofs.Template.Closure

/-!
# Templates that are missing

A name that no directory of the search path has is looked for once, when the first reference to it
is visited, and this reference alone decides whether the name may be missing. A later reference that
does not allow it is passed over. So a required template that is missing is reported unless a
reference with `ignore missing` to the same name is visited earlier.

## Main definitions

* `Imprint.Template.Loading.Explores`: the visits of the loop when every name may be missing.

## Main results

* `Imprint.Template.Loading.visits_iff_explores`: what the loop visits without being stopped.
* `Imprint.Template.exists_error_of_missing`: a missing template is an error when the first
  reference to it requires it.
* `Imprint.Template.yields_load_iff`: loading succeeds exactly when the first reference to each
  missing name allows it to be missing.
* `Imprint.Template.not_missing_reported`: the order of two references to one name matters.
-/

namespace Imprint.Template

open Log

variable {store : Store} {searchPath : List Path} {name main : String} {s t : List Char}
  {l l' : Loading} {next : Reference} {rest visited : List Reference}
  {order : List Reference → List Reference → Prop}

namespace Loading

/-! ### One visit -/

theorem mem_seen_visit (h : l.visit store searchPath main next rest = .ok l') {n : String} :
    n ∈ l'.seen ↔ n = next.name ∨ n ∈ l.seen := by
  rcases visit_cases h with ⟨hseen, rfl⟩ | ⟨-, -, -, rfl⟩ | ⟨t, -, -, rfl⟩
  · constructor
    · exact .inr
    · rintro (rfl | hn)
      · exact hseen
      · exact hn
  · exact List.mem_cons
  · exact List.mem_cons

/-- A visit that succeeds also succeeds when the name may be missing. -/
theorem visit_allowing (h : l.visit store searchPath main next rest = .ok l') :
    l.visit store searchPath main { next with optional := true } rest = .ok l' := by
  rcases visit_cases h with ⟨hseen, rfl⟩ | ⟨hseen, hnone, -, rfl⟩ | ⟨t, hseen, ht, rfl⟩
  · simp [visit, hseen]
  · simp [visit, hseen, hnone]
  · simp [visit, hseen, ht]

/-- A visit is refused only where a name is required, has not been seen and is missing. -/
theorem visit_requiring
    (h : l.visit store searchPath main { next with optional := true } rest = .ok l')
    (hnext : next.name ∉ l.seen → locate store searchPath next.name = none →
      next.optional = true) :
    l.visit store searchPath main next rest = .ok l' := by
  rcases visit_cases h with ⟨hseen, rfl⟩ | ⟨hseen, hnone, -, rfl⟩ | ⟨t, hseen, ht, rfl⟩
  · simp only at hseen
    simp [visit, hseen]
  · simp only at hseen hnone
    simp [visit, hseen, hnone, hnext hseen (fetch_eq_none_iff.1 hnone)]
  · simp only at hseen ht
    simp [visit, hseen, ht]

/-- The visit of a name that was not seen and is missing succeeds only when it may be missing. -/
theorem optional_of_visit (h : l.visit store searchPath main next rest = .ok l')
    (hseen : next.name ∉ l.seen) (hmissing : locate store searchPath next.name = none) :
    next.optional = true := by
  rcases visit_cases h with ⟨hseen', -⟩ | ⟨-, -, hoptional, -⟩ | ⟨t, -, ht, -⟩
  · exact absurd hseen' hseen
  · exact hoptional
  · rw [fetch_of_locate_none hmissing] at ht
    cases ht

/-! ### The first reference to a name -/

/-- The visits of the loop when every name may be missing. -/
inductive Explores (store : Store) (searchPath : List Path) (main : String) :
    Loading → List Reference → Loading → Prop
  | nil (l : Loading) : Explores store searchPath main l [] l
  | cons {l l' l'' : Loading} {next : Reference} {rest visited : List Reference}
      (hnext : l.pending = next :: rest)
      (hvisit : l.visit store searchPath main { next with optional := true } rest = .ok l')
      (hexplores : Explores store searchPath main l' visited l'') :
      Explores store searchPath main l (next :: visited) l''

/-- The first visited reference to a missing name allows it to be missing. -/
theorem Visits.optional_of_first (h : l.Visits store searchPath main order visited l') {n : String}
    (hn : n ∉ l.seen) (hmissing : locate store searchPath n = none) {r : Reference}
    (hr : visited.find? (·.name == n) = some r) : r.optional = true := by
  induction h with
  | nil l => cases hr
  | @cons l l' l'' next rest visited hnext hvisit _ ih =>
    by_cases hname : next.name = n
    · obtain rfl : next = r := by simpa [hname] using hr
      exact optional_of_visit hvisit (hname ▸ hn) (hname ▸ hmissing)
    · refine ih (fun hmem => ?_) (by simpa [hname] using hr)
      rcases (mem_seen_visit hvisit).1 hmem with heq | hmem
      · exact hname heq.symm
      · exact hn hmem

/-- The loop visits what it would visit if every name could be missing, as long as the first
reference to each missing name allows that. -/
theorem visits_iff_explores :
    l.Visits store searchPath main Eq visited l' ↔ l.Explores store searchPath main visited l' ∧
      ∀ n ∉ l.seen, locate store searchPath n = none →
        ∀ r, visited.find? (·.name == n) = some r → r.optional = true := by
  constructor
  · intro h
    refine ⟨?_, fun n hn hmissing r hr => h.optional_of_first hn hmissing hr⟩
    induction h with
    | nil l => exact .nil l
    | cons hnext hvisit _ ih => exact .cons hnext (visit_allowing hvisit) ih
  · rintro ⟨h, hfirst⟩
    induction h with
    | nil l => exact .nil l
    | @cons l l' l'' next rest visited hnext hvisit _ ih =>
      have hstrict := visit_requiring hvisit fun hseen hmissing =>
        hfirst next.name hseen hmissing next (by simp)
      refine .cons hnext hstrict (ih fun n hn hmissing r hr => ?_)
      rw [mem_seen_visit hstrict, not_or] at hn
      exact hfirst n hn.2 hmissing r (by simpa [Ne.symm hn.1] using hr)

/-- Whatever was pending or is named by a text that was loaded has been visited in the end. -/
theorem Visits.mem_visited (h : l.Visits store searchPath main List.Perm visited l')
    (hpending : l'.pending = []) :
    (∀ r ∈ l.pending, r ∈ visited) ∧
      ∀ x ∈ l'.loaded, x ∈ l.loaded ∨ ∀ r ∈ references x.2, r ∈ visited := by
  induction h with
  | nil l => exact ⟨fun r hr => by simp [hpending] at hr, fun x hx => .inl hx⟩
  | @cons l l' l'' next rest visited hnext hvisit _ ih =>
    obtain ⟨hvisited, hloaded⟩ := ih hpending
    have hrest : ∀ r ∈ l.pending, r = next ∨ r ∈ rest := fun r hr =>
      List.mem_cons.1 (hnext.mem_iff.1 hr)
    rcases visit_cases hvisit with ⟨-, rfl⟩ | ⟨-, -, -, rfl⟩ | ⟨t, -, -, rfl⟩
    · exact ⟨fun r hr => List.mem_cons.2 ((hrest r hr).imp_right (hvisited r)),
        fun x hx => (hloaded x hx).imp_right fun h r hr => List.mem_cons_of_mem _ (h r hr)⟩
    · exact ⟨fun r hr => List.mem_cons.2 ((hrest r hr).imp_right (hvisited r)),
        fun x hx => (hloaded x hx).imp_right fun h r hr => List.mem_cons_of_mem _ (h r hr)⟩
    · refine ⟨fun r hr => List.mem_cons.2 ((hrest r hr).imp_right fun hr' =>
        hvisited r (List.mem_append_right _ hr')), fun x hx => ?_⟩
      rcases hloaded x hx with hx | hx
      · rcases List.mem_cons.1 hx with rfl | hx
        · exact .inr fun r hr => List.mem_cons_of_mem _
            (hvisited r (List.mem_append_left _ (List.mem_reverse.2 hr)))
        · exact .inl hx
      · exact .inr fun r hr => List.mem_cons_of_mem _ (hx r hr)

/-- All references of all needed texts have been visited in the end. -/
theorem Visits.mem_visited_of_needed
    (h : (start name t).Visits store searchPath name List.Perm visited l)
    (hpending : l.pending = []) {n : String} {u : List Char}
    (hneeded : Needed store searchPath name t n u) {r : Reference} (hr : r ∈ references u) :
    r ∈ visited := by
  obtain ⟨hstart, hloaded⟩ := h.mem_visited hpending
  rcases mem_texts.1 (((sound_start.visits h).mem_texts_iff hpending).2 hneeded) with hx | hx
  · rcases hloaded _ hx with hx | hx
    · exact absurd hx List.not_mem_nil
    · exact hx r hr
  · obtain ⟨-, rfl⟩ := Prod.mk.inj hx
    exact hstart r (List.mem_reverse.2 hr)

end Loading

/-! ### Missing templates -/

/-- The visit of a missing name fails in one way only. -/
theorem Loading.eq_notFound_of_visit {e : RenderError}
    (h : l.visit store searchPath main next rest = .error e)
    (hmissing : locate store searchPath next.name = none) :
    e = .notFound main next.name searchPath := by
  rcases visit_eq_error h with hfetch | ⟨-, -, he⟩
  · rw [fetch_of_locate_none hmissing] at hfetch
    cases hfetch
  · exact he

/-- A missing template that is required somewhere is an error, provided the first reference to its
name that is visited requires it: the template is reported, unless a visit of another name has
failed before. -/
theorem exists_error_of_missing (ht : expanded name s = .ok t) {n : String} {u : List Char}
    (hneeded : Needed store searchPath name t n u) {r : Reference} (hr : r ∈ references u)
    (hname : r.name ≠ name) (hmissing : locate store searchPath r.name = none)
    (hfirst : ∀ visited l r', (Loading.start name t).Explores store searchPath name visited l →
      visited.find? (·.name == r.name) = some r' → r'.optional = false) :
    ∃ e, Yields (compile store searchPath name s) (.error e) ∧
      (e = .notFound name r.name searchPath ∨
        ∃ visited l next rest, (Loading.start name t).Visits store searchPath name Eq visited l ∧
          l.pending = next :: rest ∧ l.visit store searchPath name next rest = .error e ∧
          ∀ r' ∈ visited ++ [next], r'.name ≠ r.name) := by
  obtain ⟨visited, l, x, hvisits, hends, hload⟩ := load_of_expanded store searchPath ht
  -- a visited reference to the name would have to require it and to allow it to be missing
  have hunvisited : ∀ r' ∈ visited, r'.name ≠ r.name := by
    intro r' hr' heq
    obtain ⟨first, hfind⟩ : ∃ first, visited.find? (·.name == r.name) = some first :=
      Option.isSome_iff_exists.1 (List.find?_isSome.2 ⟨r', hr', by simp [heq]⟩)
    have hrequired := hfirst visited l first (Loading.visits_iff_explores.1 hvisits).1 hfind
    have hallowed := hvisits.optional_of_first (n := r.name) (by simpa [Loading.start] using hname)
      hmissing hfind
    rw [hrequired] at hallowed
    cases hallowed
  cases hends with
  | done hpending =>
    exact absurd rfl (hunvisited r (hvisits.perm.mem_visited_of_needed hpending hneeded hr))
  | @failed next rest e hpending hvisit =>
    refine ⟨e, yields_compile hload, ?_⟩
    by_cases heq : next.name = r.name
    · exact .inl (heq ▸ Loading.eq_notFound_of_visit hvisit (heq.symm ▸ hmissing))
    · refine .inr ⟨visited, l, next, rest, hvisits, hpending, hvisit, fun r' hr' => ?_⟩
      rcases List.mem_append.1 hr' with hr' | hr'
      · exact hunvisited r' hr'
      · exact List.mem_singleton.1 hr' ▸ heq

/-- A text with two references to one name. The reference that is visited first, which is the last
of the text, requires it. -/
def requiredLast : List Char :=
  "\x7b% include \"nope\" ignore missing %\x7d\x7b% include \"nope\" %\x7d".toList

/-- The missing template is reported, although one of the references allows it to be missing. -/
theorem exists_error_of_missing_requiredLast :
    ⟨"nope", false⟩ ∈ references requiredLast ∧ locate {} [] "nope" = none ∧
      ∃ e, Yields (compile {} [] "m" requiredLast) (.error e) ∧
        (e = .notFound "m" "nope" [] ∨
          ∃ visited l next rest,
            (Loading.start "m" requiredLast).Visits {} [] "m" Eq visited l ∧
              l.pending = next :: rest ∧ l.visit {} [] "m" next rest = .error e ∧
              ∀ r' ∈ visited ++ [next], r'.name ≠ "nope") := by
  have hreferences : references requiredLast = [⟨"nope", true⟩, ⟨"nope", false⟩] := by
    decide +kernel
  have hmem : ⟨"nope", false⟩ ∈ references requiredLast := by simp [hreferences]
  refine ⟨hmem, rfl, exists_error_of_missing rfl .self hmem (by decide) rfl ?_⟩
  intro visited l r' hexplores hfind
  cases hexplores with
  | nil => cases hfind
  | cons hnext =>
    obtain ⟨rfl, -⟩ : _ = Reference.mk "nope" false ∧ _ := by
      simpa [Loading.start, hreferences, eq_comm] using hnext
    obtain rfl : Reference.mk "nope" false = r' := by simpa using hfind
    rfl

/-- In the other order the required template is missing and the text is compiled. -/
theorem not_missing_reported :
    ¬ ∀ (store : Store) (searchPath : List Path) (name : String) (s t : List Char),
      expanded name s = .ok t → ∀ n u, Needed store searchPath name t n u →
        ∀ r ∈ references u, r.optional = false → r.name ≠ name →
          locate store searchPath r.name = none →
            ∀ c log log', (compile store searchPath name s).run.run log ≠ (.ok c, log') := by
  intro h
  let s := "\x7b% include \"nope\" %\x7d\x7b% include \"nope\" ignore missing %\x7d".toList
  have hok : ((compile {} [] "m" s).run.run []).1.isOk = true := by decide +kernel
  have hreferences : references s = [⟨"nope", false⟩, ⟨"nope", true⟩] := by decide +kernel
  have herror := h {} [] "m" s s rfl "m" s .self ⟨"nope", false⟩
    (by simp [hreferences]) rfl (by decide) rfl
  rcases hrun : (compile {} [] "m" s).run.run [] with ⟨e | c, log⟩
  · rw [hrun] at hok
    cases hok
  · exact herror c [] log hrun

/-- Loading succeeds exactly when the first visited reference to each missing name allows it to be
missing and nothing else stops the visits. -/
theorem yields_load_iff (ht : expanded name s = .ok t) :
    (∃ texts, Yields (load store searchPath name s) (.ok texts)) ↔
      ∃ visited l, (Loading.start name t).Explores store searchPath name visited l ∧
        l.pending = [] ∧
        ∀ n ≠ name, locate store searchPath n = none →
          ∀ r, visited.find? (·.name == n) = some r → r.optional = true := by
  constructor
  · rintro ⟨texts, htexts⟩
    obtain ⟨visited, l, x, hvisits, hends, hload⟩ := load_of_expanded store searchPath ht
    obtain ⟨log', hrun⟩ := hload []
    have hx := htexts.eq_of_run hrun
    obtain ⟨hexplores, hfirst⟩ := Loading.visits_iff_explores.1 hvisits
    cases hends with
    | failed => cases hx
    | done hpending =>
      exact ⟨visited, l, hexplores, hpending, fun n hn =>
        hfirst n (by simpa [Loading.start] using hn)⟩
  · rintro ⟨visited, l, hexplores, hpending, hfirst⟩
    have hvisits := Loading.visits_iff_explores.2 ⟨hexplores, fun n hn =>
      hfirst n (by simpa [Loading.start] using hn)⟩
    exact ⟨_, hvisits.yields_load ht (.done hpending)⟩

end Imprint.Template
