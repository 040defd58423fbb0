import Imprint.Proofs.Header.Grammar
import Imprint.Proofs.Output.Abreast
import Imprint.Proofs.Run.Single
import Imprint.Proofs.Template.Sought

/-!
# Directives that a single file ignores

A run with a single file reads the directives of its template only to see whether they are
well-formed. So two texts that have the same lines besides their directives, whatever these are,
give the same plan, and the two runs go abreast: they report the same, and change the store alike.

No name that is looked for may be located at the template itself. What is included is read whole,
so a text that included itself by another path would show its directives.

## Main definitions

* `Imprint.Source.SameBesideDirectives`: sources that differ in their directives only.
* `Imprint.Store.DifferAt`: stores that hold two texts at one location.
* `Imprint.Run.Misses`: a template that looks for no file at a location.

## Main results

* `Imprint.Source.keptLines_eq_iff`: where such sources can differ.
* `Imprint.Run.ignorable_eq_ok_iff`: which headers are ignored.
* `Imprint.Run.singlePlan_of_sameBesideDirectives`: the plan is the same.
* `Imprint.Run.single_of_sameBesideDirectives`: so is what the run reports and changes.
-/

namespace Imprint

/-! ### Sources that differ in their directives -/

namespace Source

variable {s s' : Source}

/-- Every header line that the marker opens declares an output. -/
def IsWellFormed (s : Source) : Prop :=
  ∀ x ∈ s.markedLines, ∃ filename vars, s.marker.Declares x.2 filename vars

/-- Two sources at one path that have the same lines besides their directives, all of which are
well-formed. -/
structure SameBesideDirectives (s s' : Source) : Prop where
  path : s'.path = s.path
  marker : s'.marker = s.marker
  kept : s'.keptLines = s.keptLines
  wellFormed : s.IsWellFormed
  wellFormed' : s'.IsWellFormed

/-- The comments of the header are the comments with which the kept lines begin. -/
theorem takeWhile_keptLines (s : Source) :
    s.keptLines.takeWhile isCommentLine = s.header.filter isCommentLine := by
  have hafter : s.afterHeader.takeWhile isCommentLine = [] := by
    have hhead := List.head?_dropWhile_not s.marker.isHeaderLine s.lines
    rw [← afterHeader] at hhead
    cases hlines : s.afterHeader with
    | nil => rfl
    | cons line rest =>
      rw [hlines] at hhead
      have hline : isCommentLine line = false := (Bool.or_eq_false_iff.1 hhead).1
      simp [hline]
  rw [keptLines_eq, List.takeWhile_append_of_pos fun line hline => (List.mem_filter.1 hline).2,
    hafter, List.append_nil]

/-- The same lines are kept when the headers have the same comments in the same order, and the same
lines follow the headers. -/
theorem keptLines_eq_iff : s'.keptLines = s.keptLines ↔
    s'.header.filter isCommentLine = s.header.filter isCommentLine ∧
      s'.afterHeader = s.afterHeader := by
  constructor
  · intro h
    have hcomments : s'.header.filter isCommentLine = s.header.filter isCommentLine := by
      rw [← takeWhile_keptLines, h, takeWhile_keptLines]
    rw [keptLines_eq, keptLines_eq, hcomments] at h
    exact ⟨hcomments, List.append_cancel_left h⟩
  · rintro ⟨hcomments, hafter⟩
    rw [keptLines_eq, keptLines_eq, hcomments, hafter]

theorem SameBesideDirectives.body_eq (h : SameBesideDirectives s s')
    (hm : s.marker.chars ≠ commentOpening) : s'.body = s.body := by
  have hm' : s'.marker.chars ≠ commentOpening := h.marker ▸ hm
  rw [body, body, bodyLines_eq_keptLines fun _ _ => Marker.not_isCommentLine_of_opensLine hm,
    bodyLines_eq_keptLines fun _ _ => Marker.not_isCommentLine_of_opensLine hm', h.kept]

end Source

/-! ### Stores that hold two texts -/

namespace Store

variable {s s' : Store} {l : Location} {text text' : String}

/-- Two stores that hold two texts at a location and are otherwise the same. -/
structure DifferAt (l : Location) (text text' : String) (s s' : Store) : Prop where
  site : s.site = s'.site
  before : s.get? l = some (.file text.toUTF8)
  after : s'.get? l = some (.file text'.toUTF8)
  elsewhere : ∀ k ≠ l, s'.get? k = s.get? k

theorem DifferAt.sameKinds (h : DifferAt l text text' s s') : SameKinds s s' := by
  refine ⟨h.site, fun k => ?_⟩
  by_cases hk : k = l
  · rw [hk, h.before, h.after]
    rfl
  · rw [h.elsewhere k hk]

theorem readText_of_denotes {p : Path} (hp : s.Denotes p l)
    (hl : s.get? l = some (.file text.toUTF8)) : s.readText p = .ok text := by
  refine readText_eq_ok_iff.2 ⟨_, ⟨l, hp, hl⟩, ?_⟩
  simp [String.fromUTF8?, String.fromUTF8, text.isValidUTF8]

/-- A name that is not located at the place stands for the same text. -/
theorem DifferAt.fetch_eq {searchPath : List Path} {n : String} (h : DifferAt l text text' s s')
    (hn : ∀ p, Template.locate s searchPath n = some p → ¬ s.Denotes p l) :
    Template.fetch s' searchPath n = Template.fetch s searchPath n := by
  have hlocate : Template.locate s' searchPath n = Template.locate s searchPath n :=
    List.find?_congr fun p _ => h.sameKinds.isFile.symm
  simp only [Template.fetch, hlocate]
  cases hfound : Template.locate s searchPath n with
  | none => rfl
  | some p =>
    obtain ⟨-, dir, -, -, rfl, hfile, -⟩ := Template.locate_eq_some_iff.1 hfound
    obtain ⟨c, k, hk, hc⟩ := isFile_iff.1 hfile
    have hne : k ≠ l := fun heq => hn _ hfound (heq ▸ hk)
    have hread : s.read (dir.join ⟨n⟩) = .ok c := read_eq_ok_iff.2 ⟨k, hk, hc⟩
    have hread' : s'.read (dir.join ⟨n⟩) = .ok c :=
      read_eq_ok_iff.2 ⟨k, h.sameKinds.denotes_iff.1 hk, (h.elsewhere k hne).trans hc⟩
    simp only [readText, hread, hread']

end Store

/-! ### The plans of the two runs -/

namespace Run

open Session

variable {programs : Formatting.Programs} {around : Nat → Template.Surroundings} {r : Request}
  {given : Option String} {outputDir : Option Path} {source source' : Source} {s s' : Store}
  {l : Location} {text text' : String}

/-- A header is ignored when its directives are well-formed. -/
theorem ignorable_eq_ok_iff (hm : source.marker.chars ≠ commentOpening) :
    ignorable source = .ok () ↔ source.IsWellFormed := by
  simp only [ignorable]
  cases hds : source.directives with
  | ok ds =>
    have hdeclared := ((Source.directives_eq_ok_iff hm).1 hds).2
    exact iff_of_true rfl (Source.exists_declares_of_forall₂ hdeclared)
  | error e =>
    cases e with
    | empty path =>
      have hnone := ((Source.directives_eq_empty_iff hm).1 hds).1
      exact iff_of_true rfl fun x hx => by simp [hnone] at hx
    | malformed n content flaw =>
      refine iff_of_false (by simp) fun h => ?_
      obtain ⟨before, line, after, hlines, -, hrefuses, -⟩ :=
        (Source.directives_eq_malformed_iff hm).1 hds
      obtain ⟨filename, vars, hdeclares⟩ := h (n, line) (by simp [hlines])
      -- one line cannot be both read and refused
      cases (hdeclares.ofLine_eq hm n).symm.trans (hrefuses.ofLine_eq hm hdeclares.opensLine n)

/-- The source of a request whose template has a text. -/
def sourceOf (r : Request) (text : String) : Source :=
  ⟨r.template, text, r.config.markerOrStandard⟩

theorem readSource_of_denotes (hp : s.Denotes r.template l)
    (hl : s.get? l = some (.file text.toUTF8)) : readSource r s = .ok (sourceOf r text) :=
  readSource_eq_ok.2 ⟨text, Store.readText_of_denotes hp hl, rfl⟩

/-- A template that looks for no file at a location: no name that it, or a template that it needs,
refers to is located there. -/
def Misses (r : Request) (source : Source) (s : Store) (l : Location) : Prop :=
  ∀ main, Template.expanded source.name source.body = .ok main →
    ∀ n, Template.Sought s (r.searchPath source) source.name main n →
      ∀ p, Template.locate s (r.searchPath source) n = some p → ¬ s.Denotes p l

/-- Sources that differ in their directives only are compiled alike. -/
theorem compiledFrom_of_sameBesideDirectives (h : source.SameBesideDirectives source')
    (hm : source.marker.chars ≠ commentOpening) (hstores : s.DifferAt l text text' s')
    (hmisses : Misses r source s l) : compiledFrom r source' s' = compiledFrom r source s := by
  have hname : source'.name = source.name := by rw [Source.name, Source.name, h.path]
  have hsearch : r.searchPath source' = r.searchPath source := by
    simp only [Request.searchPath, Source.directory, h.path]
  have htexts : ∀ main, Template.expanded source.name source.body = .ok main →
      Template.SameTexts s s' (r.searchPath source) source.name main :=
    fun main hmain n hn => hstores.fetch_eq (hmisses main hmain n hn)
  rw [compiledFrom, compiledFrom, Template.compileSource, Template.compileSource, hname, hsearch,
    h.body_eq hm, Template.compile_of_sameTexts htexts [] []]

/-- A run with a single file has the same plan for both texts. -/
theorem singlePlan_of_sameBesideDirectives
    (hm : r.config.markerOrStandard.chars ≠ commentOpening) (hl : s.Denotes r.template l)
    (hstores : s.DifferAt l text text' s')
    (hsources : (sourceOf r text).SameBesideDirectives (sourceOf r text'))
    (hmisses : Misses r (sourceOf r text) s l) :
    singlePlan around r given outputDir s' = singlePlan around r given outputDir s := by
  have hl' : s'.Denotes r.template l := hstores.sameKinds.denotes_iff.1 hl
  have hcompiled := compiledFrom_of_sameBesideDirectives hsources hm hstores hmisses
  have hignored : ignorable (sourceOf r text) = .ok () :=
    (ignorable_eq_ok_iff hm).2 hsources.wellFormed
  have hignored' : ignorable (sourceOf r text') = .ok () :=
    (ignorable_eq_ok_iff hm).2 hsources.wellFormed'
  simp only [singlePlan, readSource_of_denotes hl hstores.before,
    readSource_of_denotes hl' hstores.after, bind, Except.bind, hignored, hignored', hcompiled]

/-! ### The two runs -/

/-- Entries for a file of the same size are the same. -/
theorem entryFor_congr {ε : Type} {failed : ε → RunError} {final : Path} {content : List Char}
    {t t' : Store} {outcome : Except ε Formatting.Status}
    (h : ∀ status, outcome = .ok status → t'.size final = t.size final) :
    entryFor failed final content t' outcome = entryFor failed final content t outcome := by
  cases outcome with
  | error e => rfl
  | ok status => simp only [entryFor, entryOf, h status rfl]

/-- Without a formatter, runs with a single file for two texts that differ in their directives only
report the same and change the store alike, whatever surrounds both of them. -/
theorem single_of_sameBesideDirectives {σ σ' τ τ' : Session}
    {result result' : Except RunError Report}
    (hmode : r.mode = .single given outputDir) (hf : r.config.formatter.enabled = false)
    (hm : r.config.markerOrStandard.chars ≠ commentOpening)
    (hl : σ.store.Denotes r.template l) (hstores : σ.store.DifferAt l text text' σ'.store)
    (hsources : (sourceOf r text).SameBesideDirectives (sourceOf r text'))
    (hmisses : Misses r (sourceOf r text) σ.store l)
    (hrun : (run programs around r).run.run σ = (result, τ))
    (hrun' : (run programs around r).run.run σ' = (result', τ')) :
    result' = result ∧ Store.SameChanges σ.store σ'.store τ.store τ'.store := by
  have hplans : singlePlan around r given outputDir σ'.store =
      singlePlan around r given outputDir σ.store :=
    singlePlan_of_sameBesideDirectives hm hl hstores hsources hmisses
  cases hplan : singlePlan around r given outputDir σ.store with
  | error e =>
    obtain ⟨hresult, hstore⟩ := (gives_run_single_error programs around hmode hplan).eq_of_run hrun
    obtain ⟨hresult', hstore'⟩ :=
      (gives_run_single_error programs around hmode (hplans.trans hplan)).eq_of_run hrun'
    rw [← hstore, ← hstore']
    exact ⟨hresult'.symm.trans hresult, hstores.sameKinds.related.changes⟩
  | ok plan =>
    obtain ⟨final, content⟩ := plan
    let w := stagedFor r final content
    obtain ⟨outcome, t, hends⟩ := Output.Staged.exists_ends programs w .parents σ.store
    obtain ⟨outcome', t', hends'⟩ := Output.Staged.exists_ends programs w .parents σ'.store
    obtain ⟨rfl, hchanges, hsize⟩ := Output.Staged.Ends.abreast hf hstores.sameKinds hends hends'
    obtain ⟨hresult, rfl⟩ := (gives_run_single programs around hmode hplan hends).eq_of_run hrun
    obtain ⟨hresult', rfl⟩ :=
      (gives_run_single programs around hmode (hplans.trans hplan) hends').eq_of_run hrun'
    have hentry : entryFor ofFailure final content τ'.store outcome' =
        entryFor ofFailure final content τ.store outcome' := entryFor_congr hsize
    refine ⟨?_, hchanges⟩
    rw [← hresult, ← hresult', hentry]

/-- A template with a directive, a comment and a reference to a part. -/
def directedText : String :=
  "## a.txt v=1;\n/* c */\n\x7b% include 'part' %\x7dhi\n"

/-- The same template with two directives in other places, the first in a new form. -/
def redirectedText : String :=
  "/* c */\n## sub/b.txt w=2;\n##  a.txt v=1;u=3;\n\x7b% include 'part' %\x7dhi\n"

/-- A template with a text, and the part. -/
def partedStore (text : String) : Store where
  entries := [(["srv", "t.mako.txt"], .file text.toUTF8), (["srv"], .directory),
    (["srv", "part"], .file "x".toUTF8)]
  site := { cwd := ["home"] }

/-- A request for a single file from that template, without a formatter. -/
def partedRequest : Request :=
  { singleRequest with template := ⟨"/srv/t.mako.txt"⟩ }

/-- The body of both templates. -/
def partedBody : List Char :=
  "/* c */\n\x7b% include 'part' %\x7dhi".toList

theorem partedStore_differAt : (partedStore directedText).DifferAt ["srv", "t.mako.txt"]
    directedText redirectedText (partedStore redirectedText) where
  site := rfl
  before := rfl
  after := rfl
  elsewhere k hk := by
    simp only [partedStore, Store.get?, Store.IsFixed, List.lookup_cons, beq_false_of_ne hk]

theorem sameBesideDirectives_redirected : (sourceOf partedRequest directedText).SameBesideDirectives
    (sourceOf partedRequest redirectedText) where
  path := rfl
  marker := rfl
  kept := by decide +kernel
  wellFormed := (ignorable_eq_ok_iff (by decide)).1 (eq_ok_of_toOption (by decide +kernel))
  wellFormed' := (ignorable_eq_ok_iff (by decide)).1 (eq_ok_of_toOption (by decide +kernel))

theorem misses_parted : Misses partedRequest (sourceOf partedRequest directedText)
    (partedStore directedText) ["srv", "t.mako.txt"] := by
  intro main hmain n hn p hp hdenotes
  obtain rfl : partedBody = main :=
    Except.ok.inj ((eq_ok_of_toOption (by decide +kernel)).symm.trans hmain)
  have hreferences : Template.references partedBody = [⟨"part", false⟩] := by decide +kernel
  obtain rfl : n = "part" := hn.name_eq hreferences (by decide)
    (eq_ok_of_toOption (a := some ['x']) (by decide +kernel)) (by decide +kernel)
  obtain rfl : ⟨"/srv/part"⟩ = p := by
    have hlocate : Template.locate (partedStore directedText) [⟨"/srv"⟩] "part" =
        some ⟨"/srv/part"⟩ := by decide +kernel
    exact Option.some.inj (hlocate.symm.trans hp)
  exact absurd (Store.locate_of_denotes hdenotes) (by decide +kernel)

/-- What both runs report. -/
def partedReport : Report :=
  ⟨⟨"/srv/t.mako.txt"⟩, false, [⟨⟨"/srv/t.txt"⟩, "/* c */\nxhi".toList, 11, .skipped .disabled⟩]⟩

/-- Both runs include the part and write the same file. -/
theorem single_of_sameBesideDirectives_parted :
    ∃ τ τ',
      (run Formatting.noPrograms (fun _ => {}) partedRequest).run.run
        ⟨partedStore directedText, []⟩ = (.ok partedReport, τ) ∧
      (run Formatting.noPrograms (fun _ => {}) partedRequest).run.run
        ⟨partedStore redirectedText, []⟩ = (.ok partedReport, τ') ∧
      Store.SameChanges (partedStore directedText) (partedStore redirectedText) τ.store
        τ'.store := by
  have hdenotes : (partedStore directedText).Denotes ⟨"/srv/t.mako.txt"⟩ ["srv", "t.mako.txt"] :=
    ⟨["srv"], "t.mako.txt", by decide +kernel, rfl⟩
  have hrun : (run Formatting.noPrograms (fun _ => {}) partedRequest).run.run
      ⟨partedStore directedText, []⟩ = (.ok partedReport, _) :=
    eq_pair_of_toOption (by decide +kernel)
  rcases hrun' : (run Formatting.noPrograms (fun _ => {}) partedRequest).run.run
    ⟨partedStore redirectedText, []⟩ with ⟨result', τ'⟩
  obtain ⟨rfl, hchanges⟩ := single_of_sameBesideDirectives (r := partedRequest) rfl rfl (by decide)
    hdenotes partedStore_differAt sameBesideDirectives_redirected misses_parted hrun hrun'
  exact ⟨_, τ', hrun, rfl, hchanges⟩

end Run

end Imprint
