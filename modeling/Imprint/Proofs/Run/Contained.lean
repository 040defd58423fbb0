import Imprint.Proofs.Header.Written
import Imprint.Proofs.Run.Plan

/-!
# Outputs stay in the output directory

A file name that a header declares holds neither a `..` nor the root. So the file is put below the
output directory, whatever the name is: the path has the components of the output directory and then
names. A run without a formatter changes nothing but such files, whether it ends well or stops on
the way, and makes nothing but the directories above them.

## Main definitions

* `Imprint.Store.WritesOnly`: stores that differ in files at some paths and in directories above
  them.

## Main results

* `Imprint.Path.components_join_of_isFilename`: where a declared file is put.
* `Imprint.Store.writesOnly_put`: what putting a file changes, also when it is refused.
* `Imprint.Run.multi_contained`: what a run changes.
-/

namespace Imprint

/-! ### Where a declared file is put -/

namespace Path

variable {filename : String}

theorem isAbsolute_of_ne_root (h : .root ∉ (⟨filename⟩ : Path).components) :
    (⟨filename⟩ : Path).isAbsolute = false := by
  by_contra habs
  obtain ⟨r, hr⟩ := List.head?_eq_some_iff.1 (beq_iff_eq.1 (Bool.of_not_eq_false habs))
  have hsegments : (⟨filename⟩ : Path).segments = [] :: Text.segments '/' r := by
    rw [segments, hr]
    rfl
  refine h ?_
  rw [components_eq_ofSegs, hsegments, ofSegs, ofHead_false (.inr (Text.segments_ne_nil '/' r))]
  exact List.mem_append_left _ (by simp [Component.ofHead])

/-- A declared file name is relative. -/
theorem isAbsolute_of_isFilename (h : Declared.IsFilename filename) :
    (⟨filename⟩ : Path).isAbsolute = false :=
  isAbsolute_of_ne_root fun hroot => (h.stays _ hroot).2 rfl

/-- A declared file name adds names to a directory, and perhaps a `.`. -/
theorem components_join_of_isFilename (dir : Path) (h : Declared.IsFilename filename) :
    ∃ rest, (dir.join ⟨filename⟩).components = dir.components ++ rest ∧
      (∀ c ∈ rest, c.isName = true ∨ c = .current) ∧
      ∀ n, .name n ∈ (⟨filename⟩ : Path).components → .name n ∈ rest := by
  obtain ⟨rest, hjoin, hrest⟩ :=
    components_join_of_not_isAbsolute (p := dir) (isAbsolute_of_isFilename h)
  have hsub : rest ⊆ (⟨filename⟩ : Path).components := by
    rcases hrest with rfl | rfl
    · exact List.Subset.refl _
    · exact List.filter_subset_self _
  refine ⟨rest, hjoin, fun c hc => ?_, fun n hn => ?_⟩
  · obtain ⟨hup, hroot⟩ := h.stays c (hsub hc)
    cases c with
    | root => exact absurd rfl hroot
    | parent => exact absurd rfl hup
    | current => exact .inr rfl
    | name n => exact .inl rfl
  · rcases hrest with rfl | rfl
    · exact hn
    · exact List.mem_filter.2 ⟨hn, by simp⟩

end Path

namespace Store

open Imprint.Path

variable {s t u : Store} {p : Path} {ps qs : List Path} {l : Location} {dir : Path}
  {filename : String}

/-- The last name of a file in a directory is the file name that was joined. -/
theorem Denotes.exists_fileName? (h : s.Denotes (dir.join ⟨filename⟩) l)
    (hrelative : (⟨filename⟩ : Path).isAbsolute = false) :
    ∃ n, (⟨filename⟩ : Path).fileName? = some n := by
  obtain ⟨m, n, init, -, hn, hsegments⟩ := h.segments
  obtain ⟨front, hjoin, -⟩ := segments_join_of_not_isAbsolute (p := dir) hrelative
  obtain ⟨init', x, hlast⟩ :=
    (List.eq_nil_or_concat' (⟨filename⟩ : Path).segments).resolve_left (segments_ne_nil _)
  rw [hsegments, hlast, ← List.append_assoc] at hjoin
  obtain rfl := List.singleton_inj.1 (List.append_inj' hjoin rfl).2
  exact ⟨n, fileName?_of_segments hn hlast⟩

/-- A declared file lies below the output directory. -/
theorem Denotes.below (h : s.Denotes (dir.join ⟨filename⟩) l)
    (hfilename : Declared.IsFilename filename) :
    s.locate dir <+: l ∧ s.locate dir ≠ l := by
  obtain ⟨rest, hjoin, hrest, hnames⟩ := components_join_of_isFilename dir hfilename
  have hup : .parent ∉ rest := fun hmem => by simpa [Component.isName] using hrest _ hmem
  have hroot : .root ∉ rest := fun hmem => by simpa [Component.isName] using hrest _ hmem
  have hl : rest.foldl Component.follow (s.locate dir) = l := by
    rw [← locate_of_denotes h, locate, locate, location, location, hjoin, List.foldl_append]
  refine ⟨hl ▸ isPrefix_foldl_follow hup hroot _, ?_⟩
  -- the file name leads down at least once
  obtain ⟨n, hn⟩ := h.exists_fileName? (isAbsolute_of_isFilename hfilename)
  obtain ⟨q, -, hq⟩ := parent?_of_fileName? hn
  have hpos : 0 < rest.countP Component.isName :=
    List.countP_pos_iff.2 ⟨.name n, hnames n (by simp [hq]), rfl⟩
  have hlength := length_foldl_follow hup hroot (s.locate dir)
  rintro heq
  rw [hl, ← heq] at hlength
  omega

/-! ### What is written -/

/-- All that is different in the second store are files at paths in the list, and directories where
nothing stood that such paths need. -/
structure WritesOnly (ps : List Path) (s t : Store) : Prop where
  changed : ∀ l, t.get? l ≠ s.get? l → ∃ p ∈ ps, (t.Denotes p l ∧ ∃ c, t.get? l = some (.file c)) ∨
    s.get? l = none ∧ t.get? l = some .directory ∧
      ∃ q : Path, q.components <+: p.components ∧ s.locate q = l
  keepsDirectories : s.KeepsDirectories t

theorem WritesOnly.refl (ps : List Path) (s : Store) : WritesOnly ps s s :=
  ⟨fun _ h => absurd rfl h, .refl s⟩

theorem WritesOnly.mono (h : WritesOnly ps s t) (hsub : ps ⊆ qs) : WritesOnly qs s t :=
  ⟨fun l hl => (h.changed l hl).imp fun _ hp => ⟨hsub hp.1, hp.2⟩, h.keepsDirectories⟩

theorem WritesOnly.trans (h : WritesOnly ps s t) (h' : WritesOnly ps t u) :
    WritesOnly ps s u := by
  refine ⟨fun l hl => ?_, h.keepsDirectories.trans h'.keepsDirectories⟩
  by_cases hu : u.get? l = t.get? l
  · rw [hu] at hl ⊢
    obtain ⟨p, hp, ⟨hdenotes, hfile⟩ | hmade⟩ := h.changed l hl
    · exact ⟨p, hp, .inl ⟨hdenotes.mono h'.keepsDirectories, hfile⟩⟩
    · exact ⟨p, hp, .inr hmade⟩
  · obtain ⟨p, hp, hfile | ⟨hnone, hmade⟩⟩ := h'.changed l hu
    · exact ⟨p, hp, .inl hfile⟩
    · simp only [← locate_eq_of_site h.keepsDirectories.site] at hmade
      -- nothing stood there before either, since what was changed is a file or a directory
      refine ⟨p, hp, .inr ⟨?_, hmade⟩⟩
      by_contra hs
      obtain ⟨p', -, ⟨-, c, hc⟩ | ⟨-, hd, -⟩⟩ := h.changed l (by rwa [hnone, ne_comm])
      · rw [hnone] at hc
        cases hc
      · rw [hnone] at hd
        cases hd

theorem writesOnly_parents (s : Store) (p : Path) : WritesOnly [p] s (s.parents p).2 := by
  refine ⟨fun l hl => ?_, (addsDirectories_parents s p).keepsDirectories⟩
  cases hparent : p.parent? with
  | none =>
    simp only [parents, hparent] at hl
    exact absurd rfl hl
  | some q =>
    obtain ⟨hnone, hmade, r, hr, hrl⟩ := ((madeAt_parents hparent s).made l).resolve_left hl
    have hrq : r.components <+: q.components := by
      rcases List.mem_cons.1 hr with rfl | hr
      · exact List.prefix_rfl
      · exact components_of_mem_pathsAbove hr
    obtain ⟨c, hc⟩ := components_of_parent? hparent
    exact ⟨p, List.mem_singleton_self p,
      .inr ⟨hnone, hmade, r, hrq.trans ⟨[c], hc.symm⟩, hrl⟩⟩

/-- A write changes its file, also when it is cut short. -/
theorem writesOnly_write (s : Store) (p : Path) (c : ByteArray) :
    WritesOnly [p] s (s.write p c).2 := by
  have hdirs := (sameDirectories_write s p c).keepsDirectories
  refine ⟨fun l hl => ?_, hdirs⟩
  rcases write_cases (Prod.eta (s.write p c)).symm with ⟨e, -, ht⟩ | ⟨k, b, hk, hd, -, ht⟩
  · rw [ht] at hl
    exact absurd rfl hl
  · have hk' := hk.mono hdirs
    rw [ht, get?_insert _ _ _ _ (not_isFixed hd)] at hl ⊢
    by_cases hlk : l = k
    · subst hlk
      exact ⟨p, List.mem_singleton_self p, .inl ⟨ht ▸ hk', b, if_pos rfl⟩⟩
    · rw [if_neg hlk] at hl
      exact absurd rfl hl

/-- What putting a file changes, also when it is refused. -/
theorem writesOnly_put (s : Store) (p : Path) (c : ByteArray) :
    WritesOnly [p] s (s.put p c).2 := by
  have hparents := writesOnly_parents s p
  rcases hp : s.parents p with ⟨e | ⟨⟩, t⟩
  · rw [hp] at hparents
    simpa only [put, hp] using hparents
  · rw [hp] at hparents
    have hwrite := writesOnly_write t p c
    simp only [put, hp]
    rcases hw : t.write p c with ⟨_ | fault, u⟩ <;> rw [hw] at hwrite <;>
      exact hparents.trans hwrite

end Store

/-- What a header declares are file names. -/
theorem Source.isFilename_of_directives {source : Source} {ds : List Directive} {d : Directive}
    (h : source.directives = .ok ds) (hd : d ∈ ds) : Declared.IsFilename d.filename := by
  obtain ⟨number, line, hline, hdeclares⟩ := exists_line_of_directives h hd
  have hlines : line ∈ source.lines := (List.takeWhile_prefix _).subset hline
  exact (isFilename_of_ofLine (Text.notMem_of_mem_lines hlines) hdeclares).1

namespace Run

open Session Store

variable {programs : Formatting.Programs} {around : Nat → Template.Surroundings} {r : Request}
  {config : Config} {dir : Path} {s : Store} {σ τ : Session} {l : Location}

/-! ### What a run changes -/

/-- The file of a directive and the directories above it are all that is written for it. -/
theorem writesOnly_target (programs : Formatting.Programs)
    (around : Nat → Template.Surroundings) (dir : Path)
    (hf : config.formatter.enabled = false) (compiled : Template.Compiled) (d : Directive)
    (s : Store) :
    WritesOnly [dir.join ⟨d.filename⟩] s (target programs around config compiled dir d s).2 := by
  cases htext : textFor config compiled around d with
  | error e =>
    rw [target_of_textFor_error _ htext]
    exact .refl _ s
  | ok text =>
    have hput := writesOnly_put s (dir.join ⟨d.filename⟩) (String.ofList text).toUTF8
    rcases hp : s.put (dir.join ⟨d.filename⟩) (String.ofList text).toUTF8 with ⟨e | ⟨⟩, t⟩
    · rw [hp] at hput
      rwa [target_of_put_error _ htext hp]
    · rw [hp] at hput
      rwa [target_of_put_ok _ htext hp, Formatting.inPlace_of_disabled _ hf]

/-- All that is written for directives are their files and the directories above them, wherever it
stops. -/
theorem writesOnly_targets (programs : Formatting.Programs)
    (around : Nat → Template.Surroundings) (dir : Path)
    (hf : config.formatter.enabled = false) (compiled : Template.Compiled) (ds : List Directive)
    (s : Store) :
    WritesOnly (ds.map fun d => dir.join ⟨d.filename⟩) s
      (targets programs around config compiled dir ds s).2 := by
  induction ds generalizing s with
  | nil => exact .refl _ s
  | cons d ds ih =>
    have hd : WritesOnly ((d :: ds).map fun d => dir.join ⟨d.filename⟩) s
        (target programs around config compiled dir d s).2 :=
      (writesOnly_target programs around dir hf compiled d s).mono (by simp)
    rcases ht : target programs around config compiled dir d s with ⟨e | o, t⟩
    · rw [ht] at hd
      rwa [targets_cons_error _ _ _ _ _ ht]
    · rw [ht] at hd
      rw [targets_cons_ok _ _ _ _ _ ht]
      exact hd.trans ((ih t).mono (by simp))

/-- A run with one file for each directive and without a formatter stays in the output directory,
whether it ends well or not. Whatever it changes is the file of a directive, at a path that has the
components of the output directory and then only names, and perhaps a `.`, and whose location lies
below the output directory; or it is a directory that is made above such a path. -/
theorem multi_contained {result : Except RunError Report} (hmode : r.mode = .multi dir)
    (hf : r.config.formatter.enabled = false)
    (hrun : (run programs around r).run.run σ = (result, τ)) (l : Location)
    (hl : τ.store.get? l ≠ σ.store.get? l) :
    ∃ text ds d, σ.store.readText r.template = .ok text ∧
      (⟨r.template, text, r.config.markerOrStandard⟩ : Source).directives = .ok ds ∧ d ∈ ds ∧
      let path := dir.join ⟨d.filename⟩
      (∃ rest, path.components = dir.components ++ rest ∧
        ∀ c ∈ rest, c.isName = true ∨ c = .current) ∧
      ((τ.store.Denotes path l ∧ (∃ c, τ.store.get? l = some (.file c)) ∧
          σ.store.locate dir <+: l ∧ σ.store.locate dir ≠ l) ∨
        σ.store.get? l = none ∧ τ.store.get? l = some .directory ∧
          ∃ q : Path, q.components <+: path.components ∧ σ.store.locate q = l) := by
  cases hplan : multiPlan r σ.store with
  | error e =>
    obtain ⟨-, hstore⟩ := (gives_run_multi_error programs around hmode hplan).eq_of_run hrun
    rw [hstore] at hl
    exact absurd rfl hl
  | ok plan =>
    obtain ⟨ds, compiled⟩ := plan
    obtain ⟨-, hstore⟩ := (gives_run_multi programs around hmode hplan).eq_of_run hrun
    obtain ⟨text, events, htext, hds, -⟩ := multiPlan_eq_ok hplan
    have hwrites := writesOnly_targets programs around dir hf compiled ds σ.store
    rw [hstore] at hwrites
    obtain ⟨_, hpath, hchange⟩ := hwrites.changed l hl
    obtain ⟨d, hd, rfl⟩ := List.mem_map.1 hpath
    have hfilename := Source.isFilename_of_directives hds hd
    obtain ⟨rest, hjoin, hrest, -⟩ := Path.components_join_of_isFilename dir hfilename
    refine ⟨text, ds, d, htext, hds, hd, ⟨rest, hjoin, hrest⟩, hchange.imp_left ?_⟩
    rintro ⟨hdenotes, hfile⟩
    rw [locate_eq_of_site hwrites.keepsDirectories.site]
    exact ⟨hdenotes, hfile, hdenotes.below hfilename⟩

/-- A template whose header names files in unusual ways, and in the end one that is a directory. -/
def unusualStore : Store where
  entries := [(["srv", "work", "t.mako"],
    .file "## .//x/./y.txt v=1;\n## .../z. v=2;\n## sub/ v=3;\n$\x7bv\x7d\n".toUTF8)]
  site := { cwd := ["srv", "work"] }

/-- A request for the files of that header in a directory beside the working directory, without a
formatter. -/
def unusualRequest : Request where
  template := ⟨"/srv/work/t.mako"⟩
  mode := .multi ⟨"../out/"⟩
  config := { formatter := { enabled := false } }

/-- The run stops at the directory, and the first file has been put below the output directory. -/
theorem multi_contained_unusual :
    ∃ e τ, (run Formatting.noPrograms (fun _ => {}) unusualRequest).run.run ⟨unusualStore, []⟩ =
        (.error e, τ) ∧
      τ.store.get? ["srv", "out", "x", "y.txt"] = some (.file "1".toUTF8) ∧
      ∃ d : Directive, ∃ rest,
        (Path.join ⟨"../out/"⟩ ⟨d.filename⟩).components = [.parent, .name "out"] ++ rest ∧
        (∀ c ∈ rest, c.isName = true ∨ c = .current) ∧
        τ.store.Denotes (Path.join ⟨"../out/"⟩ ⟨d.filename⟩) ["srv", "out", "x", "y.txt"] ∧
        unusualStore.locate ⟨"../out/"⟩ <+: ["srv", "out", "x", "y.txt"] := by
  have hfails : ((run Formatting.noPrograms (fun _ => {}) unusualRequest).run.run
      ⟨unusualStore, []⟩).1.toOption.isNone = true := by decide +kernel
  have hfile : ((run Formatting.noPrograms (fun _ => {}) unusualRequest).run.run
      ⟨unusualStore, []⟩).2.store.get? ["srv", "out", "x", "y.txt"] = some (.file "1".toUTF8) := by
    decide +kernel
  rcases hrun : (run Formatting.noPrograms (fun _ => {}) unusualRequest).run.run
      ⟨unusualStore, []⟩ with ⟨e | report, τ⟩
  · rw [hrun] at hfile
    have hnone : unusualStore.get? ["srv", "out", "x", "y.txt"] = none := by decide +kernel
    obtain ⟨-, -, d, -, -, -, ⟨rest, hjoin, hrest⟩, ⟨hdenotes, -, hbelow, -⟩ | ⟨-, hmade, -⟩⟩ :=
      multi_contained (r := unusualRequest) rfl rfl hrun ["srv", "out", "x", "y.txt"]
        (by rw [hfile, hnone]; simp)
    · exact ⟨e, τ, rfl, hfile, d, rest, hjoin, hrest, hdenotes, hbelow⟩
    · rw [hfile] at hmade
      cases hmade
  · rw [hrun] at hfails
    cases hfails

end Run

end Imprint
