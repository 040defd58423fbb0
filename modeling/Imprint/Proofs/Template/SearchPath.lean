import Imprint.Proofs.Template.Sought

/-!
# Search paths for the same files

The directories of a search path count only for the files that they have under the names that a
template comes to through references. A template that is compiled with one search path is the same
template with any other in which these names stand for files of the same content, or for none. So
directories may be added at the end when every name was found before, and anywhere when they have no
file under any of these names.

## Main definitions

* `Imprint.Template.Reached`: the names that the template of a text comes to.
* `Imprint.Template.SameFile`: search paths in which a name stands for the same content.
* `Imprint.Template.Widened`: a search path with directories added that have none of the names.

## Main results

* `Imprint.Template.fetch_of_compile`: no name that is come to is refused in a compiled template.
* `Imprint.Template.locate_of_widened`: directories without a name leave it where it is.
* `Imprint.Template.compile_eq_ok_of_sameFile`: which search paths give the same template.
-/

namespace Imprint.Template

open Log

variable {store : Store} {searchPath searchPath' extra : List Path} {name n : String}
  {s t : List Char}

/-- The names that the template of a text comes to through references, apart from its own. -/
def Reached (store : Store) (searchPath : List Path) (name : String) (s : List Char) (n : String) :
    Prop :=
  ∃ t, expanded name s = .ok t ∧ Sought store searchPath name t n

/-- Two search paths have no file with a name, or the first file of the one has the content that the
first file of the other has. -/
def SameFile (store : Store) (searchPath searchPath' : List Path) (n : String) : Prop :=
  locate store searchPath n = none ∧ locate store searchPath' n = none ∨
    ∃ p q content, locate store searchPath n = some p ∧ locate store searchPath' n = some q ∧
      store.FileAt p content ∧ store.FileAt q content

/-- A search path with more directories, anywhere in it, none of which has a file under one of the
names. -/
inductive Widened (store : Store) (names : String → Prop) : List Path → List Path → Prop
  | nil : Widened store names [] []
  | kept {searchPath searchPath' : List Path} (dir : Path)
      (h : Widened store names searchPath searchPath') :
      Widened store names (dir :: searchPath) (dir :: searchPath')
  | added {searchPath searchPath' : List Path} {dir : Path}
      (hdir : ∀ n, names n → store.isFile (dir.join ⟨n⟩) = false)
      (h : Widened store names searchPath searchPath') :
      Widened store names searchPath (dir :: searchPath')

/-! ### Where a name is located -/

theorem locate_append {p : Path} (h : locate store searchPath n = some p) (extra : List Path) :
    locate store (searchPath ++ extra) n = some p := by
  rw [locate, List.map_append, List.find?_append, ← locate, h, Option.some_or]

/-- Directories without a file under a name leave the name where it is. -/
theorem locate_of_widened {names : String → Prop} (h : Widened store names searchPath searchPath')
    (hn : names n) : locate store searchPath' n = locate store searchPath n := by
  simp only [locate]
  induction h with
  | nil => rfl
  | kept dir _ ih => simp only [List.map_cons, List.find?_cons, ih]
  | added hdir _ ih => rw [List.map_cons, List.find?_cons_of_neg (by simp [hdir n hn]), ih]

theorem fetch_of_locate_eq (h : locate store searchPath' n = locate store searchPath n) :
    fetch store searchPath' n = fetch store searchPath n := by
  rw [fetch, fetch, h]

/-- Files of the same content stand for the same text. -/
theorem SameFile.fetch_eq (h : SameFile store searchPath searchPath' n)
    {x : Option (List Char)} (hx : fetch store searchPath n = .ok x) :
    fetch store searchPath' n = .ok x := by
  rcases h with ⟨hp, hq⟩ | ⟨p, q, content, hp, hq, hcontent, hcontent'⟩
  · rw [← hx, fetch_of_locate_none hp, fetch_of_locate_none hq]
  · have hread : store.readText q = store.readText p := by
      rw [Store.readText, Store.readText, Store.read_eq_ok_iff.2 hcontent,
        Store.read_eq_ok_iff.2 hcontent']
    simp only [fetch, hp] at hx
    simp only [fetch, hq, hread]
    cases htext : store.readText p with
    | error fault =>
      rw [htext] at hx
      cases hx
    | ok text => simpa only [htext] using hx

/-! ### What was compiled -/

/-- In a template that was compiled, no name that it comes to was refused. -/
theorem fetch_of_compile {c : Compiled} {log log' : List Event}
    (h : (compile store searchPath name s).run.run log = (.ok c, log'))
    (hn : Reached store searchPath name s n) : ∃ x, fetch store searchPath n = .ok x := by
  obtain ⟨t, visited, l, ht, hvisits, hpending, -⟩ := compile_eq_ok h
  obtain ⟨t', ht', hname, m, u, r, hneeded, hr, rfl⟩ := hn
  obtain rfl : t = t' := Except.ok.inj (ht.symm.trans ht')
  have hsound := Loading.sound_start.visits hvisits.perm
  have hseen : r.name ∈ l.seen := by
    refine (hsound.frontier _ ((hsound.mem_texts_iff hpending).2 hneeded) r hr).resolve_right ?_
    simp [hpending]
  rcases hsound.seen _ hseen with heq | hloaded | hnone
  · exact absurd heq hname
  · obtain ⟨x, hx, hxname⟩ := List.mem_map.1 hloaded
    exact ⟨_, hxname ▸ (hsound.loaded x hx).2.2.1⟩
  · exact ⟨_, fetch_of_locate_none hnone⟩

/-- No search path is named in an error when every name that is come to was located. -/
theorem within_of_compile {e : RenderError} {log log' : List Event}
    (h : (compile store searchPath name s).run.run log = (.error e, log'))
    (hlocated : ∀ n, Reached store searchPath name s n → (locate store searchPath n).isSome) :
    e.within searchPath' = e := by
  rcases compile_eq_error h with hexpanded | ⟨t, visited, l, ht, hvisits, hends | ⟨-, flaw, rfl⟩⟩
  · obtain ⟨line, rfl⟩ := expanded_eq_error hexpanded
    rfl
  · cases hends with
    | @failed next rest _ hnext hvisit =>
      have hsound := Loading.sound_start.visits hvisits.perm
      have hseen : next.name ∉ l.seen := fun hseen => by simp [Loading.visit, hseen] at hvisit
      have hsought := hsound.sought (hnext ▸ List.mem_cons_self) hseen
      rcases Loading.visit_eq_error hvisit with hfetch | ⟨hnone, -⟩
      · rcases fetch_eq_error hfetch with ⟨path, fault, rfl⟩ | ⟨line, rfl⟩ <;> rfl
      · have hnot := hlocated next.name ⟨t, ht, hsought⟩
        rw [fetch_eq_none_iff.1 hnone] at hnot
        cases hnot
  · rfl

/-! ### Other search paths -/

/-- Names that are located in the same place give the same template, or the same error up to the
search path that it names. -/
theorem compile_of_locate_eq (h : ∀ n, Reached store searchPath name s n →
      locate store searchPath' n = locate store searchPath n) (log log' : List Event) :
    ((compile store searchPath' name s).run.run log').1 =
      ((compile store searchPath name s).run.run log).1.mapError
        (RenderError.within searchPath') :=
  compile_of_fetch_eq (fun t ht n hn => fetch_of_locate_eq (h n ⟨t, ht, hn⟩)) log log'

/-- A template that was compiled is the same with a search path for the same files. -/
theorem compile_eq_ok_of_sameFile {c : Compiled} {log : List Event}
    (h : ((compile store searchPath name s).run.run log).1 = .ok c)
    (hsame : ∀ n, Reached store searchPath name s n → SameFile store searchPath searchPath' n)
    (log' : List Event) : ((compile store searchPath' name s).run.run log').1 = .ok c := by
  rw [compile_of_fetch_eq (fun t ht n hn => ?_) log log', h]
  · rfl
  · obtain ⟨x, hx⟩ := fetch_of_compile (Prod.ext h rfl) ⟨t, ht, hn⟩
    rw [hx, (hsame n ⟨t, ht, hn⟩).fetch_eq hx]

/-- Rendering is what the compiled template gives. -/
theorem renderText_of_compile {c : Compiled} {log : List Event}
    (h : ((compile store searchPath name s).run.run log).1 = .ok c) (around : Surroundings)
    (b : Binding) : renderText around store searchPath name s b = c.render around b := by
  have hstart : ((compile store searchPath name s).run.run []).1 = .ok c := by
    rw [compile_of_locate_eq (fun _ _ => rfl) log [], h]
    rfl
  rcases hrun : (compile store searchPath name s).run.run [] with ⟨x, log'⟩
  obtain rfl : x = .ok c := by simpa only [hrun] using hstart
  simp only [renderText, hrun]

/-- Directories at the end change nothing when every name was located before. -/
theorem compile_append (hlocated : ∀ n, Reached store searchPath name s n →
      (locate store searchPath n).isSome) (log log' : List Event) :
    ((compile store (searchPath ++ extra) name s).run.run log').1 =
      ((compile store searchPath name s).run.run log).1 := by
  rw [compile_of_locate_eq (fun n hn => ?_) log log']
  · rcases hrun : (compile store searchPath name s).run.run log with ⟨e | c, log''⟩
    · exact congrArg Except.error (within_of_compile hrun hlocated)
    · rfl
  · obtain ⟨p, hp⟩ := Option.isSome_iff_exists.1 (hlocated n hn)
    rw [hp, locate_append hp]

/-- A template is compiled and rendered in the same way with every search path in which the names
that it comes to through references stand for files of the same content, or for none. Directories at
the end change nothing when each of these names was located, and directories anywhere change nothing
when they have no file under any of them; an error that says where a name was looked for says so of
the search path. -/
theorem compile_searchPath (store : Store) (searchPath : List Path) (name : String)
    (s : List Char) :
    (∀ searchPath' c log, ((compile store searchPath name s).run.run log).1 = .ok c →
      (∀ n, Reached store searchPath name s n → SameFile store searchPath searchPath' n) →
      (∀ log', ((compile store searchPath' name s).run.run log').1 = .ok c) ∧
        ∀ around b, renderText around store searchPath' name s b =
          renderText around store searchPath name s b) ∧
    (∀ extra, (∀ n, Reached store searchPath name s n → (locate store searchPath n).isSome) →
      ∀ log log', ((compile store (searchPath ++ extra) name s).run.run log').1 =
        ((compile store searchPath name s).run.run log).1) ∧
    ∀ searchPath', Widened store (Reached store searchPath name s) searchPath searchPath' →
      ∀ log log', ((compile store searchPath' name s).run.run log').1 =
        ((compile store searchPath name s).run.run log).1.mapError
          (RenderError.within searchPath') := by
  refine ⟨fun searchPath' c log h hsame => ?_, fun extra => compile_append,
    fun searchPath' h => compile_of_locate_eq fun n => locate_of_widened h⟩
  have hcompile := compile_eq_ok_of_sameFile h hsame
  refine ⟨hcompile, fun around b => ?_⟩
  rw [renderText_of_compile h, renderText_of_compile (hcompile [])]

/-- A template that names another. -/
def twinPart : String :=
  "\x7b% include 'b' %\x7d"

/-- Two directories that have this template and the one that it names. -/
def twinStore : Store where
  entries := [(["inc"], .directory), (["two"], .directory), (["none"], .directory),
    (["inc", "a"], .file twinPart.toUTF8), (["inc", "b"], .file "x".toUTF8),
    (["two", "a"], .file twinPart.toUTF8), (["two", "b"], .file "x".toUTF8)]

/-- A text that names the first of them. -/
def twinText : List Char :=
  "\x7b% include 'a' %\x7d".toList

theorem eq_of_reached_twinText (h : Reached twinStore [⟨"inc"⟩] "m" twinText n) :
    n = "a" ∨ n = "b" := by
  have hexpanded : expanded "m" twinText = .ok twinText := eq_ok_of_toOption (by decide +kernel)
  have hfirst : references twinText = [⟨"a", false⟩] := by decide +kernel
  have hsecond : references twinPart.toList = [⟨"b", false⟩] := by decide +kernel
  have hthird : references ['x'] = [] := by decide +kernel
  have ha : fetch twinStore [⟨"inc"⟩] "a" = .ok (some twinPart.toList) :=
    eq_ok_of_toOption (by decide +kernel)
  have hb : fetch twinStore [⟨"inc"⟩] "b" = .ok (some ['x']) :=
    eq_ok_of_toOption (by decide +kernel)
  have htexts (m : String) (u : List Char)
      (hneeded : Needed twinStore [⟨"inc"⟩] "m" twinText m u) :
      u = twinText ∨ u = twinPart.toList ∨ u = ['x'] := by
    induction hneeded with
    | self => exact .inl rfl
    | reference _ hr hv ih =>
      rcases ih with rfl | rfl | rfl
      · obtain rfl := List.mem_singleton.1 (hfirst ▸ hr)
        rw [assigned_of_ne (by decide), ha] at hv
        exact .inr (.inl (by simpa using hv.symm))
      · obtain rfl := List.mem_singleton.1 (hsecond ▸ hr)
        rw [assigned_of_ne (by decide), hb] at hv
        exact .inr (.inr (by simpa using hv.symm))
      · simp [hthird] at hr
  obtain ⟨t, ht, -, m, u, r, hneeded, hr, rfl⟩ := h
  obtain rfl : twinText = t := Except.ok.inj (hexpanded.symm.trans ht)
  rcases htexts m u hneeded with rfl | rfl | rfl
  · exact .inl (congrArg Reference.name (List.mem_singleton.1 (hfirst ▸ hr)))
  · exact .inr (congrArg Reference.name (List.mem_singleton.1 (hsecond ▸ hr)))
  · simp [hthird] at hr

/-- The template is the same from either directory, and with more directories. -/
theorem compile_searchPath_twin :
    ∃ c, ((compile twinStore [⟨"inc"⟩] "m" twinText).run.run []).1 = .ok c ∧
      ((compile twinStore [⟨"two"⟩] "m" twinText).run.run []).1 = .ok c ∧
      ((compile twinStore [⟨"inc"⟩, ⟨"two"⟩] "m" twinText).run.run []).1 = .ok c ∧
      ((compile twinStore [⟨"none"⟩, ⟨"inc"⟩] "m" twinText).run.run []).1 = .ok c := by
  have hok : ((compile twinStore [⟨"inc"⟩] "m" twinText).run.run []).1.toOption.isSome = true := by
    decide +kernel
  cases hc : ((compile twinStore [⟨"inc"⟩] "m" twinText).run.run []).1 with
  | error e =>
    rw [hc] at hok
    cases hok
  | ok c =>
    obtain ⟨hsame, happend, hadded⟩ := compile_searchPath twinStore [⟨"inc"⟩] "m" twinText
    refine ⟨c, rfl, (hsame [⟨"two"⟩] c [] hc fun n hn => ?_).1 [], ?_, ?_⟩
    · rcases eq_of_reached_twinText hn with rfl | rfl
      · exact .inr ⟨⟨"inc/a"⟩, ⟨"two/a"⟩, twinPart.toUTF8, by decide +kernel,
          by decide +kernel, Store.read_eq_ok_iff.1 (eq_ok_of_toOption (by decide +kernel)),
          Store.read_eq_ok_iff.1 (eq_ok_of_toOption (by decide +kernel))⟩
      · exact .inr ⟨⟨"inc/b"⟩, ⟨"two/b"⟩, "x".toUTF8, by decide +kernel,
          by decide +kernel, Store.read_eq_ok_iff.1 (eq_ok_of_toOption (by decide +kernel)),
          Store.read_eq_ok_iff.1 (eq_ok_of_toOption (by decide +kernel))⟩
    · refine (happend [⟨"two"⟩] (fun n hn => ?_) [] []).trans hc
      rcases eq_of_reached_twinText hn with rfl | rfl <;> decide +kernel
    · refine (hadded [⟨"none"⟩, ⟨"inc"⟩] (.added (fun n hn => ?_) (.kept _ .nil)) [] []).trans ?_
      · rcases eq_of_reached_twinText hn with rfl | rfl <;> decide +kernel
      · rw [hc]
        rfl

end Imprint.Template
