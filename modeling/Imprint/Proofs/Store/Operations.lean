import Imprint.Proofs.Store.Denotation

/-!
# What file operations do

Each operation in terms of the locations that its paths denote: when it succeeds, and which entry it
changes. Making directories adds directories where nothing stood and changes nothing else.

## Main definitions

* `Imprint.Store.FileAt`: a path that denotes a file with a content.
* `Imprint.Store.Taken`: the bytes that a write leaves.
* `Imprint.Store.AddsDirectories`, `Imprint.Store.MadeAt`: the same entries and perhaps more
  directories.
* `Imprint.Store.Making`: the stores that are passed through while directories are made.

## Main results

* `Imprint.Store.write_cases`: what a write leaves, also one that fails.
* `Imprint.Store.write_eq_none_iff`, `Imprint.Store.remove_eq_ok_iff`,
  `Imprint.Store.rename_eq_ok_iff`: when an operation succeeds and what it leaves.
* `Imprint.Store.madeAt_makeDirectories`: what making directories changes.
* `Imprint.Store.Making.madeAt`: what is passed through on the way.
-/

namespace Imprint.Store

variable {s t u : Store} {p q : Path} {l m : Location} {c : ByteArray}

/-! ### Looking at a path -/

/-- The path denotes a file with the content `c`. -/
def FileAt (s : Store) (p : Path) (c : ByteArray) : Prop :=
  ∃ l, s.Denotes p l ∧ s.get? l = some (.file c)

theorem FileAt.of_denotes (h : s.FileAt p c) (hl : t.Denotes p l) (hst : s.site = t.site) :
    s.get? l = some (.file c) := by
  obtain ⟨k, hk, hc⟩ := h
  rwa [hl.unique hk hst.symm]

theorem FileAt.of_locate (h : s.FileAt p c) : s.get? (s.locate p) = some (.file c) := by
  obtain ⟨l, hl, hc⟩ := h
  rwa [locate_of_denotes hl]

theorem fileAt_iff_of_denotes (h : s.Denotes p l) : s.FileAt p c ↔ s.get? l = some (.file c) :=
  ⟨fun hc => hc.of_denotes h rfl, fun hc => ⟨l, h, hc⟩⟩

theorem FileAt.unique {b : ByteArray} (h : s.FileAt p b) (h' : s.FileAt p c) : b = c := by
  obtain ⟨l, hl, hb⟩ := h
  simpa [hb] using h'.of_denotes hl rfl

/-- The path still denotes the file in a store with its directories and with the same entry. -/
theorem FileAt.mono (h : s.FileAt p c) (hst : s.KeepsDirectories t)
    (hp : t.get? (s.locate p) = s.get? (s.locate p)) : t.FileAt p c := by
  obtain ⟨l, hl, hc⟩ := h
  rw [locate_of_denotes hl] at hp
  exact ⟨l, hl.mono hst, hp.trans hc⟩

/-- Finding a file is denoting one. -/
theorem find_eq_file_iff :
    s.find p = .ok ⟨l, .file c⟩ ↔ s.Denotes p l ∧ s.get? l = some (.file c) := by
  constructor
  · intro h
    obtain ⟨⟨m, last, slash⟩, ha, h⟩ := bind_eq_ok.1 h
    cases last with
    | name n =>
      rcases he : s.get? (m ++ [n]) with _ | b | _
      · simp [he] at h
      · cases slash with
        | true => simp [he] at h
        | false =>
          obtain ⟨rfl, rfl⟩ : m ++ [n] = l ∧ b = c := by simpa [he] using h
          exact ⟨⟨m, n, ha, rfl⟩, he⟩
      · simp [he] at h
    | _ => simp at h
  · rintro ⟨⟨m, n, ha, rfl⟩, he⟩
    simp [find, ha, bind, Except.bind, he]

theorem fileAt_iff_find : s.FileAt p c ↔ ∃ l, s.find p = .ok ⟨l, .file c⟩ := by
  simp only [FileAt, find_eq_file_iff]

/-- Reading gives the content of the file that the path denotes. -/
theorem read_eq_ok_iff : s.read p = .ok c ↔ s.FileAt p c := by
  rw [fileAt_iff_find]
  cases hf : s.find p with
  | error e => simp [read, hf, bind, Except.bind]
  | ok x =>
    obtain ⟨f, e⟩ := x
    cases e with
    | directory => simp [read, hf, bind, Except.bind]
    | file b =>
      simp [read, hf, bind, Except.bind]

theorem readText_eq_ok_iff {text : String} :
    s.readText p = .ok text ↔ ∃ c, s.FileAt p c ∧ String.fromUTF8? c = some text := by
  simp only [← read_eq_ok_iff]
  cases hread : s.read p with
  | error e => simp [readText, hread, bind, Except.bind]
  | ok c =>
    cases htext : String.fromUTF8? c <;> simp [readText, hread, htext, bind, Except.bind]

theorem isFile_iff : s.isFile p = true ↔ ∃ c, s.FileAt p c := by
  simp only [fileAt_iff_find]
  cases hf : s.find p with
  | error e => simp [isFile, hf]
  | ok x =>
    obtain ⟨f, e⟩ := x
    cases e with
    | directory => simp [isFile, hf]
    | file b =>
      simp [isFile, hf]

theorem FileAt.size (h : s.FileAt p c) : s.size p = .ok c.size := by
  obtain ⟨l, hl⟩ := fileAt_iff_find.1 h
  simp [Store.size, hl, bind, Except.bind]

/-- A path whose last name is missing has no size. -/
theorem size_of_get?_eq_none (h : s.Denotes p l) (hl : s.get? l = none) :
    s.size p = .error .notFound := by
  obtain ⟨m, n, ha, rfl⟩ := h
  simp [Store.size, find, ha, bind, Except.bind, hl]

/-- A path to a name where neither a file nor a directory stands has no size. -/
theorem size_of_not_isFile (h : s.Denotes p l) (hd : s.get? l ≠ some .directory)
    (hf : s.isFile p = false) : s.size p = .error .notFound := by
  refine size_of_get?_eq_none h ?_
  rw [Bool.eq_false_iff, ne_eq, isFile_iff] at hf
  rcases he : s.get? l with _ | c | _
  · rfl
  · exact absurd ⟨c, l, h, he⟩ hf
  · exact absurd he hd

/-! ### Writing, removing, renaming -/

theorem writeLocation_eq_ok_iff :
    s.writeLocation p = .ok l ↔ s.Denotes p l ∧ s.get? l ≠ some .directory := by
  constructor
  · intro h
    obtain ⟨⟨m, last, slash⟩, ha, h⟩ := bind_eq_ok.1 h
    cases last with
    | name n =>
      cases slash with
      | true => simp at h
      | false =>
        have hfree : s.get? (m ++ [n]) ≠ some .directory := by
          intro hd
          simp [hd] at h
        obtain rfl : m ++ [n] = l := by simpa using h
        exact ⟨⟨m, n, ha, rfl⟩, hfree⟩
    | _ => simp at h
  · rintro ⟨⟨m, n, ha, rfl⟩, he⟩
    simp [writeLocation, ha, bind, Except.bind]

/-- The bytes that a write of `c` leaves in its file: all of them, or some of them when it is cut
short. -/
inductive Taken (c : ByteArray) : Option Fault → ByteArray → Prop
  | whole : Taken c none c
  | part (e : Fault) (n : Fin c.size) : Taken c (some e) (c.extract 0 n)

/-- Writing to a location where no directory stands puts there what the site takes. -/
theorem write_of_denotes (h : s.Denotes p l) (hl : s.get? l ≠ some .directory) :
    s.write p c = s.fill l c := by
  rw [write, writeLocation_eq_ok_iff.2 ⟨h, hl⟩]

/-- A write fails and changes nothing, or leaves what was taken in the file at its path. -/
theorem write_cases {r : Option Fault} (h : s.write p c = (r, t)) :
    (∃ e, r = some e ∧ t = s) ∨
      ∃ l b, s.Denotes p l ∧ s.get? l ≠ some .directory ∧ Taken c r b ∧
        t = s.insert l (.file b) := by
  cases hw : s.writeLocation p with
  | error e =>
    obtain ⟨rfl, rfl⟩ : some e = r ∧ s = t := by simpa [write, hw] using h
    exact .inl ⟨e, rfl, rfl⟩
  | ok l =>
    obtain ⟨hl, hd⟩ := writeLocation_eq_ok_iff.1 hw
    rw [write_of_denotes hl hd, fill] at h
    split at h <;> obtain ⟨rfl, rfl⟩ := Prod.mk.inj h
    · exact .inr ⟨l, c, hl, hd, .whole, rfl⟩
    · exact .inl ⟨_, rfl, rfl⟩
    · exact .inr ⟨l, _, hl, hd, .part _ _, rfl⟩

/-- Writing succeeds at a location where no directory stands and where the site takes all bytes, and
puts the file there. -/
theorem write_eq_none_iff :
    s.write p c = (none, t) ↔ ∃ l, s.Denotes p l ∧ s.get? l ≠ some .directory ∧
      s.site.refusal? l c = none ∧ t = s.insert l (.file c) := by
  cases hw : s.writeLocation p with
  | error e =>
    simp only [write, hw, Prod.mk.injEq, reduceCtorEq, false_and, false_iff, not_exists, not_and]
    intro l hl hd
    exact absurd (writeLocation_eq_ok_iff.2 ⟨hl, hd⟩) (by simp [hw])
  | ok k =>
    obtain ⟨hk, hd⟩ := writeLocation_eq_ok_iff.1 hw
    have hsame {l : Location} (hl : s.Denotes p l) : l = k := hl.unique hk rfl
    rw [write_of_denotes hk hd, fill]
    split
    · next hnone =>
      constructor
      · intro h
        exact ⟨k, hk, hd, hnone, (Prod.mk.inj h).2.symm⟩
      · rintro ⟨l, hl, -, -, rfl⟩
        rw [hsame hl]
    all_goals
      next hsome =>
      refine iff_of_false (by simp) ?_
      rintro ⟨l, hl, -, hnone, -⟩
      rw [hsame hl, hsome] at hnone
      cases hnone

/-- Removing succeeds on a file. -/
theorem remove_eq_ok_iff :
    s.remove p = .ok t ↔ ∃ l c, s.Denotes p l ∧ s.get? l = some (.file c) ∧ t = s.erase l := by
  constructor
  · intro h
    obtain ⟨⟨m, last, slash⟩, ha, h⟩ := bind_eq_ok.1 h
    cases last with
    | name n =>
      rcases he : s.get? (m ++ [n]) with _ | c | _
      · simp [he] at h
      · cases slash with
        | true => simp [he] at h
        | false =>
          obtain rfl : s.erase (m ++ [n]) = t := by simpa [he] using h
          exact ⟨_, c, ⟨m, n, ha, rfl⟩, he, rfl⟩
      · simp [he] at h
    | _ => simp at h
  · rintro ⟨l, c, ⟨m, n, ha, rfl⟩, he, rfl⟩
    simp [remove, ha, bind, Except.bind, he]

/-- Renaming succeeds from a file to a location where no directory stands. -/
theorem rename_eq_ok_iff :
    s.rename p q = .ok t ↔
      ∃ l c k, s.Denotes p l ∧ s.get? l = some (.file c) ∧ s.Denotes q k ∧
        s.get? k ≠ some .directory ∧ t = (s.erase l).insert k (.file c) := by
  constructor
  · intro h
    obtain ⟨⟨d, last, slash⟩, ha, hrest⟩ := bind_eq_ok.1 h
    obtain ⟨⟨d', last', slash'⟩, hb, h⟩ := bind_eq_ok.1 hrest
    cases last with
    | name m =>
      cases last' with
      | name n =>
        rcases he : s.get? (d ++ [m]) with _ | c | _
        · simp [he] at h
        · simp only [he] at h
          split at h
          · cases h
          · next hslash =>
            obtain ⟨rfl, rfl⟩ : slash = false ∧ slash' = false := by simpa using hslash
            have hfree : s.get? (d' ++ [n]) ≠ some .directory := by
              intro hd
              simp [hd] at h
            obtain rfl : (s.erase (d ++ [m])).insert (d' ++ [n]) (.file c) = t := by
              simpa using h
            exact ⟨_, c, _, ⟨d, m, ha, rfl⟩, he, ⟨d', n, hb, rfl⟩, hfree, rfl⟩
        · simp [he] at h
      | _ => simp at h
    | _ => simp at h
  · rintro ⟨l, c, k, ⟨d, m, ha, rfl⟩, he, ⟨d', n, hb, rfl⟩, hfree, rfl⟩
    simp [rename, ha, hb, bind, Except.bind, he]

/-! ### Directories that stay -/

theorem sameDirectories_insert_file (hd : s.get? l ≠ some .directory) :
    s.SameDirectories (s.insert l (.file c)) := by
  refine ⟨rfl, fun k => ?_⟩
  rw [get?_insert _ _ _ _ (not_isFixed hd)]
  split
  · next h => simp [h, hd]
  · rfl

theorem sameDirectories_erase (hd : s.get? l ≠ some .directory) :
    s.SameDirectories (s.erase l) := by
  refine ⟨rfl, fun k => ?_⟩
  rw [get?_erase _ _ _ (not_isFixed hd)]
  split
  · next h => simp [h, hd]
  · rfl

theorem sameDirectories_write (s : Store) (p : Path) (c : ByteArray) :
    s.SameDirectories (s.write p c).2 := by
  rcases write_cases (Prod.eta (s.write p c)).symm with ⟨e, -, ht⟩ | ⟨l, b, -, hd, -, ht⟩
  · rw [ht]
    exact .refl s
  · rw [ht]
    exact sameDirectories_insert_file hd

theorem not_isFixed_erase {k : Location} (hk : ¬ s.IsFixed k) : ¬ (s.erase l).IsFixed k :=
  mt (isFixed_erase s l k).1 hk

theorem sameDirectories_rename (h : s.rename p q = .ok t) : s.SameDirectories t := by
  obtain ⟨k, b, m, hk, hb, hm, hd, rfl⟩ := rename_eq_ok_iff.1 h
  have herase : s.SameDirectories (s.erase k) := sameDirectories_erase (by simp [hb])
  exact herase.trans (sameDirectories_insert_file fun hm' => hd ((herase.same m).2 hm'))

/-- What is written can be read back. -/
theorem fileAt_of_write (h : s.write p c = (none, t)) : t.FileAt p c := by
  have hdirs : s.KeepsDirectories t := by
    have hsame := (sameDirectories_write s p c).keepsDirectories
    rwa [h] at hsame
  obtain ⟨l, hl, hd, -, rfl⟩ := write_eq_none_iff.1 h
  exact ⟨l, hl.mono hdirs, by rw [get?_insert _ _ _ _ (not_isFixed hd), if_pos rfl]⟩

/-- Writing changes the one entry that the path is about. -/
theorem get?_write (h : s.write p c = (none, t)) (l : Location) :
    t.get? l = if s.locate p = l then some (.file c) else s.get? l := by
  obtain ⟨k, hk, hd, -, rfl⟩ := write_eq_none_iff.1 h
  rw [get?_insert _ _ _ _ (not_isFixed hd), locate_of_denotes hk]
  simp only [eq_comm]

/-- Also a write that fails changes no other entry. -/
theorem get?_write_of_ne (h : s.locate p ≠ l) : (s.write p c).2.get? l = s.get? l := by
  rcases write_cases (Prod.eta (s.write p c)).symm with ⟨e, -, ht⟩ | ⟨k, b, hk, hd, -, ht⟩
  · rw [ht]
  · rw [locate_of_denotes hk] at h
    rw [ht, get?_insert _ _ _ _ (not_isFixed hd), if_neg (Ne.symm h)]

/-- Renaming changes the two entries that its paths are about. -/
theorem get?_rename (h : s.rename p q = .ok t) (hp : s.locate p ≠ l) (hq : s.locate q ≠ l) :
    t.get? l = s.get? l := by
  obtain ⟨k, c, m, hk, hc, hm, hd, rfl⟩ := rename_eq_ok_iff.1 h
  rw [locate_of_denotes hk] at hp
  rw [locate_of_denotes hm] at hq
  rw [get?_insert _ _ _ _ (not_isFixed_erase (not_isFixed hd)), if_neg (Ne.symm hq),
    get?_erase _ _ _ (not_isFixed (by simp [hc])), if_neg (Ne.symm hp)]

/-- The file is at its new path. -/
theorem fileAt_of_rename (h : s.rename p q = .ok t) (hp : s.FileAt p c) : t.FileAt q c := by
  have hdirs := (sameDirectories_rename h).keepsDirectories
  obtain ⟨k, b, m, hk, hb, hm, hd, rfl⟩ := rename_eq_ok_iff.1 h
  obtain rfl : b = c := by simpa using hb.symm.trans (hp.of_denotes hk rfl)
  have hfree := not_isFixed_erase (l := k) (not_isFixed hd)
  exact ⟨m, hm.mono hdirs, by rw [get?_insert _ _ _ _ hfree, if_pos rfl]⟩

theorem exists_fileAt_of_rename (h : s.rename p q = .ok t) : ∃ c, s.FileAt p c := by
  obtain ⟨l, c, -, hl, hc, -⟩ := rename_eq_ok_iff.1 h
  exact ⟨c, l, hl, hc⟩

/-- Where one file can be moved, so can another, in every store with the same directories. -/
theorem exists_rename_of_fileAt {r : Path} (h : s.rename p q = .ok t) (hdirs : s.SameDirectories u)
    (hfile : u.FileAt r c) : ∃ v, u.rename r q = .ok v := by
  obtain ⟨k, b, m, -, -, hm, hd, -⟩ := rename_eq_ok_iff.1 h
  obtain ⟨l, hl, hc⟩ := hfile
  exact ⟨_, rename_eq_ok_iff.2
    ⟨l, c, m, hl, hc, hm.mono hdirs.keepsDirectories, fun hu => hd ((hdirs.same m).2 hu), rfl⟩⟩

/-- A file that could be moved and is gone is not found. -/
theorem rename_eq_notFound (h : s.rename p q = .ok t) (hdirs : s.SameDirectories u)
    (hgone : u.isFile p = false) : u.rename p q = .error .notFound := by
  obtain ⟨l, b, m, hl, hb, hm, -, -⟩ := rename_eq_ok_iff.1 h
  have hl' := hl.mono hdirs.keepsDirectories
  obtain ⟨d, n, ha, rfl⟩ := hl'
  obtain ⟨d', n', ha', rfl⟩ := hm.mono hdirs.keepsDirectories
  rw [Bool.eq_false_iff, ne_eq, isFile_iff] at hgone
  rcases he : u.get? (d ++ [n]) with _ | c | _
  · simp [rename, ha, ha', bind, Except.bind, he]
  · exact absurd ⟨c, _, ⟨d, n, ha, rfl⟩, he⟩ hgone
  · rw [(hdirs.same _).2 he] at hb
    cases hb

/-- No file is left at the old path, when the new one is about another location. -/
theorem isFile_of_rename (h : s.rename p q = .ok t) (hpq : s.locate p ≠ s.locate q) :
    t.isFile p = false := by
  have hsite := (sameDirectories_rename h).site
  rw [Bool.eq_false_iff, ne_eq, isFile_iff]
  rintro ⟨c, l, hl, hc⟩
  obtain ⟨k, b, m, hk, hb, hm, hd, rfl⟩ := rename_eq_ok_iff.1 h
  obtain rfl : k = l := hk.unique hl hsite
  rw [locate_of_denotes hk, locate_of_denotes hm] at hpq
  simp [get?_insert _ _ _ _ (not_isFixed_erase (not_isFixed hd)),
    get?_erase _ _ _ (not_isFixed (l := k) (s := s) (by simp [hb])), hpq] at hc

/-- Renaming replaces no directory. -/
theorem get?_ne_directory_of_rename (h : s.rename p q = .ok t) :
    s.get? (s.locate q) ≠ some .directory := by
  obtain ⟨k, b, m, hk, hb, hm, hd, rfl⟩ := rename_eq_ok_iff.1 h
  rwa [locate_of_denotes hm]

/-- The store without the file at a path, if there is one. -/
def removed (s : Store) (p : Path) : Store :=
  match s.remove p with
  | .ok t => t
  | .error _ => s

theorem removed_of_ok (h : s.remove p = .ok t) : s.removed p = t := by
  simp [removed, h]

theorem removed_of_error {fault : Fault} (h : s.remove p = .error fault) : s.removed p = s := by
  simp [removed, h]

/-- Removing changes the one entry that the path is about. -/
theorem get?_removed (hp : s.locate p ≠ l) : (s.removed p).get? l = s.get? l := by
  cases h : s.remove p with
  | error fault => rw [removed_of_error h]
  | ok t =>
    obtain ⟨k, c, hk, hc, rfl⟩ := remove_eq_ok_iff.1 h
    rw [locate_of_denotes hk] at hp
    rw [removed_of_ok h, get?_erase _ _ _ (not_isFixed (by simp [hc])), if_neg (Ne.symm hp)]

theorem sameDirectories_removed (s : Store) (p : Path) : s.SameDirectories (s.removed p) := by
  cases h : s.remove p with
  | error fault =>
    rw [removed_of_error h]
    exact .refl s
  | ok t =>
    obtain ⟨k, b, hk, hb, rfl⟩ := remove_eq_ok_iff.1 h
    rw [removed_of_ok h]
    exact sameDirectories_erase (by simp [hb])

/-- A file is still there after another one has been removed. -/
theorem fileAt_removed (h : s.FileAt p c) (hne : ∀ k l, s.Denotes p k → s.Denotes q l → l ≠ k) :
    (s.removed q).FileAt p c := by
  refine h.mono (sameDirectories_removed s q).keepsDirectories ?_
  obtain ⟨k, hk, -⟩ := h
  cases hr : s.remove q with
  | error fault => rw [removed_of_error hr]
  | ok t =>
    obtain ⟨l, b, hl, hb, rfl⟩ := remove_eq_ok_iff.1 hr
    rw [removed_of_ok hr, locate_of_denotes hk, get?_erase _ _ _ (not_isFixed (by simp [hb])),
      if_neg (Ne.symm (hne k l hk hl))]

/-- No file is left at a removed path. -/
theorem isFile_removed (s : Store) (p : Path) : (s.removed p).isFile p = false := by
  by_contra hfile
  obtain ⟨c, l, hl, hc⟩ := isFile_iff.1 (by simpa using hfile)
  cases h : s.remove p with
  | error fault =>
    rw [removed_of_error h] at hl hc
    simp [remove_eq_ok_iff.2 ⟨l, c, hl, hc, rfl⟩] at h
  | ok t =>
    obtain ⟨k, b, hk, hb, rfl⟩ := remove_eq_ok_iff.1 h
    rw [removed_of_ok h] at hl hc
    rw [hl.unique hk rfl, get?_erase _ _ _ (not_isFixed (by simp [hb])), if_pos rfl] at hc
    cases hc

/-! ### Making directories -/

/-- The entry at a location is the one that was there, or it is a directory where nothing stood. -/
def KeptAt (s t : Store) (l : Location) : Prop :=
  t.get? l = s.get? l ∨ s.get? l = none ∧ t.get? l = some .directory

theorem KeptAt.refl (s : Store) (l : Location) : s.KeptAt s l := .inl rfl

theorem KeptAt.of_eq (h : t.get? l = s.get? l) : s.KeptAt t l := .inl h

theorem KeptAt.trans (h : s.KeptAt t l) (h' : t.KeptAt u l) : s.KeptAt u l := by
  rcases h with hl | ⟨hn, hd⟩ <;> rcases h' with hl' | ⟨hn', hd'⟩
  · exact .inl (hl'.trans hl)
  · exact .inr ⟨hl ▸ hn', hd'⟩
  · exact .inr ⟨hn, hl' ▸ hd⟩
  · rw [hd] at hn'
    cases hn'

/-- A file stands at a kept location exactly when it stood there. -/
theorem KeptAt.file_iff (h : s.KeptAt t l) :
    t.get? l = some (.file c) ↔ s.get? l = some (.file c) := by
  rcases h with h | ⟨hn, hd⟩
  · rw [h]
  · simp [hn, hd]

/-- The same entries at the same site, and perhaps directories where nothing stood. -/
structure AddsDirectories (s t : Store) : Prop where
  site : s.site = t.site
  kept : ∀ l, s.KeptAt t l

theorem AddsDirectories.refl (s : Store) : s.AddsDirectories s := ⟨rfl, .refl s⟩

theorem AddsDirectories.trans (h : s.AddsDirectories t) (h' : t.AddsDirectories u) :
    s.AddsDirectories u :=
  ⟨h.site.trans h'.site, fun l => (h.kept l).trans (h'.kept l)⟩

theorem AddsDirectories.keepsDirectories (h : s.AddsDirectories t) : s.KeepsDirectories t := by
  refine ⟨h.site, fun l hl => ?_⟩
  rcases h.kept l with h | ⟨hn, hd⟩
  · rw [h, hl]
  · exact hd

/-- Making one directory puts it where nothing stood, at the location of its path. -/
theorem makeDirectory_eq_ok (h : s.makeDirectory p = .ok t) :
    s.get? (s.locate p) = none ∧ s.site.barred? (s.locate p) = none ∧
      t = s.insert (s.locate p) .directory := by
  obtain ⟨⟨m, last, slash⟩, ha, h⟩ := bind_eq_ok.1 h
  cases last with
  | name n =>
    rw [locate_of_aim ha]
    rcases he : s.get? (m ++ [n]) with _ | e
    · rcases hb : s.site.barred? (m ++ [n]) with _ | e
      · exact ⟨rfl, rfl, by simpa [he, hb, eq_comm] using h⟩
      · simp [he, hb] at h
    · simp [he] at h
  | _ => simp at h

/-- The same entries at the same site, and perhaps directories where nothing stood, at the locations
of paths in the list. -/
structure MadeAt (ps : List Path) (s t : Store) : Prop where
  site : s.site = t.site
  made : ∀ l, t.get? l = s.get? l ∨
    s.get? l = none ∧ t.get? l = some .directory ∧ ∃ p ∈ ps, s.locate p = l
  /-- What was made could be made. -/
  free : ∀ l, s.get? l = none → t.get? l = some .directory → s.site.barred? l = none

variable {ps qs : List Path}

theorem MadeAt.refl (ps : List Path) (s : Store) : MadeAt ps s s :=
  ⟨rfl, fun _ => .inl rfl, fun l hn hd => by cases hn.symm.trans hd⟩

theorem MadeAt.addsDirectories (h : MadeAt ps s t) : s.AddsDirectories t :=
  ⟨h.site, fun l => (h.made l).imp_right fun hl => ⟨hl.1, hl.2.1⟩⟩

theorem MadeAt.mono (h : MadeAt ps s t) (hsub : ps ⊆ qs) : MadeAt qs s t := by
  refine ⟨h.site, fun l => ?_, h.free⟩
  rcases h.made l with h | ⟨hn, hd, p, hp, hl⟩
  · exact .inl h
  · exact .inr ⟨hn, hd, p, hsub hp, hl⟩

theorem MadeAt.trans (h : MadeAt ps s t) (h' : MadeAt ps t u) : MadeAt ps s u := by
  refine ⟨h.site.trans h'.site, fun l => ?_, fun l hn hd => ?_⟩
  · rcases h.made l with hl | ⟨hn, hd, hp⟩ <;> rcases h'.made l with hl' | ⟨hn', hd', hp'⟩
    · exact .inl (hl'.trans hl)
    · exact .inr ⟨hl ▸ hn', hd', by simpa only [locate_eq_of_site h.site] using hp'⟩
    · exact .inr ⟨hn, hl' ▸ hd, hp⟩
    · rw [hd] at hn'
      cases hn'
  · rcases h.made l with hl | ⟨-, hd', -⟩
    · rw [h.site]
      exact h'.free l (hl.trans hn) hd
    · exact h.free l hn hd'

theorem madeAt_makeDirectory (h : s.makeDirectory p = .ok t) : MadeAt [p] s t := by
  obtain ⟨hn, hb, rfl⟩ := makeDirectory_eq_ok h
  have hnew : ¬ s.IsFixed (s.locate p) := not_isFixed (by simp [hn])
  refine ⟨rfl, fun k => ?_, fun k hk hd => ?_⟩
  · rw [get?_insert _ _ _ _ hnew]
    by_cases hk : k = s.locate p
    · exact .inr ⟨hk ▸ hn, by simp [hk], p, List.mem_cons_self, hk.symm⟩
    · exact .inl (by simp [hk])
  · rw [get?_insert _ _ _ _ hnew, hk] at hd
    obtain rfl : k = s.locate p := by simpa using hd
    exact hb

theorem madeAt_ensureDirectory (h : s.ensureDirectory p = .ok t) : MadeAt [p] s t := by
  simp only [ensureDirectory] at h
  split at h
  · next hm => exact (Except.ok.inj h) ▸ madeAt_makeDirectory hm
  · split at h
    · exact (Except.ok.inj h) ▸ .refl [p] s
    · cases h

/-- After the directories above a path, only the one at the path itself is left to be made. -/
theorem madeAt_makeAll_cons (h : s.makeDirectory p = .error .notFound) :
    MadeAt [p] (s.makeAll ps).2 (s.makeAll (p :: ps)).2 := by
  simp only [makeAll, h]
  rcases s.makeAll ps with ⟨_ | fault, t⟩
  · dsimp only
    cases he : t.ensureDirectory p with
    | ok u => exact madeAt_ensureDirectory he
    | error e => exact .refl [p] t
  · exact .refl [p] t

/-- Making directories only adds directories, also when it fails on the way. -/
theorem madeAt_makeAll (s : Store) (ps : List Path) : MadeAt ps s (s.makeAll ps).2 := by
  induction ps with
  | nil => exact .refl [] s
  | cons p above ih =>
    cases hm : s.makeDirectory p with
    | ok t =>
      simp only [makeAll, hm]
      exact (madeAt_makeDirectory hm).mono (by simp)
    | error fault =>
      by_cases hf : fault = .notFound
      · subst hf
        exact (ih.mono (by simp)).trans ((madeAt_makeAll_cons hm).mono (by simp))
      · have hsame : (s.makeAll (p :: above)).2 = s := by
          simp only [makeAll, hm]
          split <;> simp_all
        rw [hsame]
        exact .refl _ s

/-- The paths at which directories may be made for a path. -/
def needed (p : Path) : List Path :=
  p :: pathsAbove p.text.length p

theorem components_of_mem_pathsAbove {n : Nat} {p q : Path} (h : q ∈ pathsAbove n p) :
    q.components <+: p.components := by
  induction n generalizing p with
  | zero => simp [pathsAbove] at h
  | succ n ih =>
    cases hp : p.parent? with
    | none => simp [pathsAbove, hp] at h
    | some r =>
      have hr : r.components <+: p.components := by
        obtain ⟨c, hc⟩ := Path.components_of_parent? hp
        exact ⟨[c], hc.symm⟩
      by_cases hempty : r.text.isEmpty
      · simp [pathsAbove, hp, hempty] at h
      · simp only [pathsAbove, hp, hempty, Bool.false_eq_true, ↓reduceIte, List.mem_cons] at h
        rcases h with rfl | h
        · exact hr
        · exact (ih h).trans hr

theorem text_ne_nil_of_mem_pathsAbove {n : Nat} {p q : Path} (h : q ∈ pathsAbove n p) :
    q.text.toList ≠ [] := by
  induction n generalizing p with
  | zero => simp [pathsAbove] at h
  | succ n ih =>
    simp only [pathsAbove] at h
    split at h
    · next r hr =>
      split at h
      · simp at h
      · next hne =>
        rcases List.mem_cons.1 h with rfl | h
        · simpa [String.isEmpty_iff] using hne
        · exact ih h
    · simp at h

/-- No directory that a path without a `..` needs is at the location of the path. -/
theorem locate_ne_of_mem_needed {n : String} {r : Path}
    (hp : p.components = q.components ++ [.name n]) (hup : .parent ∉ p.components)
    (hr : r ∈ needed q) (s : Store) : s.locate r ≠ s.locate p := by
  -- what follows the front that leads to the directory leads down by one step at least
  obtain ⟨after, hq, hroot⟩ : ∃ after, q.components = r.components ++ after ∧
      .root ∉ after ++ [Path.Component.name n] := by
    rcases List.mem_cons.1 hr with rfl | hr
    · exact ⟨[], by simp, by simp⟩
    · obtain ⟨after, hafter⟩ := components_of_mem_pathsAbove hr
      refine ⟨after, hafter.symm, fun hmem => ?_⟩
      obtain ⟨c, cs, hcs⟩ := List.exists_cons_of_ne_nil
        (Path.components_ne_nil (text_ne_nil_of_mem_pathsAbove hr))
      have hsplit : p.components = c :: (cs ++ (after ++ [.name n])) := by
        rw [hp, ← hafter, hcs, List.append_assoc, List.cons_append]
      exact Path.root_notMem_tail hsplit (List.mem_append_right _ hmem)
  rw [hq, List.append_assoc] at hp
  have hlength := Path.length_foldl_follow
    (fun hmem => hup (hp ▸ List.mem_append_right _ hmem)) hroot (s.locate r)
  intro heq
  have hlocate : s.locate p =
      (after ++ [Path.Component.name n]).foldl Path.Component.follow (s.locate r) := by
    rw [locate, Path.location, hp, List.foldl_append]
    rfl
  rw [← hlocate, ← heq, List.countP_append, List.countP_singleton] at hlength
  simp only [Path.Component.isName, ↓reduceIte] at hlength
  omega

/-- Making the directories of a path only adds directories, also when it fails on the way. -/
theorem madeAt_makeDirectories (s : Store) (p : Path) :
    MadeAt (needed p) s (s.makeDirectories p).2 := by
  simp only [makeDirectories]
  split
  · exact .refl _ s
  · exact madeAt_makeAll s _

/-- A store that is passed through while directories are made. -/
inductive Making (s : Store) : List Path → Store → Prop
  | start (ps : List Path) : Making s ps s
  | above {p : Path} {ps : List Path} {t : Store} (h : s.makeDirectory p = .error .notFound)
      (ht : Making s ps t) : Making s (p :: ps) t
  | done (ps : List Path) : Making s ps (s.makeAll ps).2

/-- What is passed through has some of the directories that are made in the end. -/
theorem Making.madeAt (h : Making s ps t) : MadeAt ps s t ∧ MadeAt ps t (s.makeAll ps).2 := by
  induction h with
  | start ps => exact ⟨.refl ps s, madeAt_makeAll s ps⟩
  | above hp _ ih =>
    exact ⟨ih.1.mono (by simp),
      (ih.2.mono (by simp)).trans ((madeAt_makeAll_cons hp).mono (by simp))⟩
  | done ps => exact ⟨madeAt_makeAll s ps, .refl ps _⟩

end Imprint.Store
