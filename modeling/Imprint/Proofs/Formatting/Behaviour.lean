import Imprint.Formatting.Formatter
import Imprint.Proofs.Session.Effect
import Imprint.Proofs.Store.Operations

/-!
# What a formatter may do

A formatter is any program: it may fail to start, run out of time or end in any way, and it has its
hands on the files. Two promises about what it does to them are stated here. A *confined* program
changes at most the file it is handed, which it may also remove, and the file that takes its output.
A program that *only prints* changes nothing but that output.

## Main definitions

* `Imprint.Formatting.inPlace`, `Imprint.Formatting.opened`, `Imprint.Formatting.filled`: the ways
  to format, as operations on the store.
* `Imprint.Formatting.Confined`, `Imprint.Formatting.OnlyPrints`: the promises.
* `Imprint.Formatting.noPrograms`, `Imprint.Formatting.printer`, `Imprint.Formatting.remover`,
  `Imprint.Formatting.spoiler`: programs that keep them.

## Main results

* `Imprint.Formatting.gives_formatInPlace`, `Imprint.Formatting.gives_openResult`,
  `Imprint.Formatting.gives_fillResult`: what formatting gives.
* `Imprint.Formatting.Confined.get?_inPlace`, `Imprint.Formatting.Confined.get?_filled`: what a
  confined program leaves of the store.
* `Imprint.Formatting.OnlyPrints.get?_filled`: what a program that only prints leaves of it.
-/

namespace Imprint.Formatting

open Session

variable (programs : Programs) (f : Config.Formatter)

/-! ### Formatting as an operation on the store -/

/-- How the formatter is started on a file that it formats in place. -/
def inPlaceInvocation (p : Path) : Invocation :=
  ⟨f.program, inPlaceArgs f p, none, f.timeout⟩

/-- How the formatter is started on one file to fill another. -/
def stagedInvocation (input output : Path) : Invocation :=
  ⟨f.program, f.args ++ [input.text], some output, f.timeout⟩

/-- The status of an output after the formatter was started on it. -/
def Outcome.status (o : Outcome) : Status :=
  match o.skip? f with
  | some why => .skipped why
  | none => .formatted

/-- Formats a file in place. -/
def inPlace (p : Path) (s : Store) : Except Panic Status × Store :=
  if f.enabled then
    let r := programs.start (inPlaceInvocation f p) s
    (r.1.map (·.status f), r.2)
  else (.ok (.skipped .disabled), s)

/-- Makes the file for the result, or tells why formatting is skipped. -/
def opened (output : Path) (s : Store) : Option Skip × Store :=
  if f.enabled then
    let r := s.write output .empty
    (r.1.map (.noFile output ·), r.2)
  else (some .disabled, s)

/-- The status of an output whose formatter filled another file, in the store it left. -/
def Outcome.filledStatus (o : Outcome) (input output : Path) (t : Store) : Status :=
  match o.skip? f with
  | some why => .skipped why
  | none =>
    if sizeOrZero t output = 0 ∧ 0 < sizeOrZero t input then .skipped (.noOutput f.program)
    else .formatted

/-- Fills the file for the result. -/
def filled (input output : Path) (s : Store) : Except Panic Status × Store :=
  let r := programs.start (stagedInvocation f input output) s
  (r.1.map (·.filledStatus f input output r.2), r.2)

@[simp] theorem snd_start (i : Invocation) (s : Store) :
    (programs.start i s).2 = (programs i s).store s := rfl

/-- No program changes what surrounds the store. -/
@[simp] theorem site_store (o : Outcome) (s : Store) : (o.store s).site = s.site := by
  cases o <;> rfl

/-- A program that ends leaves the store that it says. -/
theorem store_ended {s t : Store} (ending : Ending) (message : ByteArray) (h : t.site = s.site) :
    (Outcome.ended ending message t).store s = t := by
  rw [Outcome.store, ← h]

theorem gives_invoke {i : Invocation} {args : List String} {output : Option Path}
    (hi : i = ⟨f.program, args, output, f.timeout⟩) (s : Store) :
    Gives (invoke programs f args output).run s ((programs.start i s).1.map (·.skip? f))
      (programs.start i s).2 := by
  subst hi
  refine (gives_currentStore s).lift.bind_ok ?_
  rcases programs.start ⟨f.program, args, output, f.timeout⟩ s with ⟨_ | _, t⟩
  · exact (gives_reportAll _ s).lift.bind_ok ((gives_setStore s t).lift.bind_ok (gives_pure _ t))
  · exact (gives_reportAll _ s).lift.bind_ok ((gives_setStore s t).lift.bind_ok (gives_pure _ t))

theorem gives_formatInPlace (p : Path) (s : Store) :
    Gives (formatInPlace programs f p).run s (inPlace programs f p s).1
      (inPlace programs f p s).2 := by
  cases hf : f.enabled with
  | false =>
    simp only [formatInPlace, inPlace, hf]
    exact gives_pure _ s
  | true =>
    have hinvoke := gives_invoke (i := inPlaceInvocation f p) programs f rfl s
    simp only [formatInPlace, inPlace, hf, ↓reduceIte, Outcome.status]
    cases hstart : (programs.start (inPlaceInvocation f p) s).1 with
    | error why =>
      rw [hstart] at hinvoke
      exact hinvoke.bind_error
    | ok o =>
      rw [hstart] at hinvoke
      refine hinvoke.bind_ok ?_
      simp only [Except.map]
      cases o.skip? f with
      | none => exact gives_pure _ _
      | some why => exact gives_pure _ _

theorem gives_openResult (output : Path) (s : Store) :
    Gives (openResult f output) s (opened f output s).1 (opened f output s).2 := by
  cases hf : f.enabled with
  | false =>
    simp only [openResult, opened, hf]
    exact gives_pure _ s
  | true =>
    simp only [openResult, opened, hf, ↓reduceIte]
    exact (gives_currentStore s).bind ((gives_setStore s _).bind (gives_pure _ _))

theorem gives_fillResult (input output : Path) (s : Store) :
    Gives (fillResult programs f input output).run s (filled programs f input output s).1
      (filled programs f input output s).2 := by
  have hinvoke := gives_invoke (i := stagedInvocation f input output) programs f rfl s
  simp only [fillResult, filled, Outcome.filledStatus]
  cases hstart : (programs.start (stagedInvocation f input output) s).1 with
  | error why =>
    rw [hstart] at hinvoke
    exact hinvoke.bind_error
  | ok o =>
    rw [hstart] at hinvoke
    refine hinvoke.bind_ok ?_
    simp only [Except.map]
    cases o.skip? f with
    | some why => exact gives_pure _ _
    | none =>
      refine (gives_currentStore _).lift.bind_ok ?_
      dsimp only
      split
      · exact gives_pure _ _
      · exact gives_pure _ _

variable {f} {output : Path} {s t : Store}

theorem inPlace_of_disabled (h : f.enabled = false) (p : Path) (s : Store) :
    inPlace programs f p s = (.ok (.skipped .disabled), s) := by
  simp [inPlace, h]

theorem site_inPlace (p : Path) (s : Store) : (inPlace programs f p s).2.site = s.site := by
  simp only [inPlace]
  split <;> simp

theorem site_filled (input output : Path) (s : Store) :
    (filled programs f input output s).2.site = s.site :=
  site_store _ s

/-- An empty file is made whole or not at all. -/
theorem write_empty_of_some {fault : Store.Fault} (h : s.write output .empty = (some fault, t)) :
    t = s := by
  obtain ⟨-, -, rfl⟩ | ⟨l, b, -, -, htaken, -⟩ := Store.write_cases h
  · rfl
  · cases htaken with
    | part _ n => exact absurd n.isLt (Nat.not_lt_zero _)

variable (f output s) in
/-- Making the file for the result makes no directory. -/
theorem sameDirectories_opened : s.SameDirectories (opened f output s).2 := by
  simp only [opened]
  split
  · exact Store.sameDirectories_write s output .empty
  · exact .refl s

variable (f) in
theorem get?_opened_of_ne {l : Location} (h : s.locate output ≠ l) :
    (opened f output s).2.get? l = s.get? l := by
  simp only [opened]
  split
  · exact Store.get?_write_of_ne h
  · rfl

/-- The file for the result is made empty. -/
theorem opened_eq_none (h : opened f output s = (none, t)) : s.write output .empty = (none, t) := by
  simp only [opened] at h
  split at h
  · simpa [Prod.ext_iff] using h
  · simp at h

theorem enabled_of_opened (h : opened f output s = (none, t)) : f.enabled = true := by
  by_contra hf
  simp [opened, hf] at h

/-- Nothing is made when formatting is skipped at once. -/
theorem opened_eq_some {why : Skip} (h : opened f output s = (some why, t)) : t = s := by
  simp only [opened] at h
  split at h
  · rcases hw : s.write output .empty with ⟨_ | fault, u⟩
    · simp [hw] at h
    · obtain rfl : u = t := by simpa [hw] using congrArg Prod.snd h
      exact write_empty_of_some hw
  · simp_all

/-! ### Promises -/

/-- The program changes at most the file it is handed, the last of its arguments, which it may
rewrite or remove, and the file that takes its output. -/
def Confined (program : String) : Prop :=
  ∀ (i : Invocation) (p : Path) (s : Store) (l : Location),
    i.program = program → i.args.getLast? = some p.text →
      ((programs i s).store s).get? l = s.get? l ∨
      (∃ c, s.Denotes p l ∧ s.get? l = some (.file c) ∧
        ((programs i s).store s).get? l ≠ some .directory) ∨
      ∃ q c c', i.output = some q ∧ s.Denotes q l ∧ s.get? l = some (.file c) ∧
        ((programs i s).store s).get? l = some (.file c')

/-- The program, started in one way, changes nothing but the empty file that takes its output, which
afterwards holds what the program printed. -/
structure OnlyPrints (i : Invocation) (print : Store → ByteArray) : Prop where
  /-- The output holds what was printed. -/
  output : ∀ s q l, i.output = some q → s.Denotes q l → s.get? l = some (.file .empty) →
    ((programs i s).store s).get? l = some (.file (print s))
  /-- All else stays. -/
  frame : ∀ s l, (∀ q, i.output = some q → ¬ s.Denotes q l) →
    ((programs i s).store s).get? l = s.get? l

variable {programs}

/-! ### Confined programs -/

theorem getLast?_inPlaceArgs (f : Config.Formatter) (p : Path) :
    (inPlaceInvocation f p).args.getLast? = some p.text := by
  simp [inPlaceInvocation, inPlaceArgs]

theorem getLast?_stagedArgs (f : Config.Formatter) (p q : Path) :
    (stagedInvocation f p q).args.getLast? = some p.text := by
  simp [stagedInvocation]

/-- A confined program that formats a file in place changes no other entry, and makes no directory
of the file. -/
theorem Confined.get?_inPlace (h : Confined programs f.program) (p : Path) (s : Store)
    (l : Location) :
    (inPlace programs f p s).2.get? l = s.get? l ∨
      ∃ c, s.Denotes p l ∧ s.get? l = some (.file c) ∧
        (inPlace programs f p s).2.get? l ≠ some .directory := by
  simp only [inPlace]
  split
  · rcases h (inPlaceInvocation f p) p s l rfl (getLast?_inPlaceArgs f p) with h | h | h
    · exact .inl h
    · exact .inr h
    · obtain ⟨q, -, -, hq, -⟩ := h
      cases hq
  · exact .inl rfl

theorem Confined.sameDirectories_inPlace (h : Confined programs f.program) (p : Path) (s : Store) :
    s.SameDirectories (inPlace programs f p s).2 := by
  refine ⟨(site_inPlace programs p s).symm, fun l => ?_⟩
  rcases h.get?_inPlace p s l with h | ⟨c, -, hc, hd⟩
  · rw [h]
  · simp [hc, hd]

/-- A file that a confined program has removed is missing. -/
theorem Confined.size_inPlace (h : Confined programs f.program) {p : Path} {c : ByteArray}
    (hp : s.FileAt p c) (hnot : (inPlace programs f p s).2.isFile p = false) :
    (inPlace programs f p s).2.size p = .error .notFound := by
  obtain ⟨l, hl, hc⟩ := hp
  have hdirs := h.sameDirectories_inPlace p s
  refine Store.size_of_not_isFile (hl.mono hdirs.keepsDirectories) (fun hd => ?_) hnot
  rw [(hdirs.same l).2 hd] at hc
  cases hc

/-- A confined program that fills a file changes at most the file it is handed and that file. -/
theorem Confined.get?_filled (h : Confined programs f.program) (input output : Path) (s : Store)
    (l : Location) :
    (filled programs f input output s).2.get? l = s.get? l ∨
      (∃ c, s.Denotes input l ∧ s.get? l = some (.file c) ∧
        (filled programs f input output s).2.get? l ≠ some .directory) ∨
      ∃ c c', s.Denotes output l ∧ s.get? l = some (.file c) ∧
        (filled programs f input output s).2.get? l = some (.file c') := by
  rcases h (stagedInvocation f input output) input s l rfl
    (getLast?_stagedArgs f input output) with h | h | ⟨q, c, c', hq, hl⟩
  · exact .inl h
  · exact .inr (.inl h)
  · obtain rfl : output = q := Option.some.inj hq
    exact .inr (.inr ⟨c, c', hl⟩)

theorem Confined.sameDirectories_filled (h : Confined programs f.program) (input output : Path)
    (s : Store) : s.SameDirectories (filled programs f input output s).2 := by
  refine ⟨(site_filled programs input output s).symm, fun l => ?_⟩
  rcases h.get?_filled input output s l with h | ⟨c, -, hc, hd⟩ | ⟨c, c', -, hc, hc'⟩
  · rw [h]
  · simp [hc, hd]
  · simp [hc, hc']

/-- Every program removes the file it is handed. -/
def remover : Programs where
  run i s :=
    match i.args.getLast? with
    | none => .ended (.exit 1) .empty s
    | some text => .ended (.exit 0) .empty (s.removed ⟨text⟩)

theorem confined_remover (program : String) : Confined remover program := by
  intro i p s l _ hlast
  simp only [remover, hlast, store_ended _ _ (Store.sameDirectories_removed s p).site.symm]
  cases hr : s.remove p with
  | error fault =>
    rw [Store.removed_of_error hr]
    exact .inl rfl
  | ok t =>
    obtain ⟨k, c, hk, hc, rfl⟩ := Store.remove_eq_ok_iff.1 hr
    rw [Store.removed_of_ok hr, Store.get?_erase _ _ _ (Store.not_isFixed (by simp [hc]))]
    by_cases hlk : l = k
    · exact .inr (.inl ⟨c, hlk ▸ hk, hlk ▸ hc, by simp [hlk]⟩)
    · exact .inl (if_neg hlk)

/-- Every program writes over the file it is handed and then fails. -/
def spoiler : Programs where
  run i s :=
    match i.args.getLast? with
    | none => .ended (.exit 1) .empty s
    | some text =>
      match s.isFile ⟨text⟩, s.write ⟨text⟩ "bad\n".toUTF8 with
      | true, (none, t) => .ended (.exit 1) .empty t
      | _, _ => .ended (.exit 1) .empty s

theorem confined_spoiler (program : String) : Confined spoiler program := by
  intro i p s l _ hlast
  simp only [spoiler, hlast]
  split
  · next t hfile hwrite =>
    obtain ⟨c, hc⟩ := Store.isFile_iff.1 hfile
    obtain ⟨k, hk, hd, -, rfl⟩ := Store.write_eq_none_iff.1 hwrite
    rw [store_ended _ _ (Store.site_insert ..), Store.get?_insert _ _ _ _ (Store.not_isFixed hd)]
    by_cases hlk : l = k
    · subst hlk
      exact .inr (.inl ⟨c, hk, hc.of_denotes hk rfl, by simp⟩)
    · exact .inl (if_neg hlk)
  · exact .inl (by rw [store_ended _ _ rfl])

/-! ### Programs that only print -/

/-- What a program that only prints leaves when it has filled a file. -/
theorem OnlyPrints.get?_filled {input : Path} {print : Store → ByteArray}
    (h : OnlyPrints programs (stagedInvocation f input output) print)
    (hout : s.FileAt output .empty) (l : Location) :
    (filled programs f input output s).2.get? l =
      if s.locate output = l then some (.file (print s)) else s.get? l := by
  obtain ⟨k, hk, he⟩ := hout
  rw [Store.locate_of_denotes hk]
  split
  · next hl =>
    subst hl
    exact h.output s output k rfl hk he
  · next hl =>
    refine h.frame s l fun q hq hql => hl ?_
    obtain rfl : output = q := Option.some.inj hq
    exact hk.unique hql rfl

/-- A program that only prints into a file makes and removes no directory. -/
theorem OnlyPrints.sameDirectories_filled {input : Path} {print : Store → ByteArray}
    (h : OnlyPrints programs (stagedInvocation f input output) print)
    (hout : s.FileAt output .empty) :
    s.SameDirectories (filled programs f input output s).2 := by
  refine ⟨(site_filled programs input output s).symm, fun l => ?_⟩
  rw [h.get?_filled hout]
  split
  · next hl =>
    obtain ⟨k, hk, he⟩ := hout
    rw [← hl, Store.locate_of_denotes hk]
    simp [he]
  · rfl

/-- No program can be started. -/
def noPrograms : Programs where
  run _ _ := .notStarted .notFound

theorem onlyPrints_noPrograms (i : Invocation) : OnlyPrints noPrograms i fun _ => .empty where
  output _ _ _ _ _ h := h
  frame _ _ _ := rfl

/-- Every program prints a text and succeeds. -/
def printer (print : Store → ByteArray) : Programs where
  run i s :=
    match i.output.map s.writeLocation with
    | none => .ended (.exit 0) .empty s
    | some (.ok l) => .ended (.exit 0) .empty (s.insert l (.file (print s)))
    | some (.error fault) => .notStarted fault

theorem onlyPrints_printer (i : Invocation) (print : Store → ByteArray) :
    OnlyPrints (printer print) i print where
  output s q l hi hq hl := by
    have hw : s.writeLocation q = .ok l := Store.writeLocation_eq_ok_iff.2 ⟨hq, by simp [hl]⟩
    have hget := Store.get?_insert s l l (.file (print s)) (Store.not_isFixed (by simp [hl]))
    simp only [printer, hi, Option.map_some, hw, store_ended _ _ (Store.site_insert ..)]
    exact hget.trans (if_pos rfl)
  frame s l h := by
    simp only [printer]
    cases hi : i.output with
    | none => rfl
    | some q =>
      cases hw : s.writeLocation q with
      | error fault => simp [Outcome.store, hw]
      | ok k =>
        obtain ⟨hk, hd⟩ := Store.writeLocation_eq_ok_iff.1 hw
        have hlk : l ≠ k := fun hlk => h q hi (hlk ▸ hk)
        have hget := Store.get?_insert s k l (.file (print s)) (Store.not_isFixed hd)
        simp only [Option.map_some, hw, store_ended _ _ (Store.site_insert ..)]
        exact hget.trans (if_neg hlk)

end Imprint.Formatting
