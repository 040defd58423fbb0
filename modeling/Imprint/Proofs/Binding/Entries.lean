import Imprint.Proofs.Binding.Override

/-!
# The entries of a list of variables

Each entry of a list of variables that is not blank gives a value to a key or has a flaw: there is
no `=` in it, or nothing but blanks before the first one, or its key is not among the known keys.
A list is refused at its first entry with a flaw, and this entry is reported as it stands. When no
entry has one, each key has the value of the last entry that gives it one.

## Main definitions

* `Imprint.Binding.Assigns`: an entry gives a value to a key.
* `Imprint.Binding.Flawed`: what is wrong with an entry.
* `Imprint.Binding.FailsAt`: the first entry with a flaw.
* `Imprint.Binding.LastAssigns`: the last entry that gives a value to a key.

## Main results

* `Imprint.Binding.resolve_eq_error_iff`, `Imprint.Binding.resolve_eq_ok_iff`: when a list of
  variables is refused, and what its binding is otherwise.
* `Imprint.Binding.resolve_overrides`: both, together with the rule for two lists in a row.
-/

namespace Imprint.Binding

variable {known : Option (List String)} {token : List Char} {ts : List (List Char)}
  {key value vars : String} {b : Binding} {e : BindingError}

/-! ### One entry -/

/-- An entry gives a value to a key: the text before its first `=` and the text after it, both
trimmed. -/
def Assigns (token : List Char) (key value : String) : Prop :=
  ∃ left right, token = left ++ '=' :: right ∧ '=' ∉ left ∧
    key = String.ofList (Text.trim left) ∧ value = String.ofList (Text.trim right)

/-- What is wrong with an entry. -/
inductive Flawed (known : Option (List String)) (token : List Char) : BindingFlaw → Prop
  | noValue (h : '=' ∉ token) : Flawed known token .noValue
  | noKey {left right : List Char} (htoken : token = left ++ '=' :: right)
      (hleft : ∀ c ∈ left, Text.isBlank c = true) : Flawed known token .noKey
  | unknownKey {key value : String} {keys : List String} (h : Assigns token key value)
      (hkey : key ≠ "") (hknown : known = some keys) (hunknown : key ∉ keys) :
      Flawed known token (.unknownKey key)

theorem cutAt?_eq_some_iff {left right : List Char} :
    Text.cutAt? '=' token = some (left, right) ↔ token = left ++ '=' :: right ∧ '=' ∉ left := by
  constructor
  · intro h
    obtain ⟨c, hc, htoken, hleft⟩ := Text.cutWhere?_eq_some h
    obtain rfl : c = '=' := by simpa using hc
    exact ⟨htoken, fun hmem => by simpa using hleft _ hmem⟩
  · rintro ⟨rfl, hleft⟩
    refine Text.cutWhere?_append (fun c hc => ?_) (by simp) right
    exact beq_eq_false_iff_ne.2 fun heq => hleft (heq ▸ hc)

theorem cutAt?_eq_none_iff : Text.cutAt? '=' token = none ↔ '=' ∉ token := by
  rw [Text.cutAt?, Text.cutWhere?_eq_none_iff]
  exact ⟨fun h hmem => by simpa using h _ hmem,
    fun h c hc => beq_eq_false_iff_ne.2 fun heq => h (heq ▸ hc)⟩

theorem assigns_iff : Assigns token key value ↔ ∃ left right,
    Text.cutAt? '=' token = some (left, right) ∧ key = String.ofList (Text.trim left) ∧
      value = String.ofList (Text.trim right) := by
  simp only [Assigns, cutAt?_eq_some_iff, and_assoc]

theorem Assigns.unique {key' value' : String} (h : Assigns token key value)
    (h' : Assigns token key' value') : key = key' ∧ value = value' := by
  obtain ⟨left, right, hcut, rfl, rfl⟩ := assigns_iff.1 h
  obtain ⟨left', right', hcut', rfl, rfl⟩ := assigns_iff.1 h'
  obtain ⟨rfl, rfl⟩ : left = left' ∧ right = right' := by simpa [hcut] using hcut'
  exact ⟨rfl, rfl⟩

theorem allowed_eq_false_iff :
    allowed known key = false ↔ ∃ keys, known = some keys ∧ key ∉ keys := by
  cases known <;> simp [allowed]

/-- An entry is read as a pair when it gives a value to a key that may be used. -/
theorem entryOf_eq_ok_iff : entryOf known token = .ok (key, value) ↔
    Assigns token key value ∧ key ≠ "" ∧ allowed known key = true := by
  rw [assigns_iff]
  cases hcut : Text.cutAt? '=' token with
  | none => simp [entryOf, hcut]
  | some x =>
    obtain ⟨left, right⟩ := x
    simp only [entryOf, hcut, Option.some.injEq, Prod.mk.injEq]
    constructor
    · intro h
      split at h
      · cases h
      · next hkey =>
        split at h
        · cases h
        · next hknown =>
          obtain ⟨rfl, rfl⟩ := Prod.mk.inj (Except.ok.inj h)
          exact ⟨⟨left, right, ⟨rfl, rfl⟩, rfl, rfl⟩, by simpa using hkey, by simpa using hknown⟩
    · rintro ⟨⟨_, _, ⟨rfl, rfl⟩, rfl, rfl⟩, hkey, hknown⟩
      rw [if_neg (by simpa using hkey), if_neg (by simpa using hknown)]

/-- An entry is refused when it has a flaw, as it stands. -/
theorem entryOf_eq_error_iff : entryOf known token = .error e ↔
    Flawed known token e.flaw ∧ e.token = String.ofList token := by
  constructor
  · intro h
    simp only [entryOf] at h
    split at h
    · next hnone =>
      obtain rfl := Except.error.inj h
      exact ⟨.noValue (cutAt?_eq_none_iff.1 hnone), rfl⟩
    · next left right hcut =>
      obtain ⟨htoken, -⟩ := cutAt?_eq_some_iff.1 hcut
      split at h
      · next hkey =>
        obtain rfl := Except.error.inj h
        exact ⟨.noKey htoken (Text.trim_eq_nil_iff.1 (by simpa using hkey)), rfl⟩
      · next hkey =>
        split at h
        · next hunknown =>
          obtain rfl := Except.error.inj h
          obtain ⟨keys, hknown, hmem⟩ := allowed_eq_false_iff.1 (by simpa using hunknown)
          have hassigns := assigns_iff.2 ⟨left, right, hcut, rfl, rfl⟩
          exact ⟨.unknownKey hassigns (by simpa using hkey) hknown hmem, rfl⟩
        · cases h
  · obtain ⟨text, flaw⟩ := e
    rintro ⟨hflawed, rfl⟩
    cases hflawed with
    | noValue h => simp [entryOf, cutAt?_eq_none_iff.2 h]
    | @noKey left right htoken hleft =>
      have hequals : '=' ∉ left := fun hmem => by
        have hblank := hleft _ hmem
        revert hblank
        decide
      simp [entryOf, cutAt?_eq_some_iff.2 ⟨htoken, hequals⟩, Text.trim_eq_nil_iff.2 hleft]
    | unknownKey h hkey hknown hunknown =>
      obtain ⟨left, right, hcut, rfl, rfl⟩ := assigns_iff.1 h
      have hallowed := allowed_eq_false_iff.2 ⟨_, hknown, hunknown⟩
      simp only [entryOf, hcut, hallowed]
      rw [if_neg (by simpa using hkey)]
      rfl

/-- An entry without a flaw is read as the pair that it assigns. -/
theorem exists_entryOf_iff :
    (∃ p, entryOf known token = .ok p) ↔ ∀ flaw, ¬ Flawed known token flaw := by
  constructor
  · rintro ⟨p, hp⟩ flaw hflawed
    have hrefused : entryOf known token = .error ⟨String.ofList token, flaw⟩ :=
      entryOf_eq_error_iff.2 ⟨hflawed, rfl⟩
    cases hrefused.symm.trans hp
  · intro h
    cases hentry : entryOf known token with
    | ok p => exact ⟨p, rfl⟩
    | error e => exact absurd (entryOf_eq_error_iff.1 hentry).1 (h e.flaw)

/-! ### The entries of a list -/

/-- The entry at a place, counted from zero, is the first one with a flaw, and is reported. -/
def FailsAt (known : Option (List String)) (ts : List (List Char)) (i : Nat) (e : BindingError) :
    Prop :=
  ∃ token, ts[i]? = some token ∧ (∀ t ∈ ts.take i, ∀ flaw, ¬ Flawed known t flaw) ∧
    Flawed known token e.flaw ∧ e.token = String.ofList token

/-- The last entry that gives a value to a key gives it this one. -/
def LastAssigns (ts : List (List Char)) (key value : String) : Prop :=
  ∃ before token after, ts = before ++ token :: after ∧ Assigns token key value ∧
    ∀ t ∈ after, ∀ value', ¬ Assigns t key value'

theorem exists_pairs_iff : (∃ pairs, List.Forall₂ (fun t p => entryOf known t = .ok p) ts pairs) ↔
    ∀ t ∈ ts, ∀ flaw, ¬ Flawed known t flaw := by
  simp only [← exists_entryOf_iff]
  induction ts with
  | nil => simp
  | cons t ts ih =>
    rw [List.forall_mem_cons, ← ih]
    constructor
    · rintro ⟨pairs, hpairs⟩
      cases hpairs with
      | cons ht hts => exact ⟨⟨_, ht⟩, ⟨_, hts⟩⟩
    · rintro ⟨⟨p, ht⟩, ⟨pairs, hts⟩⟩
      exact ⟨p :: pairs, .cons ht hts⟩

/-- The pairs of entries look a key up as the last entry assigns it. -/
theorem get?_ofList_iff {pairs : List (String × String)}
    (h : List.Forall₂ (fun t p => entryOf known t = .ok p) ts pairs) :
    (ofList pairs).get? key = some value ↔ LastAssigns ts key value := by
  have hassigns : List.Forall₂ (fun t (p : String × String) => Assigns t p.1 p.2) ts pairs :=
    h.imp fun _ _ hp => (entryOf_eq_ok_iff.1 hp).1
  rw [get?_ofList, List.lookup_eq_some_iff]
  constructor
  · rintro ⟨after, before, hsplit, hafter⟩
    have hpairs : pairs = before.reverse ++ (key, value) :: after.reverse := by
      rw [← List.reverse_reverse pairs, hsplit]
      simp
    rw [hpairs] at hassigns
    obtain ⟨front, token, back, rfl, -, htoken, hback⟩ := exists_cut_of_forall₂ hassigns
    refine ⟨front, token, back, rfl, htoken, fun t ht value' hlater => ?_⟩
    obtain ⟨p, hp, hp'⟩ := exists_mem_of_forall₂ hback.flip ht
    exact bne_iff_ne.1 (hafter p (List.mem_reverse.1 hp)) (hlater.unique hp').1
  · rintro ⟨front, token, back, rfl, htoken, hback⟩
    obtain ⟨before, p, after, rfl, -, hp, hafter⟩ := exists_cut_of_forall₂ hassigns.flip
    obtain ⟨rfl, rfl⟩ := htoken.unique hp
    refine ⟨after.reverse, before.reverse, by simp, fun p' hp' => bne_iff_ne.2 fun heq => ?_⟩
    obtain ⟨t, ht, hlater⟩ := exists_mem_of_forall₂ hafter.flip (List.mem_reverse.1 hp')
    exact hback t ht p'.2 (heq ▸ hlater)

/-- A list of variables is refused at its first entry with a flaw. -/
theorem resolve_eq_error_iff :
    resolve known vars = .error e ↔ ∃ i, FailsAt known (tokens vars) i e := by
  rw [resolve, bind_eq_error, mapM_eq_error_iff]
  constructor
  · rintro (⟨before, token, after, pairs, hsplit, hbefore, htoken⟩ | ⟨pairs, -, h⟩)
    · refine ⟨before.length, token, by simp [hsplit], ?_, entryOf_eq_error_iff.1 htoken⟩
      rw [hsplit, List.take_left]
      exact exists_pairs_iff.1 ⟨pairs, hbefore⟩
    · cases h
  · rintro ⟨i, token, htoken, hbefore, hflawed⟩
    obtain ⟨hi, rfl⟩ := List.getElem?_eq_some_iff.1 htoken
    obtain ⟨pairs, hpairs⟩ := exists_pairs_iff.2 hbefore
    have hsplit : tokens vars =
        (tokens vars).take i ++ (tokens vars)[i] :: (tokens vars).drop (i + 1) := by
      rw [List.getElem_cons_drop, List.take_append_drop]
    exact .inl ⟨_, _, _, pairs, hsplit, hpairs, entryOf_eq_error_iff.2 hflawed⟩

/-- The binding of a list of variables is that of the pairs of its entries. -/
theorem resolve_eq_ok : resolve known vars = .ok b ↔ ∃ pairs,
    List.Forall₂ (fun t p => entryOf known t = .ok p) (tokens vars) pairs ∧ ofList pairs = b := by
  rw [resolve, bind_eq_ok]
  simp only [mapM_eq_ok_iff, Except.ok.injEq]

theorem exists_resolve_error_iff : (∃ e, resolve known vars = .error e) ↔
    ∃ t ∈ tokens vars, ∃ flaw, Flawed known t flaw := by
  have hok : (∃ b, resolve known vars = .ok b) ↔
      ∀ t ∈ tokens vars, ∀ flaw, ¬ Flawed known t flaw := by
    simp only [← exists_pairs_iff, resolve_eq_ok]
    exact ⟨fun ⟨_, pairs, hpairs, _⟩ => ⟨pairs, hpairs⟩, fun ⟨pairs, hpairs⟩ =>
      ⟨_, pairs, hpairs, rfl⟩⟩
  cases hresolve : resolve known vars with
  | ok b =>
    have hnone := hok.1 ⟨b, hresolve⟩
    simp only [reduceCtorEq, exists_false, false_iff, not_exists, not_and]
    exact fun t ht flaw => hnone t ht flaw
  | error e =>
    have hsome := mt hok.2 (by simp [hresolve])
    simpa using hsome

/-- A list of variables without flaws has the binding that its entries assign. -/
theorem resolve_eq_ok_iff : resolve known vars = .ok b ↔
    (∀ t ∈ tokens vars, ∀ flaw, ¬ Flawed known t flaw) ∧
      ∀ key value, b.get? key = some value ↔ LastAssigns (tokens vars) key value := by
  rw [resolve_eq_ok, ← exists_pairs_iff]
  constructor
  · rintro ⟨pairs, hpairs, rfl⟩
    exact ⟨⟨pairs, hpairs⟩, fun _ _ => get?_ofList_iff hpairs⟩
  · rintro ⟨⟨pairs, hpairs⟩, hget⟩
    refine ⟨pairs, hpairs, eq_of_get? fun k => Option.ext fun value => ?_⟩
    rw [get?_ofList_iff hpairs, hget]

/-- Lists of variables are read from left to right. Of two in a row the first decides whether there
is an error, then the second, and the binding of the second overrides that of the first. A list is
refused when one of its entries has a flaw, and the first such entry is reported; otherwise a key is
bound to what the last entry assigns to it, and to nothing else. The entries are the texts between
the semicolons that are not blank. -/
theorem resolve_overrides (known : Option (List String)) :
    (∀ u v : String, resolve known (u ++ ";" ++ v) = (do
      let x ← resolve known u
      let y ← resolve known v
      return x.override y)) ∧
    (∀ (x y : Binding) (key : String),
      (x.override y).get? key = (y.get? key).or (x.get? key)) ∧
    (∀ entries : List (List Char), entries ≠ [] → (∀ t ∈ entries, ';' ∉ t) →
      tokens (String.ofList (List.intercalate [';'] entries)) =
        entries.filter (!Text.isAllBlank ·)) ∧
    ∀ vars : String,
      ((∃ e, resolve known vars = .error e) ↔ ∃ t ∈ tokens vars, ∃ flaw, Flawed known t flaw) ∧
      (∀ e, resolve known vars = .error e ↔ ∃ i, FailsAt known (tokens vars) i e) ∧
      ∀ b, resolve known vars = .ok b ↔
        (∀ t ∈ tokens vars, ∀ flaw, ¬ Flawed known t flaw) ∧
          ∀ key value, b.get? key = some value ↔ LastAssigns (tokens vars) key value :=
  ⟨resolve_append known, get?_override, fun _ => tokens_intercalate, fun _ =>
    ⟨exists_resolve_error_iff, fun _ => resolve_eq_error_iff, fun _ => resolve_eq_ok_iff⟩⟩

/-- In a list with a blank entry, a key that may not be used and an entry without an `=`, the second
entry that is not blank is reported. -/
theorem resolve_overrides_restricted :
    resolve (some ["a"]) "a=1; ;c = x=y;a" = .error ⟨"c = x=y", .unknownKey "c"⟩ := by
  obtain ⟨-, -, htokens, hvars⟩ := resolve_overrides (some ["a"])
  have hentries : tokens "a=1; ;c = x=y;a" = ["a=1".toList, "c = x=y".toList, "a".toList] :=
    htokens ["a=1".toList, [' '], "c = x=y".toList, "a".toList] (by decide) (by decide)
  refine ((hvars _).2.1 _).2 ⟨1, "c = x=y".toList, by rw [hentries]; rfl, ?_, ?_, rfl⟩
  · rw [hentries]
    refine List.forall_mem_singleton.2 (exists_entryOf_iff.1 ⟨("a", "1"), ?_⟩)
    exact entryOf_eq_ok_iff.2 ⟨⟨['a'], ['1'], rfl, by decide, rfl, rfl⟩, by decide, rfl⟩
  · exact .unknownKey ⟨"c ".toList, " x=y".toList, rfl, by decide, rfl, rfl⟩ (by decide) rfl
      (by decide)

end Imprint.Binding
