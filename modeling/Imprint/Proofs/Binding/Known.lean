import Imprint.Proofs.Binding.Entries

/-!
# Lists of variables with known keys

Keys can be restricted to known ones. Each entry is then tested as it is read, and the first one
with another key is refused. This comes to the same as reading the whole list without restriction
and testing the keys of its binding, for no key is lost on the way. So more known keys never do
harm, and a list that is refused anyway is refused at the same entry or at one before it.

## Main results

* `Imprint.Binding.flawed_some_iff`: the flaws that a restriction adds.
* `Imprint.Binding.resolve_some_eq_ok_iff`: a restricted list as an unrestricted one.
* `Imprint.Binding.FailsAt.restrict`: where a list is refused that is refused anyway.
* `Imprint.Binding.resolve_some_iff`: the restriction is a test of the binding.
-/

namespace Imprint.Binding

variable {keys : List String} {token : List Char} {ts : List (List Char)} {flaw : BindingFlaw}
  {vars : String} {b : Binding} {e e' : BindingError} {i j : Nat}

/-! ### One entry -/

/-- A restriction adds the flaw of an entry whose key is not known. -/
theorem flawed_some_iff : Flawed (some keys) token flaw ↔ Flawed none token flaw ∨
    ∃ key value, Assigns token key value ∧ key ≠ "" ∧ key ∉ keys ∧ flaw = .unknownKey key := by
  constructor
  · rintro (h | ⟨htoken, hleft⟩ | ⟨h, hkey, hknown, hunknown⟩)
    · exact .inl (.noValue h)
    · exact .inl (.noKey htoken hleft)
    · obtain rfl := Option.some.inj hknown
      exact .inr ⟨_, _, h, hkey, hunknown, rfl⟩
  · rintro (h | ⟨key, value, h, hkey, hunknown, rfl⟩)
    · cases h with
      | noValue h => exact .noValue h
      | noKey htoken hleft => exact .noKey htoken hleft
      | unknownKey _ _ hknown => cases hknown
    · exact .unknownKey h hkey rfl hunknown

theorem Flawed.restrict (h : Flawed none token flaw) : Flawed (some keys) token flaw :=
  flawed_some_iff.2 (.inl h)

/-- An entry has one flaw at most. -/
theorem Flawed.unique {known : Option (List String)} {flaw' : BindingFlaw}
    (h : Flawed known token flaw) (h' : Flawed known token flaw') : flaw = flaw' := by
  have hrefused {f : BindingFlaw} (hf : Flawed known token f) :
      entryOf known token = .error ⟨String.ofList token, f⟩ := entryOf_eq_error_iff.2 ⟨hf, rfl⟩
  simpa using (hrefused h).symm.trans (hrefused h')

theorem entryOf_some_eq_ok_iff {p : String × String} :
    entryOf (some keys) token = .ok p ↔ entryOf none token = .ok p ∧ p.1 ∈ keys := by
  obtain ⟨key, value⟩ := p
  simp [entryOf_eq_ok_iff, allowed, and_assoc]

/-! ### A whole list -/

/-- A list is read under a restriction exactly when it is read without one and all keys of its
binding are known. -/
theorem resolve_some_eq_ok_iff :
    resolve (some keys) vars = .ok b ↔ resolve none vars = .ok b ∧ ∀ k ∈ b.keys, k ∈ keys := by
  rw [resolve_eq_ok, resolve_eq_ok]
  simp only [entryOf_some_eq_ok_iff]
  constructor
  · rintro ⟨pairs, hpairs, rfl⟩
    refine ⟨⟨pairs, hpairs.imp fun _ _ hp => hp.1, rfl⟩, fun k hk => ?_⟩
    obtain ⟨p, hp, rfl⟩ := mem_keys_ofList.1 hk
    obtain ⟨t, -, -, hknown⟩ := exists_mem_of_forall₂ hpairs hp
    exact hknown
  · rintro ⟨⟨pairs, hpairs, rfl⟩, hkeys⟩
    have hknown : ∀ p ∈ pairs, p.1 ∈ keys := fun p hp =>
      hkeys p.1 (mem_keys_ofList.2 ⟨p, hp, rfl⟩)
    have hboth := (List.forall₂_and_left _ _).2 ⟨hknown, hpairs.flip⟩
    exact ⟨pairs, hboth.flip.imp fun _ _ hp => hp.symm, rfl⟩

/-- A list that is refused without a restriction is refused with one at the same entry in the same
way, or because of an unknown key before it. -/
theorem FailsAt.restrict (h : FailsAt none ts i e) (h' : FailsAt (some keys) ts j e') :
    j = i ∧ e' = e ∨ j < i ∧ ∃ key, e'.flaw = .unknownKey key := by
  obtain ⟨token, htoken, hbefore, hflawed, htext⟩ := h
  obtain ⟨token', htoken', hbefore', hflawed', htext'⟩ := h'
  rcases Nat.lt_trichotomy i j with hlt | rfl | hgt
  · have hmem : token ∈ ts.take j :=
      List.mem_of_getElem? ((List.getElem?_take_of_lt hlt).trans htoken)
    exact absurd hflawed.restrict (hbefore' token hmem _)
  · obtain rfl : token = token' := by simpa [htoken] using htoken'
    obtain ⟨text, flaw⟩ := e
    obtain ⟨text', flaw'⟩ := e'
    obtain rfl : flaw = flaw' := hflawed.restrict.unique hflawed'
    obtain rfl : text = text' := htext.trans htext'.symm
    exact .inl ⟨rfl, rfl⟩
  · have hmem : token' ∈ ts.take i :=
      List.mem_of_getElem? ((List.getElem?_take_of_lt hgt).trans htoken')
    rcases flawed_some_iff.1 hflawed' with hnone | ⟨key, value, -, -, -, hflaw⟩
    · exact absurd hnone (hbefore token' hmem _)
    · exact .inr ⟨hgt, key, hflaw⟩

/-- A list that is refused only because of a restriction is refused at the first entry whose key is
not known. -/
theorem exists_unknown_of_resolve (hok : resolve none vars = .ok b)
    (h : resolve (some keys) vars = .error e) :
    ∃ i token key value, (tokens vars)[i]? = some token ∧ Assigns token key value ∧ key ∉ keys ∧
      e = ⟨String.ofList token, .unknownKey key⟩ ∧
      ∀ t ∈ (tokens vars).take i, ∀ k x, Assigns t k x → k ∈ keys := by
  obtain ⟨i, token, htoken, hbefore, hflawed, htext⟩ := resolve_eq_error_iff.1 h
  have hnone : ∀ t ∈ tokens vars, ∀ flaw, ¬ Flawed none t flaw := (resolve_eq_ok_iff.1 hok).1
  obtain ⟨text, flaw⟩ := e
  obtain rfl : text = String.ofList token := htext
  rcases flawed_some_iff.1 hflawed with h | ⟨key, value, hassigns, -, hunknown, rfl⟩
  · exact absurd h (hnone token (List.mem_of_getElem? htoken) _)
  · refine ⟨i, token, key, value, htoken, hassigns, hunknown, rfl, fun t ht k x hk => ?_⟩
    obtain ⟨p, hp⟩ := exists_entryOf_iff.2 (hbefore t ht)
    obtain ⟨hp, hknown⟩ := entryOf_some_eq_ok_iff.1 hp
    obtain ⟨rfl, -⟩ := hk.unique (entryOf_eq_ok_iff.1 hp).1
    exact hknown

/-- Known keys are a test of the binding. A list is read under the restriction exactly when it is
read without it and all keys of its binding are known, and the binding is the same. When it is
refused only because of the restriction, the first entry with an unknown key is reported; when it is
refused anyway, then at the same entry or at one before it. More known keys never turn a success
into a failure or change the binding. -/
theorem resolve_some_iff (keys : List String) (vars : String) :
    (∀ b, resolve (some keys) vars = .ok b ↔
      resolve none vars = .ok b ∧ ∀ k ∈ b.keys, k ∈ keys) ∧
    (∀ b e, resolve none vars = .ok b → resolve (some keys) vars = .error e →
      ∃ i token key value, (tokens vars)[i]? = some token ∧ Assigns token key value ∧ key ∉ keys ∧
        e = ⟨String.ofList token, .unknownKey key⟩ ∧
        ∀ t ∈ (tokens vars).take i, ∀ k x, Assigns t k x → k ∈ keys) ∧
    (∀ e e', resolve none vars = .error e → resolve (some keys) vars = .error e' →
      ∃ i j, FailsAt none (tokens vars) i e ∧ FailsAt (some keys) (tokens vars) j e' ∧
        (j = i ∧ e' = e ∨ j < i ∧ ∃ key, e'.flaw = .unknownKey key)) ∧
    ∀ keys', keys ⊆ keys' → ∀ b, resolve (some keys) vars = .ok b →
      resolve (some keys') vars = .ok b := by
  refine ⟨fun b => resolve_some_eq_ok_iff, fun b e => exists_unknown_of_resolve,
    fun e e' he he' => ?_, fun keys' hkeys b hb => ?_⟩
  · obtain ⟨i, hi⟩ := resolve_eq_error_iff.1 he
    obtain ⟨j, hj⟩ := resolve_eq_error_iff.1 he'
    exact ⟨i, j, hi, hj, hi.restrict hj⟩
  · obtain ⟨hb, hknown⟩ := resolve_some_eq_ok_iff.1 hb
    exact resolve_some_eq_ok_iff.2 ⟨hb, fun k hk => hkeys (hknown k hk)⟩

/-- In a list with an unknown key before an entry without an `=`, the restriction is what it is
refused for. Without these two entries it is read, and it still is when one more key is known. -/
theorem resolve_some_iff_unknown :
    (∃ i j, FailsAt none (tokens "a=1;b=2;c") i ⟨"c", .noValue⟩ ∧
      FailsAt (some ["a"]) (tokens "a=1;b=2;c") j ⟨"b=2", .unknownKey "b"⟩ ∧ j < i) ∧
    resolve (some ["a"]) "a=1" = .ok (empty.insert "a" "1") ∧
    resolve (some ["b", "a"]) "a=1" = .ok (empty.insert "a" "1") := by
  have hrefused : resolve none "a=1;b=2;c" = .error ⟨"c", .noValue⟩ := by rfl
  have hunknown : resolve (some ["a"]) "a=1;b=2;c" = .error ⟨"b=2", .unknownKey "b"⟩ := by rfl
  have hread : resolve (some ["a"]) "a=1" = .ok (empty.insert "a" "1") := by rfl
  obtain ⟨i, j, hi, hj, hplace⟩ := (resolve_some_iff ["a"] "a=1;b=2;c").2.2.1 _ _ hrefused hunknown
  refine ⟨⟨i, j, hi, hj, ?_⟩, hread,
    (resolve_some_iff ["a"] "a=1").2.2.2 ["b", "a"] (by simp) _ hread⟩
  rcases hplace with ⟨-, heq⟩ | ⟨hlt, -⟩
  · exact absurd heq (by decide)
  · exact hlt

end Imprint.Binding
