import Imprint.Log
import Imprint.Text.Blank
import Imprint.Text.Lines
import Imprint.Text.Search

/-!
# Bindings

A binding gives values to keys, each key at most once. It is kept as a list of pairs in increasing
order of the keys. A binding is read from a list of variables: entries separated by `;`, blank ones
dropped, each of the others cut at its first `=` and trimmed on both sides; of several entries for
one key the last wins.

## Main definitions

* `Imprint.Binding`: pairs in increasing order of their keys.
* `Imprint.Binding.insert`, `Imprint.Binding.get?`, `Imprint.Binding.override`: change and look up.
* `Imprint.Binding.resolve`: the binding of a list of variables.
* `Imprint.Binding.repeatEvents`: what reading such a list reports.

## Main results

* `Imprint.Binding.get?_insert`: what a look-up finds after a change.
-/

namespace Imprint

/-- Pairs of a key and a value, in increasing order of the keys. -/
structure Binding where
  entries : List (String × String) := []
  sorted : entries.Pairwise (fun a b => a.1 < b.1) := by exact List.Pairwise.nil
  deriving DecidableEq

/-- What is wrong with an entry of a list of variables. -/
inductive BindingFlaw where
  /-- There is no `=`. -/
  | noValue
  /-- There is no key before the `=`. -/
  | noKey
  /-- The key is not one of the known keys. -/
  | unknownKey (key : String)
  deriving DecidableEq, Repr

/-- The text of a flaw. -/
def BindingFlaw.message : BindingFlaw → String
  | .noValue => "expected `key=value`"
  | .noKey => "empty key"
  | .unknownKey key => s!"unknown key `{key}`"

/-- A faulty entry, as it stands in the list. -/
structure BindingError where
  token : String
  flaw : BindingFlaw
  deriving DecidableEq, Repr

/-- The text of an error. -/
def BindingError.message (e : BindingError) : String :=
  s!"malformed binding `{e.token}`: {e.flaw.message}"

namespace Binding

/-- The binding without keys. -/
def empty : Binding := {}

instance : Inhabited Binding := ⟨empty⟩

instance : BEq Binding := ⟨fun a b => a.entries == b.entries⟩

/-- Sorted pairs with one more pair, which takes the place of one with the same key. -/
def insertEntry {α : Type} (key : String) (value : α) : List (String × α) → List (String × α)
  | [] => [(key, value)]
  | (k, v) :: rest =>
    if key < k then (key, value) :: (k, v) :: rest
    else if key = k then (key, value) :: rest
    else (k, v) :: insertEntry key value rest

theorem mem_insertEntry {key value : String} {es : List (String × String)} {e : String × String}
    (h : e ∈ insertEntry key value es) : e = (key, value) ∨ e ∈ es := by
  induction es with
  | nil => simpa [insertEntry] using h
  | cons x rest ih =>
    obtain ⟨k, v⟩ := x
    simp only [insertEntry] at h
    split at h
    · simpa using h
    · split at h
      · rcases List.mem_cons.1 h with h | h
        · exact .inl h
        · exact .inr (List.mem_cons_of_mem _ h)
      · rcases List.mem_cons.1 h with h | h
        · exact .inr (h ▸ List.mem_cons_self)
        · exact (ih h).imp_right (List.mem_cons_of_mem _)

theorem sorted_insertEntry (key value : String) {es : List (String × String)}
    (h : es.Pairwise (fun a b => a.1 < b.1)) :
    (insertEntry key value es).Pairwise (fun a b => a.1 < b.1) := by
  induction es with
  | nil => simp [insertEntry]
  | cons x rest ih =>
    obtain ⟨k, v⟩ := x
    rw [List.pairwise_cons] at h
    simp only [insertEntry]
    split
    · next hlt =>
      refine List.pairwise_cons.2 ⟨?_, List.pairwise_cons.2 h⟩
      intro e he
      rcases List.mem_cons.1 he with rfl | he
      · exact hlt
      · exact String.lt_trans hlt (h.1 e he)
    · split
      · next heq =>
        subst heq
        exact List.pairwise_cons.2 ⟨h.1, h.2⟩
      · next hnlt hne =>
        refine List.pairwise_cons.2 ⟨?_, ih h.2⟩
        intro e he
        rcases mem_insertEntry he with rfl | he
        · have hle : k ≤ key := String.not_lt.1 hnlt
          exact Std.lt_of_le_of_ne hle (Ne.symm hne)
        · exact h.1 e he

/-- The binding with one more pair; the value of a key that is there is replaced. -/
def insert (b : Binding) (key value : String) : Binding :=
  ⟨insertEntry key value b.entries, sorted_insertEntry key value b.sorted⟩

/-- The value of a key. -/
def get? (b : Binding) (key : String) : Option String :=
  b.entries.lookup key

/-- The number of keys. -/
def size (b : Binding) : Nat :=
  b.entries.length

/-- Whether there is no key. -/
def isEmpty (b : Binding) : Bool :=
  b.entries.isEmpty

/-- The keys in increasing order. -/
def keys (b : Binding) : List String :=
  b.entries.map Prod.fst

/-- The binding of pairs, of which later ones win. -/
def ofList (pairs : List (String × String)) : Binding :=
  pairs.foldl (fun b p => b.insert p.1 p.2) empty

/-- The binding `b` overridden by the pairs of `c`. -/
def override (b c : Binding) : Binding :=
  c.entries.foldl (fun b p => b.insert p.1 p.2) b

/-! ### Look-ups -/

theorem lookup_insertEntry (key value k : String) (es : List (String × String)) :
    (insertEntry key value es).lookup k = if k = key then some value else es.lookup k := by
  induction es with
  | nil =>
    by_cases h : k = key
    · simp [insertEntry, h]
    · simp [insertEntry, List.lookup_cons, h, beq_eq_false_iff_ne.2 h]
  | cons x rest ih =>
    obtain ⟨a, v⟩ := x
    simp only [insertEntry]
    split
    · by_cases h : k = key
      · simp [h]
      · simp [List.lookup_cons, h, beq_eq_false_iff_ne.2 h]
    · split
      · next heq =>
        subst heq
        by_cases h : k = key
        · simp [h]
        · simp [List.lookup_cons, h, beq_eq_false_iff_ne.2 h]
      · next hne =>
        by_cases h : k = key
        · subst h
          simp [List.lookup_cons, beq_eq_false_iff_ne.2 hne, ih]
        · simp [List.lookup_cons, ih, h]

theorem get?_insert (b : Binding) (key value k : String) :
    (b.insert key value).get? k = if k = key then some value else b.get? k :=
  lookup_insertEntry key value k b.entries

@[simp] theorem get?_empty (k : String) : empty.get? k = none := rfl

/-! ### Lists of variables -/

/-- The entries of a list of variables that are not blank. -/
def tokens (vars : String) : List (List Char) :=
  (Text.segments ';' vars.toList).filter (!Text.isAllBlank ·)

/-- Whether a key may be used. -/
def allowed (known : Option (List String)) (key : String) : Bool :=
  known.all (·.contains key)

/-- The key and the value of an entry. -/
def entryOf (known : Option (List String)) (token : List Char) :
    Except BindingError (String × String) :=
  let flawed := fun flaw => Except.error ⟨String.ofList token, flaw⟩
  match Text.cutAt? '=' token with
  | none => flawed .noValue
  | some (left, right) =>
    let key := String.ofList (Text.trim left)
    if key.isEmpty then flawed .noKey
    else if !allowed known key then flawed (.unknownKey key)
    else .ok (key, String.ofList (Text.trim right))

/-- The binding of a list of variables. When `known` is given, only its keys may occur. -/
def resolve (known : Option (List String)) (vars : String) : Except BindingError Binding := do
  .ok (ofList (← (tokens vars).mapM (entryOf known)))

/-- The keys of pairs that occurred before. -/
def repeatedKeys (pairs : List (String × String)) : List String :=
  (pairs.zipIdx.filter fun x => (pairs.take x.2).any (·.1 == x.1.1)).map (·.1.1)

/-- The pairs in front of the first faulty entry. -/
def goodPairs (known : Option (List String)) : List (List Char) → List (String × String)
  | [] => []
  | t :: rest =>
    match entryOf known t with
    | .ok p => p :: goodPairs known rest
    | .error _ => []

/-- What reading a list of variables reports: every key that is bound again. -/
def repeatEvents (known : Option (List String)) (vars : String) : List Log.Event :=
  (repeatedKeys (goodPairs known (tokens vars))).map fun key =>
    ⟨.debug, .binding, s!"binding `{key}` repeated; later value wins"⟩

end Binding

end Imprint
