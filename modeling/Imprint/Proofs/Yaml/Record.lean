import Imprint.Proofs.Results
import Imprint.Yaml.Reading

/-!
# What a record says

A record is read entry by entry: the name of each key decides which field its value is read into,
and what is read goes into the record that is there so far. Seen from the end the order does not
matter. When a record is read, every key is the name of a field, no field is given twice, and each
field has the value that is read where it is given, or else the value that it had at the start. And
whenever there is a value with these properties, it is what is read.

A record type is described by its *layout*, the list of its fields. A field says what its value may
be at a node by a relation, so a field can be a record itself.

## Main definitions

* `Imprint.Yaml.entries?`, `Imprint.Yaml.name?`, `Imprint.Yaml.given?`: the parts of a record.
* `Imprint.Yaml.RecordField`: a field of a record type.
* `Imprint.Yaml.RecordField.Settled`: what is known of a field when a record is read.
* `Imprint.Yaml.Describes`: what is known of all of them.
* `Imprint.Yaml.RecordField.Law`: reading a field sets this field and no other one.

## Main results

* `Imprint.Yaml.RecordField.Law.settled_cons`: what an entry means for a field.
* `Imprint.Yaml.fieldsByName_eq_ok_iff`: what the entries of a record mean for all fields.
* `Imprint.Yaml.record_eq_ok_iff`: a record is read just when its node describes it.
-/

namespace Imprint.Yaml

variable {α : Type} {p q : Place} {node k v : Node} {entries : List (Node × Node)}
  {name expected : String} {names seen : List String} {set : String → α → Read α} {a b c : α}

/-! ### The parts of a record -/

/-- The entries of a record: those of a mapping, and none where no value stands. -/
def entries? (p : Place) (node : Node) : Option (List (Node × Node)) :=
  match p.target node with
  | .mapping _ entries => some entries
  | node => if Read.isEmpty node then some [] else none

/-- The name that a key spells. -/
def name? (p : Place) (key : Node) : Option String :=
  match p.target key with
  | .scalar _ _ _ name => some name
  | _ => none

/-- The value that is given for a name, with its place. -/
def given? (p : Place) (entries : List (Node × Node)) (name : String) : Option (Place × Node) :=
  (entries.find? fun entry => name? p entry.1 == some name).map fun entry =>
    (p.below (Read.stepTo entry.1), entry.2)

/-- A field of a record type: its name, the values that a node may stand for, and the value that it
has in a record. -/
structure RecordField (α : Type) where
  name : String
  {Value : Type}
  Reads : Place → Node → Value → Prop
  get : α → Value

/-- A field whose value is read in a certain way. -/
def RecordField.ofRead {β : Type} (name : String) (item : Read β) (get : α → β) : RecordField α :=
  ⟨name, fun q v x => item q v = .ok x, get⟩

/-- The field has the value that is given for it, or else the one that it has in `start`. -/
def RecordField.Settled (F : RecordField α) (p : Place) (entries : List (Node × Node))
    (start a : α) : Prop :=
  match given? p entries F.name with
  | some (q, v) => F.Reads q v (F.get a)
  | none => F.get a = F.get start

/-- The entries give a record: each key is the name of a field, no name comes twice, and every field
is settled. -/
structure Settles (layout : List (RecordField α)) (start : α) (p : Place)
    (entries : List (Node × Node)) (a : α) : Prop where
  known : ∀ entry ∈ entries, ∃ F ∈ layout, name? p entry.1 = some F.name
  once : (entries.map fun entry => name? p entry.1).Nodup
  settled : ∀ F ∈ layout, F.Settled p entries start a

/-- A node gives a record. -/
def Describes (layout : List (RecordField α)) (start : α) (p : Place) (node : Node)
    (a : α) : Prop :=
  ∃ entries, entries? p node = some entries ∧ Settles layout start p entries a

/-! ### One field -/

/-- Reading the field gives the value that is read to it and to no other field. -/
structure RecordField.Law (F : RecordField α) (set : String → α → Read α) : Prop where
  own : ∀ a q v x, F.Reads q v x ↔ ∃ b, set F.name a q v = .ok b ∧ F.get b = x
  other : ∀ {name a q v b}, name ≠ F.name → set name a q v = .ok b → F.get b = F.get a

/-- A value that is read by itself and then put in its place. -/
theorem item_eq_ok_iff {β : Type} {item : Read β} {get : α → β} (put : α → β → α)
    (hset : ∀ a q v, set name a q v = put a <$> item q v) (hget : ∀ a x, get (put a x) = x)
    (a : α) (q : Place) (v : Node) (x : β) :
    item q v = .ok x ↔ ∃ b, set name a q v = .ok b ∧ get b = x := by
  rw [hset]
  cases item q v with
  | error e => simp
  | ok y => simp [hget]

theorem given?_cons_of_eq (h : name? p k = some name) :
    given? p ((k, v) :: entries) name = some (p.below (Read.stepTo k), v) := by
  simp [given?, h]

theorem given?_cons_of_ne (h : name? p k ≠ some name) :
    given? p ((k, v) :: entries) name = given? p entries name := by
  simp [given?, h]

theorem given?_eq_none (h : ∀ entry ∈ entries, name? p entry.1 ≠ some name) :
    given? p entries name = none := by
  simpa [given?] using h

theorem RecordField.settled_of_given {F : RecordField α}
    (h : given? p entries F.name = some (q, v)) :
    F.Settled p entries a c ↔ F.Reads q v (F.get c) := by
  rw [Settled, h]

theorem RecordField.settled_of_not_given {F : RecordField α}
    (h : given? p entries F.name = none) :
    F.Settled p entries a c ↔ F.get c = F.get a := by
  rw [Settled, h]

/-- When an entry was read, its field has its value, and the fields of the other entries are still
to be settled. -/
theorem RecordField.Law.settled_cons {F : RecordField α} (hF : F.Law set)
    (hk : name? p k = some name)
    (hrest : ∀ entry ∈ entries, name? p entry.1 ≠ some name)
    (hset : set name a (p.below (Read.stepTo k)) v = .ok b) :
    F.Settled p ((k, v) :: entries) a c ↔ F.Settled p entries b c := by
  by_cases hname : name = F.name
  · subst hname
    rw [settled_of_given (given?_cons_of_eq hk), settled_of_not_given (given?_eq_none hrest),
      hF.own a, hset]
    simp [eq_comm]
  · have hne : name? p k ≠ some F.name := fun h => hname (Option.some.inj (hk.symm.trans h))
    rw [Settled, Settled, given?_cons_of_ne hne, hF.other hname hset]

/-! ### All fields -/

section Layout

variable {layout : List (RecordField α)}

/-- The first entry of a record can be read, and then the others give the same record. -/
theorem settles_cons_iff (hlaw : ∀ F ∈ layout, F.Law set) :
    Settles layout a p ((k, v) :: entries) c ↔
      ∃ F ∈ layout, name? p k = some F.name ∧
        (∀ entry ∈ entries, name? p entry.1 ≠ some F.name) ∧
        ∃ b, set F.name a (p.below (Read.stepTo k)) v = .ok b ∧ Settles layout b p entries c := by
  constructor
  · rintro ⟨hknown, honce, hsettled⟩
    obtain ⟨⟨F, hF, hk⟩, hknown⟩ := List.forall_mem_cons.1 hknown
    obtain ⟨hnot, honce⟩ := List.nodup_cons.1 honce
    have hrest : ∀ entry ∈ entries, name? p entry.1 ≠ some F.name := fun entry hentry h =>
      hnot (List.mem_map.2 ⟨entry, hentry, h.trans hk.symm⟩)
    have hreads : F.Reads (p.below (Read.stepTo k)) v (F.get c) :=
      (RecordField.settled_of_given (given?_cons_of_eq hk)).1 (hsettled F hF)
    obtain ⟨b, hb, -⟩ := ((hlaw F hF).own a _ _ _).1 hreads
    exact ⟨F, hF, hk, hrest, b, hb, hknown, honce,
      fun G hG => ((hlaw G hG).settled_cons hk hrest hb).1 (hsettled G hG)⟩
  · rintro ⟨F, hF, hk, hrest, b, hb, hknown, honce, hsettled⟩
    refine ⟨List.forall_mem_cons.2 ⟨⟨F, hF, hk⟩, hknown⟩, List.nodup_cons.2 ⟨fun h => ?_, honce⟩,
      fun G hG => ((hlaw G hG).settled_cons hk hrest hb).2 (hsettled G hG)⟩
    obtain ⟨entry, hentry, h⟩ := List.mem_map.1 h
    exact hrest entry hentry (h.trans hk)

theorem unexpected_ne_ok : Read.unexpected expected p node ≠ .ok a := by
  rw [Read.unexpected]
  split <;> simp

theorem text_eq_ok_iff : Read.text expected p k = .ok name ↔ name? p k = some name := by
  rw [Read.text, name?]
  cases p.target k with
  | scalar => simp
  | _ => simp [unexpected_ne_ok]

theorem fieldName_eq_ok_iff :
    Read.fieldName names p k = .ok name ↔ name? p k = some name ∧ name ∈ names := by
  rw [Read.fieldName, bind_eq_ok]
  constructor
  · rintro ⟨text, htext, h⟩
    by_cases hmem : text ∈ names
    · obtain rfl : text = name := by simpa [hmem] using h
      exact ⟨text_eq_ok_iff.1 htext, hmem⟩
    · simp [hmem] at h
  · rintro ⟨hname, hmem⟩
    exact ⟨name, text_eq_ok_iff.2 hname, by simp [hmem]⟩

theorem fieldsByName_cons_eq_ok_iff :
    Read.fieldsByName names set p seen a ((k, v) :: entries) = .ok c ↔
      ∃ name ∈ names, name? p k = some name ∧ name ∉ seen ∧
        ∃ b, set name a (p.below (Read.stepTo k)) v = .ok b ∧
          Read.fieldsByName names set p (name :: seen) b entries = .ok c := by
  simp only [Read.fieldsByName, bind_eq_ok, fieldName_eq_ok_iff]
  constructor
  · rintro ⟨name, ⟨hk, hname⟩, h⟩
    by_cases hseen : name ∈ seen
    · simp [hseen] at h
    · rw [if_neg (by simpa using hseen)] at h
      exact ⟨name, hname, hk, hseen, bind_eq_ok.1 h⟩
  · rintro ⟨name, hname, hk, hseen, h⟩
    refine ⟨name, ⟨hk, hname⟩, ?_⟩
    rw [if_neg (by simpa using hseen)]
    exact bind_eq_ok.2 h

/-- Entries are read one by one just when they give the record, and none of the names that were
seen before. -/
theorem fieldsByName_eq_ok_iff (hlaw : ∀ F ∈ layout, F.Law set)
    (hext : ∀ a b, (∀ F ∈ layout, F.get a = F.get b) → a = b) :
    Read.fieldsByName (layout.map RecordField.name) set p seen a entries = .ok c ↔
      Settles layout a p entries c ∧
        ∀ name ∈ seen, ∀ entry ∈ entries, name? p entry.1 ≠ some name := by
  induction entries generalizing seen a with
  | nil =>
    have hsettled : Settles layout a p [] c ↔ a = c := by
      constructor
      · intro h
        exact hext a c fun F hF =>
          ((RecordField.settled_of_not_given rfl).1 (h.settled F hF)).symm
      · rintro rfl
        exact ⟨by simp, by simp, fun F _ => (RecordField.settled_of_not_given rfl).2 rfl⟩
    simp [Read.fieldsByName, hsettled]
  | cons entry entries ih =>
    obtain ⟨k, v⟩ := entry
    rw [fieldsByName_cons_eq_ok_iff, settles_cons_iff hlaw]
    constructor
    · rintro ⟨_, hname, hk, hseen, b, hb, h⟩
      obtain ⟨F, hF, rfl⟩ := List.mem_map.1 hname
      obtain ⟨hsettles, hrest⟩ := ih.1 h
      obtain ⟨hF', hrest⟩ := List.forall_mem_cons.1 hrest
      refine ⟨⟨F, hF, hk, hF', b, hb, hsettles⟩, fun name hname => ?_⟩
      refine List.forall_mem_cons.2 ⟨fun h => hseen ?_, hrest name hname⟩
      rwa [Option.some.inj (hk.symm.trans h)]
    · rintro ⟨⟨F, hF, hk, hrest, b, hb, hsettles⟩, hseen⟩
      refine ⟨F.name, List.mem_map_of_mem hF, hk, fun h => ?_, b, hb, ih.2 ⟨hsettles, ?_⟩⟩
      · exact hseen F.name h (k, v) List.mem_cons_self hk
      · exact List.forall_mem_cons.2 ⟨hrest, fun name hname entry hentry =>
          hseen name hname entry (List.mem_cons_of_mem _ hentry)⟩

theorem record_eq (names : List String) (set : String → α → Read α) (a : α) (p : Place)
    (node : Node) : Read.record expected names set a p node =
      match entries? p node with
      | some entries => Read.fieldsByName names set p [] a entries
      | none => Read.unexpected expected p (p.target node) := by
  rw [Read.record, entries?]
  cases p.target node with
  | mapping => rfl
  | _ =>
    dsimp only
    split <;> rfl

/-- A record is read just when its node describes it. -/
theorem record_eq_ok_iff (hlaw : ∀ F ∈ layout, F.Law set)
    (hext : ∀ a b, (∀ F ∈ layout, F.get a = F.get b) → a = b) :
    Read.record expected (layout.map RecordField.name) set a p node = .ok c ↔
      Describes layout a p node c := by
  rw [record_eq, Describes]
  cases entries? p node with
  | none => simp [unexpected_ne_ok]
  | some entries => simp [fieldsByName_eq_ok_iff hlaw hext]

end Layout

end Imprint.Yaml
