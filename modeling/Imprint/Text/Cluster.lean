import Imprint.Text.Blank
import Imprint.Text.ClusterTable

/-!
# Characters as a reader sees them

A text is cut into clusters, each of which a reader takes for one character: a letter with its
marks, a syllable of parts, a flag of two signs, a row of joined pictographs.

Whether a character belongs to the cluster before it depends on its class and on how that cluster
ends. That much is kept in a `Tail`.

## Main definitions

* `Imprint.Text.ClusterClass`, `Imprint.Text.clusterClass`: the class of a character.
* `Imprint.Text.Tail`: how a cluster ends.
* `Imprint.Text.clusters`: the clusters of a text.

## Main results

* `Imprint.Text.flatten_clusters`: nothing of a text is lost.
* `Imprint.Text.ne_nil_of_mem_clusters`: no cluster is empty.
-/

namespace Imprint.Text

/-- What a character is to the characters beside it. -/
inductive ClusterClass where
  | other
  | carriageReturn
  | lineFeed
  | control
  | extend
  | linker
  | joiner
  | spacing
  | prepend
  | regional
  | leading
  | vowel
  | trailing
  /-- A syllable without a consonant at its end. -/
  | openSyllable
  /-- A syllable with a consonant at its end. -/
  | closedSyllable
  | picture
  | consonant
  deriving DecidableEq, Repr

/-- The class of a character. -/
def clusterClass (c : Char) : ClusterClass :=
  let n := c.toNat
  if n = 0x000D then .carriageReturn
  else if n = 0x000A then .lineFeed
  else if n = 0x200D then .joiner
  else if 0x1F1E6 ≤ n ∧ n ≤ 0x1F1FF then .regional
  else if 0xAC00 ≤ n ∧ n ≤ 0xD7A3 then
    if (n - 0xAC00) % 28 = 0 then .openSyllable else .closedSyllable
  else
    let table := [(controlRanges, ClusterClass.control), (extendRanges, .extend),
      (linkerRanges, .linker), (spacingRanges, .spacing), (prependRanges, .prepend),
      (consonantRanges, .consonant), (pictureRanges, .picture), (leadingRanges, .leading),
      (vowelRanges, .vowel), (trailingRanges, .trailing)]
    ((table.find? fun x => inRanges x.1 n).map Prod.snd).getD .other

/-- How a cluster ends. -/
structure Tail where
  /-- The class of its last character. -/
  last : ClusterClass
  /-- It ends with a pictograph and marks, and after those with a joiner, if the second is set. -/
  picture : Bool × Bool := (last == .picture, false)
  /-- It ends with a consonant and marks, and a linker is among those, if the second is set. -/
  consonant : Bool × Bool := (last == .consonant, false)
  /-- It ends with an odd number of regional signs. -/
  odd : Bool := last == .regional
  deriving DecidableEq, Repr

namespace Tail

/-- Whether a character of a class belongs to the cluster. -/
def takes (t : Tail) (next : ClusterClass) : Bool :=
  match t.last, next with
  | .carriageReturn, k => k == .lineFeed
  | .lineFeed, _ | .control, _ => false
  | _, .carriageReturn | _, .lineFeed | _, .control => false
  | _, .extend | _, .linker | _, .joiner | _, .spacing => true
  | .prepend, _ => true
  | .leading, .leading | .leading, .vowel | .leading, .openSyllable
  | .leading, .closedSyllable => true
  | .vowel, .vowel | .vowel, .trailing | .openSyllable, .vowel | .openSyllable, .trailing => true
  | .trailing, .trailing | .closedSyllable, .trailing => true
  | _, .consonant => t.consonant.2
  | _, .picture => t.picture.2
  | _, .regional => t.odd
  | _, _ => false

/-- How the cluster ends with one more character. -/
def push (t : Tail) (next : ClusterClass) : Tail where
  last := next
  picture :=
    match next with
    | .picture => (true, false)
    | .extend | .linker => (t.picture.1, false)
    | .joiner => (false, t.picture.1)
    | _ => (false, false)
  consonant :=
    match next with
    | .consonant => (true, false)
    | .linker => (t.consonant.1, t.consonant.1)
    | .extend | .joiner => t.consonant
    | _ => (false, false)
  odd := next == .regional && !t.odd

end Tail

/-- The clusters of a text behind a cluster that has begun, whose characters are given in reverse.
-/
def clustersFrom (begun : List Char) (tail : Tail) : List Char → List (List Char)
  | [] => [begun.reverse]
  | c :: r =>
    let k := clusterClass c
    if tail.takes k then clustersFrom (c :: begun) (tail.push k) r
    else begun.reverse :: clustersFrom [c] ⟨k, (k == .picture, false), (k == .consonant, false),
      k == .regional⟩ r

/-- The clusters of a text. -/
def clusters : List Char → List (List Char)
  | [] => []
  | c :: r => clustersFrom [c] { last := clusterClass c } r

/-! ### Small facts -/

@[simp] theorem clusters_nil : clusters [] = [] := rfl

theorem flatten_clustersFrom (begun : List Char) (tail : Tail) (s : List Char) :
    (clustersFrom begun tail s).flatten = begun.reverse ++ s := by
  induction s generalizing begun tail with
  | nil => simp [clustersFrom]
  | cons c r ih =>
    simp only [clustersFrom]
    split
    · simp [ih]
    · simp [ih]

/-- Clusters put together again are the text. -/
theorem flatten_clusters (s : List Char) : (clusters s).flatten = s := by
  cases s with
  | nil => rfl
  | cons c r => simp [clusters, flatten_clustersFrom]

theorem ne_nil_of_mem_clustersFrom {begun : List Char} (h : begun ≠ []) (tail : Tail)
    (s : List Char) : ∀ p ∈ clustersFrom begun tail s, p ≠ [] := by
  induction s generalizing begun tail with
  | nil => simpa [clustersFrom] using h
  | cons c r ih =>
    simp only [clustersFrom]
    split
    · exact ih (by simp) _
    · intro p hp
      rcases List.mem_cons.1 hp with rfl | hp
      · simpa using h
      · exact ih (by simp) _ p hp

/-- No cluster is empty. -/
theorem ne_nil_of_mem_clusters {s p : List Char} (h : p ∈ clusters s) : p ≠ [] := by
  cases s with
  | nil => simp at h
  | cons c r => exact ne_nil_of_mem_clustersFrom (by simp) _ _ p h

end Imprint.Text
