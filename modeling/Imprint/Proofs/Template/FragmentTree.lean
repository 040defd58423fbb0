import Imprint.Proofs.Template.Fragment
import Imprint.Template.Basic

/-!
# The tree of a template made of fragments

A text that is written fragment by fragment is cut again into these fragments, but that neighbouring
plain texts become one. It names no other template, and its tree has a node for each text and each
variable and none for the comments.

## Main definitions

* `Imprint.Template.Fragment.merged`: fragments in which no two texts are neighbours.
* `Imprint.Template.Fragment.node?`: the node of a fragment.

## Main results

* `Imprint.Template.Fragment.references_expansion`: fragments name no template.
* `Imprint.Template.Fragment.regions_expansion`: fragments are cut from their text.
* `Imprint.Template.Fragment.ofText_expansion`: the template of fragments.
-/

namespace Imprint.Template

variable {c : Char} {s t u v inner : List Char} {x : String}

/-! ### Delimiters -/

theorem untilDelimiter?_append {a b : Char}
    (h : ∀ c ∈ inner, c ≠ a ∧ Reader.isQuote c = false) (u : List Char) :
    untilDelimiter? a b none (inner ++ a :: b :: u) = some (inner, u) := by
  induction inner with
  | nil => simp [untilDelimiter?]
  | cons c inner ih =>
    obtain ⟨hc, hquote⟩ := h c List.mem_cons_self
    rw [List.cons_append, untilDelimiter?, if_neg fun hboth => hc hboth.1, hquote,
      if_neg Bool.false_ne_true, ih fun d hd => h d (List.mem_cons_of_mem _ hd)]
    rfl

theorem untilCommentEnd?_append (h : ¬ ['#', '}'] <:+: s) (u : List Char) :
    untilCommentEnd? (s ++ '#' :: '}' :: u) = some (s, u) := by
  induction s with
  | nil => rfl
  | cons c s ih =>
    have hs := ih fun hpair => h (hpair.trans (List.suffix_cons c s).isInfix)
    rw [List.cons_append, untilCommentEnd?, hs]
    · rfl
    · rintro r rfl hr
      cases s with
      | nil => simp at hr
      | cons d s =>
        obtain rfl : d = '}' := (List.cons.inj hr).1
        exact h (List.prefix_append ['#', '}'] s).isInfix

theorem afterComment?_append (h : ¬ ['#', '}'] <:+: s) (u : List Char) :
    afterComment? (s ++ '#' :: '}' :: u) = some u := by
  obtain ⟨m, hm, hafter⟩ := afterComment?_of_untilCommentEnd? (untilCommentEnd?_append h u)
  rwa [hm]

theorem dropHyphen_eq_self (h : s.head? ≠ some '-') : dropHyphen s = s := by
  cases s with
  | nil => rfl
  | cons c r => exact dropHyphen_append (b := false) (by simpa using h)

/-- What has no hyphen at an end is not trimmed. -/
theorem ofDelimited_eq_self (hhead : s.head? ≠ some '-') (hlast : s.getLast? ≠ some '-') :
    ofDelimited s = ({}, s) := by
  rw [← List.head?_reverse] at hlast
  simp [ofDelimited, dropHyphen_eq_self hhead, dropHyphen_eq_self hlast]

/-- A name between delimiters, with one blank on each side of it. -/
theorem untilDelimiter?_spaced {a b : Char} (hs : ∀ c ∈ s, Reader.isNameChar c = true)
    (ha : Reader.isNameChar a = false) (hblank : ' ' ≠ a) (u : List Char) :
    untilDelimiter? a b none (' ' :: (s ++ ' ' :: a :: b :: u)) =
      some (' ' :: (s ++ [' ']), u) := by
  have hinner : ∀ c ∈ ' ' :: (s ++ [' ']), c ≠ a ∧ Reader.isQuote c = false := by
    intro c hc
    simp only [List.mem_cons, List.mem_append, List.not_mem_nil, or_false] at hc
    rcases hc with rfl | hc | rfl
    · exact ⟨hblank, by decide⟩
    · have hne {d : Char} (hd : Reader.isNameChar d = false) : c ≠ d :=
        ne_of_isNameChar (hs c hc) hd
      simp only [Reader.isQuote, Bool.or_eq_false_iff, beq_eq_false_iff_ne]
      exact ⟨hne ha, ⟨hne (by decide), hne (by decide)⟩, hne (by decide)⟩
    · exact ⟨hblank, by decide⟩
  simpa using untilDelimiter?_append (b := b) hinner u

theorem ofDelimited_spaced (s : List Char) :
    ofDelimited (' ' :: (s ++ [' '])) = ({}, ' ' :: (s ++ [' '])) :=
  ofDelimited_eq_self (by simp) (by simp [List.getLast?_cons])

theorem delimited?_eq_none (h : opensPiece s = false) : delimited? s = none := by
  have hpiece : piece? s = none := by
    rw [opensPiece_eq_false_iff] at h
    simp only [piece?]
    split
    · next r => exact absurd (List.prefix_append ['{', '{'] r) (h _ (by simp [openings]))
    · next r => exact absurd (List.prefix_append ['{', '#'] r) (h _ (by simp [openings]))
    · next r => exact absurd (List.prefix_append ['{', '%'] r) (h _ (by simp [openings]))
    · rfl
  simp [delimited?, hpiece, h]

theorem Unopened.closes (h : Unopened s) : Closes s := by
  intro v hv hne u
  have hopens := h v hv hne u
  refine ⟨after?_tag_of_opensPiece hopens, ?_⟩
  simp only [opensPiece, List.any_eq_false, Text.startsWith, Bool.not_eq_true,
    Option.isSome_eq_false_iff, Option.isNone_iff_eq_none] at hopens
  exact hopens _ (by simp)

/-! ### Trees without tags -/

/-- Items without tags have none at their head. -/
theorem headTags_of_forall_ne_tag {items : List Item} (h : ∀ i ∈ items, ∀ trim t, i ≠ .tag trim t)
    (extended : Bool) (n : Nat) : headTags extended n items = ([], items) := by
  cases n with
  | zero => rfl
  | succ n =>
    have hnoTag : ∀ i ∈ dropSpace items, ∀ trim t, i ≠ .tag trim t := by
      intro i hi
      simp only [dropSpace] at hi
      split at hi
      · split at hi
        · exact h i (List.mem_cons_of_mem _ hi)
        · rcases List.mem_cons.1 hi with rfl | hi
          · simp
          · exact h i (List.mem_cons_of_mem _ hi)
      · exact h i hi
    simp only [headTags]
    split
    · next heq => exact absurd rfl (hnoTag _ (heq ▸ List.mem_cons_self) _ _)
    · next heq => exact absurd rfl (hnoTag _ (heq ▸ List.mem_cons_self) _ _)
    · rfl

/-- The part that an item has among others, when it is no tag. -/
def Item.placed : Item → Placed
  | .text s => ⟨none, some (.text s)⟩
  | .comment trim | .tag trim _ => ⟨some trim, none⟩
  | .raw opening s closing =>
    ⟨some ⟨opening.before, closing.after⟩, some (.verbatim (rawText opening s closing))⟩
  | .output trim e _ => ⟨some trim, some (.output e)⟩

/-- Items without tags become parts one by one. -/
theorem parts_of_forall_ne_tag {items : List Item} (h : ∀ i ∈ items, ∀ trim t, i ≠ .tag trim t)
    {n : Nat} (hn : items.length < n) :
    parts n .template false items = some (items.map Item.placed, []) := by
  induction items generalizing n with
  | nil =>
    obtain ⟨n, rfl⟩ := Nat.exists_eq_add_of_lt hn
    rfl
  | cons i items ih =>
    obtain ⟨n, rfl⟩ := Nat.exists_eq_succ_of_ne_zero (Nat.ne_zero_of_lt hn)
    have hitems : parts n .template false items = some (items.map Item.placed, []) :=
      ih (fun j hj => h j (List.mem_cons_of_mem i hj)) (by simpa using hn)
    cases i with
    | tag trim t => exact absurd rfl (h _ List.mem_cons_self trim t)
    | text s | comment trim | raw opening s closing | output trim e bare =>
      simp [parts, hitems, Item.placed]

theorem nodesOfItems?_of_forall_ne_tag {items : List Item}
    (h : ∀ i ∈ items, ∀ trim t, i ≠ .tag trim t) :
    nodesOfItems? items =
      some (spaced false false ((items.dropWhile Item.isComment).map Item.placed)) := by
  have hdrop : ∀ i ∈ items.dropWhile Item.isComment, ∀ trim t, i ≠ .tag trim t :=
    fun i hi => h i ((List.dropWhile_suffix _).subset hi)
  have hparts := parts_of_forall_ne_tag hdrop (Nat.lt_succ_self _)
  simp only [nodesOfItems?, headTags_of_forall_ne_tag hdrop, hparts, List.nil_append]

/-- The nodes of a text whose pieces are read as items one by one. -/
theorem nodesOf_of_pieces? {α : Type} {gs : List α} {piece : α → Piece} {item : α → Item}
    {nodes : List Node} (hpieces : pieces? s = some (gs.map piece))
    (hread : ∀ g ∈ gs, Item.ofPiece? (piece g) = some (item g, none))
    (hnodes : nodesOfItems? (gs.map item) = some nodes) : nodesOf s = .ok nodes := by
  have hitems : (gs.map piece).mapM Item.ofPiece? = some (gs.map fun g => (item g, none)) := by
    rw [List.mapM_map]
    exact mapM_eq_some_map hread
  have hfst : (gs.map fun g => (item g, (none : Option Int))).map Prod.fst = gs.map item := by
    simp
  have hsnd : (gs.map fun g => (item g, (none : Option Int))).findSome? Prod.snd = none := by
    simp
  rw [nodesOf, hpieces, Option.bind_some, hitems]
  simp only [hfst, hsnd, hnodes]

/-- A part that is shown in its place and is of no use to other parts or templates. -/
def Node.IsShown : Node → Prop
  | .text _ | .verbatim _ | .output _ => True
  | _ => False

theorem blocksOf_of_isShown {nodes : List Node} (h : ∀ n ∈ nodes, n.IsShown) :
    blocksOf nodes = [] := by
  induction nodes with
  | nil => rfl
  | cons n nodes ih =>
    have hn := h n List.mem_cons_self
    rw [blocksOf, ih fun m hm => h m (List.mem_cons_of_mem n hm), List.append_nil]
    cases n <;> first | rfl | cases hn

/-- The template of a text whose parts are all shown in their places. -/
theorem ofText_of_isShown {nodes : List Node} (name : String) (hs : nodesOf s = .ok nodes)
    (h : ∀ n ∈ nodes, n.IsShown) : ofText name s = .ok ⟨name, nodes, none, [], [], []⟩ := by
  have hnone {α : Type} {f : Node → Option α} (hf : ∀ n : Node, n.IsShown → f n = none) :
      nodes.filterMap f = [] :=
    List.filterMap_eq_nil_iff.2 fun n hn => hf n (h n hn)
  rw [ofText, hs]
  simp only [bind, Except.bind, blocksOf_of_isShown h, ← List.head?_filterMap]
  rw [hnone, hnone, hnone]
  · rfl
  all_goals
    intro n hn
    cases n <;> first | rfl | cases hn

namespace Fragment

variable {f : Fragment} {fs gs : List Fragment} {tail : List Char}

/-! ### References -/

/-- Between the delimiters of a variable nothing is opened. -/
theorem brace_notMem (hx : ∀ c ∈ x.toList, Reader.isNameChar c = true) :
    '{' ∉ x.toList ++ [' ', '}', '}'] := by
  have hopen : '{' ∉ x.toList := fun hmem => ne_of_isNameChar (hx _ hmem) (by decide) rfl
  simp [hopen]

theorem references_append (h : f.Closed) (u : List Char) :
    references (f.expansion ++ u) = references u := by
  cases f with
  | plain s => exact (unopened_of_isPlainText h.1 h.2).references_append u
  | «variable» x =>
    have hinner : Closes (' ' :: (x.toList ++ [' ', '}', '}'])) :=
      ((unopened_of_notMem (brace_notMem h.2)).cons_of_ne (by decide)).closes
    exact ((hinner.cons (by decide)).cons (by decide)).references_append u
  | comment s =>
    obtain ⟨a, ha⟩ := exists_inert?_comment (m := s ++ ['#', '}']) (u := u)
      (by simpa using afterComment?_append h.2.1 u)
    have hinert := references_append_inert (m := (comment s).expansion) (by simp [expansion])
      (by simpa [expansion] using ha)
    exact hinert

/-- Fragments name no template. -/
theorem references_expansion (hfs : ∀ f ∈ fs, f.Closed) (htail : IsPlainText tail) :
    references (fs.flatMap expansion ++ tail) = [] := by
  induction fs with
  | nil => exact htail.references_eq_nil
  | cons f fs ih =>
    rw [List.flatMap_cons, List.append_assoc, references_append (hfs f List.mem_cons_self)]
    exact ih fun g hg => hfs g (List.mem_cons_of_mem _ hg)

/-! ### Pieces -/

/-- Fragments with a text in front, which becomes a part of the first when that is a text. -/
def prepend (s : List Char) : List Fragment → List Fragment
  | plain t :: fs => plain (s ++ t) :: fs
  | fs => if s.isEmpty then fs else plain s :: fs

/-- Fragments in which neighbouring texts are one and no text is empty. -/
def merged : List Fragment → List Fragment
  | [] => []
  | plain s :: fs => prepend s (merged fs)
  | f :: fs => f :: merged fs

/-- The region of a text that a fragment is. -/
def region : Fragment → Text.Region (Option Piece)
  | plain s => .plain s
  | .variable x => .found (some (.output {} (' ' :: (x.toList ++ [' ']))))
  | comment _ => .found (some (.comment {}))

/-- The piece that is cut for a fragment. -/
def piece : Fragment → Piece
  | plain s => .text s
  | .variable x => .output {} (' ' :: (x.toList ++ [' ']))
  | comment _ => .comment {}

theorem prepend_cons (c : Char) (s : List Char) (fs : List Fragment) :
    prepend [c] (prepend s fs) = prepend (c :: s) fs := by
  rcases fs with _ | ⟨_ | _ | _, fs⟩ <;> cases s <;> rfl

theorem consPlain_region (c : Char) (fs : List Fragment) :
    Text.Region.consPlain c (fs.map region) = (prepend [c] fs).map region := by
  rcases fs with _ | ⟨_ | _ | _, fs⟩ <;> rfl

theorem foldr_consPlain_region (s : List Char) (gs : List Fragment) :
    s.foldr Text.Region.consPlain (gs.map region) = (prepend s gs).map region := by
  induction s with
  | nil => rcases gs with _ | ⟨_ | _ | _, gs⟩ <;> rfl
  | cons c s ih => rw [List.foldr_cons, ih, consPlain_region, prepend_cons]

/-- A text at none of whose places a piece is opened is put in front. -/
theorem regions_append (h : ∀ v, v <:+ s → v ≠ [] → opensPiece (v ++ u) = false)
    (hu : Text.regions delimited? u = gs.map region) :
    Text.regions delimited? (s ++ u) = (prepend s gs).map region := by
  rw [Text.regions_append_plain fun v hv hne => delimited?_eq_none (h v hv hne), hu,
    foldr_consPlain_region]

theorem delimited?_variable (hx : ∀ c ∈ x.toList, Reader.isNameChar c = true) (u : List Char) :
    delimited? ((Fragment.variable x).expansion ++ u) =
      some (some (.output {} (' ' :: (x.toList ++ [' ']))), u) := by
  have huntil := untilDelimiter?_spaced (a := '}') (b := '}') hx (by decide) (by decide) u
  simp [delimited?, piece?, expansion, huntil, ofDelimited_spaced]

theorem delimited?_comment (h : (comment s).Closed) (u : List Char) :
    delimited? ((comment s).expansion ++ u) = some (some (.comment {}), u) := by
  obtain ⟨hne, hend, hhead, hlast⟩ := h
  simp [delimited?, piece?, expansion, untilCommentEnd?_append hend,
    ofDelimited_eq_self hhead hlast, hne]

/-- Fragments are cut from their text. -/
theorem regions_expansion (hfs : ∀ f ∈ fs, f.Closed) (htail : IsPlainText tail) :
    Text.regions delimited? (fs.flatMap expansion ++ tail) =
      (merged (fs ++ [plain tail])).map region := by
  induction fs with
  | nil =>
    have hnone : ∀ v, v <:+ tail → v ≠ [] → opensPiece (v ++ []) = false := fun v hv _ => by
      rw [List.append_nil]
      exact htail.opensPiece hv
    have hnil : Text.regions delimited? [] = ([] : List Fragment).map region := rfl
    have hregions := regions_append hnone hnil
    rwa [List.append_nil] at hregions
  | cons f fs ih =>
    have hf := hfs f List.mem_cons_self
    have hrest := ih fun g hg => hfs g (List.mem_cons_of_mem _ hg)
    rw [List.flatMap_cons, List.append_assoc]
    cases f with
    | plain s =>
      exact regions_append (fun v hv hne => unopened_of_isPlainText hf.1 hf.2 v hv hne _) hrest
    | «variable» x =>
      rw [Text.regions_append_found (by simp [expansion]) (delimited?_variable hf.2 _), hrest]
      rfl
    | comment s =>
      rw [Text.regions_append_found (by simp [expansion]) (delimited?_comment hf _), hrest]
      rfl

theorem pieces?_expansion (hfs : ∀ f ∈ fs, f.Closed) (htail : IsPlainText tail) :
    pieces? (fs.flatMap expansion ++ tail) = some ((merged (fs ++ [plain tail])).map piece) := by
  rw [pieces?, regions_expansion hfs htail]
  generalize merged (fs ++ [plain tail]) = gs
  induction gs with
  | nil => rfl
  | cons g gs ih =>
    rw [List.map_cons, List.mapM_cons, ih]
    cases g <;> rfl

/-! ### Nodes -/

/-- The item that is read from the piece of a fragment. -/
def item : Fragment → Item
  | plain s => .text s
  | .variable x => .output {} (.ofOperand (.variable x)) false
  | comment _ => .comment {}

/-- The node of a fragment; a comment has none. -/
def node? : Fragment → Option Node
  | plain s => some (.text s)
  | .variable x => some (.output (.ofOperand (.variable x)))
  | comment _ => none

/-- The part that a fragment has among others, without hyphens. -/
def placed (f : Fragment) : Placed :=
  match f with
  | plain _ => ⟨none, f.node?⟩
  | _ => ⟨some {}, f.node?⟩

/-- What becomes of a text in front: a text of at least its length, and nothing of an empty one. -/
theorem mem_prepend {g : Fragment} (h : g ∈ prepend s fs) :
    (∃ t, s ++ t ≠ [] ∧ g = plain (s ++ t)) ∨ g ∈ fs := by
  match fs with
  | plain t :: fs =>
    rcases List.mem_cons.1 h with rfl | h
    · by_cases hst : s ++ t = []
      · obtain ⟨rfl, rfl⟩ := List.append_eq_nil_iff.1 hst
        exact .inr List.mem_cons_self
      · exact .inl ⟨t, hst, rfl⟩
    · exact .inr (List.mem_cons_of_mem _ h)
  | [] =>
    by_cases hs : s = []
    · simp [prepend, hs] at h
    · obtain rfl : g = plain s := by simpa [prepend, hs] using h
      exact .inl ⟨[], by simpa using hs, by simp⟩
  | .variable _ :: _ | comment _ :: _ =>
    by_cases hs : s = []
    · exact .inr (by simpa [prepend, hs] using h)
    · simp only [prepend, List.isEmpty_iff, hs, ↓reduceIte] at h
      exact (List.mem_cons.1 h).imp (fun hg => ⟨[], by simpa using hs, by simpa using hg⟩) id

/-- Among merged fragments there are only texts that are not empty, and the old variables and
comments. -/
theorem mem_merged {g : Fragment} (h : g ∈ merged fs) :
    (∃ s, s ≠ [] ∧ g = plain s) ∨ g ∈ fs ∧ ∀ s, g ≠ plain s := by
  induction fs with
  | nil => cases h
  | cons f fs ih =>
    cases f with
    | plain s =>
      rcases mem_prepend h with ⟨t, hne, rfl⟩ | h
      · exact .inl ⟨s ++ t, hne, rfl⟩
      · exact (ih h).imp_right fun ⟨hmem, hg⟩ => ⟨List.mem_cons_of_mem _ hmem, hg⟩
    | «variable» x | comment s =>
      rcases List.mem_cons.1 h with rfl | h
      · exact .inr ⟨List.mem_cons_self, by simp⟩
      · exact (ih h).imp_right fun ⟨hmem, hg⟩ => ⟨List.mem_cons_of_mem _ hmem, hg⟩

theorem readsVariable_eq_true (h : readsVariable x = true) :
    ∃ i, outputExpression.run ⟨' ' :: (x.toList ++ [' ']), none⟩ =
      some (.ofOperand (.variable x), i) ∧ i.tooLarge = none := by
  unfold readsVariable at h
  generalize outputExpression.run ⟨' ' :: (x.toList ++ [' ']), none⟩ = read at h ⊢
  split at h
  · next path i =>
    simp only [Bool.and_eq_true, beq_iff_eq, Option.isNone_iff_eq_none] at h
    obtain ⟨rfl, hi⟩ := h
    exact ⟨i, rfl, hi⟩
  · cases h

/-- A name is no call. -/
theorem isBareSuper_variable (hx : ∀ c ∈ x.toList, Reader.isNameChar c = true) :
    isBareSuper (' ' :: (x.toList ++ [' '])) = false := by
  rw [isBareSuper, beq_eq_false_iff_ne]
  intro hsuper
  have hmem : '(' ∈ "super()".toList := by decide
  rw [← hsuper, List.mem_reverse] at hmem
  have hinner := List.mem_reverse.1 ((List.dropWhile_suffix _).subset hmem)
  have hparenthesis := (List.dropWhile_suffix _).subset hinner
  simp only [List.mem_cons, List.mem_append, List.not_mem_nil, or_false] at hparenthesis
  rcases hparenthesis with h | h | h
  · cases h
  · exact ne_of_isNameChar (hx _ h) (by decide) rfl
  · cases h

/-- What is read from the piece of a fragment. -/
theorem ofPiece?_piece (h : f.Closed) : Item.ofPiece? f.piece = some (f.item, none) := by
  cases f with
  | plain s => rfl
  | comment s => rfl
  | «variable» x =>
    obtain ⟨i, hrun, hi⟩ := readsVariable_eq_true h.1
    simp [Item.ofPiece?, piece, item, hrun, hi, isBareSuper_variable h.2]

theorem placed_item (g : Fragment) : g.item.placed = g.placed := by
  cases g <;> rfl

theorem item_ne_tag {i : Item} (hi : i ∈ gs.map item) (trim : Trim) (t : Tag) :
    i ≠ .tag trim t := by
  obtain ⟨g, -, rfl⟩ := List.mem_map.1 hi
  cases g <;> simp [item]

theorem trimsNext_placed (gs : List Fragment) : trimsNext false (gs.map placed) = false := by
  rcases gs with _ | ⟨_ | _ | _, gs⟩ <;> rfl

/-- Nothing is trimmed, so every fragment has its node. -/
theorem spaced_placed (hgs : ∀ g ∈ gs, g ≠ plain []) :
    spaced false false (gs.map placed) = gs.filterMap node? := by
  induction gs with
  | nil => rfl
  | cons g gs ih =>
    have hrest := ih fun g hg => hgs g (List.mem_cons_of_mem _ hg)
    cases g with
    | plain s =>
      have hs : s ≠ [] := fun h => hgs _ List.mem_cons_self (h ▸ rfl)
      simp [placed, node?, spaced, trimsNext_placed, hrest, hs]
    | «variable» x => simp [placed, node?, spaced, hrest]
    | comment s =>
      rw [List.filterMap_cons_none (show node? (comment s) = none from rfl)]
      simpa [placed, node?, spaced] using hrest

theorem filterMap_dropWhile_isComment (gs : List Fragment) :
    (gs.dropWhile (·.item.isComment)).filterMap node? = gs.filterMap node? := by
  induction gs with
  | nil => rfl
  | cons g gs ih =>
    cases g with
    | plain s => rfl
    | «variable» x => rfl
    | comment s =>
      rw [List.filterMap_cons_none (show node? (comment s) = none from rfl)]
      exact ih

theorem nodesOfItems?_items (hgs : ∀ g ∈ gs, g ≠ plain []) :
    nodesOfItems? (gs.map item) = some (gs.filterMap node?) := by
  have hdrop : (gs.map item).dropWhile Item.isComment =
      (gs.dropWhile (·.item.isComment)).map item := List.dropWhile_map ..
  have hrest : ∀ g ∈ gs.dropWhile (·.item.isComment), g ≠ plain [] :=
    fun g hg => hgs g ((List.dropWhile_suffix _).subset hg)
  rw [nodesOfItems?_of_forall_ne_tag fun _ => item_ne_tag, hdrop, List.map_map,
    Function.comp_def, funext placed_item, spaced_placed hrest, filterMap_dropWhile_isComment]

/-- The nodes of fragments. -/
theorem nodesOf_expansion (hfs : ∀ f ∈ fs, f.Closed) (htail : IsPlainText tail) :
    nodesOf (fs.flatMap expansion ++ tail) =
      .ok ((merged (fs ++ [plain tail])).filterMap node?) := by
  let gs := merged (fs ++ [plain tail])
  have hread : ∀ g ∈ gs, Item.ofPiece? g.piece = some (g.item, none) := by
    intro g hg
    rcases mem_merged hg with ⟨s, -, rfl⟩ | ⟨hg, hplain⟩
    · rfl
    · rcases List.mem_append.1 hg with hg | hg
      · exact ofPiece?_piece (hfs g hg)
      · exact absurd (List.mem_singleton.1 hg) (hplain tail)
  have hnonempty : ∀ g ∈ gs, g ≠ plain [] := by
    rintro g hg rfl
    rcases mem_merged hg with ⟨s, hs, heq⟩ | ⟨-, hplain⟩
    · exact hs (Fragment.plain.inj heq).symm
    · exact hplain [] rfl
  exact nodesOf_of_pieces? (pieces?_expansion hfs htail) hread (nodesOfItems?_items hnonempty)

theorem isShown_of_mem_nodes {n : Node} (h : n ∈ gs.filterMap node?) : n.IsShown := by
  obtain ⟨g, -, hg⟩ := List.mem_filterMap.1 h
  cases g with
  | plain s | «variable» x =>
    obtain rfl := Option.some.inj hg
    trivial
  | comment s => cases hg

/-- The template of fragments. -/
theorem ofText_expansion (name : String) (hfs : ∀ f ∈ fs, f.Closed) (htail : IsPlainText tail) :
    ofText name (fs.flatMap expansion ++ tail) =
      .ok ⟨name, (merged (fs ++ [plain tail])).filterMap node?, none, [], [], []⟩ :=
  ofText_of_isShown name (nodesOf_expansion hfs htail) fun _ => isShown_of_mem_nodes

end Fragment

end Imprint.Template
