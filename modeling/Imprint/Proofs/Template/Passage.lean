import Imprint.Proofs.Template.Substitution

/-!
# Raw blocks are verbatim

Whatever stands in a raw block is shown as it is, as long as the word that ends the block is not in
it: an interpolation is not expanded, a template that is named is not loaded, and what opens a piece
or another raw block opens nothing. All readers of the text end the block at the same tag.

## Main definitions

* `Imprint.Template.Passage`: plain text or a raw block.
* `Imprint.Template.Passage.WellFormed`: passages that keep to their own characters.
* `Imprint.Template.Passage.compiled`: the compiled template of passages.

## Main results

* `Imprint.Template.Passage.expand_source`: passages are not changed by the shorthand.
* `Imprint.Template.Passage.references_source`: passages name no template.
* `Imprint.Template.Passage.exists_regions_source`: passages are cut from their text.
* `Imprint.Template.Passage.renderText_verbatim`: passages are rendered as what they stand for.
-/

namespace Imprint.Template

variable {c : Char} {s t u word : List Char} {b : Binding}

/-! ### The tags of a raw block -/

/-- A tag that holds one word, written with one blank on each side of it. -/
def spacedTag (word : List Char) : List Char :=
  '{' :: '%' :: ' ' :: (word ++ [' ', '%', '}'])

/-- The word that ends a raw block. -/
def endWord : List Char :=
  ['e', 'n', 'd', 'r', 'a', 'w']

theorem isWordTag_spacedTag (word : List Char) : IsWordTag word (spacedTag word) :=
  have hblank : ∀ c ∈ [' '], Text.isBlank c = true := List.forall_mem_singleton.2 rfl
  ⟨false, [' '], [' '], false, hblank, hblank, rfl⟩

theorem IsWordTag.infix_of_infix {m : List Char} (h : IsWordTag word m) (hm : m <:+: s) :
    word <:+: s := by
  obtain ⟨b, t, t', b', -, -, rfl⟩ := h
  exact (List.infix_append _ word _).trans (List.append_assoc _ word _ ▸ hm)

theorem dropWhile_isSpace_cons_blank (hs : ∀ c ∈ s, Reader.isNameChar c = true) (hne : s ≠ []) :
    (' ' :: (s ++ t)).dropWhile Reader.isSpace = s ++ t := by
  obtain ⟨c, r, rfl⟩ := List.exists_cons_of_ne_nil hne
  have hc : Reader.isSpace c = false := by
    rw [← Bool.not_eq_true]
    intro hspace
    have hblank := isBlank_of_isNameChar (hs c List.mem_cons_self)
    rw [isBlank_of_isSpace hspace] at hblank
    cases hblank
  rw [List.dropWhile_cons_of_pos (by decide), List.cons_append, List.dropWhile_cons_of_neg]
  simp [hc]

/-- Such a tag is read back. -/
theorem plainTag?_spacedTag (hword : ∀ c ∈ word, Reader.isNameChar c = true) (hne : word ≠ [])
    (u : List Char) : plainTag? word (spacedTag word ++ u) = some ({}, u) := by
  have hafter : Text.after? ['{', '%'] (spacedTag word ++ u) =
      some (' ' :: (word ++ ' ' :: '%' :: '}' :: u)) := by
    simp [spacedTag, Text.after?]
  have huntil := untilDelimiter?_spaced (a := '%') (b := '}') hword (by decide) (by decide) u
  have hfront : (' ' :: (word ++ [' '])).dropWhile Reader.isSpace = word ++ [' '] :=
    dropWhile_isSpace_cons_blank hword hne
  have hback : (' ' :: word.reverse).dropWhile Reader.isSpace = word.reverse := by
    simpa using dropWhile_isSpace_cons_blank (s := word.reverse) (t := [])
      (fun c hc => hword c (List.mem_reverse.1 hc)) (by simpa using hne)
  simp [plainTag?, hafter, huntil, ofDelimited_spaced, hfront, hback]

/-- Without the word that ends a raw block there is no end tag. -/
theorem afterEnd?_eq_none (h : ¬ endWord <:+: s) : afterEnd? s = none := by
  refine Option.eq_none_iff_forall_ne_some.2 fun rest hrest => ?_
  obtain ⟨t, m, -, hm, rfl⟩ := afterEnd?_eq_some hrest
  exact h (hm.infix_of_infix ⟨t, rest, by simp⟩)

theorem untilEnd?_cons_some {trim : Trim} {rest : List Char}
    (h : plainTag? endWord (c :: s) = some (trim, rest)) :
    untilEnd? (c :: s) = some ([], trim, rest) := by
  have htag : plainTag? "endraw".toList (c :: s) = some (trim, rest) := h
  rw [untilEnd?, htag]

theorem untilEnd?_cons_none (h : plainTag? endWord (c :: s) = none) :
    untilEnd? (c :: s) = (untilEnd? s).map fun x => (c :: x.1, x.2) := by
  have htag : plainTag? "endraw".toList (c :: s) = none := h
  rw [untilEnd?, htag]

/-- The text in front of the first end tag. -/
theorem untilEnd?_append (h : ¬ endWord <:+: s) (u : List Char) :
    untilEnd? (s ++ (spacedTag endWord ++ u)) = some (s, {}, u) := by
  induction s with
  | nil => exact untilEnd?_cons_some (plainTag?_spacedTag (List.all_eq_true.1 rfl) (by decide) u)
  | cons c s ih =>
    have hnone : plainTag? endWord (c :: (s ++ (spacedTag endWord ++ u))) = none := by
      refine Option.eq_none_iff_forall_ne_some.2 fun ⟨trim, rest⟩ hrest => ?_
      obtain ⟨m, hm, heq⟩ := isWordTag_of_plainTag? hrest
      exact h (hm.infix_of_infix (hm.isPrefix_of_append_brace (by decide) heq).isInfix)
    rw [List.cons_append, untilEnd?_cons_none hnone,
      ih fun hs => h (hs.trans (List.suffix_cons c s).isInfix)]
    rfl

theorem piece?_of_plainTag? {opening closing : Trim} {inner rest : List Char}
    (hopen : plainTag? "raw".toList s = some (opening, t))
    (hend : untilEnd? t = some (inner, closing, rest)) :
    piece? s = some (.raw opening inner closing, rest) := by
  obtain ⟨m, ⟨b, t₁, t₂, b', -, -, rfl⟩, rfl⟩ := isWordTag_of_plainTag? hopen
  simp only [List.append_assoc, List.cons_append, List.nil_append] at hopen ⊢
  simp only [piece?, hopen, hend]
  rfl

/-! ### Passages -/

/-- A part of a template text that is shown as it stands. -/
inductive Passage where
  | plain (s : List Char)
  /-- What stands in a raw block. -/
  | raw (s : List Char)
  deriving DecidableEq

namespace Passage

/-- A passage as it is written in a template. -/
def source : Passage → List Char
  | plain s => s
  | raw s => spacedTag ['r', 'a', 'w'] ++ (s ++ spacedTag endWord)

/-- What a passage stands for. -/
def text : Passage → List Char
  | plain s | raw s => s

/-- A passage that keeps to its own characters: a plain text that opens neither a piece nor an
interpolation and leaves none half open, or a raw block without the word that ends it. -/
def WellFormed : Passage → Prop
  | plain s => IsPlainText s ∧ '$' ∉ s ∧ s.getLast? ≠ some '{'
  | raw s => ¬ endWord <:+: s

instance : DecidablePred WellFormed
  | plain s => inferInstanceAs (Decidable (IsPlainText s ∧ '$' ∉ s ∧ s.getLast? ≠ some '{'))
  | raw s => inferInstanceAs (Decidable (¬ endWord <:+: s))

variable {p : Passage} {ps gs : List Passage}

theorem source_raw_append (s u : List Char) :
    (raw s).source ++ u =
      spacedTag ['r', 'a', 'w'] ++ (s ++ (spacedTag endWord ++ u)) := by
  simp [source]

theorem source_raw_ne_nil (s : List Char) : (raw s).source ≠ [] := by
  simp [source, spacedTag]

/-! ### Expansion -/

/-- A raw block is taken off the front whole. -/
theorem rawBlock?_source (h : (raw s).WellFormed) (u : List Char) :
    rawBlock? ((raw s).source ++ u) = some ((raw s).source, u) := by
  obtain ⟨block, hblock⟩ := rawBlock?_append (isWordTag_spacedTag _) (afterEnd?_eq_none h)
    (isWordTag_spacedTag endWord) u
  rw [← source_raw_append] at hblock
  obtain ⟨-, heq⟩ := rawBlock?_eq_some hblock
  rw [hblock, List.append_cancel_right heq]

/-- The shorthand changes nothing in passages. -/
theorem expand_source (hps : ∀ p ∈ ps, p.WellFormed) :
    Shorthand.expand (ps.flatMap source) = .ok (ps.flatMap source) := by
  rw [Shorthand.expand_eq_ok_iff]
  induction ps with
  | nil => exact ⟨[], .nil, rfl⟩
  | cons p ps ih =>
    have hp := hps p List.mem_cons_self
    obtain ⟨us, hus, hexpansion⟩ := ih fun q hq => hps q (List.mem_cons_of_mem _ hq)
    cases p with
    | plain s =>
      obtain ⟨hplain, hdollar, hlast⟩ := hp
      have hreads : Shorthand.Reads s (s.map .plain) :=
        Shorthand.reads_plain fun hpair => hdollar (hpair.subset (by simp))
      have hparts : Shorthand.Parts s (ps.flatMap source) :=
        .inl fun hdollar' => hdollar (List.mem_of_mem_getLast? hdollar')
      refine ⟨_, Fragment.readsText_append (unopened_of_isPlainText hplain hlast).staysRawless
        hreads hus hparts, ?_⟩
      rw [List.flatMap_append, Shorthand.flatMap_expansion_plain, hexpansion]
      rfl
    | raw s =>
      have hfound := Text.regions_append_found (source_raw_ne_nil s)
        (rawBlock?_source hp (ps.flatMap source))
      refine ⟨.raw (raw s).source :: us, ?_, ?_⟩
      · rw [Shorthand.ReadsText, List.flatMap_cons, hfound]
        exact .raw hus
      · rw [List.flatMap_cons, hexpansion]
        rfl

/-! ### References -/

/-- Passages name no template. -/
theorem references_source (hps : ∀ p ∈ ps, p.WellFormed) : references (ps.flatMap source) = [] := by
  induction ps with
  | nil => rfl
  | cons p ps ih =>
    have hp := hps p List.mem_cons_self
    have hrest := ih fun q hq => hps q (List.mem_cons_of_mem _ hq)
    rw [List.flatMap_cons]
    cases p with
    | plain s => rw [source, (unopened_of_isPlainText hp.1 hp.2.2).references_append, hrest]
    | raw s =>
      obtain ⟨a, ha⟩ := exists_inert?_raw (isWordTag_spacedTag _) (afterEnd?_eq_none hp)
        (isWordTag_spacedTag endWord) (ps.flatMap source)
      rw [← source_raw_append] at ha
      rw [references_append_inert (source_raw_ne_nil s) ha, hrest]

/-! ### Pieces -/

/-- The piece that is cut for a passage. -/
def piece : Passage → Piece
  | plain s => .text s
  | raw s => .raw {} s {}

/-- The region of a text that a passage is. -/
def region : Passage → Text.Region (Option Piece)
  | plain s => .plain s
  | raw s => .found (some (.raw {} s {}))

theorem delimited?_source (h : (raw s).WellFormed) (u : List Char) :
    delimited? ((raw s).source ++ u) = some (some (.raw {} s {}), u) := by
  have hopen : plainTag? "raw".toList ((raw s).source ++ u) =
      some ({}, s ++ (spacedTag endWord ++ u)) := by
    rw [source_raw_append]
    exact plainTag?_spacedTag (List.all_eq_true.1 rfl) (by decide) _
  have hpiece : piece? ((raw s).source ++ u) = some (.raw {} s {}, u) :=
    piece?_of_plainTag? hopen (untilEnd?_append h u)
  simp [delimited?, hpiece]

/-- A plain text that stands in front of passages becomes part of the first or a passage of its
own. -/
theorem exists_foldr_consPlain (s : List Char) (gs : List Passage) :
    ∃ hs : List Passage, s.foldr Text.Region.consPlain (gs.map region) = hs.map region ∧
      hs.flatMap text = s ++ gs.flatMap text := by
  induction s with
  | nil => exact ⟨gs, rfl, rfl⟩
  | cons c s ih =>
    obtain ⟨hs, hregions, htext⟩ := ih
    rw [List.foldr_cons, hregions, List.cons_append, ← htext]
    rcases hs with _ | ⟨t | t, hs⟩
    · exact ⟨[plain [c]], rfl, rfl⟩
    · exact ⟨plain (c :: t) :: hs, rfl, rfl⟩
    · exact ⟨plain [c] :: raw t :: hs, rfl, rfl⟩

/-- Passages are cut from their text, but that neighbouring plain texts become one. -/
theorem exists_regions_source (hps : ∀ p ∈ ps, p.WellFormed) :
    ∃ gs : List Passage, Text.regions delimited? (ps.flatMap source) = gs.map region ∧
      gs.flatMap text = ps.flatMap text := by
  induction ps with
  | nil => exact ⟨[], rfl, rfl⟩
  | cons p ps ih =>
    have hp := hps p List.mem_cons_self
    obtain ⟨gs, hgs, htext⟩ := ih fun q hq => hps q (List.mem_cons_of_mem _ hq)
    rw [List.flatMap_cons, List.flatMap_cons, ← htext]
    cases p with
    | plain s =>
      have hunopened := unopened_of_isPlainText hp.1 hp.2.2
      rw [source, Text.regions_append_plain fun v hv hne =>
        delimited?_eq_none (hunopened v hv hne _), hgs]
      exact exists_foldr_consPlain s gs
    | raw s =>
      rw [Text.regions_append_found (source_raw_ne_nil s) (delimited?_source hp _), hgs]
      exact ⟨raw s :: gs, rfl, rfl⟩

/-! ### Nodes -/

/-- The item that is read from the piece of a passage. -/
def item : Passage → Item
  | plain s => .text s
  | raw s => .raw {} s {}

/-- The node of a passage. -/
def node : Passage → Node
  | plain s => .text s
  | raw s => .verbatim s

/-- The part that a passage has among others, without hyphens. -/
def placed : Passage → Placed
  | plain s => ⟨none, some (.text s)⟩
  | raw s => ⟨some {}, some (.verbatim s)⟩

theorem placed_item (g : Passage) : g.item.placed = g.placed := by
  cases g <;> rfl

theorem trimsNext_placed (gs : List Passage) : trimsNext false (gs.map placed) = false := by
  rcases gs with _ | ⟨_ | _, gs⟩ <;> rfl

/-- Nothing is trimmed; only texts that are empty have no node. -/
theorem spaced_placed (gs : List Passage) :
    spaced false false (gs.map placed) = (gs.filter (· ≠ plain [])).map node := by
  induction gs with
  | nil => rfl
  | cons g gs ih =>
    cases g with
    | plain s => cases s <;> simp [placed, node, spaced, trimsNext_placed, ih]
    | raw s => simp [placed, node, spaced, ih]

theorem nodesOfItems?_items (gs : List Passage) :
    nodesOfItems? (gs.map item) = some ((gs.filter (· ≠ plain [])).map node) := by
  have hdrop : (gs.map item).dropWhile Item.isComment = gs.map item := by
    rcases gs with _ | ⟨_ | _, gs⟩ <;> rfl
  have hnoTag : ∀ i ∈ gs.map item, ∀ trim t, i ≠ .tag trim t := by
    intro i hi trim t
    obtain ⟨g, -, rfl⟩ := List.mem_map.1 hi
    cases g <;> simp [item]
  rw [nodesOfItems?_of_forall_ne_tag hnoTag, hdrop, List.map_map, Function.comp_def,
    funext placed_item, spaced_placed]

theorem nodesOf_of_regions (hregions : Text.regions delimited? s = gs.map region) :
    nodesOf s = .ok ((gs.filter (· ≠ plain [])).map node) := by
  have hpieces : pieces? s = some (gs.map piece) := by
    rw [pieces?, hregions, List.mapM_map]
    exact mapM_eq_some_map fun g _ => by cases g <;> rfl
  have hread : ∀ g ∈ gs, Item.ofPiece? g.piece = some (g.item, none) :=
    fun g _ => by cases g <;> rfl
  exact nodesOf_of_pieces? hpieces hread (nodesOfItems?_items gs)

theorem flatMap_text_filter (gs : List Passage) :
    (gs.filter (· ≠ plain [])).flatMap text = gs.flatMap text := by
  induction gs with
  | nil => rfl
  | cons g gs ih =>
    by_cases hg : g = plain []
    · subst hg
      simpa [text] using ih
    · rw [List.filter_cons_of_pos (by simpa using hg), List.flatMap_cons, List.flatMap_cons, ih]

/-! ### Compiling and rendering -/

/-- The compiled template of passages. -/
def compiled (name : String) (gs : List Passage) : Compiled :=
  let main : Template := ⟨name, gs.map node, none, [], [], []⟩
  ⟨name, ⟨[main]⟩, main⟩

/-- Passages are compiled to passages that stand for the same text. -/
theorem exists_compile_source (store : Store) (searchPath : List Path) (name : String)
    (hps : ∀ p ∈ ps, p.WellFormed) :
    ∃ gs, gs.flatMap text = ps.flatMap text ∧
      compile store searchPath name (ps.flatMap source) = pure (compiled name gs) := by
  obtain ⟨gs, hregions, htext⟩ := exists_regions_source hps
  refine ⟨gs.filter (· ≠ plain []), (flatMap_text_filter gs).trans htext, ?_⟩
  have hexpanded : Template.expanded name (ps.flatMap source) = .ok (ps.flatMap source) := by
    rw [Template.expanded, expand_source hps]
  have hshown : ∀ n ∈ (gs.filter (· ≠ plain [])).map node, n.IsShown := by
    intro n hn
    obtain ⟨g, -, rfl⟩ := List.mem_map.1 hn
    cases g <;> trivial
  exact compile_of_references_eq_nil store searchPath hexpanded (references_source hps)
    (ofText_of_isShown name (nodesOf_of_regions hregions) hshown) rfl rfl

theorem evaluates_renderNodes (ev : Evaluator) (setting : Setting) (state : State)
    (gs : List Passage) :
    ((gs.map node).mapM (renderNode ev)).Evaluates setting state
      (gs.map fun g => (g.text, .go)) := by
  induction gs with
  | nil => exact evaluates_pure _
  | cons g gs ih =>
    have hg : (renderNode ev g.node).Evaluates setting state (g.text, .go) := by
      cases g <;> exact evaluates_pure _
    rw [List.map_cons, List.map_cons, List.mapM_cons]
    exact hg.bind (ih.bind (evaluates_pure _))

/-- Compiled passages are rendered as what they stand for, for every binding. -/
theorem render_compiled (around : Surroundings) (name : String) (gs : List Passage) (b : Binding) :
    (compiled name gs).render around b = .ok (Text.trim (gs.flatMap text)) := by
  have hrender := render_of_evaluates ⟨name, gs.map node, none, [], [], []⟩ around (b := b) rfl
    fun setting state _ _ => evaluates_renderNodes (evaluator depthLimit) setting state gs
  rwa [List.map_map, ← List.flatMap_def] at hrender

/-- A template of plain texts and raw blocks is rendered as those texts and what stands in the raw
blocks, one after another. No other template is loaded for it. -/
theorem renderText_verbatim (around : Surroundings) (store : Store) (searchPath : List Path)
    (name : String) (ps : List Passage) (b : Binding) (hps : ∀ p ∈ ps, p.WellFormed) :
    renderText around store searchPath name (ps.flatMap source) b =
        .ok (Text.trim (ps.flatMap text)) ∧
      ∃ c, (∀ log, (compile store searchPath name (ps.flatMap source)).run.run log = (.ok c, log)) ∧
        c.library.templates.map (·.name) = [name] := by
  obtain ⟨gs, htext, hcompile⟩ := exists_compile_source store searchPath name hps
  refine ⟨?_, compiled name gs, fun log => by rw [hcompile]; rfl, rfl⟩
  rw [renderText, hcompile, ← htext]
  exact render_compiled around name gs b

/-- Raw blocks in which what would be read elsewhere stands. -/
def manual : List Passage :=
  [plain "\x7bto\x7d ".toList, raw "$\x7b x \x7d $$\x7b $\x7b ".toList,
    raw " \x7b% include 'nowhere' %\x7d \x7b# \x7b% raw %\x7d \x7b% end \x7b% \" ".toList,
    plain "|\n".toList, raw [], raw "\x7b\x7b x \x7d\x7d \x7b".toList]

theorem renderText_verbatim_manual :
    (∀ p ∈ manual, p.WellFormed) ∧
      renderText {} {} [] "manual" (manual.flatMap source) (Binding.empty.insert "x" "1") =
        .ok ("\x7bto\x7d $\x7b x \x7d $$\x7b $\x7b  \x7b% include 'nowhere' %\x7d \x7b# " ++
          "\x7b% raw %\x7d \x7b% end \x7b% \" |\n\x7b\x7b x \x7d\x7d \x7b").toList := by
  have hps : ∀ p ∈ manual, p.WellFormed := by decide +kernel
  have hrender := (renderText_verbatim {} {} [] "manual" manual
    (Binding.empty.insert "x" "1") hps).1
  exact ⟨hps, hrender.trans (congrArg Except.ok (by decide +kernel))⟩

end Passage

end Imprint.Template
