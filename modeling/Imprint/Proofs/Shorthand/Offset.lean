import Imprint.Proofs.Shorthand.Grammar
import Imprint.Proofs.Text.Offset

/-!
# Expanding by byte offsets

The shorthand can be expanded in place: a position moves through the text, counted in bytes, and
what lies between two offsets is copied or written anew. Each step of that kind can fail. A part of
a text can only be taken between boundaries in the right order, a byte only below the length, and a
difference only of a number and a smaller one. Here every such step is checked, and so is that the
position moves on and never behind the end of its segment. Nothing is given when a check fails.

It never comes to that. Between two raw blocks the position starts at a boundary, each round moves
it over whole tokens to a later one, and the segment ends at a boundary, too. So expanding in place
gives for every text what expanding its tokens gives.

## Main definitions

* `Imprint.Shorthand.Round`, `Imprint.Shorthand.round?`: one round of the position.
* `Imprint.Shorthand.segment?`: all rounds through a segment.
* `Imprint.Shorthand.stretches`: the segments of a text and the raw blocks between them.
* `Imprint.Shorthand.expandInPlace?`: the expansion of a text.
* `Imprint.Shorthand.Reached`: the positions in a segment that rounds come to.

## Main results

* `Imprint.Shorthand.exists_round`: what a round does.
* `Imprint.Shorthand.segment?_eq`: what all rounds do.
* `Imprint.Shorthand.through?_eq`: what the stretches of a text do in a row.
* `Imprint.Shorthand.expandInPlace_total`: expanding in place always gives the expansion.
-/

namespace Imprint.Shorthand

open String (utf8Len)
open Text (slice? byteAt? offset? IsBoundary)

/-! ### Checked steps -/

/-- A difference, which may not fall below zero. -/
def difference? (a b : Nat) : Option Nat :=
  if b ≤ a then some (a - b) else none

/-- Whether a `$` stands in front of an offset, behind the position. -/
def followsDollar? (s : List Char) (pos start : Nat) : Option Bool :=
  if pos < start then do
    let byte ← byteAt? s (← difference? start 1)
    return byte == Text.dollarByte
  else some false

/-- The offset of the first closing brace that has no partner, if there is one. The number of open
braces may not fall below zero. -/
def closingOffset? : (depth offset : Nat) → List Char → Option (Option Nat)
  | _, _, [] => some none
  | depth, offset, c :: r =>
    if c = '{' then closingOffset? (depth + 1) (offset + c.utf8Size) r
    else if c = '}' then
      if depth = 0 then some (some offset)
      else do closingOffset? (← difference? depth 1) (offset + c.utf8Size) r
    else closingOffset? depth (offset + c.utf8Size) r

/-! ### Rounds -/

/-- What one round does. -/
inductive Round where
  /-- The rest of the segment is written as it is. -/
  | last (written : List Char)
  /-- The position moves on. -/
  | onward (pos : Nat) (written : List Char)
  /-- An interpolation is not closed. -/
  | unclosed (line : Nat)
  deriving DecidableEq, Repr

/-- One round, from a position in a segment that ends at `stop`. -/
def round? (s : List Char) (stop pos : Nat) : Option Round := do
  match offset? ['$', '{'] (← slice? s pos stop) with
  | none => return .last (← slice? s pos stop)
  | some found =>
    let start := pos + found
    if ← followsDollar? s pos start then
      let front ← slice? s pos (← difference? start 1)
      return .onward (start + 2) (front ++ ['$', '{'])
    else
      let front ← slice? s pos start
      let inner := start + 2
      match ← closingOffset? 0 0 (← slice? s inner stop) with
      | none => return .unclosed ((← slice? s 0 start).count '\n' + 1)
      | some length =>
        let e ← slice? s inner (inner + length)
        return .onward (inner + length + 1) (front ++ (Token.interpolation e).expansion)

/-- All rounds through a segment that ends at `stop`. Each one has to move the position on, up to
the end at most. -/
def segment? (s : List Char) (stop pos : Nat) (out : List Char) :
    Option (Except Unclosed (List Char)) := do
  match ← round? s stop pos with
  | .last written => return .ok (out ++ written)
  | .onward pos' written =>
    if pos < pos' ∧ pos' ≤ stop then segment? s stop pos' (out ++ written) else none
  | .unclosed line => return .error ⟨line⟩
termination_by stop - pos

/-! ### Segments and raw blocks -/

/-- A part of a text by its offsets. -/
structure Span where
  start : Nat
  stop : Nat
  deriving DecidableEq, Repr

/-- A part of a text that is expanded, or a raw block that is copied. -/
inductive Stretch where
  | segment (span : Span)
  | block (span : Span)
  deriving DecidableEq, Repr

/-- The offsets of a stretch. -/
def Stretch.span : Stretch → Span
  | .segment span => span
  | .block span => span

/-- What stands in the text at a raw block. -/
def Stretch.block? (s : List Char) : Stretch → Option (List Char)
  | .segment _ => none
  | .block span => slice? s span.start span.stop

/-- The offsets of the raw blocks among regions, the first of which starts at an offset. -/
def blocksFrom : Nat → List (Text.Region (List Char)) → List Span
  | _, [] => []
  | n, .plain t :: rs => blocksFrom (n + utf8Len t) rs
  | n, .found block :: rs => ⟨n, n + utf8Len block⟩ :: blocksFrom (n + utf8Len block) rs

/-- Raw blocks and the segments in front of them and behind the last one, which ends at `stop`. -/
def stretchesFrom (stop : Nat) : (cursor : Nat) → List Span → List Stretch
  | cursor, [] => [.segment ⟨cursor, stop⟩]
  | cursor, block :: blocks =>
    .segment ⟨cursor, block.start⟩ :: .block block :: stretchesFrom stop block.stop blocks

/-- The segments of a text and the raw blocks between them. -/
def stretches (s : List Char) : List Stretch :=
  stretchesFrom (utf8Len s) 0 (blocksFrom 0 (Text.regions Template.rawBlock? s))

/-- Going through stretches of a text. -/
def through? (s : List Char) : List Stretch → List Char → Option (Except Unclosed (List Char))
  | [], out => some (.ok out)
  | .segment span :: rest, out => do
    match ← segment? s span.stop span.start out with
    | .ok out => through? s rest out
    | .error e => return .error e
  | .block span :: rest, out => do through? s rest (out ++ (← slice? s span.start span.stop))

/-- The expansion of a text. -/
def expandInPlace? (s : List Char) : Option (Except Unclosed (List Char)) :=
  through? s (stretches s) []

variable {a b e f m p r s t u v : List Char} {c : Char} {d line n : Nat} {ts : List Token}

/-! ### The tokens in front of a position -/

/-- Characters that open nothing are plain. -/
theorem tokensFrom_append_plain (h : ∀ w, w <:+ f → w ≠ [] → ¬ Opens (w ++ u)) (line : Nat) :
    tokensFrom line 0 (f ++ u) =
      (f.map Token.plain ++ ·) <$> tokensFrom (lineAfter line f) 0 u := by
  induction f generalizing line with
  | nil => cases htokens : tokensFrom line 0 u <;> simp [lineAfter, htokens]
  | cons c f ih =>
    have hc := h (c :: f) List.suffix_rfl (by simp)
    rw [List.cons_append, tokensFrom.eq_5, ih fun w hw => h w (hw.trans (List.suffix_cons c f))]
    · rw [lineAfter_cons]
      cases tokensFrom (lineAfter (nextLine line c) f) 0 u <;> rfl
    · rintro w rfl hw
      exact hc (.inr ⟨w, (congrArg ('$' :: ·) hw).symm⟩)
    · rintro w rfl hw
      exact hc (.inl ⟨w, (congrArg ('$' :: ·) hw).symm⟩)

/-- In front of the first `${` nothing is opened, unless the last character there is a `$`. -/
theorem not_opens_of_first (h : ¬ ['$', '{'] <:+: f) {x : Char}
    (hx : f.getLast? = some '$' → x ≠ '{') {w : List Char} (hw : w <:+ f) (hne : w ≠ []) :
    ¬ Opens (w ++ '$' :: x :: u) := by
  have hinfix {w' : List Char} (hw' : w' <:+ w) : ¬ ['$', '{'] <+: w' := fun hopen =>
    h (hopen.isInfix.trans (hw'.trans hw).isInfix)
  match w, hne with
  | [c], _ =>
    obtain ⟨w, rfl⟩ := hw
    rintro (hopens | hopens)
    · simp [List.cons_prefix_cons] at hopens
    · obtain ⟨rfl, rfl⟩ : '$' = c ∧ '{' = x := by simpa [List.cons_prefix_cons] using hopens
      exact hx (by simp) rfl
  | [c, d], _ =>
    rintro (hopens | hopens)
    · exact hinfix List.suffix_rfl (by simpa [List.cons_prefix_cons] using hopens)
    · simp [List.cons_prefix_cons] at hopens
  | c :: d :: g :: w, _ =>
    rintro (hopens | hopens)
    · exact hinfix List.suffix_rfl (by simpa [List.cons_prefix_cons] using hopens)
    · refine hinfix (List.suffix_cons c _) ?_
      simp only [List.cons_append, List.cons_prefix_cons, List.nil_prefix, and_true] at hopens ⊢
      exact hopens.2

theorem tokensFrom_escape (line : Nat) (v : List Char) :
    tokensFrom line 0 ('$' :: '$' :: '{' :: v) =
      ([Token.escape] ++ ·) <$> tokensFrom line 0 v := by
  rw [tokensFrom]
  cases tokensFrom line 0 v <;> rfl

theorem tokensFrom_interpolation (he : Balanced e) (line : Nat) (v : List Char) :
    tokensFrom line 0 ('$' :: '{' :: (e ++ '}' :: v)) =
      ([Token.interpolation e] ++ ·) <$> tokensFrom (lineAfter line (e ++ ['}'])) 0 v := by
  have henclosed : enclosed? 0 (e ++ '}' :: v) = some e := enclosed?_eq_some_iff.2 ⟨he, v, rfl⟩
  have htake : (e ++ '}' :: v).take (e.length + 1) = e ++ ['}'] := by simp [List.take_append]
  simp only [tokensFrom, henclosed, tokensFrom_eq_drop line (e.length + 1), drop_enclosed, htake]
  cases tokensFrom (lineAfter line (e ++ ['}'])) 0 v <;> rfl

/-! ### Checked steps between boundaries -/

theorem difference?_add (m n : Nat) : difference? (m + n) n = some m := by
  simp [difference?]

/-- Closing braces are counted down only where braces are open. -/
theorem closingOffset?_eq (d n : Nat) (s : List Char) :
    closingOffset? d n s = some ((enclosed? d s).map fun e => n + utf8Len e) := by
  induction d, s using enclosed?.induct generalizing n with
  | case1 => rfl
  | case2 d r ih =>
    rw [closingOffset?, if_pos rfl, ih, enclosed?, Option.map_map]
    simp [Function.comp_def, Nat.add_assoc, Nat.add_comm]
  | case3 r => rfl
  | case4 d r ih =>
    rw [closingOffset?, if_neg (by decide), if_pos rfl, if_neg (Nat.succ_ne_zero d),
      Nat.succ_eq_add_one, difference?_add, Option.bind_eq_bind, Option.bind_some, ih, enclosed?,
      Option.map_map]
    simp [Function.comp_def, Nat.add_assoc, Nat.add_comm]
  | case5 d c r hopen hzero hclose ih =>
    have hother : c ≠ '}' := by
      cases d with
      | zero => exact hzero rfl
      | succ d => exact hclose d rfl
    rw [closingOffset?, if_neg hopen, if_neg hother, ih,
      enclosed?.eq_5 _ _ _ hopen hzero hclose, Option.map_map]
    simp [Function.comp_def, Nat.add_assoc, Nat.add_comm]

/-- The byte in front of an offset is looked at only behind the position. -/
theorem followsDollar?_eq (a f u : List Char) :
    followsDollar? (a ++ (f ++ u)) (utf8Len a) (utf8Len (a ++ f)) =
      some (decide (f.getLast? = some '$')) := by
  rcases List.eq_nil_or_concat' f with rfl | ⟨f, c, rfl⟩
  · simp [followsDollar?]
  · have hpos := c.utf8Size_pos
    have hlt : utf8Len a < utf8Len (a ++ (f ++ [c])) := by simp; omega
    have hone : 1 ≤ utf8Len (a ++ (f ++ [c])) := by omega
    obtain ⟨x, hx, hdollar⟩ := Text.byteAt?_append (a ++ f) c u
    have hbyte : byteAt? (a ++ (f ++ [c] ++ u)) (utf8Len (a ++ (f ++ [c])) - 1) = some x := by
      simpa only [List.append_assoc, List.singleton_append] using hx
    rw [followsDollar?, if_pos hlt, difference?, if_pos hone, Option.bind_eq_bind,
      Option.bind_some, hbyte]
    simp [beq_eq_decide, hdollar]

/-- The part of a text behind a position, up to another place. -/
theorem slice?_of_eq {i j : Nat} (hs : s = a ++ (m ++ b)) (hi : i = utf8Len a)
    (hj : j = utf8Len (a ++ m)) : slice? s i j = some m :=
  Text.slice?_eq_some_iff.2 ⟨a, b, hs, hi.symm, hj.symm⟩

/-! ### One round -/

/-- What a round does with what is left of a segment, when `a` stands in front of it: it writes the
rest, moves over some tokens and writes them anew, or gives the line of a `${` that is not
closed. -/
inductive Moves (a : List Char) : List Char → Round → Prop where
  | last {r : List Char} (h : ∀ line, tokensFrom line 0 r = .ok (r.map Token.plain)) :
      Moves a r (.last r)
  | onward {ts : List Token} {v : List Char} (hts : ts.flatMap Token.source ≠ [])
      (h : ∀ line, tokensFrom line 0 (ts.flatMap Token.source ++ v) =
        (ts ++ ·) <$> tokensFrom (lineAfter line (ts.flatMap Token.source)) 0 v) :
      Moves a (ts.flatMap Token.source ++ v)
        (.onward (utf8Len (a ++ ts.flatMap Token.source)) (ts.flatMap Token.expansion))
  | unclosed {f u : List Char}
      (h : ∀ line, tokensFrom line 0 (f ++ u) = .error ⟨lineAfter line f⟩) :
      Moves a (f ++ u) (.unclosed (lineAfter 1 (a ++ f)))

theorem flatMap_source_plain (s : List Char) : (s.map Token.plain).flatMap Token.source = s := by
  induction s with
  | nil => rfl
  | cons c s ih => simpa [Token.source] using ih

/-- Plain characters and one more token in front of a text. -/
theorem Moves.of_token {tok : Token} (htok : tok.source ≠ [])
    (h : ∀ line, tokensFrom line 0 (f ++ (tok.source ++ v)) =
      (f.map Token.plain ++ ·) <$> (([tok] ++ ·) <$>
        tokensFrom (lineAfter (lineAfter line f) tok.source) 0 v)) (a : List Char) :
    Moves a (f ++ (tok.source ++ v))
      (.onward (utf8Len (a ++ (f ++ tok.source))) (f ++ tok.expansion)) := by
  have hsource : (f.map Token.plain ++ [tok]).flatMap Token.source = f ++ tok.source := by
    rw [List.flatMap_append, flatMap_source_plain, List.flatMap_singleton]
  have hexpansion : (f.map Token.plain ++ [tok]).flatMap Token.expansion = f ++ tok.expansion := by
    rw [List.flatMap_append, flatMap_expansion_plain, List.flatMap_singleton]
  rw [← List.append_assoc, ← hsource, ← hexpansion]
  refine .onward (by simp [hsource, htok]) fun line => ?_
  rw [hsource, List.append_assoc, h, lineAfter_append]
  cases tokensFrom (lineAfter (lineAfter line f) tok.source) 0 v <;> simp

/-- Up to the first `${` nothing but plain characters stands. -/
theorem tokensFrom_first (hf : ¬ ['$', '{'] <:+: f) {x : Char}
    (hx : f.getLast? = some '$' → x ≠ '{') (line : Nat) (u : List Char) :
    tokensFrom line 0 (f ++ '$' :: x :: u) =
      (f.map Token.plain ++ ·) <$> tokensFrom (lineAfter line f) 0 ('$' :: x :: u) :=
  tokensFrom_append_plain (fun _ hw hne => not_opens_of_first hf hx hw hne) line

/-- A `$` in front of the first `${` makes it an escape. -/
theorem round?_escape (hf : ¬ ['$', '{'] <:+: f ++ ['$'] ++ ['$'])
    (hs : s = a ++ (f ++ (Token.escape.source ++ v) ++ b)) :
    round? s (utf8Len (a ++ (f ++ (Token.escape.source ++ v)))) (utf8Len a) =
      some (.onward (utf8Len (a ++ (f ++ Token.escape.source))) (f ++ Token.escape.expansion)) := by
  have hrest : slice? s (utf8Len a) (utf8Len (a ++ (f ++ (Token.escape.source ++ v)))) =
      some (f ++ (Token.escape.source ++ v)) := slice?_of_eq hs rfl rfl
  have hfound : offset? ['$', '{'] (f ++ (Token.escape.source ++ v)) =
      some (utf8Len (f ++ ['$'])) := by
    have hsplit : f ++ (Token.escape.source ++ v) = f ++ ['$'] ++ (['$', '{'] ++ v) := by
      simp [Token.source]
    rw [hsplit]
    exact Text.offset?_append (by simp) hf v
  have hstart : utf8Len a + utf8Len (f ++ ['$']) = utf8Len (a ++ (f ++ ['$'])) :=
    (String.utf8Len_append _ _).symm
  have hdollar : followsDollar? s (utf8Len a) (utf8Len (a ++ (f ++ ['$']))) = some true := by
    have hsplit : s = a ++ (f ++ ['$'] ++ (['$', '{'] ++ (v ++ b))) := by
      simp [hs, Token.source]
    rw [hsplit, followsDollar?_eq]
    simp
  have hfront : difference? (utf8Len (a ++ (f ++ ['$']))) 1 = some (utf8Len (a ++ f)) := by
    rw [← List.append_assoc, String.utf8Len_append]
    exact difference?_add _ 1
  have hslice : slice? s (utf8Len a) (utf8Len (a ++ f)) = some f :=
    slice?_of_eq (b := Token.escape.source ++ (v ++ b)) (by simp [hs]) rfl rfl
  have hpos : utf8Len (a ++ (f ++ ['$'])) + 2 = utf8Len (a ++ (f ++ Token.escape.source)) := by
    have hsplit : a ++ (f ++ Token.escape.source) = a ++ (f ++ ['$']) ++ ['$', '{'] := by
      simp [Token.source]
    rw [hsplit, String.utf8Len_append _ ['$', '{']]
    rfl
  simp only [round?, hrest, hfound, hstart, hdollar, hfront, hslice, Option.bind_eq_bind,
    Option.bind_some, ↓reduceIte, hpos]
  rfl

/-- The first `${`, when no `$` stands in front of it. -/
structure FirstOpening (s a f u b : List Char) : Prop where
  first : ¬ ['$', '{'] <:+: f ++ ['$']
  last : f.getLast? ≠ some '$'
  eq : s = a ++ (f ++ (['$', '{'] ++ u) ++ b)

/-- A round that comes to such a `${` looks for its brace in the rest of the segment. -/
theorem FirstOpening.round?_eq (h : FirstOpening s a f u b) :
    round? s (utf8Len (a ++ (f ++ (['$', '{'] ++ u)))) (utf8Len a) = do
      match (enclosed? 0 u).map utf8Len with
      | none => return .unclosed ((a ++ f).count '\n' + 1)
      | some length =>
        let inner := utf8Len (a ++ (f ++ ['$', '{']))
        let e ← slice? s inner (inner + length)
        return .onward (inner + length + 1) (f ++ (Token.interpolation e).expansion) := by
  obtain ⟨hf, hlast, hs⟩ := h
  have hrest : slice? s (utf8Len a) (utf8Len (a ++ (f ++ (['$', '{'] ++ u)))) =
      some (f ++ (['$', '{'] ++ u)) := slice?_of_eq hs rfl rfl
  have hfound : offset? ['$', '{'] (f ++ (['$', '{'] ++ u)) = some (utf8Len f) :=
    Text.offset?_append (by simp) hf u
  have hdollar : followsDollar? s (utf8Len a) (utf8Len (a ++ f)) = some false := by
    have hsplit : s = a ++ (f ++ (['$', '{'] ++ (u ++ b))) := by simp [hs]
    rw [hsplit, followsDollar?_eq]
    simp [hlast]
  have hfront : slice? s (utf8Len a) (utf8Len (a ++ f)) = some f :=
    slice?_of_eq (b := ['$', '{'] ++ (u ++ b)) (by simp [hs]) rfl rfl
  have hinner : utf8Len (a ++ f) + 2 = utf8Len (a ++ (f ++ ['$', '{'])) := by
    rw [← List.append_assoc, String.utf8Len_append _ ['$', '{']]
    rfl
  have hbehind : slice? s (utf8Len (a ++ (f ++ ['$', '{'])))
      (utf8Len (a ++ (f ++ (['$', '{'] ++ u)))) = some u :=
    slice?_of_eq (b := b) (a := a ++ (f ++ ['$', '{'])) (by simp [hs]) rfl (by simp)
  have hbefore : slice? s 0 (utf8Len (a ++ f)) = some (a ++ f) :=
    slice?_of_eq (a := []) (b := ['$', '{'] ++ (u ++ b)) (by simp [hs]) rfl rfl
  have hclosing : closingOffset? 0 0 u = some ((enclosed? 0 u).map utf8Len) := by
    simp [closingOffset?_eq]
  simp only [round?, hrest, hfound, ← String.utf8Len_append, hdollar, hfront, hinner, hbehind,
    hbefore, hclosing, Option.bind_eq_bind, Option.bind_some, Bool.false_eq_true, ↓reduceIte]

theorem FirstOpening.tokensFrom_eq (h : FirstOpening s a f u b) (line : Nat) :
    tokensFrom line 0 (f ++ (['$', '{'] ++ u)) =
      (f.map Token.plain ++ ·) <$> tokensFrom (lineAfter line f) 0 ('$' :: '{' :: u) :=
  tokensFrom_first (fun hf => h.first (hf.trans (List.prefix_append f ['$']).isInfix))
    (fun hlast => absurd hlast h.last) line u

/-- When the brace is found, the position moves behind it. -/
theorem FirstOpening.moves_of_balanced (h : FirstOpening s a f (e ++ '}' :: v) b)
    (he : Balanced e) :
    ∃ w, round? s (utf8Len (a ++ (f ++ (['$', '{'] ++ (e ++ '}' :: v))))) (utf8Len a) = some w ∧
      Moves a (f ++ (['$', '{'] ++ (e ++ '}' :: v))) w := by
  have hclosed : enclosed? 0 (e ++ '}' :: v) = some e := enclosed?_eq_some_iff.2 ⟨he, v, rfl⟩
  have hsource : (Token.interpolation e).source = ['$', '{'] ++ (e ++ ['}']) := by
    simp [Token.source]
  have hslice : slice? s (utf8Len (a ++ (f ++ ['$', '{'])))
      (utf8Len (a ++ (f ++ ['$', '{'])) + utf8Len e) = some e :=
    slice?_of_eq (b := '}' :: (v ++ b)) (by simp [h.eq]) rfl (String.utf8Len_append _ _).symm
  have hpos : utf8Len (a ++ (f ++ ['$', '{'])) + utf8Len e + 1 =
      utf8Len (a ++ (f ++ (Token.interpolation e).source)) := by
    have hsplit : a ++ (f ++ (Token.interpolation e).source) =
        a ++ (f ++ ['$', '{']) ++ e ++ ['}'] := by simp [hsource]
    rw [hsplit, String.utf8Len_append _ ['}'], String.utf8Len_append _ e]
    rfl
  have hrest : ['$', '{'] ++ (e ++ '}' :: v) = (Token.interpolation e).source ++ v := by
    simp [hsource]
  have hline (line : Nat) :
      lineAfter line (Token.interpolation e).source = lineAfter line (e ++ ['}']) := by
    simp [hsource, nextLine]
  refine ⟨.onward (utf8Len (a ++ (f ++ (Token.interpolation e).source)))
    (f ++ (Token.interpolation e).expansion), ?_, ?_⟩
  · simp only [h.round?_eq, hclosed, Option.map_some, hslice, Option.bind_eq_bind,
      Option.bind_some, hpos]
    rfl
  · rw [hrest]
    refine Moves.of_token (by simp [hsource]) (fun line => ?_) a
    rw [← hrest, h.tokensFrom_eq, tokensFrom_interpolation he, hline]

/-- When there is none, the line of the `${` is given. -/
theorem FirstOpening.moves_of_none (h : FirstOpening s a f u b) (hu : enclosed? 0 u = none) :
    ∃ w, round? s (utf8Len (a ++ (f ++ (['$', '{'] ++ u)))) (utf8Len a) = some w ∧
      Moves a (f ++ (['$', '{'] ++ u)) w := by
  refine ⟨.unclosed (lineAfter 1 (a ++ f)), ?_, .unclosed fun line => ?_⟩
  · rw [h.round?_eq, hu, lineAfter_eq, Nat.add_comm]
    rfl
  · rw [h.tokensFrom_eq, tokensFrom, hu]
    rfl

/-- A round never fails. -/
theorem exists_round (hs : s = a ++ (r ++ b)) :
    ∃ w, round? s (utf8Len (a ++ r)) (utf8Len a) = some w ∧ Moves a r w := by
  have hrest : slice? s (utf8Len a) (utf8Len (a ++ r)) = some r := slice?_of_eq hs rfl rfl
  by_cases hopen : ['$', '{'] <:+: r
  · obtain ⟨f, u, rfl, hf⟩ := Text.exists_first (by simp) hopen
    by_cases hlast : f.getLast? = some '$'
    · obtain ⟨g, rfl⟩ := List.getLast?_eq_some_iff.1 hlast
      have hg : ¬ ['$', '{'] <:+: g := fun hg =>
        hf (hg.trans (by simpa using (List.prefix_append g (['$'] ++ ['$'])).isInfix))
      have hsplit : g ++ ['$'] ++ (['$', '{'] ++ u) = g ++ (Token.escape.source ++ u) := by
        simp [Token.source]
      rw [hsplit] at hs ⊢
      refine ⟨_, round?_escape hf hs, Moves.of_token (by simp [Token.source]) (fun line => ?_) a⟩
      have hline (line : Nat) : lineAfter line Token.escape.source = line := rfl
      rw [hline, ← tokensFrom_escape]
      exact tokensFrom_first hg (by simp) line _
    · have h : FirstOpening s a f u b := ⟨hf, hlast, hs⟩
      cases hu : enclosed? 0 u with
      | none => exact h.moves_of_none hu
      | some e =>
        obtain ⟨he, v, rfl⟩ := enclosed?_eq_some_iff.1 hu
        exact h.moves_of_balanced he
  · refine ⟨.last r, ?_, .last fun line => tokensFrom_of_reads (reads_plain hopen) line⟩
    simp only [round?, hrest, Text.offset?_eq_none_iff.2 hopen, Option.bind_eq_bind,
      Option.bind_some]
    rfl

-- the two bytes of the `ä` and the escape lie behind the position
example : round? ['ä', '$', '$', '{', 'x'] 6 0 = some (.onward 5 ['ä', '$', '{']) := by decide

/-- A position moves over something, and not behind the end of the segment. -/
theorem Moves.exists_eq {pos : Nat} {written : List Char} (h : Moves a r (.onward pos written)) :
    ∃ m v, m ≠ [] ∧ r = m ++ v ∧ pos = utf8Len (a ++ m) := by
  cases h with
  | @onward ts v hts h => exact ⟨_, v, hts, rfl, rfl⟩

theorem Moves.lt_and_le {pos : Nat} {written : List Char} (h : Moves a r (.onward pos written)) :
    utf8Len a < pos ∧ pos ≤ utf8Len (a ++ r) := by
  obtain ⟨m, v, hm, rfl, rfl⟩ := h.exists_eq
  have hmove : 0 < utf8Len m := Nat.pos_of_ne_zero fun h => hm (String.utf8Len_eq_zero.1 h)
  exact ⟨by simpa using hmove, by simp⟩

/-! ### All rounds -/

/-- The rounds through a segment end, and they write what its tokens stand for. -/
theorem segment?_eq (hs : s = a ++ (r ++ b)) (out : List Char) :
    segment? s (utf8Len (a ++ r)) (utf8Len a) out =
      some ((fun ts => out ++ ts.flatMap Token.expansion) <$>
        tokensFrom (lineAfter 1 a) 0 r) := by
  induction hn : r.length using Nat.strongRecOn generalizing a r out with
  | ind n ih =>
    subst hn
    obtain ⟨w, hround, hmoves⟩ := exists_round hs
    rw [segment?, hround, Option.bind_eq_bind, Option.bind_some]
    cases hmoves with
    | last h =>
      rw [h, ← flatMap_expansion_plain r]
      simp [flatMap_expansion_plain]
    | unclosed h =>
      rw [h, lineAfter_append]
      rfl
    | @onward ts v hts h =>
      have hmoves : Moves a (ts.flatMap Token.source ++ v) _ := .onward hts h
      have hpos := List.length_pos_iff.2 hts
      have hs' : s = a ++ ts.flatMap Token.source ++ (v ++ b) := by simp [hs]
      have hrec := ih v.length (by simp only [List.length_append]; omega) hs'
        (out ++ ts.flatMap Token.expansion) rfl
      rw [List.append_assoc, lineAfter_append] at hrec
      simp only [if_pos hmoves.lt_and_le, hrec, h]
      cases tokensFrom (lineAfter (lineAfter 1 a) (ts.flatMap Token.source)) 0 v <;> simp

/-- The positions that the rounds through a segment come to. -/
inductive Reached (s : List Char) (span : Span) : Nat → Prop where
  | start : Reached s span span.start
  | onward {pos pos' : Nat} {written : List Char} (h : Reached s span pos)
      (hround : round? s span.stop pos = some (.onward pos' written)) : Reached s span pos'

/-- A position divides its segment. -/
theorem Reached.exists_eq (hs : s = a ++ (r ++ b)) {pos : Nat}
    (h : Reached s ⟨utf8Len a, utf8Len (a ++ r)⟩ pos) :
    ∃ m v, r = m ++ v ∧ pos = utf8Len (a ++ m) := by
  induction h with
  | start => exact ⟨[], r, rfl, by simp⟩
  | @onward pos pos' written h hround ih =>
    obtain ⟨m, v, rfl, rfl⟩ := ih
    have hs' : s = a ++ m ++ (v ++ b) := by simp [hs]
    obtain ⟨w, hround', hmoves⟩ := exists_round hs'
    rw [List.append_assoc, hround] at hround'
    obtain rfl := Option.some.inj hround'
    obtain ⟨m', v', -, rfl, rfl⟩ := hmoves.exists_eq
    exact ⟨m ++ m', v', by simp, by simp⟩

/-! ### Segments and raw blocks in a row -/

/-- The offsets of texts in a row, the first of which starts at an offset. -/
def spansFrom : Nat → List (List Char) → List Span
  | _, [] => []
  | n, p :: ps => ⟨n, n + utf8Len p⟩ :: spansFrom (n + utf8Len p) ps

theorem le_start_of_mem_spansFrom {ps : List (List Char)} {span : Span}
    (h : span ∈ spansFrom n ps) : n ≤ span.start := by
  induction ps generalizing n with
  | nil => cases h
  | cons p ps ih =>
    rcases List.mem_cons.1 h with rfl | h
    · exact Nat.le_refl n
    · exact Nat.le_trans (Nat.le_add_right n _) (ih h)

theorem pairwise_spansFrom (n : Nat) (ps : List (List Char)) :
    (spansFrom n ps).Pairwise fun x y => x.stop ≤ y.start := by
  induction ps generalizing n with
  | nil => exact .nil
  | cons p ps ih => exact .cons (fun _ => le_start_of_mem_spansFrom) (ih _)

/-- Each of the spans belongs to one of the texts. -/
theorem exists_of_mem_spansFrom {ps : List (List Char)} {span : Span}
    (h : span ∈ spansFrom n ps) : ∃ a m b, ps.flatten = a ++ (m ++ b) ∧
      span = ⟨n + utf8Len a, n + utf8Len (a ++ m)⟩ := by
  induction ps generalizing n with
  | nil => cases h
  | cons p ps ih =>
    rcases List.mem_cons.1 h with rfl | h
    · exact ⟨[], p, ps.flatten, rfl, rfl⟩
    · obtain ⟨a, m, b, hps, rfl⟩ := ih h
      exact ⟨p ++ a, m, b, by simp [hps], by simp [Nat.add_assoc]⟩

/-- A raw block is what is taken off the text. -/
theorem eq_of_rawBlock? {block : List Char} (h : Template.rawBlock? (m ++ r) = some (block, r)) :
    m = block :=
  List.append_cancel_right (Template.rawBlock?_eq_some h).2

/-- Raw blocks and segments stand in a row from the first offset to the last one. A plain text in
front of the regions belongs to their first segment. -/
theorem exists_stretchesFrom {rs : List (Text.Region (List Char))}
    (h : Text.Divided Template.rawBlock? t rs) (n : Nat) (p : List Char)
    (hp : p = [] ∨ ∀ w rs', rs ≠ .plain w :: rs') :
    ∃ ps, ps.flatten = p ++ t ∧
      (stretchesFrom (n + utf8Len (p ++ t)) n (blocksFrom (n + utf8Len p) rs)).map Stretch.span =
        spansFrom n ps := by
  induction h generalizing n p with
  | nil => exact ⟨[p], by simp, by simp [blocksFrom, stretchesFrom, spansFrom, Stretch.span]⟩
  | @found m r block rs hm hblock hr ih =>
    obtain rfl := eq_of_rawBlock? hblock
    obtain ⟨ps, hps, hspans⟩ := ih (n + utf8Len p + utf8Len m) [] (.inl rfl)
    refine ⟨p :: m :: ps, by simp [hps], ?_⟩
    have hstop : n + utf8Len (p ++ (m ++ r)) = n + utf8Len p + utf8Len m + utf8Len ([] ++ r) := by
      simp [Nat.add_assoc]
    simp only [blocksFrom, stretchesFrom, List.map_cons, spansFrom, Stretch.span, hstop]
    rw [← hspans, String.utf8Len_nil, Nat.add_zero]
  | @plain t r rs ht hnone hr hrs ih =>
    obtain rfl : p = [] := hp.resolve_right fun h => h t rs rfl
    obtain ⟨ps, hps, hspans⟩ := ih n t (.inr hrs)
    exact ⟨ps, hps, by simpa [blocksFrom] using hspans⟩

/-- The stretches of a text are its parts. -/
theorem exists_stretches (s : List Char) :
    ∃ ps, ps.flatten = s ∧ (stretches s).map Stretch.span = spansFrom 0 ps := by
  obtain ⟨ps, hps, hspans⟩ := exists_stretchesFrom (divided_regions s) 0 [] (.inl rfl)
  exact ⟨ps, hps, by simpa [stretches] using hspans⟩

/-- Stretches do not overlap. -/
theorem pairwise_stretches (s : List Char) :
    (stretches s).Pairwise fun x y => x.span.stop ≤ y.span.start := by
  obtain ⟨ps, -, hspans⟩ := exists_stretches s
  rw [← List.pairwise_map (R := fun x y : Span => x.stop ≤ y.start), hspans]
  exact pairwise_spansFrom 0 ps

/-- A stretch is a part of the text. -/
theorem exists_of_mem_stretches {stretch : Stretch} (h : stretch ∈ stretches s) :
    ∃ a m b, s = a ++ (m ++ b) ∧ stretch.span = ⟨utf8Len a, utf8Len (a ++ m)⟩ := by
  obtain ⟨ps, rfl, hspans⟩ := exists_stretches s
  have hmem : stretch.span ∈ spansFrom 0 ps := hspans ▸ List.mem_map_of_mem h
  obtain ⟨a, m, b, heq, hspan⟩ := exists_of_mem_spansFrom hmem
  exact ⟨a, m, b, heq, by simpa using hspan⟩

/-- The blocks among the stretches are the raw blocks of the text. -/
theorem filterMap_block?_stretchesFrom {rs : List (Text.Region (List Char))}
    (h : Text.Divided Template.rawBlock? t rs) (hs : s = a ++ t) (stop cursor : Nat) :
    (stretchesFrom stop cursor (blocksFrom (utf8Len a) rs)).filterMap (Stretch.block? s) =
      Text.findAll Template.rawBlock? t := by
  induction h generalizing a cursor with
  | nil => rfl
  | @found m r block rs hm hblock hr ih =>
    obtain rfl := eq_of_rawBlock? hblock
    have hslice : Stretch.block? s (.block ⟨utf8Len a, utf8Len (a ++ m)⟩) = some m :=
      slice?_of_eq hs rfl rfl
    rw [blocksFrom, ← String.utf8Len_append, stretchesFrom, List.filterMap_cons_none rfl,
      List.filterMap_cons_some hslice, ih (a := a ++ m) (by simp [hs]),
      Text.findAll_append_found hm hblock]
  | @plain t r rs ht hnone hr hrs ih =>
    rw [blocksFrom, ← String.utf8Len_append, ih (a := a ++ t) (by simp [hs]),
      Text.findAll_append_plain hnone]

/-! ### The whole text -/

/-- A segment writes its tokens. -/
theorem through?_segment (hs : s = a ++ (p ++ u)) (rest : List Stretch) (out : List Char) :
    through? s (.segment ⟨utf8Len a, utf8Len (a ++ p)⟩ :: rest) out = do
      match tokensFrom (lineAfter 1 a) 0 p with
      | .ok ts => through? s rest (out ++ ts.flatMap Token.expansion)
      | .error e => return .error e := by
  rw [through?, segment?_eq hs]
  cases tokensFrom (lineAfter 1 a) 0 p <;> rfl

/-- A raw block is copied. -/
theorem through?_block (hs : s = a ++ (m ++ u)) (rest : List Stretch) (out : List Char) :
    through? s (.block ⟨utf8Len a, utf8Len (a ++ m)⟩ :: rest) out = through? s rest (out ++ m) := by
  rw [through?, slice?_of_eq hs rfl rfl]
  rfl

/-- Segments and raw blocks write what the regions are read as. A plain text in front of the regions
belongs to their first segment. -/
theorem through?_eq {rs : List (Text.Region (List Char))}
    (h : Text.Divided Template.rawBlock? t rs) (hs : s = a ++ (p ++ t))
    (hp : p = [] ∨ ∀ w rs', rs ≠ .plain w :: rs') (out : List Char) :
    through? s (stretchesFrom (utf8Len s) (utf8Len a) (blocksFrom (utf8Len (a ++ p)) rs)) out =
      some (do
        let ts ← tokensFrom (lineAfter 1 a) 0 p
        let us ← tokensOfRegions (lineAfter 1 (a ++ p)) rs
        return out ++ (ts ++ us).flatMap Token.expansion) := by
  induction h generalizing a p out with
  | nil =>
    have hstop : utf8Len s = utf8Len (a ++ p) := by simp [hs]
    rw [blocksFrom, stretchesFrom, hstop, through?_segment hs]
    cases tokensFrom (lineAfter 1 a) 0 p <;>
      simp [tokensOfRegions, through?, bind, Except.bind, pure, Except.pure]
  | @found m r block rs hm hblock hr ih =>
    obtain rfl := eq_of_rawBlock? hblock
    have hs' : s = a ++ p ++ (m ++ r) := by simp [hs]
    have hrest := ih (a := a ++ p ++ m) (p := []) (by simp [hs]) (.inl rfl)
    rw [List.append_nil] at hrest
    rw [blocksFrom, stretchesFrom, ← String.utf8Len_append, through?_segment hs]
    cases htokens : tokensFrom (lineAfter 1 a) 0 p with
    | error e => rfl
    | ok ts =>
      simp only [through?_block hs', hrest, tokensOfRegions, lineAfter_append]
      cases tokensOfRegions (lineAfter (lineAfter (lineAfter 1 a) p) m) rs <;>
        simp [tokensFrom, Token.expansion, bind, Except.bind, pure, Except.pure]
  | @plain t r rs ht hnone hr hrs ih =>
    obtain rfl : p = [] := hp.resolve_right fun h => h t rs rfl
    have hrest := ih (a := a) (p := t) hs (.inr hrs) out
    rw [List.append_nil, blocksFrom, ← String.utf8Len_append, hrest, tokensOfRegions,
      lineAfter_append]
    cases tokensFrom (lineAfter 1 a) 0 t with
    | error e => rfl
    | ok ts =>
      cases tokensOfRegions (lineAfter (lineAfter 1 a) t) rs <;>
        simp [tokensFrom, bind, Except.bind, pure, Except.pure]

/-- Expanding in place never fails and comes to an end. -/
theorem expandInPlace?_eq_expand (s : List Char) : expandInPlace? s = some (expand s) := by
  have h := through?_eq (a := []) (p := []) (divided_regions s) rfl (.inl rfl) []
  rw [expandInPlace?, stretches]
  exact h

/-- From every position in a segment a round is possible, and it moves the position on within the
segment. -/
theorem Reached.exists_round (hs : s = a ++ (r ++ b)) {pos : Nat}
    (h : Reached s ⟨utf8Len a, utf8Len (a ++ r)⟩ pos) :
    IsBoundary s pos ∧ utf8Len a ≤ pos ∧ pos ≤ utf8Len (a ++ r) ∧
      ∃ round, round? s (utf8Len (a ++ r)) pos = some round ∧
        ∀ pos' written, round = .onward pos' written → pos < pos' ∧ pos' ≤ utf8Len (a ++ r) := by
  obtain ⟨m, v, rfl, rfl⟩ := h.exists_eq hs
  have hs' : s = a ++ m ++ (v ++ b) := by simp [hs]
  obtain ⟨w, hround, hmoves⟩ := Shorthand.exists_round hs'
  rw [List.append_assoc] at hround
  refine ⟨⟨a ++ m, v ++ b, hs', rfl⟩, by simp, by simp, w, hround, ?_⟩
  rintro pos' written rfl
  simpa only [List.append_assoc] using hmoves.lt_and_le

/-- Expanding in place always gives the expansion. So no part is ever taken but between boundaries
in the right order, no difference falls below zero and the rounds end. Segments and raw blocks
follow each other without overlap. In each segment the position moves over boundaries, further with
every round, and never passes the end. -/
theorem expandInPlace_total (s : List Char) :
    expandInPlace? s = some (expand s) ∧
      (∀ i j, (slice? s i j).isSome ↔
        i ≤ j ∧ j ≤ utf8Len s ∧ IsBoundary s i ∧ IsBoundary s j) ∧
      (stretches s).Pairwise (fun x y => x.span.stop ≤ y.span.start) ∧
      (stretches s).filterMap (Stretch.block? s) = Text.findAll Template.rawBlock? s ∧
      ∀ span, .segment span ∈ stretches s →
        span.start ≤ span.stop ∧ IsBoundary s span.start ∧ IsBoundary s span.stop ∧
        ∀ pos, Reached s span pos →
          IsBoundary s pos ∧ span.start ≤ pos ∧ pos ≤ span.stop ∧
          ∃ round, round? s span.stop pos = some round ∧
            ∀ pos' written, round = .onward pos' written → pos < pos' ∧ pos' ≤ span.stop := by
  refine ⟨expandInPlace?_eq_expand s, fun i j => Text.isSome_slice?_iff, pairwise_stretches s,
    filterMap_block?_stretchesFrom (s := s) (a := []) (divided_regions s) rfl (utf8Len s) 0,
    fun span hspan => ?_⟩
  obtain ⟨a, m, b, hs, rfl⟩ : ∃ a m b, s = a ++ (m ++ b) ∧
      span = ⟨utf8Len a, utf8Len (a ++ m)⟩ := exists_of_mem_stretches hspan
  exact ⟨by simp, ⟨a, m ++ b, hs, rfl⟩, ⟨a ++ m, b, by simp [hs], rfl⟩,
    fun pos hpos => hpos.exists_round hs⟩

end Imprint.Shorthand
