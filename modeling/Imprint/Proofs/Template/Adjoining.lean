import Imprint.Proofs.Template.Interpolation
import Imprint.Proofs.Template.Substitution

/-!
# What stands beside an interpolation

The shorthand is expanded before a template is cut into its pieces, so the braces that it leaves
meet the characters beside them. An escape leaves `${`, and with a `{`, `%` or `#` behind it the
brace opens a piece. An interpolation leaves `{{ ` and ` }}`, and a brace in front of it makes the
first of its own a part of what stands between the delimiters. Everywhere else a plain text may
stand beside them, whatever braces it begins or ends with.

## Main results

* `Imprint.Template.renderText_of_isPlainText`: a text that is plain when it is expanded.
* `Imprint.Template.renderText_escape_iff`: what may stand behind an escape.
* `Imprint.Template.renderText_between`: an interpolation between two plain texts.
* `Imprint.Template.renderText_behind_brace`: an interpolation with a brace in front of it.
-/

namespace Imprint.Template

variable {store : Store} {searchPath : List Path} {name x : String} {m p s t u : List Char}

/-! ### Plain texts -/

theorem Unopened.isPlainText (h : Unopened s) : IsPlainText s := by
  intro d hd hpair
  obtain ⟨v, hstart, hv⟩ := List.infix_iff_prefix_suffix.1 hpair
  have hne : v ≠ [] := by
    rintro rfl
    obtain rfl := List.prefix_nil.1 hstart
    simp [openings] at hd
  have hopens := h v hv hne []
  rw [List.append_nil] at hopens
  exact opensPiece_eq_false_iff.1 hopens d hd hstart

/-- Plain texts make one when no piece is opened where they meet. -/
theorem IsPlainText.append (hs : IsPlainText s) (hu : IsPlainText u)
    (hmeet : s.getLast? = some '{' → ∀ c, u.head? = some c → Template.opensPiece ['{', c] = false) :
    IsPlainText (s ++ u) := by
  have hpair {c : Char} (hc : ['{', c] ∈ openings) : ¬ ['{', c] <:+: s ++ u := by
    rw [Text.pair_infix_append]
    rintro (h | h | ⟨hlast, hhead⟩)
    · exact hs _ hc h
    · exact hu _ hc h
    · exact opensPiece_eq_false_iff.1 (hmeet hlast c hhead) _ hc List.prefix_rfl
  intro d hd
  have hcases := hd
  simp only [openings, List.mem_cons, List.not_mem_nil, or_false] at hcases
  rcases hcases with rfl | rfl | rfl
  · exact hpair hd
  · exact hpair hd
  · exact hpair hd

/-- What is plain once the shorthand is expanded is rendered as it is. -/
theorem renderText_of_isPlainText (around : Surroundings) (store : Store)
    (searchPath : List Path) (b : Binding) (hs : expanded name s = .ok t) (ht : IsPlainText t) :
    renderText around store searchPath name s b = .ok (Text.trim t) := by
  have htext := Fragment.ofText_expansion name (fun _ h => absurd h List.not_mem_nil) ht
  have hcompile := compile_of_references_eq_nil store searchPath hs ht.references_eq_nil htext
    rfl rfl
  have hrender := Fragment.render_compile_source (b := b) around t name
    (fun _ h => absurd h List.not_mem_nil) fun _ h => absurd h List.not_mem_nil
  rw [renderText, hcompile]
  exact hrender

/-! ### One token between two texts -/

/-- Of a text that has one token and no other `$`, only the token is written anew. -/
theorem expand_between (token : Shorthand.Token) (htoken : Shorthand.Reads token.source [token])
    (hlast : token.source.getLast? ≠ some '$') (hraw : Shorthand.Rawless (p ++ token.source ++ s))
    (hp : '$' ∉ p) (hs : '$' ∉ s) :
    Shorthand.expand (p ++ token.source ++ s) = .ok (p ++ token.expansion ++ s) := by
  have hplain {u : List Char} (hu : '$' ∉ u) : Shorthand.Reads u (u.map .plain) :=
    Shorthand.reads_plain fun hpair => hu (hpair.subset List.mem_cons_self)
  have hfront := (hplain hp).append htoken (.inl fun h => hp (List.mem_of_mem_getLast? h))
  have hne : token.source ≠ [] := by
    intro hnil
    rw [hnil] at htoken
    cases htoken
  have hall := hfront.append (hplain hs) (.inl (by rwa [List.getLast?_append_of_ne_nil _ hne]))
  refine Shorthand.expand_eq_ok_iff.2 ⟨_, (Shorthand.readsText_iff_of_rawless hraw).2 hall, ?_⟩
  simp [Shorthand.flatMap_expansion_plain]

/-! ### Escapes -/

/-- An escape between two plain texts stands for `${`, unless a piece is opened by its brace and
what follows it. -/
theorem renderText_escape (around : Surroundings) (store : Store) (searchPath : List Path)
    (name : String) (p s : List Char) (b : Binding)
    (hp : IsPlainText p ∧ '$' ∉ p ∧ p.getLast? ≠ some '{')
    (hs : IsPlainText s ∧ '$' ∉ s) (hnext : ∀ c, s.head? = some c → opensPiece ['{', c] = false) :
    renderText around store searchPath name (p ++ ['$', '$', '{'] ++ s) b =
      .ok (Text.trim (p ++ ['$', '{'] ++ s)) := by
  have hplain {e : List Char} (he : IsPlainText e) : IsPlainText (p ++ e ++ s) :=
    (hp.1.append he fun h => absurd h hp.2.2).append hs.1 fun _ => hnext
  have hraw := (hplain (e := ['$', '$', '{']) (by decide)).rawless
  have hexpand : Shorthand.expand (p ++ ['$', '$', '{'] ++ s) = .ok (p ++ ['$', '{'] ++ s) :=
    expand_between .escape (.escape .nil) (by decide) hraw hp.2.1 hs.2
  exact renderText_of_isPlainText around store searchPath b (by rw [expanded, hexpand])
    (hplain (by decide))

/-- What may follow an escape: the character behind it decides, whatever the two texts are. -/
theorem renderText_escape_iff (next : Option Char) :
    (∀ (around : Surroundings) (store : Store) (searchPath : List Path) (name : String)
        (p s : List Char) (b : Binding),
      IsPlainText p ∧ '$' ∉ p ∧ p.getLast? ≠ some '{' → IsPlainText s ∧ '$' ∉ s → s.head? = next →
        renderText around store searchPath name (p ++ ['$', '$', '{'] ++ s) b =
          .ok (Text.trim (p ++ ['$', '{'] ++ s))) ↔
      next ≠ some '{' ∧ next ≠ some '%' ∧ next ≠ some '#' := by
  constructor
  · intro h
    have hsingle (c : Char) (hc : IsPlainText [c] ∧ '$' ∉ [c]) (hnext : next = some c) :
        renderText {} {} [] "t" ['$', '$', '{', c] {} = .ok (Text.trim ['$', '{', c]) :=
      h {} {} [] "t" [] [c] {} (by decide) hc hnext.symm
    refine ⟨fun hnext => ?_, fun hnext => ?_, fun hnext => ?_⟩
    · have hrender := hsingle '{' (by decide) hnext
      exact absurd (congrArg Except.toOption hrender) (by decide +kernel)
    · have hrender := hsingle '%' (by decide) hnext
      exact absurd (congrArg Except.toOption hrender) (by decide +kernel)
    · have hrender := hsingle '#' (by decide) hnext
      exact absurd (congrArg Except.toOption hrender) (by decide +kernel)
  · rintro ⟨hbrace, hpercent, hhash⟩ around store searchPath name p s b hp hs rfl
    refine renderText_escape around store searchPath name p s b hp hs fun c hc => ?_
    rw [hc] at hbrace hpercent hhash
    rw [opensPiece_eq_false_iff]
    have hne {d : Char} (hd : some c ≠ some d) : d ≠ c := fun heq => hd (heq ▸ rfl)
    simp [openings, List.cons_prefix_cons, hne hbrace, hne hpercent, hne hhash]

/-- A blank follows the escape, and more braces stand around it. -/
theorem renderText_escape_iff_blank :
    (some ' ' ≠ some '{' ∧ some ' ' ≠ some '%' ∧ some ' ' ≠ some '#') ∧
      renderText {} {} [] "t"
          ("\x7b \x7d".toList ++ ['$', '$', '{'] ++ " \x7b\x7d \x7b".toList) {} =
        .ok "\x7b \x7d$\x7b \x7b\x7d \x7b".toList := by
  have hblank : some ' ' ≠ some '{' ∧ some ' ' ≠ some '%' ∧ some ' ' ≠ some '#' := by decide
  have hrender := (renderText_escape_iff (some ' ')).2 hblank {} {} [] "t" "\x7b \x7d".toList
    " \x7b\x7d \x7b".toList {} (by decide +kernel) (by decide +kernel) rfl
  exact ⟨hblank, hrender.trans (congrArg Except.ok (by decide +kernel))⟩

/-- The length of a shell variable, escaped: its `{#` opens a comment. -/
theorem not_renderText_escape :
    ¬ ∀ (around : Surroundings) (store : Store) (searchPath : List Path) (name : String)
      (p s : List Char) (b : Binding),
      IsPlainText p ∧ '$' ∉ p ∧ p.getLast? ≠ some '{' → IsPlainText s ∧ '$' ∉ s →
        renderText around store searchPath name (p ++ ['$', '$', '{'] ++ s) b =
          .ok (Text.trim (p ++ ['$', '{'] ++ s)) := by
  intro h
  have hrender := h {} {} [] "template" "echo ".toList "#HOME\x7d".toList {} (by decide) (by decide)
  exact absurd (congrArg Except.toOption hrender) (by decide +kernel)

/-! ### Interpolations -/

/-- A variable between two plain texts is rendered as its value, whatever the value is. In front of
it any character but an opening brace may stand, and any character behind it. -/
theorem renderText_between (around : Surroundings) (store : Store) (searchPath : List Path)
    (name : String) (p s : List Char) (x v : String) (b : Binding)
    (hp : IsPlainText p ∧ '$' ∉ p) (hs : IsPlainText s ∧ '$' ∉ s) (hlast : p.getLast? ≠ some '{')
    (hreads : readsVariable x = true) (hx : ∀ c ∈ x.toList, Reader.isNameChar c = true)
    (hcontext : x ≠ contextName) (hb : b.get? x = some v) :
    renderText around store searchPath name (p ++ shorthand x.toList ++ s) b =
      .ok (Text.trim (p ++ v.toList ++ s)) := by
  let fs : List Fragment := [.plain p, .variable x]
  have hfs : ∀ f ∈ fs, f.WellFormed ∧ f.Regular := by
    intro f hf
    simp only [fs, List.mem_cons, List.not_mem_nil, or_false] at hf
    rcases hf with rfl | rfl
    · exact ⟨⟨hp.1, hp.2, hlast⟩, trivial⟩
    · exact ⟨hreads, hx, hcontext⟩
  have hsome : ∀ y, .variable y ∈ fs → (b.get? y).isSome := by
    intro y hy
    obtain rfl : y = x := by simpa [fs] using hy
    simp [hb]
  have hsource : p ++ shorthand x.toList ++ s = fs.flatMap Fragment.source ++ s := by
    simp [fs, Fragment.source, shorthand]
  have hvalue : p ++ v.toList ++ s = fs.flatMap (Fragment.value b) ++ s := by
    simp [fs, Fragment.value, hb]
  rw [renderText, hsource, hvalue,
    Fragment.compile_source store searchPath name hfs trivial hs.1 hs.2]
  exact Fragment.render_compile_source around s name (fun f hf => (hfs f hf).2) hsome

/-- Braces beside the variable and in its value. -/
theorem renderText_between_braces :
    (IsPlainText "\x7b a\x7d".toList ∧ '$' ∉ "\x7b a\x7d".toList) ∧
      (IsPlainText "\x7bb \x7b".toList ∧ '$' ∉ "\x7bb \x7b".toList) ∧
      "\x7b a\x7d".toList.getLast? ≠ some '{' ∧ readsVariable "x" = true ∧
      (∀ c ∈ "x".toList, Reader.isNameChar c = true) ∧ "x" ≠ contextName ∧
      (Binding.empty.insert "x" "\x7b\x7b x").get? "x" = some "\x7b\x7b x" ∧
      renderText {} {} [] "t" ("\x7b a\x7d".toList ++ shorthand "x".toList ++ "\x7bb \x7b".toList)
          (Binding.empty.insert "x" "\x7b\x7b x") =
        .ok "\x7b a\x7d\x7b\x7b x\x7bb \x7b".toList := by
  have hfront : IsPlainText "\x7b a\x7d".toList ∧ '$' ∉ "\x7b a\x7d".toList := by decide +kernel
  have hback : IsPlainText "\x7bb \x7b".toList ∧ '$' ∉ "\x7bb \x7b".toList := by decide +kernel
  have hlast : "\x7b a\x7d".toList.getLast? ≠ some '{' := by decide +kernel
  have hreads : readsVariable "x" = true := by decide +kernel
  have hx : ∀ c ∈ "x".toList, Reader.isNameChar c = true :=
    List.all_eq_true.1 (by decide +kernel)
  have hcontext : "x" ≠ contextName := by decide +kernel
  have hb : (Binding.empty.insert "x" "\x7b\x7b x").get? "x" = some "\x7b\x7b x" := by
    rw [Binding.get?_insert, if_pos rfl]
  have hrender :=
    renderText_between {} {} [] "t" _ _ "x" _ _ hfront hback hlast hreads hx hcontext hb
  exact ⟨hfront, hback, hlast, hreads, hx, hcontext, hb,
    hrender.trans (congrArg Except.ok (by decide +kernel))⟩

/-- A variable of which the engine has a value of its own is not looked up in the binding. -/
theorem not_renderText_between :
    ¬ ∀ (around : Surroundings) (store : Store) (searchPath : List Path) (name : String)
      (p s : List Char) (x v : String) (b : Binding),
      IsPlainText p ∧ '$' ∉ p → IsPlainText s ∧ '$' ∉ s → readsVariable x = true →
        b.get? x = some v →
        renderText around store searchPath name (p ++ shorthand x.toList ++ s) b =
          .ok (Text.trim (p ++ v.toList ++ s)) := by
  intro h
  have hb : (Binding.empty.insert contextName "v").get? contextName = some "v" := by
    rw [Binding.get?_insert, if_pos rfl]
  have hrender := h {} {} [] "template" [] [] contextName "v" _ (by decide) (by decide)
    (by decide +kernel) hb
  exact absurd (congrArg Except.toOption hrender) (by decide +kernel)

/-! ### A brace in front of an interpolation -/

/-- Between plain texts a variable is written anew, whatever it stands beside. -/
theorem expand_variable (hp : IsPlainText p ∧ '$' ∉ p) (hs : IsPlainText s ∧ '$' ∉ s)
    (hx : ∀ c ∈ x.toList, Reader.isNameChar c = true) :
    Shorthand.expand (p ++ shorthand x.toList ++ s) = .ok (p ++ output x.toList ++ s) := by
  have hvariable : IsPlainText (shorthand x.toList) :=
    (Fragment.unopened_source_variable hx).isPlainText
  have hplain : IsPlainText (p ++ shorthand x.toList ++ s) := by
    refine (hp.1.append hvariable fun _ c hc => ?_).append hs.1 fun hlast => ?_
    · obtain rfl : '$' = c := Option.some.inj hc
      decide
    · simp [shorthand, List.getLast?_append, List.getLast?_cons] at hlast
  have hread : Shorthand.Reads (shorthand x.toList) [.interpolation x.toList] := by
    simpa [shorthand] using Shorthand.Reads.interpolation (balanced_of_isNameChar hx) .nil
  have hbetween := expand_between (.interpolation x.toList) hread
    (by simp [Shorthand.Token.source, List.getLast?_append, List.getLast?_cons])
    hplain.rawless hp.2 hs.2
  rwa [Shorthand.Token.expansion, trim_of_isNameChar hx] at hbetween

/-- What is cut from a text behind a part in which nothing is opened is one of its pieces. -/
theorem mem_of_pieces? {piece : Piece} {ps : List Piece} (hs : Unopened s) (hm : m ≠ [])
    (hpiece : delimited? (m ++ u) = some (some piece, u)) (h : pieces? (s ++ (m ++ u)) = some ps) :
    piece ∈ ps := by
  have hnone : ∀ v, v <:+ s → v ≠ [] → delimited? (v ++ (m ++ u)) = none :=
    fun v hv hne => delimited?_eq_none (hs v hv hne _)
  rw [pieces?, Text.regions_append_plain hnone, Text.regions_append_found hm hpiece] at h
  obtain ⟨q, hq, heq⟩ :=
    exists_mem_of_mapM_eq_some h (Text.found_mem_foldr_consPlain List.mem_cons_self)
  exact Option.some.inj heq ▸ hq

/-- A text that has a tree is cut into pieces, and each of them is read. -/
theorem exists_pieces?_of_nodesOf {nodes : List Node} (h : nodesOf t = .ok nodes) :
    ∃ ps, pieces? t = some ps ∧ ∀ piece ∈ ps, Item.ofPiece? piece ≠ none := by
  rw [nodesOf] at h
  split at h
  · cases h
  · next items hitems =>
    obtain ⟨ps, hps, hread⟩ := Option.bind_eq_some_iff.1 hitems
    refine ⟨ps, hps, fun piece hpiece hnone => ?_⟩
    obtain ⟨i, -, hi⟩ := exists_mem_of_mapM_eq_some hread hpiece
    rw [hnone] at hi
    cases hi

/-- No expression begins with a brace. -/
theorem ofPiece?_brace (trim : Trim) (s : List Char) :
    Item.ofPiece? (.output trim ('{' :: s)) = none := by
  rw [Item.ofPiece?, Option.map_eq_none_iff, Option.eq_none_iff_forall_ne_some]
  rintro ⟨e, k⟩ hrun
  have hclear := (lexed_of_outputExpression hrun).clear
  exact absurd (Bool.and_eq_true_iff.1 hclear).1 (by decide)

/-- With one brace more in front of an output, the output begins with a brace. -/
theorem delimited?_brace (hx : ∀ c ∈ x.toList, Reader.isNameChar c = true) (u : List Char) :
    delimited? ('{' :: (output x.toList ++ u)) =
      some (some (.output {} ('{' :: ' ' :: (x.toList ++ [' ']))), u) := by
  have huntil := untilDelimiter?_spaced (a := '}') (b := '}') hx (by decide) (by decide) u
  have hinner : ofDelimited ('{' :: ' ' :: (x.toList ++ [' '])) =
      ({}, '{' :: ' ' :: (x.toList ++ [' '])) :=
    ofDelimited_eq_self (by simp) (by simp [List.getLast?_cons])
  simp [delimited?, piece?, output, untilDelimiter?, huntil, hinner, Reader.isQuote]

/-- With a brace in front of it, an interpolation is never rendered: the output that it is expanded
to begins one character too early. -/
theorem renderText_behind_brace (around : Surroundings) (store : Store) (searchPath : List Path)
    (name : String) (p s : List Char) (x : String) (b : Binding) (hp : IsPlainText p ∧ '$' ∉ p)
    (hs : IsPlainText s ∧ '$' ∉ s) (hlast : p.getLast? = some '{')
    (hx : ∀ c ∈ x.toList, Reader.isNameChar c = true) (text : List Char) :
    renderText around store searchPath name (p ++ shorthand x.toList ++ s) b ≠ .ok text := by
  have hexpand := expand_variable hp hs hx
  obtain ⟨q, rfl⟩ : ∃ q, p = q ++ ['{'] := List.getLast?_eq_some_iff.1 hlast
  have hq : Unopened q := by
    refine unopened_of_isPlainText (fun d hd hpair => hp.1 d hd (hpair.trans ⟨[], ['{'], by simp⟩))
      fun hbrace => ?_
    exact hp.1 ['{', '{'] (by decide) (Text.pair_infix_append.2 (.inr (.inr ⟨hbrace, rfl⟩)))
  have htext : q ++ ['{'] ++ output x.toList ++ s = q ++ ('{' :: output x.toList ++ s) := by simp
  intro hrender
  rw [renderText] at hrender
  split at hrender
  · next c log hrun =>
    rw [htext] at hexpand
    obtain ⟨nodes, hnodes⟩ := exists_nodesOf_of_run_compile (by rw [expanded, hexpand]) hrun
    obtain ⟨ps, hps, hread⟩ := exists_pieces?_of_nodesOf hnodes
    have hpiece := mem_of_pieces? hq (by simp) (delimited?_brace hx s) hps
    exact hread _ hpiece (ofPiece?_brace _ _)
  · cases hrender

end Imprint.Template
