import Imprint.Proofs.Template.Reading

/-!
# Expressions in front of blanks

Each rule of the grammar agrees with itself on inputs that differ only in the blanks at their end.
A rule is given readers for what is nested in it and uses them only behind a character of its own.
So if the given readers agree up to some lengths, the rule agrees up to the next lengths, and the
knot of all rules agrees as deep as the inputs go.

## Main definitions

* `Imprint.Template.Nested.Agree`: readers for what is nested that agree.

## Main results

* `Imprint.Template.agree_nested`: the knot agrees as deep as the inputs go.
* `Imprint.Template.lexed_of_outputExpression`: an expression is a text of whole words.
* `Imprint.Template.map_outputExpression_blanks`: blanks around an expression have no part in it.
-/

namespace Imprint.Template

open Reader

/-- Readers for what is nested that agree on inputs shorter than given bounds. -/
structure Nested.Agree (n m : Nat) (r r' : Nested) : Prop where
  argument : Reader.Agree 0 n m r.argument r'.argument
  logical : Reader.Agree 0 n m r.logical r'.logical
  condition : Reader.Agree 0 n m r.condition r'.condition
  sum : Reader.Agree 0 n m r.sum r'.sum
  path : Reader.Agree 0 n m r.path r'.path

variable {c n m : Nat} {r r' : Nested} {value value' : Reader Expr}

/-! ### Variables -/

theorem agree_pointed : Reader.Agree 1 n m
    (do
      chars ['.']
      return '.' :: (← atLeastOne isNameChar))
    (do
      chars ['.']
      return '.' :: (← atLeastOne isNameChar)) :=
  (agree_char (by decide)).bind fun _ =>
    (agree_atLeastOne fun _ => isSolid_of_isNameChar).bind fun _ => agree_pure _

theorem agree_dottedName : Reader.Agree 1 n m dottedName dottedName :=
  agree_name.bind fun _ => agree_pointed.many.bind fun _ => agree_pure _

theorem agree_quotedIndex : Reader.Agree 1 n m quotedIndex quotedIndex :=
  agree_quoted.bind fun _ => agree_pure _

theorem agree_pathOf (hr : r.Agree n m r') :
    Reader.Agree 1 (n + 1) (m + 1) (pathOf r) (pathOf r') := by
  have hindex : Reader.Agree 1 (n + 1) (m + 1)
      (do
        chars ['[']
        let index ← firstOf [signedDigits, quotedIndex, r.path]
        chars [']']
        return '[' :: index ++ [']'])
      (do
        chars ['[']
        let index ← firstOf [signedDigits, quotedIndex, r'.path]
        chars [']']
        return '[' :: index ++ [']']) := by
    exact (agree_char (by decide)).bind_succ fun _ =>
      (agree_firstOf <| .cons agree_signedDigits.zero <| .cons agree_quotedIndex.zero <|
        .cons hr.path .nil).bind fun _ =>
      (agree_char (by decide)).bind fun _ => agree_pure _
  exact agree_dottedName.bind fun _ =>
    (agree_firstOf (.cons agree_pointed (.cons hindex .nil))).many.bind fun _ => agree_pure _

theorem agree_variableToken (hr : r.Agree n m r') :
    Reader.Agree 1 (n + 1) (m + 1) (variableToken r) (variableToken r') :=
  (agree_pathOf hr).token.map _

/-! ### Calls and filters -/

theorem agree_arithmeticSign : Reader.Agree 1 n m arithmeticSign arithmeticSign :=
  agree_firstOf <| .cons ((agree_symbol (by decide)).means _) <|
    .cons ((agree_symbol (by decide)).means _) <| .cons ((agree_symbol (by decide)).means _) <|
    .cons ((agree_symbol (by decide)).means _) <|
    .cons ((agree_symbol (by decide)).means _) .nil

theorem agree_namedArgument (hv : Reader.Agree c n m value value') :
    Reader.Agree 1 n m (namedArgument value) (namedArgument value') :=
  agree_nameToken.bind fun _ => (agree_symbol (by decide)).bind fun _ => hv.bind fun _ =>
    agree_pure _

theorem agree_namedArguments (hv : Reader.Agree c n m value value') :
    Reader.Agree 1 (n + 1) (m + 1) (namedArguments value) (namedArguments value') := by
  have hcomma {n m : Nat} : Reader.Agree 1 n m (symbol ",") (symbol ",") :=
    agree_symbol (by decide)
  exact (agree_symbol (by decide)).bind_succ fun _ =>
    (((agree_namedArgument hv).separated hcomma).bind fun _ =>
      hcomma.optional.discard.bind fun _ => agree_pure _).optional.bind fun _ =>
    (agree_symbol (by decide)).bind fun _ => agree_pure _

theorem agree_callOf (hv : Reader.Agree c n m value value') :
    Reader.Agree 1 (n + 1) (m + 1) (callOf value) (callOf value') :=
  agree_nameToken.bind fun _ => (agree_namedArguments hv).bind fun _ => agree_pure _

theorem agree_filterOf (hv : Reader.Agree c n m value value') :
    Reader.Agree 1 (n + 1) (m + 1) (filterOf value) (filterOf value') :=
  (agree_symbol (by decide)).bind fun _ => (agree_callOf hv).orElse (agree_nameToken.map _)

theorem agree_withFilters {operand operand' : Reader Operand}
    (hv : Reader.Agree 0 n m value value')
    (ho : Reader.Agree c (n + 1) (m + 1) operand operand') :
    Reader.Agree c (n + 1) (m + 1) (withFilters value operand) (withFilters value' operand') :=
  ho.bind fun _ => (agree_filterOf hv).many.bind fun _ => agree_pure _

theorem agree_array (hr : r.Agree n m r') :
    Reader.Agree 1 (n + 1) (m + 1) (array r) (array r') :=
  (agree_symbol (by decide)).bind_succ fun _ =>
    (hr.condition.bind_right fun _ => (agree_symbol (by decide)).bind fun _ =>
      agree_pure _).many.bind fun _ =>
    hr.condition.optional.bind fun _ => (agree_symbol (by decide)).bind fun _ => agree_pure _

theorem agree_arrayWithFilters (hr : r.Agree n m r') :
    Reader.Agree 1 (n + 1) (m + 1) (arrayWithFilters r) (arrayWithFilters r') :=
  agree_withFilters hr.argument (agree_array hr)

/-! ### Operands -/

theorem agree_truthValue : Reader.Agree 1 n m truthValue truthValue :=
  agree_firstOf <| .cons ((agree_symbol (by decide)).means _) <|
    .cons ((agree_symbol (by decide)).means _) <| .cons ((agree_symbol (by decide)).means _) <|
    .cons ((agree_symbol (by decide)).means _) .nil

theorem agree_testCall (hr : r.Agree n m r') :
    Reader.Agree 1 (n + 1) (m + 1) (testCall r) (testCall r') := by
  have harguments : Reader.Agree 1 (n + 1) (m + 1)
      (do
        symbol "("
        let arguments ← separated (r.logical <|> (.ofOperand <$> array r)) (symbol ",")
        symbol ")"
        return arguments)
      (do
        symbol "("
        let arguments ← separated (r'.logical <|> (.ofOperand <$> array r')) (symbol ",")
        symbol ")"
        return arguments) := by
    have harray : Reader.Agree 0 n m (array r) (array r') :=
      (agree_array hr).mono (by omega) (by omega) (by omega)
    exact (agree_symbol (by decide)).bind_succ fun _ =>
      ((hr.logical.orElse (harray.map _)).separated (agree_symbol (by decide))).bind fun _ =>
      (agree_symbol (by decide)).bind fun _ => agree_pure _
  exact agree_nameToken.bind fun _ => harguments.optional.bind fun _ => agree_pure _

theorem agree_test (hr : r.Agree n m r') :
    Reader.Agree 1 (n + 1) (m + 1) (test r) (test r') :=
  (agree_variableToken hr).bind fun _ => (agree_symbol (by decide)).bind fun _ =>
    Agree.orElse
      ((agree_symbol (by decide)).bind fun _ => (agree_testCall hr).bind fun _ => agree_pure _)
      ((agree_testCall hr).bind fun _ => agree_pure _)

theorem agree_macroCall (hr : r.Agree n m r') :
    Reader.Agree 1 (n + 1) (m + 1) (macroCall r) (macroCall r') :=
  agree_nameToken.bind fun _ => (agree_symbol (by decide)).bind fun _ =>
    agree_nameToken.bind fun _ => (agree_namedArguments hr.argument).bind fun _ => agree_pure _

theorem agree_simple (hr : r.Agree n m r') :
    Reader.Agree 1 (n + 1) (m + 1) (simple r) (simple r') :=
  agree_firstOf <| .cons agree_truthValue <| .cons (agree_test hr) <|
    .cons (agree_macroCall hr) <| .cons ((agree_callOf hr.argument).map _) <|
    .cons ((agree_variableToken hr).map _) <| .cons (agree_pointedToken.map _) <|
    .cons (agree_integer.map _) .nil

theorem agree_arithmeticOf {operand operand' : Reader Expr}
    (ho : Reader.Agree c n m operand operand') :
    Reader.Agree c n m (arithmeticOf operand) (arithmeticOf operand') :=
  ho.bind fun _ => (agree_arithmeticSign.bind fun _ => ho.bind fun _ =>
    agree_pure _).many.bind fun _ => agree_pure _

theorem agree_sumOf (hr : r.Agree n m r') :
    Reader.Agree 1 (n + 1) (m + 1) (sumOf r) (sumOf r') :=
  agree_arithmeticOf <| Agree.orElse
    ((agree_symbol (by decide)).bind_succ fun _ => hr.sum.bind fun _ =>
      (agree_symbol (by decide)).bind fun _ => agree_pure _)
    ((agree_simple hr).map _)

theorem agree_filteredSum (hr : r.Agree n m r') :
    Reader.Agree 1 (n + 1) (m + 1) (filteredSum r) (filteredSum r') :=
  agree_withFilters hr.argument ((agree_sumOf hr).map _)

theorem agree_joinedPart (hr : r.Agree n m r') :
    Reader.Agree 1 (n + 1) (m + 1) (joinedPart r) (joinedPart r') :=
  agree_firstOf <| .cons ((agree_callOf hr.argument).map _) <|
    .cons (agree_pointedToken.map _) <| .cons (agree_integer.map _) <|
    .cons (agree_quotedToken.map _) <| .cons ((agree_variableToken hr).map _) .nil

theorem agree_filteredText (hr : r.Agree n m r') :
    Reader.Agree 1 (n + 1) (m + 1) (filteredText r) (filteredText r') :=
  agree_withFilters hr.argument <| Agree.orElse
    ((agree_joinedPart hr).bind fun _ => (agree_symbol (by decide)).bind fun _ =>
      ((agree_joinedPart hr).separated (agree_symbol (by decide))).bind fun _ => agree_pure _)
    (agree_quotedToken.map _)

/-! ### Comparison and logic -/

theorem agree_side (hr : r.Agree n m r') :
    Reader.Agree 1 (n + 1) (m + 1) (side r) (side r') :=
  (agree_filteredText hr).orElse (agree_arithmeticOf (agree_filteredSum hr))

theorem agree_comparisonSign : Reader.Agree 1 n m comparisonSign comparisonSign :=
  agree_firstOf <| .cons ((agree_symbol (by decide)).means _) <|
    .cons ((agree_symbol (by decide)).means _) <| .cons ((agree_symbol (by decide)).means _) <|
    .cons ((agree_symbol (by decide)).means _) <| .cons ((agree_symbol (by decide)).means _) <|
    .cons ((agree_symbol (by decide)).means _) .nil

theorem agree_comparison (hr : r.Agree n m r') :
    Reader.Agree 1 (n + 1) (m + 1) (comparison r) (comparison r') := by
  refine (agree_side hr).bind (d := 0) fun _ => Agree.bind (d := 0) (c := 0) ?_ fun more => ?_
  · exact (agree_comparisonSign.bind fun _ => (agree_side hr).bind fun _ => agree_pure _).optional
  · cases more with
    | none => exact agree_pure _
    | some x => exact agree_pure _

theorem agree_membership (hr : r.Agree n m r') :
    Reader.Agree 1 (n + 1) (m + 1) (membership r) (membership r') :=
  ((agree_filteredText hr).orElse (agree_filteredSum hr)).bind fun _ =>
    (agree_keyword (by decide)).optional.bind fun _ => (agree_symbol (by decide)).bind fun _ =>
    (agree_firstOf <| .cons (agree_filteredText hr) <| .cons (agree_arrayWithFilters hr) <|
      .cons (((agree_variableToken hr).map _).map _) .nil).bind fun _ => agree_pure _

theorem agree_conditionOf (hr : r.Agree n m r') :
    Reader.Agree 1 (n + 1) (m + 1) (conditionOf r) (conditionOf r') :=
  Agree.orElse
    ((agree_keyword (by decide)).optional.bind_right fun _ =>
      ((agree_membership hr).orElse (agree_comparison hr)).bind fun _ => agree_pure _)
    ((agree_symbol (by decide)).bind_succ fun _ => hr.logical.bind fun _ =>
      (agree_symbol (by decide)).bind fun _ => agree_pure _)

theorem agree_chain {operator : Expr → Expr → Operand} {operand operand' : Reader Expr}
    {sign : Reader Unit} (ho : Reader.Agree c n m operand operand')
    (hs : Reader.Agree 1 n m sign sign) :
    Reader.Agree c n m (chain operator operand sign) (chain operator operand' sign) :=
  ho.bind fun _ => (hs.bind fun _ => ho).many.bind fun _ => agree_pure _

theorem agree_logical (hr : r.Agree n m r') :
    Reader.Agree 1 (n + 1) (m + 1) (logical r) (logical r') :=
  agree_chain (agree_chain (agree_conditionOf hr) (agree_keyword (by decide)))
    (agree_keyword (by decide))

theorem agree_argument (hr : r.Agree n m r') :
    Reader.Agree 1 (n + 1) (m + 1) (argument r) (argument r') :=
  (agree_logical hr).orElse (agree_arrayWithFilters hr)

/-! ### The knot -/

/-- What is nested is read alike by two readers that go as deep as their inputs are long. -/
theorem agree_nested (n m : Nat) : (nested n).Agree n m (nested m) := by
  induction n generalizing m with
  | zero => constructor <;> exact fun i _ _ hi _ => absurd hi (Nat.not_lt_zero _)
  | succ n ih =>
    cases m with
    | zero => constructor <;> exact fun _ j _ _ hj => absurd hj (Nat.not_lt_zero _)
    | succ m =>
      exact ⟨(agree_argument (ih m)).zero, (agree_logical (ih m)).zero,
        (agree_conditionOf (ih m)).zero, (agree_sumOf (ih m)).zero, (agree_pathOf (ih m)).zero⟩

theorem run_expression (i : Input) :
    expression.run i = (argument (nested (i.rest.length + 1))).run i := by
  rw [expression, nestedHere, StateT.run_bind, StateT.run_bind]
  rfl

theorem agree_expression : Reader.Agree 1 n m expression expression := by
  intro i j hij _ _
  have h := agree_argument (agree_nested (i.rest.length + 1) (j.rest.length + 1))
  rw [run_expression, run_expression]
  exact h i j hij (by omega) (by omega)

theorem agree_finish : Reader.Agree 0 n m finish finish := by
  intro i j hij _ _
  have hrun (i : Input) : finish.run i = if i.rest.isEmpty then some ((), i) else none := rfl
  have hempty : i.rest.isEmpty = j.rest.isEmpty := by
    rw [Bool.eq_iff_iff, List.isEmpty_iff, List.isEmpty_iff, hij.rest_eq_nil_iff]
  rw [hrun, hrun, hempty]
  split
  · exact .some (.refl i) (.refl j) hij
  · exact .none

theorem agree_outputExpression : Reader.Agree 1 n m outputExpression outputExpression :=
  agree_spaces.bind_right fun _ => agree_expression.bind fun _ => agree_finish.bind fun _ =>
    agree_pure _

/-! ### The expression of an output -/

variable {i j k : Input} {e : Expr} {s t a a' b b' : List Char} {x : Option Int}

/-- What is read as an expression is a text of whole words. -/
theorem lexed_of_outputExpression (h : outputExpression.run i = some (e, k)) : Lexed i.rest := by
  have hrun := agree_outputExpression (n := i.rest.length + 1) (m := i.rest.length + 1) i i
    (.refl i) (by omega) (by omega)
  have hrest : k.rest = [] := by
    obtain ⟨⟨⟩, i₁, -, h₁⟩ := run_bind_eq_some h
    obtain ⟨e', i₂, -, h₂⟩ := run_bind_eq_some h₁
    obtain ⟨⟨⟩, i₃, hfinish, h₃⟩ := run_bind_eq_some h₂
    obtain ⟨-, rfl⟩ := run_pure_eq_some h₃
    obtain ⟨hnil, rfl⟩ := run_finish_eq_some hfinish
    exact hnil
  rw [h] at hrun
  cases hrun with
  | some hi _ _ =>
    obtain ⟨t, ht, -, hi⟩ := hi
    rwa [hi, hrest, List.append_nil]

theorem run_outputExpression_blanks (ha : ∀ c ∈ a, isSpace c = true) (s : List Char) :
    outputExpression.run ⟨a ++ s, x⟩ = outputExpression.run ⟨s, x⟩ := by
  have hspaces (s : List Char) : spaces.run ⟨s, x⟩ = some ((), ⟨s.dropWhile isSpace, x⟩) := rfl
  rw [outputExpression, StateT.run_bind, StateT.run_bind, hspaces, hspaces,
    List.dropWhile_append_of_pos ha]

theorem Reader.Matched.map_eq {α : Type} {c : Nat} {r r' : Option (α × Input)}
    (h : Matched c i j r r') :
    (r.map fun y => (y.1, y.2.tooLarge)) = r'.map fun y => (y.1, y.2.tooLarge) := by
  cases h with
  | none => rfl
  | some _ _ htied =>
    cases htied
    rfl

/-- Blanks around an expression have no part in it, but that there are some behind it or none. -/
theorem map_outputExpression_blanks (ha : ∀ c ∈ a, isSpace c = true)
    (ha' : ∀ c ∈ a', isSpace c = true) (hb : ∀ c ∈ b, isSpace c = true)
    (hb' : ∀ c ∈ b', isSpace c = true) (hnil : b = [] ↔ b' = []) (t : List Char) :
    ((outputExpression.run ⟨a ++ (t ++ b), x⟩).map fun y => (y.1, y.2.tooLarge)) =
      (outputExpression.run ⟨a' ++ (t ++ b'), x⟩).map fun y => (y.1, y.2.tooLarge) := by
  have hrun := agree_outputExpression _ _ (Tied.intro (u := t) (x := x) hb hb' hnil)
    (Nat.lt_succ_self _) (Nat.lt_succ_self _)
  rw [run_outputExpression_blanks ha, run_outputExpression_blanks ha', hrun.map_eq]

end Imprint.Template
