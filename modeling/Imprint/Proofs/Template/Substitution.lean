import Imprint.Proofs.Template.Closure
import Imprint.Proofs.Template.FragmentTree

/-!
# Rendering templates made of fragments

A template of plain texts, variables and comments is rendered as its texts and the values of its
variables. No other template is loaded for it, and a value is neither expanded nor looked into,
whatever it is.

## Main definitions

* `Imprint.Template.Rendering.Evaluates`: evaluations that change nothing.
* `Imprint.Template.Fragment.compiled`: the compiled template of fragments.

## Main results

* `Imprint.Template.Fragment.compile_source`: fragments are compiled to their nodes.
* `Imprint.Template.Fragment.render_compile_source`: what is compiled is rendered as the values.
* `Imprint.Template.Fragment.renderText_source`: comments are inert and values are not looked into.
-/

namespace Imprint.Template

variable {store : Store} {searchPath : List Path} {name : String} {s t : List Char}

/-! ### Templates that need no other -/

theorem Loading.run_of_pending_eq_nil {l : Loading} (h : l.pending = []) (n : Nat) :
    l.run store searchPath name n = pure l := by
  cases n with
  | zero => rfl
  | succ n =>
    rw [Loading.run, h]

/-- A text without references is all that is loaded. -/
theorem load_of_references_eq_nil (ht : Template.expanded name s = .ok t)
    (hreferences : references t = []) : load store searchPath name s = pure [(name, t)] := by
  rw [load, ht]
  simp only [ofExcept, pure_bind, hreferences]
  rw [Loading.run_of_pending_eq_nil rfl, pure_bind]
  rfl

/-- A template that neither extends nor imports another is a library of its own. -/
theorem ofTexts_singleton {template : Template} (htext : ofText name t = .ok template)
    (hparent : template.parent = none) (himports : template.imports = []) :
    Library.ofTexts [(name, t)] = .ok ⟨[template]⟩ := by
  have hancestors : Library.ancestors ⟨[template]⟩ template = .ok [] := by
    simp [Library.ancestors, Library.chain, hparent]
  simp [Library.ofTexts, htext, Library.check, hancestors, himports, bind, Except.bind, pure,
    Except.pure, discard, Functor.discard]
  rfl

/-- A template that names no other is compiled alone, from any store and search path, and nothing is
reported. -/
theorem compile_of_references_eq_nil (store : Store) (searchPath : List Path) {template : Template}
    (ht : Template.expanded name s = .ok t) (hreferences : references t = [])
    (htext : ofText name t = .ok template) (hparent : template.parent = none)
    (himports : template.imports = []) :
    compile store searchPath name s = pure ⟨name, ⟨[template]⟩, template⟩ := by
  have hname := name_of_ofText htext
  rw [compile, load_of_references_eq_nil ht hreferences, pure_bind,
    ofTexts_singleton htext hparent himports]
  simp [Library.find?, hname]

/-! ### Evaluations that change nothing -/

section Evaluates

variable {α β : Type} {w : Rendering α} {f : α → Rendering β} {a : α} {y : β} {setting : Setting}
  {state : State}

/-- An evaluation that gives a value and leaves the state as it is. -/
def Rendering.Evaluates (w : Rendering α) (setting : Setting) (state : State) (a : α) : Prop :=
  ((w.run setting).run).run state = (.ok a, state)

open Rendering

theorem evaluates_pure (a : α) : Evaluates (pure a) setting state a := rfl

theorem evaluates_read : Evaluates read setting state setting := rfl

theorem evaluates_get : Evaluates get setting state state := rfl

theorem evaluates_activeTemplate :
    Evaluates activeTemplate setting state
      ((state.frames.head?.map (·.template)).getD setting.main.name) := rfl

theorem Rendering.Evaluates.bind (h : w.Evaluates setting state a)
    (hf : (f a).Evaluates setting state y) : (w >>= f).Evaluates setting state y := by
  rw [Evaluates, ReaderT.run_bind, ExceptT.run_bind, StateT.run_bind, h]
  exact hf

theorem Rendering.Evaluates.map (g : α → β) (h : w.Evaluates setting state a) :
    (g <$> w).Evaluates setting state (g a) := by
  rw [map_eq_pure_bind]
  exact h.bind (evaluates_pure _)

theorem Rendering.Evaluates.rescue (h : w.Evaluates setting state a)
    (g : Fault → Rendering α) : (w.rescue g).Evaluates setting state a := by
  change ((ExceptT.tryCatch (w.run setting) fun e =>
    (if e.isPanic then throw e else g e : Rendering α).run setting)).run state = _
  rw [ExceptT.tryCatch]
  change (ExceptT.run (w.run setting) >>= _).run state = _
  rw [StateT.run_bind, h]
  rfl

end Evaluates

/-! ### Rendering -/

/-- The text of a template that extends no other is put together from its nodes. -/
theorem renderAll_of_evaluates {l : Library} {main : Template} {around : Surroundings} {b : Binding}
    {texts : List (List Char × Signal)} (hparents : l.parents main = [])
    (h : (main.nodes.mapM (renderNode (evaluator depthLimit))).Evaluates ⟨around, l, b, main, []⟩
      { frames := [⟨.root, main.name, []⟩], origins := l.withOrigins main [] } texts) :
    l.renderAll main around b = .ok (texts.map Prod.fst).flatten := by
  have hrun : ((main.nodes.mapM (renderNode (evaluator depthLimit))).run
      ⟨around, l, b, main, []⟩).run
      { frames := [⟨.root, main.name, []⟩], origins := l.withOrigins main [] } =
        (.ok texts, { frames := [⟨.root, main.name, []⟩], origins := l.withOrigins main [] }) := h
  unfold Library.renderAll
  simp only [hparents, List.getLast?_nil, Option.bind_none, Option.getD_none, hrun]

/-- What stands alone in a library is rendered as its nodes are. -/
theorem render_of_evaluates (main : Template) (around : Surroundings) {b : Binding}
    {texts : List (List Char × Signal)} (hparent : main.parent = none)
    (h : ∀ setting state, setting.binding = b → state.frames = [⟨.root, main.name, []⟩] →
      (main.nodes.mapM (renderNode (evaluator depthLimit))).Evaluates setting state texts) :
    (Compiled.mk main.name ⟨[main]⟩ main).render around b =
      .ok (Text.trim (texts.map Prod.fst).flatten) := by
  have hparents : Library.parents ⟨[main]⟩ main = [] := by
    simp [Library.parents, Library.ancestors, Library.chain, hparent]
  rw [Compiled.render, Library.render, renderAll_of_evaluates hparents (h _ _ rfl rfl)]
  rfl

namespace Fragment

variable {f : Fragment} {fs gs : List Fragment} {b : Binding} {setting : Setting} {state : State}

/-- Only the frame of the template is there, and it has no variables. -/
def AtRoot (state : State) : Prop :=
  ∃ main, state.frames = [⟨.root, main, []⟩]

/-- A name is looked up in the binding. -/
theorem valueOf_name {x v : String} (main template : String)
    (hx : ∀ c ∈ x.toList, Reader.isNameChar c = true) (hb : b.get? x = some v) :
    valueOf b [⟨.root, main, []⟩] template x = .ok (.text v.toList) := by
  have hbracket : x.toList.contains '[' = false := by
    rw [List.contains_eq_mem, decide_eq_false_iff_not]
    exact fun hmem => ne_of_isNameChar (hx _ hmem) (by decide) rfl
  have hsplit : splitPath x.toList = (x.toList, none) := by
    have hcut : Text.cutAt? '.' x.toList = none :=
      Text.cutWhere?_eq_none_iff.2 fun c hc =>
        beq_eq_false_iff_ne.2 (ne_of_isNameChar (hx c hc) (by decide))
    rw [splitPath, hcut]
  have hlookUp : lookUp b [⟨.root, main, []⟩] x.toList = some (.text v.toList) := by
    simp [lookUp, inFrames?, Frame.value?, Frame.inVariables?, Frame.isOpaque, inBinding?, hsplit,
      hb, Value.follow?]
  rw [valueOf, valueOfNested.eq_def]
  dsimp only
  rw [hbracket, hlookUp]
  rfl

theorem evaluates_valueAt {x v : String} (hx : ∀ c ∈ x.toList, Reader.isNameChar c = true)
    (hcontext : x ≠ contextName) (hb : setting.binding.get? x = some v) (hroot : AtRoot state) :
    (Rendering.valueAt x).Evaluates setting state (.text v.toList) := by
  obtain ⟨main, hframes⟩ := hroot
  rw [Rendering.valueAt, if_neg hcontext]
  refine evaluates_read.bind (evaluates_get.bind (evaluates_activeTemplate.bind ?_))
  rw [hframes, valueOf_name main _ hx hb]
  exact evaluates_pure _

/-- A fragment whose value is known when it is rendered. -/
def Bound (b : Binding) (f : Fragment) : Prop :=
  ∀ x, f = .variable x → (∀ c ∈ x.toList, Reader.isNameChar c = true) ∧ x ≠ contextName ∧
    (b.get? x).isSome

/-- The node of a fragment is rendered as the value of the fragment. -/
theorem evaluates_renderNode (n : Nat) {node : Node} (hf : f.Bound setting.binding)
    (hnode : f.node? = some node) (hroot : AtRoot state) :
    (renderNode (evaluator (n + 1)) node).Evaluates setting state
      (f.value setting.binding, .go) := by
  cases f with
  | comment s => cases hnode
  | plain s =>
    obtain rfl : .text s = node := Option.some.inj hnode
    exact evaluates_pure _
  | «variable» x =>
    obtain rfl : .output (.ofOperand (.variable x)) = node := Option.some.inj hnode
    obtain ⟨hx, hcontext, hsome⟩ := hf x rfl
    obtain ⟨v, hv⟩ := Option.isSome_iff_exists.1 hsome
    have hoperand : (operandValue (evaluator n) (.ofOperand (.variable x))).Evaluates setting state
        (some (.text v.toList)) :=
      ((evaluates_valueAt hx hcontext hv hroot).map some).rescue _
    have hvalue : ((evaluator (n + 1)).value (.ofOperand (.variable x))).Evaluates setting state
        (.text v.toList) :=
      hoperand.bind ((evaluates_pure _).bind (evaluates_pure _))
    rw [value, hv, renderNode]
    refine hvalue.bind ?_
    rw [Value.render_text]
    exact evaluates_pure _

/-- The nodes of fragments are rendered as their values, one after another. -/
theorem evaluates_renderNodes (n : Nat) (hfs : ∀ f ∈ fs, f.Bound setting.binding)
    (hroot : AtRoot state) :
    ((fs.filterMap node?).mapM (renderNode (evaluator (n + 1)))).Evaluates setting state
      ((fs.filter (·.node?.isSome)).map fun f => (f.value setting.binding, .go)) := by
  induction fs with
  | nil => exact evaluates_pure _
  | cons f fs ih =>
    have hrest := ih fun g hg => hfs g (List.mem_cons_of_mem _ hg)
    cases hnode : f.node? with
    | none => simpa [List.filterMap_cons, hnode] using hrest
    | some node =>
      have hf := evaluates_renderNode n (hfs f List.mem_cons_self) hnode hroot
      simp only [List.filterMap_cons, hnode, List.mapM_cons, Option.isSome_some,
        List.filter_cons_of_pos, List.map_cons]
      exact hf.bind (hrest.bind (evaluates_pure _))

theorem flatMap_value_prepend (b : Binding) (s : List Char) (fs : List Fragment) :
    (prepend s fs).flatMap (value b) = s ++ fs.flatMap (value b) := by
  rcases fs with _ | ⟨_ | _ | _, fs⟩ <;> cases s <;> simp [prepend, value]

/-- Merging neighbours changes no value. -/
theorem flatMap_value_merged (b : Binding) (fs : List Fragment) :
    (merged fs).flatMap (value b) = fs.flatMap (value b) := by
  induction fs with
  | nil => rfl
  | cons f fs ih =>
    cases f with
    | plain s => rw [merged, flatMap_value_prepend, ih, List.flatMap_cons, value]
    | «variable» x => simp only [merged, List.flatMap_cons, ih]
    | comment s => simp only [merged, List.flatMap_cons, ih]

/-- The compiled template of fragments. -/
def compiled (name : String) (fs : List Fragment) : Compiled :=
  let main : Template := ⟨name, fs.filterMap node?, none, [], [], []⟩
  ⟨name, ⟨[main]⟩, main⟩

theorem flatten_map_value (b : Binding) (fs : List Fragment) :
    ((fs.filter (·.node?.isSome)).map fun f => f.value b).flatten = fs.flatMap (value b) := by
  induction fs with
  | nil => rfl
  | cons f fs ih => cases f <;> simpa [node?, value] using ih

/-- A compiled template of fragments is rendered as their values. -/
theorem render_compiled (around : Surroundings) (hfs : ∀ f ∈ fs, f.Bound b) :
    (compiled name fs).render around b = .ok (Text.trim (fs.flatMap (value b))) := by
  have hevaluates : ∀ setting state, setting.binding = b → state.frames = [⟨.root, name, []⟩] →
      ((fs.filterMap node?).mapM (renderNode (evaluator depthLimit))).Evaluates setting state
        ((fs.filter (·.node?.isSome)).map fun f => (f.value b, .go)) := by
    rintro setting state rfl hframes
    exact evaluates_renderNodes 4095 hfs ⟨name, hframes⟩
  have hrender := render_of_evaluates ⟨name, fs.filterMap node?, none, [], [], []⟩ around rfl
    hevaluates
  rwa [List.map_map, Function.comp_def, flatten_map_value] at hrender

/-- Fragments are compiled to their nodes. -/
theorem compile_source (store : Store) (searchPath : List Path) (name : String) {tail : List Char}
    (hfs : ∀ f ∈ fs, f.WellFormed ∧ f.Regular) (hraw : RawWithin tail fs) (htail : IsPlainText tail)
    (hdollar : '$' ∉ tail) :
    compile store searchPath name (fs.flatMap source ++ tail) =
      pure (compiled name (merged (fs.map expanded ++ [plain tail]))) := by
  have hclosed : ∀ f ∈ fs.map expanded, f.Closed := by
    intro f hf
    obtain ⟨g, hg, rfl⟩ := List.mem_map.1 hf
    exact closed_expanded (hfs g hg).1 (hfs g hg).2
  have hexpanded : Template.expanded name (fs.flatMap source ++ tail) =
      .ok ((fs.map expanded).flatMap expansion ++ tail) := by
    rw [Template.expanded, expand_source hfs hraw htail hdollar]
  exact compile_of_references_eq_nil store searchPath hexpanded
    (references_expansion hclosed htail) (ofText_expansion name hclosed htail) rfl rfl

/-- The values of what fragments are compiled to are known when those of the fragments are. -/
theorem bound_merged {tail : List Char} (hfs : ∀ f ∈ fs, f.Regular)
    (hb : ∀ x, .variable x ∈ fs → (b.get? x).isSome) :
    ∀ f ∈ merged (fs.map expanded ++ [plain tail]), f.Bound b := by
  rintro _ hf x rfl
  rcases mem_merged hf with ⟨s, -, hs⟩ | ⟨hf, -⟩
  · cases hs
  · have hx : .variable x ∈ fs := by
      rcases List.mem_append.1 hf with hf | hf
      · obtain ⟨g, hg, heq⟩ := List.mem_map.1 hf
        cases g with
        | «variable» y => exact heq ▸ hg
        | plain s => cases heq
        | comment s => cases heq
      · cases List.mem_singleton.1 hf
    exact ⟨(hfs _ hx).1, (hfs _ hx).2, hb x hx⟩

theorem flatMap_value_expanded (b : Binding) (fs : List Fragment) :
    (fs.map expanded).flatMap (value b) = fs.flatMap (value b) := by
  induction fs with
  | nil => rfl
  | cons f fs ih => cases f <;> simpa [expanded, value] using ih

/-- What fragments are compiled to is rendered as their values. -/
theorem render_compile_source (around : Surroundings) (tail : List Char) (name : String)
    (hfs : ∀ f ∈ fs, f.Regular)
    (hb : ∀ x, .variable x ∈ fs → (b.get? x).isSome) :
    (compiled name (merged (fs.map expanded ++ [plain tail]))).render around b =
      .ok (Text.trim (fs.flatMap (value b) ++ tail)) := by
  rw [render_compiled around (bound_merged hfs hb), flatMap_value_merged, List.flatMap_append,
    flatMap_value_expanded]
  simp [value]

/-- A template of plain texts, variables and comments is rendered as the texts and the values of the
variables, one after another. The comments add nothing and load nothing, and a value is not looked
into. -/
theorem renderText_source (around : Surroundings) (store : Store) (searchPath : List Path)
    (name : String) (fs : List Fragment) (b : Binding) (hfs : ∀ f ∈ fs, f.WellFormed ∧ f.Regular)
    (hraw : RawWithin [] fs) (hb : ∀ x, .variable x ∈ fs → (b.get? x).isSome) :
    renderText around store searchPath name (fs.flatMap source) b =
        .ok (Text.trim (fs.flatMap (value b))) ∧
      ∃ c, (∀ log, (compile store searchPath name (fs.flatMap source)).run.run log = (.ok c, log)) ∧
        c.library.templates.map (·.name) = [name] := by
  have htail : IsPlainText [] := by simp [IsPlainText, openings]
  have hcompile := compile_source store searchPath name hfs hraw htail (by simp)
  have hrender := render_compile_source around [] name (fun f hf => (hfs f hf).2) hb
  rw [List.append_nil] at hcompile hrender
  refine ⟨?_, _, fun log => by rw [hcompile]; rfl, rfl⟩
  rw [renderText, hcompile]
  exact hrender

/-- Fragments that hold much of what may stand in them. -/
def letter : List Fragment :=
  [plain "\x7bto\x7d ".toList, .variable "name",
    comment (" \x7b% include 'x' %\x7d $\x7b y \x7d \x7b\x7b $$\x7b " ++
      "\x7b% raw %\x7d$\x7b\x7b% endraw %\x7d \x7d ").toList,
    plain ":\n\x7b \x7d".toList, .variable "sum", comment "\x7b% raw %\x7d".toList,
    plain "\n".toList]

/-- Values that look like parts of a template. -/
def letterBinding : Binding :=
  (Binding.empty.insert "name" "$\x7bsum\x7d \x7b# \x7b\x7b name \x7d\x7d").insert "sum"
    "<\x7b% raw %\x7d&"

theorem renderText_source_letter :
    (∀ f ∈ letter, f.WellFormed ∧ f.Regular) ∧ RawWithin [] letter ∧
      (∀ x, .variable x ∈ letter → (letterBinding.get? x).isSome) ∧
      renderText {} {} [] "letter" (letter.flatMap source) letterBinding =
        .ok ("\x7bto\x7d $\x7bsum\x7d \x7b# \x7b\x7b name \x7d\x7d:\n" ++
          "\x7b \x7d<\x7b% raw %\x7d&").toList := by
  have hfs : ∀ f ∈ letter, f.WellFormed ∧ f.Regular := by
    decide +kernel
  have hraw : RawWithin [] letter := by decide +kernel
  have hb : ∀ x, .variable x ∈ letter → (letterBinding.get? x).isSome := by
    intro x hx
    have hname : x = "name" ∨ x = "sum" := by simpa [letter] using hx
    rcases hname with rfl | rfl
    · decide +kernel
    · decide +kernel
  have hrender := (renderText_source {} {} [] "letter" letter letterBinding hfs hraw hb).1
  exact ⟨hfs, hraw, hb, hrender.trans (congrArg Except.ok (by decide +kernel))⟩

/-- Fragments that are not rendered as their values, although those are known. -/
def Surprising (b : Binding) (fs : List Fragment) : Prop :=
  (∀ f ∈ fs, f.WellFormed) ∧ (∀ x, .variable x ∈ fs → (b.get? x).isSome) ∧
    (renderText {} {} [] "t" (fs.flatMap source) b).toOption ≠
      some (Text.trim (fs.flatMap (value b)))

/-- This can happen when a comment is empty, has an interpolation that is not closed or starts a raw
block that a later comment ends, and when a variable is not a single name or has a value of its
own. -/
theorem surprising_irregular :
    Surprising {} [comment []] ∧ Surprising {} [comment " $\x7b ".toList] ∧
      Surprising (Binding.empty.insert "x" "1")
        [comment "\x7b% raw %\x7d".toList, .variable "x", comment "\x7b% endraw %\x7d".toList] ∧
      Surprising (Binding.empty.insert "a.b" "1") [.variable "a.b"] ∧
      Surprising (Binding.empty.insert contextName "1") [.variable contextName] := by
  have hbound (x : String) : ((Binding.empty.insert x "1").get? x).isSome := by
    rw [Binding.get?_insert, if_pos rfl]
    rfl
  refine ⟨⟨?_, by simp, ?_⟩, ⟨?_, by simp, ?_⟩, ⟨?_, by simp [hbound], ?_⟩,
    ⟨?_, by simp [hbound], ?_⟩, ⟨?_, by simp [hbound], ?_⟩⟩
  all_goals decide +kernel

end Fragment

end Imprint.Template
