import Imprint.Proofs.Header.Written
import Imprint.Proofs.Run.Targets
import Imprint.Proofs.Store.Leading
import Imprint.Proofs.Template.Substitution

/-!
# Runs that fill in a form

A form is a template whose body is made of plain texts and variables. A run with one file for each
directive fills it in: each file holds the texts with the values of its directive in the place of
the variables, trimmed at its ends. The values are written as they are, whatever they look like.

## Main definitions

* `Imprint.Source.IsForm`: a header in front of a body of texts and variables.
* `Imprint.Run.Makes`: files that can be made in a directory.

## Main results

* `Imprint.Source.IsForm.body_eq`: the text that is rendered for a form.
* `Imprint.Run.targets_eq_ok`: the files of directives that can be made are made.
* `Imprint.Run.multi_substitutes`: what a run makes of a form.
-/

namespace Imprint

open Template (Fragment IsPlainText)

/-! ### Forms -/

/-- A header in front of a body of plain texts and variables. -/
structure Source.IsForm (s : Source) (header : List (List Char)) (fs : List Fragment) :
    Prop where
  text : s.text.toList = header.flatMap (· ++ ['\n']) ++ fs.flatMap Fragment.source
  opens : ∀ l ∈ header, '\n' ∉ l ∧ s.marker.opensLine l = true
  fragments : ∀ f ∈ fs, f.WellFormed ∧ '\r' ∉ f.source ∧ f.isComment = false
  ends : ∀ l ∈ (Text.lines (fs.flatMap Fragment.source)).head?, s.marker.isHeaderLine l = false

namespace Source

variable {s : Source} {header : List (List Char)} {fs : List Fragment}

/-- Only the body of a form is rendered. -/
theorem IsForm.body_eq (h : s.IsForm header fs) :
    s.body = Text.joinLines (Text.lines (fs.flatMap Fragment.source)) := by
  have hopens : ∀ l ∈ header.map Text.dropReturn, s.marker.opensLine l = true := by
    intro l hl
    obtain ⟨k, hk, rfl⟩ := List.mem_map.1 hl
    rw [Marker.opensLine, Text.trim_dropReturn]
    exact (h.opens k hk).2
  have hlines : s.lines =
      header.map Text.dropReturn ++ Text.lines (fs.flatMap Fragment.source) := by
    rw [lines, h.text, Text.lines_flatMap_append fun l hl => (h.opens l hl).1]
  have htake : ∀ l ∈ header.map Text.dropReturn, s.marker.isHeaderLine l = true := fun l hl => by
    rw [Marker.isHeaderLine, hopens l hl, Bool.or_true]
  have hhead : s.header = header.map Text.dropReturn := by
    rw [Source.header, hlines, List.takeWhile_append_of_pos htake]
    cases hbody : Text.lines (fs.flatMap Fragment.source) with
    | nil => simp
    | cons l ls => simp [h.ends l (by simp [hbody])]
  have hafter : s.afterHeader = Text.lines (fs.flatMap Fragment.source) := by
    have hboth := s.header_append_afterHeader
    rw [hhead, hlines] at hboth
    exact List.append_cancel_left hboth
  have hnone : (header.map Text.dropReturn).filter (!s.marker.opensLine ·) = [] := by
    rw [List.filter_eq_nil_iff]
    intro l hl
    simp [hopens l hl]
  rw [Source.body, bodyLines, hhead, hafter, hnone, List.nil_append]

end Source

/-! ### The end of a body -/

namespace Template.Fragment

variable {f : Fragment} {fs : List Fragment} {t : List Char}

/-- A text that some of the fragments of a body and a plain text behind them are written as, and
that stands for the same as the body but for blanks at the ends. -/
structure StandsFor (fs gs : List Fragment) (tail t : List Char) : Prop where
  mem : ∀ g ∈ gs, g ∈ fs
  plain : IsPlainText tail
  no_dollar : '$' ∉ tail
  source : t = gs.flatMap source ++ tail
  value (b : Binding) : Text.trim (fs.flatMap (value b)) = Text.trim (gs.flatMap (value b) ++ tail)

/-- A body without its last line feed: the last text is cut short. -/
theorem exists_standsFor (hfs : ∀ f ∈ fs, f.WellFormed ∧ f.isComment = false)
    (h : t ++ ['\n'] = fs.flatMap source) : ∃ gs tail, StandsFor fs gs tail t := by
  induction fs using List.reverseRecOn with
  | nil => simp at h
  | append_singleton fs f ih =>
    obtain ⟨hf, hcomment⟩ := hfs f (by simp)
    rw [List.flatMap_append, List.flatMap_singleton] at h
    cases f with
    | comment c => cases hcomment
    | «variable» x =>
      have hlast := congrArg List.getLast? h
      simp [source, List.getLast?_append, List.getLast?_cons] at hlast
    | plain s =>
      rcases List.eq_nil_or_concat' s with rfl | ⟨s, c, rfl⟩
      · -- an empty text at the end is passed over
        have hrest : t ++ ['\n'] = fs.flatMap source := by simpa [source] using h
        obtain ⟨gs, tail, hgs⟩ := ih (fun g hg => hfs g (by simp [hg])) hrest
        exact ⟨gs, tail, fun g hg => by simp [hgs.mem g hg], hgs.plain, hgs.no_dollar, hgs.source,
          fun b => by simpa [value] using hgs.value b⟩
      · rw [source, ← List.append_assoc] at h
        obtain ⟨rfl, hc⟩ := List.append_inj' h rfl
        obtain rfl : '\n' = c := by simpa using hc
        refine ⟨fs, s, fun g hg => by simp [hg], ?_, ?_, rfl, fun b => ?_⟩
        · exact fun d hd hpair => hf.1 d hd (hpair.trans (List.prefix_append s _).isInfix)
        · exact fun hmem => hf.2.1 (List.mem_append_left _ hmem)
        · rw [List.flatMap_append, List.flatMap_singleton, value, ← List.append_assoc,
            Text.trim_append_blank (by decide)]

theorem rawWithin_of_no_comment (tail : List Char) (h : ∀ f ∈ fs, f.isComment = false) :
    RawWithin tail fs := by
  induction fs with
  | nil => trivial
  | cons f fs ih =>
    have hrest := ih fun g hg => h g (List.mem_cons_of_mem _ hg)
    cases f with
    | plain s | «variable» x => exact hrest
    | comment c => cases h _ List.mem_cons_self

/-- A body is compiled and rendered without its last line feed as it is with it. -/
theorem exists_compiled (hfs : ∀ f ∈ fs, f.WellFormed ∧ f.Regular ∧ f.isComment = false)
    (hreturn : '\r' ∉ fs.flatMap source) (store : Store) (searchPath : List Path) (name : String) :
    ∃ c : Compiled,
      compile store searchPath name (Text.joinLines (Text.lines (fs.flatMap source))) =
        pure c ∧
      ∀ around b, (∀ x, .variable x ∈ fs → (b.get? x).isSome) →
        c.render around b = .ok (Text.trim (fs.flatMap (value b))) := by
  have hbody : ∃ gs tail,
      StandsFor fs gs tail (Text.joinLines (Text.lines (fs.flatMap source))) := by
    rcases Text.joinLines_lines hreturn with heq | heq
    · exact ⟨fs, [], fun g hg => hg, by simp [IsPlainText, openings], by simp,
        by rw [heq, List.append_nil], by simp⟩
    · exact exists_standsFor (fun f hf => ⟨(hfs f hf).1, (hfs f hf).2.2⟩) heq
  obtain ⟨gs, tail, h⟩ := hbody
  have hgs : ∀ g ∈ gs, g.WellFormed ∧ g.Regular := fun g hg =>
    ⟨(hfs g (h.mem g hg)).1, (hfs g (h.mem g hg)).2.1⟩
  have hraw := rawWithin_of_no_comment tail fun g hg => (hfs g (h.mem g hg)).2.2
  have hcompile := compile_source store searchPath name hgs hraw h.plain h.no_dollar
  rw [← h.source] at hcompile
  refine ⟨_, hcompile, fun around b hb => ?_⟩
  rw [h.value b]
  exact render_compile_source around tail name (fun g hg => (hgs g hg).2)
    fun x hx => hb x (h.mem _ hx)

end Template.Fragment

/-! ### Files in a directory -/

namespace Run

variable {around : Nat → Template.Surroundings} {config : Config} {compiled : Template.Compiled}
  {dir : Path} {l : Location} {s t : Store}

/-- A file name that can be made in the directory that a path leads to. -/
structure Makes (dir : Path) (filename : String) : Prop where
  plain : Path.IsPlain filename
  short : filename.utf8ByteSize ≤ Store.maxName
  legal : (dir.join ⟨filename⟩).IsLegal

/-- What the file of a directive holds. -/
def Written (dir : Path) (x : Directive × List Char) (o : Rendered) : Prop :=
  o.path = dir.join ⟨x.1.filename⟩ ∧ o.text = x.2

theorem target_eq_ok (programs : Formatting.Programs) (hf : config.formatter.enabled = false)
    (hdir : s.Leads dir l) {d : Directive} {text : List Char} (hmakes : Makes dir d.filename)
    (hfree : s.get? (l ++ [d.filename]) ≠ some .directory)
    (htaken : s.site.refusal? (l ++ [d.filename]) (String.ofList text).toUTF8 = none)
    (htext : textFor config compiled around d = .ok text) :
    ∃ o, target programs around config compiled dir d s =
        (.ok o, s.insert (l ++ [d.filename]) (.file (String.ofList text).toUTF8)) ∧
      Written dir (d, text) o := by
  have hdenotes := Store.denotes_join hdir hmakes.plain hmakes.short hmakes.legal
  have hput := Store.put_of_denotes hdenotes hfree htaken
  exact ⟨_, target_of_put_unformatted programs hf htext hput, rfl, rfl⟩

/-- The files of directives that can be made are made, whatever stands there but a directory, and
nothing else changes. -/
theorem targets_eq_ok (programs : Formatting.Programs) (hf : config.formatter.enabled = false)
    (xs : List (Directive × List Char)) (hdir : s.Leads dir l)
    (hmakes : ∀ x ∈ xs, Makes dir x.1.filename)
    (hfree : ∀ n, s.get? (l ++ [n]) ≠ some .directory)
    (htaken : ∀ x ∈ xs,
      s.site.refusal? (l ++ [x.1.filename]) (String.ofList x.2).toUTF8 = none)
    (htext : ∀ x ∈ xs, textFor config compiled around x.1 = .ok x.2)
    (hnames : (xs.map (·.1.filename)).Nodup) :
    ∃ outputs t,
      targets programs around config compiled dir (xs.map Prod.fst) s = (.ok outputs, t) ∧
      List.Forall₂ (Written dir) xs outputs ∧
      (∀ x ∈ xs, t.get? (l ++ [x.1.filename]) = some (.file (String.ofList x.2).toUTF8)) ∧
      ∀ k, (∀ x ∈ xs, k ≠ l ++ [x.1.filename]) → t.get? k = s.get? k := by
  induction xs generalizing s with
  | nil => exact ⟨[], s, rfl, .nil, by simp, fun _ _ => rfl⟩
  | cons x xs ih =>
    obtain ⟨o, ho, hwritten⟩ := target_eq_ok programs hf hdir
      (hmakes x List.mem_cons_self) (hfree _) (htaken x List.mem_cons_self)
      (htext x List.mem_cons_self)
    have hnew := Store.not_isFixed (hfree x.1.filename)
    have hdirs := Store.sameDirectories_insert_file (c := (String.ofList x.2).toUTF8)
      (hfree x.1.filename)
    obtain ⟨hx, hnodup⟩ := List.nodup_cons.1 hnames
    obtain ⟨outputs, t, hts, hwrittens, hfiles, hrest⟩ :=
      ih (hdir.mono hdirs.keepsDirectories)
        (fun y hy => hmakes y (List.mem_cons_of_mem _ hy))
        (fun n hn => hfree n ((hdirs.same _).2 hn))
        (fun y hy => htaken y (List.mem_cons_of_mem _ hy))
        (fun y hy => htext y (List.mem_cons_of_mem _ hy)) hnodup
    refine ⟨o :: outputs, t, ?_, .cons hwritten hwrittens, ?_, ?_⟩
    · rw [List.map_cons, targets_cons_ok _ _ _ _ _ ho, hts]
      rfl
    · intro y hy
      rcases List.mem_cons.1 hy with rfl | hy
      · -- no later file has the name of the first
        rw [hrest _ fun z hz heq => hx ?_, Store.get?_insert _ _ _ _ hnew, if_pos rfl]
        obtain heq : y.1.filename = z.1.filename := by simpa using heq
        exact List.mem_map.2 ⟨z, hz, heq.symm⟩
      · exact hfiles y hy
    · intro k hk
      rw [hrest k fun y hy => hk y (List.mem_cons_of_mem _ hy),
        Store.get?_insert _ _ _ _ hnew, if_neg (hk x List.mem_cons_self)]

/-- A form is planned as its directives and a template that gives each of them its text. -/
theorem exists_multiPlan {r : Request} {text : String} {header : List (List Char)}
    {fs : List Fragment} {outputs : List (Directive × Binding)}
    (hread : s.readText r.template = .ok text)
    (hform : Source.IsForm ⟨r.template, text, r.config.markerOrStandard⟩ header fs)
    (hregular : ∀ f ∈ fs, f.Regular)
    (hresolved : Source.resolved ⟨r.template, text, r.config.markerOrStandard⟩ r.config.knownKeys =
      .ok outputs)
    (hbound : ∀ o ∈ outputs, ∀ x, .variable x ∈ fs → (o.2.get? x).isSome) :
    ∃ compiled, multiPlan r s = .ok (outputs.map Prod.fst, compiled) ∧
      ∀ o ∈ outputs, textFor r.config compiled around o.1 =
        .ok (Text.trim (fs.flatMap (Fragment.value o.2))) := by
  obtain ⟨hdirectives, hbindings⟩ := Source.resolved_eq_ok hresolved
  have hreturn : '\r' ∉ fs.flatMap Fragment.source := fun hmem => by
    obtain ⟨f, hf, hmem⟩ := List.mem_flatMap.1 hmem
    exact (hform.fragments f hf).2.1 hmem
  obtain ⟨compiled, hcompile, hrender⟩ := Fragment.exists_compiled
    (fun f hf => ⟨(hform.fragments f hf).1, hregular f hf, (hform.fragments f hf).2.2⟩) hreturn
    s (r.searchPath ⟨r.template, text, r.config.markerOrStandard⟩)
    (Source.name ⟨r.template, text, r.config.markerOrStandard⟩)
  rw [← hform.body_eq] at hcompile
  refine ⟨compiled, ?_, fun o ho => textFor_eq_ok.2 ⟨o.2, hbindings o ho,
    hrender _ o.2 (hbound o ho)⟩⟩
  refine bind_eq_ok.2 ⟨_, readSource_eq_ok.2 ⟨text, hread, rfl⟩, ?_⟩
  refine bind_eq_ok.2 ⟨_, mapError_eq_ok.2 hdirectives, ?_⟩
  refine bind_eq_ok.2 ⟨compiled, compiledFrom_eq_ok.2 ⟨[], ?_⟩, rfl⟩
  rw [Template.compileSource, hcompile]
  rfl

/-- A run with one file for each directive fills in a form: into an empty directory, wherever it is,
it writes a file for each directive of the header, with the values of that directive, whatever they
are and whatever surrounds the run. -/
theorem multi_substitutes {r : Request} {σ : Session} {text : String} {header : List (List Char)}
    {fs : List Fragment} {outputs : List (Directive × Binding)} (programs : Formatting.Programs)
    (around : Nat → Template.Surroundings) (hmode : r.mode = .multi dir)
    (hf : r.config.formatter.enabled = false)
    (hread : σ.store.readText r.template = .ok text)
    (hform : Source.IsForm ⟨r.template, text, r.config.markerOrStandard⟩ header fs)
    (hregular : ∀ f ∈ fs, f.Regular)
    (hresolved : Source.resolved ⟨r.template, text, r.config.markerOrStandard⟩ r.config.knownKeys =
      .ok outputs)
    (hbound : ∀ o ∈ outputs, ∀ x, .variable x ∈ fs → (o.2.get? x).isSome)
    (hnames : (outputs.map (·.1.filename)).Nodup) (hmakes : ∀ o ∈ outputs, Makes dir o.1.filename)
    (hdir : σ.store.find dir = .ok ⟨l, .directory⟩)
    (hempty : ∀ n, σ.store.get? (l ++ [n]) = none)
    (htaken : ∀ o ∈ outputs, σ.store.site.refusal? (l ++ [o.1.filename])
      (String.ofList (Text.trim (fs.flatMap (Fragment.value o.2)))).toUTF8 = none) :
    ∃ report τ, (run programs around r).run.run σ = (.ok report, τ) ∧
      List.Forall₂ (fun o written => Written dir
        (o.1, Text.trim (fs.flatMap (Fragment.value o.2))) written) outputs report.outputs ∧
      (∀ o ∈ outputs, τ.store.get? (l ++ [o.1.filename]) =
        some (.file (String.ofList (Text.trim (fs.flatMap (Fragment.value o.2)))).toUTF8)) ∧
      ∀ k, (∀ o ∈ outputs, k ≠ l ++ [o.1.filename]) → τ.store.get? k = σ.store.get? k := by
  obtain ⟨compiled, hplan, htexts⟩ := exists_multiPlan hread hform hregular hresolved hbound
  let xs := outputs.map fun o => (o.1, Text.trim (fs.flatMap (Fragment.value o.2)))
  have hxs : xs.map Prod.fst = outputs.map Prod.fst := by simp [xs]
  have htext : ∀ x ∈ xs, textFor r.config compiled around x.1 = .ok x.2 := by
    intro x hx
    obtain ⟨o, ho, rfl⟩ := List.mem_map.1 hx
    exact htexts o ho
  have hmakes' : ∀ x ∈ xs, Makes dir x.1.filename := by
    intro x hx
    obtain ⟨o, ho, rfl⟩ := List.mem_map.1 hx
    exact hmakes o ho
  have htaken' : ∀ x ∈ xs, σ.store.site.refusal? (l ++ [x.1.filename])
      (String.ofList x.2).toUTF8 = none := by
    intro x hx
    obtain ⟨o, ho, rfl⟩ := List.mem_map.1 hx
    exact htaken o ho
  obtain ⟨written, t, hts, hwritten, hfiles, hrest⟩ := targets_eq_ok programs hf xs
    (Store.leads_of_find hdir) hmakes' (by simp [hempty]) htaken' htext
    (by simpa [xs, Function.comp_def] using hnames)
  rw [hxs] at hts
  have hrun := gives_run_multi programs around hmode hplan
  rw [hts] at hrun
  obtain ⟨log, hrun⟩ := hrun σ.log
  refine ⟨_, _, hrun, List.forall₂_map_left_iff.1 hwritten, fun o ho => ?_, fun k hk => ?_⟩
  · exact hfiles _ (List.mem_map_of_mem ho)
  · refine hrest k fun x hx => ?_
    obtain ⟨o, ho, rfl⟩ := List.mem_map.1 hx
    exact hk o ho

/-- The text of a form. -/
def formText (header : List (List Char)) (fs : List Fragment) : String :=
  String.ofList (header.flatMap (· ++ ['\n']) ++ fs.flatMap Fragment.source)

/-- A form, and an empty directory beside the one that it is in. -/
def formStore (text : String) : Store where
  entries := [(["gen"], .directory), (["srv", "t.mako"], .file text.toUTF8)]
  site := { cwd := ["srv"] }

/-- A request for the files of that form in that directory. -/
def formRequest : Request where
  template := ⟨"t.mako"⟩
  mode := .multi ⟨"../gen"⟩
  config := { formatter := { enabled := false } }

/-- Values that look like parts of a template. -/
def offerHeader : List (List Char) :=
  ["## a.txt x=$\x7by\x7d \x7b\x7b x \x7d\x7d;y=<b c=\"d\">&".toList,
    "## b.txt x=\x7b%;y=\x7b#".toList]

def offerBody : List Fragment :=
  [.plain "Dear ".toList, .variable "x", .plain ",\n  \x7b ".toList, .variable "y",
    .plain " \x7d\n".toList]

/-- The directives of that header and what they bind. -/
def offerOutputs : List (Directive × Binding) :=
  [(⟨"a.txt", "x=$\x7by\x7d \x7b\x7b x \x7d\x7d;y=<b c=\"d\">&", 0, 1⟩,
      (Binding.empty.insert "x" "$\x7by\x7d \x7b\x7b x \x7d\x7d").insert "y" "<b c=\"d\">&"),
    (⟨"b.txt", "x=\x7b%;y=\x7b#", 1, 2⟩,
      (Binding.empty.insert "x" "\x7b%").insert "y" "\x7b#")]

/-- The values of the first directive are written as they are. -/
theorem multi_substitutes_offer :
    ∃ report τ, (run Formatting.noPrograms (fun _ => {}) formRequest).run.run
        ⟨formStore (formText offerHeader offerBody), []⟩ = (.ok report, τ) ∧
      τ.store.get? ["gen", "a.txt"] = some (.file
        "Dear $\x7by\x7d \x7b\x7b x \x7d\x7d,\n  \x7b <b c=\"d\">& \x7d".toUTF8) := by
  have hform : Source.IsForm ⟨⟨"t.mako"⟩, formText offerHeader offerBody, .standard⟩
      offerHeader offerBody :=
    ⟨String.toList_ofList, by decide +kernel, by decide +kernel, by decide +kernel⟩
  have hbound : ∀ o ∈ offerOutputs, ∀ x, .variable x ∈ offerBody → (o.2.get? x).isSome := by
    intro o ho x hx
    have hx : x = "x" ∨ x = "y" := by simpa [offerBody] using hx
    have hall : ∀ o ∈ offerOutputs, (o.2.get? "x").isSome ∧ (o.2.get? "y").isSome := by
      decide +kernel
    rcases hx with rfl | rfl
    · exact (hall o ho).1
    · exact (hall o ho).2
  have hmakes : ∀ o ∈ offerOutputs, Makes ⟨"../gen"⟩ o.1.filename := by
    simp only [offerOutputs, List.mem_cons, List.not_mem_nil, or_false, forall_eq_or_imp, forall_eq]
    exact ⟨⟨by decide, by decide, ⟨by decide, by decide, by decide⟩⟩,
      ⟨by decide, by decide, ⟨by decide, by decide, by decide⟩⟩⟩
  have hempty (n : String) : (formStore (formText offerHeader offerBody)).get? (["gen"] ++ [n]) =
      none := by
    simp [formStore, Store.get?, Store.IsFixed, List.lookup_cons]
  obtain ⟨report, τ, hrun, -, hfiles, -⟩ := multi_substitutes (r := formRequest)
    (σ := ⟨formStore (formText offerHeader offerBody), []⟩) Formatting.noPrograms (fun _ => {}) rfl
    rfl (by decide +kernel) hform (by decide +kernel) rfl hbound (by decide) hmakes (by rfl) hempty
    fun _ _ => rfl
  exact ⟨report, τ, hrun, hfiles _ List.mem_cons_self⟩

/-- A form with one variable that is bound to `v`, whose file does not get to hold it. -/
def Unfilled (filename x : String) : Prop :=
  let header := [("## " ++ filename ++ " " ++ x ++ "=v;").toList]
  let fs := [Fragment.variable x, .plain ['\n']]
  let source : Source := ⟨⟨"t.mako"⟩, formText header fs, .standard⟩
  source.IsForm header fs ∧
    (source.resolved none).toOption =
      some [(⟨filename, x ++ "=v;", 0, 1⟩, Binding.empty.insert x "v")] ∧
    Path.IsPlain filename ∧
    ((run Formatting.noPrograms (fun _ => {}) formRequest).run.run
      ⟨formStore source.text, []⟩).2.store.get? ["gen", filename] ≠ some (.file "v".toUTF8)

/-- This can happen when the variable is not a single name or has a value of its own, and when the
file name is none that a directory can hold. -/
theorem unfilled_irregular :
    Unfilled "a.txt" Template.contextName ∧ Unfilled "a.txt" "a.b" ∧ Unfilled "\x00" "x" := by
  refine ⟨⟨⟨String.toList_ofList, ?_, ?_, ?_⟩, ?_, ?_, ?_⟩,
    ⟨⟨String.toList_ofList, ?_, ?_, ?_⟩, ?_, ?_, ?_⟩,
    ⟨⟨String.toList_ofList, ?_, ?_, ?_⟩, ?_, ?_, ?_⟩⟩
  all_goals decide +kernel

end Run

end Imprint
