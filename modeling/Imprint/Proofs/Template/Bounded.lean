import Imprint.Proofs.Template.FragmentTree

/-!
# What a closing delimiter bounds

A comment, a raw block and a tag with a reference end with a closing delimiter, and nothing that
follows it has a part in them. So a text that holds no opening and cannot complete a closing
delimiter changes nothing in the references of what stands in front of it.

## Main definitions

* `Imprint.Template.Bounded`: readers that take nothing behind a closing delimiter into account.

## Main results

* `Imprint.Template.Bounded.detached`: what follows has no part in what is found.
* `Imprint.Template.references_append`: the references in front of a text without delimiters.
-/

namespace Imprint.Template

variable {α : Type} {read? : List Char → Option (α × List Char)} {c : Char}
  {a m r rest s t u w : List Char} {b : Bool}

/-- What the reader finds ends with a closing delimiter, whatever follows. -/
def Bounded (read? : List Char → Option (α × List Char)) : Prop :=
  ∀ s a r, read? s = some (a, r) → ∃ m, s = m ++ r ∧ (['#', '}'] <:+ m ∨ ['%', '}'] <:+ m) ∧
    ∀ u, read? (m ++ u) = some (a, u)

/-- A text that completes no closing delimiter. -/
def Harmless (u : List Char) : Prop :=
  u.head? ≠ some '}' ∧ '#' ∉ u ∧ '%' ∉ u

/-- What follows has no part in what is found. -/
theorem Bounded.detached (h : Bounded read?) (hu : Harmless u) (s : List Char) :
    Text.Detached read? s u := by
  obtain ⟨hhead, hhash, hpercent⟩ := hu
  intro v hv hne
  cases hread : read? v with
  | some x =>
    obtain ⟨a, r⟩ := x
    obtain ⟨m, rfl, -, hm⟩ := h v a r hread
    rw [List.append_assoc]
    exact hm (r ++ u)
  | none =>
    refine Option.eq_none_iff_forall_ne_some.2 fun x hx => ?_
    obtain ⟨a, r⟩ := x
    obtain ⟨m, heq, hend, hm⟩ := h _ a r hx
    rcases List.append_eq_append_iff.1 heq with ⟨x, rfl, rfl⟩ | ⟨x, rfl, -⟩
    · -- The closing delimiter would reach over into what follows.
      have hapart {c : Char} (hc : c ∉ x) (hlast : [c, '}'] <:+ v ++ x) : x = [] := by
        match x with
        | [] => rfl
        | [d] =>
          obtain ⟨y, hy⟩ := hlast
          have hd : some '}' = some d := by simpa using congrArg List.getLast? hy
          exact absurd hd.symm hhead
        | d :: e :: x =>
          have hsuffix : [c, '}'] <:+ d :: e :: x :=
            List.suffix_of_suffix_length_le hlast (List.suffix_append v _) (by simp)
          exact absurd (hsuffix.subset List.mem_cons_self) hc
      have hnil : x = [] := hend.elim (hapart fun hc => hhash (List.mem_append_left _ hc))
        (hapart fun hc => hpercent (List.mem_append_left _ hc))
      subst hnil
      have hfound := hm []
      rw [List.append_nil, List.append_nil, hread] at hfound
      cases hfound
    · rw [hm] at hread
      cases hread

/-! ### Comments and raw blocks -/

theorem afterComment?_eq_some (h : afterComment? r = some rest) :
    ∃ m, r = m ++ rest ∧ ['#', '}'] <:+ m ∧ ∀ u, afterComment? (m ++ u) = some u := by
  fun_induction afterComment? r with
  | case1 => cases h
  | case2 r =>
    obtain rfl := Option.some.inj h
    exact ⟨['#', '}'], rfl, List.suffix_rfl, fun _ => rfl⟩
  | case3 c r hne ih =>
    obtain ⟨m, rfl, hend, hm⟩ := ih h
    refine ⟨c :: m, rfl, hend.trans (List.suffix_cons c m), fun u => ?_⟩
    rw [List.cons_append, afterComment?, hm]
    rintro x rfl hx
    cases m with
    | nil => simp at hend
    | cons d m =>
      obtain rfl : d = '}' := (List.cons.inj hx).1
      exact hne (m ++ rest) rfl rfl

/-- The characters up to what follows some end are found. -/
theorem bounded_of_after {f g : List Char → Option (List Char)}
    (h : ∀ s r, (f s).bind g = some r → ∃ m, s = m ++ r ∧
      (['#', '}'] <:+ m ∨ ['%', '}'] <:+ m) ∧ ∀ u, (f (m ++ u)).bind g = some u) :
    Bounded fun s =>
      (f s).bind fun r => (g r).bind fun rest =>
        some (s.take (s.length - rest.length), rest) := by
  intro s a r hread
  obtain ⟨opened, hopened, hread⟩ := Option.bind_eq_some_iff.1 hread
  obtain ⟨rest, hrest, hpair⟩ := Option.bind_eq_some_iff.1 hread
  obtain ⟨rfl, rfl⟩ := Prod.mk.inj (Option.some.inj hpair)
  obtain ⟨m, rfl, hend, hm⟩ := h s rest (Option.bind_eq_some_iff.2 ⟨opened, hopened, hrest⟩)
  refine ⟨m, rfl, hend, fun u => ?_⟩
  obtain ⟨opened', hopened', hrest'⟩ := Option.bind_eq_some_iff.1 (hm u)
  simp [hopened', hrest']

theorem bounded_comment : Bounded comment? := by
  refine bounded_of_after (f := Text.after? ['{', '#']) (g := afterComment?) ?_
  intro s r h
  obtain ⟨opened, hopened, hafter⟩ := Option.bind_eq_some_iff.1 h
  obtain rfl := Text.after?_eq_some_iff.1 hopened
  obtain ⟨m, rfl, hend, hm⟩ := afterComment?_eq_some hafter
  refine ⟨['{', '#'] ++ m, rfl, .inl (hend.trans (List.suffix_append _ m)), fun u => ?_⟩
  rw [List.append_assoc, Text.after?_append, Option.bind_some, hm]

theorem IsWordTag.isSuffix {word : List Char} (h : IsWordTag word m) : ['%', '}'] <:+ m := by
  obtain ⟨b, t, t', b', -, -, rfl⟩ := h
  exact ⟨['{', '%'] ++ hyphen b ++ t ++ (word ++ (t' ++ hyphen b')), by simp⟩

theorem bounded_rawBlock : Bounded rawBlock? := by
  refine bounded_of_after (f := wordTag? ['r', 'a', 'w']) (g := afterEnd?) ?_
  intro s r h
  obtain ⟨opened, hopened, hafter⟩ := Option.bind_eq_some_iff.1 h
  obtain ⟨m, hm, rfl⟩ := (wordTag?_eq_some_iff solidHead_raw).1 hopened
  obtain ⟨t, m', ht, hm', rfl⟩ := afterEnd?_eq_some hafter
  refine ⟨m ++ (t ++ m'), by simp, .inr ?_, fun u => ?_⟩
  · exact hm'.isSuffix.trans ((List.suffix_append t m').trans (List.suffix_append m _))
  · rw [List.append_assoc, hm.wordTag?_append solidHead_raw, List.append_assoc, Option.bind_some]
    exact hm'.afterEnd?_append ht u

/-! ### References -/

theorem afterBlanks?_eq_some (h : afterBlanks? s = some r) :
    ∃ g, g ≠ [] ∧ (∀ c ∈ g, Text.isBlank c = true) ∧ s = g ++ r := by
  cases s with
  | nil => cases h
  | cons c s =>
    simp only [afterBlanks?] at h
    split at h
    · next hc =>
      obtain rfl := Option.some.inj h
      obtain ⟨t, ht, hs⟩ := exists_blanks_append s
      refine ⟨c :: t, by simp, ?_, by rw [List.cons_append, ← hs]⟩
      simpa [hc] using ht
    · cases h

theorem isBlank_of_isQuote (h : isQuote c = true) : Text.isBlank c = false := by
  simp only [isQuote, Bool.or_eq_true, beq_iff_eq] at h
  rcases h with rfl | rfl <;> decide

theorem bounded_reference : Bounded reference? := by
  intro s a r h
  obtain ⟨s₁, hopened, h₁⟩ := Option.bind_eq_some_iff.1 h
  obtain ⟨s₂, hword, h₂⟩ := Option.bind_eq_some_iff.1 h₁
  obtain ⟨s₃, hfind, hblanks⟩ := Option.bind_eq_some_iff.1 hword
  obtain ⟨w, hw, hafter⟩ := List.exists_of_findSome?_eq_some hfind
  obtain ⟨b, t, ht, rfl⟩ := tagOpening?_eq_some hopened
  obtain rfl := Text.after?_eq_some_iff.1 hafter
  obtain ⟨g, hne, hg, rfl⟩ := afterBlanks?_eq_some hblanks
  rcases s₂ with _ | ⟨q, s₂⟩
  · cases h₂
  · obtain ⟨⟨name, s₃⟩, hname, h₃⟩ := Option.bind_eq_some_iff.1 h₂
    obtain ⟨⟨tail, s₄⟩, htail, h₄⟩ := Option.bind_eq_some_iff.1 h₃
    obtain ⟨rest, hrest, h₅⟩ := Option.bind_eq_some_iff.1 h₄
    obtain ⟨q', hq', rfl, hname'⟩ := Text.cutWhere?_eq_some hname
    obtain ⟨p, hp, rfl, htail'⟩ := Text.cutWhere?_eq_some htail
    obtain rfl : p = '%' := by simpa using hp
    obtain rfl := Text.after?_eq_some_iff.1 hrest
    split at h₅
    · next hquote =>
      obtain ⟨rfl, rfl⟩ := Prod.mk.inj (Option.some.inj h₅)
      have hq : Text.isBlank q = false := isBlank_of_isQuote (Bool.and_eq_true_iff.1 hquote).1
      have hend : ['%', '}'] <:+ ['{', '%'] ++ hyphen b ++ t ++
          (w ++ (g ++ q :: (name ++ q' :: (tail ++ ['%', '}'])))) :=
        ⟨['{', '%'] ++ hyphen b ++ t ++ (w ++ (g ++ q :: (name ++ q' :: tail))), by simp⟩
      refine ⟨_, by simp, .inr hend, fun u => ?_⟩
      have hread := reference?_append (b := b) ht hw hne hg hq
        (name ++ q' :: (tail ++ '%' :: '}' :: u))
      have hcut : Text.cutAt? '%' (tail ++ '%' :: '}' :: u) = some (tail, '}' :: u) :=
        Text.cutWhere?_append htail' hp _
      simp only [Text.cutWhere?_append hname' hq', hcut, Option.bind_some, hquote, ↓reduceIte]
        at hread
      simpa [Text.after?] using hread
    · cases h₅

/-! ### What follows a text -/

theorem Bounded.exists_front (h : Bounded read?) {a : α} (hread : read? s = some (a, r)) :
    ∃ m, m ≠ [] ∧ s = m ++ r := by
  obtain ⟨m, hs, hend, -⟩ := h s a r hread
  refine ⟨m, ?_, hs⟩
  rintro rfl
  simp at hend

theorem divided_reference (s : List Char) :
    Text.Divided reference? s (Text.regions reference? s) :=
  Text.divided_regions (fun h => bounded_reference.exists_front h) s

theorem divided_inert (s : List Char) : Text.Divided inert? s (Text.regions inert? s) := by
  refine Text.divided_regions (fun {s a r} h => ?_) s
  rw [inert?, Option.orElse_eq_orElse, Option.orElse_eq_or, Option.or_eq_some_iff] at h
  rcases h with h | ⟨-, h⟩
  · exact bounded_comment.exists_front h
  · exact bounded_rawBlock.exists_front h

/-- A text that opens nothing and completes no closing delimiter adds no references. -/
theorem references_append (hu : Harmless u) (hopen : '{' ∉ u) (s : List Char) :
    references (s ++ u) = references s := by
  have hcloses := (unopened_of_notMem hopen).closes
  have hremove : Text.removeAll inert? u = u := by
    have hplain := hcloses.removeAll_inert []
    simpa using hplain
  have hfind : Text.findAll reference? u = [] := by
    have hplain := hcloses.findAll_reference []
    simpa using hplain
  have hinert : Text.Detached inert? s u :=
    (bounded_comment.detached hu s).orElse (bounded_rawBlock.detached hu s)
  rw [references, hinert.removeAll_append (divided_inert s), hremove,
    (bounded_reference.detached hu _).findAll_append (divided_reference _), hfind, List.append_nil,
    references]

end Imprint.Template
