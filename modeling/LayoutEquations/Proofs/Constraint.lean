import Mathlib.Tactic
import LayoutEquations.Proofs.Alignment.Targets
import LayoutEquations.Proofs.Batch
import LayoutEquations.Proofs.Equation.Equality
import LayoutEquations.Proofs.Number.Reading

/-!
# Constraints told apart by their text

The text of a constraint is a line of words (`Constraint.text_eq_intercalate`): the item, the relation, one, three or
five words for what the item is related to, and one more for a priority that is not the required one. As no word holds
a space, equal texts have equal words. The number of related words is odd, which tells them from the priority, and an
operand has a name behind its last point, which no number has. What is left out is known by what stands in its place:
only a multiplier is followed by `*`, and only a constant behind a view follows `+` or `-`.
-/

namespace LayoutEquations

/-! ## Names and operands -/

theorem append_cons_inj_of_not_mem {α : Type} {sep : α} {u v as bs : List α} (has : sep ∉ as) (hbs : sep ∉ bs)
    (h : u ++ sep :: as = v ++ sep :: bs) : u = v ∧ as = bs := by
  rcases List.append_eq_append_iff.1 h with ⟨ws, hv, hws⟩ | ⟨ws, hu, hws⟩
  · cases ws with
    | nil => exact ⟨by simpa using hv.symm, (List.cons.inj hws).2⟩
    | cons w ws =>
      obtain ⟨-, rfl⟩ := List.cons.inj hws
      exact absurd (by simp) has
  · cases ws with
    | nil => exact ⟨by simpa using hu, (List.cons.inj hws).2.symm⟩
    | cons w ws =>
      obtain ⟨-, rfl⟩ := List.cons.inj hws
      exact absurd (by simp) hbs

namespace Attribute

theorem name_injective : Function.Injective name := by
  intro a b h
  cases a <;> cases b <;> first | rfl | exact absurd h (by decide)

theorem name_ne_empty (a : Attribute) : a.name.toList ≠ [] := by
  cases a <;> decide

theorem le_of_mem_name {a : Attribute} {c : Char} (hc : c ∈ a.name.toList) : 0x41 ≤ c.toNat := by
  have hall : (a.name.toList.all fun c => 0x41 ≤ c.toNat) = true := by cases a <;> decide
  simpa using List.all_eq_true.1 hall c hc

theorem not_mem_name {a : Attribute} {c : Char} (hc : c.toNat < 0x41) : c ∉ a.name.toList :=
  fun hmem => Nat.not_le_of_lt hc (le_of_mem_name hmem)

theorem not_isDigit_of_mem_name {a : Attribute} {c : Char} (hc : c ∈ a.name.toList) : ¬ c.isDigit = true := by
  intro hdigit
  have hhigh := (isDigit_eq_true hdigit).2
  have hlow := le_of_mem_name hc
  omega

end Attribute

theorem Relation.symbol_injective : Function.Injective symbol := by
  intro r s h
  cases r <;> cases s <;> first | rfl | exact absurd h (by decide)

namespace Constraint

def operandWord (view : String) (a : Attribute) : String := view ++ "." ++ a.name

theorem toList_operandWord (view : String) (a : Attribute) :
    (operandWord view a).toList = view.toList ++ '.' :: a.name.toList := by
  simp [operandWord]

theorem operandWord_inj {view view' : String} {a a' : Attribute} (h : operandWord view a = operandWord view' a') :
    view = view' ∧ a = a' := by
  have hchars := congrArg String.toList h
  rw [toList_operandWord, toList_operandWord] at hchars
  obtain ⟨hview, hname⟩ :=
    append_cons_inj_of_not_mem (Attribute.not_mem_name (by decide)) (Attribute.not_mem_name (by decide)) hchars
  exact ⟨String.toList_inj.1 hview, Attribute.name_injective (String.toList_inj.1 hname)⟩

theorem operandWord_ne_text (view : String) (a : Attribute) (x : Number) : operandWord view a ≠ x.text := by
  intro h
  have hchars : x.chars = view.toList ++ '.' :: a.name.toList := by
    rw [← toList_operandWord, h, Number.text, String.toList_ofList]
  obtain ⟨c, cs, hname⟩ := List.exists_cons_of_ne_nil a.name_ne_empty
  have hc : c ∈ a.name.toList := by simp [hname]
  exact Attribute.not_isDigit_of_mem_name hc (Number.isDigit_of_point hchars c hc)

/-! ## The words of a text -/

def factorWords (x : Number) : List String :=
  if x == .one then [] else [x.text, "*"]

/-- The words of a constant behind a view. -/
def offsetWords (x : Number) : List String :=
  if x.isPositive then ["+", x.text]
  else if x.isNegative then ["-", (-x).text]
  else []

/-- The words for what the item is related to. -/
def relatedWords (c : Constraint String) : List String :=
  match c.relatedView, c.relatedAttribute with
  | some view, some a => factorWords c.multiplier ++ operandWord view a :: offsetWords c.constant
  | _, _ => [c.constant.text]

def priorityWords (c : Constraint String) : List String :=
  if c.isRequired then [] else ["@" ++ c.priority.repr]

def words (c : Constraint String) : List String :=
  operandWord c.itemView c.itemAttribute :: c.relation.symbol :: (c.relatedWords ++ c.priorityWords)

theorem relatedText_eq_intercalate (c : Constraint String) : c.relatedText = " ".intercalate c.relatedWords := by
  rw [relatedText, relatedWords]
  cases c.relatedView with
  | none => simp
  | some view =>
    cases c.relatedAttribute with
    | none => simp
    | some a =>
      dsimp only
      rw [factorWords, offsetWords, offsetText]
      split_ifs <;> simp [← String.toList_inj, operandWord]

theorem relatedWords_ne_nil (c : Constraint String) : c.relatedWords ≠ [] := by
  rw [relatedWords]
  split <;> simp

theorem text_eq_intercalate (c : Constraint String) : c.text = " ".intercalate c.words := by
  have hrelated := c.relatedWords_ne_nil
  have hline (ws : List String) (hws : ws ≠ []) : " ".intercalate
      (operandWord c.itemView c.itemAttribute :: c.relation.symbol :: ws) =
      c.itemView ++ "." ++ c.itemAttribute.name ++ " " ++ c.relation.symbol ++ " " ++ " ".intercalate ws := by
    rw [String.intercalate_cons_cons, String.intercalate_cons_of_ne_nil hws]
    simp only [operandWord, String.append_assoc]
  rw [text, relatedText_eq_intercalate, words, hline _ (by simp [hrelated]), priorityWords]
  split_ifs with h
  · simp
  · rw [String.intercalate_append_of_ne_nil hrelated (by simp)]
    simp [← String.toList_inj]

/-! ## Words without a space -/

theorem not_mem_text (x : Number) : ' ' ∉ x.text.toList := by
  intro hspace
  rw [Number.text, String.toList_ofList] at hspace
  exact absurd (Number.isBlank_of_mem_chars hspace) (by decide)

theorem not_mem_operandWord {view : String} (hview : ' ' ∉ view.toList) (a : Attribute) :
    ' ' ∉ (operandWord view a).toList := by
  rw [toList_operandWord]
  exact List.not_mem_append hview
    (List.not_mem_cons_of_ne_of_not_mem (by decide) (Attribute.not_mem_name (by decide)))

/-- A constraint as its text can be read: no handle holds a space, the related view and the related attribute come
together, and the numbers are numbers. -/
structure Legible (c : Constraint String) : Prop where
  itemView : ' ' ∉ c.itemView.toList
  relatedView : ∀ view, c.relatedView = some view → ' ' ∉ view.toList
  paired : c.relatedView.isSome = c.relatedAttribute.isSome
  multiplier : c.multiplier ≠ .nan
  constant : c.constant ≠ .nan

theorem not_mem_factorWords (x : Number) : ∀ w ∈ factorWords x, ' ' ∉ w.toList := by
  rw [factorWords]
  split_ifs
  · exact List.forall_mem_nil _
  · exact List.forall_mem_cons.2 ⟨not_mem_text x, List.forall_mem_singleton.2 (by decide)⟩

theorem not_mem_offsetWords (x : Number) : ∀ w ∈ offsetWords x, ' ' ∉ w.toList := by
  rw [offsetWords]
  split_ifs
  · exact List.forall_mem_cons.2 ⟨by decide, List.forall_mem_singleton.2 (not_mem_text x)⟩
  · exact List.forall_mem_cons.2 ⟨by decide, List.forall_mem_singleton.2 (not_mem_text _)⟩
  · exact List.forall_mem_nil _

theorem Legible.not_mem_words {c : Constraint String} (h : c.Legible) : ∀ w ∈ c.words, ' ' ∉ w.toList := by
  refine List.forall_mem_cons.2 ⟨not_mem_operandWord h.itemView _, List.forall_mem_cons.2 ⟨?_, ?_⟩⟩
  · cases c.relation <;> decide
  · refine List.forall_mem_append.2 ⟨?_, ?_⟩
    · rw [relatedWords]
      split
      · next view a hview _ =>
        refine List.forall_mem_append.2 ⟨not_mem_factorWords _, List.forall_mem_cons.2 ⟨?_, not_mem_offsetWords _⟩⟩
        exact not_mem_operandWord (h.relatedView view hview) a
      · exact List.forall_mem_singleton.2 (not_mem_text _)
    · rw [priorityWords]
      split_ifs
      · exact List.forall_mem_nil _
      · refine List.forall_mem_singleton.2 ?_
        intro hspace
        rw [String.toList_append, Nat.toList_repr] at hspace
        rcases List.mem_append.1 hspace with hspace | hspace
        · exact absurd hspace (by decide)
        · exact absurd (isDigit_toDigits _ hspace) (by decide)

theorem words_eq_of_text {c d : Constraint String} (hc : c.Legible) (hd : d.Legible) (h : c.text = d.text) :
    c.words = d.words := by
  have hsplit {c : Constraint String} (hc : c.Legible) :
      List.splitOn ' ' c.text.toList = c.words.map String.toList := by
    rw [text_eq_intercalate, String.toList_intercalate]
    refine List.splitOn_intercalate ' ' ?_ (by simp [words])
    exact List.forall_mem_map.2 hc.not_mem_words
  have hwords : c.words.map String.toList = d.words.map String.toList := by rw [← hsplit hc, ← hsplit hd, h]
  exact List.map_injective_iff.2 (fun _ _ => String.toList_inj.1) hwords

/-! ## Words that say the same -/

theorem beq_of_factorWords {x y : Number} (hx : x ≠ .nan) (h : factorWords x = factorWords y) : (x == y) = true := by
  rw [factorWords, factorWords] at h
  split_ifs at h with hxone hyone hyone
  · rw [Number.beq_comm] at hxone hyone
    rw [Number.eq_one_of_beq hxone, Number.eq_one_of_beq hyone]
    decide
  · rw [Number.text_injective (List.cons.inj h).1] at hx ⊢
    exact Number.beq_self_of_ne_nan hx

theorem beq_of_offsetWords {x y : Number} (hx : x ≠ .nan) (hy : y ≠ .nan) (h : offsetWords x = offsetWords y) :
    (x == y) = true := by
  rw [offsetWords, offsetWords] at h
  by_cases hpx : x.isPositive = true
  · rw [if_pos hpx] at h
    split_ifs at h
    · have htext : x.text = y.text := by simpa using h
      exact Number.text_injective htext ▸ Number.beq_self_of_ne_nan hx
    · simp at h
  by_cases hnx : x.isNegative = true
  · rw [if_neg hpx, if_pos hnx] at h
    split_ifs at h
    · simp at h
    · have htext : (-x).text = (-y).text := by simpa using h
      have hxy : x = y := by rw [← Number.neg_neg x, Number.text_injective htext, Number.neg_neg]
      exact hxy ▸ Number.beq_self_of_ne_nan hx
  · rw [if_neg hpx, if_neg hnx] at h
    split_ifs at h with hpy hny
    obtain ⟨s, r, rfl, hr⟩ := Number.exists_zero hx hpx hnx
    obtain ⟨s', r', rfl, hr'⟩ := Number.exists_zero hy hpy hny
    show (r.val == r'.val && (s == s' || r.val == 0)) = true
    rw [hr, hr']
    simp

theorem offsetWords_ne_star (x : Number) (ws : List String) : offsetWords x ≠ "*" :: ws := by
  rw [offsetWords]
  split_ifs <;> simp

theorem factorWords_eq (x : Number) : factorWords x = [] ∨ factorWords x = [x.text, "*"] := by
  rw [factorWords]
  split_ifs
  · exact .inl rfl
  · exact .inr rfl

theorem scaled_inj {m m' x x' : Number} {w w' : String}
    (h : factorWords m ++ w :: offsetWords x = factorWords m' ++ w' :: offsetWords x') :
    factorWords m = factorWords m' ∧ w = w' ∧ offsetWords x = offsetWords x' := by
  rcases factorWords_eq m with hm | hm <;> rcases factorWords_eq m' with hm' | hm' <;> rw [hm, hm'] at h ⊢
  · exact ⟨rfl, List.cons.inj h⟩
  · exact absurd (List.cons.inj h).2 (offsetWords_ne_star _ _)
  · exact absurd (List.cons.inj h).2.symm (offsetWords_ne_star _ _)
  · obtain ⟨htext, h⟩ := List.cons.inj h
    exact ⟨by rw [htext], List.cons.inj (List.cons.inj h).2⟩

theorem priority_of_priorityWords {c d : Constraint String} (h : c.priorityWords = d.priorityWords) :
    c.priority = d.priority := by
  rw [priorityWords, priorityWords] at h
  split_ifs at h with hc hd hd
  · rw [isRequired, beq_iff_eq] at hc hd
    rw [hc, hd]
  · have hdigits : Nat.toDigits 10 c.priority = Nat.toDigits 10 d.priority := by simpa [← String.toList_inj] using h
    calc c.priority = Nat.ofDigitChars 10 (Nat.toDigits 10 c.priority) 0 := Nat.ofDigitChars_ten_toDigits.symm
      _ = Nat.ofDigitChars 10 (Nat.toDigits 10 d.priority) 0 := by rw [hdigits]
      _ = d.priority := Nat.ofDigitChars_ten_toDigits

theorem odd_length_relatedWords (c : Constraint String) : c.relatedWords.length % 2 = 1 := by
  rw [relatedWords]
  split
  · rw [factorWords, offsetWords]
    split_ifs <;> simp
  · simp

theorem length_priorityWords (c : Constraint String) : c.priorityWords.length ≤ 1 := by
  rw [priorityWords]
  split_ifs <;> simp

/-- The related words are the longest odd number of words. -/
theorem relatedWords_inj {c d : Constraint String}
    (h : c.relatedWords ++ c.priorityWords = d.relatedWords ++ d.priorityWords) :
    c.relatedWords = d.relatedWords ∧ c.priorityWords = d.priorityWords := by
  refine List.append_inj h ?_
  -- at most one word more on either side, so two odd numbers of words must be the same
  have hlength := congrArg List.length h
  rw [List.length_append, List.length_append] at hlength
  have hc := c.odd_length_relatedWords
  have hd := d.odd_length_relatedWords
  have hcp := c.length_priorityWords
  have hdp := d.length_priorityWords
  omega

/-! ## Texts -/

/-- The constraints say the same: zero has two signs, and only a related view has a multiplier. -/
structure Agrees (c d : Constraint String) : Prop where
  itemView : c.itemView = d.itemView
  itemAttribute : c.itemAttribute = d.itemAttribute
  relation : c.relation = d.relation
  relatedView : c.relatedView = d.relatedView
  relatedAttribute : c.relatedAttribute = d.relatedAttribute
  constant : (c.constant == d.constant) = true
  priority : c.priority = d.priority
  multiplier : c.relatedView ≠ none → (c.multiplier == d.multiplier) = true

theorem Legible.relatedWords_eq {c : Constraint String} (h : c.Legible) :
    (c.relatedView = none ∧ c.relatedAttribute = none ∧ c.relatedWords = [c.constant.text]) ∨
    ∃ view a, c.relatedView = some view ∧ c.relatedAttribute = some a ∧
      c.relatedWords = factorWords c.multiplier ++ operandWord view a :: offsetWords c.constant := by
  have hpaired := h.paired
  rw [relatedWords]
  cases hview : c.relatedView <;> cases ha : c.relatedAttribute <;> rw [hview, ha] at hpaired
  · exact .inl ⟨rfl, rfl, rfl⟩
  · cases hpaired
  · cases hpaired
  · exact .inr ⟨_, _, rfl, rfl, rfl⟩

theorem constant_ne_operand {m x y : Number} {view : String} {a : Attribute} :
    [x.text] ≠ factorWords m ++ operandWord view a :: offsetWords y := by
  intro h
  rcases factorWords_eq m with hm | hm <;> rw [hm] at h
  · exact operandWord_ne_text view a x (List.cons.inj h).1.symm
  · cases (List.cons.inj h).2

theorem agrees_of_text {c d : Constraint String} (hc : c.Legible) (hd : d.Legible) (h : c.text = d.text) :
    c.Agrees d := by
  obtain ⟨hitem, h⟩ := List.cons.inj (words_eq_of_text hc hd h)
  obtain ⟨hrelation, h⟩ := List.cons.inj h
  obtain ⟨hitemView, hitemAttribute⟩ := operandWord_inj hitem
  obtain ⟨hrelated, hpriority⟩ := relatedWords_inj h
  have hrelation := Relation.symbol_injective hrelation
  have hpriority := priority_of_priorityWords hpriority
  -- a constant or an operand on each side; only like goes with like
  rcases hc.relatedWords_eq with ⟨hcview, hca, hcwords⟩ | ⟨view, a, hcview, hca, hcwords⟩ <;>
    rcases hd.relatedWords_eq with ⟨hdview, hda, hdwords⟩ | ⟨view', a', hdview, hda, hdwords⟩ <;>
    rw [hcwords, hdwords] at hrelated
  · have hconstant := Number.text_injective (List.cons.inj hrelated).1
    exact ⟨hitemView, hitemAttribute, hrelation, hcview.trans hdview.symm, hca.trans hda.symm,
      hconstant ▸ Number.beq_self_of_ne_nan hc.constant, hpriority, fun hne => absurd hcview hne⟩
  · exact absurd hrelated constant_ne_operand
  · exact absurd hrelated.symm constant_ne_operand
  · obtain ⟨hfactor, hoperand, hoffset⟩ := scaled_inj hrelated
    obtain ⟨rfl, rfl⟩ := operandWord_inj hoperand
    exact ⟨hitemView, hitemAttribute, hrelation, hcview.trans hdview.symm, hca.trans hda.symm,
      beq_of_offsetWords hc.constant hd.constant hoffset, hpriority, fun _ => beq_of_factorWords hc.multiplier hfactor⟩

end Constraint

/-! ## Compiled constraints -/

theorem Operands.TargetAt.paired {V : Type} {o : Operands V} {t : Target V} (h : o.TargetAt t) :
    t.relatedView.isSome = t.relatedAttribute.isSome := by
  cases hviews : o.rightViews with
  | none =>
    obtain ⟨hview, ha⟩ := h.unrelated hviews
    rw [hview, ha]
    rfl
  | some views =>
    obtain ⟨view, a, hview, ha, -⟩ := h.related views hviews
    rw [hview, ha]
    rfl

theorem paired_of_mem_compile {V : Type} [DecidableEq V] {scope : Scope V} {equations : List String} {c : Constraint V}
    (hc : c ∈ (compile scope equations).constraints) : c.relatedView.isSome = c.relatedAttribute.isSome := by
  rw [constraints_compile] at hc
  obtain ⟨src, -, hc⟩ := List.mem_flatMap.1 hc
  cases hcompile : compileEquation scope src with
  | error err =>
    rw [hcompile] at hc
    cases hc
  | ok cs =>
    rw [hcompile] at hc
    obtain ⟨e, -, hcompile⟩ := bind_eq_ok.1 hcompile
    obtain ⟨o, -, hcompile⟩ := bind_eq_ok.1 hcompile
    obtain ⟨targets, halign, htargets⟩ := bind_eq_ok.1 hcompile
    cases htargets
    obtain ⟨t, ht, rfl⟩ := List.mem_map.1 hc
    rw [mapError_eq_ok] at halign
    obtain ⟨hcount, ha, hv, hcs⟩ := Operands.fit_of_align halign
    obtain ⟨targets', halign', -, hat⟩ := Operands.exists_align hcount ha hv hcs
    obtain rfl : targets = targets' := by
      rw [halign] at halign'
      cases halign'
      rfl
    exact (hat t ht).paired

/-- The text of a constraint loses nothing: two constraints that read the same say the same, whatever their handles look
like, as long as these hold no space. -/
theorem agrees_of_text_eq :
    (∀ {V : Type} [DecidableEq V] (scope : Scope V) (equations : List String),
      ∀ c ∈ (compile scope equations).constraints, c.relatedView.isSome = c.relatedAttribute.isSome) ∧
    ∀ c d : Constraint String, c.Legible → d.Legible → c.text = d.text → c.Agrees d :=
  ⟨fun _ _ _ => paired_of_mem_compile, fun _ _ => Constraint.agrees_of_text⟩

/-- A constraint whose handles look like a priority and like a number. -/
def disguised (constant : Number) : Constraint String where
  itemView := "@5"
  itemAttribute := .width
  relation := .equal
  relatedView := some "2"
  relatedAttribute := some .height
  multiplier := .neg .one
  constant
  priority := 250

theorem legible_disguised {constant : Number} (h : constant ≠ .nan) : (disguised constant).Legible where
  itemView := by
    show ' ' ∉ "@5".toList
    decide
  relatedView view hview := by
    obtain rfl := Option.some.inj hview
    decide
  paired := rfl
  multiplier := by
    show Number.neg .one ≠ .nan
    decide
  constant := h

/-- The two zeros are written alike behind a view. -/
theorem agrees_of_text_eq_sample :
    (disguised .zero).text = "@5.width = -1 * 2.height @250" ∧ disguised .zero ≠ disguised (.neg .zero) ∧
      (disguised .zero).Agrees (disguised (.neg .zero)) := by
  have htext : (disguised .zero).text = "@5.width = -1 * 2.height @250" := by decide +kernel
  have htext' : (disguised (.neg .zero)).text = "@5.width = -1 * 2.height @250" := by decide +kernel
  refine ⟨htext, by decide, agrees_of_text_eq.2 _ _ (legible_disguised (by decide)) (legible_disguised (by decide)) ?_⟩
  rw [htext, htext']

end LayoutEquations
