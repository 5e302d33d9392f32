import Mathlib.Tactic
import LayoutEquations.Proofs.Number.Text
import LayoutEquations.Proofs.Text.Classes

/-!
# Numbers read by the command line

The wide grammar of `Number.ofText?` takes every numeral behind any sign, and gives it the number that an equation gives
it (`Numeral.EndsBefore.ofText?`). So each number, infinities and NaN included, is read back from its text
(`Number.ofText?_text`), and no two numbers share a text.
-/

namespace LayoutEquations

/-! ## Numerals -/

/-- The sign in front of a number. -/
inductive SignChars : Bool → List Char → Prop
  | none : SignChars false []
  | plus : SignChars false ['+']
  | minus : SignChars true ['-']

namespace Numeral

variable {n : Numeral} {rest : List Char}

theorem toLower_of_isDigit {d : Char} (h : d.isDigit = true) : d.toLower = d := by
  have hle := (isDigit_eq_true h).2
  unfold Char.toLower
  rw [dif_neg]
  rintro ⟨hlow, -⟩
  have : (0x41 : Nat) ≤ d.toNat := hlow
  omega

theorem EndsBefore.ne_word (h : n.EndsBefore rest) {word : String} (hword : 'n' ∈ word.toList) :
    String.ofList (n.chars.map Char.toLower) ≠ word := by
  rintro rfl
  rw [String.toList_ofList] at hword
  obtain ⟨d, hd, hlower⟩ := List.mem_map.1 hword
  rcases mem_chars h.whole h.fraction hd with rfl | hdigit
  · exact absurd hlower (by decide)
  · rw [toLower_of_isDigit hdigit] at hlower
    subst hlower
    exact absurd hdigit (by decide)

theorem clampExponent_zero (size : Nat) : Number.clampExponent size 0 = 0 := by
  unfold Number.clampExponent
  omega

theorem EndsBefore.unsignedOfChars? (h : n.EndsBefore rest) (hne : n.chars ≠ []) (negative : Bool) :
    Number.unsignedOfChars? negative n.chars = some (n.value negative) := by
  obtain ⟨whole, fraction⟩ := n
  have hnone : ∀ c ∈ ([] : List Char).head?, c.isDigit = false := fun c hc => by cases hc
  unfold Number.unsignedOfChars?
  cases fraction with
  | nil =>
    have htake := takeWhile_digits h.whole hnone
    have hdrop := dropWhile_digits h.whole hnone
    rw [List.append_nil] at htake hdrop
    have hwhole : whole ≠ [] := hne
    simp [chars, htake, hdrop, hwhole, Number.exponentOf?, clampExponent_zero, value, decimal]
  | cons d fraction =>
    have hpoint : ∀ c ∈ ('.' :: d :: fraction).head?, c.isDigit = false := fun c hc => by cases hc; rfl
    have htake := takeWhile_digits h.fraction hnone
    have hdrop := dropWhile_digits h.fraction hnone
    rw [List.append_nil] at htake hdrop
    simp only [chars, List.isEmpty_cons, Bool.false_eq_true, if_false, takeWhile_digits h.whole hpoint,
      dropWhile_digits h.whole hpoint, htake, hdrop]
    simp [Number.exponentOf?, clampExponent_zero, value, decimal]

/-- The reader of numbers gives a numeral, with a sign or without, the number that the lexer gives it. -/
theorem EndsBefore.ofText? (h : n.EndsBefore rest) (hne : n.chars ≠ []) {negative : Bool} {signs : List Char}
    (hsigns : SignChars negative signs) :
    Number.ofText? (String.ofList (signs ++ n.chars)) = some (n.value negative) := by
  have hsplit : Number.splitSign (signs ++ n.chars) = (negative, n.chars) := by
    cases hsigns with
    | none =>
      obtain ⟨c, cs, hcs⟩ := List.exists_cons_of_ne_nil hne
      have hc := mem_chars h.whole h.fraction (hcs ▸ List.mem_cons_self : c ∈ n.chars)
      rw [List.nil_append, hcs]
      unfold Number.splitSign
      split
      · next heq =>
        cases heq
        exact absurd hc (by decide)
      · next heq =>
        cases heq
        exact absurd hc (by decide)
      · rfl
    | plus => rfl
    | minus => rfl
  rw [Number.ofText?, String.toList_ofList, hsplit]
  dsimp only
  rw [if_neg (h.ne_word (by decide)), if_neg (not_or.2 ⟨h.ne_word (by decide), h.ne_word (by decide)⟩)]
  exact h.unsignedOfChars? hne negative

end Numeral

/-! ## The text of any number -/

namespace Number

theorem signChars_spec (negative : Bool) : SignChars negative (signChars negative) := by
  cases negative with
  | false => exact .none
  | true => exact .minus

/-- The command line reads each number back from its text. -/
theorem ofText?_text (x : Number) : ofText? x.text = some x := by
  cases x with
  | nan => decide +kernel
  | infinite s => cases s <;> decide +kernel
  | finite s r =>
    have hplain : (Rank.numeral r).Plain := Decimal.plain_numeral _
    obtain ⟨c, cs, hchars, -⟩ := hplain.exists_digit
    have hne : (Rank.numeral r).chars ≠ [] := by
      rw [hchars]
      exact List.cons_ne_nil _ _
    have hends : (Rank.numeral r).EndsBefore [] := hplain.endsBefore rfl
    rw [text, chars_finite, hends.ofText? hne (signChars_spec s), value_numeral_rank]

theorem text_injective : Function.Injective text := by
  intro x y h
  have : some x = some y := by rw [← ofText?_text x, ← ofText?_text y, h]
  exact Option.some.inj this

theorem isBlank_of_mem_chars {x : Number} {c : Char} (hc : c ∈ x.chars) : isBlank c = false := by
  have hall (cs : List Char) (h : cs.all (fun c => !isBlank c) = true) (hc : c ∈ cs) : isBlank c = false := by
    simpa using List.all_eq_true.1 h c hc
  cases x with
  | nan => exact hall _ (by decide +kernel) hc
  | infinite s => exact hall (signChars s ++ ['i', 'n', 'f']) (by cases s <;> decide +kernel) hc
  | finite s r =>
    have hplain : (Rank.numeral r.val).Plain := Decimal.plain_numeral _
    rw [chars_finite] at hc
    rcases List.mem_append.1 hc with hc | hc
    · exact hall (signChars s) (by cases s <;> decide +kernel) hc
    · rcases Numeral.mem_chars hplain.whole hplain.fraction hc with rfl | hc
      · decide +kernel
      · exact isBlank_of_isDigit hc

theorem isDigit_of_point {x : Number} {u v : List Char} (h : x.chars = u ++ '.' :: v) :
    ∀ c ∈ v, c.isDigit = true := by
  have hpoint : '.' ∈ x.chars := by simp [h]
  have hsign (s : Bool) : '.' ∉ signChars s := by cases s <;> decide
  cases x with
  | nan => exact absurd hpoint (by decide)
  | infinite s => exact absurd hpoint (by cases s <;> decide)
  | finite s r =>
    have hplain : (Rank.numeral r.val).Plain := Decimal.plain_numeral _
    generalize hn : Rank.numeral r.val = n at hplain
    have hdigits {cs : List Char} (hcs : ∀ c ∈ cs, c.isDigit = true) : '.' ∉ cs :=
      fun hc => absurd (hcs '.' hc) (by decide)
    rw [chars_finite, hn] at h hpoint
    by_cases hfraction : n.fraction = []
    · have hchars : n.chars = n.whole := by simp [Numeral.chars, hfraction]
      rw [hchars] at hpoint
      exact absurd hpoint (List.not_mem_append (hsign s) (hdigits hplain.whole))
    · have hchars : n.chars = n.whole ++ '.' :: n.fraction := by simp [Numeral.chars, hfraction]
      rw [hchars, ← List.append_assoc] at h
      obtain ⟨-, -, rfl⟩ := (List.append_cons_inj_of_notMem
        (List.not_mem_append (hsign s) (hdigits hplain.whole)) (hdigits hplain.fraction)).1 h
      exact hplain.fraction

end Number

end LayoutEquations
