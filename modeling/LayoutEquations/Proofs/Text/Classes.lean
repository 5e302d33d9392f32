import LayoutEquations.Text.Classes

/-!
# Classes of characters

The classes that the lexer tells apart exclude each other: a character that starts a word is neither a blank nor a
digit, a digit continues a word, and no blank does. Ranges of code points are compared pair by pair
(`Ranges.apart`). No letter is below the code point 0x41, so none of the symbols starts a word.
-/

namespace LayoutEquations

/-- Does no range of one set meet a range of the other? -/
def Ranges.apart (rs ss : Ranges) : Bool :=
  rs.all fun r => ss.all fun s => decide (r.2 < s.1 ∨ s.2 < r.1)

theorem Ranges.cover_eq_false_of_apart {rs ss : Ranges} (h : rs.apart ss = true) {c : Char}
    (hc : rs.cover c = true) : ss.cover c = false := by
  obtain ⟨r, hr, hrc⟩ := List.any_eq_true.1 hc
  rw [Bool.and_eq_true, decide_eq_true_eq, decide_eq_true_eq] at hrc
  rw [cover, List.any_eq_false]
  intro s hs hsc
  rw [Bool.and_eq_true, decide_eq_true_eq, decide_eq_true_eq] at hsc
  have := of_decide_eq_true (List.all_eq_true.1 (List.all_eq_true.1 h r hr) s hs)
  omega

/-! ## Letters and numerals among the first code points -/

theorem cover_of_le {c : Char} {n : Nat} (h : c.toNat ≤ n) : Ranges.cover [(0, n)] c = true := by
  simp [Ranges.cover, h]

theorem startsWord_of_le {c : Char} (h : c.toNat ≤ 0x40) : startsWord c = false := by
  have halphabetic : isAlphabetic c = false :=
    Ranges.cover_eq_false_of_apart (by decide +kernel) (cover_of_le h)
  have hunderscore : c ≠ '_' := by
    rintro rfl
    exact absurd h (by decide)
  rw [startsWord, halphabetic, beq_false_of_ne hunderscore, Bool.or_false]

theorem continuesWord_of_lt {c : Char} (h : c.toNat < 0x30) : continuesWord c = false := by
  have hnumeric : isNumeric c = false :=
    Ranges.cover_eq_false_of_apart (by decide +kernel) (cover_of_le (Nat.le_of_lt_succ h))
  have hstarts := startsWord_of_le (show c.toNat ≤ 0x40 by omega)
  rw [startsWord, Bool.or_eq_false_iff] at hstarts
  rw [continuesWord, hstarts.1, hnumeric, hstarts.2]
  rfl

/-! ## Digits and blanks -/

theorem isDigit_eq_true {c : Char} (h : c.isDigit = true) : 0x30 ≤ c.toNat ∧ c.toNat ≤ 0x39 := by
  rw [Char.isDigit, Bool.and_eq_true, decide_eq_true_eq, decide_eq_true_eq] at h
  exact h

theorem isDigit_of_lt {c : Char} (h : c.toNat < 0x30) : c.isDigit = false := by
  rw [← Bool.not_eq_true]
  intro hd
  exact absurd (isDigit_eq_true hd).1 (Nat.not_le_of_lt h)

theorem isBlank_of_isDigit {c : Char} (h : c.isDigit = true) : isBlank c = false := by
  obtain ⟨hlow, hhigh⟩ := isDigit_eq_true h
  have hdigits : Ranges.cover [(0x30, 0x39)] c = true := by simp [Ranges.cover, hlow, hhigh]
  exact Ranges.cover_eq_false_of_apart (by decide +kernel) hdigits

theorem isDigit_of_startsWord {c : Char} (h : startsWord c = true) : c.isDigit = false := by
  rw [← Bool.not_eq_true]
  intro hd
  have hle : c.toNat ≤ 0x40 := Nat.le_trans (isDigit_eq_true hd).2 (by decide)
  rw [startsWord_of_le hle] at h
  cases h

theorem isBlank_of_startsWord {c : Char} (h : startsWord c = true) : isBlank c = false := by
  rw [startsWord, Bool.or_eq_true, beq_iff_eq] at h
  rcases h with h | rfl
  · have halphabetic : alphabetics.cover c = true := h
    exact Ranges.cover_eq_false_of_apart (by decide +kernel) halphabetic
  · decide +kernel

theorem continuesWord_of_isDigit {c : Char} (h : c.isDigit = true) : continuesWord c = true := by
  obtain ⟨hlow, hhigh⟩ := isDigit_eq_true h
  have hnumeric : isNumeric c = true := List.any_eq_true.2 ⟨(0x30, 0x39), by decide, by simp [hlow, hhigh]⟩
  rw [continuesWord, hnumeric, Bool.or_true, Bool.true_or]

theorem isBlank_of_continuesWord {c : Char} (h : continuesWord c = true) : isBlank c = false := by
  rw [continuesWord, Bool.or_eq_true, Bool.or_eq_true, beq_iff_eq] at h
  rcases h with (h | h) | rfl
  · have halphabetic : alphabetics.cover c = true := h
    exact Ranges.cover_eq_false_of_apart (by decide +kernel) halphabetic
  · have hnumeric : numerics.cover c = true := h
    exact Ranges.cover_eq_false_of_apart (by decide +kernel) hnumeric
  · decide +kernel

theorem continuesWord_of_isBlank {c : Char} (h : isBlank c = true) : continuesWord c = false := by
  rw [← Bool.not_eq_true]
  intro hword
  rw [isBlank_of_continuesWord hword] at h
  cases h

theorem isDigit_of_isBlank {c : Char} (h : isBlank c = true) : c.isDigit = false := by
  rw [← Bool.not_eq_true]
  intro hd
  rw [isBlank_of_isDigit hd] at h
  cases h

end LayoutEquations
