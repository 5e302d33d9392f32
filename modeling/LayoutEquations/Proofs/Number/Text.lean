import Mathlib.Tactic
import LayoutEquations.Number.Text
import LayoutEquations.Proofs.Number.Rank

/-!
# Numbers read back from their text

`Number.chars` writes a finite number as a sign and a plain numeral (`Decimal.numeral`), and that numeral is read
as the same number, the sign of zero included (`value_numeral_rank`). The search for the shortest decimal tests
its hits by reading them back, and the grid it ends on holds the magnitude itself, so no interval of decimals that
round alike is needed. Natural numbers up to 2 ^ 53 are read exactly (`toNat?_ofNat`).
-/

namespace LayoutEquations

/-! ## The rank of a decimal -/

/-- The rank that a decimal is rounded to. -/
def Decimal.rank (d : Decimal) : Nat :=
  Rank.nearest (d.digits * 10 ^ d.exponent.toNat * Rank.unit) (10 ^ (-d.exponent).toNat)

theorem Number.ofDecimal_eq (negative : Bool) (d : Decimal) : Number.ofDecimal negative d = .ofRank negative d.rank :=
  rfl

namespace Rank

/-- The exponent stays a variable, so that no power is computed. -/
theorem finest_eq {k : Nat} (hk : 1074 = k) : finest = 5 ^ k := by
  delta finest
  generalize 1074 = n at *
  rw [Nat.pow_eq, hk]

theorem finest_pos : 0 < finest := by
  obtain ⟨k, hk⟩ : ∃ k, 1074 = k := ⟨_, rfl⟩
  rw [finest_eq hk]
  exact Nat.pow_pos (by decide)

theorem readsBack_eq (rank point step : Nat) :
    readsBack rank point step = (nearest (point * 10 ^ step) finest == rank) := by
  rw [readsBack, Nat.pow_eq]

theorem rank_of_readsBack {rank point step : Nat} {e : Int} (he : e = step - 1074)
    (h : readsBack rank point step = true) : (⟨point, e⟩ : Decimal).rank = rank := by
  obtain ⟨k, hk⟩ : ∃ k, 1074 = k := ⟨_, rfl⟩
  rw [readsBack_eq, beq_iff_eq] at h
  rw [← h, Decimal.rank]
  refine nearest_congr (Nat.pow_pos (by decide)) finest_pos ?_
  have hexponents : e.toNat + k = step + (-e).toNat := by omega
  calc point * 10 ^ e.toNat * unit * finest
      = point * (10 ^ e.toNat * (2 ^ k * 5 ^ k)) := by rw [unit_eq hk, finest_eq hk]; ring
    _ = point * (10 ^ step * 10 ^ (-e).toNat) := by rw [← Nat.mul_pow, ← Nat.pow_add, hexponents, Nat.pow_add]
    _ = point * 10 ^ step * 10 ^ (-e).toNat := by rw [Nat.mul_assoc]

theorem readsBack_exact (rank : Nat) : readsBack rank (units rank * finest) 0 = true := by
  rw [readsBack_eq, Nat.pow_zero, Nat.mul_one, nearest_units rank finest_pos]
  exact beq_self_eq_true rank

theorem nearer_eq (tie : Tie) (scaled low step : Nat) :
    nearer tie scaled low step = low ∨ nearer tie scaled low step = low + 1 := by
  unfold nearer
  split
  · exact Or.inl rfl
  · exact Or.inr rfl
  · cases tie with
    | upper => exact Or.inr rfl
    | even =>
      rcases Nat.mod_two_eq_zero_or_one low with h | h
      · exact Or.inl (by simp [h])
      · exact Or.inr (by simp [h])

theorem readsBack_hit {tie : Tie} {rank scaled low step point : Nat}
    (h : hit? tie scaled low step (readsBack rank low step) (readsBack rank (low + 1) step) = some point) :
    readsBack rank point step = true := by
  cases hlow : readsBack rank low step <;> cases hhigh : readsBack rank (low + 1) step <;> rw [hlow, hhigh] at h
  · cases h
  · cases h
    exact hhigh
  · cases h
    exact hlow
  · cases h
    rcases nearer_eq tie scaled low step with h | h
    · rw [h, hlow]
    · rw [h, hhigh]

theorem rank_shortestFrom (tie : Tie) (rank step : Nat) : (shortestFrom tie rank step).rank = rank := by
  induction step with
  | zero =>
    rw [shortestFrom]
    exact rank_of_readsBack (by omega) (readsBack_exact rank)
  | succ step ih =>
    rw [shortestFrom]
    generalize hhit : hit? _ _ _ _ _ _ = hit
    cases hit with
    | none => exact ih
    | some point => exact rank_of_readsBack (by omega) (readsBack_hit hhit)

theorem rank_shortest (tie : Tie) (rank : Nat) : (shortest tie rank).rank = rank := by
  unfold shortest
  split
  · next h =>
    have hzero : units 0 = 0 := Nat.zero_mul _
    have := nearest_units 0 (show 0 < 10 ^ (-0 : Int).toNat by decide)
    rw [hzero, Nat.zero_mul] at this
    rw [h, Decimal.rank, Nat.zero_mul, Nat.zero_mul, this]
  · exact rank_shortestFrom tie rank _

end Rank

/-! ## Plain numerals -/

namespace Numeral

/-- Digits, and a digit before the point. -/
structure Plain (n : Numeral) : Prop where
  whole_ne_nil : n.whole ≠ []
  whole : ∀ c ∈ n.whole, c.isDigit = true
  fraction : ∀ c ∈ n.fraction, c.isDigit = true

theorem takeWhile_digits {ds rest : List Char} (hds : ∀ c ∈ ds, c.isDigit = true)
    (hrest : ∀ c ∈ rest.head?, c.isDigit = false) : (ds ++ rest).takeWhile Char.isDigit = ds := by
  rw [List.takeWhile_append_of_pos hds]
  cases rest with
  | nil => simp
  | cons c cs => simp [hrest c rfl]

theorem dropWhile_digits {ds rest : List Char} (hds : ∀ c ∈ ds, c.isDigit = true)
    (hrest : ∀ c ∈ rest.head?, c.isDigit = false) : (ds ++ rest).dropWhile Char.isDigit = rest := by
  rw [List.dropWhile_append_of_pos hds]
  cases rest with
  | nil => rfl
  | cons c cs => simp [hrest c rfl]

theorem isDigit_head_of_startsAt {cs : List Char} (h : startsAt cs = false) :
    ∀ c ∈ cs.head?, c.isDigit = false := by
  intro c hc
  cases cs with
  | nil => cases hc
  | cons d ds =>
    obtain rfl : d = c := Option.some.inj hc
    unfold startsAt at h
    split at h
    · next heq =>
      cases heq
      rfl
    · next heq =>
      cases heq
      exact h
    · next heq => cases heq

theorem fractionAt_of_startsAt {cs : List Char} (h : startsAt cs = false) : fractionAt cs = [] := by
  unfold fractionAt
  split
  · next ds =>
    cases ds with
    | nil => rfl
    | cons d ds =>
      have : d.isDigit = false := h
      simp [this]
  · rfl

theorem mem_chars {n : Numeral} (hwhole : ∀ d ∈ n.whole, d.isDigit = true)
    (hfraction : ∀ d ∈ n.fraction, d.isDigit = true) {d : Char} (hd : d ∈ n.chars) :
    d = '.' ∨ d.isDigit = true := by
  unfold chars at hd
  split at hd
  · exact .inr (hwhole d hd)
  · rcases List.mem_append.1 hd with hd | hd
    · exact .inr (hwhole d hd)
    · rcases List.mem_cons.1 hd with rfl | hd
      · exact .inl rfl
      · exact .inr (hfraction d hd)

theorem Plain.exists_digit {n : Numeral} (h : n.Plain) : ∃ c w, n.chars = c :: w ∧ c.isDigit = true := by
  obtain ⟨c, w, hwhole⟩ := List.exists_cons_of_ne_nil h.whole_ne_nil
  have hc : c.isDigit = true := h.whole c (by simp [hwhole])
  unfold chars
  split
  · exact ⟨c, w, hwhole, hc⟩
  · exact ⟨c, w ++ '.' :: n.fraction, by rw [hwhole, List.cons_append], hc⟩

theorem startsAt_eq_false {c : Char} (hpoint : c ≠ '.') (hdigit : c.isDigit = false) (cs : List Char) :
    startsAt (c :: cs) = false := by
  unfold startsAt
  split
  · next heq =>
    cases heq
    exact absurd rfl hpoint
  · next heq =>
    cases heq
    exact hdigit
  · rfl

theorem startsAt_of_isDigit {c : Char} (hc : c.isDigit = true) (cs : List Char) : startsAt (c :: cs) = true := by
  unfold startsAt
  split
  · next heq =>
    cases heq
    exact absurd hc (by decide)
  · next heq =>
    cases heq
    exact hc
  · next heq => cases heq

/-- The numeral ends before the text `rest`: it consists of digits, no digit follows, and what follows a numeral without
a fraction does not start one. -/
structure EndsBefore (n : Numeral) (rest : List Char) : Prop where
  whole : ∀ c ∈ n.whole, c.isDigit = true
  fraction : ∀ c ∈ n.fraction, c.isDigit = true
  digit : ∀ c ∈ rest.head?, c.isDigit = false
  point : n.fraction = [] → startsAt rest = false

theorem Plain.endsBefore {n : Numeral} (h : n.Plain) {rest : List Char} (hrest : startsAt rest = false) :
    n.EndsBefore rest :=
  ⟨h.whole, h.fraction, isDigit_head_of_startsAt hrest, fun _ => hrest⟩

theorem ofChars_append {n : Numeral} {rest : List Char} (h : n.EndsBefore rest) : ofChars (n.chars ++ rest) = n := by
  obtain ⟨whole, fraction⟩ := n
  by_cases hfraction : fraction = []
  · subst hfraction
    show ofChars (whole ++ rest) = _
    rw [ofChars, takeWhile_digits h.whole h.digit, dropWhile_digits h.whole h.digit,
      fractionAt_of_startsAt (h.point rfl)]
  · have hchars : chars ⟨whole, fraction⟩ ++ rest = whole ++ '.' :: (fraction ++ rest) := by
      simp [chars, hfraction]
    have hpoint : ∀ c ∈ ('.' :: (fraction ++ rest)).head?, c.isDigit = false := by
      intro c hc
      obtain rfl : '.' = c := Option.some.inj hc
      rfl
    rw [hchars, ofChars, takeWhile_digits h.whole hpoint, dropWhile_digits h.whole hpoint, fractionAt,
      takeWhile_digits h.fraction h.digit]

theorem isDigit_head_dropWhile (cs : List Char) : ∀ c ∈ (cs.dropWhile Char.isDigit).head?, c.isDigit = false := by
  intro c hc
  have := List.head?_dropWhile_not Char.isDigit cs
  rw [Option.mem_def.1 hc] at this
  exact this

theorem exists_endsBefore (cs : List Char) :
    ∃ rest, cs = (ofChars cs).chars ++ rest ∧ (ofChars cs).EndsBefore rest := by
  have hwhole : ∀ c ∈ cs.takeWhile Char.isDigit, c.isDigit = true :=
    fun c hc => List.all_eq_true.1 List.all_takeWhile c hc
  by_cases hfraction : fractionAt (cs.dropWhile Char.isDigit) = []
  · refine ⟨cs.dropWhile Char.isDigit, ?_, hwhole, ?_, isDigit_head_dropWhile cs, fun _ => ?_⟩
    · simp [ofChars, chars, hfraction]
    · intro c hc
      have hc : c ∈ fractionAt (cs.dropWhile Char.isDigit) := hc
      rw [hfraction] at hc
      cases hc
    · have hhead := isDigit_head_dropWhile cs
      generalize cs.dropWhile Char.isDigit = rest at hfraction hhead
      unfold startsAt
      split
      · next c ds =>
        rw [← Bool.not_eq_true]
        intro hc
        simp [fractionAt, hc] at hfraction
      · next c ds _ => exact hhead c rfl
      · rfl
  · obtain ⟨ds, hds⟩ : ∃ ds, cs.dropWhile Char.isDigit = '.' :: ds := by
      unfold fractionAt at hfraction
      split at hfraction
      · next ds heq => exact ⟨ds, heq⟩
      · exact absurd rfl hfraction
    have hread : ofChars cs = ⟨cs.takeWhile Char.isDigit, ds.takeWhile Char.isDigit⟩ := by
      rw [ofChars, hds]
      rfl
    rw [hds] at hfraction
    have hfraction : ds.takeWhile Char.isDigit ≠ [] := hfraction
    rw [hread]
    refine ⟨ds.dropWhile Char.isDigit, ?_, hwhole, fun c hc => List.all_eq_true.1 List.all_takeWhile c hc,
      isDigit_head_dropWhile ds, fun h => absurd h hfraction⟩
    have hcs := List.takeWhile_append_dropWhile (p := Char.isDigit) (l := cs)
    rw [hds, ← List.takeWhile_append_dropWhile (p := Char.isDigit) (l := ds)] at hcs
    simpa [chars, hfraction] using hcs.symm

end Numeral

/-! ## The text of a finite number -/

theorem isDigit_toDigits {n : Nat} : ∀ c ∈ Nat.toDigits 10 n, c.isDigit = true :=
  fun _ hc => Nat.isDigit_of_mem_toDigits (by decide) (by decide) hc

theorem isDigit_zeros {k : Nat} : ∀ c ∈ List.replicate k '0', c.isDigit = true := by
  intro c hc
  rw [List.eq_of_mem_replicate hc]
  rfl

namespace Decimal

def numeral (d : Decimal) : Numeral :=
  let digits := Nat.toDigits 10 d.digits
  match d.exponent with
  | .ofNat e => ⟨digits ++ List.replicate e '0', []⟩
  | .negSucc e =>
    if digits.length ≤ e + 1 then ⟨['0'], List.replicate (e + 1 - digits.length) '0' ++ digits⟩
    else ⟨digits.take (digits.length - (e + 1)), digits.drop (digits.length - (e + 1))⟩

theorem chars_numeral (d : Decimal) : d.numeral.chars = d.positional := by
  have hne : Nat.toDigits 10 d.digits ≠ [] := Nat.toDigits_ne_nil
  obtain ⟨n, e | e⟩ := d
  · rfl
  · unfold numeral positional
    dsimp only
    split
    · simp [Numeral.chars, hne]
    · next h =>
      have : Nat.toDigits 10 n ≠ [] ∧ (Nat.toDigits 10 n).length - (e + 1) < (Nat.toDigits 10 n).length :=
        ⟨hne, by omega⟩
      simp [Numeral.chars, List.drop_eq_nil_iff, this.2]

theorem plain_numeral (d : Decimal) : d.numeral.Plain := by
  have hdigits := isDigit_toDigits (n := d.digits)
  have hne : Nat.toDigits 10 d.digits ≠ [] := Nat.toDigits_ne_nil
  obtain ⟨n, e | e⟩ := d
  · refine ⟨by simp [numeral, hne], fun c hc => ?_, fun c hc => by cases hc⟩
    rcases List.mem_append.1 hc with hc | hc
    · exact hdigits c hc
    · exact isDigit_zeros c hc
  · unfold numeral
    dsimp only
    split
    · refine ⟨by simp, by simp, fun c hc => ?_⟩
      rcases List.mem_append.1 hc with hc | hc
      · exact isDigit_zeros c hc
      · exact hdigits c hc
    · next h =>
      refine ⟨?_, fun c hc => hdigits c (List.mem_of_mem_take hc), fun c hc => hdigits c (List.mem_of_mem_drop hc)⟩
      dsimp only at h ⊢
      simp only [ne_eq, List.take_eq_nil_iff, hne, or_false]
      omega

theorem value_numeral (d : Decimal) (negative : Bool) : d.numeral.value negative = .ofDecimal negative d := by
  obtain ⟨n, e | e⟩ := d
  · show Number.ofRank negative (rank ⟨Nat.ofDigitChars 10 (Nat.toDigits 10 n ++ List.replicate e '0' ++ []) 0, 0⟩) =
      Number.ofRank negative (rank ⟨n, e⟩)
    rw [List.append_nil, Nat.ofDigitChars_append, Nat.ofDigitChars_ten_toDigits, Nat.ofDigitChars_replicate_zero]
    simp [rank, Nat.mul_comm]
  · have hdecimal : (numeral ⟨n, .negSucc e⟩).decimal = ⟨n, .negSucc e⟩ := by
      unfold numeral Numeral.decimal
      dsimp only
      split
      · next h =>
        simp [Nat.ofDigitChars_append, Nat.ofDigitChars_cons, Nat.ofDigitChars_replicate_zero,
          Nat.ofDigitChars_ten_toDigits]
        omega
      · next h =>
        simp [Nat.ofDigitChars_ten_toDigits]
        omega
    rw [Numeral.value, hdecimal]

end Decimal

/-- The numeral by which a magnitude is written. -/
def Rank.numeral (rank : Nat) : Numeral := (shortest .upper rank).numeral

namespace Number

theorem chars_finite (negative : Bool) (rank : Fin Rank.infinity) :
    (finite negative rank).chars = signChars negative ++ (Rank.numeral rank).chars := by
  rw [Rank.numeral, Decimal.chars_numeral]
  rfl

theorem ofRank_of_lt (negative : Bool) (rank : Fin Rank.infinity) :
    ofRank negative rank.val = finite negative rank := by
  rw [ofRank, dif_pos rank.isLt]

/-- A magnitude reads back from its numeral, behind either sign. -/
theorem value_numeral_rank (negative : Bool) (rank : Fin Rank.infinity) :
    (Rank.numeral rank).value negative = finite negative rank := by
  rw [Rank.numeral, Decimal.value_numeral, ofDecimal_eq, Rank.rank_shortest, ofRank_of_lt]

/-! ## Natural numbers -/

/-- The number that the numeral of a natural number stands for. -/
def ofNat (n : Nat) : Number := (⟨Nat.toDigits 10 n, []⟩ : Numeral).value false

/-- Natural numbers that fit into a significand are read exactly. -/
theorem toNat?_ofNat {n : Nat} (hn : n < 2 * Rank.binade) : (ofNat n).toNat? = some n := by
  obtain ⟨rank, hrank, hunits⟩ := Rank.exists_units_eq hn
  obtain ⟨k, hk⟩ : ∃ k, 1074 = k := ⟨_, rfl⟩
  have hunit : 0 < Rank.unit := by
    rw [Rank.unit_eq hk]
    exact Nat.two_pow_pos k
  have hnearest := Rank.nearest_units rank Nat.one_pos
  rw [hunits, Nat.mul_one] at hnearest
  have hvalue : ofNat n = finite false ⟨rank, hrank⟩ := by
    calc ofNat n = ofRank false (Decimal.rank ⟨n, 0⟩) := by
          simp [ofNat, Numeral.value, ofDecimal_eq, Numeral.decimal, Nat.ofDigitChars_ten_toDigits]
      _ = ofRank false rank := by simp [Decimal.rank, hnearest]
      _ = finite false ⟨rank, hrank⟩ := ofRank_of_lt false ⟨rank, hrank⟩
  rw [hvalue, toNat?]
  simp [hunits, Nat.mul_div_cancel _ hunit]

end Number

end LayoutEquations
