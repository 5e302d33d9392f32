import LayoutEquations.Equation.Cursor
import LayoutEquations.Proofs.Grammar

/-!
# Cursors and the lexemes that lead to them

`c.prepend ls` is the place from which reading the lexemes `ls` leads to `c`. Reading is complete when a function
started at `c.prepend ls` ends at `c`, and sound when a function that ends at `c'` started at some `c'.prepend ls`. A
`Closed` cursor stands in a list that ends with its only end mark, so it can pass every other token.
-/

namespace LayoutEquations.Cursor

open Grammar

/-- The place in front of the lexemes `ls` and what is left at `c`. -/
def prepend (ls : List Lexeme) (c : Cursor) : Cursor :=
  match ls with
  | [] => c
  | l :: ls => ⟨l, (prepend ls c).current :: (prepend ls c).rest⟩

@[simp] theorem prepend_nil (c : Cursor) : c.prepend [] = c := rfl

@[simp] theorem token_prepend (l : Lexeme) (ls : List Lexeme) (c : Cursor) :
    (c.prepend (l :: ls)).token = l.token := rfl

@[simp] theorem pos_prepend (l : Lexeme) (ls : List Lexeme) (c : Cursor) : (c.prepend (l :: ls)).pos = l.pos := rfl

@[simp] theorem advance_prepend (l : Lexeme) (ls : List Lexeme) (c : Cursor) :
    (c.prepend (l :: ls)).advance = c.prepend ls := rfl

@[simp] theorem prepend_append (ls ls' : List Lexeme) (c : Cursor) :
    c.prepend (ls ++ ls') = (c.prepend ls').prepend ls := by
  induction ls with
  | nil => rfl
  | cons l ls ih => rw [List.cons_append, prepend, prepend, ih]

def lexemes (c : Cursor) : List Lexeme := c.current :: c.rest

theorem lexemes_prepend (ls : List Lexeme) (c : Cursor) : (c.prepend ls).lexemes = ls ++ c.lexemes := by
  induction ls with
  | nil => rfl
  | cons l ls ih => rw [List.cons_append, ← ih]; rfl

/-! ## Closed cursors -/

/-- The lexemes from here on end with their only end mark. -/
def Closed (c : Cursor) : Prop := EndsOnce c.lexemes

theorem endsOnce_tail {l : Lexeme} {ls : List Lexeme} (h : EndsOnce (l :: ls)) (hne : l.token ≠ .eof) :
    EndsOnce ls := by
  obtain ⟨init, p, hls, hinit⟩ := h
  cases init with
  | nil =>
    cases hls
    exact absurd rfl hne
  | cons l' init =>
    cases hls
    exact ⟨init, p, rfl, fun l hl => hinit l (List.mem_cons_of_mem _ hl)⟩

theorem Closed.exists_prepend {c : Cursor} {t : Token} (hc : c.Closed) (ht : c.token = t) (hne : t ≠ .eof) :
    ∃ p d, c = prepend [⟨p, t⟩] d := by
  obtain ⟨⟨p, t'⟩, rest⟩ := c
  obtain rfl : t' = t := ht
  obtain ⟨init, q, htail, -⟩ := endsOnce_tail hc hne
  cases init with
  | nil =>
    cases htail
    exact ⟨p, ⟨⟨q, .eof⟩, []⟩, rfl⟩
  | cons l init =>
    cases htail
    exact ⟨p, ⟨l, init ++ [⟨q, .eof⟩]⟩, rfl⟩

theorem Closed.of_prepend {ls : List Lexeme} {c : Cursor} (h : (c.prepend ls).Closed) : c.Closed := by
  induction ls with
  | nil => exact h
  | cons l ls ih =>
    apply ih
    obtain ⟨init, p, hls, hinit⟩ := h
    cases init with
    | nil => cases hls
    | cons l' init =>
      rw [List.cons_append] at hls
      exact ⟨init, p, (List.cons.inj hls).2, fun l hl => hinit l (List.mem_cons_of_mem _ hl)⟩

theorem Closed.eq_eof {c : Cursor} (hc : c.Closed) (ht : c.token = .eof) : ∃ p, c = ⟨⟨p, .eof⟩, []⟩ := by
  obtain ⟨⟨p, t⟩, rest⟩ := c
  obtain rfl : t = .eof := ht
  obtain ⟨init, q, hls, hinit⟩ := hc
  cases init with
  | nil =>
    cases hls
    exact ⟨_, rfl⟩
  | cons l init =>
    cases hls
    exact absurd rfl (hinit ⟨p, .eof⟩ (by simp))

end LayoutEquations.Cursor
