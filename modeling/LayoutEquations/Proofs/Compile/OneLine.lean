import Mathlib.Tactic
import LayoutEquations.Proofs.Attribute
import LayoutEquations.Proofs.Compile.Errors
import LayoutEquations.Proofs.Number.Reading

/-!
# Failures on one line

Apart from fixed words and numbers, a message takes over four things: the whole text, which is quoted, the character
that the lexer refuses, which is no blank, the token that the parser has found, which is one of the lexemes
(`found_of_ofLexemes`), and a name or a segment that the resolver blames, which is a word of the equation or of the
language. A line feed is a blank, so none of them can hold one, and the text of a failure is one line
(`oneLine_of_compileEquation`).
-/

namespace LayoutEquations

def OneLine (text : String) : Prop := '\n' ∉ text.toList

instance (text : String) : Decidable (OneLine text) := inferInstanceAs (Decidable (¬ _))

theorem OneLine.append {s t : String} (hs : OneLine s) (ht : OneLine t) : OneLine (s ++ t) := by
  rw [OneLine, String.toList_append]
  exact List.not_mem_append hs ht

/-! ## What messages take over -/

theorem oneLine_of_isBlank {text : String} (h : ∀ c ∈ text.toList, isBlank c = false) : OneLine text :=
  fun hmem => absurd (h _ hmem) (by decide)

theorem oneLine_repr (n : Nat) : OneLine n.repr := by
  refine oneLine_of_isBlank fun c hc => ?_
  rw [Nat.toList_repr] at hc
  exact isBlank_of_isDigit (isDigit_toDigits c hc)

theorem Number.oneLine_text (x : Number) : OneLine x.text := by
  refine oneLine_of_isBlank fun c hc => ?_
  rw [text, String.toList_ofList] at hc
  exact isBlank_of_mem_chars hc

theorem oneLine_of_isIdentifier {word : String} (h : isIdentifier word = true) : OneLine word := by
  refine oneLine_of_isBlank fun c hc => ?_
  unfold isIdentifier at h
  split at h
  · cases h
  · next d ds heq =>
    rw [Bool.and_eq_true, List.all_eq_true] at h
    rw [heq] at hc
    rcases List.mem_cons.1 hc with rfl | hc
    · exact isBlank_of_startsWord h.1
    · exact isBlank_of_continuesWord (h.2 c hc)

theorem digitChar_ne (n : Nat) : n.digitChar ≠ '\n' := by
  match n with
  | 0 | 1 | 2 | 3 | 4 | 5 | 6 | 7 | 8 | 9 | 10 | 11 | 12 | 13 | 14 | 15 => decide
  | n + 16 => simp [Nat.digitChar]

theorem not_mem_toDigits (n : Nat) : '\n' ∉ Nat.toDigits 16 n := by
  induction n using Nat.strongRecOn with
  | ind n ih =>
    rw [Nat.toDigits_eq_if (by decide)]
    split
    · exact mt List.mem_singleton.1 (digitChar_ne n).symm
    · exact List.not_mem_append (ih _ (by omega)) (mt List.mem_singleton.1 (digitChar_ne _).symm)

theorem not_mem_quotedChar (c : Char) : '\n' ∉ quotedChar c := by
  unfold quotedChar
  split
  case h_7 hfeed _ _ _ =>
    split
    · refine List.not_mem_append (List.not_mem_append (by decide) (not_mem_toDigits _)) (by decide)
    · exact mt List.mem_singleton.1 (Ne.symm hfeed)
  all_goals decide

theorem oneLine_quoted (text : String) : OneLine (quoted text) := by
  rw [OneLine, quoted, String.toList_ofList]
  refine List.not_mem_append (List.not_mem_cons_of_ne_of_not_mem (by decide) ?_) (by decide)
  intro hmem
  obtain ⟨c, -, hc⟩ := List.mem_flatMap.1 hmem
  exact not_mem_quotedChar c hc

/-! ## Parse errors -/

theorem Token.oneLine_describe {t : Token} (h : ∀ word, t = .identifier word → isIdentifier word = true) :
    OneLine t.describe := by
  cases t with
  | identifier word => exact .append (.append (by decide) (oneLine_of_isIdentifier (h word rfl))) (by decide)
  | number x => exact .append (by decide) x.oneLine_text
  | relation r => cases r <;> decide
  | _ => decide

theorem oneLine_of_parse {src : String} {ls : List Lexeme} {err : ParseError} (hlex : lex src = .ok ls)
    (h : Equation.ofLexemes ls = .error err) : OneLine err.message := by
  have hfound := found_of_ofLexemes (endsOnce_of_lex hlex) h
  cases err with
  | expected wanted found pos =>
    obtain ⟨l, hl, rfl⟩ := hfound
    have hwanted : OneLine wanted.text := by cases wanted <;> decide
    have hword : ∀ word, l.token = .identifier word → isIdentifier word = true :=
      fun word hword => isIdentifier_of_lex hlex (hword ▸ hl : ⟨l.pos, .identifier word⟩ ∈ ls)
    exact .append (.append (.append (.append (.append (by decide) hwanted) (by decide)) (oneLine_repr pos)) (by decide))
      (Token.oneLine_describe hword)
  | unbalancedParen pos => exact .append (by decide) (oneLine_repr pos)
  | multiplierAfterConstant pos => exact .append (by decide) (oneLine_repr pos)
  | priorityOutOfRange x pos =>
    exact .append (.append (.append (.append (by decide) x.oneLine_text) (by decide)) (oneLine_repr pos)) (by decide)

/-! ## The other errors -/

theorem oneLine_of_lex {src : String} {err : LexError} (h : lex src = .error err) : OneLine err.message := by
  obtain ⟨pos, c⟩ := err
  have hc : OneLine c.toString := by
    refine oneLine_of_isBlank fun d hd => ?_
    obtain rfl : d = c := by simpa using hd
    exact (refused_of_lex h).blank
  exact .append (.append (.append (by decide) hc) (by decide)) (oneLine_repr pos)

theorem oneLine_align (err : AlignError) : OneLine err.message := by
  have hpart (part : ListPart) : OneLine part.text := by cases part <;> decide
  cases err with
  | sizeMismatch part expected got =>
    exact .append (.append (.append (.append (hpart part) (by decide)) (oneLine_repr got)) (by decide))
      (oneLine_repr expected)
  | empty part => exact .append (hpart part) (by decide)

theorem ViewRef.WellFormed.oneLine_render {root : ViewRef} (h : root.WellFormed) : OneLine root.render := by
  cases root with
  | self => decide
  | all => decide
  | index n => exact oneLine_repr n
  | name word => exact oneLine_of_isIdentifier h.1

variable {V : Type} [DecidableEq V] {scope : Scope V} {src : String} {err : CompileError}

theorem oneLine_of_resolve {path : ViewPath} {r : ResolveError} (hpath : path.WellFormed)
    (h : scope.resolve path = .error r) : OneLine r.message := by
  rcases resolve_eq_error_iff.1 h with ⟨key, hkey, rfl⟩ | ⟨-, hdangling⟩
  · have hreserved : isReserved key = true := by
      cases hsubstitutions : scope.substitutions with
      | indexed views =>
        rw [hsubstitutions] at hkey
        cases hkey
      | named d =>
        rw [hsubstitutions] at hkey
        exact List.find?_some hkey
    exact .append (.append (by decide) (oneLine_of_isIdentifier (isIdentifier_of_isReserved hreserved))) (by decide)
  · cases hdangling with
    | root hroot => exact .append (.append (.append (by decide) hpath.root.oneLine_render) (by decide)) (oneLine_repr _)
    | @segment _ _ _ _ _ _ segment _ _ hsplit =>
      have hmem : segment ∈ path.keyPath := by simp [hsplit]
      have hsegment := oneLine_of_isIdentifier (hpath.keyPath segment hmem)
      exact .append (.append (.append (.append (by decide) hsegment) (by decide)) (oneLine_repr _)) (by decide)

theorem oneLine_of_operands {e : Equation} {r : ResolveError} (he : e.WellFormed) (h : e.operands scope = .error r) :
    OneLine r.message := by
  rcases operands_eq_error_iff.1 h with hleft | ⟨-, path, hview, hright⟩
  · exact oneLine_of_resolve he.view hleft
  · exact oneLine_of_resolve (he.right.view path hview).1 hright

/-! ## The text of a failure -/

theorem Failure.oneLine_message (h : Failure scope src err) : OneLine err.message := by
  cases h with
  | lex h => exact oneLine_of_lex h
  | parse hlex h => exact oneLine_of_parse hlex h
  | resolve he h => exact oneLine_of_operands (wellFormed_of_ofText he) h
  | align he hoperands h => exact oneLine_align _

theorem Failure.oneLine_text (h : Failure scope src err) (index : Nat) :
    OneLine (EquationError.text ⟨index, src, err⟩) := by
  have hkind : OneLine err.kind := by
    cases err with
    | lex => exact (show OneLine "lex" by decide)
    | parse => exact (show OneLine "parse" by decide)
    | resolve => exact (show OneLine "resolve" by decide)
    | align => exact (show OneLine "broadcast" by decide)
  have hfront : OneLine ("equation " ++ index.repr ++ " (" ++ quoted src ++ "): ") :=
    .append (.append (.append (.append (by decide) (oneLine_repr index)) (by decide)) (oneLine_quoted src)) (by decide)
  exact .append (.append (.append hfront hkind) (by decide)) h.oneLine_message

/-- Where the text of an equation does not compile, the text of the failure is one line. -/
theorem oneLine_of_compileEquation (h : compileEquation scope src = .error err) (index : Nat) :
    OneLine (EquationError.text ⟨index, src, err⟩) :=
  (failure_of_compileEquation h).oneLine_text index

theorem oneLine_of_ofText (h : Equation.ofText src = .error err) (index : Nat) :
    OneLine (EquationError.text ⟨index, src, err⟩) := by
  let scope : Scope Unit := ⟨(), .indexed [], fun _ _ => none⟩
  have hfailure : Failure scope src err := failure_of_ofText h
  exact hfailure.oneLine_text index

end LayoutEquations
