import LayoutEquations.Proofs.Equation.RoundTrip
import LayoutEquations.Proofs.View.Resolution

/-!
# Which keys an equation can address

A root looks a key up in a dictionary as the word that it is, or as the decimal text of its index
(`ViewRef.LooksUp`). The roots that a text can spell are the well-formed ones, so a key that is not reserved can be
addressed when it is an identifier or the decimal text of an index in range (`IsViewKey`). Such a key is its own root:
the text `$key.width = 1` is the canonical form of an equation, which is read back and whose only target is the view
under the key. A dictionary with a reserved key can be used by no equation, since the first such key is told about
before any reference is looked at.
-/

namespace LayoutEquations

variable {V : Type}

/-! ## Roots and keys -/

/-- The root looks up this key in a dictionary. -/
inductive ViewRef.LooksUp : ViewRef → String → Prop
  | name (word : String) : LooksUp (.name word) word
  | index (n : Nat) : LooksUp (.index n) n.repr

/-- The text is an identifier, or the decimal text of an index in range. -/
def IsViewKey (key : String) : Prop :=
  isIdentifier key = true ∨ ∃ n ≤ 4294967295, key = n.repr

namespace ViewRef.LooksUp

variable {root : ViewRef} {key : String}

theorem render_eq (h : root.LooksUp key) : root.render = key := by
  cases h <;> rfl

theorem finds {d : Dictionary V} {view : V} (h : root.LooksUp key) (hmem : (key, view) ∈ d.entries) :
    (Substitutions.named d).Finds root view := by
  cases h with
  | name => exact .key hmem
  | index => exact .decimal hmem

theorem isViewKey (h : root.LooksUp key) (hwf : root.WellFormed) : IsViewKey key := by
  cases h with
  | name => exact .inl hwf.1
  | index n => exact .inr ⟨n, hwf, rfl⟩

end ViewRef.LooksUp

theorem IsViewKey.exists_root {key : String} (h : IsViewKey key) (hfree : isReserved key = false) :
    ∃ root : ViewRef, root.WellFormed ∧ root.LooksUp key := by
  rcases h with hword | ⟨n, hn, rfl⟩
  · exact ⟨.name key, ⟨hword, hfree⟩, .name key⟩
  · exact ⟨.index n, hn, .index n⟩

/-! ## Reserved keys -/

def textBytes (text : String) : List UInt8 := text.toUTF8.toList

/-- Reserved words are in the order of their bytes. -/
theorem textBytes_le_of_isReserved {key key' : String} (h : isReserved key = true) (h' : isReserved key' = true)
    (hle : key ≤ key') : textBytes key ≤ textBytes key' := by
  have hall : ∀ word ∈ reservedWords, ∀ word' ∈ reservedWords, word ≤ word' → textBytes word ≤ textBytes word' := by
    decide +kernel
  exact hall key (mem_reservedWords h) key' (mem_reservedWords h') hle

theorem exists_reservedName {d : Dictionary V} (h : ∃ key ∈ d.keys, isReserved key = true) :
    ∃ key ∈ d.keys, isReserved key = true ∧ (∀ key' ∈ d.keys, isReserved key' = true → key ≤ key') ∧
      (Substitutions.named d).reservedName? = some key := by
  obtain ⟨key, hkey⟩ := Option.isSome_iff_exists.1 (List.find?_isSome.2 h)
  obtain ⟨hreserved, front, behind, hkeys, hfront⟩ := List.find?_eq_some_iff_append.1 hkey
  refine ⟨key, List.mem_of_find?_eq_some hkey, hreserved, fun key' hkey' hreserved' => ?_, hkey⟩
  have hsorted : d.keys.Pairwise (· < ·) := List.pairwise_map.2 d.sorted
  rw [hkeys] at hsorted hkey'
  rcases List.mem_append.1 hkey' with hin | hin
  · exact absurd hreserved' (by simpa using hfront key' hin)
  · rcases List.mem_cons.1 hin with rfl | hin
    · exact String.le_refl _
    · have hlt : key < key' := (List.pairwise_cons.1 (List.pairwise_append.1 hsorted).2.1).1 key' hin
      exact String.not_lt.1 (String.lt_asymm hlt)

/-! ## An equation for each root -/

def ViewRef.unitWidth (root : ViewRef) : Equation where
  left := ⟨⟨root, [], 0⟩, [.primitive .width]⟩
  relation := .equal
  priority := 1000
  right := { view := none, constants := [.value .one] }

theorem render_unitWidth (root : ViewRef) : root.unitWidth.render = "$" ++ root.render ++ ".width = 1" := by
  have hone : Number.one.text = "1" := by decide +kernel
  have hrest : AttributeName.renderList [.primitive .width] ++ " " ++ Relation.equal.symbol ++ renderPriority 1000 ++
      " " ++ "1" = ".width = 1" := by decide +kernel
  show "$" ++ root.render ++ "" ++ AttributeName.renderList [.primitive .width] ++ " " ++ Relation.equal.symbol ++
    renderPriority 1000 ++ " " ++ Number.one.text = _
  rw [hone, ← hrest]
  simp only [String.append_assoc, String.append_empty]

theorem wellFormed_unitWidth {root : ViewRef} (h : root.WellFormed) : root.unitWidth.WellFormed where
  view := ⟨h, fun word hword => by cases hword⟩
  attributes_ne_nil := List.cons_ne_nil _ _
  priority := ⟨by show 1 ≤ 1000; decide, Nat.le_refl _⟩
  right := ⟨List.cons_ne_nil _ _, fun _ => ⟨rfl, rfl⟩, fun _ => rfl, fun view hview => by cases hview⟩

theorem ofText_unitWidth {root : ViewRef} (h : root.WellFormed) :
    ∃ left right, Equation.ofText ("$" ++ root.render ++ ".width = 1") = .ok (root.unitWidth.placed left right) := by
  have hfinite : root.unitWidth.right.Finite := by
    have hone : Number.one.isFinite = true := by decide
    exact ⟨hone, fun c hc => by obtain rfl := List.mem_singleton.1 hc; exact hone⟩
  rw [← render_unitWidth]
  exact ofText_render (wellFormed_unitWidth h) hfinite

variable [DecidableEq V]

theorem compile_unitWidth {scope : Scope V} (hfree : scope.substitutions.Unreserved) {root : ViewRef} {view : V}
    (h : scope.substitutions.Finds root view) (left right : Nat) :
    (root.unitWidth.placed left right).compile scope =
      .ok [⟨view, .width, .equal, none, none, .one, .one, 1000⟩] := by
  have hresolve : scope.resolve ⟨root, [], left⟩ = .ok [view] :=
    (resolve_eq_ok_iff hfree (.found h)).2 (.cons (.here view) .nil)
  have hoperands : (root.unitWidth.placed left right).operands scope =
      .ok ⟨[view], [.width], none, [], [.value .one]⟩ := by
    show (scope.resolve ⟨root, [], left⟩ >>= _) = _
    rw [hresolve]
    rfl
  rw [Equation.compile, hoperands]
  rfl

/-! ## Keys and equations -/

theorem compileEquation_of_reservedName {scope : Scope V} {key src : String} {e : Equation}
    (h : scope.substitutions.reservedName? = some key) (he : Equation.ofText src = .ok e) :
    compileEquation scope src = .error (.resolve (.reservedName key)) := by
  have hresolve : scope.resolve e.left.view = .error (.reservedName key) := by
    rw [Scope.resolve, h]
  rw [compileEquation, he, ok_bind, Equation.compile, Equation.operands, hresolve]
  rfl

/-- Without reserved keys, a key of a dictionary can be addressed when it is an identifier or the decimal text of an
index in range, and then `$key.width = 1` is about the view under it. With reserved keys, every equation fails with the
first of them in the order of bytes. -/
theorem addressable_keys (d : Dictionary V) :
    ((Substitutions.named d).Unreserved → ∀ key view, (key, view) ∈ d.entries →
      ((∃ src e, Equation.ofText src = .ok e ∧ e.left.view.root.LooksUp key) ↔ IsViewKey key) ∧
      (IsViewKey key → ∀ receiver keyPaths, ∃ c : Constraint V, c.itemView = view ∧
        compileEquation ⟨receiver, .named d, keyPaths⟩ ("$" ++ key ++ ".width = 1") = .ok [c])) ∧
    ((∃ key ∈ d.keys, isReserved key = true) → ∃ key ∈ d.keys, isReserved key = true ∧
      (∀ key' ∈ d.keys, isReserved key' = true → textBytes key ≤ textBytes key') ∧
      ∀ receiver keyPaths src e, Equation.ofText src = .ok e →
        compileEquation ⟨receiver, .named d, keyPaths⟩ src = .error (.resolve (.reservedName key))) := by
  constructor
  · intro hfree key view hmem
    have hkey : isReserved key = false := hfree key (List.mem_map.2 ⟨_, hmem, rfl⟩)
    refine ⟨⟨?_, fun h => ?_⟩, fun h receiver keyPaths => ?_⟩
    · rintro ⟨src, e, he, hroot⟩
      exact hroot.isViewKey (wellFormed_of_ofText he).view.root
    · obtain ⟨root, hwf, hroot⟩ := h.exists_root hkey
      obtain ⟨left, right, htext⟩ := ofText_unitWidth hwf
      exact ⟨_, _, htext, hroot⟩
    · obtain ⟨root, hwf, hroot⟩ := h.exists_root hkey
      obtain ⟨left, right, htext⟩ := ofText_unitWidth hwf
      rw [hroot.render_eq] at htext
      have hcompile : (root.unitWidth.placed left right).compile ⟨receiver, .named d, keyPaths⟩ =
          .ok [⟨view, .width, .equal, none, none, .one, .one, 1000⟩] :=
        compile_unitWidth hfree (hroot.finds hmem) left right
      refine ⟨_, ?_, by rw [compileEquation, htext, ok_bind, hcompile]⟩
      rfl
  · intro h
    obtain ⟨key, hmem, hreserved, hleast, hname⟩ := exists_reservedName h
    refine ⟨key, hmem, hreserved, fun key' hmem' hreserved' => ?_, fun receiver keyPaths src e he => ?_⟩
    · exact textBytes_le_of_isReserved hreserved hreserved' (hleast key' hmem' hreserved')
    · exact compileEquation_of_reservedName hname he

/-- A word, an index, and a number that is not written like one. -/
def mixedViews : Dictionary Nat := .ofList [("box", 1), ("42", 2), ("007", 3)]

/-- Two reserved keys, of which the one that is given first comes last. -/
def takenViews : Dictionary Nat := .ofList [("top", 1), ("x", 2), ("all", 3)]

theorem addressable_keys_sample :
    ((Substitutions.named mixedViews).Unreserved ∧ IsViewKey "42" ∧
      (∃ c : Constraint Nat, c.itemView = 2 ∧
        compileEquation ⟨0, .named mixedViews, .none⟩ "$42.width = 1" = .ok [c]) ∧
      ("007", 3) ∈ mixedViews.entries ∧
      ¬ ∃ src e, Equation.ofText src = .ok e ∧ e.left.view.root.LooksUp "007") ∧
    (∃ key ∈ takenViews.keys, isReserved key = true) ∧ (∃ e, Equation.ofText "$x.width = $all.width" = .ok e) ∧
      compileEquation ⟨0, .named takenViews, .none⟩ "$x.width = $all.width" =
        .error (.resolve (.reservedName "all")) := by
  have hfree : (Substitutions.named mixedViews).Unreserved := by
    show ∀ key ∈ mixedViews.keys, isReserved key = false
    decide +kernel
  have hindex : ("42", 2) ∈ mixedViews.entries := by decide +kernel
  have hzeros : ("007", 3) ∈ mixedViews.entries := by decide +kernel
  have hkey : IsViewKey "42" := .inr ⟨42, by decide, by decide +kernel⟩
  have hnot : ¬ IsViewKey "007" := by
    rintro (hword | ⟨n, -, hn⟩)
    · exact absurd hword (by decide +kernel)
    · have hvalue := congrArg (fun text => Nat.ofDigitChars 10 text.toList 0) hn
      simp only [Nat.toList_repr, Nat.ofDigitChars_ten_toDigits] at hvalue
      rw [← hvalue] at hn
      exact absurd hn (by decide +kernel)
  have htaken : ∃ key ∈ takenViews.keys, isReserved key = true := ⟨"top", by decide +kernel, by decide⟩
  obtain ⟨e, he⟩ : ∃ e, Equation.ofText "$x.width = $all.width" = .ok e := by
    have hread : (Equation.ofText "$x.width = $all.width").isOk = true := by decide +kernel
    cases h : Equation.ofText "$x.width = $all.width" with
    | ok e => exact ⟨e, rfl⟩
    | error err =>
      rw [h] at hread
      cases hread
  refine ⟨⟨hfree, hkey, ?_, hzeros, ?_⟩, htaken, ⟨e, he⟩, ?_⟩
  · exact ((addressable_keys mixedViews).1 hfree _ _ hindex).2 hkey 0 .none
  · exact fun h => hnot (((addressable_keys mixedViews).1 hfree _ _ hzeros).1.1 h)
  · obtain ⟨key, hmem, hreserved, hleast, hfails⟩ := (addressable_keys takenViews).2 htaken
    have hall : "all" ∈ takenViews.keys := by decide +kernel
    have hsmallest : ∀ key ∈ takenViews.keys, textBytes key ≤ textBytes "all" → key = "all" := by decide +kernel
    obtain rfl := hsmallest key hmem (hleast "all" hall (by decide))
    exact hfails 0 .none _ e he

end LayoutEquations
