import LayoutEquations.Proofs.Compile.Scalar
import LayoutEquations.Proofs.View.References

/-!
# One equation for every substitution view

An equation with `$all` on its left stands for an equation with each of the other substitution views in its place. With
a right side that is the same for all targets (`RightTerm.Uniform`), an equation compiles when its references resolve
and there is a view on its left (`compile_uniform_iff`). So the equation for `$all` compiles when those for the single
views do (`compile_all_iff`), and its constraints are theirs, attribute by attribute (`compile_forViews`).
-/

namespace LayoutEquations

variable {V : Type} [DecidableEq V] {scope : Scope V}

/-- A right side that is the same for all targets: constants alone or one view, at most one attribute, one constant. -/
structure RightTerm.Uniform (t : RightTerm) : Prop where
  view : ∀ view ∈ t.view, view.root ≠ .all
  attributes : (AttributeName.expand t.attributes).length ≤ 1
  constants : t.constants.length = 1

namespace Equation

/-- The constraints of one target of an equation with a uniform right side. -/
def constraintsFor (e : Equation) (related : Option V) (view : V) (a : Attribute) : List (Constraint V) :=
  e.right.constants.flatMap fun c =>
    e.constraintsAt view related (a, (AttributeName.expand e.right.attributes).headD a, c)

def withRoot (e : Equation) (root : ViewRef) : Equation :=
  { e with left := { e.left with view := { e.left.view with root } } }

/-- The equation for one root and one attribute on the left. -/
def forView (e : Equation) (root : ViewRef) (a : Attribute) : Equation :=
  { e with left := ⟨{ e.left.view with root }, [.primitive a]⟩ }

end Equation

def Equation.operandsOf (e : Equation) (views : List V) (related : Option V) : Operands V where
  leftViews := views
  leftAttributes := AttributeName.expand e.left.attributes
  rightViews := related.map ([·])
  rightAttributes := AttributeName.expand e.right.attributes
  constants := e.right.constants

theorem related_of_mapM {right : Option ViewPath} (hright : ∀ view ∈ right, view.root ≠ .all)
    {views : Option (List V)} (h : right.mapM scope.resolve = .ok views) :
    ∃ related : Option V, views = related.map ([·]) := by
  cases right with
  | none =>
    cases h
    exact ⟨none, rfl⟩
  | some path =>
    rw [Option.mapM_some] at h
    cases hr : scope.resolve path with
    | error err =>
      rw [hr] at h
      cases h
    | ok rightViews =>
      rw [hr] at h
      cases h
      obtain ⟨view, rfl⟩ := resolve_eq_singleton (hright path rfl) hr
      exact ⟨some view, rfl⟩

/-- With a uniform right side, the views and the attributes of the left side are all that counts. -/
theorem compile_uniform_iff {d : Equation} (hd : d.right.Uniform) (hne : d.left.attributes ≠ [])
    {cs : List (Constraint V)} :
    d.compile scope = .ok cs ↔ ∃ views related, scope.resolve d.left.view = .ok views ∧ views ≠ [] ∧
      d.right.view.mapM scope.resolve = .ok (related.map ([·])) ∧
      cs = (AttributeName.expand d.left.attributes).flatMap fun a =>
        views.flatMap fun view => d.constraintsFor related view a := by
  obtain ⟨c, hc⟩ := List.length_eq_one_iff.1 hd.constants
  have has := AttributeName.expand_ne_nil hne
  have hcompile : ∀ views related, scope.resolve d.left.view = .ok views → views ≠ [] →
      d.right.view.mapM scope.resolve = .ok (related.map ([·])) →
      d.compile scope = .ok ((AttributeName.expand d.left.attributes).flatMap fun a =>
        views.flatMap fun view => d.constraintsFor related view a) := by
    intro views related hl hviews hr
    have ho : d.operands scope = .ok (d.operandsOf views related) := by
      rw [Equation.operands, hl, ok_bind, hr]
      rfl
    obtain ⟨targets, halign, htargets⟩ := align_of_uniform d (o := d.operandsOf views related)
      (items_ne_nil has hviews) rfl hd.attributes hc
    rw [compile_of_align ho halign, htargets]
    simp only [Operands.items, Equation.operandsOf, Equation.constraintsFor, hc, List.flatMap_assoc, List.flatMap_map,
      List.flatMap_singleton]
  constructor
  · intro h
    obtain ⟨o, ho, h'⟩ := bind_eq_ok.1 h
    obtain ⟨views, hl, ho⟩ := bind_eq_ok.1 (mapError_eq_ok.1 ho)
    obtain ⟨rightViews, hr, ho⟩ := bind_eq_ok.1 ho
    obtain ⟨related, rfl⟩ := related_of_mapM hd.view hr
    have hviews : views ≠ [] := by
      rintro rfl
      cases ho
      rw [align_of_no_views rfl] at h'
      cases h'
    refine ⟨views, related, hl, hviews, hr, ?_⟩
    rw [hcompile views related hl hviews hr] at h
    exact (Except.ok.inj h).symm
  · rintro ⟨views, related, hl, hviews, hr, rfl⟩
    exact hcompile views related hl hviews hr

/-- The equations for one view and one attribute each, attribute by attribute. -/
def Equation.forViews (e : Equation) (scope : Scope V) : List Equation :=
  (AttributeName.expand e.left.attributes).flatMap fun a => scope.others.map fun s => e.forView s.1 a

/-- An equation for `$all` compiles when it does for each of the views. -/
theorem compile_all_iff {e : Equation} (hne : e.left.attributes ≠ []) (hall : e.left.view.root = .all)
    (hright : e.right.Uniform) (hreserved : scope.substitutions.reservedName? = none) (hothers : scope.others ≠ []) :
    (∃ cs, e.compile scope = .ok cs) ↔ ∀ s ∈ scope.others, ∃ cs, (e.withRoot s.1).compile scope = .ok cs := by
  constructor
  · rintro ⟨cs, h⟩ s hs
    obtain ⟨views, related, hl, -, hr, -⟩ := (compile_uniform_iff hright hne).1 h
    obtain ⟨view, hview⟩ := exists_forall₂_iff.1 ⟨views, (resolve_all_eq_ok_iff hall hreserved).1 hl⟩ s hs
    exact ⟨_, (compile_uniform_iff (d := e.withRoot s.1) hright hne).2
      ⟨[view], related, hview, List.cons_ne_nil _ _, hr, rfl⟩⟩
  · intro h
    have hviews : ∀ s ∈ scope.others, ∃ view,
        scope.resolve { e.left.view with root := s.1 } = .ok [view] := by
      intro s hs
      obtain ⟨cs, hcs⟩ := h s hs
      obtain ⟨views, -, hl, -⟩ := (compile_uniform_iff (d := e.withRoot s.1) hright hne).1 hcs
      obtain ⟨view, rfl⟩ := resolve_eq_singleton (root_ne_all_of_mem_references (List.mem_of_mem_filter hs)) hl
      exact ⟨view, hl⟩
    obtain ⟨views, hforall⟩ := exists_forall₂_iff.2 hviews
    obtain ⟨s, others, hcons⟩ := List.exists_cons_of_ne_nil hothers
    obtain ⟨cs, hcs⟩ := h s (hcons ▸ List.mem_cons_self)
    obtain ⟨-, related, -, -, hr, -⟩ := (compile_uniform_iff (d := e.withRoot s.1) hright hne).1 hcs
    have hne' : views ≠ [] := by
      rintro rfl
      rw [hcons] at hforall
      cases hforall
    exact ⟨_, (compile_uniform_iff hright hne).2
      ⟨views, related, (resolve_all_eq_ok_iff hall hreserved).2 hforall, hne', hr, rfl⟩⟩

/-- Its constraints are those of the equations for one view and one attribute each. -/
theorem compile_forViews {e : Equation} (hne : e.left.attributes ≠ []) (hall : e.left.view.root = .all)
    (hright : e.right.Uniform) (hreserved : scope.substitutions.reservedName? = none) {cs : List (Constraint V)}
    (h : e.compile scope = .ok cs) :
    ∃ results, List.Forall₂ (fun d result => d.compile scope = .ok result) (e.forViews scope) results ∧
      cs = results.flatten := by
  obtain ⟨views, related, hl, -, hr, rfl⟩ := (compile_uniform_iff hright hne).1 h
  have hviews := (resolve_all_eq_ok_iff hall hreserved).1 hl
  refine ⟨(AttributeName.expand e.left.attributes).flatMap fun a =>
    views.map fun view => e.constraintsFor related view a, ?_, ?_⟩
  · refine List.rel_flatMap (R := Eq) (List.forall₂_refl _) ?_
    rintro a _ rfl
    rw [List.forall₂_map_left_iff, List.forall₂_map_right_iff]
    refine hviews.imp fun s view hview => ?_
    have hone : AttributeName.expand [.primitive a] = [a] := rfl
    refine (compile_uniform_iff (d := e.forView s.1 a) hright (List.cons_ne_nil _ _)).2
      ⟨[view], related, hview, List.cons_ne_nil _ _, hr, ?_⟩
    show _ = (AttributeName.expand [.primitive a]).flatMap _
    rw [hone, List.flatMap_singleton, List.flatMap_singleton]
    rfl
  · simp only [List.flatMap_def, List.flatten_flatten, List.map_map]
    rfl

/-- An equation for `$all` means an equation for each substitution view but the receiver. Where there is none, it has
no targets, unless its right side does not resolve, which is found first. -/
theorem compile_all_eq_forViews {src : String} {e : Equation} (h : Equation.ofText src = .ok e)
    (hall : e.left.view.root = .all) (hright : e.right.Uniform) (scope : Scope V)
    (hreserved : scope.substitutions.reservedName? = none) :
    (scope.others = [] → (∀ view ∈ e.right.view, ∃ views, scope.resolve view = .ok views) →
      e.compile scope = .error (.align (.empty .leftTargets))) ∧
    (scope.others = [] → ∀ view ∈ e.right.view, ∀ err, scope.resolve view = .error err →
      e.compile scope = .error (.resolve err)) ∧
    (scope.others ≠ [] →
      ((∃ cs, e.compile scope = .ok cs) ↔ ∀ s ∈ scope.others, ∃ cs, (e.withRoot s.1).compile scope = .ok cs) ∧
      ∀ cs, e.compile scope = .ok cs → ∃ results,
        List.Forall₂ (fun d result => d.compile scope = .ok result) (e.forViews scope) results ∧
        cs = results.flatten) := by
  have hne := (wellFormed_of_ofText h).attributes_ne_nil
  have hempty : scope.others = [] → scope.resolve e.left.view = .ok [] := by
    intro hothers
    rw [resolve_all_eq_ok_iff hall hreserved, hothers]
    exact .nil
  refine ⟨fun hothers hresolves => ?_, fun hothers view hview err herr => ?_, fun hothers =>
    ⟨compile_all_iff hne hall hright hreserved hothers, fun cs => compile_forViews hne hall hright hreserved⟩⟩
  · cases hv : e.right.view with
    | none =>
      have ho : e.operands scope = .ok (e.operandsOf [] none) := by
        rw [Equation.operands, hempty hothers, ok_bind, hv]
        rfl
      exact compile_of_align_error ho (align_of_no_views rfl)
    | some path =>
      obtain ⟨views, hpath⟩ := hresolves path hv
      obtain ⟨related, rfl⟩ := resolve_eq_singleton (hright.view path hv) hpath
      have ho : e.operands scope = .ok (e.operandsOf [] (some related)) := by
        rw [Equation.operands, hempty hothers, ok_bind, hv, Option.mapM_some, hpath]
        rfl
      exact compile_of_align_error ho (align_of_no_views rfl)
  · have hv : e.right.view = some view := hview
    refine compile_of_operands_error ?_
    rw [Equation.operands, hempty hothers, ok_bind, hv, Option.mapM_some, herr]
    rfl

def everyEquation : Equation where
  left := ⟨⟨.all, ["k"], 0⟩, [.primitive .top, .size]⟩
  relation := .equal
  priority := 1000
  right :=
    { view := some ⟨.name "x", [], 18⟩, attributes := [.primitive .left], constants := [.value (-.ofNat 3)] }

/-- Views under the names `a`, `b` and `x`, the receiver among them, each with a view under the property `k`. -/
def namedScope : Scope Nat where
  receiver := 0
  substitutions := .named (.ofList [("x", 1), ("a", 0), ("b", 2)])
  keyPaths view segment := if segment = "k" then some (view + 10) else none

theorem uniform_everyEquation : everyEquation.right.Uniform := ⟨by decide, by decide, rfl⟩

theorem compile_all_eq_forViews_sample :
    Equation.ofText "$all.k.(top,size)=$x.left-3" = .ok everyEquation ∧
      namedScope.others.map (·.1) = [.name "b", .name "x"] ∧
      (∀ s ∈ namedScope.others, ∃ cs, (everyEquation.withRoot s.1).compile namedScope = .ok cs) ∧
      ∃ results, List.Forall₂ (fun d result => d.compile namedScope = .ok result)
        (everyEquation.forViews namedScope) results ∧
        everyEquation.compile namedScope = .ok results.flatten ∧ results.flatten.length = 6 := by
  have htext : Equation.ofText "$all.k.(top,size)=$x.left-3" = .ok everyEquation := by decide +kernel
  have hothers : namedScope.others.map (·.1) = [.name "b", .name "x"] := by decide +kernel
  have hne : namedScope.others ≠ [] := by
    intro hnil
    rw [hnil] at hothers
    cases hothers
  have hlength : (everyEquation.compile namedScope).map List.length = .ok 6 := by decide +kernel
  obtain ⟨hiff, hresults⟩ :=
    (compile_all_eq_forViews htext rfl uniform_everyEquation namedScope (by decide +kernel)).2.2 hne
  cases hcompile : everyEquation.compile namedScope with
  | error err =>
    rw [hcompile] at hlength
    cases hlength
  | ok cs =>
    rw [hcompile] at hlength
    obtain ⟨results, hforall, rfl⟩ := hresults cs hcompile
    exact ⟨htext, hothers, hiff.1 ⟨_, hcompile⟩, results, hforall, rfl, Except.ok.inj hlength⟩

def danglingEquation : Equation where
  left := ⟨⟨.all, [], 0⟩, [.primitive .width]⟩
  relation := .equal
  priority := 1000
  right := { view := some ⟨.name "x", [], 11⟩, attributes := [.primitive .width] }

/-- A receiver without substitution views. -/
def lonelyScope : Scope Nat := ⟨0, .indexed [], .none⟩

/-- Without substitution views nothing is asked of the single equations, but the right side may still not resolve. -/
theorem not_compile_all_iff_of_others_nil :
    Equation.ofText "$all.width=$x.width" = .ok danglingEquation ∧ danglingEquation.left.view.root = .all ∧
      danglingEquation.right.Uniform ∧ lonelyScope.substitutions.reservedName? = none ∧
      ¬ (∀ view ∈ danglingEquation.right.view, ∃ views, lonelyScope.resolve view = .ok views) ∧
      ¬ ((∃ cs, danglingEquation.compile lonelyScope = .ok cs) ↔
        ∀ s ∈ lonelyScope.others, ∃ cs, (danglingEquation.withRoot s.1).compile lonelyScope = .ok cs) := by
  have htext : Equation.ofText "$all.width=$x.width" = .ok danglingEquation := by decide +kernel
  have huniform : danglingEquation.right.Uniform := ⟨by decide, by decide, rfl⟩
  refine ⟨htext, rfl, huniform, rfl, fun h => ?_, fun h => ?_⟩
  · obtain ⟨views, hviews⟩ := h _ rfl
    cases hviews
  · obtain ⟨cs, hcs⟩ := h.2 fun s hs => (by cases hs)
    cases hcs

end LayoutEquations
