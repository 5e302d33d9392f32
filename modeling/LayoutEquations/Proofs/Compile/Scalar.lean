import LayoutEquations.Proofs.Alignment
import LayoutEquations.Proofs.Equation.WellFormed

/-!
# An equation as a batch of scalar equations

`Equation.scalars` are the equations of one attribute each that an equation between single views stands for: its
expanded attributes one by one, with the related attribute and the constant that go with each. They have the views of
the equation, so they resolve as it does (`resolvesTo_or_error`), and where its lists fit, its constraints are theirs
in order (`compile_of_listsFit`).
-/

namespace LayoutEquations

variable {V : Type}

/-! ## Scalar equations -/

namespace Equation

/-- The equation of target `i` alone, whose attribute is `a`. -/
def scalar (e : Equation) (i : Nat) (a : Attribute) : Equation :=
  { e with
    left := { e.left with attributes := [.primitive a] }
    right := { e.right with
      attributes := (entryAt (AttributeName.expand e.right.attributes) i).map .primitive
      constants := entryAt e.right.constants i } }

def scalars (e : Equation) : List Equation :=
  (AttributeName.expand e.left.attributes).mapIdx e.scalar

def SameViews (d e : Equation) : Prop := d.left.view = e.left.view ∧ d.right.view = e.right.view

theorem sameViews_scalar (e : Equation) (i : Nat) (a : Attribute) : (e.scalar i a).SameViews e := ⟨rfl, rfl⟩

/-- Do the lists of the right side fit the targets? -/
def ListsFit (e : Equation) : Prop :=
  let n := (AttributeName.expand e.left.attributes).length
  let related := AttributeName.expand e.right.attributes
  (related = [] ∨ Fits n related) ∧ Fits n e.right.constants

instance (e : Equation) : Decidable e.ListsFit := inferInstanceAs (Decidable (_ ∧ _))

end Equation

/-! ## References to single views -/

variable [DecidableEq V] {scope : Scope V}

theorem resolve_eq_singleton {path : ViewPath} (hroot : path.root ≠ .all) {views : List V}
    (h : scope.resolve path = .ok views) : ∃ view, views = [view] := by
  have hroots : ∀ roots, scope.roots path.root = some roots → ∃ root, roots = [root] := by
    intro roots hroots
    cases hp : path.root with
    | self =>
      rw [hp] at hroots
      cases hroots
      exact ⟨_, rfl⟩
    | all => exact absurd hp hroot
    | index n =>
      rw [hp] at hroots
      obtain ⟨view, -, rfl⟩ := Option.map_eq_some_iff.1 hroots
      exact ⟨view, rfl⟩
    | name word =>
      rw [hp] at hroots
      obtain ⟨view, -, rfl⟩ := Option.map_eq_some_iff.1 hroots
      exact ⟨view, rfl⟩
  unfold Scope.resolve at h
  split at h
  · cases h
  · split at h
    · cases h
    · next roots hsome =>
      obtain ⟨root, rfl⟩ := hroots roots hsome
      rw [List.mapM_cons, bind_eq_ok] at h
      obtain ⟨view, -, h⟩ := h
      rw [List.mapM_nil] at h
      cases h
      exact ⟨view, rfl⟩

/-- The references of the equation, and of every equation with the same ones, stand for these single views. -/
def Equation.ResolvesTo (e : Equation) (scope : Scope V) (view : V) (related : Option V) : Prop :=
  ∀ d : Equation, d.SameViews e → d.operands scope = .ok (.ofViews view related
    (AttributeName.expand d.left.attributes) (AttributeName.expand d.right.attributes) d.right.constants)

/-- Equations with the same references to single views have the same views or the same error. -/
theorem resolvesTo_or_error (e : Equation) (hleft : e.left.view.root ≠ .all)
    (hright : ∀ view ∈ e.right.view, view.root ≠ .all) (scope : Scope V) :
    (∃ err, ∀ d : Equation, d.SameViews e → d.operands scope = .error err) ∨
      ∃ view related, e.ResolvesTo scope view related := by
  cases hl : scope.resolve e.left.view with
  | error err =>
    refine Or.inl ⟨err, fun d hd => ?_⟩
    rw [Equation.operands, hd.1, hl, error_bind]
  | ok leftViews =>
    obtain ⟨view, rfl⟩ := resolve_eq_singleton hleft hl
    cases hv : e.right.view with
    | none =>
      refine Or.inr ⟨view, none, fun d hd => ?_⟩
      rw [Equation.operands, hd.1, hl, hd.2, hv]
      rfl
    | some path =>
      cases hr : scope.resolve path with
      | error err =>
        refine Or.inl ⟨err, fun d hd => ?_⟩
        rw [Equation.operands, hd.1, hl, hd.2, hv, ok_bind, Option.mapM_some, hr]
        rfl
      | ok rightViews =>
        obtain ⟨related, rfl⟩ := resolve_eq_singleton (hright path hv) hr
        refine Or.inr ⟨view, some related, fun d hd => ?_⟩
        rw [Equation.operands, hd.1, hl, hd.2, hv, ok_bind, Option.mapM_some, hr]
        rfl

theorem operands_ok_of_resolve {e : Equation} {views : List V} (hl : scope.resolve e.left.view = .ok views)
    (hr : ∀ path ∈ e.right.view, ∃ views, scope.resolve path = .ok views) : ∃ o, e.operands scope = .ok o := by
  rw [Equation.operands, hl, ok_bind]
  cases hv : e.right.view with
  | none => exact ⟨_, rfl⟩
  | some path =>
    obtain ⟨views, hpath⟩ := hr path hv
    rw [Option.mapM_some, hpath]
    exact ⟨_, rfl⟩

/-! ## Compiling -/

theorem compile_of_operands_error {d : Equation} {err : ResolveError} (h : d.operands scope = .error err) :
    d.compile scope = .error (.resolve err) := by
  rw [Equation.compile, h]
  rfl

theorem compile_of_align {d : Equation} {o : Operands V} {targets : List (Target V)} (ho : d.operands scope = .ok o)
    (ht : o.align = .ok targets) : d.compile scope = .ok (targets.map d.constraint) := by
  rw [Equation.compile, ho, mapError_ok, ok_bind, ht]
  rfl

theorem compile_of_align_error {d : Equation} {o : Operands V} {err : AlignError} (ho : d.operands scope = .ok o)
    (ht : o.align = .error err) : d.compile scope = .error (.align err) := by
  rw [Equation.compile, ho, mapError_ok, ok_bind, ht]
  rfl

theorem compile_scalar {e : Equation} {view : V} {related : Option V} (hviews : e.ResolvesTo scope view related)
    {bs : List Attribute} {cs : List Constant} {i : Nat} {a : Attribute}
    (hbs : (Operands.ofViews view related [a] (entryAt (AttributeName.expand e.right.attributes) i)
      (entryAt e.right.constants i)).relatedAttributes = .ok bs)
    (hcs : spread .constants 1 (entryAt e.right.constants i) = .ok cs) :
    (e.scalar i a).compile scope = .ok (([a].zip (bs.zip cs)).flatMap (e.constraintsAt view related)) := by
  have hoperands := hviews _ (e.sameViews_scalar i a)
  rw [show AttributeName.expand (e.scalar i a).right.attributes = _ from AttributeName.expand_primitive _] at hoperands
  obtain ⟨targets, halign, htargets⟩ := align_ofViews (e.scalar i a) view related (List.cons_ne_nil _ _) hbs hcs
  rw [compile_of_align hoperands halign, htargets]
  rfl

/-- Where the views resolve and the lists fit, the constraints of an equation are those of its scalar equations. -/
theorem compile_of_listsFit {e : Equation} (hne : e.left.attributes ≠ []) (hcs : e.right.constants ≠ [])
    (hfit : e.ListsFit) {view : V} {related : Option V} (hviews : e.ResolvesTo scope view related) :
    ∃ results, List.Forall₂ (fun d cs => d.compile scope = .ok cs) e.scalars results ∧
      e.compile scope = .ok results.flatten := by
  have has := AttributeName.expand_ne_nil hne
  obtain ⟨bs, hbs, hlength, hrelated⟩ := relatedAttributes_of_fits view related e.right.constants hfit.1
  obtain ⟨cs, hspread, hlength', hconstant⟩ := spread_of_fits .constants hcs hfit.2
  refine ⟨((AttributeName.expand e.left.attributes).zip (bs.zip cs)).map (e.constraintsAt view related), ?_, ?_⟩
  · refine List.forall₂_iff_get.2 ⟨by simp [Equation.scalars, hlength, hlength'], fun i hi hi' => ?_⟩
    have hi : i < (AttributeName.expand e.left.attributes).length := by simpa [Equation.scalars] using hi
    have hib : i < bs.length := by omega
    have hic : i < cs.length := by omega
    have hspread : spread .constants 1 (entryAt e.right.constants i) = .ok [cs[i]] := by
      rw [hconstant i hic]
      rfl
    have := compile_scalar hviews (hrelated i hi hib _) hspread
    simpa [Equation.scalars] using this
  · obtain ⟨targets, halign, htargets⟩ := align_ofViews e view related has hbs hspread
    rw [compile_of_align (hviews e ⟨rfl, rfl⟩) halign, htargets, List.flatMap_def]

/-- An equation between single views means the batch of its scalar equations: the constraints of one after the other,
or the error that all of them have. Where the views resolve but a list does not fit, it is refused. -/
theorem compile_eq_scalars {src : String} {e : Equation} (h : Equation.ofText src = .ok e)
    (hleft : e.left.view.root ≠ .all) (hright : ∀ view ∈ e.right.view, view.root ≠ .all) (scope : Scope V) :
    (e.ListsFit →
      (∃ results, List.Forall₂ (fun d cs => d.compile scope = .ok cs) e.scalars results ∧
        e.compile scope = .ok results.flatten) ∨
      ∃ err, e.compile scope = .error (.resolve err) ∧ ∀ d ∈ e.scalars, d.compile scope = .error (.resolve err)) ∧
    (¬ e.ListsFit → (∃ views, scope.resolve e.left.view = .ok views) →
      (∀ view ∈ e.right.view, ∃ views, scope.resolve view = .ok views) →
      let n := (AttributeName.expand e.left.attributes).length
      let related := AttributeName.expand e.right.attributes
      e.compile scope = .error (.align (if related = [] ∨ Fits n related
        then .sizeMismatch .constants n e.right.constants.length
        else .sizeMismatch .rightAttributes n related.length))) := by
  have hwf := wellFormed_of_ofText h
  rcases resolvesTo_or_error e hleft hright scope with ⟨err, herror⟩ | ⟨view, related, hviews⟩
  · refine ⟨fun _ => Or.inr ⟨err, compile_of_operands_error (herror e ⟨rfl, rfl⟩), fun d hd => ?_⟩,
      fun _ ⟨views, hl⟩ hr => ?_⟩
    · obtain ⟨i, hi, rfl⟩ := List.mem_mapIdx.1 hd
      exact compile_of_operands_error (herror _ (e.sameViews_scalar i _))
    · obtain ⟨o, ho⟩ := operands_ok_of_resolve hl hr
      rw [herror e ⟨rfl, rfl⟩] at ho
      cases ho
  · refine ⟨fun hfit => Or.inl (compile_of_listsFit hwf.attributes_ne_nil hwf.right.constants_ne_nil hfit hviews),
      fun hfit _ _ => ?_⟩
    have halign := align_ofViews_of_not_fits view related (AttributeName.expand_ne_nil hwf.attributes_ne_nil)
      hwf.right.constants_ne_nil hfit
    exact compile_of_align_error (hviews e ⟨rfl, rfl⟩) halign

/-- What `$self.(size,left)=$1.k.(center,top)+(1,-,3)` spells: three targets, of which the second is skipped. -/
def listEquation : Equation where
  left := ⟨⟨.self, [], 0⟩, [.size, .primitive .left]⟩
  relation := .equal
  priority := 1000
  right :=
    { view := some ⟨.index 1, ["k"], 18⟩, attributes := [.center, .primitive .top],
      constants := [.value .one, .skip, .value (.ofNat 3)] }

/-- What `$self.size=$1+(1,-,3)` spells: two targets and three constants. -/
def misfitEquation : Equation where
  left := ⟨⟨.self, [], 0⟩, [.size]⟩
  relation := .equal
  priority := 1000
  right := { view := some ⟨.index 1, [], 11⟩, constants := [.value .one, .skip, .value (.ofNat 3)] }

/-- Two substitution views, each with a view under the property `k`. -/
def pairScope : Scope Nat where
  receiver := 0
  substitutions := .indexed [1, 2]
  keyPaths view segment := if segment = "k" then some (view + 10) else none

theorem compile_eq_scalars_sample :
    (Equation.ofText "$self.(size,left)=$1.k.(center,top)+(1,-,3)" = .ok listEquation ∧
      listEquation.left.view.root ≠ .all ∧ (∀ view ∈ listEquation.right.view, view.root ≠ .all) ∧
      listEquation.ListsFit ∧
      ∃ results, List.Forall₂ (fun d cs => d.compile pairScope = .ok cs) listEquation.scalars results ∧
        listEquation.compile pairScope = .ok results.flatten ∧ results.flatten.length = 2) ∧
    Equation.ofText "$self.size=$1+(1,-,3)" = .ok misfitEquation ∧ ¬ misfitEquation.ListsFit ∧
      misfitEquation.compile pairScope = .error (.align (.sizeMismatch .constants 2 3)) := by
  have hlist : Equation.ofText "$self.(size,left)=$1.k.(center,top)+(1,-,3)" = .ok listEquation := by decide +kernel
  have hfit : listEquation.ListsFit := by decide
  have hmisfit : Equation.ofText "$self.size=$1+(1,-,3)" = .ok misfitEquation := by decide +kernel
  have hnot : ¬ misfitEquation.ListsFit := by decide
  have hright : ∀ view ∈ listEquation.right.view, view.root ≠ .all := by decide
  have hright' : ∀ view ∈ misfitEquation.right.view, view.root ≠ .all := by decide
  refine ⟨⟨hlist, by decide, hright, hfit, ?_⟩, hmisfit, hnot, ?_⟩
  · have hlength : (listEquation.compile pairScope).map List.length = .ok 2 := by decide +kernel
    rcases (compile_eq_scalars hlist (by decide) hright pairScope).1 hfit with
      ⟨results, hscalars, hcompile⟩ | ⟨err, herror, -⟩
    · rw [hcompile] at hlength
      exact ⟨results, hscalars, hcompile, Except.ok.inj hlength⟩
    · rw [herror] at hlength
      cases hlength
  · have hleft : ∃ views, pairScope.resolve misfitEquation.left.view = .ok views := ⟨[0], by decide +kernel⟩
    refine (compile_eq_scalars hmisfit (by decide) hright' pairScope).2 hnot hleft fun view hview => ?_
    obtain rfl := Option.some.inj hview
    exact ⟨[2], by decide +kernel⟩

end LayoutEquations
