import Mathlib.Logic.Function.Defs
import LayoutEquations.Batch
import LayoutEquations.Proofs.Results

/-!
# Views are opaque

The library never looks into a view: it only asks whether a substitution view is the receiver. So when every view `v`
of a scope is renamed to `f v`, with different names for different views (`Scope.Renamed`), a reference stands for the
renamed views (`resolve_renamed`), alignment carries the names along (`align_mapViews`), and a batch has the renamed
constraints and the very same errors (`compile_renamed`).
-/

namespace LayoutEquations

variable {V W : Type} {f : V → W}

/-! ## Renamed scopes -/

/-- The dictionary with the image of each value under its key. -/
def Dictionary.map {α β : Type} (f : α → β) (d : Dictionary α) : Dictionary β :=
  ⟨d.entries.map (Prod.map id f), List.pairwise_map.2 d.sorted⟩

def Substitutions.map (f : V → W) : Substitutions V → Substitutions W
  | indexed views => indexed (views.map f)
  | named views => named (views.map f)

/-- The second scope is the first one with `f v` in place of each view `v`. What its key paths say of other views is
left open. -/
structure Scope.Renamed (f : V → W) (scope : Scope V) (scope' : Scope W) : Prop where
  receiver : scope'.receiver = f scope.receiver
  substitutions : scope'.substitutions = scope.substitutions.map f
  keyPaths : ∀ view key, scope'.keyPaths (f view) key = (scope.keyPaths view key).map f

theorem Dictionary.get?_map (d : Dictionary V) (key : String) : (d.map f).get? key = (d.get? key).map f := by
  show ((d.entries.map (Prod.map id f)).find? (·.1 == key)).map (·.2) = _
  rw [List.find?_map, Option.map_map, get?, Option.map_map]
  rfl

namespace Substitutions

theorem byIndex?_map (s : Substitutions V) (n : Nat) : (s.map f).byIndex? n = (s.byIndex? n).map f := by
  cases s with
  | indexed views => exact List.getElem?_map
  | named views => exact views.get?_map n.repr

theorem byName?_map (s : Substitutions V) (word : String) : (s.map f).byName? word = (s.byName? word).map f := by
  cases s with
  | indexed views => rfl
  | named views => exact views.get?_map word

theorem toList_map (s : Substitutions V) : (s.map f).toList = s.toList.map f := by
  cases s with
  | indexed views => rfl
  | named views =>
    show (views.entries.map (Prod.map id f)).map (·.2) = (views.entries.map (·.2)).map f
    rw [List.map_map, List.map_map]
    rfl

theorem reservedName?_map (s : Substitutions V) : (s.map f).reservedName? = s.reservedName? := by
  cases s with
  | indexed views => rfl
  | named views =>
    show ((views.entries.map (Prod.map id f)).map (·.1)).find? isReserved = _
    rw [List.map_map]
    rfl

end Substitutions

/-! ## Alignment -/

def Operands.mapViews (f : V → W) (o : Operands V) : Operands W where
  leftViews := o.leftViews.map f
  leftAttributes := o.leftAttributes
  rightViews := o.rightViews.map (List.map f)
  rightAttributes := o.rightAttributes
  constants := o.constants

def Target.mapViews (f : V → W) (t : Target V) : Target W where
  index := t.index
  itemView := f t.itemView
  itemAttribute := t.itemAttribute
  relatedView := t.relatedView.map f
  relatedAttribute := t.relatedAttribute
  constant := t.constant

theorem spread_map {α β : Type} (part : ListPart) (n : Nat) (g : α → β) (xs : List α) :
    spread part n (xs.map g) = (spread part n xs).map (List.map g) := by
  match xs with
  | [] => rfl
  | [x] => exact congrArg Except.ok List.map_replicate.symm
  | x :: y :: xs =>
    simp only [List.map_cons, spread, List.length_cons, List.length_map]
    split <;> rfl

namespace Operands

theorem items_mapViews (o : Operands V) : (o.mapViews f).items = o.items.map (Prod.map f id) := by
  simp only [items, mapViews, List.map_flatMap, List.map_map]
  rfl

theorem relatedAttributes_mapViews (o : Operands V) : (o.mapViews f).relatedAttributes = o.relatedAttributes := by
  rw [relatedAttributes, relatedAttributes, items_mapViews, List.map_map, List.length_map]
  rfl

theorem relatedViews_mapViews (o : Operands V) :
    (o.mapViews f).relatedViews = o.relatedViews.map (List.map (Option.map f)) := by
  rw [relatedViews, relatedViews, items_mapViews, List.length_map]
  rw [show (o.mapViews f).rightViews = o.rightViews.map (List.map f) from rfl]
  cases o.rightViews with
  | none => exact congrArg Except.ok (by rw [List.map_replicate]; rfl)
  | some views =>
    show Except.map _ (spread .rightViews o.items.length (views.map f)) =
      Except.map _ (Except.map _ (spread .rightViews o.items.length views))
    rw [spread_map]
    cases spread .rightViews o.items.length views with
    | error e => rfl
    | ok spreads =>
      show Except.ok ((spreads.map f).map some) = Except.ok ((spreads.map some).map (Option.map f))
      rw [List.map_map, List.map_map]
      rfl

theorem target?_mapViews (entry : ((V × Attribute) × Option V × Attribute × Constant) × Nat) :
    target? (Prod.map (Prod.map (Prod.map f id) (Prod.map (Option.map f) id)) id entry) =
      (target? entry).map (Target.mapViews f) := by
  obtain ⟨⟨item, view, a, c⟩, index⟩ := entry
  cases c with
  | value x => cases view <;> rfl
  | skip => rfl

/-- Alignment carries the views along. -/
theorem align_mapViews (o : Operands V) : (o.mapViews f).align = o.align.map (List.map (Target.mapViews f)) := by
  rw [align, align, items_mapViews, List.isEmpty_map, List.length_map, relatedAttributes_mapViews,
    relatedViews_mapViews]
  split
  · rfl
  · refine bind_eq_map_bind (congrFun Except.map_id _).symm fun attributes => ?_
    refine bind_eq_map_bind rfl fun views => ?_
    refine bind_eq_map_bind (congrFun Except.map_id _).symm fun constants => congrArg Except.ok ?_
    have hentries : (o.items.map (Prod.map f id)).zip ((views.map (Option.map f)).zip (attributes.zip constants)) =
        (o.items.zip (views.zip (attributes.zip constants))).map
          (Prod.map (Prod.map f id) (Prod.map (Option.map f) id)) := by
      rw [← List.zip_map, ← List.zip_map, List.map_id]
    rw [id_eq, id_eq, hentries, List.zipIdx_map, List.filterMap_map, List.map_filterMap]
    exact congrArg (List.filterMap · _) (funext target?_mapViews)

end Operands

/-! ## Outcomes -/

def Batch.mapViews (f : V → W) (b : Batch V) : Batch W := ⟨b.constraints.map (Constraint.mapViews f), b.errors⟩

def Outcome.mapViews (f : V → W) (o : Outcome V) : Outcome W :=
  ⟨o.index, o.equation, o.result.map (List.map (Constraint.mapViews f))⟩

theorem ofOutcomes_mapViews (os : List (Outcome V)) :
    Batch.ofOutcomes (os.map (Outcome.mapViews f)) = (Batch.ofOutcomes os).mapViews f := by
  have hconstraints : ∀ o : Outcome V, (o.mapViews f).constraints = o.constraints.map (Constraint.mapViews f) := by
    rintro ⟨index, equation, result⟩
    cases result <;> rfl
  have herror : ∀ o : Outcome V, (o.mapViews f).error? = o.error? := by
    rintro ⟨index, equation, result⟩
    cases result <;> rfl
  simp only [Batch.ofOutcomes, Batch.mapViews, List.flatMap_map, List.filterMap_map, List.map_flatMap,
    Function.comp_def, hconstraints, herror]

/-! ## References -/

variable {scope : Scope V} {scope' : Scope W}

theorem follow_renamed (h : scope.Renamed f scope') (view : V) (segments : List String) :
    follow scope'.keyPaths (f view) segments = (follow scope.keyPaths view segments).map f := by
  induction segments generalizing view with
  | nil => rfl
  | cons segment segments ih =>
    rw [follow, follow, h.keyPaths]
    cases scope.keyPaths view segment with
    | none => rfl
    | some next => exact ih next

theorem followPath_renamed (h : scope.Renamed f scope') (path : ViewPath) (view : V) :
    scope'.followPath path (f view) = (scope.followPath path view).map f := by
  rw [Scope.followPath, follow_renamed h, map_mapError]
  rfl

section Resolved

variable [DecidableEq V] [DecidableEq W]

/-- `$all` leaves out the views that are the receiver; renaming makes no other view the receiver. -/
theorem roots_renamed (hf : Function.Injective f) (h : scope.Renamed f scope') (root : ViewRef) :
    scope'.roots root = (scope.roots root).map (List.map f) := by
  cases root with
  | self => rw [Scope.roots, h.receiver]; rfl
  | all =>
    have hreceiver : ∀ view, decide (f view ≠ f scope.receiver) = decide (view ≠ scope.receiver) :=
      fun view => decide_eq_decide.2 (not_congr hf.eq_iff)
    rw [Scope.roots, h.substitutions, h.receiver, Substitutions.toList_map, List.filter_map]
    simp only [Function.comp_def, hreceiver]
    rfl
  | index n =>
    rw [Scope.roots, h.substitutions, Substitutions.byIndex?_map, Option.map_map, Scope.roots, Option.map_map]
    rfl
  | name word =>
    rw [Scope.roots, h.substitutions, Substitutions.byName?_map, Option.map_map, Scope.roots, Option.map_map]
    rfl

theorem resolve_renamed (hf : Function.Injective f) (h : scope.Renamed f scope') (path : ViewPath) :
    scope'.resolve path = (scope.resolve path).map (List.map f) := by
  rw [Scope.resolve, Scope.resolve, h.substitutions, Substitutions.reservedName?_map, roots_renamed hf h]
  cases scope.substitutions.reservedName? with
  | some key => rfl
  | none =>
    cases scope.roots path.root with
    | none => rfl
    | some roots => exact mapM_map (followPath_renamed h path) roots

/-! ## Batches -/

theorem operands_renamed (hf : Function.Injective f) (h : scope.Renamed f scope') (e : Equation) :
    e.operands scope' = (e.operands scope).map (Operands.mapViews f) := by
  refine bind_eq_map_bind (resolve_renamed hf h e.left.view) fun leftViews => ?_
  have hright : e.right.view.mapM scope'.resolve = (e.right.view.mapM scope.resolve).map (Option.map (List.map f)) := by
    cases e.right.view with
    | none => rfl
    | some path =>
      rw [Option.mapM_some, Option.mapM_some, resolve_renamed hf h]
      cases scope.resolve path <;> rfl
  exact bind_eq_map_bind hright fun rightViews => rfl

theorem equation_compile_renamed (hf : Function.Injective f) (h : scope.Renamed f scope') (e : Equation) :
    e.compile scope' = (e.compile scope).map (List.map (Constraint.mapViews f)) := by
  refine bind_eq_map_bind (by rw [operands_renamed hf h, map_mapError]) fun operands => ?_
  refine bind_eq_map_bind (by rw [Operands.align_mapViews, map_mapError]) fun targets => congrArg Except.ok ?_
  rw [List.map_map, List.map_map]
  rfl

theorem compileEquation_renamed (hf : Function.Injective f) (h : scope.Renamed f scope') (src : String) :
    compileEquation scope' src = (compileEquation scope src).map (List.map (Constraint.mapViews f)) :=
  bind_eq_map_bind (congrFun Except.map_id _).symm fun e => equation_compile_renamed hf h e

/-- With every view renamed, a batch has the same errors, and the same constraints between the renamed views. -/
theorem compile_renamed (hf : Function.Injective f) (h : scope.Renamed f scope') (equations : List String) :
    compile scope' equations = (compile scope equations).mapViews f := by
  have houtcomes : outcomes scope' equations = (outcomes scope equations).map (Outcome.mapViews f) := by
    rw [outcomes, outcomes, List.map_map]
    refine List.map_congr_left fun entry _ => ?_
    show Outcome.mk _ _ (compileEquation scope' entry.1) = _
    rw [compileEquation_renamed hf h]
    rfl
  rw [compile, compile, houtcomes, ofOutcomes_mapViews]

end Resolved

/-- Views under the names `a`, `b` and `x`, the receiver among them, each with a view under the property `k`. -/
def plainScope : Scope Nat where
  receiver := 0
  substitutions := .named (.ofList [("x", 1), ("a", 0), ("b", 2)])
  keyPaths view segment := if segment = "k" then some (view + 10) else none

/-- The same scope with marked views; a view without the mark leads to itself. -/
def markedScope : Scope (Nat × Bool) where
  receiver := (0, true)
  substitutions := plainScope.substitutions.map (·, true)
  keyPaths view segment := if view.2 then (plainScope.keyPaths view.1 segment).map (·, true) else some view

theorem compile_renamed_sample :
    let equations := ["$all.k.(top,size)=$x.left-3", "$a.left=$a.k.m.left", "$b.width=2", "$y.width=1"]
    Function.Injective (fun view : Nat => (view, true)) ∧ plainScope.Renamed (·, true) markedScope ∧
      compile markedScope equations = (compile plainScope equations).mapViews (·, true) ∧
      (compile plainScope equations).constraints.length = 7 ∧
      (compile markedScope equations).errors.map EquationError.error =
        [.resolve (.keyPathNotAView "m" 8), .resolve (.unknownView "y" 0)] := by
  intro equations
  have hf : Function.Injective (fun view : Nat => (view, true)) := fun _ _ h => congrArg Prod.fst h
  have hscope : plainScope.Renamed (·, true) markedScope := ⟨rfl, rfl, fun _ _ => rfl⟩
  exact ⟨hf, hscope, compile_renamed hf hscope equations, by decide +kernel, by decide +kernel⟩

end LayoutEquations
