import Mathlib.Data.List.Basic
import LayoutEquations.Batch

/-!
# Batches, equation by equation

The outcome of an equation depends on its text and its index alone (`getElem?_outcomes`). So the batch of two lists of
equations is the batch of the one followed by that of the other, whose indices are moved (`compile_append`), and an
equation can be replaced without a change to what the others give (`compile_replace`). Equations that are compiled side
by side may finish in any order. As long as each result is put at the position of its equation (`KeepsPositions`), the
list of results is that of the equations one after the other (`collect_arrivals`), and so is the batch
(`compileCollected_eq`).
-/

namespace LayoutEquations

variable {V : Type}

/-! ## Batches one after the other -/

/-- The failure of an equation that stands `n` places further. -/
def EquationError.shift (n : Nat) (e : EquationError) : EquationError := { e with index := e.index + n }

def Outcome.shift (n : Nat) (o : Outcome V) : Outcome V := { o with index := o.index + n }

namespace Batch

instance : Append (Batch V) := ⟨fun b b' => ⟨b.constraints ++ b'.constraints, b.errors ++ b'.errors⟩⟩

def shift (n : Nat) (b : Batch V) : Batch V := ⟨b.constraints, b.errors.map (EquationError.shift n)⟩

theorem ofOutcomes_append (os os' : List (Outcome V)) :
    ofOutcomes (os ++ os') = ofOutcomes os ++ ofOutcomes os' := by
  show Batch.mk _ _ = Batch.mk _ _
  rw [List.flatMap_append, List.filterMap_append]
  rfl

theorem ofOutcomes_shift (n : Nat) (os : List (Outcome V)) :
    ofOutcomes (os.map (Outcome.shift n)) = (ofOutcomes os).shift n := by
  have herror : ∀ o : Outcome V, (o.shift n).error? = o.error?.map (EquationError.shift n) := by
    rintro ⟨index, equation, result⟩
    cases result <;> rfl
  have hconstraints : ∀ o : Outcome V, (o.shift n).constraints = o.constraints := fun _ => rfl
  simp only [ofOutcomes, shift, List.flatMap_map, List.filterMap_map, List.map_filterMap, Function.comp_def, herror,
    hconstraints]

end Batch

/-! ## Failures -/

theorem error?_eq_some_iff {o : Outcome V} {err : EquationError} :
    o.error? = some err ↔ o.index = err.index ∧ o.equation = err.equation ∧ o.result = .error err.error := by
  obtain ⟨index, equation, result⟩ := o
  obtain ⟨index', equation', error⟩ := err
  cases result <;> simp [Outcome.error?]

/-- Errors that are those of the equations on which `run` fails are absent when it does not fail. -/
theorem eq_nil_iff_of_mem_iff {α : Type} {run : String → Except CompileError α} {equations : List String}
    {errors : List EquationError}
    (hmem : ∀ err, err ∈ errors ↔ equations[err.index]? = some err.equation ∧ run err.equation = .error err.error) :
    errors = [] ↔ ∀ src ∈ equations, ∃ a, run src = .ok a := by
  rw [List.eq_nil_iff_forall_not_mem]
  constructor
  · intro h src hsrc
    obtain ⟨i, hi⟩ := List.mem_iff_getElem?.1 hsrc
    cases hrun : run src with
    | ok a => exact ⟨a, rfl⟩
    | error e => exact absurd ((hmem ⟨i, src, e⟩).2 ⟨hi, hrun⟩) (h _)
  · intro h err herr
    obtain ⟨hsrc, hrun⟩ := (hmem err).1 herr
    obtain ⟨a, ha⟩ := h err.equation (List.mem_of_getElem? hsrc)
    rw [ha] at hrun
    cases hrun

/-! ## Results in any order -/

/-- Whatever the order in which results arrive, `collect` puts each of them at its position. -/
def KeepsPositions {α : Type} (collect : List (Nat × α) → List α) : Prop :=
  ∀ arrived, (arrived.map Prod.fst).Perm (List.range arrived.length) →
    (collect arrived).length = arrived.length ∧ ∀ entry ∈ arrived, (collect arrived)[entry.1]? = some entry.2

theorem lookup_of_mem {α : Type} {arrived : List (Nat × α)} (hnodup : (arrived.map Prod.fst).Nodup) {entry : Nat × α}
    (h : entry ∈ arrived) : arrived.lookup entry.1 = some entry.2 := by
  obtain ⟨before, behind, rfl⟩ := List.append_of_mem h
  rw [List.map_append, List.map_cons, List.nodup_append] at hnodup
  refine List.lookup_eq_some_iff.2 ⟨before, behind, rfl, fun earlier hearlier => ?_⟩
  exact bne_iff_ne.2 (hnodup.2.2 _ (List.mem_map_of_mem hearlier) _ List.mem_cons_self).symm

theorem keepsPositions_lookup {α : Type} :
    KeepsPositions fun arrived : List (Nat × α) => (List.range arrived.length).filterMap (List.lookup · arrived) := by
  intro arrived hpositions
  have hlookup : ∀ entry ∈ arrived, arrived.lookup entry.1 = some entry.2 :=
    fun _ => lookup_of_mem (hpositions.nodup_iff.2 List.nodup_range)
  -- every position is asked for with success
  have hall : ((List.range arrived.length).filterMap (List.lookup · arrived)).map some =
      (List.range arrived.length).map (List.lookup · arrived) := by
    rw [List.map_filterMap_some_eq_filter_map_isSome]
    refine List.filter_eq_self.2 (List.forall_mem_map.2 fun i hi => ?_)
    obtain ⟨entry, hentry, rfl⟩ := List.mem_map.1 (hpositions.mem_iff.2 hi)
    rw [hlookup entry hentry]
    rfl
  refine ⟨by simpa using congrArg List.length hall, fun entry hentry => ?_⟩
  have hlt : entry.1 < arrived.length := List.mem_range.1 (hpositions.mem_iff.1 (List.mem_map_of_mem hentry))
  have hat := congrArg (·[entry.1]?) hall
  simp only [List.getElem?_map, List.getElem?_range hlt, Option.map_some, hlookup entry hentry] at hat
  obtain ⟨result, hresult, hsome⟩ := Option.map_eq_some_iff.1 hat
  rw [hresult, hsome]

/-! ## Outcomes and their places -/

variable [DecidableEq V]

theorem getElem?_outcomes (scope : Scope V) (equations : List String) (i : Nat) :
    (outcomes scope equations)[i]? = equations[i]?.map fun src => Outcome.of scope src i := by
  rw [outcomes, List.getElem?_map, List.getElem?_zipIdx, Option.map_map, Nat.zero_add]
  rfl

theorem length_outcomes (scope : Scope V) (equations : List String) :
    (outcomes scope equations).length = equations.length := by
  rw [outcomes, List.length_map, List.length_zipIdx]

theorem outcomes_append (scope : Scope V) (xs ys : List String) :
    outcomes scope (xs ++ ys) = outcomes scope xs ++ (outcomes scope ys).map (Outcome.shift xs.length) := by
  refine List.ext_getElem? fun i => ?_
  rw [getElem?_outcomes, List.getElem?_append, List.getElem?_append, length_outcomes]
  split
  · rw [getElem?_outcomes]
  · next hi =>
    have hindex : i - xs.length + xs.length = i := Nat.sub_add_cancel (Nat.le_of_not_lt hi)
    rw [List.getElem?_map, getElem?_outcomes, Option.map_map]
    refine congrArg (Option.map · _) (funext fun src => ?_)
    show _ = Outcome.mk (i - xs.length + xs.length) src (compileEquation scope src)
    rw [hindex]
    rfl

/-- A batch of two lists is the batch of the first followed by that of the second. -/
theorem compile_append (scope : Scope V) (xs ys : List String) :
    compile scope (xs ++ ys) = compile scope xs ++ (compile scope ys).shift xs.length := by
  rw [compile, outcomes_append, Batch.ofOutcomes_append, Batch.ofOutcomes_shift]
  rfl

/-- What the equations around `src` give does not depend on `src`. -/
theorem compile_replace (scope : Scope V) (xs ys : List String) (src : String) :
    compile scope (xs ++ src :: ys) =
      compile scope xs ++ Batch.ofOutcomes [.of scope src xs.length] ++ (compile scope ys).shift (xs.length + 1) := by
  have hsingle : (compile scope [src]).shift xs.length = Batch.ofOutcomes [.of scope src xs.length] := by
    rw [compile, ← Batch.ofOutcomes_shift]
    show Batch.ofOutcomes [Outcome.mk (0 + xs.length) src _] = _
    rw [Nat.zero_add]
    rfl
  rw [List.append_cons, compile_append, compile_append, hsingle, List.length_append, List.length_singleton]

/-! ## Constraints and failures -/

theorem constraints_compile (scope : Scope V) (equations : List String) :
    (compile scope equations).constraints =
      equations.flatMap fun src => (compileEquation scope src).toOption.getD [] := by
  have hconstraints : ∀ entry : String × Nat, (Outcome.of scope entry.1 entry.2).constraints =
      (compileEquation scope entry.1).toOption.getD [] := by
    intro entry
    dsimp only [Outcome.of, Outcome.constraints]
    cases compileEquation scope entry.1 <;> rfl
  show (equations.zipIdx.map fun entry => Outcome.of scope entry.1 entry.2).flatMap Outcome.constraints = _
  rw [List.flatMap_map, funext hconstraints,
    ← List.flatMap_map Prod.fst fun src => (compileEquation scope src).toOption.getD [], List.zipIdx_map_fst]

theorem mem_errors_compile {scope : Scope V} {equations : List String} {err : EquationError} :
    err ∈ (compile scope equations).errors ↔
      equations[err.index]? = some err.equation ∧ compileEquation scope err.equation = .error err.error := by
  show err ∈ (outcomes scope equations).filterMap Outcome.error? ↔ _
  rw [List.mem_filterMap]
  constructor
  · rintro ⟨o, ho, herr⟩
    obtain ⟨i, hi⟩ := List.mem_iff_getElem?.1 ho
    rw [getElem?_outcomes] at hi
    obtain ⟨src, hsrc, rfl⟩ := Option.map_eq_some_iff.1 hi
    obtain ⟨rfl, rfl, hresult⟩ := error?_eq_some_iff.1 herr
    exact ⟨hsrc, hresult⟩
  · rintro ⟨hsrc, hresult⟩
    refine ⟨.of scope err.equation err.index, List.mem_iff_getElem?.2 ⟨err.index, ?_⟩, ?_⟩
    · rw [getElem?_outcomes, hsrc, Option.map_some]
    · exact error?_eq_some_iff.2 ⟨rfl, rfl, hresult⟩

theorem index_outcomes (scope : Scope V) (equations : List String) :
    (outcomes scope equations).map Outcome.index = List.range equations.length := by
  rw [outcomes, List.map_map]
  show equations.zipIdx.map Prod.snd = _
  rw [List.zipIdx_map_snd, List.range_eq_range']

theorem pairwise_index_outcomes (scope : Scope V) (equations : List String) :
    (outcomes scope equations).Pairwise (·.index < ·.index) := by
  rw [← List.pairwise_map, index_outcomes]
  exact List.pairwise_lt_range

theorem pairwise_index_errors (scope : Scope V) (equations : List String) :
    (compile scope equations).errors.Pairwise (·.index < ·.index) := by
  refine (pairwise_index_outcomes scope equations).filterMap _ fun o o' hlt err herr err' herr' => ?_
  rw [← (error?_eq_some_iff.1 herr).1, ← (error?_eq_some_iff.1 herr').1]
  exact hlt

/-! ## The order of the equations restored -/

section Collected

variable {collect : List (Nat × CompileResult V) → List (CompileResult V)} {scope : Scope V} {equations : List String}
  {schedule : List Nat}

theorem map_fst_arrivals (h : ∀ i ∈ schedule, i < equations.length) :
    (arrivals scope equations schedule).map Prod.fst = schedule := by
  rw [arrivals, List.map_filterMap]
  refine (List.filterMap_congr fun i hi => ?_).trans List.filterMap_some
  rw [List.getElem?_eq_getElem (h i hi)]
  rfl

/-- The results are those of the equations, in the order of the equations. -/
theorem collect_arrivals (hcollect : KeepsPositions collect) (hschedule : schedule.Perm (List.range equations.length)) :
    collect (arrivals scope equations schedule) = equations.map (compileEquation scope) := by
  have hfst : (arrivals scope equations schedule).map Prod.fst = schedule :=
    map_fst_arrivals fun i hi => List.mem_range.1 (hschedule.mem_iff.1 hi)
  have hlength : (arrivals scope equations schedule).length = equations.length := by
    rw [← List.length_map Prod.fst, hfst, hschedule.length_eq, List.length_range]
  obtain ⟨hcollected, hplaced⟩ := hcollect (arrivals scope equations schedule) (by rwa [hfst, hlength])
  refine List.ext_getElem? fun i => ?_
  rw [List.getElem?_map]
  cases hsrc : equations[i]? with
  | none =>
    rw [Option.map_none, List.getElem?_eq_none_iff, hcollected, hlength]
    exact List.getElem?_eq_none_iff.1 hsrc
  | some src =>
    have hi : i ∈ schedule := hschedule.mem_iff.2 (List.mem_range.2 (List.getElem?_eq_some_iff.1 hsrc).1)
    have harrived : (i, compileEquation scope src) ∈ arrivals scope equations schedule :=
      List.mem_filterMap.2 ⟨i, hi, by rw [hsrc]; rfl⟩
    exact hplaced _ harrived

theorem ofResults_map (scope : Scope V) (equations : List String) :
    Batch.ofResults equations (equations.map (compileEquation scope)) = compile scope equations := by
  have hzip : equations.zip (equations.map (compileEquation scope)) =
      equations.map fun src => (src, compileEquation scope src) := by
    rw [List.zip_map_right, List.zip_eq_zipWith, List.zipWith_self, List.map_map]
    rfl
  rw [Batch.ofResults, hzip, List.zipIdx_map, List.map_map]
  rfl

theorem compileCollected_eq (hcollect : KeepsPositions collect)
    (hschedule : schedule.Perm (List.range equations.length)) :
    compileCollected collect scope equations schedule = compile scope equations := by
  rw [compileCollected, collect_arrivals hcollect hschedule, ofResults_map]

end Collected

theorem compileParallel_eq (scope : Scope V) (equations : List String) :
    compileParallel scope equations = compile scope equations := by
  have hresults : (equations.map fun src => Task.spawn fun _ => compileEquation scope src).map Task.get =
      equations.map (compileEquation scope) := by
    rw [List.map_map]
    rfl
  rw [compileParallel, hresults, ofResults_map]

/-! ## The batch as a whole -/

/-- A batch has the constraints of its equations one after the other, and one error with its index for each equation
that fails. So it can be split anywhere, an equation can be replaced without a change to the others, and for equations
that are compiled side by side the order in which they finish does not count. -/
theorem compile_isolates (scope : Scope V) :
    (∀ equations, (compile scope equations).constraints =
        equations.flatMap (fun src => (compileEquation scope src).toOption.getD []) ∧
      (∀ err, err ∈ (compile scope equations).errors ↔
        equations[err.index]? = some err.equation ∧ compileEquation scope err.equation = .error err.error) ∧
      (compile scope equations).errors.Pairwise (·.index < ·.index)) ∧
    (∀ xs ys, compile scope (xs ++ ys) = compile scope xs ++ (compile scope ys).shift xs.length) ∧
    (∀ xs src ys, compile scope (xs ++ src :: ys) =
      compile scope xs ++ Batch.ofOutcomes [.of scope src xs.length] ++ (compile scope ys).shift (xs.length + 1)) ∧
    (∀ equations, compileParallel scope equations = compile scope equations) ∧
    ∀ collect : List (Nat × CompileResult V) → List (CompileResult V), KeepsPositions collect → ∀ equations schedule,
      schedule.Perm (List.range equations.length) →
        compileCollected collect scope equations schedule = compile scope equations :=
  ⟨fun equations => ⟨constraints_compile scope equations, fun _ => mem_errors_compile,
    pairwise_index_errors scope equations⟩, compile_append scope, fun xs src ys => compile_replace scope xs ys src,
    compileParallel_eq scope, fun _ hcollect _ _ hschedule => compileCollected_eq hcollect hschedule⟩

/-- Two equations that compile around one that does not. -/
def sampleEquations : List String := ["$self.size=10", "$self.height==5", "$self.top=$0.top-2"]

theorem compile_isolates_sample :
    let scope : Scope String := ⟨"root", .indexed ["box"], .none⟩
    let collect := fun arrived : List (Nat × CompileResult String) =>
      (List.range arrived.length).filterMap (List.lookup · arrived)
    KeepsPositions collect ∧ [2, 0, 1].Perm (List.range sampleEquations.length) ∧
      compileCollected collect scope sampleEquations [2, 0, 1] = compile scope sampleEquations ∧
      (compile scope sampleEquations).constraints.length = 3 ∧
      (compile scope sampleEquations).errors =
        [⟨1, "$self.height==5", .parse (.expected .rightTerm (.relation .equal) 13)⟩] := by
  intro scope collect
  have hschedule : [2, 0, 1].Perm (List.range sampleEquations.length) := by decide
  have hcollected := (compile_isolates scope).2.2.2.2 collect keepsPositions_lookup sampleEquations [2, 0, 1] hschedule
  have hlength : (compile scope sampleEquations).constraints.length = 3 := by decide +kernel
  have herrors : (compile scope sampleEquations).errors =
      [⟨1, "$self.height==5", .parse (.expected .rightTerm (.relation .equal) 13)⟩] := by decide +kernel
  exact ⟨keepsPositions_lookup, hschedule, hcollected, hlength, herrors⟩

end LayoutEquations
