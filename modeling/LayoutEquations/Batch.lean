import LayoutEquations.Compile
import LayoutEquations.Text.Quoted

/-!
# Batches of equations

A batch is compiled equation by equation; one that fails leaves the others alone. An `Outcome` is what became of the
equation at an index, and `Batch.ofOutcomes` gathers the constraints and the failures. Equations that are compiled side
by side give bare results: only when all of them are there, in the order of the equations, each result is put beside its
equation and counted (`Batch.ofResults`).
-/

namespace LayoutEquations

variable {V : Type}

/-! ## Failures -/

/-- The failure of the equation at an index. -/
structure EquationError where
  index : Nat
  equation : String
  error : CompileError
deriving DecidableEq

/-- The failure on one line. -/
def EquationError.text (e : EquationError) : String :=
  "equation " ++ e.index.repr ++ " (" ++ quoted e.equation ++ "): " ++ e.error.kind ++ " error: " ++
    e.error.message

/-! ## Outcomes -/

/-- What compiling an equation gives. -/
abbrev CompileResult (V : Type) := Except CompileError (List (Constraint V))

/-- What became of the equation at an index. -/
structure Outcome (V : Type) where
  index : Nat
  equation : String
  result : CompileResult V

namespace Outcome

def constraints (o : Outcome V) : List (Constraint V) :=
  match o.result with
  | .ok constraints => constraints
  | .error _ => []

def error? (o : Outcome V) : Option EquationError :=
  match o.result with
  | .ok _ => none
  | .error e => some ⟨o.index, o.equation, e⟩

end Outcome

/-- The outcome of one equation. -/
def Outcome.of [DecidableEq V] (scope : Scope V) (equation : String) (index : Nat) : Outcome V :=
  ⟨index, equation, compileEquation scope equation⟩

/-- The outcomes of a list of equations, in its order. -/
def outcomes [DecidableEq V] (scope : Scope V) (equations : List String) : List (Outcome V) :=
  equations.zipIdx.map fun (equation, index) => .of scope equation index

/-! ## Batches -/

/-- The constraints of the equations that compile and the failures of the others. -/
structure Batch (V : Type) where
  constraints : List (Constraint V)
  errors : List EquationError
deriving DecidableEq

namespace Batch

def isOk (b : Batch V) : Bool := b.errors.isEmpty

def ofOutcomes (os : List (Outcome V)) : Batch V :=
  ⟨os.flatMap Outcome.constraints, os.filterMap Outcome.error?⟩

/-- The batch of equations and their results, in the same order. -/
def ofResults (equations : List String) (results : List (CompileResult V)) : Batch V :=
  ofOutcomes ((equations.zip results).zipIdx.map fun ((equation, result), index) => ⟨index, equation, result⟩)

end Batch

variable [DecidableEq V]

def compile (scope : Scope V) (equations : List String) : Batch V :=
  .ofOutcomes (outcomes scope equations)

/-- The results of equations, each with the position of its equation, in the order in which they finish: `schedule`
lists the positions. -/
def arrivals (scope : Scope V) (equations : List String) (schedule : List Nat) : List (Nat × CompileResult V) :=
  schedule.filterMap fun i => equations[i]?.map fun equation => (i, compileEquation scope equation)

/-- Compiles the equations side by side: they finish in the order of the schedule, and `collect` makes a list of their
results out of those that have arrived. -/
def compileCollected (collect : List (Nat × CompileResult V) → List (CompileResult V)) (scope : Scope V)
    (equations : List String) (schedule : List Nat) : Batch V :=
  .ofResults equations (collect (arrivals scope equations schedule))

/-- Compiles each equation in a task of its own, and waits for the tasks one by one. -/
def compileParallel (scope : Scope V) (equations : List String) : Batch V :=
  let tasks := equations.map fun equation => Task.spawn fun _ => compileEquation scope equation
  .ofResults equations (tasks.map Task.get)

end LayoutEquations
