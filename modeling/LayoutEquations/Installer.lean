import LayoutEquations.Batch
import LayoutEquations.EdgeInsets

/-!
# Installing constraints

An `Installer` is a host that can activate a constraint and insert a view into its hierarchy, and that may refuse
either. `addEquations` compiles a batch and offers the host every constraint once, in order; a refusal does not stop
the rest. `addSubview` inserts a view and pins its edges. `recording` is the host that only writes down what it
accepts.
-/

namespace LayoutEquations

variable {σ ε V : Type}

/-- A host with states `σ`, views `V` and refusals `ε`. -/
structure Installer (σ ε V : Type) where
  install : Constraint V → ExceptT ε (StateM σ) Unit
  /-- Inserts a view, given behind its superview, into the hierarchy. -/
  insertSubview : V → V → ExceptT ε (StateM σ) Unit

/-! ## Offering constraints -/

/-- What a host answered to each constraint. -/
abbrev Answers (ε V : Type) := List (Constraint V × Except ε Unit)

namespace Answers

/-- The number of constraints that were accepted. -/
def installed (as : Answers ε V) : Nat := as.countP fun a => a.2.isOk

/-- The constraints that were refused, with the host's reasons. -/
def refused (as : Answers ε V) : List (Constraint V × ε) :=
  as.filterMap fun a => match a.2 with
    | .ok () => none
    | .error e => some (a.1, e)

end Answers

/-- Offers the host each constraint in turn. -/
def Installer.offer (host : Installer σ ε V) (constraints : List (Constraint V)) : StateM σ (Answers ε V) :=
  constraints.mapM fun c => return (c, ← (host.install c).run)

/-! ## Equations and subviews -/

/-- What became of a batch of equations at a host. -/
structure InstallReport (ε V : Type) where
  installed : Nat
  compileErrors : List EquationError
  installFailures : List (Constraint V × ε)

def InstallReport.isOk (r : InstallReport ε V) : Bool :=
  r.compileErrors.isEmpty && r.installFailures.isEmpty

variable [DecidableEq V]

/-- Compiles equations and offers the host all their constraints. -/
def addEquations (host : Installer σ ε V) (scope : Scope V) (equations : List String) :
    StateM σ (InstallReport ε V) := do
  let batch := compile scope equations
  let answers ← host.offer batch.constraints
  return ⟨answers.installed, batch.errors, answers.refused⟩

/-- Inserts a subview and pins its edges. When the host refuses the view, it is offered no constraint. -/
def addSubview (host : Installer σ ε V) (superview subview : V) (insets : EdgeInsets) :
    ExceptT ε (StateM σ) (InstallReport ε V) := do
  host.insertSubview superview subview
  addEquations host (EdgeInsets.scope superview subview) [insets.equation]

/-! ## A host that records -/

/-- Accepted constraints, and accepted views behind their superviews. -/
structure Recording (V : Type) where
  constraints : List (Constraint V) := []
  hierarchy : List (V × V) := []

/-- Records what it does not refuse; a refusal changes nothing. -/
def recording (refuseConstraint : Constraint V → Option ε) (refuseSubview : V → V → Option ε) :
    Installer (Recording V) ε V where
  install c := match refuseConstraint c with
    | some e => throw e
    | none => modify fun r => { r with constraints := r.constraints ++ [c] }
  insertSubview superview subview := match refuseSubview superview subview with
    | some e => throw e
    | none => modify fun r => { r with hierarchy := r.hierarchy ++ [(superview, subview)] }

/-- Records everything. -/
def recordingAll : Installer (Recording V) Empty V := recording (fun _ => none) fun _ _ => none

end LayoutEquations
