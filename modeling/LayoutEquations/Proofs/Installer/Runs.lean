import LayoutEquations.Proofs.Installer

/-!
# Runs of steps on a host

A `HostStep` compiles a batch of equations for a host or pins a subview in it; a run performs one step after the other.
`Asked host s t s'` says that the host, asked the requests of the transcript `t` in turn from state `s` on, gives the
answers that stand beside them and ends in state `s'`. Every run is such a transcript, and `Exchange.Faithful` says
what each step puts into it and reports: a request for each constraint of its batch, once, in order, whatever the
answers (`perform_faithful`, and for runs `performAll_faithful`). What a host records that keeps what it accepts is
then known from the transcript (`Asked.recorded`).
-/

namespace LayoutEquations

variable {σ ε V : Type} {host : Installer σ ε V} {s s' s'' : σ}

/-! ## Transcripts -/

def Request.constraint? : Request V → Option (Constraint V)
  | .install c => some c
  | .insertSubview .. => none

/-- The subview that a request is about, behind its superview. -/
def Request.insertion? : Request V → Option (V × V)
  | .install _ => none
  | .insertSubview superview subview => some (superview, subview)

/-- Requests with the answers to them. -/
abbrev Transcript (ε V : Type) := List (Request V × Except ε Unit)

namespace Transcript

def accepted (t : Transcript ε V) : List (Request V) := (t.filter (·.2.isOk)).map (·.1)

def constraints (t : Transcript ε V) : List (Constraint V) := t.accepted.filterMap Request.constraint?

def insertions (t : Transcript ε V) : List (V × V) := t.accepted.filterMap Request.insertion?

/-- A constraint that was refused, with the host's reason. -/
def refusal? : Request V × Except ε Unit → Option (Constraint V × ε)
  | (.install c, .error e) => some (c, e)
  | _ => none

end Transcript

def Installer.answer (host : Installer σ ε V) : Request V → StateM σ (Except ε Unit)
  | .install c => (host.install c).run
  | .insertSubview superview subview => (host.insertSubview superview subview).run

/-- The host is asked these requests one after the other and answers them so. -/
inductive Asked (host : Installer σ ε V) : σ → Transcript ε V → σ → Prop
  | nothing (s : σ) : Asked host s [] s
  | request {s s' s'' : σ} {r : Request V} {answer : Except ε Unit} {t : Transcript ε V}
      (h : (host.answer r).run s = (answer, s')) (ht : Asked host s' t s'') : Asked host s ((r, answer) :: t) s''

theorem Asked.append {t t' : Transcript ε V} (h : Asked host s t s') (h' : Asked host s' t' s'') :
    Asked host s (t ++ t') s'' := by
  induction h with
  | nothing s => exact h'
  | request hr ht ih => exact .request hr (ih h')

/-! ## Hosts that record -/

/-- The record with a request that was accepted. -/
def Recording.add (r : Recording V) : Request V → Recording V
  | .install c => { r with constraints := r.constraints ++ [c] }
  | .insertSubview superview subview => { r with hierarchy := r.hierarchy ++ [(superview, subview)] }

/-- The host records what it accepts, and a refusal leaves its state as it was. -/
structure Records (host : Installer σ ε V) (recorded : σ → Recording V) : Prop where
  accepted : ∀ r s s', (host.answer r).run s = (.ok (), s') → recorded s' = (recorded s).add r
  refused : ∀ r s e s', (host.answer r).run s = (.error e, s') → s' = s

theorem records_recording (refuseConstraint : Constraint V → Option ε) (refuseSubview : V → V → Option ε) :
    Records (recording refuseConstraint refuseSubview) id where
  accepted r s s' h := by
    cases r with
    | install c =>
      simp only [Installer.answer, recording] at h
      split at h <;> cases h
      rfl
    | insertSubview superview subview =>
      simp only [Installer.answer, recording] at h
      split at h <;> cases h
      rfl
  refused r s e s' h := by
    cases r with
    | install c =>
      simp only [Installer.answer, recording] at h
      split at h <;> cases h
      rfl
    | insertSubview superview subview =>
      simp only [Installer.answer, recording] at h
      split at h <;> cases h
      rfl

theorem recording_append (r : Recording V) (q : Request V) (cs : List (Constraint V)) (vs : List (V × V)) :
    (⟨(r.add q).constraints ++ cs, (r.add q).hierarchy ++ vs⟩ : Recording V) =
      ⟨r.constraints ++ (q.constraint?.toList ++ cs), r.hierarchy ++ (q.insertion?.toList ++ vs)⟩ := by
  cases q <;> simp [Recording.add, Request.constraint?, Request.insertion?]

/-- A host that records has recorded what it accepted, in order. -/
theorem Asked.recorded {recorded : σ → Recording V} (hrecords : Records host recorded) {t : Transcript ε V}
    (h : Asked host s t s') :
    recorded s' = ⟨(recorded s).constraints ++ t.constraints, (recorded s).hierarchy ++ t.insertions⟩ := by
  induction h with
  | nothing s => simp [Transcript.constraints, Transcript.insertions, Transcript.accepted]
  | @request s s' s'' r answer t hr ht ih =>
    cases answer with
    | ok =>
      rw [ih, hrecords.accepted r s s' hr, recording_append]
      cases r <;> rfl
    | error e =>
      obtain rfl := hrecords.refused r s e s' hr
      exact ih

/-! ## What a step asks and reports -/

inductive HostStep (V : Type) where
  | equations (scope : Scope V) (equations : List String)
  | pin (superview subview : V) (insets : EdgeInsets)

/-- What a batch of equations asks of a host and reports of it: a request for each constraint, in order, of which none
is lost; the constraints that were refused, with the host's reasons; and the equations that do not compile. -/
structure Offered (batch : Batch V) (t : Transcript ε V) (report : InstallReport ε V) : Prop where
  requests : t.map (·.1) = batch.constraints.map .install
  installed : report.installed + report.installFailures.length = batch.constraints.length
  installFailures : report.installFailures = t.filterMap Transcript.refusal?
  compileErrors : report.compileErrors = batch.errors

/-- A step, what the host was asked and answered in it, and its outcome: a report, or why a subview was refused. -/
structure Exchange (ε V : Type) where
  step : HostStep V
  transcript : Transcript ε V
  outcome : Except ε (InstallReport ε V)

variable [DecidableEq V]

/-- A batch of equations is offered whole. A subview is inserted first, and when the host refuses it, nothing else is
asked. -/
inductive Exchange.Faithful : Exchange ε V → Prop
  | equations {scope : Scope V} {equations : List String} {t : Transcript ε V} {report : InstallReport ε V}
      (h : Offered (compile scope equations) t report) : Faithful ⟨.equations scope equations, t, .ok report⟩
  | refused (superview subview : V) (insets : EdgeInsets) (e : ε) :
      Faithful ⟨.pin superview subview insets, [(.insertSubview superview subview, .error e)], .error e⟩
  | accepted {superview subview : V} {insets : EdgeInsets} {t : Transcript ε V} {report : InstallReport ε V}
      (h : Offered (compile (EdgeInsets.scope superview subview) [insets.equation]) t report) :
      Faithful ⟨.pin superview subview insets, (.insertSubview superview subview, .ok ()) :: t, .ok report⟩

def HostStep.perform (host : Installer σ ε V) : HostStep V → StateM σ (Except ε (InstallReport ε V))
  | equations scope es => .ok <$> addEquations host scope es
  | pin superview subview insets => (addSubview host superview subview insets).run

def performAll (host : Installer σ ε V) (steps : List (HostStep V)) :
    StateM σ (List (Except ε (InstallReport ε V))) :=
  steps.mapM (HostStep.perform host)

/-! ## One step -/

omit [DecidableEq V] in
theorem asked_of_offer {cs : List (Constraint V)} {answers : Answers ε V}
    (h : (host.offer cs).run s = (answers, s')) :
    Asked host s (answers.map fun a => (.install a.1, a.2)) s' := by
  induction cs generalizing s answers with
  | nil =>
    cases h
    exact .nothing _
  | cons c cs ih =>
    obtain ⟨answer, s₁, hc⟩ : ∃ answer s₁, (host.install c).run.run s = (answer, s₁) := ⟨_, _, rfl⟩
    obtain ⟨answers', s₂, hcs⟩ : ∃ answers' s₂, (host.offer cs).run s₁ = (answers', s₂) := ⟨_, _, rfl⟩
    rw [offer_cons hc hcs] at h
    cases h
    exact .request hc (ih hcs)

omit [DecidableEq V] in
theorem installed_add_length_refused (answers : Answers ε V) :
    answers.installed + answers.refused.length = answers.length := by
  induction answers with
  | nil => rfl
  | cons a answers ih =>
    obtain ⟨c, e | _⟩ := a
    · have hinstalled : Answers.installed ((c, .error e) :: answers) = Answers.installed answers :=
        List.countP_cons_of_neg (p := fun a : Constraint V × Except ε Unit => a.2.isOk) Bool.false_ne_true
      have hrefused : Answers.refused ((c, .error e) :: answers) = (c, e) :: Answers.refused answers := rfl
      rw [hinstalled, hrefused, List.length_cons, List.length_cons]
      omega
    · have hinstalled :
          Answers.installed ((c, (.ok () : Except ε Unit)) :: answers) = Answers.installed answers + 1 :=
        List.countP_cons_of_pos (p := fun a : Constraint V × Except ε Unit => a.2.isOk) rfl
      have hrefused : Answers.refused ((c, (.ok () : Except ε Unit)) :: answers) = Answers.refused answers := rfl
      rw [hinstalled, hrefused, List.length_cons]
      omega

omit [DecidableEq V] in
theorem offered_of_answers {batch : Batch V} {answers : Answers ε V} (h : answers.map (·.1) = batch.constraints) :
    Offered batch (answers.map fun a => (.install a.1, a.2)) ⟨answers.installed, batch.errors, answers.refused⟩ where
  requests := by
    rw [← h, List.map_map, List.map_map]
    rfl
  installed := by
    rw [installed_add_length_refused, ← h, List.length_map]
  installFailures := by
    show answers.filterMap _ = _
    rw [List.filterMap_map]
    congr 1
    funext ⟨c, answer⟩
    cases answer <;> rfl
  compileErrors := rfl

theorem addEquations_offered (host : Installer σ ε V) (scope : Scope V) (equations : List String) (s : σ) :
    ∃ t report s', Offered (compile scope equations) t report ∧ Asked host s t s' ∧
      (addEquations host scope equations).run s = (report, s') ∧
      ∀ log, (addEquations host.logged scope equations).run (s, log) = (report, s', log ++ t.map (·.1)) := by
  obtain ⟨answers, s', hoffer⟩ :
      ∃ answers s', (host.offer (compile scope equations).constraints).run s = (answers, s') := ⟨_, _, rfl⟩
  have hoffered := offered_of_answers (constraints_of_offer hoffer)
  refine ⟨_, _, s', hoffered, asked_of_offer hoffer, addEquations_of_offer rfl hoffer, fun log => ?_⟩
  rw [hoffered.requests]
  exact addEquations_of_offer rfl (offer_logged hoffer log)

/-- A step asks and reports what it should, and leaves the host as the answers have left it. -/
theorem perform_faithful (host : Installer σ ε V) (step : HostStep V) (s : σ) :
    ∃ t outcome s', Exchange.Faithful ⟨step, t, outcome⟩ ∧ Asked host s t s' ∧
      (step.perform host).run s = (outcome, s') ∧
      ∀ log, (step.perform host.logged).run (s, log) = (outcome, s', log ++ t.map (·.1)) := by
  cases step with
  | equations scope es =>
    obtain ⟨t, report, s', hoffered, hasked, hrun, hlogged⟩ := addEquations_offered host scope es s
    refine ⟨t, .ok report, s', .equations hoffered, hasked, ?_, fun log => ?_⟩
    · rw [HostStep.perform, StateT.run_map, hrun]
      rfl
    · rw [HostStep.perform, StateT.run_map, hlogged log]
      rfl
  | pin superview subview insets =>
    obtain ⟨answer, s₁, hinsert⟩ :
        ∃ answer s₁, (host.insertSubview superview subview).run.run s = (answer, s₁) := ⟨_, _, rfl⟩
    cases answer with
    | error e =>
      refine ⟨_, _, s₁, .refused superview subview insets e, .request hinsert (.nothing s₁),
        addSubview_of_refused hinsert, fun log => ?_⟩
      exact addSubview_of_refused (insertSubview_logged hinsert log)
    | ok =>
      obtain ⟨t, report, s', hoffered, hasked, hrun, hlogged⟩ :=
        addEquations_offered host (EdgeInsets.scope superview subview) [insets.equation] s₁
      refine ⟨_, _, s', .accepted hoffered, .request hinsert hasked, addSubview_of_accepted hinsert hrun,
        fun log => ?_⟩
      rw [HostStep.perform, addSubview_of_accepted (insertSubview_logged hinsert log) (hlogged _), List.append_assoc]
      rfl

theorem state_of_refused {recorded : σ → Recording V} (hrecords : Records host recorded) {step : HostStep V} {e : ε}
    (h : (step.perform host).run s = (.error e, s')) : s' = s := by
  obtain ⟨t, outcome, s₁, hfaithful, hasked, hrun, -⟩ := perform_faithful host step s
  obtain ⟨rfl, rfl⟩ := Prod.mk.inj (hrun.symm.trans h)
  cases hfaithful with
  | refused superview subview insets =>
    cases hasked with
    | request hr ht =>
      cases ht
      exact hrecords.refused _ _ _ _ hr

/-! ## Runs -/

/-- Every run of steps on a host is a faithful exchange for each of them. -/
theorem performAll_exchanges (host : Installer σ ε V) (steps : List (HostStep V)) (s : σ) :
    ∃ (exchanges : List (Exchange ε V)) (s' : σ), exchanges.map Exchange.step = steps ∧
      (∀ x ∈ exchanges, x.Faithful) ∧ Asked host s (exchanges.flatMap Exchange.transcript) s' ∧
      (performAll host steps).run s = (exchanges.map Exchange.outcome, s') ∧
      ∀ log, (performAll host.logged steps).run (s, log) =
        (exchanges.map Exchange.outcome, s', log ++ (exchanges.flatMap Exchange.transcript).map (·.1)) := by
  induction steps generalizing s with
  | nil =>
    refine ⟨[], s, rfl, List.forall_mem_nil _, .nothing s, rfl, fun log => ?_⟩
    show _ = (_, s, log ++ [])
    rw [List.append_nil]
    rfl
  | cons step steps ih =>
    obtain ⟨t, outcome, s₁, hfaithful, hasked, hrun, hlogged⟩ := perform_faithful host step s
    obtain ⟨exchanges, s', rfl, hexchanges, haskedAll, hrunAll, hloggedAll⟩ := ih s₁
    refine ⟨⟨step, t, outcome⟩ :: exchanges, s', rfl, List.forall_mem_cons.2 ⟨hfaithful, hexchanges⟩,
      hasked.append haskedAll, ?_, fun log => ?_⟩
    · rw [performAll, List.mapM_cons, StateT.run_bind, hrun]
      show (do
        let (outcomes, s') ← (performAll host (exchanges.map Exchange.step)).run s₁
        pure (outcome :: outcomes, s') : Id _) = _
      rw [hrunAll]
      rfl
    · rw [performAll, List.mapM_cons, StateT.run_bind, hlogged]
      show (do
        let (outcomes, s') ← (performAll host.logged (exchanges.map Exchange.step)).run (s₁, log ++ t.map (·.1))
        pure (outcome :: outcomes, s') : Id _) = _
      rw [hloggedAll, List.flatMap_cons, List.map_append, List.append_assoc]
      rfl

omit [DecidableEq V] in
theorem constraints_flatMap (exchanges : List (Exchange ε V)) :
    Transcript.constraints (exchanges.flatMap Exchange.transcript) =
      exchanges.flatMap fun x => x.transcript.constraints := by
  simp only [Transcript.constraints, Transcript.accepted, List.filter_flatMap, List.map_flatMap,
    List.filterMap_flatMap]

omit [DecidableEq V] in
theorem insertions_flatMap (exchanges : List (Exchange ε V)) :
    Transcript.insertions (exchanges.flatMap Exchange.transcript) =
      exchanges.flatMap fun x => x.transcript.insertions := by
  simp only [Transcript.insertions, Transcript.accepted, List.filter_flatMap, List.map_flatMap,
    List.filterMap_flatMap]

/-- Runs lose and duplicate nothing, whatever the host is and answers: the run is a faithful exchange for each step, and
a log of the requests shows those of the exchanges and no others. A host that records what it accepts has recorded the
accepted constraints and subviews of all steps in order; a step whose subview is refused leaves it as it was. -/
theorem performAll_faithful (host : Installer σ ε V) (steps : List (HostStep V)) (s : σ) :
    ∃ (exchanges : List (Exchange ε V)) (s' : σ), exchanges.map Exchange.step = steps ∧
      (∀ x ∈ exchanges, x.Faithful) ∧ Asked host s (exchanges.flatMap Exchange.transcript) s' ∧
      (performAll host steps).run s = (exchanges.map Exchange.outcome, s') ∧
      (∀ log, (performAll host.logged steps).run (s, log) =
        (exchanges.map Exchange.outcome, s', log ++ (exchanges.flatMap Exchange.transcript).map (·.1))) ∧
      ∀ recorded, Records host recorded →
        recorded s' = ⟨(recorded s).constraints ++ exchanges.flatMap fun x => x.transcript.constraints,
          (recorded s).hierarchy ++ exchanges.flatMap fun x => x.transcript.insertions⟩ ∧
        ∀ (step : HostStep V) (s : σ) (e : ε) (s' : σ), (step.perform host).run s = (.error e, s') → s' = s := by
  obtain ⟨exchanges, s', hsteps, hfaithful, hasked, hrun, hlogged⟩ := performAll_exchanges host steps s
  refine ⟨exchanges, s', hsteps, hfaithful, hasked, hrun, hlogged, fun recorded hrecords => ⟨?_, ?_⟩⟩
  · rw [hasked.recorded hrecords, constraints_flatMap, insertions_flatMap]
  · intro step s e s' h
    exact state_of_refused hrecords h

/-- A host that refuses the view `9` and every constraint on a height. -/
def flatHost : Installer (Recording Nat) String Nat :=
  recording (fun c => if c.itemAttribute = .height then some "no height" else none)
    fun _ subview => if subview = 9 then some "no nine" else none

/-- Two equations of which the second does not compile, a subview that is refused, and one that is accepted. -/
def mixedSteps : List (HostStep Nat) :=
  [.equations ⟨0, .indexed [], .none⟩ ["$self.(width, height, top) = 10", "$self.left = $9.left"],
    .pin 0 9 (.uniform .one), .pin 0 1 (.uniform .one)]

theorem performAll_faithful_sample : Records flatHost id ∧
    ∃ (exchanges : List (Exchange String Nat)) (s' : Recording Nat), exchanges.map Exchange.step = mixedSteps ∧
      (performAll flatHost mixedSteps).run {} = (exchanges.map Exchange.outcome, s') ∧
      s' = ⟨exchanges.flatMap fun x => x.transcript.constraints,
        exchanges.flatMap fun x => x.transcript.insertions⟩ ∧
      s'.constraints.map Constraint.itemAttribute = [.width, .top, .top, .leading, .bottom, .trailing] ∧
      s'.hierarchy = [(0, 1)] := by
  have hrecords : Records flatHost id := records_recording _ _
  obtain ⟨exchanges, s', hsteps, -, -, hrun, -, hrecorded⟩ := performAll_faithful flatHost mixedSteps {}
  refine ⟨hrecords, exchanges, s', hsteps, hrun, (hrecorded id hrecords).1, ?_, ?_⟩
  · rw [← congrArg (fun r => r.2.constraints) hrun]
    decide +kernel
  · rw [← congrArg (fun r => r.2.hierarchy) hrun]
    decide +kernel

end LayoutEquations
