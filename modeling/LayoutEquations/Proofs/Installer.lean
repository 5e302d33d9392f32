import LayoutEquations.Installer

/-!
# What a host is asked

`host.logged` is the host together with a log of the requests made to it. It answers as the host does, so the log shows
what an operation asks of every host: `offer` asks once for each constraint, in order (`offer_logged`), and when a
subview is refused, nothing else is asked for (`addSubview_of_refused`).
-/

namespace LayoutEquations

variable {σ ε V : Type}

inductive Request (V : Type) where
  | install (c : Constraint V)
  | insertSubview (superview subview : V)
deriving DecidableEq

/-- The host, with a log of the requests beside its state. -/
def Installer.logged (host : Installer σ ε V) : Installer (σ × List (Request V)) ε V where
  install c := ExceptT.mk fun (s, log) =>
    let (answer, s') := (host.install c).run.run s
    (answer, s', log ++ [.install c])
  insertSubview superview subview := ExceptT.mk fun (s, log) =>
    let (answer, s') := (host.insertSubview superview subview).run.run s
    (answer, s', log ++ [.insertSubview superview subview])

variable {host : Installer σ ε V} {s s' s'' : σ} {c : Constraint V}
  {cs : List (Constraint V)} {answer : Except ε Unit} {answers : Answers ε V} {superview subview : V}

theorem install_logged (h : (host.install c).run.run s = (answer, s')) (log : List (Request V)) :
    (host.logged.install c).run.run (s, log) = (answer, s', log ++ [.install c]) := by
  show (let (answer, s') := (host.install c).run.run s
    (answer, s', log ++ [Request.install c])) = _
  rw [h]

theorem insertSubview_logged (h : (host.insertSubview superview subview).run.run s = (answer, s'))
    (log : List (Request V)) :
    (host.logged.insertSubview superview subview).run.run (s, log) =
      (answer, s', log ++ [.insertSubview superview subview]) := by
  show (let (answer, s') := (host.insertSubview superview subview).run.run s
    (answer, s', log ++ [Request.insertSubview superview subview])) = _
  rw [h]

/-! ## Offering constraints -/

theorem offer_cons (hc : (host.install c).run.run s = (answer, s')) (hcs : (host.offer cs).run s' = (answers, s'')) :
    (host.offer (c :: cs)).run s = ((c, answer) :: answers, s'') := by
  rw [Installer.offer] at hcs ⊢
  rw [List.mapM_cons]
  show (let (answer, s') := (host.install c).run.run s
    let (answers, s'') := (cs.mapM fun c => return (c, ← (host.install c).run)).run s'
    ((c, answer) :: answers, s'')) = _
  rw [hc]
  dsimp only
  rw [hcs]

/-- Every constraint is answered, in order. -/
theorem constraints_of_offer (h : (host.offer cs).run s = (answers, s')) : answers.map (·.1) = cs := by
  induction cs generalizing s answers with
  | nil =>
    cases h
    rfl
  | cons c cs ih =>
    obtain ⟨answer, s₁, hc⟩ : ∃ answer s₁, (host.install c).run.run s = (answer, s₁) := ⟨_, _, rfl⟩
    obtain ⟨answers', s₂, hcs⟩ : ∃ answers' s₂, (host.offer cs).run s₁ = (answers', s₂) := ⟨_, _, rfl⟩
    rw [offer_cons hc hcs] at h
    cases h
    rw [List.map_cons, ih hcs]

/-- A host is asked for each constraint once, in order, whatever it answers. -/
theorem offer_logged (h : (host.offer cs).run s = (answers, s')) (log : List (Request V)) :
    (host.logged.offer cs).run (s, log) = (answers, s', log ++ cs.map .install) := by
  induction cs generalizing s log answers with
  | nil =>
    cases h
    rw [List.map_nil, List.append_nil]
    rfl
  | cons c cs ih =>
    obtain ⟨answer, s₁, hc⟩ : ∃ answer s₁, (host.install c).run.run s = (answer, s₁) := ⟨_, _, rfl⟩
    obtain ⟨answers', s₂, hcs⟩ : ∃ answers' s₂, (host.offer cs).run s₁ = (answers', s₂) := ⟨_, _, rfl⟩
    rw [offer_cons hc hcs] at h
    cases h
    rw [offer_cons (install_logged hc log) (ih hcs _), List.append_assoc]
    rfl

theorem offer_recordingAll (cs : List (Constraint V)) (r : Recording V) :
    (recordingAll.offer cs).run r =
      (cs.map fun c => (c, .ok ()), { r with constraints := r.constraints ++ cs }) := by
  induction cs generalizing r with
  | nil =>
    rw [List.append_nil]
    rfl
  | cons c cs ih =>
    have hc : (recordingAll.install c).run.run r = (.ok (), { r with constraints := r.constraints ++ [c] }) := rfl
    rw [offer_cons hc (ih _), List.append_assoc]
    rfl

theorem installed_accepted (cs : List (Constraint V)) :
    Answers.installed (cs.map fun c => (c, (.ok () : Except ε Unit))) = cs.length := by
  rw [Answers.installed, List.countP_map, List.countP_eq_length]
  exact fun c _ => rfl

theorem refused_accepted (cs : List (Constraint V)) :
    Answers.refused (cs.map fun c => (c, (.ok () : Except ε Unit))) = [] := by
  rw [Answers.refused, List.filterMap_map, List.filterMap_eq_nil_iff]
  exact fun c _ => rfl

/-! ## Equations and subviews -/

variable [DecidableEq V]

theorem addEquations_of_offer {scope : Scope V} {equations : List String} {errors : List EquationError}
    (hcompile : compile scope equations = ⟨cs, errors⟩) (h : (host.offer cs).run s = (answers, s')) :
    (addEquations host scope equations).run s = (⟨answers.installed, errors, answers.refused⟩, s') := by
  show (let batch := compile scope equations
    let (answers, s') := (host.offer batch.constraints).run s
    ((⟨answers.installed, batch.errors, answers.refused⟩ : InstallReport ε V), s')) = _
  rw [hcompile]
  dsimp only
  rw [h]

theorem addSubview_of_refused {i : EdgeInsets} {e : ε}
    (h : (host.insertSubview superview subview).run.run s = (.error e, s')) :
    (addSubview host superview subview i).run.run s = (.error e, s') := by
  rw [addSubview, ExceptT.run_bind, StateT.run_bind, h]
  rfl

theorem addSubview_of_accepted {i : EdgeInsets} {report : InstallReport ε V}
    (h : (host.insertSubview superview subview).run.run s = (.ok (), s'))
    (hreport : (addEquations host (EdgeInsets.scope superview subview) [i.equation]).run s' = (report, s'')) :
    (addSubview host superview subview i).run.run s = (.ok report, s'') := by
  rw [addSubview, ExceptT.run_bind, StateT.run_bind, h]
  show (let (report, s'') := (addEquations host (EdgeInsets.scope superview subview) [i.equation]).run s'
    ((.ok report : Except ε (InstallReport ε V)), s'')) = _
  rw [hreport]

theorem addSubview_recordingAll (i : EdgeInsets) :
    (addSubview recordingAll superview subview i).run.run {} =
      let batch := compile (EdgeInsets.scope superview subview) [i.equation]
      (.ok ⟨batch.constraints.length, batch.errors, []⟩, ⟨batch.constraints, [(superview, subview)]⟩) := by
  obtain ⟨cs, errors, hcompile⟩ : ∃ cs errors,
    compile (EdgeInsets.scope superview subview) [i.equation] = ⟨cs, errors⟩ := ⟨_, _, rfl⟩
  have hinsert : (recordingAll.insertSubview superview subview).run.run {} =
    (.ok (), { hierarchy := [(superview, subview)] }) := rfl
  have hreport := addEquations_of_offer hcompile (offer_recordingAll cs { hierarchy := [(superview, subview)] })
  rw [installed_accepted, refused_accepted, List.nil_append] at hreport
  rw [hcompile]
  exact addSubview_of_accepted hinsert hreport

end LayoutEquations
