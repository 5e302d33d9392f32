import LayoutEquations.Proofs.Results
import LayoutEquations.View.Resolve

/-!
# References that do not resolve

A key path breaks at its first segment that is no view (`follow_eq_error_iff`), and a reference to several views breaks
at the first of them from which its key path breaks. `Dangling` says so about a reference and its error without the walk
that finds the segment: apart from reserved names, these are the errors that resolving has (`resolve_eq_error_iff`).
-/

namespace LayoutEquations

variable {V : Type}

/-- A key path fails with its first segment that leads to no view. -/
theorem follow_eq_error_iff {keyPaths : KeyPaths V} {segments : List String} {root : V} {segment : String} :
    follow keyPaths root segments = .error segment ↔
      ∃ passed behind view, segments = passed ++ segment :: behind ∧ follow keyPaths root passed = .ok view ∧
        keyPaths view segment = none := by
  constructor
  · intro h
    fun_induction follow keyPaths root segments with
    | case1 root => cases h
    | case2 root first segments next hnext ih =>
      obtain ⟨passed, behind, view, rfl, hpassed, hsegment⟩ := ih h
      refine ⟨first :: passed, behind, view, rfl, ?_, hsegment⟩
      rwa [follow, hnext]
    | case3 root first segments hnext =>
      cases h
      exact ⟨[], segments, root, rfl, rfl, hnext⟩
  · rintro ⟨passed, behind, view, rfl, hpassed, hsegment⟩
    fun_induction follow keyPaths root passed with
    | case1 root =>
      cases hpassed
      rw [List.nil_append, follow, hsegment]
    | case2 root first passed next hnext ih =>
      rw [List.cons_append, follow, hnext]
      exact ih hpassed
    | case3 root first passed hnext => cases hpassed

variable [DecidableEq V] {scope : Scope V} {path : ViewPath} {r : ResolveError}

/-- The reference stands for nothing in the scope, and the error says why: its root is no view, or, from the first of
the root's views where the key path breaks, the segment is the first one that leads to no view. -/
inductive Dangling (scope : Scope V) (path : ViewPath) : ResolveError → Prop
  | root (h : scope.roots path.root = none) : Dangling scope path (.unknownView path.root.render path.pos)
  | segment {before after : List V} {root view : V} {passed behind : List String} {segment : String}
      (hroots : scope.roots path.root = some (before ++ root :: after))
      (hbefore : ∀ v ∈ before, ∃ w, follow scope.keyPaths v path.keyPath = .ok w)
      (hpath : path.keyPath = passed ++ segment :: behind) (hpassed : follow scope.keyPaths root passed = .ok view)
      (hsegment : scope.keyPaths view segment = none) : Dangling scope path (.keyPathNotAView segment path.pos)

theorem Dangling.pos (h : Dangling scope path r) : r.pos? = some path.pos := by
  cases h with
  | root h => rfl
  | segment hroots hbefore hpath hpassed hsegment => rfl

omit [DecidableEq V] in
theorem followPath_eq_ok_iff {root view : V} :
    scope.followPath path root = .ok view ↔ follow scope.keyPaths root path.keyPath = .ok view := by
  rw [Scope.followPath, mapError_eq_ok]

omit [DecidableEq V] in
theorem followPath_eq_error_iff {root : V} :
    scope.followPath path root = .error r ↔
      ∃ segment, follow scope.keyPaths root path.keyPath = .error segment ∧ r = .keyPathNotAView segment path.pos := by
  rw [Scope.followPath, mapError_eq_error]

/-- A reference fails to resolve where a reserved word is a key, and otherwise where it is dangling. -/
theorem resolve_eq_error_iff :
    scope.resolve path = .error r ↔
      (∃ key, scope.substitutions.reservedName? = some key ∧ r = .reservedName key) ∨
        scope.substitutions.reservedName? = none ∧ Dangling scope path r := by
  rw [Scope.resolve]
  cases hreserved : scope.substitutions.reservedName? with
  | some key =>
    simp [eq_comm]
  | none =>
    rw [or_iff_right (by simp), and_iff_right rfl]
    cases hroots : scope.roots path.root with
    | none =>
      refine ⟨fun h => (by cases h; exact .root hroots), fun h => ?_⟩
      cases h with
      | root h => rfl
      | segment hroots' =>
        rw [hroots] at hroots'
        cases hroots'
    | some roots =>
      dsimp only
      rw [mapM_eq_error_iff]
      constructor
      · rintro ⟨before, root, after, rfl, hbefore, hroot⟩
        obtain ⟨segment, hfollow, rfl⟩ := followPath_eq_error_iff.1 hroot
        obtain ⟨passed, behind, view, hpath, hpassed, hsegment⟩ := follow_eq_error_iff.1 hfollow
        refine .segment hroots (fun v hv => ?_) hpath hpassed hsegment
        obtain ⟨w, hw⟩ := hbefore v hv
        exact ⟨w, followPath_eq_ok_iff.1 hw⟩
      · intro h
        cases h with
        | root h =>
          rw [hroots] at h
          cases h
        | segment hroots' hbefore hpath hpassed hsegment =>
          rw [hroots] at hroots'
          obtain rfl := Option.some.inj hroots'
          refine ⟨_, _, _, rfl, fun v hv => ?_, ?_⟩
          · obtain ⟨w, hw⟩ := hbefore v hv
            exact ⟨w, followPath_eq_ok_iff.2 hw⟩
          · exact followPath_eq_error_iff.2 ⟨_, follow_eq_error_iff.2 ⟨_, _, _, hpath, hpassed, hsegment⟩, rfl⟩

end LayoutEquations
