import LayoutEquations.Proofs.View.Dangling
import LayoutEquations.Proofs.View.References

/-!
# What references stand for

The views of a root are told by the entries of the collection (`Substitutions.Finds`, `Scope.RootViews`) and the key
path by its single steps: `Leads` takes each segment from where the one before it led, and `BreaksAt` names the first
one that leads to no view. A reference stands for the ends of its key path, one for each view of its root
(`resolve_eq_ok_iff`). Where the key path breaks from some of these views, the first of them is the one that is told
about (`resolve_eq_error_iff_breaksAt`). As ends can be led on, a key path can be cut in two anywhere
(`resolve_append_eq_ok_iff`).
-/

namespace LayoutEquations

variable {α β ε V : Type}

/-! ## Walks along lists -/

theorem mapM_eq_ok_iff {f : α → Except ε β} {as : List α} {bs : List β} :
    as.mapM f = .ok bs ↔ List.Forall₂ (fun a b => f a = .ok b) as bs := by
  induction as generalizing bs with
  | nil =>
    rw [List.forall₂_nil_left_iff]
    exact ⟨fun h => (by cases h; rfl), fun h => h ▸ rfl⟩
  | cons a as ih =>
    rw [List.forall₂_cons_left_iff, List.mapM_cons, bind_eq_ok]
    constructor
    · rintro ⟨b, hb, h⟩
      obtain ⟨bs, hbs, h⟩ := bind_eq_ok.1 h
      cases h
      exact ⟨b, bs, hb, ih.1 hbs, rfl⟩
    · rintro ⟨b, bs, hb, hbs, rfl⟩
      exact ⟨b, hb, bind_eq_ok.2 ⟨bs, ih.2 hbs, rfl⟩⟩

theorem forall₂_exists_iff {γ : Type} {R : α → β → Prop} {S : β → γ → Prop} {as : List α} {cs : List γ} :
    List.Forall₂ (fun a c => ∃ b, R a b ∧ S b c) as cs ↔ ∃ bs, List.Forall₂ R as bs ∧ List.Forall₂ S bs cs := by
  constructor
  · intro h
    induction h with
    | nil => exact ⟨[], .nil, .nil⟩
    | cons h _ ih =>
      obtain ⟨b, hab, hbc⟩ := h
      obtain ⟨bs, has, hcs⟩ := ih
      exact ⟨b :: bs, .cons hab has, .cons hbc hcs⟩
  · rintro ⟨bs, has, hcs⟩
    induction has generalizing cs with
    | nil =>
      cases hcs
      exact .nil
    | cons hab has ih =>
      cases hcs with
      | cons hbc hcs => exact .cons ⟨_, hab, hbc⟩ (ih hcs)

/-! ## The views of a root -/

namespace Substitutions

/-- The view that a root finds in the collection: one by its place, or one by its key, which an index spells in
decimal. -/
inductive Finds : Substitutions V → ViewRef → V → Prop
  | place {views : List V} {n : Nat} {view : V} (h : views[n]? = some view) : Finds (.indexed views) (.index n) view
  | decimal {views : Dictionary V} {n : Nat} {view : V} (h : (n.repr, view) ∈ views.entries) :
      Finds (.named views) (.index n) view
  | key {views : Dictionary V} {word : String} {view : V} (h : (word, view) ∈ views.entries) :
      Finds (.named views) (.name word) view

/-- No key of the collection is a reserved word. -/
def Unreserved : Substitutions V → Prop
  | indexed _ => True
  | named views => ∀ key ∈ views.keys, isReserved key = false

variable {s : Substitutions V} {view : V}

theorem Finds.ne_special {root : ViewRef} (h : s.Finds root view) : root ≠ .self ∧ root ≠ .all := by
  cases h <;> simp

theorem byIndex?_eq_some_iff {n : Nat} : s.byIndex? n = some view ↔ s.Finds (.index n) view := by
  cases s with
  | indexed views => exact ⟨.place, fun h => (by cases h; assumption)⟩
  | named views =>
    rw [byIndex?, Dictionary.get?_eq_some_iff]
    exact ⟨.decimal, fun h => (by cases h; assumption)⟩

theorem byName?_eq_some_iff {word : String} : s.byName? word = some view ↔ s.Finds (.name word) view := by
  cases s with
  | indexed views => exact ⟨fun h => (by cases h), fun h => (by cases h)⟩
  | named views =>
    rw [byName?, Dictionary.get?_eq_some_iff]
    exact ⟨.key, fun h => (by cases h; assumption)⟩

theorem reservedName?_eq_none_iff : s.reservedName? = none ↔ s.Unreserved := by
  cases s with
  | indexed views => exact ⟨fun _ => trivial, fun _ => rfl⟩
  | named views =>
    rw [reservedName?, List.find?_eq_none]
    simp only [Bool.not_eq_true]
    rfl

end Substitutions

/-- The views of a root, in their order: the receiver; the other substitution views, each as often as it is there; or
the one view that the root finds. -/
inductive Scope.RootViews [DecidableEq V] (scope : Scope V) : ViewRef → List V → Prop
  | self : RootViews scope .self [scope.receiver]
  | all : RootViews scope .all (scope.substitutions.toList.filter (· ≠ scope.receiver))
  | found {root : ViewRef} {view : V} (h : scope.substitutions.Finds root view) : RootViews scope root [view]

/-! ## Key paths -/

/-- The segments lead from the first view to the second, each from where the one before it led. -/
inductive Leads (keyPaths : KeyPaths V) : V → List String → V → Prop
  | here (view : V) : Leads keyPaths view [] view
  | step {view next target : V} {segment : String} {segments : List String} (h : keyPaths view segment = some next)
      (hs : Leads keyPaths next segments target) : Leads keyPaths view (segment :: segments) target

/-- The segment is the first one that leads to no view. -/
def BreaksAt (keyPaths : KeyPaths V) (root : V) (segments : List String) (segment : String) : Prop :=
  ∃ passed behind view, segments = passed ++ segment :: behind ∧ Leads keyPaths root passed view ∧
    keyPaths view segment = none

section KeyPaths

variable {keyPaths : KeyPaths V} {root view : V} {segments p q : List String} {segment : String}

theorem follow_eq_ok_iff : follow keyPaths root segments = .ok view ↔ Leads keyPaths root segments view := by
  constructor
  · intro h
    fun_induction follow keyPaths root segments with
    | case1 root =>
      cases h
      exact .here _
    | case2 root segment segments next hnext ih => exact .step hnext (ih h)
    | case3 root segment segments hnext => cases h
  · intro h
    induction h with
    | here view => rfl
    | step h _ ih =>
      rw [follow, h]
      exact ih

theorem follow_eq_error_iff_breaksAt :
    follow keyPaths root segments = .error segment ↔ BreaksAt keyPaths root segments segment := by
  rw [follow_eq_error_iff]
  simp only [follow_eq_ok_iff]
  rfl

theorem leads_append : Leads keyPaths root (p ++ q) view ↔
    ∃ middle, Leads keyPaths root p middle ∧ Leads keyPaths middle q view := by
  constructor
  · intro h
    induction p generalizing root with
    | nil => exact ⟨root, .here root, h⟩
    | cons segment p ih =>
      cases h with
      | step hnext h =>
        obtain ⟨middle, hp, hq⟩ := ih h
        exact ⟨middle, .step hnext hp, hq⟩
  · rintro ⟨middle, hp, hq⟩
    induction hp with
    | here view => exact hq
    | step hnext _ ih => exact .step hnext (ih hq)

end KeyPaths

/-! ## References -/

section References

variable [DecidableEq V] {scope : Scope V} {path : ViewPath} {root : ViewRef} {roots views : List V}

theorem roots_eq_some_iff : scope.roots root = some roots ↔ scope.RootViews root roots := by
  have hone {view? : Option V} : view?.map ([·]) = some roots ↔ ∃ view, view? = some view ∧ [view] = roots :=
    Option.map_eq_some_iff
  cases root with
  | self =>
    refine ⟨fun h => (by cases h; exact .self), fun h => ?_⟩
    cases h with
    | self => rfl
    | found h => exact absurd rfl h.ne_special.1
  | all =>
    refine ⟨fun h => (by cases h; exact .all), fun h => ?_⟩
    cases h with
    | all => rfl
    | found h => exact absurd rfl h.ne_special.2
  | index n =>
    rw [Scope.roots, hone]
    simp only [Substitutions.byIndex?_eq_some_iff]
    constructor
    · rintro ⟨view, h, rfl⟩
      exact .found h
    · intro h
      cases h with
      | found h => exact ⟨_, h, rfl⟩
  | name word =>
    rw [Scope.roots, hone]
    simp only [Substitutions.byName?_eq_some_iff]
    constructor
    · rintro ⟨view, h, rfl⟩
      exact .found h
    · intro h
      cases h with
      | found h => exact ⟨_, h, rfl⟩

theorem roots_eq_none_iff : scope.roots root = none ↔ ∀ roots, ¬ scope.RootViews root roots := by
  rw [Option.eq_none_iff_forall_ne_some]
  exact forall_congr' fun roots => not_congr roots_eq_some_iff

theorem resolve_of_no_roots (hfree : scope.substitutions.Unreserved)
    (h : ∀ roots, ¬ scope.RootViews path.root roots) :
    scope.resolve path = .error (.unknownView path.root.render path.pos) := by
  rw [Scope.resolve, Substitutions.reservedName?_eq_none_iff.2 hfree, roots_eq_none_iff.2 h]

theorem resolve_of_rootViews (hfree : scope.substitutions.Unreserved) (h : scope.RootViews root roots)
    (keyPath : List String) (pos : Nat) :
    scope.resolve ⟨root, keyPath, pos⟩ = roots.mapM (scope.followPath ⟨root, keyPath, pos⟩) :=
  resolve_of_roots (Substitutions.reservedName?_eq_none_iff.2 hfree) (roots_eq_some_iff.2 h)

/-- A reference stands for the ends of its key path, from the views of its root in their order. -/
theorem resolve_eq_ok_iff (hfree : scope.substitutions.Unreserved) (h : scope.RootViews root roots)
    {keyPath : List String} {pos : Nat} :
    scope.resolve ⟨root, keyPath, pos⟩ = .ok views ↔
      List.Forall₂ (fun v view => Leads scope.keyPaths v keyPath view) roots views := by
  rw [resolve_of_rootViews hfree h, mapM_eq_ok_iff]
  simp only [followPath_eq_ok_iff, follow_eq_ok_iff]

/-- Of the views of the root from which the key path breaks, the first one is told about. -/
theorem resolve_eq_error_iff_breaksAt (hfree : scope.substitutions.Unreserved) (h : scope.RootViews root roots)
    {keyPath : List String} {pos : Nat} {r : ResolveError} :
    scope.resolve ⟨root, keyPath, pos⟩ = .error r ↔
      ∃ before v after segment, roots = before ++ v :: after ∧
        (∀ v ∈ before, ∃ view, Leads scope.keyPaths v keyPath view) ∧
        BreaksAt scope.keyPaths v keyPath segment ∧ r = .keyPathNotAView segment pos := by
  rw [resolve_of_rootViews hfree h, mapM_eq_error_iff]
  simp only [followPath_eq_ok_iff, followPath_eq_error_iff, follow_eq_ok_iff, follow_eq_error_iff_breaksAt]
  constructor
  · rintro ⟨before, root, after, hroots, hbefore, segment, hbreaks, hr⟩
    exact ⟨before, root, after, segment, hroots, hbefore, hbreaks, hr⟩
  · rintro ⟨before, root, after, segment, hroots, hbefore, hbreaks, hr⟩
    exact ⟨before, root, after, hroots, hbefore, segment, hbreaks, hr⟩

/-- The views of a longer key path are those of its front, led on. -/
theorem resolve_append_eq_ok_iff (hfree : scope.substitutions.Unreserved) {p q : List String}
    {pos : Nat} :
    scope.resolve ⟨root, p ++ q, pos⟩ = .ok views ↔
      ∃ middles, scope.resolve ⟨root, p, pos⟩ = .ok middles ∧
        List.Forall₂ (fun middle view => Leads scope.keyPaths middle q view) middles views := by
  by_cases hroots : ∃ roots, scope.RootViews root roots
  · obtain ⟨roots, hroots⟩ := hroots
    rw [resolve_eq_ok_iff hfree hroots]
    simp only [resolve_eq_ok_iff hfree hroots, leads_append]
    exact forall₂_exists_iff
  · have hnone : ∀ keyPath, scope.resolve ⟨root, keyPath, pos⟩ = .error (.unknownView root.render pos) :=
      fun keyPath => resolve_of_no_roots hfree (not_exists.1 hroots)
    simp [hnone]

/-- Without a reserved key, a reference whose root has no view is unknown. Otherwise it resolves when the key path leads
on from each view of the root, and then to the ends, in the order of these views; if it does not resolve, the first of
them from which the key path breaks gives the segment of the error. A key path resolves in two parts as in one. -/
theorem resolve_pointwise (hfree : scope.substitutions.Unreserved) (root : ViewRef) (pos : Nat) :
    ((∀ roots, ¬ scope.RootViews root roots) →
      ∀ keyPath, scope.resolve ⟨root, keyPath, pos⟩ = .error (.unknownView root.render pos)) ∧
    (∀ roots, scope.RootViews root roots → ∀ keyPath,
      ((∃ views, scope.resolve ⟨root, keyPath, pos⟩ = .ok views) ↔
        ∀ v ∈ roots, ∃ view, Leads scope.keyPaths v keyPath view) ∧
      (∀ views, scope.resolve ⟨root, keyPath, pos⟩ = .ok views ↔
        List.Forall₂ (fun v view => Leads scope.keyPaths v keyPath view) roots views) ∧
      ∀ r, scope.resolve ⟨root, keyPath, pos⟩ = .error r ↔
        ∃ before v after segment, roots = before ++ v :: after ∧
          (∀ v ∈ before, ∃ view, Leads scope.keyPaths v keyPath view) ∧
          BreaksAt scope.keyPaths v keyPath segment ∧ r = .keyPathNotAView segment pos) ∧
    ∀ p q views, scope.resolve ⟨root, p ++ q, pos⟩ = .ok views ↔
      ∃ middles, scope.resolve ⟨root, p, pos⟩ = .ok middles ∧
        List.Forall₂ (fun middle view => Leads scope.keyPaths middle q view) middles views := by
  refine ⟨fun hnone keyPath => resolve_of_no_roots hfree hnone, fun roots hroots keyPath => ⟨?_, ?_, ?_⟩, ?_⟩
  · simp only [resolve_eq_ok_iff hfree hroots]
    exact exists_forall₂_iff
  · exact fun views => resolve_eq_ok_iff hfree hroots
  · exact fun r => resolve_eq_error_iff_breaksAt hfree hroots
  · exact fun p q views => resolve_append_eq_ok_iff hfree

/-- Three views in a ring, of which 2 has a peer too; the receiver is 0. -/
def ringScope : Scope Nat where
  receiver := 0
  substitutions := .indexed [2, 0, 1, 2]
  keyPaths view segment :=
    if segment = "next" then some ((view + 1) % 3) else if segment = "peer" ∧ view = 2 then some 1 else none

/-- The receiver is no root of `$all` and the end of two of its chains; the view 1 comes before the second 2, so
`$all.peer` fails with it. -/
theorem resolve_pointwise_sample :
    ringScope.substitutions.Unreserved ∧ ringScope.RootViews .all [2, 1, 2] ∧
      ringScope.resolve ⟨.all, ["next"], 7⟩ = .ok [0, 2, 0] ∧
      ringScope.resolve ⟨.all, ["next", "next"], 7⟩ = .ok [1, 0, 1] ∧
      ringScope.resolve ⟨.all, ["next", "next", "next", "peer"], 7⟩ = .error (.keyPathNotAView "peer" 7) ∧
      ringScope.resolve ⟨.name "box", ["next"], 7⟩ = .error (.unknownView "box" 7) := by
  have hfree : ringScope.substitutions.Unreserved := trivial
  have hroots : ringScope.RootViews .all [2, 1, 2] := .all
  have hnext : ∀ v segments view, Leads ringScope.keyPaths ((v + 1) % 3) segments view →
      Leads ringScope.keyPaths v ("next" :: segments) view := fun v segments view h => .step rfl h
  obtain ⟨-, hviews, hparts⟩ := resolve_pointwise hfree .all 7
  obtain ⟨hunknown, -, -⟩ := resolve_pointwise hfree (.name "box") 7
  have hone : ringScope.resolve ⟨.all, ["next"], 7⟩ = .ok [0, 2, 0] :=
    ((hviews _ hroots _).2.1 _).2
      (.cons (hnext _ _ _ (.here 0)) (.cons (hnext _ _ _ (.here 2)) (.cons (hnext _ _ _ (.here 0)) .nil)))
  refine ⟨hfree, hroots, hone, ?_, ?_, hunknown (fun roots h => ?_) _⟩
  · exact (hparts ["next"] ["next"] _).2 ⟨_, hone,
      .cons (hnext _ _ _ (.here 1)) (.cons (hnext _ _ _ (.here 0)) (.cons (hnext _ _ _ (.here 1)) .nil))⟩
  · refine ((hviews _ hroots _).2.2 _).2 ⟨[2], 1, [2], "peer", rfl, ?_, ⟨["next", "next", "next"], [], 1, rfl, ?_, rfl⟩,
      rfl⟩
    · rintro v hv
      obtain rfl := List.mem_singleton.1 hv
      exact ⟨1, hnext _ _ _ (hnext _ _ _ (hnext _ _ _ (.step rfl (.here 1))))⟩
    · exact hnext _ _ _ (hnext _ _ _ (hnext _ _ _ (.here 1)))
  · cases h with
    | found h => cases h

end References

end LayoutEquations
