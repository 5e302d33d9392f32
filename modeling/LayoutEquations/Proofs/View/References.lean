import Mathlib.Data.List.Forall2
import LayoutEquations.Proofs.Results
import LayoutEquations.View.Resolve

/-!
# References to substitution views

`Substitutions.references` lists the root of each substitution view, by index or by key, and every root finds its view
(`roots_of_mem_references`). So what `$all` stands for is what the roots of the views other than the receiver stand for,
one view each (`resolve_all_eq_ok_iff`).
-/

namespace LayoutEquations

variable {α V : Type}

/-! ## Lists and dictionaries -/

theorem find?_of_mem {κ : Type} [DecidableEq κ] {entries : List (κ × α)} (hdistinct : entries.Pairwise (·.1 ≠ ·.1))
    {key : κ} {value : α} (h : (key, value) ∈ entries) : entries.find? (·.1 == key) = some (key, value) := by
  induction entries with
  | nil => cases h
  | cons entry entries ih =>
    obtain ⟨hfirst, hdistinct⟩ := List.pairwise_cons.1 hdistinct
    rcases List.mem_cons.1 h with rfl | h
    · simp
    · rw [List.find?_cons_of_neg (by simpa using hfirst _ h)]
      exact ih hdistinct h

theorem map_find?_eq_some_iff {κ : Type} [DecidableEq κ] {entries : List (κ × α)}
    (hdistinct : entries.Pairwise (·.1 ≠ ·.1)) {key : κ} {value : α} :
    (entries.find? (·.1 == key)).map (·.2) = some value ↔ (key, value) ∈ entries := by
  constructor
  · intro h
    obtain ⟨⟨key', value'⟩, hfind, heq⟩ := Option.map_eq_some_iff.1 h
    obtain rfl : value' = value := heq
    have hkey : key' = key := by simpa using List.find?_some hfind
    exact hkey ▸ List.mem_of_find?_eq_some hfind
  · intro h
    rw [find?_of_mem hdistinct h]
    rfl

theorem Dictionary.distinct (d : Dictionary α) : d.entries.Pairwise (·.1 ≠ ·.1) :=
  d.sorted.imp String.ne_of_lt

theorem Dictionary.get?_eq_some_iff {d : Dictionary α} {key : String} {value : α} :
    d.get? key = some value ↔ (key, value) ∈ d.entries :=
  map_find?_eq_some_iff d.distinct

theorem exists_forall₂_iff {α β : Type} {R : α → β → Prop} {as : List α} :
    (∃ bs, List.Forall₂ R as bs) ↔ ∀ a ∈ as, ∃ b, R a b := by
  induction as with
  | nil => exact ⟨fun _ a ha => (by cases ha), fun _ => ⟨[], .nil⟩⟩
  | cons a as ih =>
    rw [List.forall_mem_cons, ← ih]
    constructor
    · rintro ⟨_, h⟩
      obtain ⟨b, bs, hb, hbs, -⟩ := List.forall₂_cons_left_iff.1 h
      exact ⟨⟨b, hb⟩, bs, hbs⟩
    · rintro ⟨⟨b, hb⟩, bs, hbs⟩
      exact ⟨b :: bs, .cons hb hbs⟩

/-! ## References -/

/-- The root of each substitution view, with the view. -/
def Substitutions.references : Substitutions V → List (ViewRef × V)
  | indexed views => views.zipIdx.map fun (view, i) => (.index i, view)
  | named views => views.entries.map fun (key, view) => (.name key, view)

theorem Substitutions.map_references (s : Substitutions V) : s.references.map (·.2) = s.toList := by
  cases s with
  | indexed views =>
    rw [references, List.map_map]
    exact List.zipIdx_map_fst 0 views
  | named views =>
    rw [references, List.map_map]
    rfl

variable [DecidableEq V] {scope : Scope V}

/-- The substitution views other than the receiver, with their roots. -/
def Scope.others (scope : Scope V) : List (ViewRef × V) :=
  scope.substitutions.references.filter (·.2 ≠ scope.receiver)

theorem roots_of_mem_references {root : ViewRef} {view : V} (h : (root, view) ∈ scope.substitutions.references) :
    scope.roots root = some [view] := by
  cases hs : scope.substitutions with
  | indexed views =>
    rw [hs] at h
    obtain ⟨⟨view', i⟩, hmem, heq⟩ := List.mem_map.1 h
    cases heq
    have hview : views[i]? = some view := List.mem_zipIdx_iff_getElem?.1 hmem
    rw [Scope.roots, hs, Substitutions.byIndex?, hview]
    rfl
  | named views =>
    rw [hs] at h
    obtain ⟨⟨key, view'⟩, hmem, heq⟩ := List.mem_map.1 h
    cases heq
    rw [Scope.roots, hs, Substitutions.byName?, Dictionary.get?_eq_some_iff.2 hmem]
    rfl

omit [DecidableEq V] in
theorem root_ne_all_of_mem_references {s : Substitutions V} {root : ViewRef} {view : V}
    (h : (root, view) ∈ s.references) : root ≠ .all := by
  cases s with
  | indexed views =>
    obtain ⟨_, -, heq⟩ := List.mem_map.1 h
    cases heq
    exact ViewRef.noConfusion
  | named views =>
    obtain ⟨_, -, heq⟩ := List.mem_map.1 h
    cases heq
    exact ViewRef.noConfusion

theorem roots_all (scope : Scope V) : scope.roots .all = some (scope.others.map (·.2)) := by
  rw [Scope.roots, Scope.others, ← Substitutions.map_references, List.filter_map]
  rfl

/-! ## Resolving -/

theorem resolve_of_roots {path : ViewPath} {roots : List V} (hreserved : scope.substitutions.reservedName? = none)
    (h : scope.roots path.root = some roots) : scope.resolve path = roots.mapM (scope.followPath path) := by
  rw [Scope.resolve, hreserved, h]

theorem resolve_eq_singleton_iff {path : ViewPath} {root : ViewRef} {view view' : V}
    (hreserved : scope.substitutions.reservedName? = none) (h : scope.roots root = some [view]) :
    scope.resolve { path with root } = .ok [view'] ↔ scope.followPath path view = .ok view' := by
  rw [resolve_of_roots hreserved h, List.mapM_cons, List.mapM_nil]
  show (scope.followPath path view >>= fun v => Except.ok [v]) = _ ↔ _
  rw [bind_eq_ok]
  constructor
  · rintro ⟨v, hv, heq⟩
    cases heq
    exact hv
  · intro hv
    exact ⟨view', hv, rfl⟩

/-- `$all` stands for the views that the other substitution views lead to, each by the reference's key path. -/
theorem resolve_all_eq_ok_iff {path : ViewPath} (hroot : path.root = .all)
    (hreserved : scope.substitutions.reservedName? = none) {views : List V} :
    scope.resolve path = .ok views ↔
      List.Forall₂ (fun s view => scope.resolve { path with root := s.1 } = .ok [view]) scope.others views := by
  have hroots : ∀ s ∈ scope.others, scope.roots s.1 = some [s.2] := by
    intro s hs
    exact roots_of_mem_references (List.mem_of_mem_filter hs)
  rw [resolve_of_roots hreserved (hroot ▸ roots_all scope)]
  generalize scope.others = others at hroots
  induction others generalizing views with
  | nil =>
    rw [List.forall₂_nil_left_iff]
    exact ⟨fun h => (by cases h; rfl), fun h => h ▸ rfl⟩
  | cons s others ih =>
    have hothers : ∀ s ∈ others, scope.roots s.1 = some [s.2] := fun s hs => hroots s (List.mem_cons_of_mem _ hs)
    have hs : ∀ view, scope.resolve { path with root := s.1 } = .ok [view] ↔
        scope.followPath path s.2 = .ok view :=
      fun view => resolve_eq_singleton_iff hreserved (hroots s List.mem_cons_self)
    rw [List.forall₂_cons_left_iff, List.map_cons, List.mapM_cons, bind_eq_ok]
    constructor
    · rintro ⟨view, hview, h⟩
      obtain ⟨rest, hrest, h⟩ := bind_eq_ok.1 h
      cases h
      exact ⟨view, rest, (hs view).2 hview, (ih hothers).1 hrest, rfl⟩
    · rintro ⟨view, rest, hview, hrest, rfl⟩
      exact ⟨view, (hs view).1 hview, bind_eq_ok.2 ⟨rest, (ih hothers).2 hrest, rfl⟩⟩

end LayoutEquations
