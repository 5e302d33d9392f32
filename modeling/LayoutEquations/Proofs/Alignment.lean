import Mathlib.Data.List.Forall2
import LayoutEquations.Compile
import LayoutEquations.Proofs.Attribute
import LayoutEquations.Proofs.Results

/-!
# Alignment, entry by entry

`entryAt xs i` is the entry of a list that goes with target `i`: the only one, or the one at that place. A list that
fits is spread into its entries (`spread_of_fits`), any other is refused with its length (`spread_of_not_fits`). So the
constraints of an equation between single views can be read off target by target (`align_ofViews`), and those of an
equation whose right side is the same for all targets, view by view (`align_of_uniform`).
-/

namespace LayoutEquations

variable {α V : Type}

/-! ## Lists -/

/-- The entry that goes with target `i`, as a list of one; none where the list has no such entry. -/
def entryAt (xs : List α) (i : Nat) : List α :=
  match xs with
  | [x] => [x]
  | xs => xs[i]?.toList

/-- A list that has one entry, or one for each of `n` targets. -/
def Fits (n : Nat) (xs : List α) : Prop := xs.length = 1 ∨ xs.length = n

instance (n : Nat) (xs : List α) : Decidable (Fits n xs) := inferInstanceAs (Decidable (_ ∨ _))

theorem entryAt_of_lt {xs : List α} {i : Nat} (h : i < xs.length) : entryAt xs i = [xs[i]] := by
  unfold entryAt
  split
  · next x =>
    have hi : i = 0 := by simpa using h
    subst hi
    rfl
  · rw [List.getElem?_eq_getElem h, Option.toList_some]

theorem spread_of_fits (part : ListPart) {n : Nat} {xs : List α} (hne : xs ≠ []) (h : Fits n xs) :
    ∃ ys, spread part n xs = .ok ys ∧ ys.length = n ∧ ∀ i (hi : i < ys.length), entryAt xs i = [ys[i]] := by
  unfold spread
  split
  · exact absurd rfl hne
  · next x =>
    refine ⟨List.replicate n x, rfl, List.length_replicate, fun i hi => ?_⟩
    rw [List.getElem_replicate]
    rfl
  · next hlist =>
    have hlength : xs.length = n := by
      rcases h with h | h
      · obtain ⟨x, rfl⟩ := List.length_eq_one_iff.1 h
        exact absurd rfl (hlist x)
      · exact h
    rw [if_pos hlength]
    exact ⟨xs, rfl, hlength, fun i hi => entryAt_of_lt hi⟩

theorem spread_of_not_fits (part : ListPart) {n : Nat} {xs : List α} (hne : xs ≠ []) (h : ¬ Fits n xs) :
    spread part n xs = .error (.sizeMismatch part n xs.length) := by
  unfold spread
  split
  · exact absurd rfl hne
  · exact absurd (Or.inl rfl) h
  · rw [if_neg fun hlength => h (Or.inr hlength)]

/-! ## Constraints target by target -/

/-- The constraints of one target: none where its constant is skipped. -/
def Equation.constraintsAt (e : Equation) (view : V) (related : Option V) :
    Attribute × Attribute × Constant → List (Constraint V)
  | (a, b, .value x) => [e.constraint ⟨0, view, a, related, related.map fun _ => b, x⟩]
  | (_, _, .skip) => []

/-- The lists of an equation between single views. -/
def Operands.ofViews (view : V) (related : Option V) (as bs : List Attribute) (cs : List Constant) : Operands V where
  leftViews := [view]
  leftAttributes := as
  rightViews := related.map ([·])
  rightAttributes := bs
  constants := cs

@[simp] theorem constants_ofViews (view : V) (related : Option V) (as bs : List Attribute) (cs : List Constant) :
    (Operands.ofViews view related as bs cs).constants = cs := rfl

theorem items_ofViews (view : V) (related : Option V) (as bs : List Attribute) (cs : List Constant) :
    (Operands.ofViews view related as bs cs).items = as.map fun a => (view, a) := by
  show as.flatMap (fun a => [(view, a)]) = _
  rw [List.map_eq_flatMap]

theorem relatedViews_ofViews (view : V) (related : Option V) (as bs : List Attribute) (cs : List Constant) :
    (Operands.ofViews view related as bs cs).relatedViews = .ok (List.replicate as.length related) := by
  unfold Operands.relatedViews
  rw [items_ofViews, List.length_map]
  cases related with
  | none => rfl
  | some w =>
    show Except.ok ((List.replicate as.length w).map some) = _
    rw [List.map_replicate]

theorem relatedAttributes_nil (view : V) (related : Option V) (as : List Attribute) (cs : List Constant) :
    (Operands.ofViews view related as [] cs).relatedAttributes = .ok as := by
  unfold Operands.relatedAttributes
  rw [items_ofViews, List.map_map, if_pos (by rfl)]
  exact congrArg Except.ok (List.map_id as)

theorem relatedAttributes_of_ne_nil (view : V) (related : Option V) (as : List Attribute) {bs : List Attribute}
    (hbs : bs ≠ []) (cs : List Constant) :
    (Operands.ofViews view related as bs cs).relatedAttributes = spread .rightAttributes as.length bs := by
  unfold Operands.relatedAttributes
  rw [items_ofViews, List.length_map, if_neg (by simpa [Operands.ofViews] using hbs)]
  rfl

theorem relatedAttributes_of_fits (view : V) (related : Option V) {as bs : List Attribute} (cs : List Constant)
    (h : bs = [] ∨ Fits as.length bs) :
    ∃ bs', (Operands.ofViews view related as bs cs).relatedAttributes = .ok bs' ∧ bs'.length = as.length ∧
      ∀ i (hi : i < as.length) (hi' : i < bs'.length) (ds : List Constant),
        (Operands.ofViews view related [as[i]] (entryAt bs i) ds).relatedAttributes = .ok [bs'[i]] := by
  by_cases hbs : bs = []
  · subst hbs
    exact ⟨as, relatedAttributes_nil view related as cs, rfl,
      fun i hi _ ds => relatedAttributes_nil view related [as[i]] ds⟩
  · obtain ⟨bs', hspread, hlength, hentry⟩ := spread_of_fits .rightAttributes hbs (h.resolve_left hbs)
    refine ⟨bs', (relatedAttributes_of_ne_nil view related as hbs cs).trans hspread, hlength, fun i hi hi' ds => ?_⟩
    rw [hentry i hi', relatedAttributes_of_ne_nil view related [as[i]] (List.cons_ne_nil _ _) ds]
    rfl

theorem constraints_targets (e : Equation) (view : V) (related : Option V) {as bs : List Attribute}
    {cs : List Constant} (start : Nat) :
    ((((as.map fun a => (view, a)).zip ((List.replicate as.length related).zip (bs.zip cs))).zipIdx start).filterMap
      Operands.target?).map e.constraint = (as.zip (bs.zip cs)).flatMap (e.constraintsAt view related) := by
  induction as generalizing bs cs start with
  | nil => rfl
  | cons a as ih =>
    rcases bs with _ | ⟨b, bs⟩
    · rfl
    rcases cs with _ | ⟨c, cs⟩
    · rfl
    rw [List.map_cons, List.length_cons, List.replicate_succ, List.zip_cons_cons, List.zip_cons_cons,
      List.zip_cons_cons, List.zip_cons_cons, List.zipIdx_cons, List.flatMap_cons, ← ih (start + 1)]
    -- the index of a target does not enter its constraint
    cases c with
    | value x => rfl
    | skip => rfl

/-- Where the lists spread, an equation between single views has the constraints of its targets in order. -/
theorem align_ofViews (e : Equation) (view : V) (related : Option V) {as bs bs' : List Attribute}
    {cs cs' : List Constant} (hne : as ≠ [])
    (hbs : (Operands.ofViews view related as bs cs).relatedAttributes = .ok bs')
    (hcs : spread .constants as.length cs = .ok cs') :
    ∃ targets, (Operands.ofViews view related as bs cs).align = .ok targets ∧
      targets.map e.constraint = (as.zip (bs'.zip cs')).flatMap (e.constraintsAt view related) := by
  refine ⟨_, ?_, constraints_targets e view related 0⟩
  unfold Operands.align
  rw [hbs, relatedViews_ofViews, items_ofViews, if_neg (by simpa using hne)]
  simp only [ok_bind, List.length_map, constants_ofViews, hcs]

theorem align_ofViews_of_not_fits (view : V) (related : Option V) {as bs : List Attribute} {cs : List Constant}
    (has : as ≠ []) (hcs : cs ≠ []) (h : ¬ ((bs = [] ∨ Fits as.length bs) ∧ Fits as.length cs)) :
    (Operands.ofViews view related as bs cs).align =
      .error (if bs = [] ∨ Fits as.length bs then .sizeMismatch .constants as.length cs.length
        else .sizeMismatch .rightAttributes as.length bs.length) := by
  unfold Operands.align
  rw [relatedViews_ofViews, items_ofViews, if_neg (by simpa using has)]
  by_cases hbs : bs = [] ∨ Fits as.length bs
  · obtain ⟨bs', hrelated, -⟩ := relatedAttributes_of_fits view related cs hbs
    rw [hrelated, if_pos hbs]
    simp only [ok_bind, List.length_map, constants_ofViews]
    rw [spread_of_not_fits .constants hcs fun hfits => h ⟨hbs, hfits⟩, error_bind]
  · have hne : bs ≠ [] := fun hnil => hbs (Or.inl hnil)
    rw [relatedAttributes_of_ne_nil view related as hne cs,
      spread_of_not_fits .rightAttributes hne fun hfits => hbs (Or.inr hfits), if_neg hbs]
    rfl

/-! ## One right side for every target -/

theorem items_ne_nil {o : Operands V} (hattributes : o.leftAttributes ≠ []) (hviews : o.leftViews ≠ []) :
    o.items ≠ [] := by
  obtain ⟨a, as, has⟩ := List.exists_cons_of_ne_nil hattributes
  obtain ⟨view, views, hvs⟩ := List.exists_cons_of_ne_nil hviews
  simp [Operands.items, has, hvs]

theorem align_of_no_views {o : Operands V} (hviews : o.leftViews = []) : o.align = .error (.empty .leftTargets) := by
  have hitems : o.items = [] := by simp [Operands.items, hviews]
  rw [Operands.align, hitems]
  rfl

theorem spread_singleton (part : ListPart) (items : List α) {β : Type} (x : β) :
    spread part items.length [x] = .ok (items.map fun _ => x) := by
  rw [List.map_const']
  rfl

theorem relatedAttributes_of_uniform {o : Operands V} (h : o.rightAttributes.length ≤ 1) :
    o.relatedAttributes = .ok (o.items.map fun item => o.rightAttributes.headD item.2) := by
  unfold Operands.relatedAttributes
  match hattributes : o.rightAttributes with
  | [] => rfl
  | [b] => exact spread_singleton .rightAttributes o.items b
  | _ :: _ :: _ =>
    rw [hattributes] at h
    exact absurd h (by simp)

theorem relatedViews_of_single {o : Operands V} {related : Option V} (h : o.rightViews = related.map ([·])) :
    o.relatedViews = .ok (o.items.map fun _ => related) := by
  unfold Operands.relatedViews
  rw [h]
  cases related with
  | none => rw [List.map_const']; rfl
  | some view =>
    show (·.map some) <$> spread .rightViews o.items.length [view] = _
    rw [spread_singleton]
    show Except.ok ((o.items.map fun _ => view).map some) = _
    rw [List.map_map]
    rfl

theorem constraints_of_uniform (e : Equation) (related : Option V) (b : Attribute → Attribute) (c : Constant)
    (items : List (V × Attribute)) (start : Nat) :
    (((items.map fun item => (item, related, b item.2, c)).zipIdx start).filterMap Operands.target?).map
      e.constraint = items.flatMap fun item => e.constraintsAt item.1 related (item.2, b item.2, c) := by
  induction items generalizing start with
  | nil => rfl
  | cons item items ih =>
    rw [List.map_cons, List.zipIdx_cons, List.flatMap_cons, ← ih (start + 1)]
    cases c with
    | value x => rfl
    | skip => rfl

/-- Where the right side has one entry for all targets, no list is refused. -/
theorem align_of_uniform (e : Equation) {o : Operands V} {related : Option V} {c : Constant} (hitems : o.items ≠ [])
    (hviews : o.rightViews = related.map ([·])) (hattributes : o.rightAttributes.length ≤ 1)
    (hconstants : o.constants = [c]) :
    ∃ targets, o.align = .ok targets ∧ targets.map e.constraint =
      o.items.flatMap fun item => e.constraintsAt item.1 related (item.2, o.rightAttributes.headD item.2, c) := by
  refine ⟨_, ?_, constraints_of_uniform e related (fun a => o.rightAttributes.headD a) c o.items 0⟩
  unfold Operands.align
  rw [if_neg (by simpa using hitems), relatedAttributes_of_uniform hattributes, relatedViews_of_single hviews,
    hconstants, spread_singleton]
  simp only [ok_bind, List.zip_map']
  rw [← List.map_prod_left_eq_zip]

/-! ## Attribute lists -/

theorem AttributeName.expand_primitive (as : List Attribute) : expand (as.map primitive) = as := by
  unfold expand
  rw [List.flatMap_map]
  exact List.flatMap_singleton' as

theorem AttributeName.expand_ne_nil {as : List AttributeName} (h : as ≠ []) : expand as ≠ [] := by
  obtain ⟨a, as, rfl⟩ := List.exists_cons_of_ne_nil h
  have hparts : a.parts ≠ [] := by cases a <;> exact List.cons_ne_nil _ _
  rw [expand, List.flatMap_cons]
  exact List.append_ne_nil_of_left_ne_nil hparts _

end LayoutEquations
