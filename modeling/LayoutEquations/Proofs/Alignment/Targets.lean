import LayoutEquations.Proofs.Alignment

/-!
# Which lists align, and to what

An equation with `k` views and `n` attributes on its left has `o.count = k * n` targets, attribute by attribute:
target `i` is the view `i % k` with the attribute `i / k` (`getElem?_items`). `Operands.Refused` says which list is
refused first, and how; `Operands.TargetAt` what a target is made of. Lists align unless one of them is refused, and
then there is one target for each place without a skipped constant, in increasing order (`align_exact`).
-/

namespace LayoutEquations

variable {α β γ V : Type} {o : Operands V}

/-! ## Places in a product -/

theorem length_flatMap_map (as : List α) (bs : List β) (f : α → β → γ) :
    (as.flatMap fun a => bs.map (f a)).length = bs.length * as.length := by
  induction as with
  | nil => simp
  | cons a as ih =>
    rw [List.flatMap_cons, List.length_append, List.length_map, ih, List.length_cons, Nat.mul_succ]
    omega

theorem getElem?_flatMap_map (as : List α) (bs : List β) (f : α → β → γ) {i : Nat} (hi : i < bs.length * as.length) :
    ∃ a b, as[i / bs.length]? = some a ∧ bs[i % bs.length]? = some b ∧
      (as.flatMap fun a => bs.map (f a))[i]? = some (f a b) := by
  induction as generalizing i with
  | nil => simp at hi
  | cons a as ih =>
    rw [List.length_cons, Nat.mul_succ] at hi
    rw [List.flatMap_cons]
    by_cases hlt : i < bs.length
    · refine ⟨a, bs[i], ?_, ?_, ?_⟩
      · rw [Nat.div_eq_of_lt hlt]
        rfl
      · rw [Nat.mod_eq_of_lt hlt]
        exact List.getElem?_eq_getElem hlt
      · rw [List.getElem?_append_left (by simpa using hlt), List.getElem?_map, List.getElem?_eq_getElem hlt]
        rfl
    · have hpos : 0 < bs.length := by
        by_contra hzero
        have : bs.length = 0 := by omega
        simp [this] at hi
      obtain ⟨a', b, ha, hb, hab⟩ := ih (i := i - bs.length) (by omega)
      have hdiv : i / bs.length = (i - bs.length) / bs.length + 1 := by
        rw [Nat.div_eq_sub_div hpos (by omega)]
      have hmod : (i - bs.length) % bs.length = i % bs.length := (Nat.mod_eq_sub_mod (by omega)).symm
      refine ⟨a', b, ?_, ?_, ?_⟩
      · rw [hdiv, List.getElem?_cons_succ, ha]
      · rw [← hmod, hb]
      · rw [List.getElem?_append_right (by simpa using hlt), List.length_map, hab]

/-! ## Targets by their places -/

namespace Operands

/-- The number of targets, those of skipped constants included. -/
def count (o : Operands V) : Nat := o.leftViews.length * o.leftAttributes.length

theorem length_items (o : Operands V) : o.items.length = o.count :=
  length_flatMap_map o.leftAttributes o.leftViews fun a v => (v, a)

/-- The targets are ordered by attribute, then by view. -/
theorem getElem?_items {i : Nat} (hi : i < o.count) :
    ∃ view a, o.leftViews[i % o.leftViews.length]? = some view ∧
      o.leftAttributes[i / o.leftViews.length]? = some a ∧ o.items[i]? = some (view, a) := by
  obtain ⟨a, view, ha, hview, hitem⟩ :=
    getElem?_flatMap_map o.leftAttributes o.leftViews (fun a v => (v, a)) hi
  exact ⟨view, a, hview, ha, hitem⟩

/-- What the operands say of a target: its item, its constant, and what it is related to. -/
structure TargetAt (o : Operands V) (t : Target V) : Prop where
  itemView : o.leftViews[t.index % o.leftViews.length]? = some t.itemView
  itemAttribute : o.leftAttributes[t.index / o.leftViews.length]? = some t.itemAttribute
  constant : entryAt o.constants t.index = [.value t.constant]
  unrelated : o.rightViews = none → t.relatedView = none ∧ t.relatedAttribute = none
  related : ∀ views, o.rightViews = some views → ∃ view a, t.relatedView = some view ∧
    t.relatedAttribute = some a ∧ entryAt views t.index = [view] ∧
    (o.rightAttributes = [] → a = t.itemAttribute) ∧
    (o.rightAttributes ≠ [] → entryAt o.rightAttributes t.index = [a])

/-! ## Lists that fit -/

/-- There are no related attributes, or they fit. -/
def AttributesFit (o : Operands V) : Prop := o.rightAttributes = [] ∨ Fits o.count o.rightAttributes

/-- There are no related views, or they fit. -/
def ViewsFit (o : Operands V) : Prop := ∀ views, o.rightViews = some views → Fits o.count views

end Operands

/-- How a list of this length is refused. -/
def misfit (part : ListPart) (n got : Nat) : AlignError :=
  if got = 0 then .empty part else .sizeMismatch part n got

theorem ne_nil_of_fits {n : Nat} {xs : List α} (hn : 0 < n) (h : Fits n xs) : xs ≠ [] := by
  apply List.ne_nil_of_length_pos
  rcases h with h | h <;> omega

theorem spread_of_misfit (part : ListPart) {n : Nat} {xs : List α} (h : ¬ Fits n xs) :
    spread part n xs = .error (misfit part n xs.length) := by
  by_cases hne : xs = []
  · subst hne
    rfl
  · rw [spread_of_not_fits part hne h, misfit, if_neg (by simpa using hne)]

theorem exists_spread (part : ListPart) {n : Nat} {xs : List α} (hn : 0 < n) (h : Fits n xs) :
    ∃ ys, spread part n xs = .ok ys ∧ ys.length = n ∧ ∀ i y, ys[i]? = some y → entryAt xs i = [y] := by
  obtain ⟨ys, hspread, hlength, hentry⟩ := spread_of_fits part (ne_nil_of_fits hn h) h
  refine ⟨ys, hspread, hlength, fun i y hy => ?_⟩
  obtain ⟨hi, rfl⟩ := List.getElem?_eq_some_iff.1 hy
  exact hentry i hi

namespace Operands

theorem exists_relatedAttributes (hcount : 0 < o.count) (h : o.AttributesFit) :
    ∃ as, o.relatedAttributes = .ok as ∧ as.length = o.count ∧
      (o.rightAttributes = [] → as = o.items.map (·.2)) ∧
      (o.rightAttributes ≠ [] → ∀ i a, as[i]? = some a → entryAt o.rightAttributes i = [a]) := by
  unfold relatedAttributes
  by_cases hnil : o.rightAttributes = []
  · refine ⟨o.items.map (·.2), by rw [if_pos (by simpa using hnil)], ?_, fun _ => rfl, fun hne => absurd hnil hne⟩
    rw [List.length_map, length_items]
  · rw [if_neg (by simpa using hnil), length_items]
    obtain ⟨as, hspread, hlength, hentry⟩ := exists_spread .rightAttributes hcount (h.resolve_left hnil)
    exact ⟨as, hspread, hlength, fun hnil' => absurd hnil' hnil, fun _ => hentry⟩

theorem relatedAttributes_of_misfit (h : ¬ o.AttributesFit) :
    o.relatedAttributes = .error (misfit .rightAttributes o.count o.rightAttributes.length) := by
  obtain ⟨hne, hfits⟩ := not_or.1 h
  rw [relatedAttributes, if_neg (by simpa using hne), length_items, spread_of_misfit _ hfits]

theorem exists_relatedViews (hcount : 0 < o.count) (h : o.ViewsFit) :
    ∃ vs, o.relatedViews = .ok vs ∧ vs.length = o.count ∧
      (o.rightViews = none → ∀ v ∈ vs, v = none) ∧
      ∀ views, o.rightViews = some views → ∀ i v, vs[i]? = some v →
        ∃ view, v = some view ∧ entryAt views i = [view] := by
  unfold relatedViews
  split
  · next hnone =>
    refine ⟨_, rfl, by rw [List.length_replicate, length_items], fun _ v hv => List.eq_of_mem_replicate hv, ?_⟩
    intro views hviews
    rw [hnone] at hviews
    cases hviews
  · next views hsome =>
    obtain ⟨vs, hspread, hlength, hentry⟩ := exists_spread .rightViews hcount (h views hsome)
    rw [length_items, hspread]
    refine ⟨vs.map some, rfl, by rw [List.length_map, hlength], fun hnone => ?_, ?_⟩
    · rw [hsome] at hnone
      cases hnone
    · intro views' hviews i v hv
      rw [hsome] at hviews
      obtain rfl := Option.some.inj hviews
      rw [List.getElem?_map] at hv
      obtain ⟨view, hview, rfl⟩ := Option.map_eq_some_iff.1 hv
      exact ⟨view, rfl, hentry i view hview⟩

theorem relatedViews_of_misfit {views : List V} (hviews : o.rightViews = some views) (h : ¬ Fits o.count views) :
    o.relatedViews = .error (misfit .rightViews o.count views.length) := by
  rw [relatedViews, hviews, length_items]
  dsimp only
  rw [spread_of_misfit _ h]
  rfl

/-! ## Rows and their targets -/

theorem target?_eq_some_iff {row : (V × Attribute) × Option V × Attribute × Constant} {i : Nat} {t : Target V} :
    target? (row, i) = some t ↔
      ∃ x, row.2.2.2 = .value x ∧ t = ⟨i, row.1.1, row.1.2, row.2.1, row.2.1.map fun _ => row.2.2.1, x⟩ := by
  obtain ⟨item, view, a, c⟩ := row
  cases c with
  | skip => simp [target?]
  | value x => simp [target?, eq_comm]

/-- The places of the targets are those of the rows whose constant is not skipped, in order. -/
theorem map_index_targets {rows : List ((V × Attribute) × Option V × Attribute × Constant)} {keep : Nat → Bool}
    (h : ∀ i row, rows[i]? = some row → keep i = decide (row.2.2.2 ≠ .skip)) :
    (rows.zipIdx.filterMap target?).map Target.index = (List.range rows.length).filter keep := by
  have hindex : ∀ entry ∈ rows.zipIdx, (target? entry).map Target.index = Option.guard keep entry.2 := by
    rintro ⟨⟨item, view, a, c⟩, i⟩ hentry
    have hkeep := h i _ (List.mem_zipIdx_iff_getElem?.1 hentry)
    cases c with
    | skip => simp [target?, Option.guard, hkeep]
    | value x => simp [target?, Option.guard, hkeep]
  rw [List.map_filterMap, List.filterMap_congr hindex, ← List.filterMap_eq_filter, List.range_eq_range',
    ← List.zipIdx_map_snd 0 rows, List.filterMap_map]
  rfl

/-! ## Aligning -/

/-- The first list that does not fit, and how it is refused. -/
inductive Refused (o : Operands V) : AlignError → Prop
  | leftTargets (hcount : o.count = 0) : Refused o (.empty .leftTargets)
  | rightAttributes (hcount : 0 < o.count) (h : ¬ o.AttributesFit) :
      Refused o (misfit .rightAttributes o.count o.rightAttributes.length)
  | rightViews {views : List V} (hcount : 0 < o.count) (ha : o.AttributesFit) (hviews : o.rightViews = some views)
      (h : ¬ Fits o.count views) : Refused o (misfit .rightViews o.count views.length)
  | constants (hcount : 0 < o.count) (ha : o.AttributesFit) (hv : o.ViewsFit) (h : ¬ Fits o.count o.constants) :
      Refused o (misfit .constants o.count o.constants.length)

theorem align_of_count (hcount : 0 < o.count) :
    o.align = (do
      let attributes ← o.relatedAttributes
      let views ← o.relatedViews
      let constants ← spread .constants o.count o.constants
      .ok ((o.items.zip (views.zip (attributes.zip constants))).zipIdx.filterMap target?)) := by
  have hne : o.items ≠ [] := by
    apply List.ne_nil_of_length_pos
    rwa [length_items]
  rw [align, if_neg (by simpa using hne), length_items]

theorem align_of_refused {err : AlignError} (h : o.Refused err) : o.align = .error err := by
  cases h with
  | leftTargets hcount =>
    have hnil : o.items = [] := List.length_eq_zero_iff.1 (o.length_items.trans hcount)
    rw [align, hnil]
    rfl
  | rightAttributes hcount h =>
    rw [align_of_count hcount, relatedAttributes_of_misfit h, error_bind]
  | rightViews hcount ha hviews h =>
    obtain ⟨as, has, -⟩ := exists_relatedAttributes hcount ha
    rw [align_of_count hcount, has, ok_bind, relatedViews_of_misfit hviews h, error_bind]
  | constants hcount ha hv h =>
    obtain ⟨as, has, -⟩ := exists_relatedAttributes hcount ha
    obtain ⟨vs, hvs, -⟩ := exists_relatedViews hcount hv
    rw [align_of_count hcount, has, ok_bind, hvs, ok_bind, spread_of_misfit _ h, error_bind]

theorem exists_align (hcount : 0 < o.count) (ha : o.AttributesFit) (hv : o.ViewsFit)
    (hc : Fits o.count o.constants) :
    ∃ targets, o.align = .ok targets ∧
      targets.map Target.index = (List.range o.count).filter (fun i => entryAt o.constants i ≠ [.skip]) ∧
      ∀ t ∈ targets, o.TargetAt t := by
  obtain ⟨as, has, hasLength, hmirrored, hasAt⟩ := exists_relatedAttributes hcount ha
  obtain ⟨vs, hvs, hvsLength, hunrelated, hvsAt⟩ := exists_relatedViews hcount hv
  obtain ⟨cs, hcs, hcsLength, hcsAt⟩ := exists_spread .constants hcount hc
  have hrow : ∀ (i : Nat) row, (o.items.zip (vs.zip (as.zip cs)))[i]? = some row →
      o.items[i]? = some row.1 ∧ vs[i]? = some row.2.1 ∧ as[i]? = some row.2.2.1 ∧ cs[i]? = some row.2.2.2 := by
    intro i row h
    obtain ⟨hitem, h⟩ := List.getElem?_zip_eq_some.1 h
    obtain ⟨hview, h⟩ := List.getElem?_zip_eq_some.1 h
    exact ⟨hitem, hview, List.getElem?_zip_eq_some.1 h⟩
  have hlength : (o.items.zip (vs.zip (as.zip cs))).length = o.count := by
    simp only [List.length_zip, length_items, hvsLength, hasLength, hcsLength, Nat.min_self]
  refine ⟨_, by rw [align_of_count hcount, has, ok_bind, hvs, ok_bind, hcs, ok_bind], ?_, fun t ht => ?_⟩
  · rw [← hlength]
    refine map_index_targets fun i row h => ?_
    rw [hcsAt i _ (hrow i row h).2.2.2]
    simp
  · obtain ⟨⟨row, i⟩, hentry, htarget⟩ := List.mem_filterMap.1 ht
    obtain ⟨x, hx, rfl⟩ := target?_eq_some_iff.1 htarget
    obtain ⟨hitem, hview, hattribute, hconstant⟩ := hrow i row (List.mem_zipIdx_iff_getElem?.1 hentry)
    obtain ⟨hi, -⟩ := List.getElem?_eq_some_iff.1 hitem
    rw [length_items] at hi
    obtain ⟨view, a, hviewAt, haAt, hitemAt⟩ := getElem?_items hi
    obtain hitem : (view, a) = row.1 := Option.some.inj (hitemAt.symm.trans hitem)
    refine ⟨hviewAt.trans (congrArg (some ·.1) hitem), haAt.trans (congrArg (some ·.2) hitem), ?_, ?_, ?_⟩
    · rw [hcsAt i _ hconstant, hx]
    · intro hnone
      have hv := hunrelated hnone _ (List.mem_of_getElem? hview)
      exact ⟨hv, by simp [hv]⟩
    · intro views hviews
      obtain ⟨related, hrelated, hentryAt⟩ := hvsAt views hviews i _ hview
      refine ⟨related, row.2.2.1, hrelated, by simp [hrelated], hentryAt, fun hnil => ?_, fun hne => ?_⟩
      · rw [hmirrored hnil, List.getElem?_map, hitemAt, hitem] at hattribute
        exact (Option.some.inj hattribute).symm
      · exact hasAt hne i _ hattribute

theorem fit_or_refused (o : Operands V) :
    (0 < o.count ∧ o.AttributesFit ∧ o.ViewsFit ∧ Fits o.count o.constants) ∨ ∃ err, o.Refused err := by
  by_cases hcount : o.count = 0
  · exact .inr ⟨_, .leftTargets hcount⟩
  have hpos : 0 < o.count := by omega
  by_cases ha : o.AttributesFit
  · by_cases hv : o.ViewsFit
    · by_cases hc : Fits o.count o.constants
      · exact .inl ⟨hpos, ha, hv, hc⟩
      · exact .inr ⟨_, .constants hpos ha hv hc⟩
    · unfold ViewsFit at hv
      push Not at hv
      obtain ⟨views, hviews, hmisfit⟩ := hv
      exact .inr ⟨_, .rightViews hpos ha hviews hmisfit⟩
  · exact .inr ⟨_, .rightAttributes hpos ha⟩

theorem fit_of_align {targets : List (Target V)} (h : o.align = .ok targets) :
    0 < o.count ∧ o.AttributesFit ∧ o.ViewsFit ∧ Fits o.count o.constants := by
  rcases o.fit_or_refused with hfit | ⟨err, hrefused⟩
  · exact hfit
  · rw [align_of_refused hrefused] at h
    cases h

theorem refused_of_align {err : AlignError} (h : o.align = .error err) : o.Refused err := by
  rcases o.fit_or_refused with ⟨hcount, ha, hv, hc⟩ | ⟨err', hrefused⟩
  · obtain ⟨targets, halign, -⟩ := exists_align hcount ha hv hc
    rw [halign] at h
    cases h
  · obtain rfl := Except.error.inj ((align_of_refused hrefused).symm.trans h)
    exact hrefused

end Operands

/-- Lists align exactly where there are targets and every list fits them; else the first that does not is refused.
There is one target for each place whose constant is not skipped, in increasing order, and it is what the lists say. -/
theorem align_exact (o : Operands V) :
    ((∃ targets, o.align = .ok targets) ↔
      0 < o.count ∧ o.AttributesFit ∧ o.ViewsFit ∧ Fits o.count o.constants) ∧
    (∀ err, o.align = .error err ↔ o.Refused err) ∧
    ∀ targets, o.align = .ok targets →
      targets.map Target.index = (List.range o.count).filter (fun i => entryAt o.constants i ≠ [.skip]) ∧
      ∀ t ∈ targets, o.TargetAt t := by
  refine ⟨⟨fun ⟨targets, h⟩ => Operands.fit_of_align h, ?_⟩,
    fun err => ⟨Operands.refused_of_align, Operands.align_of_refused⟩, fun targets h => ?_⟩
  · rintro ⟨hcount, ha, hv, hc⟩
    obtain ⟨targets, halign, -⟩ := Operands.exists_align hcount ha hv hc
    exact ⟨targets, halign⟩
  · obtain ⟨hcount, ha, hv, hc⟩ := Operands.fit_of_align h
    obtain ⟨targets', halign, hexact⟩ := Operands.exists_align hcount ha hv hc
    obtain rfl := Except.ok.inj (halign.symm.trans h)
    exact hexact

/-- Two views with two attributes, each target with a related view of its own; the constant of target `1` is skipped. -/
def pairedOperands : Operands Nat where
  leftViews := [1, 2]
  leftAttributes := [.width, .height]
  rightViews := some [5, 6, 7, 8]
  rightAttributes := []
  constants := [.value .one, .skip, .value .zero, .value .one]

/-- The targets of `pairedOperands`. Of its lists with three related attributes and no constants, the attributes are
refused. -/
theorem align_exact_sample :
    (∃ targets, pairedOperands.align = .ok targets ∧ targets.map Target.index = [0, 2, 3] ∧
      (∀ t ∈ targets, pairedOperands.TargetAt t) ∧
      ⟨2, 1, .height, some 7, some .height, .zero⟩ ∈ targets) ∧
    { pairedOperands with rightAttributes := [.top, .left, .right], constants := [] }.align =
      .error (.sizeMismatch .rightAttributes 4 3) := by
  have halign : pairedOperands.align = .ok
      [⟨0, 1, .width, some 5, some .width, .one⟩, ⟨2, 1, .height, some 7, some .height, .zero⟩,
        ⟨3, 2, .height, some 8, some .height, .one⟩] := by decide +kernel
  obtain ⟨-, -, hexact⟩ := align_exact pairedOperands
  obtain ⟨-, htargets⟩ := hexact _ halign
  obtain ⟨-, hrefused, -⟩ :=
    align_exact { pairedOperands with rightAttributes := [.top, .left, .right], constants := [] }
  refine ⟨⟨_, halign, rfl, htargets, by simp⟩, (hrefused _).2 (.rightAttributes (by decide) ?_)⟩
  rintro (h | h | h) <;> cases h

end LayoutEquations
