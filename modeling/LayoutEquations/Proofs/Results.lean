/-!
# Results in sequence

How the result of a computation that may fail comes about: a sequence gives a value when each of its parts does and the
error of the first part that fails, and renaming its errors changes no value.
-/

namespace LayoutEquations

variable {α α' β β' ε ε' : Type}

theorem bind_eq_ok {x : Except ε α} {f : α → Except ε β} {b : β} :
    (x >>= f) = .ok b ↔ ∃ a, x = .ok a ∧ f a = .ok b := by
  cases x with
  | error e => exact ⟨fun h => (by cases h), fun ⟨a, h, _⟩ => (by cases h)⟩
  | ok a => exact ⟨fun h => ⟨a, rfl, h⟩, fun ⟨a', h, hf⟩ => (by cases h; exact hf)⟩

theorem bind_eq_error {x : Except ε α} {f : α → Except ε β} {e : ε} :
    (x >>= f) = .error e ↔ x = .error e ∨ ∃ a, x = .ok a ∧ f a = .error e := by
  cases x with
  | error e' =>
    refine ⟨fun h => .inl (by cases h; rfl), ?_⟩
    rintro (h | ⟨a, h, -⟩)
    · cases h
      rfl
    · cases h
  | ok a =>
    refine ⟨fun h => .inr ⟨a, rfl, h⟩, ?_⟩
    rintro (h | ⟨a', h, hf⟩)
    · cases h
    · cases h
      exact hf

theorem error_of_bind {x : Except ε α} {f : α → Except ε β} {e : ε} (h : (x >>= f) = .error e)
    (hf : ∀ a, ∃ b, f a = .ok b) : x = .error e := by
  rcases bind_eq_error.1 h with hx | ⟨a, -, ha⟩
  · exact hx
  · obtain ⟨b, hb⟩ := hf a
    rw [hb] at ha
    cases ha

@[simp] theorem ok_bind (a : α) (f : α → Except ε β) : ((.ok a : Except ε α) >>= f) = f a := rfl

@[simp] theorem error_bind (e : ε) (f : α → Except ε β) : ((.error e : Except ε α) >>= f) = .error e := rfl

@[simp] theorem mapError_ok (f : ε → ε') (a : α) : (Except.ok a : Except ε α).mapError f = .ok a := rfl

@[simp] theorem mapError_error (f : ε → ε') (e : ε) : (Except.error e : Except ε α).mapError f = .error (f e) := rfl

theorem mapError_eq_ok {x : Except ε α} {f : ε → ε'} {a : α} : x.mapError f = .ok a ↔ x = .ok a := by
  cases x with
  | error e => exact ⟨fun h => (by cases h), fun h => (by cases h)⟩
  | ok b => exact ⟨fun h => (by cases h; rfl), fun h => (by cases h; rfl)⟩

theorem mapError_eq_error {x : Except ε α} {f : ε → ε'} {e : ε'} :
    x.mapError f = .error e ↔ ∃ e', x = .error e' ∧ e = f e' := by
  cases x with
  | error e' => simp [eq_comm]
  | ok a => simp

theorem bind_eq_map_bind {g : α → α'} {h : β → β'} {x : Except ε α} {y : Except ε α'} {k : α → Except ε β}
    {m : α' → Except ε β'} (hx : y = x.map g) (hk : ∀ a, m (g a) = (k a).map h) : (y >>= m) = (x >>= k).map h := by
  subst hx
  cases x with
  | error e => rfl
  | ok a => exact hk a

theorem map_mapError (f : ε → ε') (g : α → β) (x : Except ε α) : (x.map g).mapError f = (x.mapError f).map g := by
  cases x <;> rfl

theorem mapM_map {f : α → α'} {g : α → Except ε β} {g' : α' → Except ε β'} {h : β → β'}
    (hg : ∀ a, g' (f a) = (g a).map h) (as : List α) : (as.map f).mapM g' = (as.mapM g).map (List.map h) := by
  induction as with
  | nil => rfl
  | cons a as ih =>
    rw [List.map_cons, List.mapM_cons, List.mapM_cons]
    refine bind_eq_map_bind (hg a) fun b => ?_
    exact bind_eq_map_bind ih fun bs => rfl

theorem mapM_mapError (f : ε → ε') (g : α → Except ε β) (as : List α) :
    (as.mapM fun a => (g a).mapError f) = (as.mapM g).mapError f := by
  induction as with
  | nil => rfl
  | cons a as ih =>
    rw [List.mapM_cons, List.mapM_cons, ih]
    cases g a with
    | error e => rfl
    | ok b => cases as.mapM g <;> rfl

theorem optionMapM_eq_error {o : Option α} {f : α → Except ε β} {e : ε} :
    o.mapM f = .error e ↔ ∃ a, o = some a ∧ f a = .error e := by
  cases o with
  | none =>
    rw [Option.mapM_none]
    simp [pure, Except.pure]
  | some a =>
    show (f a >>= fun b => Except.ok (some b)) = _ ↔ _
    rw [bind_eq_error]
    simp

theorem mapM_eq_error_iff {f : α → Except ε β} {as : List α} {e : ε} :
    as.mapM f = .error e ↔
      ∃ before a after, as = before ++ a :: after ∧ (∀ a' ∈ before, ∃ b, f a' = .ok b) ∧ f a = .error e := by
  constructor
  · intro h
    induction as with
    | nil => cases h
    | cons a as ih =>
      rw [List.mapM_cons] at h
      rcases bind_eq_error.1 h with ha | ⟨b, ha, h⟩
      · exact ⟨[], a, as, rfl, List.forall_mem_nil _, ha⟩
      · obtain ⟨before, a', after, rfl, hbefore, ha'⟩ := ih (error_of_bind h fun _ => ⟨_, rfl⟩)
        exact ⟨a :: before, a', after, rfl, List.forall_mem_cons.2 ⟨⟨b, ha⟩, hbefore⟩, ha'⟩
  · rintro ⟨before, a, after, rfl, hbefore, ha⟩
    induction before with
    | nil =>
      rw [List.nil_append, List.mapM_cons, ha]
      rfl
    | cons a' before ih =>
      obtain ⟨⟨b, hb⟩, hbefore⟩ := List.forall_mem_cons.1 hbefore
      rw [List.cons_append, List.mapM_cons, hb, ok_bind, ih hbefore]
      rfl

end LayoutEquations
