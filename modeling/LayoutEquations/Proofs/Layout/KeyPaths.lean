import LayoutEquations.Layout
import LayoutEquations.Proofs.Results
import LayoutEquations.Proofs.Text.Classes
import LayoutEquations.Proofs.View.KeyPaths

/-!
# The keys of key paths

A key is taken apart at its first point (`splitKeyPath?_eq_some_iff`), and a layout has a scope when all its keys can be
taken apart, whatever they lead to (`exists_scope_iff`). What its table answers for a property of a view is what stands
under the key for them (`lookup_keyPathTable_iff`). Hence the views whose names hold a point have no properties: the key
path of one that a layout declares ends up with the view whose name is in front of the first point
(`lookup_keyPathTable_of_mem`).
-/

namespace LayoutEquations.Layout

/-- The key is the name of an owner without points, a point, and a property. -/
structure KeyFor (owner property key : String) : Prop where
  key_eq : key = owner ++ "." ++ property
  owner_ne : owner ≠ ""
  no_point : '.' ∉ owner.toList
  property_ne : property ≠ ""

def IsKeyPath (key : String) : Prop := ∃ owner property, KeyFor owner property key

variable {key owner property : String}

theorem splitKeyPath?_of_keyFor (h : KeyFor owner property key) : splitKeyPath? key = some (owner, property) := by
  obtain ⟨rfl, howner, hpoint, hproperty⟩ := h
  have hchars : (owner ++ "." ++ property).toList = owner.toList ++ '.' :: property.toList := by simp
  have hfront : ∀ c ∈ owner.toList, decide (c ≠ '.') = true := by
    intro c hc
    refine decide_eq_true ?_
    rintro rfl
    exact hpoint hc
  have htake : (owner ++ "." ++ property).toList.takeWhile (· ≠ '.') = owner.toList := by
    rw [hchars, List.takeWhile_append_of_pos hfront]
    simp
  have hdrop : ((owner ++ "." ++ property).toList.dropWhile (· ≠ '.')).drop 1 = property.toList := by
    rw [hchars, List.dropWhile_append_of_pos hfront]
    simp
  have hempty : ¬ (owner.toList.isEmpty || property.toList.isEmpty) = true := by simp [howner, hproperty]
  rw [splitKeyPath?, htake, hdrop, if_neg hempty, String.ofList_toList, String.ofList_toList]

theorem keyFor_of_splitKeyPath? (h : splitKeyPath? key = some (owner, property)) : KeyFor owner property key := by
  unfold splitKeyPath? at h
  dsimp only at h
  split at h
  · cases h
  next hempty =>
  obtain ⟨rfl, rfl⟩ := Prod.mk.inj (Option.some.inj h)
  obtain ⟨howner, hproperty⟩ : key.toList.takeWhile (· ≠ '.') ≠ [] ∧
    (key.toList.dropWhile (· ≠ '.')).drop 1 ≠ [] := by simpa using hempty
  have hkey : key.toList = key.toList.takeWhile (· ≠ '.') ++ key.toList.dropWhile (· ≠ '.') :=
    List.takeWhile_append_dropWhile.symm
  have hpoint : '.' ∉ key.toList.takeWhile (· ≠ '.') := by
    intro hmem
    simpa using List.all_eq_true.1 List.all_takeWhile _ hmem
  -- something is left behind the first character that the owner does not take, and that character is a point
  have hfirst := List.head?_dropWhile_not (· ≠ '.') key.toList
  generalize key.toList.takeWhile (· ≠ '.') = front at hkey hpoint howner ⊢
  generalize key.toList.dropWhile (· ≠ '.') = behind at hkey hproperty hfirst ⊢
  rcases behind with _ | ⟨c, cs⟩
  · exact absurd rfl hproperty
  · obtain rfl : c = '.' := by simpa using hfirst
    refine ⟨String.toList_inj.1 ?_, ?_, ?_, ?_⟩
    · simp [hkey]
    · simpa using howner
    · simpa using hpoint
    · simpa using hproperty

/-- Keys that name a property of a view are taken apart into the owner and the property, and no other key is. -/
theorem splitKeyPath?_eq_some_iff : splitKeyPath? key = some (owner, property) ↔ KeyFor owner property key :=
  ⟨keyFor_of_splitKeyPath?, splitKeyPath?_of_keyFor⟩

/-- A layout has a scope when all its keys name properties of views. -/
theorem exists_scope_iff {l : Layout} : (∃ scope, l.scope = .ok scope) ↔ ∀ e ∈ l.keyPaths.entries, IsKeyPath e.1 := by
  have hscope : (∃ scope, l.scope = .ok scope) ↔ ∃ table, l.keyPathTable = .ok table := by
    constructor
    · rintro ⟨scope, h⟩
      obtain ⟨table, htable, -⟩ := bind_eq_ok.1 h
      exact ⟨table, htable⟩
    · rintro ⟨table, htable⟩
      exact ⟨_, bind_eq_ok.2 ⟨table, htable, rfl⟩⟩
  rw [hscope, keyPathTable]
  generalize KeyPathTable.empty = table
  induction l.keyPaths.entries generalizing table with
  | nil => simp [pure, Except.pure]
  | cons e entries ih =>
    rw [List.forall_mem_cons, List.foldlM_cons]
    cases hsplit : splitKeyPath? e.1 with
    | none =>
      have hno : ¬ IsKeyPath e.1 := by
        rintro ⟨owner, property, h⟩
        rw [splitKeyPath?_eq_some_iff.2 h] at hsplit
        cases hsplit
      simp [hno]
    | some parts =>
      have hyes : IsKeyPath e.1 := ⟨_, _, splitKeyPath?_eq_some_iff.1 hsplit⟩
      rw [and_iff_right hyes]
      exact ih _

/-! ## What a table answers -/

theorem KeyFor.unique {owner' property' : String} (h : KeyFor owner property key) (h' : KeyFor owner' property' key) :
    owner = owner' ∧ property = property' := by
  have hsplit := splitKeyPath?_of_keyFor h
  rw [splitKeyPath?_of_keyFor h'] at hsplit
  exact ⟨congrArg (·.1) (Option.some.inj hsplit.symm), congrArg (·.2) (Option.some.inj hsplit.symm)⟩

/-- The step of `keyPathTable` for one entry. -/
def declare (t : KeyPathTable String) (e : String × String) : Except String (KeyPathTable String) :=
  match splitKeyPath? e.1 with
  | some (owner, property) => .ok (t.insert owner property e.2)
  | none => .error e.1

theorem declare_eq_ok {t t' : KeyPathTable String} {e : String × String} (h : declare t e = .ok t') :
    ∃ owner property, KeyFor owner property e.1 ∧ t' = t.insert owner property e.2 := by
  unfold declare at h
  cases hsplit : splitKeyPath? e.1 with
  | none =>
    rw [hsplit] at h
    cases h
  | some parts =>
    rw [hsplit] at h
    exact ⟨_, _, keyFor_of_splitKeyPath? hsplit, (Except.ok.inj h).symm⟩

/-- Entries with distinct keys: what is declared for a property is the entry under its key, and else what was declared
before. -/
theorem lookup_foldlM_declare {entries : List (String × String)} (hdistinct : entries.Pairwise (·.1 < ·.1))
    {t table : KeyPathTable String} (h : entries.foldlM declare t = .ok table) {target : String} :
    table.lookup owner property = some target ↔
      (∃ key, (key, target) ∈ entries ∧ KeyFor owner property key) ∨
        (∀ e ∈ entries, ¬ KeyFor owner property e.1) ∧ t.lookup owner property = some target := by
  induction entries generalizing t with
  | nil =>
    obtain rfl : t = table := Except.ok.inj h
    simp
  | cons e entries ih =>
    obtain ⟨key, x⟩ := e
    obtain ⟨hkey, hdistinct⟩ := List.pairwise_cons.1 hdistinct
    rw [List.foldlM_cons] at h
    obtain ⟨t', hdeclare, h⟩ := bind_eq_ok.1 h
    obtain ⟨o, p, hfor, rfl⟩ := declare_eq_ok hdeclare
    rw [ih hdistinct h, KeyPathTable.lookup_insert, List.forall_mem_cons]
    by_cases hsame : owner = o ∧ property = p
    · obtain ⟨rfl, rfl⟩ := hsame
      -- the keys behind are other keys, so none of them is for this property
      have hother : ∀ e ∈ entries, ¬ KeyFor owner property e.1 := by
        intro e he h'
        have hlt := hkey e he
        rw [hfor.key_eq, h'.key_eq] at hlt
        exact String.lt_irrefl _ hlt
      have hnone : ∀ x', ¬ ∃ key', (key', x') ∈ entries ∧ KeyFor owner property key' :=
        fun x' ⟨key', hmem, h'⟩ => hother _ hmem h'
      simp only [hnone, hfor, true_and, if_true, Option.some.injEq, List.mem_cons, Prod.mk.injEq, not_true_eq_false,
        false_and, or_false, false_or, or_and_right, exists_or]
      refine ⟨fun ⟨_, hx⟩ => ⟨key, ⟨rfl, hx.symm⟩, hfor⟩, fun ⟨key', ⟨_, hx⟩, _⟩ => ⟨hother, hx.symm⟩⟩
    · have hnot : ¬ KeyFor owner property key := fun h' => hsame (h'.unique hfor)
      have hmem : (∃ key', (key', target) ∈ (key, x) :: entries ∧ KeyFor owner property key') ↔
          ∃ key', (key', target) ∈ entries ∧ KeyFor owner property key' := by
        constructor
        · rintro ⟨key', hmem, h'⟩
          rcases List.mem_cons.1 hmem with heq | hmem
          · exact absurd ((Prod.mk.inj heq).1 ▸ h') hnot
          · exact ⟨key', hmem, h'⟩
        · rintro ⟨key', hmem, h'⟩
          exact ⟨key', List.mem_cons_of_mem _ hmem, h'⟩
      rw [if_neg hsame, hmem, and_iff_right hnot]

/-- The table of a layout answers with the target that stands under the key for the property, and with nothing when
there is no such key. -/
theorem lookup_keyPathTable_iff {l : Layout} {table : KeyPathTable String} (h : l.keyPathTable = .ok table)
    {target : String} :
    table.lookup owner property = some target ↔
      ∃ key, (key, target) ∈ l.keyPaths.entries ∧ KeyFor owner property key := by
  have hfold : l.keyPaths.entries.foldlM declare .empty = .ok table := h
  rw [lookup_foldlM_declare l.keyPaths.sorted hfold]
  simp

/-! ## Names with points -/

theorem isIdentifier_of_point {word : String} (h : '.' ∈ word.toList) : isIdentifier word = false := by
  have hstarts : startsWord '.' = false := startsWord_of_le (by decide)
  have hcontinues : continuesWord '.' = false := continuesWord_of_lt (by decide)
  unfold isIdentifier
  cases hword : word.toList with
  | nil => rfl
  | cons c cs =>
    rw [hword] at h
    show (startsWord c && cs.all continuesWord) = false
    rcases List.mem_cons.1 h with rfl | h
    · rw [hstarts, Bool.false_and]
    · have hall : cs.all continuesWord = false := List.all_eq_false.2 ⟨'.', h, by rw [hcontinues]; decide⟩
      rw [hall, Bool.and_false]

theorem KeyFor.of_point {front rest : String} (h : KeyFor front rest (owner ++ "." ++ property))
    (hpoint : '.' ∈ owner.toList) : ∃ back, owner = front ++ "." ++ back ∧ rest = back ++ "." ++ property := by
  have hchars : owner.toList ++ '.' :: property.toList = front.toList ++ '.' :: rest.toList := by
    simpa using congrArg String.toList h.key_eq
  rcases List.append_eq_append_iff.1 hchars with ⟨cs, hfront, -⟩ | ⟨cs, howner, hrest⟩
  · refine absurd ?_ h.no_point
    rw [hfront]
    exact List.mem_append_left _ hpoint
  rcases cs with _ | ⟨c, cs⟩
  · rw [List.append_nil] at howner
    exact absurd (howner ▸ hpoint) h.no_point
  · obtain ⟨rfl, hrest⟩ := List.cons.inj hrest
    refine ⟨String.ofList cs, String.toList_inj.1 ?_, String.toList_inj.1 ?_⟩
    · simpa using howner
    · simpa using hrest

/-- An entry for an identifier under a view. When the name of the view holds no point, the view has the entry's target
under the identifier. When it does, the view has nothing there: the target is that of the view in front of the first
point of the name, and under a text that is no identifier. -/
theorem lookup_keyPathTable_of_mem {l : Layout} {table : KeyPathTable String} (h : l.keyPathTable = .ok table)
    {target : String} (hentry : (owner ++ "." ++ property, target) ∈ l.keyPaths.entries) (howner : owner ≠ "")
    (hproperty : isIdentifier property = true) :
    ('.' ∉ owner.toList → table.lookup owner property = some target) ∧
      ('.' ∈ owner.toList → table.lookup owner property = none ∧
        ∃ front back, owner = front ++ "." ++ back ∧ '.' ∉ front.toList ∧
          table.lookup front (back ++ "." ++ property) = some target ∧
          isIdentifier (back ++ "." ++ property) = false) := by
  have hne : property ≠ "" := by
    rintro rfl
    cases hproperty
  refine ⟨fun hpoint => (lookup_keyPathTable_iff h).2 ⟨_, hentry, rfl, howner, hpoint, hne⟩, fun hpoint => ⟨?_, ?_⟩⟩
  · refine Option.eq_none_iff_forall_ne_some.2 fun x hx => ?_
    obtain ⟨key, -, hfor⟩ := (lookup_keyPathTable_iff h).1 hx
    exact hfor.no_point hpoint
  · have hscope : ∃ scope, l.scope = .ok scope := ⟨_, bind_eq_ok.2 ⟨table, h, rfl⟩⟩
    obtain ⟨front, rest, hfor⟩ := exists_scope_iff.1 hscope _ hentry
    obtain ⟨back, howner, rfl⟩ := hfor.of_point hpoint
    refine ⟨front, back, howner, hfor.no_point, (lookup_keyPathTable_iff h).2 ⟨_, hentry, hfor⟩, ?_⟩
    exact isIdentifier_of_point (by simp)

/-- A layout with a key path under a name without points and one under a name with a point. -/
def pointed : Layout := { keyPaths := .ofList [("a.b.title", "x"), ("header.title", "y")] }

/-- `header` has the property `title`, and `a.b` has not: `a` has a property `b.title`. -/
theorem lookup_keyPathTable_of_mem_sample :
    ∃ table, pointed.keyPathTable = .ok table ∧ table.lookup "header" "title" = some "y" ∧
      table.lookup "a.b" "title" = none ∧ table.lookup "a" "b.title" = some "x" := by
  obtain ⟨table, h⟩ : ∃ table, pointed.keyPathTable = .ok table := ⟨_, rfl⟩
  have hheader_mem : ("header" ++ "." ++ "title", "y") ∈ pointed.keyPaths.entries := by decide +kernel
  have hpointed_mem : ("a.b" ++ "." ++ "title", "x") ∈ pointed.keyPaths.entries := by decide +kernel
  have hheader := lookup_keyPathTable_of_mem h hheader_mem (by decide) (by decide +kernel)
  have hpointed := lookup_keyPathTable_of_mem h hpointed_mem (by decide) (by decide +kernel)
  refine ⟨table, h, hheader.1 (by decide), (hpointed.2 (by decide)).1, ?_⟩
  exact (lookup_keyPathTable_iff h).2 ⟨"a.b.title", by decide +kernel, rfl, by decide, by decide, by decide⟩

/-- A key path under a name with a point in it does not reach the view of that name. -/
theorem not_lookup_keyPathTable_of_mem :
    ¬ ∀ (l : Layout) (table : KeyPathTable String) (owner property target : String), l.keyPathTable = .ok table →
      (owner ++ "." ++ property, target) ∈ l.keyPaths.entries → owner ≠ "" → isIdentifier property = true →
        table.lookup owner property = some target := by
  intro hall
  obtain ⟨table, h⟩ : ∃ table, pointed.keyPathTable = .ok table := ⟨_, rfl⟩
  have hlookup := hall pointed table "a.b" "title" "x" h (by decide +kernel) (by decide) (by decide +kernel)
  obtain ⟨key, -, hfor⟩ := (lookup_keyPathTable_iff h).1 hlookup
  exact hfor.no_point (by decide)

end LayoutEquations.Layout
