import Mathlib.Data.Finset.Card
import LayoutEquations.Proofs.View.KeyPaths
import LayoutEquations.Proofs.View.References

/-!
# Declarations in sequence

A declaration is for a place: an owner and a key. A table holds its places in two levels, a dictionary for each owner;
`KeyPathTable.places` lists them. As owners differ and the keys of a dictionary differ, no place is listed twice
(`nodup_places`), so the sizes of the dictionaries add up to the number of places (`size_eq_length_places`). One
declaration adds its own place (`mem_places_insert`). After a sequence of declarations (`ofDeclarations`) the places are
those of the declarations, and each of them answers with the target of the latest declaration for it
(`lookup_ofDeclarations_eq_some_iff`).
-/

namespace LayoutEquations

/-- That `owner.key` is `target`. -/
structure Declaration (V : Type) where
  owner : V
  key : String
  target : V

namespace Declaration

variable {V : Type}

def place (d : Declaration V) : V × String := (d.owner, d.key)

/-- One of the declarations, with none behind it for the same place. -/
def IsLatest (d : Declaration V) (ds : List (Declaration V)) : Prop :=
  ∃ before after, ds = before ++ d :: after ∧ ∀ e ∈ after, e.place ≠ d.place

theorem not_isLatest_nil {d : Declaration V} : ¬ d.IsLatest [] := by
  rintro ⟨before, after, h, -⟩
  simp at h

/-- One more declaration is the latest for its own place, and leaves those for the other places. -/
theorem isLatest_concat {d e : Declaration V} {ds : List (Declaration V)} :
    d.IsLatest (ds ++ [e]) ↔ d = e ∨ e.place ≠ d.place ∧ d.IsLatest ds := by
  constructor
  · rintro ⟨before, after, hds, hafter⟩
    rcases List.eq_nil_or_concat after with rfl | ⟨after, last, rfl⟩
    · obtain ⟨-, hlast⟩ := List.append_inj' hds rfl
      exact .inl (List.singleton_inj.1 hlast).symm
    · have hfront : ds ++ [e] = (before ++ d :: after) ++ [last] := by simpa using hds
      obtain ⟨rfl, hlast⟩ := List.append_inj' hfront rfl
      obtain rfl := List.singleton_inj.1 hlast
      refine .inr ⟨hafter e (by simp), before, after, rfl, fun e' he' => ?_⟩
      exact hafter e' (by simp [he'])
  · rintro (rfl | ⟨hne, before, after, rfl, hafter⟩)
    · exact ⟨ds, [], rfl, by simp⟩
    · refine ⟨before, after ++ [e], by simp, fun e' he' => ?_⟩
      rcases List.mem_append.1 he' with he' | he'
      · exact hafter e' he'
      · rw [List.mem_singleton.1 he']
        exact hne

end Declaration

/-! ## The keys of a dictionary -/

namespace Dictionary

variable {α : Type}

theorem mem_keys_iff {d : Dictionary α} {key : String} : key ∈ d.keys ↔ ∃ value, d.get? key = some value := by
  simp [keys, get?_eq_some_iff]

theorem nodup_keys (d : Dictionary α) : d.keys.Nodup :=
  List.pairwise_map.2 d.distinct

theorem length_keys (d : Dictionary α) : d.keys.length = d.size := List.length_map _

end Dictionary

namespace KeyPathTable

variable {V : Type}

/-! ## The places of a table -/

def places (t : KeyPathTable V) : List (V × String) :=
  t.owners.flatMap fun (owner, properties) => properties.keys.map (owner, ·)

theorem nodup_places (t : KeyPathTable V) : t.places.Nodup := by
  refine List.nodup_flatMap.2 ⟨fun o _ => o.2.nodup_keys.map (Prod.mk_right_injective o.1), ?_⟩
  -- a place in two dictionaries would have two owners
  refine t.distinct.imp fun hne place h h' => ?_
  obtain ⟨_, -, rfl⟩ := List.mem_map.1 h
  obtain ⟨_, -, heq⟩ := List.mem_map.1 h'
  exact hne (Prod.mk.inj heq).1.symm

/-- The sizes of the dictionaries add up to the number of places. -/
theorem size_eq_length_places (t : KeyPathTable V) : t.size = t.places.length := by
  have hsize : t.size = (t.owners.map (·.2.size)).sum := by
    rw [List.sum_eq_foldl_nat, List.foldl_map]
    rfl
  rw [hsize, places, List.length_flatMap]
  congr 1
  refine List.map_congr_left fun o _ => ?_
  rw [List.length_map, Dictionary.length_keys]

variable [DecidableEq V] {owner view target : V} {key property : String} {place : V × String}

theorem size_eq_card (t : KeyPathTable V) : t.size = t.places.toFinset.card := by
  rw [size_eq_length_places, List.toFinset_card_of_nodup t.nodup_places]

theorem properties?_eq_some_iff {t : KeyPathTable V} {properties : Dictionary V} :
    t.properties? view = some properties ↔ (view, properties) ∈ t.owners :=
  map_find?_eq_some_iff t.distinct

theorem mem_places_iff {t : KeyPathTable V} :
    (view, property) ∈ t.places ↔ ∃ target, t.lookup view property = some target := by
  have hplaces : (view, property) ∈ t.places ↔
      ∃ properties, (view, properties) ∈ t.owners ∧ property ∈ properties.keys := by
    simp [places]
  rw [hplaces]
  simp only [lookup, Option.bind_eq_some_iff, properties?_eq_some_iff, Dictionary.mem_keys_iff]
  constructor
  · rintro ⟨properties, howner, target, htarget⟩
    exact ⟨target, properties, howner, htarget⟩
  · rintro ⟨target, properties, howner, htarget⟩
    exact ⟨properties, howner, target, htarget⟩

/-! ## Tables of declarations -/

theorem mem_places_insert (t : KeyPathTable V) :
    place ∈ (t.insert owner key target).places ↔ place = (owner, key) ∨ place ∈ t.places := by
  obtain ⟨view, property⟩ := place
  rw [mem_places_iff, mem_places_iff, lookup_insert, Prod.mk.injEq]
  by_cases h : view = owner ∧ property = key
  · simp [h]
  · simp [h]

def ofDeclarations (ds : List (Declaration V)) : KeyPathTable V :=
  ds.foldl (fun t d => t.insert d.owner d.key d.target) empty

theorem ofDeclarations_concat (ds : List (Declaration V)) (d : Declaration V) :
    ofDeclarations (ds ++ [d]) = (ofDeclarations ds).insert d.owner d.key d.target := by
  rw [ofDeclarations, List.foldl_append]
  rfl

/-- A place answers with the target of the latest declaration for it. -/
theorem lookup_ofDeclarations_eq_some_iff {ds : List (Declaration V)} :
    (ofDeclarations ds).lookup view property = some target ↔ Declaration.IsLatest ⟨view, property, target⟩ ds := by
  -- from the end, as the last declaration decides for its place and all others leave that to the ones before it
  induction ds using List.reverseRecOn with
  | nil => exact iff_of_false (by simp [ofDeclarations]) Declaration.not_isLatest_nil
  | append_singleton ds d ih =>
    rw [ofDeclarations_concat, Declaration.isLatest_concat]
    by_cases h : (view, property) = d.place
    · obtain ⟨rfl, rfl⟩ := Prod.mk.inj h
      rw [lookup_insert_self, Option.some_inj]
      constructor
      · rintro rfl
        exact .inl rfl
      · rintro (heq | ⟨hne, -⟩)
        · exact congrArg Declaration.target heq.symm
        · exact absurd rfl hne
    · rw [lookup_insert_of_ne _ h, ih]
      constructor
      · intro hlatest
        exact .inr ⟨Ne.symm h, hlatest⟩
      · rintro (rfl | ⟨-, hlatest⟩)
        · exact absurd rfl h
        · exact hlatest

theorem mem_places_ofDeclarations {ds : List (Declaration V)} :
    place ∈ (ofDeclarations ds).places ↔ ∃ d ∈ ds, d.place = place := by
  induction ds using List.reverseRecOn with
  | nil => simp [ofDeclarations, places, empty]
  | append_singleton ds d ih =>
    rw [ofDeclarations_concat, mem_places_insert, ih]
    simp only [List.mem_append, List.mem_singleton, or_and_right, exists_or, exists_eq_left]
    rw [or_comm, @eq_comm _ place]
    rfl

theorem lookup_ofDeclarations_eq_none_iff {ds : List (Declaration V)} :
    (ofDeclarations ds).lookup view property = none ↔ ∀ d ∈ ds, d.place ≠ (view, property) := by
  have hplace : (ofDeclarations ds).lookup view property = none ↔ (view, property) ∉ (ofDeclarations ds).places := by
    rw [mem_places_iff, Option.eq_none_iff_forall_ne_some, not_exists]
  rw [hplace, mem_places_ofDeclarations]
  simp only [not_exists, not_and, ne_eq]

theorem size_ofDeclarations (ds : List (Declaration V)) :
    (ofDeclarations ds).size = (ds.map Declaration.place).toFinset.card := by
  rw [size_eq_card]
  congr 1
  ext place
  rw [List.mem_toFinset, List.mem_toFinset, mem_places_ofDeclarations, List.mem_map]

theorem isEmpty_ofDeclarations_iff {ds : List (Declaration V)} : (ofDeclarations ds).isEmpty = true ↔ ds = [] := by
  rw [isEmpty, beq_iff_eq, size_ofDeclarations, Finset.card_eq_zero, List.toFinset_eq_empty_iff, List.map_eq_nil_iff]

/-- After any declarations a place answers with the target of the latest one for it, and with nothing when there is
none. One more declaration changes no other answer. The places declared are counted once each, so a table is empty only
when nothing was declared. -/
theorem ofDeclarations_last_wins (ds : List (Declaration V)) :
    (∀ view key target, (ofDeclarations ds).lookup view key = some target ↔
        Declaration.IsLatest ⟨view, key, target⟩ ds) ∧
      (∀ view key, (ofDeclarations ds).lookup view key = none ↔ ∀ d ∈ ds, d.place ≠ (view, key)) ∧
      (∀ owner key target view property, (view, property) ≠ (owner, key) →
        ((ofDeclarations ds).insert owner key target).lookup view property =
          (ofDeclarations ds).lookup view property) ∧
      (ofDeclarations ds).size = (ds.map Declaration.place).toFinset.card ∧
      ((ofDeclarations ds).isEmpty = true ↔ ds = []) := by
  refine ⟨?_, ?_, ?_, size_ofDeclarations ds, isEmpty_ofDeclarations_iff⟩
  · intro view key target
    exact lookup_ofDeclarations_eq_some_iff
  · intro view key
    exact lookup_ofDeclarations_eq_none_iff
  · intro owner key target view property h
    exact lookup_insert_of_ne _ h

/-- Two owners share a key, and one of them has it declared twice. -/
def redeclared : List (Declaration String) :=
  [⟨"header", "title", "a"⟩, ⟨"header", "icon", "b"⟩, ⟨"footer", "title", "c"⟩, ⟨"header", "title", "d"⟩]

/-- The second declaration counts, the other owner keeps its own, and three places are declared. -/
theorem ofDeclarations_last_wins_sample :
    let table := ofDeclarations redeclared
    table.lookup "header" "title" = some "d" ∧ table.lookup "footer" "title" = some "c" ∧
      table.lookup "footer" "icon" = none ∧ ("header", "title") ≠ ("footer", "icon") ∧
      (table.insert "footer" "icon" "e").lookup "header" "title" = some "d" ∧ table.size = 3 ∧
      table.isEmpty = false := by
  intro table
  obtain ⟨hlatest, hnone, hothers, hsize, hempty⟩ := ofDeclarations_last_wins redeclared
  have hheader : table.lookup "header" "title" = some "d" := (hlatest _ _ _).2 ⟨redeclared.take 3, [], rfl, by simp⟩
  have hfooter : table.lookup "footer" "title" = some "c" :=
    (hlatest _ _ _).2 ⟨redeclared.take 2, redeclared.drop 3, rfl, by decide⟩
  have hne : ("header", "title") ≠ ("footer", "icon") := by decide
  refine ⟨hheader, hfooter, (hnone _ _).2 (by decide), hne, ?_, hsize.trans (by decide), ?_⟩
  · rw [hothers "footer" "icon" "e" "header" "title" hne]
    exact hheader
  · exact Bool.eq_false_iff.2 fun h => absurd (hempty.1 h) (by simp [redeclared])

end KeyPathTable

end LayoutEquations
