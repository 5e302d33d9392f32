/-!
# Dictionaries

Values under text keys, kept in key order, so that every walk over a `Dictionary` is in that order. `insert` replaces
the value of a key that is there; hence of two entries for one key `ofList` keeps the later one.
-/

namespace LayoutEquations

variable {α : Type}

/-- Puts an entry in its place among entries in key order. -/
def insertEntry (key : String) (value : α) : List (String × α) → List (String × α)
  | [] => [(key, value)]
  | (k, v) :: entries =>
    if key < k then (key, value) :: (k, v) :: entries
    else if key = k then (key, value) :: entries
    else (k, v) :: insertEntry key value entries

theorem fst_of_mem_insertEntry {key : String} {value : α} {entries : List (String × α)} {e : String × α}
    (h : e ∈ insertEntry key value entries) : e.1 = key ∨ e ∈ entries := by
  induction entries with
  | nil => simp_all [insertEntry]
  | cons d entries ih =>
    unfold insertEntry at h
    split at h <;> try split at h
    all_goals simp only [List.mem_cons] at h ⊢
    · rcases h with rfl | h
      · exact .inl rfl
      · exact .inr h
    · rcases h with rfl | h
      · exact .inl rfl
      · exact .inr (.inr h)
    · rcases h with rfl | h
      · exact .inr (.inl rfl)
      · exact (ih h).imp_right .inr

theorem pairwise_insertEntry {key : String} {value : α} {entries : List (String × α)}
    (h : entries.Pairwise (·.1 < ·.1)) : (insertEntry key value entries).Pairwise (·.1 < ·.1) := by
  induction entries with
  | nil => simp [insertEntry]
  | cons d entries ih =>
    obtain ⟨hd, hs⟩ := List.pairwise_cons.1 h
    unfold insertEntry
    split
    · rename_i hlt
      refine List.pairwise_cons.2 ⟨fun e he => ?_, h⟩
      rcases List.mem_cons.1 he with rfl | he
      · exact hlt
      · exact String.lt_trans hlt (hd e he)
    · split
      · rename_i heq
        exact List.pairwise_cons.2 ⟨fun e he => heq ▸ hd e he, hs⟩
      · rename_i hlt heq
        refine List.pairwise_cons.2 ⟨fun e he => ?_, ih hs⟩
        rcases fst_of_mem_insertEntry he with h | he
        · rw [h]
          exact Decidable.byContradiction fun hge =>
            heq (String.le_antisymm (String.not_lt.1 hge) (String.not_lt.1 hlt))
        · exact hd e he

/-- Values under text keys. -/
structure Dictionary (α : Type) where
  entries : List (String × α)
  sorted : entries.Pairwise (·.1 < ·.1)
deriving DecidableEq

namespace Dictionary

def empty : Dictionary α := ⟨[], .nil⟩

def insert (d : Dictionary α) (key : String) (value : α) : Dictionary α :=
  ⟨insertEntry key value d.entries, pairwise_insertEntry d.sorted⟩

def ofList (entries : List (String × α)) : Dictionary α :=
  entries.foldl (fun d e => d.insert e.1 e.2) empty

def get? (d : Dictionary α) (key : String) : Option α :=
  (d.entries.find? (·.1 == key)).map (·.2)

def size (d : Dictionary α) : Nat := d.entries.length

def keys (d : Dictionary α) : List String := d.entries.map (·.1)

def values (d : Dictionary α) : List α := d.entries.map (·.2)

theorem get?_insert_self (d : Dictionary α) (key : String) (value : α) :
    (d.insert key value).get? key = some value := by
  show ((insertEntry key value d.entries).find? (·.1 == key)).map (·.2) = some value
  induction d.entries with
  | nil => simp [insertEntry]
  | cons e entries ih =>
    unfold insertEntry
    split
    · simp
    · split
      · simp
      next hne => rw [List.find?_cons_of_neg (by simpa using Ne.symm hne), ih]

theorem get?_insert_of_ne (d : Dictionary α) {key k : String} (h : k ≠ key) (value : α) :
    (d.insert key value).get? k = d.get? k := by
  have hskip : ∀ (v : α) (entries : List (String × α)),
      ((key, v) :: entries).find? (·.1 == k) = entries.find? (·.1 == k) :=
    fun _ _ => List.find?_cons_of_neg (by simpa using h.symm)
  show ((insertEntry key value d.entries).find? (·.1 == k)).map (·.2) = (d.entries.find? (·.1 == k)).map (·.2)
  congr 1
  induction d.entries with
  | nil => exact hskip value []
  | cons e entries ih =>
    unfold insertEntry
    split
    · exact hskip value _
    · split
      next heq =>
        subst heq
        exact (hskip value entries).trans (hskip e.2 entries).symm
      · by_cases he : e.1 = k
        · rw [List.find?_cons_of_pos (by simpa using he), List.find?_cons_of_pos (by simpa using he)]
        · rw [List.find?_cons_of_neg (by simpa using he), List.find?_cons_of_neg (by simpa using he), ih]

end Dictionary

end LayoutEquations
