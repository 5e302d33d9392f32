import LayoutEquations.CommandLine.Commands
import LayoutEquations.Proofs.Results

/-!
# The inputs of a command

A `compile` command works on the equations of the command line and of a file, and in the scope of a layout. `Added` and
`Loaded` say which equations and which layout that is, whatever the toolkit that reads layouts; `setup_eq_ok_iff` that
the command gets them, and gets nothing else.
-/

namespace LayoutEquations.CommandLine

variable {tools : Toolkit} {read : FileReader} {equations all : List String} {file layout : Option String}
  {scope : Scope String}

/-- The equations that a file adds to a command, if it names one: those of a file that can be read. -/
inductive Added (read : FileReader) : Option String → List String → Prop
  | nothing : Added read none []
  | file {path src : String} (h : read path = .ok src) : Added read (some path) (equationLines src)

/-- The layout of a command: that of a file that can be read and in which the toolkit finds one, in the format of its
name. -/
inductive Loaded (tools : Toolkit) (read : FileReader) : Option String → Layout → Prop
  | default : Loaded tools read none {}
  | json {path src : String} {l : Layout} (h : read path = .ok src) (hext : extension? path = some "json")
      (hl : tools.ofJson src = .ok l) : Loaded tools read (some path) l
  | toml {path src : String} {l : Layout} (h : read path = .ok src) (hext : extension? path ≠ some "json")
      (hl : tools.ofToml src = .ok l) : Loaded tools read (some path) l

theorem readFile_eq_ok_iff {path src : String} : readFile read path = .ok src ↔ read path = .ok src := by
  rw [readFile, mapError_eq_ok]

theorem gather_eq_ok_iff :
    gather read equations file = .ok all ↔ ∃ added, Added read file added ∧ all = equations ++ added := by
  cases file with
  | none =>
    constructor
    · intro h
      cases h
      exact ⟨[], .nothing, (List.append_nil _).symm⟩
    · rintro ⟨added, ⟨⟩, rfl⟩
      rw [List.append_nil]
      rfl
  | some path =>
    rw [gather, bind_eq_ok]
    constructor
    · rintro ⟨src, hsrc, h⟩
      cases h
      exact ⟨_, .file (readFile_eq_ok_iff.1 hsrc), rfl⟩
    · rintro ⟨added, hadded, rfl⟩
      cases hadded with
      | file h => exact ⟨_, readFile_eq_ok_iff.2 h, rfl⟩

theorem loadLayout_eq_ok_iff {path : String} {l : Layout} :
    loadLayout tools read path = .ok l ↔ Loaded tools read (some path) l := by
  rw [loadLayout, bind_eq_ok]
  constructor
  · rintro ⟨src, hsrc, h⟩
    have hread := readFile_eq_ok_iff.1 hsrc
    by_cases hext : extension? path = some "json"
    · rw [if_pos hext] at h
      exact .json hread hext (mapError_eq_ok.1 h)
    · rw [if_neg hext] at h
      exact .toml hread hext (mapError_eq_ok.1 h)
  · intro h
    cases h with
    | json h hext hl =>
      refine ⟨_, readFile_eq_ok_iff.2 h, ?_⟩
      rw [if_pos hext]
      exact mapError_eq_ok.2 hl
    | toml h hext hl =>
      refine ⟨_, readFile_eq_ok_iff.2 h, ?_⟩
      rw [if_neg hext]
      exact mapError_eq_ok.2 hl

/-- A `compile` command gets its equations and its scope when its files can be read and hold what they should. -/
theorem setup_eq_ok_iff :
    setup tools read equations file layout = .ok (all, scope) ↔
      ∃ added l, Added read file added ∧ Loaded tools read layout l ∧ equations ++ added = all ∧ all ≠ [] ∧
        l.scope = .ok scope := by
  have hload : ∀ l, layout.elim (.ok {}) (loadLayout tools read) = .ok l ↔ Loaded tools read layout l := by
    intro l
    cases layout with
    | some path => exact loadLayout_eq_ok_iff
    | none =>
      rw [Option.elim_none]
      constructor
      · intro h
        cases h
        exact .default
      · rintro ⟨⟩
        rfl
  have hsetup : setup tools read equations file layout = gather read equations file >>= fun all =>
      if all = [] then .error .noEquations
      else layout.elim (.ok {}) (loadLayout tools read) >>= fun l =>
        l.scope.mapError .badKeyPath >>= fun scope => .ok (all, scope) := by
    cases layout <;> rfl
  rw [hsetup, bind_eq_ok]
  constructor
  · rintro ⟨all', hall, h⟩
    obtain ⟨added, hadded, rfl⟩ := gather_eq_ok_iff.1 hall
    by_cases hne : equations ++ added = []
    · rw [if_pos hne] at h
      cases h
    · rw [if_neg hne] at h
      obtain ⟨l, hl, h⟩ := bind_eq_ok.1 h
      obtain ⟨scope', hscope, h⟩ := bind_eq_ok.1 h
      cases h
      exact ⟨added, l, hadded, (hload l).1 hl, rfl, hne, mapError_eq_ok.1 hscope⟩
  · rintro ⟨added, l, hadded, hl, rfl, hne, hscope⟩
    refine ⟨_, gather_eq_ok_iff.2 ⟨added, hadded, rfl⟩, ?_⟩
    rw [if_neg hne]
    exact bind_eq_ok.2 ⟨l, (hload l).2 hl, bind_eq_ok.2 ⟨scope, mapError_eq_ok.2 hscope, rfl⟩⟩

end LayoutEquations.CommandLine
