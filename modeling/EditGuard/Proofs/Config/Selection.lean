import EditGuard.Config.Settings
import Mathlib.Data.List.Basic

/-! # Which configuration is in effect

Without a named file the candidates are tried in the order of their priority, and the first that is
a file is in effect. Whether it can be read is not asked. What its file says is all that the
settings take from the surroundings, so that a file without use yields none.
-/

namespace EditGuard.Config

open Layers

namespace Source

/-- What is tried when no file is named, in the order of priority. -/
def candidates (s : Surroundings) : List Source :=
  (projectPaths s).map .project ++ [.global (globalPath s)]

def IsPresent (s : Surroundings) (source : Source) : Prop :=
  ∃ path, source.path? = some path ∧ s.isFile path = true

/-- The source in effect when a file is named, or none. -/
inductive Selected (s : Surroundings) : Option String → Source → Prop where
  | named (path : String) : Selected s (some path) (.explicit path)
  | first {passed rest : List Source} {source : Source}
      (hcandidates : candidates s = passed ++ source :: rest)
      (hpassed : ∀ earlier ∈ passed, ¬ IsPresent s earlier) (hpresent : IsPresent s source) :
      Selected s none source
  | builtin (hnone : ∀ source ∈ candidates s, ¬ IsPresent s source) : Selected s none .builtin

section

variable {s : Surroundings} {source : Source} {path : String}

theorem select_eq_project_iff :
    select s none = .project path ↔ (projectPaths s).find? s.isFile = some path := by
  unfold select
  cases (projectPaths s).find? s.isFile with
  | some found => simp
  | none =>
    simp only [reduceCtorEq, iff_false]
    split <;> simp

/-- The search is for the first candidate that is there. -/
theorem select_eq_find? (s : Surroundings) : select s none =
    ((candidates s).find? fun source => source.path?.any s.isFile).getD .builtin := by
  have hproject : (fun source : Source => source.path?.any s.isFile) ∘ Source.project =
      s.isFile := rfl
  rw [candidates, List.find?_append, List.find?_map, hproject, select]
  cases (projectPaths s).find? s.isFile with
  | some found => rfl
  | none =>
    rw [Option.map_none, Option.none_or]
    by_cases hglobal : s.isFile (globalPath s) = true
    · simp [path?, hglobal]
    · simp [path?, hglobal]

theorem any_isFile_iff : source.path?.any s.isFile = true ↔ IsPresent s source := by
  unfold IsPresent
  cases source.path? with
  | none => simp
  | some path => simp

theorem any_isFile_eq_false_iff : (!source.path?.any s.isFile) = true ↔ ¬ IsPresent s source := by
  rw [← any_isFile_iff]
  simp

theorem selected_iff {named : Option String} :
    Selected s named source ↔ select s named = source := by
  constructor
  · intro h
    cases h with
    | named path => rfl
    | @first passed rest source hcandidates hpassed hpresent =>
      have hfind : (candidates s).find? (fun source => source.path?.any s.isFile) =
          some source := by
        rw [List.find?_eq_some_iff_append]
        refine ⟨any_isFile_iff.2 hpresent, passed, rest, hcandidates, ?_⟩
        intro earlier hearlier
        exact any_isFile_eq_false_iff.2 (hpassed earlier hearlier)
      rw [select_eq_find?, hfind, Option.getD_some]
    | builtin hnone =>
      have hfind : (candidates s).find? (fun source => source.path?.any s.isFile) = none := by
        rw [List.find?_eq_none]
        intro source hsource hfile
        exact hnone source hsource (any_isFile_iff.1 hfile)
      rw [select_eq_find?, hfind, Option.getD_none]
  · intro h
    cases named with
    | some path =>
      rw [← h]
      exact .named path
    | none =>
      rw [select_eq_find?] at h
      cases hfind : (candidates s).find? (fun source => source.path?.any s.isFile) with
      | none =>
        rw [hfind, Option.getD_none] at h
        rw [← h]
        rw [List.find?_eq_none] at hfind
        exact .builtin fun source hsource hpresent =>
          hfind source hsource (any_isFile_iff.2 hpresent)
      | some found =>
        rw [hfind, Option.getD_some] at h
        rw [← h]
        obtain ⟨hpresent, passed, rest, hcandidates, hpassed⟩ :=
          List.find?_eq_some_iff_append.1 hfind
        exact .first hcandidates
          (fun earlier hearlier => any_isFile_eq_false_iff.1 (hpassed earlier hearlier))
          (any_isFile_iff.1 hpresent)

end

end Source

/-! ## What the settings depend on -/

/-- What the file of a source says, if the source has a file and it can be read. -/
def Source.content? (s : Surroundings) (source : Source) : Option (Option String) :=
  source.path?.map fun path => (s.readText path).toOption

/-- A file from which no settings come. -/
inductive Unusable (s : Surroundings) (path : String) : Prop where
  | unreadable {fault : Fault} (hread : s.readText path = .error fault)
  | malformed {text : String} {error : Toml.Error} (hread : s.readText path = .ok text)
      (htext : Declared.ofText text = .error error)
  | inconsistent {text : String} {d : Declared} {fault : Inconsistency}
      (hread : s.readText path = .ok text) (htext : Declared.ofText text = .ok d)
      (hrulesets : (d.rulesets.getD Builtin.rulesets).validate = .error fault)

namespace Settings

variable {s s' : Surroundings} {source source' : Source} {path : String}

theorem declared_eq_ok_iff {d : Declared} : declared s source = .ok d ↔
    (source.content? s = none ∧ d = {}) ∨
      ∃ text, source.content? s = some (some text) ∧ Declared.ofText text = .ok d := by
  unfold declared Source.content?
  cases source.path? with
  | none => simp [eq_comm]
  | some path =>
    rw [Option.map_some]
    dsimp only
    cases s.readText path with
    | error fault => simp [Except.toOption]
    | ok text =>
      cases htext : Declared.ofText text with
      | error error => simp [Except.toOption, Except.mapError, htext]
      | ok declared => simp [Except.toOption, Except.mapError, htext]

/-- Where two sources say the same, the same is declared. -/
theorem declared_of_content? {d : Declared} (hsame : source'.content? s' = source.content? s)
    (hd : declared s source = .ok d) : declared s' source' = .ok d := by
  rw [declared_eq_ok_iff] at hd ⊢
  rw [hsame]
  exact hd

theorem exists_load_error_iff (hpath : source.path? = some path) :
    (∃ error, load s source = .error error) ↔ Unusable s path := by
  unfold load declared
  rw [hpath]
  dsimp only
  constructor
  · intro h
    obtain ⟨error, h⟩ := h
    cases hread : s.readText path with
    | error fault => exact .unreadable hread
    | ok text =>
      cases htext : Declared.ofText text with
      | error error => exact .malformed hread htext
      | ok d =>
        cases hrulesets : (d.rulesets.getD Builtin.rulesets).validate with
        | error fault => exact .inconsistent hread htext hrulesets
        | ok u =>
          rw [hread] at h
          simp [htext, hrulesets, Except.mapError, bind, Except.bind, pure, Except.pure] at h
  · intro h
    cases h with
    | unreadable hread =>
      rw [hread]
      exact ⟨_, rfl⟩
    | malformed hread htext =>
      rw [hread]
      simp [htext, Except.mapError, bind, Except.bind]
    | inconsistent hread htext hrulesets =>
      rw [hread]
      simp [htext, hrulesets, Except.mapError, bind, Except.bind]

end Settings

end EditGuard.Config
