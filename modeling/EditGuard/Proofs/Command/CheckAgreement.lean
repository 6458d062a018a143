import EditGuard.Proofs.Command.Transparency
import EditGuard.Proofs.Files.Paths
import EditGuard.Proofs.Hook.SnippetSpan
import EditGuard.Proofs.Json.Records
import EditGuard.Proofs.Layers.Consistency

/-! # Files from disk and edits

What is found in a file on disk is what the hooks say of an edit that writes its content and tells
nothing of its place. An empty content counts as none to the hooks, but there is nothing to be found
in it either.
-/

namespace EditGuard.Command

open Config Files Hook Json Layers Review Review.GatedDocuments Text Time

/-! ## Edits of whole files -/

/-- The edit that writes a file, as a document. -/
def editDocument (path content : String) : Value :=
  .ofTexts [("file_path", path), ("content", content)]

/-- The edit that writes a file, as the bytes of a payload. -/
def editBytes (path content : String) : Bytes := toUtf8 ((editDocument path content).pretty 0)

section

variable {p : Payload} {v : Value} {path content : String}

end

/-! ## Decisions and reports -/

section

variable {settings : Settings} {gated : GatedDocuments} {p : Payload} {v : Value}
  {path : FilePath} {content : String}

end

/-! ## Runs -/

theorem readFiles_of_readable {s : Surroundings} {paths : List FilePath}
    (h : ∀ path ∈ paths, ∃ text, s.readFile path = .ok text) :
    (readFiles s paths).2 = none ∧ ∀ file, file ∈ (readFiles s paths).1 ↔
      ∃ path ∈ paths, ∃ text, s.readFile path = .ok text ∧ file = (path, text.toList) := by
  induction paths with
  | nil => simp [readFiles]
  | cons path paths ih =>
    obtain ⟨⟨text, hread⟩, hrest⟩ := List.forall_mem_cons.1 h
    obtain ⟨hnone, hfiles⟩ := ih hrest
    rw [readFiles, hread]
    refine ⟨hnone, fun file => ?_⟩
    rw [List.mem_cons, hfiles, List.exists_mem_cons_iff]
    simp [hread]

namespace Host

variable {h : Host} {settings : Settings} {gated : GatedDocuments} {verbose : Bool}
  {config : Option String} {paths : List FilePath}

def findings (h : Host) (settings : Settings) (gated : GatedDocuments) (paths : List FilePath) :
    List Finding :=
  (readFiles h.toSurroundings paths).1.map fun file =>
    Finding.ofFile settings.rulesets gated file.1 file.2

theorem exists_runCheck_eq (h : Host) (f : Log.Filter) (format : Format)
    (hgated : compile settings.policy.documents = .ok gated)
    (hfiles : ∀ path ∈ paths, ∃ text, h.readFile path = .ok text) :
    ∃ events, ∀ stderr, h.runCheck f stderr settings paths format =
      h.logging f stderr events fun stderr =>
        h.report stderr format (h.findings settings gated paths) := by
  have hnone := (readFiles_of_readable hfiles).1
  have hfound : h.findings settings gated paths =
      ((readFiles h.toSurroundings paths).1.map fun file =>
        (Finding.ofFile settings.rulesets gated file.1 file.2, file.2)).map (·.1) := by
    rw [findings, List.map_map]
    rfl
  rw [hfound]
  cases hread : readFiles h.toSurroundings paths with
  | mk files failure =>
    rw [hread] at hnone
    obtain rfl : failure = none := hnone
    refine ⟨(files.map fun file => (Finding.ofFile settings.rulesets gated file.1 file.2,
      file.2)).flatMap fun found => found.1.events gated found.2, fun stderr => ?_⟩
    simp only [runCheck, hgated, hread]

theorem runInvocation_check (verbose : Bool) (format : Format)
    (hload : Settings.load h.toSurroundings (Source.select h.toSurroundings config) = .ok settings)
    (hgated : compile settings.policy.documents = .ok gated)
    (hfiles : ∀ path ∈ paths, ∃ text, h.readFile path = .ok text) :
    ∃ events, h.runInvocation ⟨verbose, config, .check paths format⟩ =
      h.logging (h.filter verbose) h.stderr events fun stderr =>
        h.report stderr format (h.findings settings gated paths) := by
  obtain ⟨checked, hchecked⟩ := h.exists_runCheck_eq (h.filter verbose) format hgated hfiles
  refine ⟨h.sourceEvents (Source.select h.toSurroundings config) ++
    ([.settingsLoaded (Source.select h.toSurroundings config)] ++ checked), ?_⟩
  simp only [logging_append, ← hchecked]
  show h.withSettings (h.filter verbose) (Source.select h.toSurroundings config)
    (fun stderr settings => h.runCheck (h.filter verbose) stderr settings paths format) = _
  simp only [withSettings, hload]

/-- The findings are those of the files, each under the path of its own. -/
theorem exists_mem_findings_iff (hfiles : ∀ path ∈ paths, ∃ text, h.readFile path = .ok text)
    (P : Finding → Prop) : (∃ f ∈ h.findings settings gated paths, P f) ↔
      ∃ path ∈ paths, ∃ text, h.readFile path = .ok text ∧
        P (Finding.ofFile settings.rulesets gated path text.toList) := by
  constructor
  · intro hfinding
    obtain ⟨f, hf, hP⟩ := hfinding
    obtain ⟨file, hfile, rfl⟩ := List.mem_map.1 hf
    obtain ⟨path, hpath, text, hread, rfl⟩ := ((readFiles_of_readable hfiles).2 file).1 hfile
    exact ⟨path, hpath, text, hread, hP⟩
  · intro hfile
    obtain ⟨path, hpath, text, hread, hP⟩ := hfile
    have hfile := ((readFiles_of_readable hfiles).2 _).2 ⟨path, hpath, text, hread, rfl⟩
    exact ⟨_, List.mem_map_of_mem hfile, hP⟩

/-- The host of a hook that is given the edit which writes a file, and can put out what it likes. -/
def editing (h : Host) (path content : String) : Host :=
  { h with stdin := ⟨editBytes path content, none⟩, stdout := {}, stderr := {} }

section

variable
  (hload : Settings.load h.toSurroundings (Source.select h.toSurroundings config) = .ok settings)
  (hgated : compile settings.policy.documents = .ok gated)
  (hfiles : ∀ path ∈ paths, ∃ text, h.readFile path = .ok text)

include hload hgated hfiles

end

end Host

/-- A finding on a path that is no text is printed like any other, but there is no JSON of it. -/
example :
    let path : FilePath := ⟨[0x61, 0xFF]⟩
    let h : Host := { Host.bare ⟨[], none⟩ with others := [(path, .file [])] }
    (h.runInvocation ⟨false, none, .check [path] .text⟩).code = 0 ∧
      (h.runInvocation ⟨false, none, .check [path] .json⟩).code = 1 := by decide +kernel

end EditGuard.Command
