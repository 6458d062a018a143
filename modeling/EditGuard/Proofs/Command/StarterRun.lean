import EditGuard.Proofs.Command.HookRun
import EditGuard.Proofs.Config.Selection
import EditGuard.Proofs.Files.Paths
import EditGuard.Proofs.Layers.Consistency
import EditGuard.Proofs.Toml.Lines

/-! # Starting configurations beside others

A project has two names for its configuration. The starting one is written under the name that is
preferred, and only this name is looked up before. So a configuration under the other name is no
obstacle, and what is written takes its place. This is said of projects whose file of that name, if
it comes to be written, takes all of it.
-/

namespace EditGuard.Command

open Config Files Hook Text Toml

/-! ## What the starting configuration says -/

theorem toList_linesText (lines : List String) :
    (linesText lines).toList = unlines (lines.map String.toList) := by
  rw [linesText, String.toList_join, List.flatMap_map, unlines, List.flatMap_map]
  simp

def starterDocuments : Line :=
  .assignment ⟨[], "documents", .array .inline
    [.string "*.spec.md", .string "*.prd.md", .string "prd.md"]⟩

/-- The lines of the starting configuration as they are read. -/
def starterRead : List Line :=
  List.replicate 5 .blank ++ ([.header ⟨[], "review", false⟩, .blank, starterDocuments] ++
    List.replicate 47 .blank)

theorem readsAs_starter : List.Forall₂ ReadsAs (starterLines.map String.toList) starterRead := by
  have hintro : ∀ text ∈ (starterLines.take 5).map String.toList, isIdle text = true := by
    decide +kernel
  have hcomment : isIdle
      "# Base-name patterns of documents guarded by the phase review gate.".toList = true := by
    decide +kernel
  have hreview : List.Forall₂ ReadsAs (((starterLines.drop 5).take 3).map String.toList)
      [.header ⟨[], "review", false⟩, .blank, starterDocuments] :=
    .cons (fun rest => rfl) (.cons (readsAs_blank hcomment) (.cons (fun rest => rfl) .nil))
  have hrest : ∀ text ∈ (starterLines.drop 8).map String.toList, isIdle text = true := by
    decide +kernel
  exact List.rel_append (forall₂_blank hintro) (List.rel_append hreview (forall₂_blank hrest))

/-- The starting configuration declares nothing but the defaults. -/
theorem ofText_starter : Declared.ofText (linesText starterLines) = .ok {} := by
  have hmark : (unlines (starterLines.map String.toList)).head? ≠ some '\ufeff' := by
    decide +kernel
  have hread : Toml.read (unlines (starterLines.map String.toList)) =
      .ok [("review", .table .header [("documents", .array .inline
        [.string "*.spec.md", .string "*.prd.md", .string "prd.md"])])] :=
    read_unlines readsAs_starter hmark rfl rfl
  rw [Declared.ofText, toList_linesText, RecordShape.ofText, hread]
  rfl

/-! ## Where it is written -/

def preferredPath (s : Surroundings) : String := joinPath (pathText s.directory) starterPath

def otherPath (s : Surroundings) : String := joinPath (pathText s.directory) ".spec-hooks.toml"

theorem isName_starterPath : IsName starterPath :=
  ⟨by decide, by decide +kernel, by decide, by decide⟩

theorem isName_other : IsName ".spec-hooks.toml" :=
  ⟨by decide, by decide +kernel, by decide, by decide⟩

theorem starterPath_le : starterPath.utf8ByteSize ≤ nameLimit := by decide +kernel

section

variable {s : Surroundings} {path : String}

theorem projectPaths_eq (hdirectory : s.tree.node? s.directory = some .directory) :
    Source.projectPaths s = [preferredPath s, otherPath s] := by
  simp [Source.projectPaths, Surroundings.directoryFault?, hdirectory, projectNames,
    preferredPath, otherPath, starterPath]

theorem select_project (h : Source.select s none = .project path) :
    s.tree.node? s.directory = some .directory ∧ s.isFile path = true ∧
      (path = preferredPath s ∨
        (path = otherPath s ∧ s.isFile (preferredPath s) = false)) := by
  rw [Source.select_eq_project_iff] at h
  have hdirectory : s.tree.node? s.directory = some .directory := by
    by_cases hnode : s.tree.node? s.directory = some .directory
    · exact hnode
    · have hnone : Source.projectPaths s = [] := by
        simp [Source.projectPaths, Surroundings.directoryFault?, hnode]
      rw [hnone] at h
      cases h
  rw [projectPaths_eq hdirectory] at h
  refine ⟨hdirectory, List.find?_some h, ?_⟩
  cases hpreferred : s.isFile (preferredPath s) with
  | true =>
    rw [List.find?_cons_of_pos hpreferred] at h
    exact Or.inl (Option.some.inj h).symm
  | false =>
    rw [List.find?_cons_of_neg (by simp [hpreferred])] at h
    have hmem : path ∈ [otherPath s] := List.mem_of_find?_eq_some h
    exact Or.inr ⟨List.mem_singleton.1 hmem, rfl⟩

theorem select_preferred (hdirectory : s.tree.node? s.directory = some .directory)
    (hfile : s.isFile (preferredPath s) = true) :
    Source.select s none = .project (preferredPath s) := by
  rw [Source.select_eq_project_iff, projectPaths_eq hdirectory, List.find?_cons_of_pos hfile]

theorem preferredPath_lt (s : Surroundings) :
    (preferredPath s).utf8ByteSize < (otherPath s).utf8ByteSize := by
  obtain ⟨front, hfront⟩ := exists_joinPath_eq (pathText s.directory)
  have hpreferred : (preferredPath s).utf8ByteSize = front.utf8ByteSize + 15 := by
    rw [preferredPath, hfront _ isName_starterPath, String.utf8ByteSize_append]
    rfl
  have hother : (otherPath s).utf8ByteSize = front.utf8ByteSize + 16 := by
    rw [otherPath, hfront _ isName_other, String.utf8ByteSize_append]
    rfl
  omega

theorem isThere_iff (hdirectory : s.tree.node? s.directory = some .directory) :
    s.isThere starterPath = true ↔ ∃ n, s.tree.node? (s.directory ++ [starterPath]) = some n := by
  have hpath := Tree.resolve_name hdirectory isName_starterPath starterPath_le
  unfold Surroundings.isThere Tree.find
  rw [hpath]
  dsimp only
  cases s.tree.node? (s.directory ++ [starterPath]) with
  | none => simp [Except.isOk, Except.toBool]
  | some n => simp [Except.isOk, Except.toBool]

def starterNode : Node := .file (toUtf8 (linesText starterLines))

theorem isThere_of_isFile (hnames : ∀ name ∈ s.directory, IsName name)
    (hdirectory : s.tree.node? s.directory = some .directory)
    (hfile : s.isFile (preferredPath s) = true) : s.isThere starterPath = true := by
  obtain ⟨place, n, hpath, hnode, -⟩ := Tree.isFile_eq_true_iff.1 hfile
  obtain ⟨-, -, -, -, hplace⟩ :=
    (Tree.resolve_joinPath s.directory hnames isName_starterPath).1 hpath
  rw [hplace] at hnode
  exact (isThere_iff hdirectory).2 ⟨n, hnode⟩

/-- What a project finds around it once the starting configuration is written. -/
def started (s : Surroundings) : Surroundings :=
  { s with tree := s.tree.put (s.directory ++ [starterPath]) starterNode }

theorem node?_started (s : Surroundings) (place : Place) :
    (started s).tree.node? place =
      if place = s.directory ++ [starterPath] then some starterNode else s.tree.node? place :=
  Tree.node?_put (by simp) place starterNode

theorem directory_started (hdirectory : s.tree.node? s.directory = some .directory) :
    (started s).tree.node? s.directory = some .directory := by
  have hother : s.directory ≠ s.directory ++ [starterPath] := by simp
  rw [node?_started, if_neg hother]
  exact hdirectory

/-- Where a path led to the other name, one leads to the starting configuration. -/
theorem resolve_started (hnames : ∀ name ∈ s.directory, IsName name)
    (hother : s.isFile (otherPath s) = true) :
    (started s).tree.resolve s.directory (preferredPath s) =
      .ok (s.directory ++ [starterPath]) := by
  obtain ⟨place, n, hpath, -, -⟩ := Tree.isFile_eq_true_iff.1 hother
  obtain ⟨hsize, hwalk, hdirectory, -, -⟩ :=
    (Tree.resolve_joinPath s.directory hnames isName_other).1 hpath
  have hshorter : (preferredPath s).utf8ByteSize < (otherPath s).utf8ByteSize :=
    preferredPath_lt s
  have hshort : (preferredPath s).utf8ByteSize < pathLimit := Nat.lt_trans hshorter hsize
  have hway : (started s).tree.walk [] s.directory = .ok s.directory := by
    refine Tree.walk_put hnames _ ?_ hwalk
    rw [List.nil_append, List.length_append]
    omega
  apply (Tree.resolve_joinPath s.directory hnames isName_starterPath).2
  exact ⟨hshort, hway, directory_started hdirectory, starterPath_le, rfl⟩

/-- The starting configuration takes the place of the other one, and its settings are the
defaults. -/
theorem select_started (hnames : ∀ name ∈ s.directory, IsName name)
    (hdirectory : s.tree.node? s.directory = some .directory)
    (hother : s.isFile (otherPath s) = true) :
    Source.select (started s) none = .project (preferredPath s) ∧
      Settings.load (started s) (.project (preferredPath s)) =
        .ok ⟨Layers.Builtin.rulesets, {}, .project (preferredPath s)⟩ := by
  have hpath := resolve_started hnames hother
  have hnode : (started s).tree.node? (s.directory ++ [starterPath]) = some starterNode := by
    rw [node?_started, if_pos rfl]
  constructor
  · apply select_preferred (directory_started hdirectory)
    exact Tree.isFile_eq_true_iff.2 ⟨_, _, hpath, hnode, by simp [starterNode]⟩
  · have hread : (started s).readText (preferredPath s) = .ok (linesText starterLines) :=
      Tree.readText_of_file hpath hnode
    have hdeclared : Settings.declared (started s) (.project (preferredPath s)) = .ok {} := by
      apply Settings.declared_eq_ok_iff.2
      refine Or.inr ⟨linesText starterLines, ?_, ofText_starter⟩
      rw [Source.content?, Source.path?, Option.map_some, hread]
      rfl
    exact load_eq_ok_iff.2 ⟨{}, hdeclared, Layers.Builtin.validate_rulesets, rfl⟩

end

/-! ## Runs -/

namespace Host

variable {h : Host} {args : List String} {verbose force : Bool} {config : Option String}
  {path : String}

/-- What later commands find around them. -/
def left (h : Host) (f : Finish) : Surroundings := { h.toSurroundings with tree := f.tree }

theorem run_init (ha : h.Accepts args ⟨verbose, config, .init force⟩)
    (hlog : LogHolds (h.filter verbose) h.stderr) :
    ∃ stderr, h.run args = h.runInit stderr force := by
  rw [ha.run_eq]
  exact hlog.logging h _ _

theorem runInit_of_there (hthere : h.isThere starterPath = true) (stderr : Output) :
    (h.runInit stderr false).code = failureCode ∧ (h.runInit stderr false).tree = h.tree := by
  rw [runInit, hthere]
  exact ⟨rfl, rfl⟩

theorem finish_code_ne_failureCode (h : Host) (stderr : Output) (text : String) :
    (h.finish stderr 0 text).code ≠ failureCode := by
  by_cases hwritten : (h.stdout.write (toUtf8 text)).2 = none
  · rw [finish_code_of_written hwritten]
    decide
  · rw [finish_code_of_refused hwritten]
    decide

/-- Where nothing bears the name, the starting configuration is written, and then it is said. -/
theorem runInit_of_free (hdirectory : h.tree.node? h.directory = some .directory)
    (hopen : h.barriers.lookup (h.directory ++ [starterPath]) = none)
    (hfree : h.isThere starterPath = false) (stderr : Output) :
    h.runInit stderr false = Host.finish { h with toSurroundings := started h.toSurroundings }
      stderr 0 (linesText (starterAdvice starterPath)) := by
  have hnone : h.tree.node? (h.directory ++ [starterPath]) = none := by
    rw [Option.eq_none_iff_forall_ne_some]
    intro n hn
    have hthere := (isThere_iff hdirectory).2 ⟨n, hn⟩
    rw [hfree] at hthere
    cases hthere
  have hwrite : h.tree.write h.barriers h.directory starterPath
      (toUtf8 (linesText starterLines)) = ((started h.toSurroundings).tree, none) := by
    rw [Tree.write, Tree.resolve_name hdirectory isName_starterPath starterPath_le]
    dsimp only
    rw [hnone, if_neg (by simp), hopen]
    rfl
  rw [runInit, hfree, hwrite]
  rfl

theorem run_init_of_there (ha : h.Accepts args ⟨verbose, config, .init false⟩)
    (hlog : LogHolds (h.filter verbose) h.stderr) (hthere : h.isThere starterPath = true) :
    (h.run args).code = failureCode ∧ h.left (h.run args) = h.toSurroundings := by
  obtain ⟨stderr, hrun⟩ := run_init ha hlog
  obtain ⟨hcode, htree⟩ := runInit_of_there hthere stderr
  rw [hrun, left, htree]
  exact ⟨hcode, rfl⟩

theorem run_init_of_free (ha : h.Accepts args ⟨verbose, config, .init false⟩)
    (hlog : LogHolds (h.filter verbose) h.stderr)
    (hdirectory : h.tree.node? h.directory = some .directory)
    (hopen : h.barriers.lookup (h.directory ++ [starterPath]) = none)
    (hfree : h.isThere starterPath = false) :
    h.left (h.run args) = started h.toSurroundings ∧ (h.run args).code ≠ failureCode ∧
      ((h.stdout.write (toUtf8 (linesText (starterAdvice starterPath)))).2 = none →
        (h.run args).code = 0) := by
  obtain ⟨stderr, hrun⟩ := run_init ha hlog
  rw [hrun, runInit_of_free hdirectory hopen hfree]
  refine ⟨?_, finish_code_ne_failureCode _ _ _, fun hwritten => ?_⟩
  · rw [left, finish_tree]
    rfl
  · exact finish_code_of_written (h := { h with toSurroundings := started h.toSurroundings })
      hwritten _ _

/-- With a configuration of the project in effect, an unforced start fails and changes nothing if
and only if the preferred name is taken; only then the same configuration is still in effect. If
that name is free, the one in effect bears the other name, and it is displaced by the defaults. The
log goes through, and nothing bars a file from being written under the preferred name. -/
theorem starter_displaces_iff (hnames : ∀ name ∈ h.directory, IsName name)
    (ha : h.Accepts args ⟨verbose, config, .init false⟩)
    (hlog : LogHolds (h.filter verbose) h.stderr)
    (hopen : h.barriers.lookup (h.directory ++ [starterPath]) = none)
    (hselected : Source.Selected h.toSurroundings none (.project path)) :
    (path = preferredPath h.toSurroundings → h.isThere starterPath = true) ∧
    (h.isThere starterPath = true ↔
      (h.run args).code = failureCode ∧ h.left (h.run args) = h.toSurroundings) ∧
    (h.isThere starterPath = true ↔
      Source.Selected (h.left (h.run args)) none (.project path)) ∧
    (h.isThere starterPath = false →
      path = otherPath h.toSurroundings ∧
      (∀ place, place ≠ h.directory ++ [starterPath] →
        (h.run args).tree.node? place = h.tree.node? place) ∧
      Source.Selected (h.left (h.run args)) none (.project (preferredPath h.toSurroundings)) ∧
      Settings.load (h.left (h.run args)) (.project (preferredPath h.toSurroundings)) =
        .ok ⟨Layers.Builtin.rulesets, {}, .project (preferredPath h.toSurroundings)⟩ ∧
      ((h.stdout.write (toUtf8 (linesText (starterAdvice starterPath)))).2 = none →
        (h.run args).code = 0)) := by
  have hselect := Source.selected_iff.1 hselected
  obtain ⟨hdirectory, hfile, hwhich⟩ := select_project hselect
  by_cases hthere : h.isThere starterPath = true
  · have hkept := run_init_of_there ha hlog hthere
    refine ⟨fun _ => hthere, ⟨fun _ => hkept, fun _ => hthere⟩, ⟨fun _ => ?_, fun _ => hthere⟩, ?_⟩
    · rw [hkept.2]
      exact hselected
    · intro hfree
      rw [hthere] at hfree
      cases hfree
  · have hfree : h.isThere starterPath = false := Bool.eq_false_iff.2 hthere
    have hnot : path ≠ preferredPath h.toSurroundings := by
      intro heq
      rw [heq] at hfile
      exact hthere (isThere_of_isFile hnames hdirectory hfile)
    have hother : path = otherPath h.toSurroundings := (hwhich.resolve_left hnot).1
    rw [hother] at hfile
    obtain ⟨hleft, hcode, hzero⟩ := run_init_of_free ha hlog hdirectory hopen hfree
    obtain ⟨hselects, hload⟩ := select_started hnames hdirectory hfile
    have htree : (h.run args).tree = (started h.toSurroundings).tree :=
      congrArg Surroundings.tree hleft
    rw [hleft]
    refine ⟨fun heq => absurd heq hnot,
      ⟨fun h => absurd h hthere, fun hfails => absurd hfails.1 hcode⟩,
      ⟨fun h => absurd h hthere, ?_⟩, fun _ => ⟨hother, ?_, ?_, hload, hzero⟩⟩
    · intro hstill
      have heq := (Source.selected_iff.1 hstill).symm.trans hselects
      exact absurd (Source.project.inj heq) hnot
    · intro place hplace
      rw [htree, node?_started, if_neg hplace]
    · exact Source.selected_iff.2 hselects

/-- Each of the two names bears a configuration of its own. -/
def configuredProject : Host :=
  { bare ⟨[], none⟩ with
    directory := ["project"]
    tree := ⟨[(["project"], .directory),
      (["project", "spec-hooks.toml"], .file (toUtf8 "[review]\ndocuments = [\"*.rfc.md\"]\n")),
      (["project", ".spec-hooks.toml"], .file [])]⟩ }

theorem starter_displaces_iff_configured :
    (configuredProject.run ["init"]).code = failureCode ∧
      configuredProject.left (configuredProject.run ["init"]) =
        configuredProject.toSurroundings := by
  have hnames : ∀ name ∈ configuredProject.directory, IsName name := by
    intro name hname
    rw [List.mem_singleton.1 hname]
    exact ⟨by decide, by decide +kernel, by decide, by decide⟩
  have ha : configuredProject.Accepts ["init"] ⟨false, none, .init false⟩ := rfl
  have hselect : Source.select configuredProject.toSurroundings none =
      .project "/project/spec-hooks.toml" := by decide +kernel
  have hpath : "/project/spec-hooks.toml" = preferredPath configuredProject.toSurroundings := by
    decide +kernel
  have hlog : LogHolds (configuredProject.filter false) configuredProject.stderr :=
    Or.inr trivial
  obtain ⟨hpreferred, hkept, -, -⟩ :=
    starter_displaces_iff hnames ha hlog rfl (Source.selected_iff.2 hselect)
  exact hkept.1 (hpreferred hpath)

/-- The configuration of the project bears the name that is not looked up. -/
def dottedProject : Host :=
  { bare ⟨[], none⟩ with
    directory := ["project"]
    tree := ⟨[(["project"], .directory),
      (["project", ".spec-hooks.toml"],
        .file (toUtf8 "[review]\ndocuments = [\"*.rfc.md\"]\n"))]⟩ }

/-- An unforced start ends well and puts another configuration into effect. -/
theorem starter_displaces_dotted :
    dottedProject.Accepts ["init"] ⟨false, none, .init false⟩ ∧
    Source.Selected dottedProject.toSurroundings none (.project "/project/.spec-hooks.toml") ∧
    (dottedProject.run ["init"]).code = 0 ∧
    (dottedProject.run ["init"]).tree.node? ["project", "spec-hooks.toml"] ≠
      dottedProject.tree.node? ["project", "spec-hooks.toml"] ∧
    Source.Selected (dottedProject.left (dottedProject.run ["init"])) none
      (.project "/project/spec-hooks.toml") := by
  refine ⟨rfl, Source.selected_iff.2 ?_, ?_, ?_, Source.selected_iff.2 ?_⟩
  · decide +kernel
  · decide +kernel
  · decide +kernel
  · decide +kernel

end Host

end EditGuard.Command
