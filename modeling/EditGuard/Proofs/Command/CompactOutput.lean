import EditGuard.Proofs.Command.CheckAgreement
import EditGuard.Proofs.Command.StarterRun
import EditGuard.Proofs.Imports.Soundness
import EditGuard.Proofs.Layers.Exactness
import EditGuard.Proofs.Review.DocumentNames
import Mathlib.Data.List.Forall2

/-! # Lines of the compact format

The compact format is meant to have one line for each finding: for each violation of each file, in
the order of the source, and then for the file itself if it is blocked. What is printed of a finding
are the path, numbers, names of layers and the dependency, and all but the dependency are of one
line where paths and names are. The tokens of Java and Swift are of one line as well. Between the
quotes of a module source everything but a quote may stand, and a newline there goes into the
output as it is.
-/

namespace EditGuard.Layers

open Imports Text

/-! ## The words of a violation -/

/-- The tokens of names and modules are of one line. -/
theorem newline_not_mem_token {s : ImportSyntax} (hs : s ≠ .esModule) {token : List Char}
    (htoken : s.IsToken token) : '\n' ∉ token := by
  intro hm
  cases s with
  | java =>
    obtain ⟨word, -, hword, rfl | rfl⟩ := htoken
    · exact absurd (hword _ hm) (by decide)
    · rcases List.mem_append.1 hm with hm | hm
      · exact absurd (hword _ hm) (by decide)
      · exact absurd hm (by decide)
  | swift => exact absurd (htoken.2 _ hm) (by decide)
  | esModule => exact hs rfl

theorem Ecosystem.layer_of_breach {e : Ecosystem} {l : Layer} {ref : ImportRef} {v : Violation}
    (h : e.breach? l ref = some v) :
    v.layer = l.name ∧ v.dependency = String.ofList ref.token := by
  unfold breach? at h
  split at h
  · cases h
  · next rule _ =>
    by_cases hallowed : rule.layer = l.name ∨ rule.layer ∈ l.allows
    · rw [if_pos hallowed] at h
      cases h
    · rw [if_neg hallowed] at h
      obtain rfl := Option.some.inj h
      exact ⟨rfl, rfl⟩

/-- A violation is between two layers of the ecosystem that is reported on, by a token of its
syntax. -/
theorem Rulesets.Consistent.violation_words {r : Rulesets} (h : r.Consistent) {path : String}
    {content : List Char} {report : Report} (hcheck : r.check path content = some report)
    {v : Violation} (hv : v ∈ report.violations) :
    ∃ e ∈ r.ecosystems, e.name = report.ecosystem ∧ (∃ l ∈ e.layers, l.name = v.layer) ∧
      (∃ l ∈ e.layers, l.name = v.dependencyLayer) ∧
      e.importSyntax.IsToken v.dependency.toList := by
  obtain ⟨place, hplace, -⟩ := Option.bind_eq_some_iff.1 hcheck
  obtain ⟨e, he, l, hl, rfl⟩ := h.exists_of_place? hplace
  rw [check_eq_of_place? h he hl hplace] at hcheck
  obtain rfl := Option.some.inj hcheck
  obtain ⟨ref, href, hbreach⟩ := List.mem_filterMap.1 hv
  obtain ⟨hlayer, hdependency⟩ := Ecosystem.layer_of_breach hbreach
  obtain ⟨earlier, later, hextract⟩ := List.append_of_mem href
  obtain ⟨-, -, -, -, -, htoken, -⟩ := ImportSyntax.makes_of_extract hextract
  refine ⟨e, he, rfl, ⟨l, hl, hlayer.symm⟩,
    Ecosystem.exists_layer_of_declares ((h.ecosystems e he).declares_of_breach hv), ?_⟩
  rw [hdependency, String.toList_ofList]
  exact htoken

end EditGuard.Layers

namespace EditGuard.Command

open Config Files Hook Imports Layers Review Review.GatedDocuments Text

/-! ## Texts of one line each -/

/-- A text of one line for each item, which starts with the opening of the item. -/
def OneLineEach {α : Type} (opening : α → List Char) (items : List α) (text : List Char) : Prop :=
  ∃ lines, text = unlines lines ∧
    List.Forall₂ (fun line item => '\n' ∉ line ∧ opening item <+: line) lines items

theorem count_unlines (lines : List (List Char)) :
    (unlines lines).count '\n' = lines.length + (lines.map (·.count '\n')).sum := by
  induction lines with
  | nil => rfl
  | cons line lines ih =>
    rw [unlines_cons, List.count_append, List.count_append, ih, List.length_cons, List.map_cons,
      List.sum_cons, List.count_singleton_self]
    omega

/-- There are as many newlines as items. -/
theorem OneLineEach.count_eq {α : Type} {opening : α → List Char} {items : List α}
    {text : List Char} (h : OneLineEach opening items text) : text.count '\n' = items.length := by
  obtain ⟨lines, rfl, hlines⟩ := h
  obtain ⟨hfree, -⟩ := (List.forall₂_and_left _ _).1 hlines
  have hinside : (lines.map (·.count '\n')).sum = 0 := by
    rw [List.sum_eq_zero_iff_forall_eq_nat]
    intro n hn
    obtain ⟨line, hline, rfl⟩ := List.mem_map.1 hn
    exact List.count_eq_zero.2 (hfree line hline)
  rw [count_unlines, hinside, Nat.add_zero, hlines.length_eq]

/-- What is printed of the items may hold no newline, as that would be one too many. -/
theorem oneLineEach_iff {α : Type} {opening print : α → List Char}
    (hopens : ∀ item, opening item <+: print item) (items : List α) :
    OneLineEach opening items (unlines (items.map print)) ↔
      ∀ item ∈ items, '\n' ∉ print item := by
  constructor
  · intro heach
    have hcount := heach.count_eq
    rw [count_unlines, List.length_map, List.map_map] at hcount
    have hinside : (items.map ((·.count '\n') ∘ print)).sum = 0 := by omega
    rw [List.sum_eq_zero_iff_forall_eq_nat] at hinside
    intro item hitem
    exact List.count_eq_zero.1 (hinside _ (List.mem_map.2 ⟨item, hitem, rfl⟩))
  · intro hfree
    refine ⟨items.map print, rfl, ?_⟩
    rw [List.forall₂_map_left_iff, List.forall₂_same]
    intro item hitem
    exact ⟨hfree item hitem, hopens item⟩

/-! ## Findings one by one -/

/-- What has a line of its own. -/
inductive Entry where
  | violation (v : Violation)
  | blocked (b : Blocked)
  deriving DecidableEq, Repr

namespace Entry

/-- The line of an entry up to the dependency: the path and, of a violation, the place and the
layers. -/
def opening (path : String) : Entry → String
  | violation v =>
    path ++ ":" ++ v.location.display ++ ": warning [layer] " ++ v.layer ++ " -> " ++
      v.dependencyLayer ++ " ("
  | blocked b =>
    path ++ ": error [phase-review] Phase " ++ toString b.blocking ++ " not approved, Phase " ++
      toString b.editing ++ " blocked"

def line (path : String) : Entry → String
  | violation v => violationLine path v
  | blocked b =>
    s!"{path}: error [phase-review] Phase {b.blocking} not approved, " ++
      s!"Phase {b.editing} blocked"

def dependency : Entry → String
  | violation v => v.dependency
  | blocked _ => ""

def closing : Entry → String
  | violation _ => ")"
  | blocked _ => ""

end Entry

/-- The violations, and then the document if it is blocked. -/
def Finding.entries (f : Finding) : List Entry :=
  f.violations.map .violation ++
    match f.decision with
    | some (.deny b) => [.blocked b]
    | _ => []

/-- The entries of all files, each with the path of its file. -/
def reported (fs : List Finding) : List (String × Entry) :=
  fs.flatMap fun f => f.entries.map (f.path.display, ·)

theorem findingLines_eq (f : Finding) :
    findingLines f = f.entries.map (Entry.line f.path.display) := by
  rw [findingLines, Finding.entries, List.map_append, List.map_map]
  congr 1
  cases f.decision with
  | none => rfl
  | some decision => cases decision <;> rfl

theorem compactLines_eq (fs : List Finding) :
    fs.flatMap findingLines = (reported fs).map fun entry => entry.2.line entry.1 := by
  rw [reported, List.map_flatMap]
  congr 1
  funext f
  rw [findingLines_eq, List.map_map]
  rfl

theorem length_entries (f : Finding) :
    f.entries.length = f.violations.length + if f.isBlocked then 1 else 0 := by
  rw [Finding.entries, List.length_append, List.length_map, Finding.isBlocked]
  congr 1
  cases f.decision with
  | none => rfl
  | some decision => cases decision <;> rfl

theorem length_reported (fs : List Finding) : (reported fs).length =
    (fs.flatMap (·.violations)).length + (fs.filter (·.isBlocked)).length := by
  induction fs with
  | nil => rfl
  | cons f fs ih =>
    rw [reported] at ih
    rw [reported, List.flatMap_cons, List.flatMap_cons, List.length_append, List.length_append,
      List.length_map, ih, length_entries, List.filter_cons]
    split
    · rw [List.length_cons]
      omega
    · omega

/-! ## Newlines in what is printed -/

theorem newline_not_mem_display (l : Location) : '\n' ∉ l.display.toList := by
  have hline : '\n' ∉ (toString l.line).toList := not_mem_toString (by decide) l.line
  have hcolumn : '\n' ∉ (toString l.column).toList := not_mem_toString (by decide) l.column
  simp only [Location.display, String.toList_append, List.mem_append, not_or]
  exact ⟨⟨hline, by decide⟩, hcolumn⟩

namespace Entry

theorem line_eq (path : String) (entry : Entry) :
    entry.line path = entry.opening path ++ entry.dependency ++ entry.closing := by
  have hbracket : ∀ a d : String, a ++ " " ++ ("(" ++ d ++ ")") = a ++ " (" ++ d ++ ")" := by
    intro a d
    rw [show " (" = " " ++ "(" from rfl]
    simp only [String.append_assoc]
  have hphase : ∀ a n : String, a ++ " not approved, " ++ ("Phase " ++ n ++ " blocked") =
      a ++ " not approved, Phase " ++ n ++ " blocked" ++ "" ++ "" := by
    intro a n
    rw [show " not approved, Phase " = " not approved, " ++ "Phase " from rfl]
    simp only [String.append_assoc, String.append_empty]
  cases entry with
  | violation v => exact hbracket _ v.dependency
  | blocked b => exact hphase _ (toString b.editing)

def NamesLayers : Entry → Prop
  | violation v => '\n' ∉ v.layer.toList ∧ '\n' ∉ v.dependencyLayer.toList
  | blocked _ => True

theorem newline_not_mem_opening {path : String} (hpath : '\n' ∉ path.toList) {entry : Entry}
    (hnames : entry.NamesLayers) : '\n' ∉ (entry.opening path).toList := by
  cases entry with
  | violation v =>
    obtain ⟨hlayer, htarget⟩ := hnames
    have hdisplay := newline_not_mem_display v.location
    simp only [opening, String.toList_append, List.mem_append, not_or]
    exact ⟨⟨⟨⟨⟨⟨⟨hpath, by decide⟩, hdisplay⟩, by decide⟩, hlayer⟩, by decide⟩, htarget⟩, by decide⟩
  | blocked b =>
    have hblocking : '\n' ∉ (toString b.blocking).toList := not_mem_toString (by decide) _
    have hediting : '\n' ∉ (toString b.editing).toList := not_mem_toString (by decide) _
    simp only [opening, String.toList_append, List.mem_append, not_or]
    exact ⟨⟨⟨⟨⟨hpath, by decide⟩, hblocking⟩, by decide⟩, hediting⟩, by decide⟩

theorem newline_not_mem_closing (entry : Entry) : '\n' ∉ entry.closing.toList := by
  have hbracket : '\n' ∉ ")".toList := by decide
  have hempty : '\n' ∉ "".toList := by decide
  cases entry with
  | violation v => exact hbracket
  | blocked b => exact hempty

theorem count_line {path : String} (hpath : '\n' ∉ path.toList) {entry : Entry}
    (hnames : entry.NamesLayers) :
    (entry.line path).toList.count '\n' = entry.dependency.toList.count '\n' := by
  rw [line_eq, String.toList_append, String.toList_append, List.count_append, List.count_append,
    List.count_eq_zero.2 (newline_not_mem_opening hpath hnames),
    List.count_eq_zero.2 (newline_not_mem_closing entry), Nat.zero_add, Nat.add_zero]

theorem opening_prefix_line (path : String) (entry : Entry) :
    (entry.opening path).toList <+: (entry.line path).toList := by
  rw [line_eq, String.append_assoc, String.toList_append]
  exact List.prefix_append _ _

theorem newline_mem_line_iff {path : String} (hpath : '\n' ∉ path.toList) {entry : Entry}
    (hnames : entry.NamesLayers) :
    '\n' ∈ (entry.line path).toList ↔ '\n' ∈ entry.dependency.toList := by
  rw [← List.count_pos_iff, ← List.count_pos_iff, count_line hpath hnames]

end Entry

/-! ## The output as a whole -/

theorem mem_reported {fs : List Finding} {entry : String × Entry} :
    entry ∈ reported fs ↔ ∃ f ∈ fs, f.path.display = entry.1 ∧ entry.2 ∈ f.entries := by
  obtain ⟨path, e⟩ := entry
  simp only [reported, List.mem_flatMap, List.mem_map, Prod.mk.injEq]
  apply exists_congr
  intro f
  apply and_congr_right
  intro hf
  constructor
  · intro h
    obtain ⟨e, he, hpath, rfl⟩ := h
    exact ⟨hpath, he⟩
  · intro h
    exact ⟨e, h.2, h.1, rfl⟩

theorem mem_entries_iff {f : Finding} {v : Violation} :
    .violation v ∈ f.entries ↔ v ∈ f.violations := by
  unfold Finding.entries
  split <;> simp

theorem mem_violations_iff {f : Finding} {v : Violation} :
    v ∈ f.violations ↔ ∃ report, f.report = some report ∧ v ∈ report.violations := by
  unfold Finding.violations
  cases f.report with
  | none => simp
  | some report => simp

structure Finding.OnOneLine (f : Finding) : Prop where
  path : '\n' ∉ f.path.display.toList
  layers : ∀ v ∈ f.violations, '\n' ∉ v.layer.toList ∧ '\n' ∉ v.dependencyLayer.toList

theorem Finding.OnOneLine.namesLayers {f : Finding} (h : f.OnOneLine) {entry : Entry}
    (hentry : entry ∈ f.entries) : entry.NamesLayers := by
  cases entry with
  | violation v => exact h.layers v (mem_entries_iff.1 hentry)
  | blocked b => trivial

theorem toList_compact (fs : List Finding) : (linesText (fs.flatMap findingLines)).toList =
    unlines ((reported fs).map fun entry => (entry.2.line entry.1).toList) := by
  rw [toList_linesText, compactLines_eq, List.map_map]
  rfl

section

variable {fs : List Finding} (h : ∀ f ∈ fs, f.OnOneLine)

include h

/-- Each newline in a dependency is a line too many. -/
theorem count_compact : (linesText (fs.flatMap findingLines)).toList.count '\n' =
    (reported fs).length +
      ((reported fs).map fun entry => entry.2.dependency.toList.count '\n').sum := by
  rw [toList_compact, count_unlines, List.length_map, List.map_map]
  congr 2
  apply List.map_congr_left
  intro entry hentry
  obtain ⟨f, hf, hpath, he⟩ := mem_reported.1 hentry
  exact Entry.count_line (hpath ▸ (h f hf).path) ((h f hf).namesLayers he)

theorem oneLineEach_compact_iff :
    OneLineEach (fun entry => (entry.2.opening entry.1).toList) (reported fs)
      (linesText (fs.flatMap findingLines)).toList ↔
        ∀ f ∈ fs, ∀ v ∈ f.violations, '\n' ∉ v.dependency.toList := by
  have hopens : ∀ entry : String × Entry,
      (entry.2.opening entry.1).toList <+: (entry.2.line entry.1).toList :=
    fun entry => entry.2.opening_prefix_line entry.1
  rw [toList_compact, oneLineEach_iff hopens]
  constructor
  · intro hlines f hf v hv
    have he : .violation v ∈ f.entries := mem_entries_iff.2 hv
    have hline := hlines (f.path.display, .violation v) (mem_reported.2 ⟨f, hf, rfl, he⟩)
    rwa [Entry.newline_mem_line_iff (h f hf).path ((h f hf).namesLayers he)] at hline
  · intro hdependencies entry hentry
    obtain ⟨f, hf, hpath, he⟩ := mem_reported.1 hentry
    rw [← hpath, Entry.newline_mem_line_iff (h f hf).path ((h f hf).namesLayers he)]
    cases hkind : entry.2 with
    | violation v => exact hdependencies f hf v (mem_entries_iff.1 (hkind ▸ he))
    | blocked b => exact List.not_mem_nil

end

/-! ## Runs -/

namespace Host

variable {h : Host} {settings : Settings} {gated : GatedDocuments} {paths : List FilePath}

theorem finish_written (hstdout : h.stdout.TakesAll) (stderr : Output) (code : Nat)
    (text : String) :
    (h.finish stderr code text).stdout.written = h.stdout.written ++ toUtf8 text := by
  obtain ⟨stdout, hwrite, hwritten, -⟩ := hstdout.write (toUtf8 text)
  rw [finish, hwrite]
  exact hwritten

theorem forall₂_findings (hfiles : ∀ path ∈ paths, ∃ text, h.readFile path = .ok text) :
    List.Forall₂ (fun path f => ∃ text, h.readFile path = .ok text ∧
      f = Finding.ofFile settings.rulesets gated path text.toList) paths
      (h.findings settings gated paths) := by
  unfold findings
  induction paths with
  | nil => exact .nil
  | cons path paths ih =>
    obtain ⟨⟨text, hread⟩, hrest⟩ := List.forall_mem_cons.1 hfiles
    rw [readFiles, hread]
    exact .cons ⟨text, hread, rfl⟩ (ih hrest)

theorem mem_findings (hfiles : ∀ path ∈ paths, ∃ text, h.readFile path = .ok text) {f : Finding}
    (hf : f ∈ h.findings settings gated paths) : f.path ∈ paths ∧
      ∃ content, f.report = settings.rulesets.check f.path.display content := by
  obtain ⟨path, hpath, text, -, rfl⟩ := (exists_mem_findings_iff hfiles (· = f)).1 ⟨f, hf, rfl⟩
  exact ⟨hpath, text.toList, rfl⟩

end Host

/-- Where paths and the names of layers are on one line, the compact output of a check of readable
files has one line for each violation and each blocked document, file by file, the violations in the
order of the source and in front of the document, if and only if no violation has a newline in its
dependency. Else there is a line too many for each of these newlines, and the imports that they come
from are of ECMAScript modules. -/
theorem compact_lines_iff {h : Host} {verbose : Bool} {config : Option String}
    {paths : List FilePath} {settings : Settings} {gated : GatedDocuments}
    (hload : Settings.load h.toSurroundings (Source.select h.toSurroundings config) = .ok settings)
    (hgated : compile settings.policy.documents = .ok gated)
    (hnames : ∀ e ∈ settings.rulesets.ecosystems, ∀ l ∈ e.layers, '\n' ∉ l.name.toList)
    (hpaths : ∀ path ∈ paths, '\n' ∉ path.display.toList)
    (hfiles : ∀ path ∈ paths, ∃ text, h.readFile path = .ok text)
    (hlog : Host.LogHolds (h.filter verbose) h.stderr) (hstdout : h.stdout.TakesAll) :
    ∃ found text,
      List.Forall₂ (fun path f => ∃ content, h.readFile path = .ok content ∧
        f = Finding.ofFile settings.rulesets gated path content.toList) paths found ∧
      (h.runInvocation ⟨verbose, config, .check paths .compact⟩).stdout.written =
        h.stdout.written ++ toUtf8 text ∧
      (reported found).length =
        (found.flatMap (·.violations)).length + (found.filter (·.isBlocked)).length ∧
      (∀ f ∈ found,
        f.violations.Pairwise fun v v' => v.location.offset < v'.location.offset) ∧
      (OneLineEach (fun entry => (entry.2.opening entry.1).toList) (reported found) text.toList ↔
        ∀ f ∈ found, ∀ v ∈ f.violations, '\n' ∉ v.dependency.toList) ∧
      text.toList.count '\n' = (reported found).length +
        ((reported found).map fun entry => entry.2.dependency.toList.count '\n').sum ∧
      ∀ f ∈ found, ∀ v ∈ f.violations, '\n' ∈ v.dependency.toList →
        ∃ report e, f.report = some report ∧
          settings.rulesets.ecosystem? report.ecosystem = some e ∧ e.importSyntax = .esModule := by
  have hconsistent : settings.rulesets.Consistent := by
    obtain ⟨d, -, hvalid, rfl⟩ := load_eq_ok_iff.1 hload
    exact (Rulesets.validate_eq_ok_iff _).1 hvalid
  obtain ⟨events, hrun⟩ := Host.runInvocation_check verbose .compact hload hgated hfiles
  obtain ⟨stderr, hreported⟩ := hlog.logging h events
    (fun stderr => h.report stderr .compact (h.findings settings gated paths))
  have hreports : ∀ f ∈ h.findings settings gated paths, ∀ report, f.report = some report →
      ∃ content, settings.rulesets.check f.path.display content = some report := by
    intro f hf report hreport
    obtain ⟨-, content, hcheck⟩ := Host.mem_findings hfiles hf
    exact ⟨content, by rw [← hcheck, hreport]⟩
  have hwords : ∀ f ∈ h.findings settings gated paths, f.OnOneLine := by
    intro f hf
    refine ⟨hpaths _ (Host.mem_findings hfiles hf).1, fun v hv => ?_⟩
    obtain ⟨report, hreport, hv⟩ := mem_violations_iff.1 hv
    obtain ⟨content, hcheck⟩ := hreports f hf report hreport
    obtain ⟨e, he, -, ⟨l, hl, hlayer⟩, ⟨l', hl', htarget⟩, -⟩ :=
      hconsistent.violation_words hcheck hv
    exact ⟨hlayer ▸ hnames e he l hl, htarget ▸ hnames e he l' hl'⟩
  refine ⟨h.findings settings gated paths, _, Host.forall₂_findings hfiles, ?_,
    length_reported _, ?_, oneLineEach_compact_iff hwords, count_compact hwords, ?_⟩
  · rw [hrun, hreported]
    exact Host.finish_written hstdout _ _ _
  · intro f hf
    cases hreport : f.report with
    | none => simp [Finding.violations, hreport]
    | some report =>
      obtain ⟨content, hcheck⟩ := hreports f hf report hreport
      have hviolations : f.violations = report.violations := by
        rw [Finding.violations, hreport]
        rfl
      rw [hviolations]
      exact violations_ascending hcheck
  · intro f hf v hv hnewline
    obtain ⟨report, hreport, hv⟩ := mem_violations_iff.1 hv
    obtain ⟨content, hcheck⟩ := hreports f hf report hreport
    obtain ⟨e, he, hname, -, -, htoken⟩ := hconsistent.violation_words hcheck hv
    refine ⟨report, e, hreport, hname ▸ hconsistent.ecosystem?_eq he, ?_⟩
    by_contra hsyntax
    exact newline_not_mem_token hsyntax htoken hnewline

/-- A project with a controller in TypeScript and a document of which a phase is blocked. -/
def controllerProject (source : String) : Host :=
  { Host.bare ⟨[], none⟩ with
    tree := ⟨[(["src"], .directory), (["src", "controller"], .directory),
      (["src", "controller", "Orders.ts"], .file (toUtf8 source)),
      (["a.spec.md"], .file (toUtf8 "## Phase 1\n## Phase 2\n"))]⟩ }

def controllerArguments : List String :=
  ["check", "--format", "compact", "src/controller/Orders.ts", "a.spec.md"]

def controllerPaths : List FilePath := [.ofText "src/controller/Orders.ts", .ofText "a.spec.md"]

theorem load_of_builtin {s : Surroundings} (h : Source.select s none = .builtin) :
    Settings.load s (Source.select s none) = .ok builtinSettings := by
  rw [h]
  exact load_eq_ok_iff.2 ⟨{}, rfl, Builtin.validate_rulesets, rfl⟩

theorem builtin_names : ∀ e ∈ builtinSettings.rulesets.ecosystems, ∀ l ∈ e.layers,
    '\n' ∉ l.name.toList := by decide +kernel

theorem accepts_compact (source : String) : (controllerProject source).Accepts
    controllerArguments ⟨false, none, .check controllerPaths .compact⟩ := by
  show Invocation.ofArguments _ none = _
  decide +kernel

theorem compact_lines_iff_controller :
    let h := controllerProject "import Order from './model/order';\n"
    ∃ found text, (h.run controllerArguments).stdout.written =
        toUtf8 text ∧
      OneLineEach (fun entry => (entry.2.opening entry.1).toList) (reported found) text.toList ∧
      (reported found).length = 2 := by
  intro h
  have hload := load_of_builtin (s := h.toSurroundings) (by decide +kernel)
  have hfirst : h.readFile (.ofText "src/controller/Orders.ts") =
      .ok "import Order from './model/order';\n" := by decide +kernel
  have hsecond : h.readFile (.ofText "a.spec.md") = .ok "## Phase 1\n## Phase 2\n" := by
    decide +kernel
  have hfiles : ∀ path ∈ controllerPaths, ∃ text, h.readFile path = .ok text := by
    simp [controllerPaths, hfirst, hsecond]
  obtain ⟨found, text, hfound, hwritten, -, -, hiff, -, -⟩ :=
    compact_lines_iff hload compile_defaultDocuments builtin_names (by decide +kernel) hfiles
      (Or.inr trivial) trivial
  obtain _ | ⟨⟨content, hread, rfl⟩, _ | ⟨⟨content', hread', rfl⟩, _ | _⟩⟩ := hfound
  obtain rfl := Except.ok.inj (hfirst.symm.trans hread)
  obtain rfl := Except.ok.inj (hsecond.symm.trans hread')
  have hrun := congrArg (·.stdout.written)
    (accepts_compact "import Order from './model/order';\n").run_eq
  exact ⟨_, text, hrun.trans hwritten, hiff.2 (by decide +kernel), by decide +kernel⟩

/-- The source of the import goes over two lines, and with it the line of its violation. -/
theorem compact_line_split :
    let h := controllerProject "import Order from './model\n/order';\n"
    let found := h.findings builtinSettings builtin controllerPaths
    let text := "src/controller/Orders.ts:1:1: warning [layer] Controller -> Model " ++
      "(./model\n/order)\na.spec.md: error [phase-review] Phase 1 not approved, Phase 2 blocked\n"
    h.Accepts controllerArguments ⟨false, none, .check controllerPaths .compact⟩ ∧
    Settings.load h.toSurroundings (Source.select h.toSurroundings none) = .ok builtinSettings ∧
    (∀ e ∈ builtinSettings.rulesets.ecosystems, ∀ l ∈ e.layers, '\n' ∉ l.name.toList) ∧
    (∀ path ∈ controllerPaths, '\n' ∉ path.display.toList) ∧
    (h.run controllerArguments).stdout.written = toUtf8 text ∧
    text.toList.count '\n' = 3 ∧
    (found.flatMap (·.violations)).length + (found.filter (·.isBlocked)).length = 2 ∧
    ¬ OneLineEach (fun entry => (entry.2.opening entry.1).toList) (reported found)
      text.toList := by
  intro h found text
  have hcount : text.toList.count '\n' = 3 := by decide +kernel
  have hfound :
      (found.flatMap (·.violations)).length + (found.filter (·.isBlocked)).length = 2 := by
    decide +kernel
  refine ⟨accepts_compact _, load_of_builtin (by decide +kernel), builtin_names,
    by decide +kernel, by decide +kernel, hcount, hfound, fun heach => ?_⟩
  have hlines := heach.count_eq
  rw [hcount, length_reported, hfound] at hlines
  cases hlines

end EditGuard.Command
