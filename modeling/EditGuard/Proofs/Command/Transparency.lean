import EditGuard.Proofs.Command.GateRun

/-! # Transparency of the hooks

Where the streams work and nothing is logged, what a hook puts out is the payload again, unless the
edit is refused. It decides on what it puts out as it does on the payload, and so does the other
hook: both may stand one behind the other.
-/

namespace EditGuard.Command

open Config Hook Json Layers Review Text Time

/-! ## Crossings -/

/-- An edit whose imports cross the layers, with all that it takes to see it. -/
structure CrossesLayers (s : Surroundings) (source : Source) (input : Input) (settings : Settings)
    (document : Value) (target : Target) (report : Report) : Prop where
  loaded : Settings.load s source = .ok settings
  whole : input.fault = none
  decoded : Json.read input.bytes = .ok document
  usable : Payload.targetOf? document = some target
  reported : settings.rulesets.check target.path target.content.toList = some report
  crossed : report.violations ≠ []

/-- The edit on this input is to be advised on. -/
def LayerViolation (s : Surroundings) (source : Source) (input : Input) (report : Report) : Prop :=
  ∃ settings document target, CrossesLayers s source input settings document target report

theorem exists_advisory_iff (r : Report) :
    (∃ advisory, r.advisory? = some advisory) ↔ r.violations ≠ [] := by
  unfold Report.advisory? Report.isClean
  cases r.violations with
  | nil => simp
  | cons v violations => simp

theorem layerOutcome_eq_advise_iff {found : Option Report} {message : String} :
    layerOutcome found = .advise message ↔
      ∃ report, found = some report ∧ report.advisory? = some message := by
  unfold layerOutcome
  cases found with
  | none => simp
  | some report =>
    rw [Option.bind_some]
    cases hadvisory : report.advisory? with
    | none => simp [hadvisory]
    | some advisory => simp [hadvisory]

theorem layerOutcome_ne_deny (found : Option Report) (message : String) :
    layerOutcome found ≠ .deny message := by
  unfold layerOutcome
  split <;> simp

theorem judgeLayers_eq_advise_iff {settings : Settings} {p : Payload} {message : String} :
    (judgeLayers settings p).outcome = .advise message ↔
      ∃ target report, p.target? = some target ∧
        settings.rulesets.check target.path target.content.toList = some report ∧
        report.advisory? = some message := by
  unfold judgeLayers
  cases p.target? with
  | none => simp
  | some target => simp [layerOutcome_eq_advise_iff]

theorem judgeLayers_ne_deny (settings : Settings) (p : Payload) (message : String) :
    (judgeLayers settings p).outcome ≠ .deny message := by
  unfold judgeLayers
  cases p.target? with
  | none => simp
  | some target => exact layerOutcome_ne_deny _ message

section

variable {s : Surroundings} {source : Source}

theorem verdict_eq_advise_iff {input : Input} {message : String} :
    (verdict s source judgeLayers (receivedPayload input)).outcome = .advise message ↔
      ∃ report, LayerViolation s source input report ∧ report.advisory? = some message := by
  rw [verdict_eq_iff (by simp)]
  constructor
  · intro h
    obtain ⟨settings, hload, hadvise⟩ := h
    obtain ⟨target, report, htarget, hreport, hadvisory⟩ := judgeLayers_eq_advise_iff.1 hadvise
    obtain ⟨hwhole, document, hread, husable⟩ := target?_received_eq_some_iff.1 htarget
    have hcrossed := (exists_advisory_iff report).1 ⟨message, hadvisory⟩
    exact ⟨report, ⟨settings, document, target, hload, hwhole, hread, husable, hreport,
      hcrossed⟩, hadvisory⟩
  · intro h
    obtain ⟨report, ⟨settings, document, target, hcrosses⟩, hadvisory⟩ := h
    have htarget := target?_received_eq_some_iff.2
      ⟨hcrosses.whole, document, hcrosses.decoded, hcrosses.usable⟩
    refine ⟨settings, hcrosses.loaded, judgeLayers_eq_advise_iff.2 ?_⟩
    exact ⟨target, report, htarget, hcrosses.reported, hadvisory⟩

theorem verdict_judgeLayers_exitCode (s : Surroundings) (source : Source) (p : Payload) :
    (verdict s source judgeLayers p).outcome.exitCode = 0 := by
  cases houtcome : (verdict s source judgeLayers p).outcome with
  | pass => rfl
  | advise message => rfl
  | deny message =>
    obtain ⟨settings, -, hdeny⟩ := (verdict_eq_iff (by simp)).1 houtcome
    exact absurd hdeny (judgeLayers_ne_deny settings p message)

/-- What is passed on of a payload is judged as the payload is. A blank one is replaced, but
neither it nor what replaces it says which file is edited. -/
theorem verdict_passedOn {t : Task} {now : Instant} {judge : Settings → Payload → Verdict}
    (ht : t.judge? now = some judge) (bytes : Bytes) :
    (verdict s source judge (Payload.ofBytes (passedOn bytes))).outcome =
      (verdict s source judge (Payload.ofBytes bytes)).outcome := by
  by_cases hblank : bytes.all isBlankByte = true
  · rw [passedOn_of_blank hblank, verdict_of_target?_eq_none ht target?_braces,
      verdict_of_target?_eq_none ht (target?_of_blank hblank)]
  · rw [passedOn_of_not_blank hblank]

end

namespace Host

/-! ## Working streams -/

/-- The input is read to its end, and both outputs are empty and take all that is written. -/
structure Working (h : Host) : Prop where
  whole : h.stdin.fault = none
  stdoutTakes : h.stdout.TakesAll
  stdoutEmpty : h.stdout.written = []
  stderrTakes : h.stderr.TakesAll
  stderrEmpty : h.stderr.written = []

section

variable {h : Host} {args : List String} {i : Invocation} {judge : Settings → Payload → Verdict}

theorem Working.not_breaksOff (hw : h.Working) : ¬ h.BreaksOff i judge :=
  Host.not_breaksOff (Or.inr hw.stderrTakes)

theorem Working.run_code (hw : h.Working) (ha : h.Accepts args i)
    (ht : i.task.judge? h.now = some judge) :
    (h.run args).code = (h.judged i judge).outcome.exitCode :=
  Host.run_code ha ht hw.not_breaksOff

theorem Working.run_stdout (hw : h.Working) (ha : h.Accepts args i)
    (ht : i.task.judge? h.now = some judge) :
    (h.run args).stdout.written =
      if (h.judged i judge).outcome.exitCode = 0 then passedOn h.stdin.bytes else [] := by
  obtain ⟨stderr, hlogged, hstdout⟩ := Host.run_stdout ha ht hw.not_breaksOff
  rw [hstdout, emitted, receivedPayload_of_whole hw.whole]
  split
  · next hzero =>
    have hforwards := Outcome.forwards_of_takesAll hzero (takesAll_logged hw.stderrTakes hlogged)
    rw [Outcome.emit_of_forwards hforwards hw.stdoutTakes, hw.stdoutEmpty, forwarded_ofBytes,
      List.nil_append]
  · next hrefused =>
    rw [Outcome.emit_of_not_forwards fun hforwards => hrefused hforwards.exitCode_eq_zero]
    exact hw.stdoutEmpty

theorem Working.run_stderr (hw : h.Working) (ha : h.Accepts args i)
    (ht : i.task.judge? h.now = some judge) (hquiet : h.Quiet i.verbose) :
    (h.run args).stderr.written = (h.judged i judge).outcome.spoken := by
  rw [run_stderr_of_quiet ha ht hquiet hw.stdoutTakes hw.stderrTakes, hw.stderrEmpty,
    List.nil_append]

/-! ## Runs one behind the other -/

/-- The host of a later run, whose input is what another run has put out. -/
def after (h : Host) (f : Finish) (later : Instant) : Host :=
  { h with tree := f.tree, now := later, stdin := ⟨f.stdout.written, none⟩ }

/-- The host of a later run, whose input is what is passed on of the payload. -/
def handed (h : Host) (later : Instant) : Host :=
  { h with now := later, stdin := ⟨passedOn h.stdin.bytes, none⟩ }

theorem Working.after_run (hw : h.Working) (ha : h.Accepts args i)
    (ht : i.task.judge? h.now = some judge) (hcode : (h.run args).code = 0) (later : Instant) :
    h.after (h.run args) later = h.handed later := by
  rw [hw.run_code ha ht] at hcode
  rw [after, handed, run_tree ha ht, hw.run_stdout ha ht, if_pos hcode]

theorem Working.handed (hw : h.Working) (later : Instant) : (h.handed later).Working :=
  ⟨rfl, hw.stdoutTakes, hw.stdoutEmpty, hw.stderrTakes, hw.stderrEmpty⟩

theorem Working.judged_handed (hw : h.Working) {now : Instant} (ht : i.task.judge? now = some judge)
    (later : Instant) :
    ((h.handed later).judged i judge).outcome = (h.judged i judge).outcome := by
  have hjudged : (h.judged i judge).outcome =
      (verdict h.toSurroundings (h.source i) judge (Payload.ofBytes h.stdin.bytes)).outcome := by
    rw [judged, receivedPayload_of_whole hw.whole]
  rw [hjudged]
  exact verdict_passedOn ht h.stdin.bytes

/-- Two runs whose outcomes end alike put out the same. -/
theorem Working.run_handed (hw : h.Working) (ha : h.Accepts args i)
    (ht : i.task.judge? h.now = some judge) {later : Instant}
    {judge' : Settings → Payload → Verdict} (ht' : i.task.judge? later = some judge')
    (hcode : (h.judged i judge').outcome.exitCode = (h.judged i judge).outcome.exitCode) :
    ((h.handed later).run args).code = (h.run args).code ∧
      ((h.handed later).run args).stdout.written = (h.run args).stdout.written := by
  have ha' : (h.handed later).Accepts args i := ha
  have hjudged := hw.judged_handed ht' later
  constructor
  · rw [(hw.handed later).run_code ha' ht', hw.run_code ha ht, hjudged, hcode]
  · have hinput : passedOn (h.handed later).stdin.bytes = passedOn h.stdin.bytes :=
      passedOn_passedOn h.stdin.bytes
    rw [(hw.handed later).run_stdout ha' ht', hw.run_stdout ha ht, hjudged, hcode, hinput]

theorem Working.run_handed_stderr (hw : h.Working) (ha : h.Accepts args i) {later : Instant}
    (ht : i.task.judge? later = some judge) (hquiet : h.Quiet i.verbose) :
    ((h.handed later).run args).stderr.written = (h.judged i judge).outcome.spoken := by
  have ha' : (h.handed later).Accepts args i := ha
  rw [(hw.handed later).run_stderr ha' ht hquiet, hw.judged_handed ht later]

/-- The phase gate decides on what another hook passes on as it does on the payload. -/
theorem Working.chained (hw : h.Working) {verbose : Bool} {config : Option String}
    {editLine : Option Nat} (ha : h.Accepts args ⟨verbose, config, .phaseReview editLine⟩)
    (hquiet : h.Quiet verbose) (later : Instant) :
    ((h.handed later).run args).code = (h.run args).code ∧
    ((h.handed later).run args).stdout.written = (h.run args).stdout.written ∧
    ∃ denial, (h.run args).code = (refusal h.now denial).exitCode ∧
      (h.run args).stderr.written = (refusal h.now denial).spoken ∧
      ((h.handed later).run args).stderr.written = (refusal later denial).spoken := by
  have ht : ∀ now, (Task.phaseReview editLine).judge? now = some (judgePhases editLine now) :=
    fun now => rfl
  obtain ⟨denial, hdenial⟩ := h.exists_judged_refusal ⟨verbose, config, .phaseReview editLine⟩
    editLine
  have hcode : (h.judged ⟨verbose, config, .phaseReview editLine⟩
      (judgePhases editLine later)).outcome.exitCode =
      (h.judged ⟨verbose, config, .phaseReview editLine⟩
        (judgePhases editLine h.now)).outcome.exitCode := by
    rw [hdenial later, hdenial h.now, refusal_exitCode, refusal_exitCode]
  obtain ⟨hsame, hstdout⟩ := hw.run_handed ha (ht h.now) (ht later) hcode
  refine ⟨hsame, hstdout, denial, ?_, ?_, ?_⟩
  · rw [hw.run_code ha (ht h.now), hdenial h.now]
  · rw [hw.run_stderr ha (ht h.now) hquiet, hdenial h.now]
  · rw [hw.run_handed_stderr ha (ht later) hquiet, hdenial later]

/-- A hook gives the same result on what it lets pass. -/
theorem Working.repeated (hw : h.Working) (ha : h.Accepts args i) (hi : i.task.IsHook)
    (hquiet : h.Quiet i.verbose) (hcode : (h.run args).code = 0) (later : Instant) :
    ((h.handed later).run args).code = (h.run args).code ∧
    ((h.handed later).run args).stdout.written = (h.run args).stdout.written ∧
    ((h.handed later).run args).stderr.written = (h.run args).stderr.written := by
  obtain ⟨verbose, config, task⟩ := i
  cases hi with
  | architecture =>
    have ht : ∀ now, Task.architecture.judge? now = some judgeLayers := fun now => rfl
    obtain ⟨hsame, hstdout⟩ := hw.run_handed ha (ht h.now) (ht later) rfl
    refine ⟨hsame, hstdout, ?_⟩
    rw [hw.run_handed_stderr ha (ht later) hquiet, hw.run_stderr ha (ht h.now) hquiet]
  | phaseReview editLine =>
    obtain ⟨hsame, hstdout, denial, hexit, hfirst, hsecond⟩ := hw.chained ha hquiet later
    refine ⟨hsame, hstdout, ?_⟩
    rw [hexit, refusal_exitCode] at hcode
    cases denial with
    | none => rw [hfirst, hsecond, refusal, refusal]
    | some b => cases hcode

/-- With working streams and nothing logged, the layer hook passes the payload on and adds its
advice on a violation. What it passes on, and what either hook does, may be given to a hook
again. -/
theorem Working.transparent (hw : h.Working) {verbose : Bool} {config : Option String}
    (ha : h.Accepts args ⟨verbose, config, .architecture⟩) (hquiet : h.Quiet verbose) :
    (h.run args).code = 0 ∧
    (h.run args).stdout.written = passedOn h.stdin.bytes ∧
    (∀ report, LayerViolation h.toSurroundings (h.source ⟨verbose, config, .architecture⟩)
      h.stdin report → ∃ advisory, report.advisory? = some advisory ∧
        (h.run args).stderr.written = toUtf8 (advisory ++ "\n")) ∧
    ((¬ ∃ report, LayerViolation h.toSurroundings
        (h.source ⟨verbose, config, .architecture⟩) h.stdin report) →
      (h.run args).stderr.written = []) ∧
    (∀ later gateArgs verbose config editLine,
      h.Accepts gateArgs ⟨verbose, config, .phaseReview editLine⟩ → h.Quiet verbose →
      ((h.after (h.run args) later).run gateArgs).code = (h.run gateArgs).code ∧
      ((h.after (h.run args) later).run gateArgs).stdout.written =
        (h.run gateArgs).stdout.written ∧
      ∃ denial, (h.run gateArgs).code = (refusal h.now denial).exitCode ∧
        (h.run gateArgs).stderr.written = (refusal h.now denial).spoken ∧
        ((h.after (h.run args) later).run gateArgs).stderr.written =
          (refusal later denial).spoken) ∧
    ∀ later hookArgs i, h.Accepts hookArgs i → i.task.IsHook → h.Quiet i.verbose →
      (h.run hookArgs).code = 0 →
      ((h.after (h.run hookArgs) later).run hookArgs).code = 0 ∧
      ((h.after (h.run hookArgs) later).run hookArgs).stdout.written =
        (h.run hookArgs).stdout.written ∧
      ((h.after (h.run hookArgs) later).run hookArgs).stderr.written =
        (h.run hookArgs).stderr.written := by
  have ht : Task.architecture.judge? h.now = some judgeLayers := rfl
  have hzero : (h.judged ⟨verbose, config, .architecture⟩ judgeLayers).outcome.exitCode = 0 :=
    verdict_judgeLayers_exitCode _ _ _
  have hcode : (h.run args).code = 0 := (hw.run_code ha ht).trans hzero
  have hstderr := hw.run_stderr ha ht hquiet
  refine ⟨hcode, ?_, ?_, ?_, ?_, ?_⟩
  · rw [hw.run_stdout ha ht, if_pos hzero]
  · intro report hviolation
    obtain ⟨settings, document, target, hcrosses⟩ := hviolation
    obtain ⟨advisory, hadvisory⟩ := (exists_advisory_iff report).2 hcrosses.crossed
    have hadvise : (h.judged ⟨verbose, config, .architecture⟩ judgeLayers).outcome =
        .advise advisory :=
      verdict_eq_advise_iff.2 ⟨report, ⟨settings, document, target, hcrosses⟩, hadvisory⟩
    rw [hstderr, hadvise]
    exact ⟨advisory, hadvisory, rfl⟩
  · intro hnone
    rw [hstderr]
    cases houtcome : (h.judged ⟨verbose, config, .architecture⟩ judgeLayers).outcome with
    | pass => rfl
    | advise message =>
      obtain ⟨report, hviolation, -⟩ := verdict_eq_advise_iff.1 houtcome
      exact absurd ⟨report, hviolation⟩ hnone
    | deny message =>
      rw [houtcome] at hzero
      cases hzero
  · intro later gateArgs verbose config editLine hgate hsilent
    rw [hw.after_run ha ht hcode]
    exact hw.chained hgate hsilent later
  · intro later hookArgs i hhook hi hsilent hpass
    obtain ⟨judge, hjudge⟩ := hi.exists_judge h.now
    rw [hw.after_run hhook hjudge hpass]
    obtain ⟨hsame, hrest⟩ := hw.repeated hhook hi hsilent hpass later
    exact ⟨hsame.trans hpass, hrest⟩

end

/-- An edit by which the domain of a service comes to import its gateway. -/
def crossingEdit : Host :=
  bare ⟨toUtf8 ("\x7b\"file_path\": \"shop/domain/Order.java\", " ++
    "\"content\": \"import shop.gateway.Card;\\n\"\x7d"), none⟩

theorem working_crossingEdit : crossingEdit.Working := ⟨rfl, trivial, rfl, trivial, rfl⟩

theorem quiet_crossingEdit : crossingEdit.Quiet false := quiet_of_unset rfl

theorem transparent_crossingEdit :
    (crossingEdit.run ["architecture"]).stdout.written = crossingEdit.stdin.bytes ∧
    (∃ report advisory, LayerViolation crossingEdit.toSurroundings
      (crossingEdit.source ⟨false, none, .architecture⟩) crossingEdit.stdin report ∧
      (crossingEdit.run ["architecture"]).stderr.written = toUtf8 (advisory ++ "\n")) ∧
    ((crossingEdit.after (crossingEdit.run ["architecture"]) ⟨1⟩).run ["phase-review"]).code =
      (crossingEdit.run ["phase-review"]).code ∧
    ((crossingEdit.after (crossingEdit.run ["architecture"]) ⟨1⟩).run ["architecture"]).code =
      0 := by
  have ha : crossingEdit.Accepts ["architecture"] ⟨false, none, .architecture⟩ := rfl
  have hgate : crossingEdit.Accepts ["phase-review"] ⟨false, none, .phaseReview none⟩ := rfl
  obtain ⟨hcode, hstdout, hadvised, hsilent, hchained, hrepeated⟩ :=
    working_crossingEdit.transparent ha quiet_crossingEdit
  have hspoken : (crossingEdit.run ["architecture"]).stderr.written ≠ [] := by decide +kernel
  have hviolation : ∃ report, LayerViolation crossingEdit.toSurroundings
      (crossingEdit.source ⟨false, none, .architecture⟩) crossingEdit.stdin report := by
    by_contra hnone
    exact hspoken (hsilent hnone)
  obtain ⟨report, hreport⟩ := hviolation
  obtain ⟨advisory, -, hstderr⟩ := hadvised report hreport
  refine ⟨?_, ⟨report, advisory, hreport, hstderr⟩, ?_, ?_⟩
  · exact hstdout.trans (passedOn_of_not_blank (by decide +kernel))
  · exact (hchained ⟨1⟩ ["phase-review"] false none none hgate quiet_crossingEdit).1
  · exact (hrepeated ⟨1⟩ ["architecture"] _ ha .architecture quiet_crossingEdit hcode).1

end Host

end EditGuard.Command
