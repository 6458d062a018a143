import EditGuard.Proofs.Command.Transparency
import EditGuard.Proofs.Config.Selection

/-! # The configuration in effect

Where nothing is logged, all that a hook takes from its surroundings is what the selected file says.
Other files, and where the selected one lies, are of no consequence; neither are they if that file
is of no use, as the edit passes then.
-/

namespace EditGuard.Command

open Config Hook Review Review.GatedDocuments Text Time

/-! ## Outcomes at different times -/

/-- Two outcomes that differ at most in the time that a refusal names. -/
inductive SameButTime (now now' : Instant) : Outcome → Outcome → Prop where
  | same (o : Outcome) : SameButTime now now' o o
  | refused (b : Blocked) :
      SameButTime now now' (.deny (b.message now)) (.deny (b.message now'))

namespace SameButTime

variable {now now' : Instant} {o o' : Outcome}

theorem of_refusal (now now' : Instant) (denial : Option Blocked) :
    SameButTime now now' (refusal now denial) (refusal now' denial) := by
  cases denial with
  | none => exact .same .pass
  | some b => exact .refused b

theorem exitCode_eq (h : SameButTime now now' o o') : o'.exitCode = o.exitCode := by
  cases h with
  | same => rfl
  | refused b => simp only [Outcome.exitCode]

theorem emit_stdout (h : SameButTime now now' o o') (p : Payload) (stdout stderr : Output) :
    (o'.emit p stdout stderr).stdout.written = (o.emit p stdout stderr).stdout.written := by
  cases h with
  | same => rfl
  | refused b =>
    have hfirst : ¬ (Outcome.deny (b.message now)).Forwards stderr := fun hforwards => hforwards
    have hsecond : ¬ (Outcome.deny (b.message now')).Forwards stderr := fun hforwards => hforwards
    rw [Outcome.emit_of_not_forwards hfirst, Outcome.emit_of_not_forwards hsecond]

end SameButTime

/-! ## Verdicts on the same content -/

section

variable {s s' : Surroundings} {source source' : Source}

theorem load_of_content? {settings : Settings}
    (hsame : source'.content? s' = source.content? s)
    (hload : Settings.load s source = .ok settings) :
    Settings.load s' source' = .ok { settings with source := source' } := by
  obtain ⟨d, hdeclared, hconsistent, hsettings⟩ := load_eq_ok_iff.1 hload
  have hother := Settings.declared_of_content? hsame hdeclared
  rw [hsettings]
  exact load_eq_ok_iff.2 ⟨d, hother, hconsistent, rfl⟩

/-- Hooks do not ask where their settings come from. -/
theorem judge_outcome_of_source {t : Task} {now : Instant} {judge : Settings → Payload → Verdict}
    (ht : t.judge? now = some judge) (settings : Settings) (source : Source) (p : Payload) :
    (judge { settings with source := source } p).outcome = (judge settings p).outcome := by
  rcases Task.judge?_cases ht with ⟨-, rfl⟩ | ⟨editLine, -, rfl⟩
  · rfl
  · rfl

theorem verdict_of_content? {t : Task} {now : Instant} {judge : Settings → Payload → Verdict}
    (ht : t.judge? now = some judge) (hsame : source'.content? s' = source.content? s)
    (p : Payload) : (verdict s' source' judge p).outcome = (verdict s source judge p).outcome := by
  cases hload : Settings.load s source with
  | ok settings =>
    rw [verdict_of_load settings hload, verdict_of_load _ (load_of_content? hsame hload)]
    exact judge_outcome_of_source ht settings source' p
  | error e =>
    rw [verdict_of_load_error hload]
    cases hother : Settings.load s' source' with
    | error e' => exact verdict_of_load_error hother
    | ok settings =>
      have hboth := load_of_content? hsame.symm hother
      rw [hload] at hboth
      cases hboth

/-- The same content is judged alike, but for the time. -/
theorem sameButTime_verdict {t : Task} {now now' : Instant}
    {judge judge' : Settings → Payload → Verdict} (ht : t.judge? now = some judge)
    (ht' : t.judge? now' = some judge') (hsame : source'.content? s' = source.content? s)
    (p : Payload) :
    SameButTime now now' (verdict s source judge p).outcome
      (verdict s' source' judge' p).outcome := by
  rw [verdict_of_content? ht' hsame p]
  rcases Task.judge?_cases ht with ⟨rfl, rfl⟩ | ⟨editLine, rfl, rfl⟩
  · obtain rfl : judgeLayers = judge' := Option.some.inj ht'
    exact .same _
  · obtain rfl : judgePhases editLine now' = judge' := Option.some.inj ht'
    obtain ⟨denial, hdenial⟩ := exists_refusal s source editLine p
    rw [hdenial now, hdenial now']
    exact .of_refusal now now' denial

/-- Patterns that cannot be read refuse nothing. -/
theorem verdict_of_unreadable {t : Task} {now : Instant} {judge : Settings → Payload → Verdict}
    (ht : t.judge? now = some judge) {settings : Settings}
    (hload : Settings.load s source = .ok settings)
    (hpatterns : ¬ Readable settings.policy.documents) (p : Payload) :
    (verdict s source judge p).outcome.exitCode = 0 := by
  rcases Task.judge?_cases ht with ⟨-, rfl⟩ | ⟨editLine, -, rfl⟩
  · exact verdict_judgeLayers_exitCode s source p
  · rw [verdict_of_load settings hload]
    rcases Outcome.exitCode_eq_zero_or_one (judgePhases editLine now settings p).outcome with
      hzero | hone
    · exact hzero
    · obtain ⟨message, hdeny⟩ := Outcome.exitCode_eq_one_iff.1 hone
      obtain ⟨target, b, -, hreadable, -⟩ := judgePhases_eq_deny_iff.1 hdeny
      exact absurd hreadable hpatterns

end

/-! ## Runs -/

namespace Host

variable {h : Host} {args : List String} {i : Invocation} {judge : Settings → Payload → Verdict}
  {source : Source}

/-- How a run with this outcome ends when nothing is logged. -/
def ended (h : Host) (o : Outcome) : Finish :=
  let e := o.emit (receivedPayload h.stdin) h.stdout h.stderr
  ⟨o.exitCode, e.stdout, e.stderr, h.tree⟩

theorem run_eq_ended (ha : h.Accepts args i) (ht : i.task.judge? h.now = some judge)
    (hquiet : h.Quiet i.verbose) : h.run args = h.ended (h.judged i judge).outcome := by
  rw [run_of_quiet ha ht hquiet]
  rfl

theorem ended_pass_stderr (h : Host) : (h.ended .pass).stderr.written = h.stderr.written := by
  show (Outcome.forward (receivedPayload h.stdin) h.stdout h.stderr).stderr.written = _
  unfold Outcome.forward
  split
  · exact (Outcome.settle_written _ h.stderr).2
  · rfl

/-- The same input and outputs in other surroundings, at another time. -/
def moved (h : Host) (s : Surroundings) (now : Instant) : Host :=
  { h with toSurroundings := s, now := now }

/-- Without logging a hook depends on what the selected source says, whatever else there is in the
surroundings. If the selected file cannot be read, parsed or validated, then the payload passes
unchanged. -/
theorem only_selected_content_matters (ha : h.Accepts args i) (hi : i.task.IsHook)
    (hquiet : h.Quiet i.verbose) (hselected : Source.Selected h.toSurroundings i.config source) :
    (∀ s' now' args' i' source', (h.moved s' now').Accepts args' i' → i'.task = i.task →
      (h.moved s' now').Quiet i'.verbose → Source.Selected s' i'.config source' →
      source'.content? s' = source.content? h.toSurroundings →
        ((h.moved s' now').run args').code = (h.run args).code ∧
        ((h.moved s' now').run args').stdout.written = (h.run args).stdout.written ∧
        ∃ o o', SameButTime h.now now' o o' ∧
          (h.run args).stderr = (h.ended o).stderr ∧
          ((h.moved s' now').run args').stderr = (h.ended o').stderr) ∧
    (∀ path, source.path? = some path → Unusable h.toSurroundings path →
      (h.run args).code = 0 ∧ (h.run args).stderr.written = h.stderr.written ∧
      (h.stdout.TakesAll → (h.run args).stdout.written =
        h.stdout.written ++ (receivedPayload h.stdin).forwarded)) ∧
    (∀ settings, Settings.load h.toSurroundings source = .ok settings →
      ¬ Readable settings.policy.documents →
      (h.run args).code = 0 ∧
      (h.stdout.TakesAll → h.stderr.TakesAll → (h.run args).stdout.written =
        h.stdout.written ++ (receivedPayload h.stdin).forwarded)) := by
  obtain ⟨judge, ht⟩ := hi.exists_judge h.now
  have hsource : h.source i = source := Source.selected_iff.1 hselected
  have hrun : h.run args = h.ended
      (verdict h.toSurroundings source judge (receivedPayload h.stdin)).outcome := by
    rw [run_eq_ended ha ht hquiet, judged, hsource]
  refine ⟨?_, ?_, ?_⟩
  · intro s' now' args' i' source' ha' htask hquiet' hselected' hsame
    obtain ⟨judge', ht'⟩ := hi.exists_judge now'
    have hsource' : (h.moved s' now').source i' = source' := Source.selected_iff.1 hselected'
    have hrun' : (h.moved s' now').run args' = (h.moved s' now').ended
        (verdict s' source' judge' (receivedPayload h.stdin)).outcome := by
      rw [run_eq_ended ha' (htask ▸ ht') hquiet', judged, hsource']
      rfl
    have houtcomes := sameButTime_verdict ht ht' hsame (receivedPayload h.stdin)
    rw [hrun, hrun']
    exact ⟨houtcomes.exitCode_eq, houtcomes.emit_stdout _ _ _, _, _, houtcomes, rfl, rfl⟩
  · intro path hpath hunusable
    obtain ⟨error, hload⟩ := (Settings.exists_load_error_iff hpath).2 hunusable
    rw [hrun, verdict_of_load_error hload]
    refine ⟨rfl, h.ended_pass_stderr, fun hstdout => ?_⟩
    exact Outcome.emit_of_forwards (o := .pass) trivial hstdout _
  · intro settings hload hpatterns
    have hzero := verdict_of_unreadable ht hload hpatterns (receivedPayload h.stdin)
    rw [hrun]
    refine ⟨hzero, fun hstdout hstderr => ?_⟩
    exact Outcome.emit_of_forwards (Outcome.forwards_of_takesAll hzero hstderr) hstdout _

/-- A project whose preferred configuration may not be read, beside another one of use. -/
def lockedProject : Host :=
  { lockedEdit with
    directory := ["project"]
    tree := ⟨[(["project"], .directory),
      (["project", "spec-hooks.toml"], .locked .permissionDenied),
      (["project", ".spec-hooks.toml"], .file [])]⟩ }

/-- Elsewhere the preferred name is that of a directory, and the other configuration is no text. -/
def garbledProject : Surroundings where
  tree := ⟨[(["elsewhere"], .directory), (["elsewhere", "spec-hooks.toml"], .directory),
    (["elsewhere", ".spec-hooks.toml"], .file [255])]⟩
  directory := ["elsewhere"]
  environment := [("SPEC_HOOKS_CONFIG_DIR", "/root")]
  accountHome := "/root"

theorem only_selected_content_matters_locked :
    (lockedProject.run ["phase-review"]).code = 0 ∧
      (lockedProject.run ["phase-review"]).stdout.written = passedOn lockedProject.stdin.bytes ∧
      ((lockedProject.moved garbledProject ⟨1⟩).run ["phase-review"]).code = 0 := by
  have ha : lockedProject.Accepts ["phase-review"] ⟨false, none, .phaseReview none⟩ := rfl
  have ha' : (lockedProject.moved garbledProject ⟨1⟩).Accepts ["phase-review"]
      ⟨false, none, .phaseReview none⟩ := rfl
  have hquiet : lockedProject.Quiet false := quiet_of_unset rfl
  have hquiet' : (lockedProject.moved garbledProject ⟨1⟩).Quiet false := quiet_of_unset rfl
  have hselect : Source.select lockedProject.toSurroundings none =
      .project "/project/spec-hooks.toml" := by decide +kernel
  have hselect' : Source.select garbledProject none =
      .project "/elsewhere/.spec-hooks.toml" := by decide +kernel
  have hread : lockedProject.readText "/project/spec-hooks.toml" = .error .permissionDenied := by
    decide +kernel
  have hlocked : Unusable lockedProject.toSurroundings "/project/spec-hooks.toml" :=
    .unreadable hread
  have hsame : (Source.project "/elsewhere/.spec-hooks.toml").content? garbledProject =
      (Source.project "/project/spec-hooks.toml").content? lockedProject.toSurroundings := by
    decide +kernel
  obtain ⟨hmoved, hunusable, -⟩ := only_selected_content_matters ha (.phaseReview none) hquiet
    (Source.selected_iff.2 hselect)
  obtain ⟨hcode, -, hforwarded⟩ := hunusable _ rfl hlocked
  obtain ⟨hother, -⟩ :=
    hmoved _ _ _ _ _ ha' rfl hquiet' (Source.selected_iff.2 hselect') hsame
  exact ⟨hcode, hforwarded trivial, hother.trans hcode⟩

end Host

end EditGuard.Command
