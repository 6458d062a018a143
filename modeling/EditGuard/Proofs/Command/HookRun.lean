import EditGuard.Command.Run
import EditGuard.Proofs.Hook.Forwarding

/-! # Runs of the hooks

A run of either hook comes down to one outcome, which is decided by the settings and the payload,
and to what the three streams make of it. The exit code is that of the outcome, unless the log
breaks the run off. It does so only where a line of its own is refused, and then what it says of
that.
-/

namespace EditGuard.Command

open Config Hook Log Text Time

/-- How a hook judges a payload. The other commands read none. -/
def Task.judge? (now : Instant) : Task → Option (Settings → Payload → Verdict)
  | .architecture => some judgeLayers
  | .phaseReview editLine => some (judgePhases editLine now)
  | .check _ _ => none
  | .listRules => none
  | .init _ => none

inductive Task.IsHook : Task → Prop where
  | architecture : IsHook .architecture
  | phaseReview (editLine : Option Nat) : IsHook (.phaseReview editLine)

theorem Task.IsHook.exists_judge {t : Task} (h : t.IsHook) (now : Instant) :
    ∃ judge, t.judge? now = some judge := by
  cases h with
  | architecture => exact ⟨judgeLayers, rfl⟩
  | phaseReview editLine => exact ⟨judgePhases editLine now, rfl⟩

theorem Task.judge?_cases {t : Task} {now : Instant} {judge : Settings → Payload → Verdict}
    (h : t.judge? now = some judge) : (t = .architecture ∧ judge = judgeLayers) ∨
      ∃ editLine, t = .phaseReview editLine ∧ judge = judgePhases editLine now := by
  cases t with
  | architecture => exact Or.inl ⟨rfl, (Option.some.inj h).symm⟩
  | phaseReview editLine => exact Or.inr ⟨editLine, rfl, (Option.some.inj h).symm⟩
  | check paths format => cases h
  | listRules => cases h
  | init force => cases h

/-! ## Verdicts -/

theorem load_eq_ok_iff {s : Surroundings} {source : Source} {settings : Settings} :
    Settings.load s source = .ok settings ↔ ∃ d, Settings.declared s source = .ok d ∧
      (d.rulesets.getD Layers.Builtin.rulesets).validate = .ok () ∧
      settings = ⟨d.rulesets.getD Layers.Builtin.rulesets, d.policy, source⟩ := by
  unfold Settings.load
  cases Settings.declared s source with
  | error e => simp [bind, Except.bind]
  | ok d =>
    simp only [bind, Except.bind, pure, Except.pure, Except.ok.injEq, exists_eq_left']
    cases (d.rulesets.getD Layers.Builtin.rulesets).validate with
    | error e => simp [Except.mapError]
    | ok u => simp [Except.mapError, eq_comm]

section

variable {s : Surroundings} {source : Source} {judge : Settings → Payload → Verdict} {p : Payload}

theorem verdict_of_load (settings : Settings) (h : Settings.load s source = .ok settings) :
    (verdict s source judge p).outcome = (judge settings p).outcome := by
  rw [verdict, h]

theorem verdict_of_load_error {e : LoadError} (h : Settings.load s source = .error e) :
    (verdict s source judge p).outcome = .pass := by
  rw [verdict, h]

/-- A hook that has something to say has its settings. -/
theorem verdict_eq_iff {o : Outcome} (ho : o ≠ .pass) :
    (verdict s source judge p).outcome = o ↔
      ∃ settings, Settings.load s source = .ok settings ∧ (judge settings p).outcome = o := by
  cases hload : Settings.load s source with
  | error e => simp [verdict_of_load_error hload, ho.symm]
  | ok settings => simp [verdict_of_load settings hload]

/-- A hook has nothing to say of a payload without a file. -/
theorem judge_of_target?_eq_none {t : Task} {now : Instant} (ht : t.judge? now = some judge)
    (settings : Settings) (hp : p.target? = none) : (judge settings p).outcome = .pass := by
  rcases Task.judge?_cases ht with ⟨-, rfl⟩ | ⟨editLine, -, rfl⟩
  · rw [judgeLayers, hp]
  · rw [judgePhases, hp]

theorem verdict_of_target?_eq_none {t : Task} {now : Instant} (ht : t.judge? now = some judge)
    (hp : p.target? = none) : (verdict s source judge p).outcome = .pass := by
  cases hload : Settings.load s source with
  | error e => exact verdict_of_load_error hload
  | ok settings =>
    rw [verdict_of_load settings hload]
    exact judge_of_target?_eq_none ht settings hp

end

/-! ## Payloads received -/

theorem receivedPayload_of_whole {input : Input} (h : input.fault = none) :
    receivedPayload input = Payload.ofBytes input.bytes := by
  rw [receivedPayload, Payload.receive, h]

theorem receivedPayload_of_fault {input : Input} {fault : Fault} (h : input.fault = some fault) :
    receivedPayload input = Payload.ofBytes [] := by
  rw [receivedPayload, Payload.receive, h]

/-! ## Logging -/

theorem nothing_lets (e : Event) : Filter.nothing.lets e = false := by
  have hrank : ¬ e.level.rank ≤ 0 := by
    cases e.level with
    | error => decide
    | warn => decide
    | info => decide
    | debug => decide
    | trace => decide
  simpa [Filter.lets, Filter.directive?, Filter.nothing, Directive.fits] using hrank

namespace Host

def Quiet (h : Host) (verbose : Bool) : Prop := ∀ e, (h.filter verbose).lets e = false

theorem quiet_of_unset {h : Host} (hlog : h.value? "SPEC_HOOKS_LOG" = none) : h.Quiet false := by
  intro e
  have hfilter : h.filter false = Filter.nothing := by rw [filter, hlog]; rfl
  rw [hfilter]
  exact nothing_lets e

/-- The log has nothing to write, or all that is written is taken. -/
def LogHolds (filter : Filter) (stderr : Output) : Prop :=
  (∀ e, filter.lets e = false) ∨ stderr.TakesAll

section

variable {h : Host} {f : Filter} {stderr stderr' : Output} {e : Event} {events : List Event}

theorem logEvent_of_not_lets (hf : f.lets e = false) : h.logEvent f stderr e = .ok stderr := by
  rw [logEvent, hf, if_neg (by simp)]

theorem logEvent_of_takesAll (hstderr : stderr.TakesAll) (f : Filter) (e : Event) :
    ∃ stderr', h.logEvent f stderr e = .ok stderr' ∧ stderr'.TakesAll := by
  by_cases hlets : f.lets e = true
  · obtain ⟨stderr', hwrite, -, htakes⟩ := hstderr.writeLine (e.line h.now)
    rw [logEvent, if_pos hlets, hwrite]
    exact ⟨stderr', rfl, htakes⟩
  · exact ⟨stderr, logEvent_of_not_lets (Bool.eq_false_iff.2 hlets), hstderr⟩

theorem logTo_cons : h.logTo f stderr (e :: events) =
    (h.logEvent f stderr e).bind fun stderr => h.logTo f stderr events := rfl

theorem logTo_append (events later : List Event) : h.logTo f stderr (events ++ later) =
    (h.logTo f stderr events).bind fun stderr => h.logTo f stderr later := by
  rw [logTo, List.foldlM_append]
  rfl

theorem logTo_of_quiet (hf : ∀ e, f.lets e = false) (stderr : Output) (events : List Event) :
    h.logTo f stderr events = .ok stderr := by
  induction events with
  | nil => rfl
  | cons e events ih => rw [logTo_cons, logEvent_of_not_lets (hf e), Except.bind, ih]

theorem logTo_of_takesAll (hstderr : stderr.TakesAll) (f : Filter) (events : List Event) :
    ∃ stderr', h.logTo f stderr events = .ok stderr' ∧ stderr'.TakesAll := by
  induction events generalizing stderr with
  | nil => exact ⟨stderr, rfl, hstderr⟩
  | cons e events ih =>
    obtain ⟨stderr', hfirst, htakes⟩ := logEvent_of_takesAll (h := h) hstderr f e
    obtain ⟨stderr'', hrest, htakes⟩ := ih htakes
    exact ⟨stderr'', by rw [logTo_cons, hfirst, Except.bind, hrest], htakes⟩

theorem LogHolds.logTo (hlog : LogHolds f stderr) (h : Host) (events : List Event) :
    ∃ stderr', h.logTo f stderr events = .ok stderr' ∧ LogHolds f stderr' := by
  rcases hlog with hquiet | hstderr
  · exact ⟨stderr, logTo_of_quiet hquiet stderr events, Or.inl hquiet⟩
  · obtain ⟨stderr', hlogged, htakes⟩ := logTo_of_takesAll (h := h) hstderr f events
    exact ⟨stderr', hlogged, Or.inr htakes⟩

theorem logging_of_ok (hlogged : h.logTo f stderr events = .ok stderr')
    (next : Output → Finish) : h.logging f stderr events next = next stderr' := by
  rw [logging, hlogged]

theorem logging_of_error (hlogged : h.logTo f stderr events = .error stderr')
    (next : Output → Finish) :
    h.logging f stderr events next = ⟨unwritableCode, h.stdout, stderr', h.tree⟩ := by
  rw [logging, hlogged]

theorem logging_append (later : List Event) (next : Output → Finish) :
    h.logging f stderr (events ++ later) next =
      h.logging f stderr events fun stderr => h.logging f stderr later next := by
  rw [logging, logging, logTo_append]
  cases h.logTo f stderr events with
  | ok stderr' => rfl
  | error broken => rfl

theorem LogHolds.logging (hlog : LogHolds f stderr) (h : Host) (events : List Event)
    (next : Output → Finish) : ∃ stderr', h.logging f stderr events next = next stderr' := by
  obtain ⟨stderr', hlogged, -⟩ := hlog.logTo h events
  exact ⟨stderr', logging_of_ok hlogged next⟩

end

/-! ## Runs -/

/-- A host with an input and nothing around it. -/
def bare (stdin : Input) : Host where
  tree := ⟨[]⟩
  directory := []
  environment := []
  accountHome := "/root"
  now := ⟨0⟩
  stdin := stdin

def Accepts (h : Host) (args : List String) (i : Invocation) : Prop :=
  Invocation.ofArguments args (h.value? "SPEC_HOOKS_CONFIG") = .ok i

theorem Accepts.run_eq {h : Host} {args : List String} {i : Invocation} (ha : h.Accepts args i) :
    h.run args = h.runInvocation i := by
  rw [run, ha]

def source (h : Host) (i : Invocation) : Source := Source.select h.toSurroundings i.config

def judged (h : Host) (i : Invocation) (judge : Settings → Payload → Verdict) : Verdict :=
  verdict h.toSurroundings (h.source i) judge (receivedPayload h.stdin)

/-- Standard error behind what is logged in front of the outcome. -/
def logged (h : Host) (i : Invocation) (judge : Settings → Payload → Verdict) :
    Except Output Output :=
  h.logTo (h.filter i.verbose) h.stderr
    (h.sourceEvents (h.source i) ++ payloadEvents h.stdin ++ (h.judged i judge).events)

/-- What is written of the outcome. -/
def emitted (h : Host) (i : Invocation) (judge : Settings → Payload → Verdict)
    (stderr : Output) : Emission :=
  (h.judged i judge).outcome.emit (receivedPayload h.stdin) h.stdout stderr

/-- Standard error behind what is logged of a fault in writing the outcome. -/
def relogged (h : Host) (i : Invocation) (judge : Settings → Payload → Verdict)
    (stderr : Output) : Except Output Output :=
  h.logTo (h.filter i.verbose) (h.emitted i judge stderr).stderr
    ((h.emitted i judge stderr).fault.toList.map .outputRefused)

/-- The log breaks a run off, before there is an outcome or behind it. -/
inductive BreaksOff (h : Host) (i : Invocation) (judge : Settings → Payload → Verdict) : Prop
  | early {stderr : Output} (hlog : h.logged i judge = .error stderr)
  | late {stderr stderr' : Output} (hlog : h.logged i judge = .ok stderr)
      (hrelog : h.relogged i judge stderr = .error stderr')

variable {h : Host} {args : List String} {i : Invocation} {judge : Settings → Payload → Verdict}

/-- A hook logs, writes its outcome and logs what was refused of it. -/
theorem runInvocation_eq (ht : i.task.judge? h.now = some judge) : h.runInvocation i =
    h.logging (h.filter i.verbose) h.stderr
      (h.sourceEvents (h.source i) ++ payloadEvents h.stdin ++ (h.judged i judge).events)
      fun stderr =>
        Host.logging { h with stdout := (h.emitted i judge stderr).stdout } (h.filter i.verbose)
          (h.emitted i judge stderr).stderr
          ((h.emitted i judge stderr).fault.toList.map .outputRefused) fun stderr' =>
            ⟨(h.judged i judge).outcome.exitCode, (h.emitted i judge stderr).stdout, stderr',
              h.tree⟩ := by
  rcases Task.judge?_cases ht with ⟨htask, rfl⟩ | ⟨editLine, htask, rfl⟩
  · rw [runInvocation, htask]
    rfl
  · rw [runInvocation, htask]
    rfl

theorem runInvocation_of_logged (ht : i.task.judge? h.now = some judge) {stderr stderr' : Output}
    (hlog : h.logged i judge = .ok stderr) (hrelog : h.relogged i judge stderr = .ok stderr') :
    h.runInvocation i = ⟨(h.judged i judge).outcome.exitCode, (h.emitted i judge stderr).stdout,
      stderr', h.tree⟩ := by
  rw [runInvocation_eq ht, logging_of_ok hlog]
  exact logging_of_ok (h := { h with stdout := (h.emitted i judge stderr).stdout }) hrelog _

theorem BreaksOff.runInvocation (hbreak : h.BreaksOff i judge)
    (ht : i.task.judge? h.now = some judge) :
    (h.runInvocation i).code = unwritableCode ∧ (h.runInvocation i).tree = h.tree := by
  rw [runInvocation_eq ht]
  cases hbreak with
  | early hlog =>
    rw [logging_of_error hlog]
    exact ⟨rfl, rfl⟩
  | @late stderr stderr' hlog hrelog =>
    have hend := logging_of_error (h := { h with stdout := (h.emitted i judge stderr).stdout })
      hrelog
    rw [logging_of_ok hlog, hend]
    exact ⟨rfl, rfl⟩

/-- A hook is broken off, or it ends with its outcome behind what is logged. -/
theorem breaksOff_or (ht : i.task.judge? h.now = some judge) : h.BreaksOff i judge ∨
    ∃ stderr stderr', h.logged i judge = .ok stderr ∧
      h.runInvocation i = ⟨(h.judged i judge).outcome.exitCode, (h.emitted i judge stderr).stdout,
        stderr', h.tree⟩ := by
  cases hlog : h.logged i judge with
  | error stderr => exact Or.inl (.early hlog)
  | ok stderr =>
    cases hrelog : h.relogged i judge stderr with
    | error stderr' => exact Or.inl (.late hlog hrelog)
    | ok stderr' => exact Or.inr ⟨stderr, stderr', rfl, runInvocation_of_logged ht hlog hrelog⟩

theorem takesAll_logged (hstderr : h.stderr.TakesAll) {stderr : Output}
    (hlogged : h.logged i judge = .ok stderr) : stderr.TakesAll := by
  obtain ⟨stderr', hfirst, htakes⟩ := logTo_of_takesAll (h := h) hstderr (h.filter i.verbose)
    (h.sourceEvents (h.source i) ++ payloadEvents h.stdin ++ (h.judged i judge).events)
  obtain rfl : stderr' = stderr := Except.ok.inj (hfirst.symm.trans hlogged)
  exact htakes

theorem not_breaksOff (hlog : LogHolds (h.filter i.verbose) h.stderr) :
    ¬ h.BreaksOff i judge := by
  intro hbreak
  cases hbreak with
  | early hbroken =>
    obtain ⟨stderr, hlogged, -⟩ := hlog.logTo h
      (h.sourceEvents (h.source i) ++ payloadEvents h.stdin ++ (h.judged i judge).events)
    have heq := hbroken.symm.trans hlogged
    cases heq
  | @late stderr stderr' hlogged hbroken =>
    have hholds : LogHolds (h.filter i.verbose) (h.emitted i judge stderr).stderr := by
      rcases hlog with hquiet | hstderr
      · exact Or.inl hquiet
      · exact Or.inr (Outcome.takesAll_emit _ _ _ (takesAll_logged hstderr hlogged))
    obtain ⟨stderr₂, hrelogged, -⟩ := hholds.logTo h _
    have heq := hbroken.symm.trans hrelogged
    cases heq

theorem runInvocation_code (ht : i.task.judge? h.now = some judge)
    (hwhole : ¬ h.BreaksOff i judge) :
    (h.runInvocation i).code = (h.judged i judge).outcome.exitCode := by
  obtain ⟨stderr, stderr', -, hrun⟩ := (breaksOff_or ht).resolve_left hwhole
  rw [hrun]

theorem run_code (ha : h.Accepts args i) (ht : i.task.judge? h.now = some judge)
    (hwhole : ¬ h.BreaksOff i judge) : (h.run args).code = (h.judged i judge).outcome.exitCode := by
  rw [ha.run_eq, runInvocation_code ht hwhole]

theorem run_code_of_breaksOff (ha : h.Accepts args i) (ht : i.task.judge? h.now = some judge)
    (hbreak : h.BreaksOff i judge) : (h.run args).code = unwritableCode := by
  rw [ha.run_eq, (hbreak.runInvocation ht).1]

/-- A run that ends as a hook does was not broken off. -/
theorem not_breaksOff_of_code (ha : h.Accepts args i) (ht : i.task.judge? h.now = some judge)
    (hcode : (h.run args).code ≠ unwritableCode) : ¬ h.BreaksOff i judge :=
  fun hbreak => hcode (run_code_of_breaksOff ha ht hbreak)

theorem run_stdout (ha : h.Accepts args i) (ht : i.task.judge? h.now = some judge)
    (hwhole : ¬ h.BreaksOff i judge) : ∃ stderr, h.logged i judge = .ok stderr ∧
      (h.run args).stdout = (h.emitted i judge stderr).stdout := by
  obtain ⟨stderr, stderr', hlogged, hrun⟩ := (breaksOff_or ht).resolve_left hwhole
  exact ⟨stderr, hlogged, by rw [ha.run_eq, hrun]⟩

theorem run_tree (ha : h.Accepts args i) (ht : i.task.judge? h.now = some judge) :
    (h.run args).tree = h.tree := by
  rw [ha.run_eq]
  rcases breaksOff_or ht with hbreak | ⟨stderr, stderr', -, hrun⟩
  · exact (hbreak.runInvocation ht).2
  · rw [hrun]

theorem run_of_quiet (ha : h.Accepts args i) (ht : i.task.judge? h.now = some judge)
    (hquiet : h.Quiet i.verbose) : h.run args =
      ⟨(h.judged i judge).outcome.exitCode, (h.emitted i judge h.stderr).stdout,
        (h.emitted i judge h.stderr).stderr, h.tree⟩ := by
  rw [ha.run_eq]
  exact runInvocation_of_logged ht (logTo_of_quiet hquiet _ _) (logTo_of_quiet hquiet _ _)

theorem run_stderr_of_quiet (ha : h.Accepts args i) (ht : i.task.judge? h.now = some judge)
    (hquiet : h.Quiet i.verbose) (hstdout : h.stdout.TakesAll) (hstderr : h.stderr.TakesAll) :
    (h.run args).stderr.written = h.stderr.written ++ (h.judged i judge).outcome.spoken := by
  rw [run_of_quiet ha ht hquiet]
  exact Outcome.emit_spoken _ hstdout hstderr (receivedPayload h.stdin)

end Host

end EditGuard.Command
