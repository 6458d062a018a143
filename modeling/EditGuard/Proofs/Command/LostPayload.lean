import EditGuard.Proofs.Command.Transparency

/-! # Payloads that are lost

An edit may pass while its payload does not. Of an input that fails on the way what was read is
dropped, and advice that standard error refuses ends the writing before the payload's turn. There
is no third way, as long as standard output takes what is written.
-/

namespace EditGuard.Command.Host

open Config Hook Text

variable {h : Host} {args : List String} {i : Invocation} {judge : Settings → Payload → Verdict}

/-- The edit passes with advice that standard error refuses. -/
def AdviceRefused (h : Host) (i : Invocation) (judge : Settings → Payload → Verdict) : Prop :=
  ∃ message stderr, (h.judged i judge).outcome = .advise message ∧
    h.logged i judge = .ok stderr ∧ (stderr.writeLine message).2 ≠ none

theorem not_adviceRefused_of_takesAll (hstderr : h.stderr.TakesAll) :
    ¬ h.AdviceRefused i judge := by
  intro hrefused
  obtain ⟨message, stderr, -, hlogged, hline⟩ := hrefused
  obtain ⟨stderr', hwrite, -⟩ := (takesAll_logged hstderr hlogged).writeLine message
  rw [hwrite] at hline
  exact hline rfl

theorem not_breaksOff_of_code_eq_zero (ha : h.Accepts args i)
    (ht : i.task.judge? h.now = some judge) (hcode : (h.run args).code = 0) :
    ¬ h.BreaksOff i judge :=
  not_breaksOff_of_code ha ht (by rw [hcode]; decide)

/-- The outcome of an edit that passes forwards its payload unless the advice is refused. -/
theorem forwards_iff (hzero : (h.judged i judge).outcome.exitCode = 0) {stderr : Output}
    (hlogged : h.logged i judge = .ok stderr) :
    (h.judged i judge).outcome.Forwards stderr ↔ ¬ h.AdviceRefused i judge := by
  rw [← not_iff_not, not_not, Outcome.not_forwards_iff hzero]
  constructor
  · intro hstuck
    obtain ⟨message, houtcome, hline⟩ := hstuck
    exact ⟨message, stderr, houtcome, hlogged, hline⟩
  · intro hrefused
    obtain ⟨message, stderr', houtcome, hlogged', hline⟩ := hrefused
    obtain rfl : stderr' = stderr := Except.ok.inj (hlogged'.symm.trans hlogged)
    exact ⟨message, houtcome, hline⟩

theorem stdout_of_adviceRefused (ha : h.Accepts args i) (ht : i.task.judge? h.now = some judge)
    (hcode : (h.run args).code = 0) (hrefused : h.AdviceRefused i judge) :
    (h.run args).stdout.written = h.stdout.written := by
  have hwhole := not_breaksOff_of_code_eq_zero ha ht hcode
  obtain ⟨stderr, hlogged, hstdout⟩ := run_stdout ha ht hwhole
  rw [run_code ha ht hwhole] at hcode
  rw [hstdout]
  refine Outcome.emit_of_not_forwards (fun hforwards => ?_) _ _
  exact (forwards_iff hcode hlogged).1 hforwards hrefused

theorem stdout_of_not_adviceRefused (ha : h.Accepts args i)
    (ht : i.task.judge? h.now = some judge) (hstdout : h.stdout.TakesAll)
    (hcode : (h.run args).code = 0) (hrefused : ¬ h.AdviceRefused i judge) :
    (h.run args).stdout.written =
      h.stdout.written ++ (receivedPayload h.stdin).forwarded := by
  have hwhole := not_breaksOff_of_code_eq_zero ha ht hcode
  obtain ⟨stderr, hlogged, hwritten⟩ := run_stdout ha ht hwhole
  rw [run_code ha ht hwhole] at hcode
  rw [hwritten]
  exact Outcome.emit_of_forwards ((forwards_iff hcode hlogged).2 hrefused) hstdout _

theorem forwarded_of_fault {input : Input} (h : input.fault ≠ none) :
    (receivedPayload input).forwarded = toUtf8 "\x7b\x7d" := by
  obtain ⟨fault, hfault⟩ := Option.ne_none_iff_exists'.1 h
  rw [receivedPayload_of_fault hfault]
  rfl

/-- An edit that passes keeps its payload exactly if no advice on it was refused and the input was
read to its end, or held nothing anyway. Refused advice leaves nothing of the payload, and a fault
of the input an empty object. -/
theorem payload_kept_iff (ha : h.Accepts args i) (ht : i.task.judge? h.now = some judge)
    (hstdout : h.stdout.TakesAll) (hcode : (h.run args).code = 0) :
    ((h.run args).stdout.written = h.stdout.written ++ passedOn h.stdin.bytes ↔
      ¬ h.AdviceRefused i judge ∧
        (h.stdin.fault ≠ none → passedOn h.stdin.bytes = toUtf8 "\x7b\x7d")) ∧
    (h.AdviceRefused i judge → (h.run args).stdout.written = h.stdout.written) ∧
    (¬ h.AdviceRefused i judge → h.stdin.fault ≠ none →
      (h.run args).stdout.written = h.stdout.written ++ toUtf8 "\x7b\x7d") ∧
    (h.stderr.TakesAll → ¬ h.AdviceRefused i judge) := by
  have hlost := stdout_of_adviceRefused ha ht hcode
  have hkept := stdout_of_not_adviceRefused ha ht hstdout hcode
  have hfaulty : ¬ h.AdviceRefused i judge → h.stdin.fault ≠ none →
      (h.run args).stdout.written = h.stdout.written ++ toUtf8 "\x7b\x7d" := by
    intro hrefused hfault
    rw [hkept hrefused, forwarded_of_fault hfault]
  refine ⟨⟨?_, ?_⟩, hlost, hfaulty, ?_⟩
  · intro hwritten
    have hrefused : ¬ h.AdviceRefused i judge := by
      intro hrefused
      rw [hlost hrefused] at hwritten
      exact passedOn_ne_nil h.stdin.bytes (List.self_eq_append_right.1 hwritten)
    refine ⟨hrefused, fun hfault => ?_⟩
    rw [hfaulty hrefused hfault] at hwritten
    exact (List.append_cancel_left hwritten).symm
  · intro hrest
    obtain ⟨hrefused, hinput⟩ := hrest
    by_cases hfault : h.stdin.fault = none
    · rw [hkept hrefused, receivedPayload_of_whole hfault, forwarded_ofBytes]
    · rw [hfaulty hrefused hfault, hinput hfault]
  · exact not_adviceRefused_of_takesAll

/-- The input fails behind a small object. -/
def tornEdit : Host := bare ⟨toUtf8 "\x7b\"a\":1\x7d", some (.other "broken reader")⟩

/-- There is advice on the edit, and standard error is full. -/
def unheardEdit : Host := { crossingEdit with stderr := ⟨[], some 0⟩ }

theorem payload_kept_iff_tornEdit :
    (tornEdit.run ["phase-review"]).stdout.written = toUtf8 "\x7b\x7d" ∧
      (tornEdit.run ["phase-review"]).stdout.written ≠ passedOn tornEdit.stdin.bytes := by
  have ha : tornEdit.Accepts ["phase-review"] ⟨false, none, .phaseReview none⟩ := rfl
  have hcode : (tornEdit.run ["phase-review"]).code = 0 := by decide +kernel
  have hfault : tornEdit.stdin.fault ≠ none := by decide
  obtain ⟨hiff, -, hfaulty, hheard⟩ := payload_kept_iff ha rfl trivial hcode
  refine ⟨hfaulty (hheard trivial) hfault, fun hwritten => ?_⟩
  have hbraces := (hiff.1 hwritten).2 hfault
  exact absurd hbraces (by decide +kernel)

/-- Edits pass, and standard output takes all, but the payload is replaced or not there. -/
theorem payload_lost :
    (tornEdit.Accepts ["architecture"] ⟨false, none, .architecture⟩ ∧
      tornEdit.stdout.TakesAll ∧ (tornEdit.run ["architecture"]).code = 0 ∧
      (tornEdit.run ["architecture"]).stdout.written = toUtf8 "\x7b\x7d" ∧
      passedOn tornEdit.stdin.bytes = toUtf8 "\x7b\"a\":1\x7d") ∧
    (unheardEdit.Accepts ["architecture"] ⟨false, none, .architecture⟩ ∧
      unheardEdit.stdin.fault = none ∧ unheardEdit.stdout.TakesAll ∧
      (unheardEdit.run ["architecture"]).code = 0 ∧
      (unheardEdit.run ["architecture"]).stdout.written = [] ∧
      passedOn unheardEdit.stdin.bytes ≠ []) := by
  refine ⟨⟨rfl, trivial, ?_, ?_, ?_⟩, ⟨rfl, rfl, trivial, ?_, ?_, passedOn_ne_nil _⟩⟩
  · decide +kernel
  · decide +kernel
  · decide +kernel
  · decide +kernel
  · decide +kernel

end EditGuard.Command.Host
