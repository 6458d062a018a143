import EditGuard.Proofs.Command.HookRun
import EditGuard.Proofs.Review.GatedDocuments

/-! # Runs of the phase gate

The gate refuses an edit only where everything it needs is at hand: settings that load, a payload
that says which file it edits, patterns that can be read, and a file gated by them that breaks the
order of the phases. Whatever else happens, the edit passes.
-/

namespace EditGuard.Command

open Config Hook Json Layers Review Review.GatedDocuments Text Time

/-! ## Payloads -/

theorem target?_ofBytes_eq_some_iff {bytes : Bytes} {target : Target} :
    (Payload.ofBytes bytes).target? = some target ↔
      ∃ document, Json.read bytes = .ok document ∧ Payload.targetOf? document = some target := by
  unfold Payload.target? Payload.value? Payload.ofBytes
  cases Json.read bytes with
  | error e => simp [Except.toOption]
  | ok document => simp [Except.toOption]

/-- A payload with a target was read whole. -/
theorem target?_received_eq_some_iff {input : Input} {target : Target} :
    (receivedPayload input).target? = some target ↔ input.fault = none ∧
      ∃ document, Json.read input.bytes = .ok document ∧
        Payload.targetOf? document = some target := by
  cases hfault : input.fault with
  | none =>
    rw [receivedPayload_of_whole hfault, target?_ofBytes_eq_some_iff]
    simp
  | some fault =>
    rw [receivedPayload_of_fault hfault, target?_of_blank rfl]
    simp

theorem gateOutcome_eq_deny_iff {now : Instant} {decision : Decision} {message : String} :
    gateOutcome now decision = .deny message ↔
      ∃ b, decision = .deny b ∧ message = b.message now := by
  cases decision with
  | allow reason => simp [gateOutcome]
  | deny b => simp [gateOutcome, eq_comm]

theorem evaluate_eq_deny_iff {gated : GatedDocuments} {path content : List Char}
    {hint : Option EditHint} {b : Blocked} :
    gated.evaluate path content hint = .deny b ↔
      gated.contains path = true ∧ (Document.ofText content).decide hint = .deny b := by
  unfold evaluate
  cases gated.contains path with
  | true => simp
  | false => simp

theorem judgePhases_eq_deny_iff {editLine : Option Nat} {now : Instant} {settings : Settings}
    {p : Payload} {message : String} :
    (judgePhases editLine now settings p).outcome = .deny message ↔
      ∃ target b, p.target? = some target ∧ Readable settings.policy.documents ∧
        Selects settings.policy.documents target.path.toList ∧
        (Document.ofText target.content.toList).decide
          (hint? editLine p target.content.toList) = .deny b ∧ message = b.message now := by
  unfold judgePhases
  cases p.target? with
  | none => simp
  | some target =>
    cases hgated : GatedDocuments.compile settings.policy.documents with
    | error e =>
      have hreadable : ¬ Readable settings.policy.documents := by
        rw [← exists_compile_iff]
        simp [hgated]
      simp [hreadable]
    | ok gated =>
      have hreadable : Readable settings.policy.documents :=
        (exists_compile_iff _).1 ⟨gated, hgated⟩
      simp [gateOutcome_eq_deny_iff, evaluate_eq_deny_iff, contains_iff hgated, hreadable,
        and_assoc]

/-- The outcome for what stands in the way of an edit, if anything does. -/
def refusal (now : Instant) : Option Blocked → Outcome
  | none => .pass
  | some b => .deny (b.message now)

theorem refusal_exitCode (now : Instant) (denial : Option Blocked) :
    (refusal now denial).exitCode = if denial.isSome then 1 else 0 := by
  cases denial with
  | none => rfl
  | some b => rfl

/-- Time goes into the text of a refusal alone. -/
theorem exists_refusal_of_judgePhases (editLine : Option Nat) (settings : Settings) (p : Payload) :
    ∃ denial, ∀ now, (judgePhases editLine now settings p).outcome = refusal now denial := by
  unfold judgePhases
  cases p.target? with
  | none => exact ⟨none, fun now => rfl⟩
  | some target =>
    cases GatedDocuments.compile settings.policy.documents with
    | error e => exact ⟨none, fun now => rfl⟩
    | ok gated =>
      dsimp only
      cases gated.evaluate target.path.toList target.content.toList
          (hint? editLine p target.content.toList) with
      | allow reason => exact ⟨none, fun now => rfl⟩
      | deny b => exact ⟨some b, fun now => rfl⟩

theorem exists_refusal (s : Surroundings) (source : Source) (editLine : Option Nat)
    (p : Payload) : ∃ denial, ∀ now,
      (verdict s source (judgePhases editLine now) p).outcome = refusal now denial := by
  cases hload : Settings.load s source with
  | error e => exact ⟨none, fun now => verdict_of_load_error hload⟩
  | ok settings =>
    obtain ⟨denial, hdenial⟩ := exists_refusal_of_judgePhases editLine settings p
    exact ⟨denial, fun now => (verdict_of_load settings hload).trans (hdenial now)⟩

/-! ## Runs -/

namespace Host

variable {h : Host} {args : List String} {verbose : Bool} {config : Option String}
  {editLine : Option Nat}

theorem exists_judged_refusal (h : Host) (i : Invocation) (editLine : Option Nat) :
    ∃ denial, ∀ now, (h.judged i (judgePhases editLine now)).outcome = refusal now denial :=
  exists_refusal h.toSurroundings (h.source i) editLine (receivedPayload h.stdin)

/-- An edit of the second phase, before the first one is approved. -/
def lockedEdit : Host :=
  bare ⟨toUtf8 ("\x7b\"file_path\": \"docs/a.spec.md\", " ++
    "\"content\": \"## Phase 1\\n## Phase 2\\n\"\x7d"), none⟩

/-- Logged to an output that takes nothing, not even this edit is refused. -/
example : (Host.run { lockedEdit with stderr := ⟨[], some 0⟩ } ["--verbose", "phase-review"]).code =
    unwritableCode := by decide +kernel

end Host

end EditGuard.Command
