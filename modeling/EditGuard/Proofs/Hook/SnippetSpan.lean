import EditGuard.Hook.Verdict
import EditGuard.Proofs.Review.Gate
import EditGuard.Proofs.Text.Occurrence

/-! # Edits that reach over several phases

The text that an edit puts in may reach from one phase into later ones. The gate looks at its first
byte only: the edit passes when the phase that owns that byte may be edited, or when none owns it,
and the headings that the text holds further on are not asked about.
-/

namespace EditGuard.Review.Document

open Text

/-- Every number from one up to `n`, exclusive, is approved. -/
def Unlocked (d : Document) (n : Nat) : Prop :=
  ∀ k, 1 ≤ k → k < n → d.statusOf? k = some .approved

theorem unlocked_iff_lowestUnapproved? (d : Document) (n : Nat) :
    d.Unlocked n ↔ d.lowestUnapproved? n = none := by
  rw [lowestUnapproved?_eq_none_iff]
  simp only [isApproved_iff]
  rfl

theorem ownerAt?_eq_none_of_isEmpty {o : Outline} (h : o.isEmpty = true) (offset : Nat) :
    o.ownerAt? offset = none := by
  have hnil : o.phases = [] := List.isEmpty_iff.1 h
  rw [Outline.ownerAt?, hnil]
  rfl

/-- An edit at an offset is allowed if the phase that owns it, if any, is unlocked. -/
theorem isAllowed_at_offset_iff (d : Document) (offset : Nat) :
    (d.decide (some (.offset offset))).isAllowed = true ↔
      ∀ phase, d.outline.ownerAt? offset = some phase → d.Unlocked phase.number := by
  unfold decide
  by_cases hempty : d.outline.isEmpty = true
  · rw [if_pos hempty, ownerAt?_eq_none_of_isEmpty hempty]
    simp [Decision.isAllowed]
  · simp only [if_neg hempty, EditHint.owner?]
    cases d.outline.ownerAt? offset with
    | none => simp [Decision.isAllowed]
    | some phase =>
      have howner : (∀ p, some phase = some p → d.Unlocked p.number) ↔ d.Unlocked phase.number := by
        simp
      rw [howner]
      by_cases hfirst : phase.number ≤ 1
      · have hunlocked : d.Unlocked phase.number := fun k hk hlt => by omega
        simp [hfirst, hunlocked, Decision.isAllowed]
      · rw [unlocked_iff_lowestUnapproved?]
        simp only [if_neg hfirst]
        cases d.lowestUnapproved? phase.number with
        | none => simp [Decision.isAllowed]
        | some k => simp [Decision.isAllowed]

/-- The phase whose heading stands at an offset owns it. -/
theorem ownerAt?_heading {t : List Char} {phase : Phase}
    (h : phase ∈ (ofText t).outline.phases) :
    (ofText t).outline.ownerAt? phase.location.offset = some phase := by
  have hascending := phases_ascending t
  have howner := ownerAt?_eq t phase.location.offset
  obtain ⟨above, below, hsplit⟩ := List.append_of_mem h
  have hphases : (Outline.ofText (LineIndex.ofText t) t).phases = above ++ phase :: below := hsplit
  have hnone : below.filter (·.location.offset ≤ phase.location.offset) = [] := by
    rw [hphases, List.pairwise_append] at hascending
    rw [List.filter_eq_nil_iff]
    intro p hp
    have hlt := (List.pairwise_cons.1 hascending.2.1).1 p hp
    simp only [decide_eq_true_eq]
    omega
  rw [hphases, List.filter_append, List.filter_cons_of_pos (by simp), hnone,
    List.getLast?_concat] at howner
  exact howner

/-- The heading stands in the bytes from `start` up to `stop`, exclusive. -/
def Covers (d : Document) (start stop : Nat) (phase : Phase) : Prop :=
  phase ∈ d.outline.phases ∧ start ≤ phase.location.offset ∧ phase.location.offset < stop

end EditGuard.Review.Document

namespace EditGuard.Hook

open Config Review Text Time

theorem gateOutcome_eq_pass_iff (now : Instant) (decision : Decision) :
    gateOutcome now decision = .pass ↔ decision.isAllowed = true := by
  cases decision with
  | allow reason => simp [gateOutcome, Decision.isAllowed]
  | deny b => simp [gateOutcome, Decision.isAllowed]

theorem ne_empty_of_usable? {v : Json.Value} {name s : String}
    (h : Payload.usable? v name = some s) : s ≠ "" := by
  have hfilter := (Option.filter_eq_some_iff.1 h).2
  simpa using hfilter

theorem snippet_ne_nil {p : Payload} {snippet : String} (h : p.snippet? = some snippet) :
    snippet.toList ≠ [] := by
  have hne : snippet ≠ "" := by
    obtain ⟨v, -, hv⟩ := Option.bind_eq_some_iff.1 h
    rcases Option.or_eq_some_iff.1 hv with hnested | ⟨-, htop⟩
    · obtain ⟨input, -, hinput⟩ := Option.bind_eq_some_iff.1 hnested
      exact ne_empty_of_usable? hinput
    · exact ne_empty_of_usable? htop
  intro hnil
  exact hne (String.toList_eq_nil_iff.1 hnil)

/-- An edit of a gated document, told by a text that stands at one offset of it. -/
structure SnippetEdit (settings : Settings) (p : Payload) (target : Target) (snippet : String)
    (start : Nat) : Prop where
  target_eq : p.target? = some target
  gated : ∃ gated, GatedDocuments.compile settings.policy.documents = .ok gated ∧
    gated.contains target.path.toList = true
  snippet_eq : p.snippet? = some snippet
  once : ∀ k, OccursAt snippet.toList target.content.toList k ↔ k = start

namespace SnippetEdit

variable {settings : Settings} {p : Payload} {target : Target} {snippet : String} {start : Nat}

theorem hint?_eq (h : SnippetEdit settings p target snippet start) :
    hint? none p target.content.toList = some (.offset start) := by
  have hfound := occurrences_eq_singleton (snippet_ne_nil h.snippet_eq) h.once
  have hunique : uniqueOffset? target.content.toList snippet.toList = some start := by
    rw [uniqueOffset?, hfound]
  rw [hint?, h.snippet_eq, Option.bind_some, hunique]
  rfl

theorem passes_iff (h : SnippetEdit settings p target snippet start) (now : Instant) :
    let d := Document.ofText target.content.toList
    (judgePhases none now settings p).outcome = .pass ↔
      ∀ phase, d.outline.ownerAt? start = some phase → d.Unlocked phase.number := by
  intro d
  obtain ⟨gated, hcompile, hcontains⟩ := h.gated
  have houtcome : (judgePhases none now settings p).outcome =
      gateOutcome now (d.decide (some (.offset start))) := by
    simp only [judgePhases, h.target_eq, hcompile, h.hint?_eq, GatedDocuments.evaluate, hcontains,
      if_true, d]
  rw [houtcome, gateOutcome_eq_pass_iff, Document.isAllowed_at_offset_iff]

end SnippetEdit

/-- The edit passes when the phase at its first byte is unlocked, whatever headings its text holds.
So what passes leaves every heading in the text unlocked just when the phase at the first byte is
locked, and nothing passes, or the headings behind the first byte are unlocked anyway. -/
theorem pass_iff_first_byte_unlocked {settings : Settings} {p : Payload} {target : Target}
    {snippet : String} {start : Nat} (h : SnippetEdit settings p target snippet start)
    (now : Instant) :
    let d := Document.ofText target.content.toList
    let stop := start + byteLength snippet.toList
    let passes := (judgePhases none now settings p).outcome = .pass
    (passes ↔ ∀ phase, d.outline.ownerAt? start = some phase → d.Unlocked phase.number) ∧
    ((passes → ∀ phase, d.Covers start stop phase → d.Unlocked phase.number) ↔
      (∃ phase, d.outline.ownerAt? start = some phase ∧ ¬ d.Unlocked phase.number) ∨
      ∀ phase, d.Covers (start + 1) stop phase → d.Unlocked phase.number) := by
  intro d stop passes
  have hpass : passes ↔
      ∀ phase, d.outline.ownerAt? start = some phase → d.Unlocked phase.number :=
    h.passes_iff now
  refine ⟨hpass, ?_⟩
  rw [hpass]
  constructor
  · intro hguard
    by_cases hstart : ∀ phase,
        d.outline.ownerAt? start = some phase → d.Unlocked phase.number
    · refine Or.inr ?_
      intro phase hcovers
      obtain ⟨hmem, hfrom, hto⟩ := hcovers
      exact hguard hstart phase ⟨hmem, by omega, hto⟩
    · simp only [not_forall, exists_prop] at hstart
      exact Or.inl hstart
  · intro hguard hstart phase hcovers
    rcases hguard with ⟨owner, howner, hlocked⟩ | hbehind
    · exact absurd (hstart owner howner) hlocked
    · obtain ⟨hmem, hfrom, hto⟩ := hcovers
      by_cases hfirst : phase.location.offset = start
      · -- A heading at the first byte owns it.
        have howner := Document.ownerAt?_heading hmem
        rw [hfirst] at howner
        exact hstart phase howner
      · exact hbehind phase ⟨hmem, by omega, hto⟩

/-- An edit whose text starts in the first phase and goes on into the second. -/
def spanningEdit : Payload :=
  .ofBytes (toUtf8 ("\x7b\"file_path\": \"docs/a.spec.md\", " ++
    "\"content\": \"## Phase 1\\nx\\n## Phase 2\\ny\\n\", " ++
    "\"new_string\": \"x\\n## Phase 2\\ny\"\x7d"))

def spanningTarget : Target := ⟨"docs/a.spec.md", "## Phase 1\nx\n## Phase 2\ny\n"⟩

def builtinSettings : Settings := ⟨Layers.Builtin.rulesets, {}, .builtin⟩

theorem snippetEdit_spanning :
    SnippetEdit builtinSettings spanningEdit spanningTarget "x\n## Phase 2\ny" 11 := by
  have hgated : (match GatedDocuments.compile builtinSettings.policy.documents with
      | .ok gated => gated.contains spanningTarget.path.toList
      | .error _ => false) = true := by decide +kernel
  have hoffsets : everyOffset "x\n## Phase 2\ny".toList 0 spanningTarget.content.toList = [11] := by
    decide +kernel
  refine ⟨by decide +kernel, ?_, by decide +kernel, ?_⟩
  · cases hcompile : GatedDocuments.compile builtinSettings.policy.documents with
    | error e => rw [hcompile] at hgated; cases hgated
    | ok gated => rw [hcompile] at hgated; exact ⟨gated, rfl, hgated⟩
  · intro k
    rw [occursAt_iff_mem, hoffsets, List.mem_singleton]

/-- Its first byte stands in the first phase, so it passes. -/
theorem pass_iff_first_byte_unlocked_spanning :
    (judgePhases none ⟨0⟩ builtinSettings spanningEdit).outcome = .pass := by
  apply (pass_iff_first_byte_unlocked snippetEdit_spanning ⟨0⟩).1.2
  intro phase howner k hk hlt
  have hnumber : ((Document.ofText spanningTarget.content.toList).outline.ownerAt? 11).map
      (·.number) = some 1 := by decide +kernel
  rw [howner] at hnumber
  have hfirst : phase.number = 1 := Option.some.inj hnumber
  omega

/-- The edit passes with the heading of the second phase in its text, though the first phase has no
approval. -/
theorem locked_heading_passes :
    let d := Document.ofText spanningTarget.content.toList
    SnippetEdit builtinSettings spanningEdit spanningTarget "x\n## Phase 2\ny" 11 ∧
      (judgePhases none ⟨0⟩ builtinSettings spanningEdit).outcome = .pass ∧
      ∃ phase, d.Covers 11 (11 + byteLength "x\n## Phase 2\ny".toList) phase ∧
        phase.number = 2 ∧ ¬ d.Unlocked phase.number := by
  intro d
  have hphase : ⟨2, "Phase 2".toList, ⟨3, 1, 13⟩⟩ ∈ d.outline.phases := by decide +kernel
  have hunmarked : d.statusOf? 1 = none := by decide +kernel
  refine ⟨snippetEdit_spanning, by decide +kernel, _, ⟨hphase, by decide, by decide⟩, rfl, ?_⟩
  intro hunlocked
  have happroved := hunlocked 1 (by decide) (by decide)
  rw [hunmarked] at happroved
  cases happroved

end EditGuard.Hook
