import EditGuard.Proofs.Review.Gate
import EditGuard.Proofs.Review.HeadingLines

/-! # Hints by line and by offset

An edit at an offset falls to the last heading at or before it, an edit at a line to the last
heading on that line or above. Headings stand at the starts of their lines, so a position and its
line lead to one phase and one decision, also behind the end of the text.
-/

namespace EditGuard.Review

open Text

/-- What the statuses of a document say of an edit of one of its phases, or of none. -/
def Document.decisionOn (d : Document) (edited : Option Phase) : Decision :=
  if d.outline.phases = [] then .allow .noPhases
  else match edited with
    | none => .allow .outsidePhases
    | some phase =>
      if phase.number ≤ 1 then .allow .firstPhase
      else match (List.range' 1 (phase.number - 1)).find? (d.statusOf? · ≠ some .approved) with
        | some k => .deny ⟨phase.number, k, d.statusOf? k⟩
        | none => .allow .priorPhasesApproved

namespace Document

variable {t : List Char} {p : Phase}

/-- A hint counts by the phase that it falls to. -/
theorem decide_hint (d : Document) (h : EditHint) :
    d.decide (some h) = d.decisionOn (h.owner? d) := by
  cases howner : h.owner? d with
  | none => simp only [decide, decisionOn, howner, Outline.isEmpty, List.isEmpty_iff]
  | some phase =>
    have hfind := d.lowestUnapproved?_eq_find? phase.number
    cases hlowest : d.lowestUnapproved? phase.number with
    | none =>
      rw [hlowest] at hfind
      simp only [decide, decisionOn, howner, Outline.isEmpty, List.isEmpty_iff, hlowest, ← hfind]
    | some k =>
      rw [hlowest] at hfind
      simp only [decide, decisionOn, howner, Outline.isEmpty, List.isEmpty_iff, hlowest, ← hfind]

/-! ## Headings at the starts of their lines -/

theorem start_of_phase (h : p ∈ (ofText t).outline.phases) : ∃ i, p.location.line = i + 1 ∧
    p.location.column = 1 ∧ (LineIndex.ofText t).starts[i]? = some p.location.offset := by
  obtain ⟨i, line, n, hpiece, -, rfl⟩ := mem_phases_iff.1 h
  obtain ⟨hi, -⟩ := List.getElem?_eq_some_iff.1 hpiece
  exact ⟨i, rfl, rfl, lineStart?_succ hi⟩

/-- A line reaches the headings on it and above. -/
theorem reaches_line (h : p ∈ (ofText t).outline.phases) (n : Nat) :
    (EditHint.line n).reaches (ofText t) p = true ↔ p.location.line ≤ max n 1 := by
  obtain ⟨i, hline, -, hstart⟩ := start_of_phase h
  obtain ⟨k, hk⟩ : ∃ k, max n 1 = k + 1 := ⟨max n 1 - 1, by omega⟩
  have hlookup : (ofText t).lines.lineStart? (k + 1) = (LineIndex.ofText t).starts[k]? := rfl
  unfold EditHint.reaches
  dsimp only
  rw [hk, hline, hlookup]
  cases hfound : (LineIndex.ofText t).starts[k]? with
  | some start =>
    have horder := start_le_iff hstart hfound
    simp only [decide_eq_true_eq]
    omega
  | none =>
    -- There are fewer lines, and the heading stands on one of them.
    have hfew := List.getElem?_eq_none_iff.1 hfound
    obtain ⟨hi, -⟩ := List.getElem?_eq_some_iff.1 hstart
    simp only [true_iff]
    omega

/-- An offset reaches the headings that its line reaches. -/
theorem reaches_offset (h : p ∈ (ofText t).outline.phases) (x : Nat) :
    (EditHint.offset x).reaches (ofText t) p = true ↔
      (EditHint.line ((LineIndex.ofText t).location x).line).reaches (ofText t) p = true := by
  obtain ⟨i, hline, -, hstart⟩ := start_of_phase h
  have hfirst : 1 ≤ ((LineIndex.ofText t).location x).line :=
    (le_iff_le_line (i := 0) rfl x).1 (Nat.zero_le x)
  have hreached := le_iff_le_line hstart x
  rw [reaches_line h, hline, Nat.max_eq_left hfirst, ← hreached]
  exact decide_eq_true_iff

theorem owner?_line (t : List Char) (n : Nat) : (EditHint.line n).owner? (ofText t) =
    (ofText t).outline.phases.findRev? (·.location.line ≤ max n 1) := by
  rw [owner?_ofText, ← getLast?_filter_eq_findRev?]
  congr 1
  apply List.filter_congr
  intro p hp
  rw [Bool.eq_iff_iff, reaches_line hp, decide_eq_true_iff]

theorem owner?_offset (t : List Char) (x : Nat) : (EditHint.offset x).owner? (ofText t) =
    (EditHint.line ((LineIndex.ofText t).location x).line).owner? (ofText t) := by
  rw [owner?_ofText, owner?_ofText]
  congr 1
  apply List.filter_congr
  intro p hp
  rw [Bool.eq_iff_iff, reaches_offset hp]

/-- Headings ascend and stand at the starts of their lines, so that the owner of an offset is found
from the end of the outline and by halving alike. A line leads to the last heading on it or above,
and an offset to the same decision as its line. -/
theorem decide_offset_as_line (t : List Char) :
    ((ofText t).outline.phases.Pairwise fun p q => p.location.offset < q.location.offset) ∧
    (∀ p ∈ (ofText t).outline.phases, p.location.column = 1 ∧
      (ofText t).lines.lineStart? p.location.line = some p.location.offset) ∧
    (∀ x, (ofText t).outline.ownerAt? x =
        (ofText t).outline.phases.findRev? (·.location.offset ≤ x) ∧
      (ofText t).outline.ownerAt? x =
        lastInFront? (·.location.offset ≤ x) (ofText t).outline.phases) ∧
    (∀ n, (ofText t).decide (some (.line n)) =
      (ofText t).decisionOn ((ofText t).outline.phases.findRev? (·.location.line ≤ max n 1))) ∧
    ∀ x, (ofText t).decide (some (.offset x)) =
      (ofText t).decide (some (.line ((ofText t).lines.location x).line)) := by
  have hascending : (ofText t).outline.phases.Pairwise fun p q =>
      p.location.offset < q.location.offset := phases_ascending t
  refine ⟨hascending, ?_, ?_, ?_, ?_⟩
  · intro p hp
    obtain ⟨i, hline, hcolumn, hstart⟩ := start_of_phase hp
    rw [hline]
    exact ⟨hcolumn, hstart⟩
  · intro x
    have hhalving := lastInFront?_ascending (fun p : Phase => p.location.offset) x hascending
    exact ⟨ownerAt?_eq_findRev? t x, (ownerAt?_eq t x).trans hhalving.symm⟩
  · intro n
    rw [decide_hint, owner?_line]
  · intro x
    have howner := owner?_offset t x
    rw [decide_hint, decide_hint, howner]
    rfl

end Document

end EditGuard.Review
