import EditGuard.Proofs.Hook.SnippetSpan

/-! # Snippets as hints

A snippet says where an edit happens when a scan of the content finds it once. The scan goes on
behind the end of each find, so a snippet that stands at several offsets is found once when all of
them lie within the first occurrence. Only snippets that overlap themselves can stand like that.
-/

namespace EditGuard.Hook

open Review Text Time

theorem uniqueOffset?_eq_some_iff {content snippet : List Char} {offset : Nat} :
    uniqueOffset? content snippet = some offset ↔ occurrences snippet content = [offset] := by
  unfold uniqueOffset?
  split
  · next found hfound => simp [hfound]
  · next hseveral =>
    constructor
    · intro h
      cases h
    · intro h
      exact absurd h (hseveral offset)

/-- A snippet gives no hint if it stands nowhere, or twice without an overlap. -/
theorem uniqueOffset?_eq_none_iff {content snippet : List Char} (hne : snippet ≠ []) :
    uniqueOffset? content snippet = none ↔ (∀ k, ¬ OccursAt snippet content k) ∨
      ∃ j k, OccursAt snippet content j ∧ OccursAt snippet content k ∧
        j + byteLength snippet ≤ k := by
  rw [Option.eq_none_iff_forall_ne_some]
  simp only [ne_eq, uniqueOffset?_eq_some_iff, occurrences_eq_singleton_iff hne]
  constructor
  · intro hnone
    by_cases hsome : ∃ k, OccursAt snippet content k
    · obtain ⟨k, hk⟩ := hsome
      obtain ⟨first, hat, hfirst⟩ := exists_first_occurrence hne hk
      refine Or.inr ?_
      by_contra hclose
      refine hnone first ⟨hat, fun k hk => ⟨hfirst k hk, ?_⟩⟩
      by_contra hapart
      exact hclose ⟨first, k, hat, hk, Nat.le_of_not_lt hapart⟩
    · exact Or.inl (not_exists.1 hsome)
  · intro h offset hfound
    obtain ⟨hat, hall⟩ := hfound
    rcases h with hnowhere | ⟨j, k, hj, hk, hapart⟩
    · exact hnowhere offset hat
    · have hfrom := (hall j hj).1
      have hto := (hall k hk).2
      omega

/-- A snippet is a hint at its first occurrence when the others start within that one. So it is a
hint just when it stands at a single offset, whatever the content, if and only if it does not
overlap itself. -/
theorem hint_up_to_overlap {snippet : List Char} (hne : snippet ≠ []) :
    (∀ content offset, uniqueOffset? content snippet = some offset ↔
      OccursAt snippet content offset ∧ ∀ k, OccursAt snippet content k →
        offset ≤ k ∧ k < offset + byteLength snippet) ∧
    (∀ content, uniqueOffset? content snippet = none ↔
      (∀ k, ¬ OccursAt snippet content k) ∨
        ∃ j k, OccursAt snippet content j ∧ OccursAt snippet content k ∧
          j + byteLength snippet ≤ k) ∧
    ((∀ content offset, uniqueOffset? content snippet = some offset ↔
        ∀ k, OccursAt snippet content k ↔ k = offset) ↔ ¬ OverlapsItself snippet) := by
  have hfound : ∀ content offset, uniqueOffset? content snippet = some offset ↔
      OccursAt snippet content offset ∧ ∀ k, OccursAt snippet content k →
        offset ≤ k ∧ k < offset + byteLength snippet := by
    intro content offset
    rw [uniqueOffset?_eq_some_iff, occurrences_eq_singleton_iff hne]
  refine ⟨hfound, fun content => uniqueOffset?_eq_none_iff hne, ?_⟩
  constructor
  · intro hsingle hoverlap
    obtain ⟨content, k, hhidden, hk, hother⟩ := hoverlap.exists_hidden
    have honly := (hsingle content 0).1 (uniqueOffset?_eq_some_iff.2 hhidden)
    exact hother ((honly k).1 hk)
  · intro hplain content offset
    constructor
    · intro h k
      obtain ⟨hat, hall⟩ := (hfound content offset).1 h
      constructor
      · intro hk
        obtain ⟨hfrom, hto⟩ := hall k hk
        by_contra hother
        exact hplain (overlapsItself_of_occursAt hat hk (by omega) hto)
      · intro hk
        rw [hk]
        exact hat
    · intro honly
      exact uniqueOffset?_eq_some_iff.2 (occurrences_eq_singleton hne honly)

/-- Two lines that say the same. -/
def repeatedLines : List Char := "TODO\nTODO".toList

theorem hint_up_to_overlap_lines : repeatedLines ≠ [] ∧ OverlapsItself repeatedLines ∧
    ¬ ∀ content offset, uniqueOffset? content repeatedLines = some offset ↔
      ∀ k, OccursAt repeatedLines content k ↔ k = offset := by
  have hne : repeatedLines ≠ [] := by decide
  have hoverlap : OverlapsItself repeatedLines :=
    ⟨"TODO\n".toList, "TODO".toList, "\nTODO".toList, by decide, by decide, by decide, by decide⟩
  refine ⟨hne, hoverlap, ?_⟩
  intro hsingle
  exact (hint_up_to_overlap hne).2.2.1 hsingle hoverlap

/-- An edit of the first phase that puts in the two lines, which then stand there twice. -/
def repeatingEdit : Payload :=
  .ofBytes (toUtf8 ("\x7b\"file_path\": \"docs/a.spec.md\", " ++
    "\"content\": \"## Phase 1\\nTODO\\nTODO\\nTODO\\n## Phase 2\\n\", " ++
    "\"new_string\": \"TODO\\nTODO\"\x7d"))

def repeatingContent : List Char := "## Phase 1\nTODO\nTODO\nTODO\n## Phase 2\n".toList

/-- The two lines stand at two offsets and are a hint all the same, so that the edit passes, which
would be refused without the hint. -/
theorem overlapping_snippet_is_hint :
    OccursAt repeatedLines repeatingContent 11 ∧ OccursAt repeatedLines repeatingContent 16 ∧
    ¬ (uniqueOffset? repeatingContent repeatedLines = some 11 ↔
      ∀ k, OccursAt repeatedLines repeatingContent k ↔ k = 11) ∧
    repeatingEdit.target? = some ⟨"docs/a.spec.md", String.ofList repeatingContent⟩ ∧
    repeatingEdit.snippet? = some (String.ofList repeatedLines) ∧
    (judgePhases none ⟨0⟩ builtinSettings repeatingEdit).outcome = .pass ∧
    (Document.ofText repeatingContent).decide none = .deny ⟨2, 1, none⟩ := by
  have hfirst : OccursAt repeatedLines repeatingContent 11 := by
    rw [occursAt_iff_mem]
    decide +kernel
  have hsecond : OccursAt repeatedLines repeatingContent 16 := by
    rw [occursAt_iff_mem]
    decide +kernel
  have hhint : uniqueOffset? repeatingContent repeatedLines = some 11 := by decide +kernel
  refine ⟨hfirst, hsecond, ?_, ?_, ?_, ?_, ?_⟩
  · intro hsingle
    have heq := (hsingle.1 hhint 16).1 hsecond
    omega
  · decide +kernel
  · decide +kernel
  · decide +kernel
  · decide +kernel

end EditGuard.Hook
