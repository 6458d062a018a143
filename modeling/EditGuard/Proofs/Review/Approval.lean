import EditGuard.Proofs.Review.Composition
import EditGuard.Proofs.Review.Gate
import EditGuard.Proofs.Review.Template

/-! # An approval makes progress

Filling in the template of a denial under the blocking phase approves that phase and changes
nothing else, so the same edit is blocked by a later phase next, if at all.
-/

namespace EditGuard.Review

open Text Time

/-! ## Markers behind a seam -/

theorem exists_marker_behind {above below : List Char} (ha : WholeLines above) {c : Credit}
    (hc : c ∈ (credits below).map (Credit.under (lastNumber? above))) :
    ∃ m ∈ Marker.all (LineIndex.ofText (above ++ below)) (above ++ below),
      byteLength above ≤ m.location.offset ∧
      ((Document.ofText (above ++ below)).outline.ownerAt? m.location.offset).map (·.number) =
        c.number := by
  obtain ⟨c₀, hc₀, rfl⟩ := List.mem_map.1 hc
  obtain ⟨hit, hm, heq⟩ := List.mem_filterMap.1 hc₀
  obtain ⟨status, hstatus, rfl⟩ := Option.map_eq_some_iff.1 heq
  have hmem : hit.shift (byteLength above) ∈ MarkerText.recogniser.scan (above ++ below) := by
    rw [MarkerText.recogniser_lineBound.scan_append ha]
    exact List.mem_append_right _ (List.mem_map_of_mem hm)
  cases hmarker : Marker.ofHit? (LineIndex.ofText (above ++ below))
      (hit.shift (byteLength above)) with
  | none =>
    rw [Marker.ofHit?, Option.map_eq_none_iff, Hit.shift_value, hstatus] at hmarker
    cases hmarker
  | some m =>
    have hoffset := (marker_of_ofHit? hmem hmarker).1
    rw [Hit.shift_offset] at hoffset
    refine ⟨m, List.mem_filterMap.2 ⟨_, hmem, hmarker⟩, by omega, ?_⟩
    rw [hoffset]
    exact (map_ownerAt? _ _).trans (numberAt?_append_right ha below hit.offset)

namespace Document

/-! ## The next decision -/

/-- When the blocking phase is approved and all else stays, the same edit is allowed or blocked by
a later phase. -/
theorem decide_of_approved {c c' : List Char} {b : Blocked}
    (hdeny : (ofText c).decide none = .deny b)
    (hnumbers : (ofText c').outline.phases.map (·.number) =
      (ofText c).outline.phases.map (·.number))
    (happroved : (ofText c').statusOf? b.blocking = some requiredStatus)
    (hothers : ∀ n, n ≠ b.blocking → (ofText c').statusOf? n = (ofText c).statusOf? n) :
    ((ofText c').decide none).isAllowed = true ∨
      ∃ b', (ofText c').decide none = .deny b' ∧ b'.editing = b.editing ∧
        b.blocking < b'.blocking := by
  obtain ⟨t, -, ht, hnot, hbefore⟩ := (ofText c).exists_threshold
  obtain ⟨t', -, ht', hnot', hbefore'⟩ := (ofText c').exists_threshold
  rw [decide_eq_decisionAt c ht hnot hbefore] at hdeny
  obtain ⟨hedited, hblocking, -⟩ := blocked_of_decisionAt hdeny
  have hlt : t < t' := by
    by_contra hle
    have happroved' : (ofText c').isApproved t' = true := by
      rw [isApproved_iff]
      by_cases heq : t' = b.blocking
      · rw [heq, happroved]
      · have hbelow := hbefore t' ht' (by omega)
        rw [hothers t' heq, (isApproved_iff _ _).1 hbelow]
    rw [happroved'] at hnot'
    exact absurd hnot' (by simp)
  have hedited' : (ofText c').editedNumber? none = some b.editing := by
    rw [← hedited]
    exact congrArg List.max? hnumbers
  rw [decide_eq_decisionAt c' ht' hnot' hbefore']
  cases hdecision : (ofText c').decisionAt t' none with
  | allow reason => exact Or.inl rfl
  | deny b' =>
    obtain ⟨hediting, hblocking', -⟩ := blocked_of_decisionAt hdecision
    rw [hedited'] at hediting
    exact Or.inr ⟨b', rfl, (Option.some.inj hediting).symm, by omega⟩

/-! ## Following the advice -/

/-- A text with the template of a denial, filled in, as a line between its two parts. -/
def withApproval (above below : List Char) (b : Blocked) (now : Instant) (reviewer : List Char) :
    List Char :=
  above ++ replaceAll reviewerBlank reviewer (templateLine b now) ++ ['\n'] ++ below

section Inserted

variable {above reviewer : List Char} (below : List Char) (b : Blocked)

theorem withApproval_eq (now : Instant) : withApproval above below b now reviewer =
    above ++ ((approvalLine now reviewer ++ ['\n']) ++ below) := by
  unfold withApproval
  rw [replaceAll_templateLine]
  simp only [List.append_assoc]

theorem numbers_withApproval (ha : WholeLines above) (hline : '\n' ∉ reviewer)
    (hopen : ¬ MarkerText.closing <:+: reviewer) (now : Instant) :
    (ofText (withApproval above below b now reviewer)).outline.phases.map (·.number) =
      (ofText (above ++ below)).outline.phases.map (·.number) := by
  have hh := (credits_approvalLine hline hopen now).1
  rw [map_phases_number, map_phases_number, withApproval_eq]
  exact numbers_between ha (.newline _) hh below

theorem credits_withApproval (ha : WholeLines above) (hnumber : lastNumber? above = some b.blocking)
    (hline : '\n' ∉ reviewer) (hopen : ¬ MarkerText.closing <:+: reviewer) (now : Instant) :
    credits (withApproval above below b now reviewer) =
      credits above ++ (⟨some b.blocking, .approved, some (trim (attestation now reviewer))⟩ ::
        (credits below).map (Credit.under (lastNumber? above))) := by
  obtain ⟨hh, hcredit⟩ := credits_approvalLine hline hopen now
  rw [withApproval_eq, credits_between ha (.newline _) hh, hcredit, hnumber]
  rfl

end Inserted

/-- Whoever fills in the template of a denial and puts it under the heading of the blocking phase,
behind the markers of that phase, approves it and changes no other phase. The edit is then allowed
or blocked by a later phase. -/
theorem approval_advances (above below reviewer : List Char) (b : Blocked) (now : Instant)
    (hdeny : (ofText (above ++ below)).decide none = .deny b)
    (hend : above.getLast? = some '\n')
    (hlast : (ofText above).outline.phases.getLast?.map (·.number) = some b.blocking)
    (hbelow : ∀ m ∈ Marker.all (LineIndex.ofText (above ++ below)) (above ++ below),
      byteLength above ≤ m.location.offset →
      ((ofText (above ++ below)).outline.ownerAt? m.location.offset).map (·.number) ≠
        some b.blocking)
    (hline : '\n' ∉ reviewer) (hopen : ¬ MarkerText.closing <:+: reviewer) :
    (ofText (withApproval above below b now reviewer)).outline.phases.map (·.number) =
      (ofText (above ++ below)).outline.phases.map (·.number) ∧
    (∃ m, (ofText (withApproval above below b now reviewer)).table.marker? b.blocking = some m ∧
      m.status = .approved ∧ m.context = some (trim (attestation now reviewer))) ∧
    (∀ n, n ≠ b.blocking → (ofText (withApproval above below b now reviewer)).statusOf? n =
      (ofText (above ++ below)).statusOf? n) ∧
    (((ofText (withApproval above below b now reviewer)).decide none).isAllowed = true ∨
      ∃ b', (ofText (withApproval above below b now reviewer)).decide none = .deny b' ∧
        b'.editing = b.editing ∧ b.blocking < b'.blocking) ∧
    (Marker.all (LineIndex.ofText (b.message now).toList) (b.message now).toList).length = 1 := by
  have ha : WholeLines above := Or.inr hend
  have hnumber : lastNumber? above = some b.blocking := by rw [← map_last_phase, hlast]
  have hnumbers := numbers_withApproval below b ha hline hopen now
  have hcredits := credits_withApproval below b ha hnumber hline hopen now
  have hnone : ((credits below).map (Credit.under (lastNumber? above))).filter
      (·.number = some b.blocking) = [] := by
    rw [List.filter_eq_nil_iff]
    intro c hc
    obtain ⟨m, hm, hoffset, howner⟩ := exists_marker_behind ha hc
    have hne := hbelow m hm hoffset
    rw [howner] at hne
    simpa using hne
  have hmarker : ((ofText (withApproval above below b now reviewer)).table.marker? b.blocking).map
      (fun m => (m.status, m.context)) =
      some (.approved, some (trim (attestation now reviewer))) := by
    rw [map_marker?_ofText, hcredits, List.filter_append, List.filter_cons_of_pos (by simp), hnone,
      List.getLast?_append]
    rfl
  obtain ⟨m, hm, heq⟩ := Option.map_eq_some_iff.1 hmarker
  obtain ⟨hstatus, hcontext⟩ := Prod.mk.inj heq
  have happroved : (ofText (withApproval above below b now reviewer)).statusOf? b.blocking =
      some requiredStatus := by
    rw [statusOf?, hm, Option.map_some, hstatus]
    rfl
  have hothers : ∀ n, n ≠ b.blocking →
      (ofText (withApproval above below b now reviewer)).statusOf? n =
        (ofText (above ++ below)).statusOf? n := by
    intro n hn
    rw [statusOf?_ofText, statusOf?_ofText, hcredits, credits_append ha, List.filter_append,
      List.filter_append, List.filter_cons_of_neg (by simpa using Ne.symm hn)]
  exact ⟨hnumbers, ⟨m, hm, hstatus, hcontext⟩, hothers,
    decide_of_approved hdeny hnumbers happroved hothers, length_markers_message b now⟩

/-- An approval in a year before the first, by a reviewer with dashes in the name. -/
theorem approval_advances_from_draft :
    ∃ m, (ofText (withApproval "## Phase 1\n<!-- REVIEW STATUS: DRAFT -->\n".toList
        "## Phase 3\n<!-- REVIEW STATUS: REVIEWING -->\n## Phase 2\n".toList
        ⟨3, 1, some .draft⟩ ⟨-62198755200000⟩ "a -- b->c ".toList)).table.marker? 1 = some m ∧
      m.status = .approved ∧
      m.context = some (trim (attestation ⟨-62198755200000⟩ "a -- b->c ".toList)) :=
  (approval_advances "## Phase 1\n<!-- REVIEW STATUS: DRAFT -->\n".toList
    "## Phase 3\n<!-- REVIEW STATUS: REVIEWING -->\n## Phase 2\n".toList "a -- b->c ".toList
    ⟨3, 1, some .draft⟩ ⟨-62198755200000⟩ (by decide +kernel) (by decide +kernel)
    (by decide +kernel) (by decide +kernel) (by decide +kernel) (by decide +kernel)).2.1

end Document

end EditGuard.Review
