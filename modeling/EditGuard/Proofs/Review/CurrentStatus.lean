import EditGuard.Proofs.Review.Composition

/-! # The current status of a number

The table of a document is filled marker by marker, each entered under the phase that owns it. What
it says of a number in the end is found without it: by the last marker from which the way back up
the outline meets a heading of that number first. Sections of one number share what it says, and
the last of them that has a marker decides.
-/

namespace EditGuard.Review

open Text

/-! ## Searches from the end -/

/-- What a search from the end finds: everything behind it fails. -/
theorem findRev?_eq_some_iff {α : Type} {f : α → Bool} {xs : List α} {x : α} :
    xs.findRev? f = some x ↔
      f x = true ∧ ∃ before after, xs = before ++ x :: after ∧ ∀ y ∈ after, f y = false := by
  rw [List.findRev?_eq_find?_reverse, List.find?_eq_some_iff_append]
  refine and_congr_right fun _ => ?_
  constructor
  · rintro ⟨after, before, hsplit, hfails⟩
    refine ⟨before.reverse, after.reverse, ?_, ?_⟩
    · rw [← List.reverse_reverse xs, hsplit]
      simp
    · intro y hy
      have hy' := hfails y (List.mem_reverse.1 hy)
      rwa [Bool.not_eq_true'] at hy'
  · rintro ⟨before, after, rfl, hfails⟩
    refine ⟨after.reverse, before.reverse, by simp, ?_⟩
    intro y hy
    rw [hfails y (List.mem_reverse.1 hy), Bool.not_false]

theorem findRev?_eq_none_iff {α : Type} {f : α → Bool} {xs : List α} :
    xs.findRev? f = none ↔ ∀ x ∈ xs, f x = false := by
  rw [List.findRev?_eq_find?_reverse, List.find?_eq_none]
  simp

namespace Document

/-- The heading met first on the way back from a marker. -/
def headingBack? (t : List Char) (m : Marker) : Option Phase :=
  (ofText t).outline.phases.findRev? (·.location.offset ≤ m.location.offset)

/-- The status of one section: what the last marker between its heading and the next says. -/
def sectionStatus? (t : List Char) (p : Phase) : Option Status :=
  ((Marker.all (LineIndex.ofText t) t).findRev? (headingBack? t · = some p)).map (·.status)

variable {t : List Char} {m : Marker} {p : Phase} {n : Nat}

/-! ## The way back -/

/-- The headings behind the one that a marker leads to stand behind the marker. -/
theorem headingBack?_eq_some_iff : headingBack? t m = some p ↔
    p.location.offset ≤ m.location.offset ∧
      ∃ front behind, (ofText t).outline.phases = front ++ p :: behind ∧
        ∀ q ∈ behind, m.location.offset < q.location.offset := by
  unfold headingBack?
  rw [findRev?_eq_some_iff]
  simp only [decide_eq_true_eq, decide_eq_false_iff_not, Nat.not_le]

/-- The table holds what a scan of the markers from the end finds. -/
theorem statusOf?_eq_findRev? (t : List Char) (n : Nat) : (ofText t).statusOf? n =
    ((Marker.all (LineIndex.ofText t) t).findRev? fun m =>
      (headingBack? t m).map (·.number) = some n).map (·.status) := by
  have howner : ∀ m : Marker, (Outline.ofText (LineIndex.ofText t) t).ownerAt? m.location.offset =
      headingBack? t m := fun m => ownerAt?_eq_findRev? t m.location.offset
  rw [statusOf?, marker?_ofText, getLast?_filter_eq_findRev?]
  simp only [howner]

theorem statusOf?_eq_none_iff : (ofText t).statusOf? n = none ↔
    ∀ m ∈ Marker.all (LineIndex.ofText t) t, ∀ p, headingBack? t m = some p → p.number ≠ n := by
  rw [statusOf?_eq_findRev?, Option.map_eq_none_iff, findRev?_eq_none_iff]
  refine forall₂_congr fun m _ => ?_
  cases headingBack? t m with
  | none => simp
  | some p => simp

/-- A marker behind which no other counts for the number decides on it, whatever stands before. -/
theorem statusOf?_of_split {before after : List Marker}
    (hsplit : Marker.all (LineIndex.ofText t) t = before ++ m :: after)
    (hback : headingBack? t m = some p)
    (hlast : ∀ m' ∈ after, ∀ p', headingBack? t m' = some p' → p'.number ≠ p.number) :
    (ofText t).statusOf? p.number = some m.status := by
  have hfind : (Marker.all (LineIndex.ofText t) t).findRev? (fun m =>
      (headingBack? t m).map (·.number) = some p.number) = some m := by
    rw [findRev?_eq_some_iff]
    refine ⟨by simp [hback], before, after, hsplit, ?_⟩
    intro m' hm'
    rw [decide_eq_false_iff_not, Option.map_eq_some_iff]
    rintro ⟨p', hback', hnumber⟩
    exact hlast m' hm' p' hback' hnumber
  rw [statusOf?_eq_findRev?, hfind]
  rfl

/-! ## Sections of one number -/

theorem marker_mem_after {before after : List Marker} {m' : Marker}
    (hsplit : Marker.all (LineIndex.ofText t) t = before ++ m :: after)
    (hm' : m' ∈ Marker.all (LineIndex.ofText t) t)
    (hlt : m.location.offset < m'.location.offset) : m' ∈ after := by
  have hascending := markers_ascending t
  rw [hsplit, List.pairwise_append] at hascending
  rw [hsplit, List.mem_append, List.mem_cons] at hm'
  rcases hm' with hbefore | rfl | hafter
  · have hgt := hascending.2.2 m' hbefore m List.mem_cons_self
    omega
  · omega
  · exact hafter

theorem mem_of_sectionStatus? (h : sectionStatus? t p ≠ none) :
    ∃ m ∈ Marker.all (LineIndex.ofText t) t, headingBack? t m = some p := by
  by_contra hnone
  apply h
  rw [sectionStatus?, Option.map_eq_none_iff, findRev?_eq_none_iff]
  intro m hm
  rw [decide_eq_false_iff_not]
  intro hback
  exact hnone ⟨m, hm, hback⟩

theorem sectionStatus?_of_split {before after : List Marker}
    (hsplit : Marker.all (LineIndex.ofText t) t = before ++ m :: after)
    (hback : headingBack? t m = some p) (hlast : ∀ m' ∈ after, headingBack? t m' ≠ some p) :
    sectionStatus? t p = some m.status := by
  have hfind : (Marker.all (LineIndex.ofText t) t).findRev? (headingBack? t · = some p) =
      some m := by
    rw [findRev?_eq_some_iff]
    refine ⟨decide_eq_true hback, before, after, hsplit, ?_⟩
    intro m' hm'
    exact decide_eq_false (hlast m' hm')
  rw [sectionStatus?, hfind]
  rfl

/-- Of the sections of a number, the last one that has a marker decides: the markers of a later
section all stand behind the markers of an earlier one. -/
theorem statusOf?_eq_sections (t : List Char) (n : Nat) : (ofText t).statusOf? n =
    (((ofText t).outline.phases.filter (·.number = n)).filterMap (sectionStatus? t)).getLast? := by
  cases hstatus : (ofText t).statusOf? n with
  | none =>
    rw [statusOf?_eq_none_iff] at hstatus
    have hnone : ((ofText t).outline.phases.filter (·.number = n)).filterMap (sectionStatus? t) =
        [] := by
      rw [List.filterMap_eq_nil_iff]
      intro p hp
      by_contra hsome
      obtain ⟨m, hm, hback⟩ := mem_of_sectionStatus? hsome
      obtain ⟨-, hnumber⟩ := List.mem_filter.1 hp
      exact hstatus m hm p hback (of_decide_eq_true hnumber)
    rw [hnone]
    rfl
  | some s =>
    rw [statusOf?_eq_findRev?, Option.map_eq_some_iff] at hstatus
    obtain ⟨m, hfind, rfl⟩ := hstatus
    obtain ⟨hnumber, before, after, hmarkers, hlast⟩ := findRev?_eq_some_iff.1 hfind
    obtain ⟨p, hback, rfl⟩ := Option.map_eq_some_iff.1 (of_decide_eq_true hnumber)
    obtain ⟨-, front, behind, hphases, hbehind⟩ := headingBack?_eq_some_iff.1 hback
    have hafter : ∀ m' ∈ after, ∀ q, headingBack? t m' = some q → q.number ≠ p.number := by
      intro m' hm' q hq hnumber'
      have hfails := hlast m' hm'
      simp [hq, hnumber'] at hfails
    have hsection : sectionStatus? t p = some m.status :=
      sectionStatus?_of_split hmarkers hback fun m' hm' hback' => hafter m' hm' p hback' rfl
    -- A later section of the number has no marker: one would stand behind `m` and replace it.
    have hempty : (behind.filter (·.number = p.number)).filterMap (sectionStatus? t) = [] := by
      rw [List.filterMap_eq_nil_iff]
      intro q hq
      by_contra hsome
      obtain ⟨m', hm', hback'⟩ := mem_of_sectionStatus? hsome
      obtain ⟨hq_le, -⟩ := headingBack?_eq_some_iff.1 hback'
      obtain ⟨hqbehind, hnumber'⟩ := List.mem_filter.1 hq
      have hlt := Nat.lt_of_lt_of_le (hbehind q hqbehind) hq_le
      have hmem := marker_mem_after hmarkers hm' hlt
      exact hafter m' hmem q hback' (of_decide_eq_true hnumber')
    have hcons : (p :: behind).filter (·.number = p.number) =
        p :: behind.filter (·.number = p.number) := by
      rw [List.filter_cons, if_pos (decide_eq_true rfl)]
    rw [hphases, List.filter_append, hcons, List.filterMap_append,
      List.filterMap_cons_some hsection, hempty, List.getLast?_concat]

/-! ## Text before the first heading -/

theorem statusOf?_eq_none_of_phases (h : (ofText t).outline.phases = []) (n : Nat) :
    (ofText t).statusOf? n = none := by
  rw [statusOf?_eq_none_iff]
  intro m _ p hback
  rw [headingBack?, h] at hback
  cases hback

/-- Lines without a heading in front of a document leave every status as it is. -/
theorem statusOf?_behind {above : List Char} (ha : WholeLines above)
    (h : (ofText above).outline.phases = []) (below : List Char) (n : Nat) :
    (ofText (above ++ below)).statusOf? n = (ofText below).statusOf? n := by
  have hnumber : ∀ m, numberBehind? above below m = (headingBack? below m).map (·.number) := by
    intro m
    rw [numberBehind?, h, ownerAt?_eq_findRev?, List.getLast?_nil, Option.or_none]
    rfl
  rw [statusOf?_append ha, statusOf?_eq_none_of_phases h, Option.or_none, statusOf?_eq_findRev?,
    getLast?_filter_eq_findRev?]
  simp only [hnumber]

/-! ## The current status -/

/-- The status of a number is that of the last marker from which the way back meets a heading of
the number first, and none where there is no such marker. A later marker replaces an earlier one,
also across sections of other numbers, and what stands before the first heading counts for
nothing. -/
theorem status_by_backward_scan (t : List Char) :
    (∀ n, (ofText t).statusOf? n = ((Marker.all (LineIndex.ofText t) t).findRev? fun m =>
      (headingBack? t m).map (·.number) = some n).map (·.status)) ∧
    (∀ n, (ofText t).statusOf? n = none ↔
      ∀ m ∈ Marker.all (LineIndex.ofText t) t, ∀ p, headingBack? t m = some p → p.number ≠ n) ∧
    (∀ n, (ofText t).statusOf? n = (((ofText t).outline.phases.filter
      (·.number = n)).filterMap (sectionStatus? t)).getLast?) ∧
    (∀ before m after p, Marker.all (LineIndex.ofText t) t = before ++ m :: after →
      headingBack? t m = some p →
      (∀ m' ∈ after, ∀ p', headingBack? t m' = some p' → p'.number ≠ p.number) →
      (ofText t).statusOf? p.number = some m.status) ∧
    ∀ above below, t = above ++ below → WholeLines above → (ofText above).outline.phases = [] →
      ∀ n, (ofText t).statusOf? n = (ofText below).statusOf? n := by
  refine ⟨statusOf?_eq_findRev? t, fun n => statusOf?_eq_none_iff, statusOf?_eq_sections t, ?_, ?_⟩
  · intro before m after p hsplit hback hlast
    exact statusOf?_of_split hsplit hback hlast
  · rintro above below rfl ha h n
    exact statusOf?_behind ha h below n

-- The later section of phase 1 replaces what the first one says, across phase 2.
example : (ofText ("# Phase 1\n<!-- REVIEW STATUS: APPROVED -->\n# Phase 2\n".toList ++
    "# Phase 1\n<!-- REVIEW STATUS: Rejected -->\n".toList)).statusOf? 1 = some .rejected := by
  decide +kernel

end Document

end EditGuard.Review
