import EditGuard.Proofs.Review.Ownership
import Mathlib.Data.List.Induction

/-! # Markers below headings that cannot be read

A line of the shape of a heading whose number is too great, or is written in the digits of another
script, opens no phase. The markers below it do not drop out: they fall to the nearest heading
above that can be read, and there they count until a marker of its own phase follows.
-/

namespace EditGuard.Review

open Text

/-- The heading-shaped lines of a text, each as its offset and its digits. -/
def shapedLines (t : List Char) : List (Nat × List Char) :=
  (offsetLines t).filterMap fun (offset, line) =>
    (HeadingText.digitsOfLine? line).map (offset, ·)

def numberOf? (digits : List Char) : Option Nat := HeadingText.number? ⟨digits, []⟩

/-- The heading-shaped lines at or before an offset. -/
def shapedUpTo (t : List Char) (offset : Nat) : List (Nat × List Char) :=
  (shapedLines t).filter (·.1 ≤ offset)

/-- The number of the nearest heading-shaped line; none if that line cannot be read. -/
def nearestNumber? (t : List Char) (offset : Nat) : Option Nat :=
  (shapedUpTo t offset).getLast?.bind fun l => numberOf? l.2

def readableNumber? (t : List Char) (offset : Nat) : Option Nat :=
  ((shapedUpTo t offset).filterMap fun l => numberOf? l.2).getLast?

/-! ## Owners -/

theorem headings_eq (t : List Char) :
    headings t = (shapedLines t).filterMap fun (offset, digits) =>
      (numberOf? digits).map (offset, ·) := by
  rw [shapedLines, ← HeadingText.scan_lines]
  exact headings_eq_map_digits t

theorem numberAt?_eq (t : List Char) (offset : Nat) :
    numberAt? t offset = readableNumber? t offset := by
  rw [numberAt?, readableNumber?, shapedUpTo, headings_eq, List.filter_filterMap,
    List.filterMap_filter, ← List.getLast?_map, List.map_filterMap]
  congr 1
  refine List.filterMap_congr ?_
  rintro ⟨start, digits⟩ -
  by_cases h : start ≤ offset
  · cases hn : numberOf? digits with
    | none => simp [h, hn]
    | some n => simp [h, hn]
  · cases hn : numberOf? digits with
    | none => simp [h, hn]
    | some n => simp [h, hn]; omega

theorem readableNumber?_of_nearest {t : List Char} {offset n : Nat}
    (h : nearestNumber? t offset = some n) : readableNumber? t offset = some n := by
  obtain ⟨l, hl, hn⟩ := Option.bind_eq_some_iff.1 h
  obtain ⟨ls, hls⟩ := List.getLast?_eq_some_iff.1 hl
  rw [readableNumber?, hls, List.filterMap_append]
  simp [hn]

/-- The two differ where the nearest heading-shaped line cannot be read and one above it can. -/
theorem readableNumber?_ne_nearest_iff (t : List Char) (offset : Nat) :
    readableNumber? t offset ≠ nearestNumber? t offset ↔
      (∃ l, (shapedUpTo t offset).getLast? = some l ∧ numberOf? l.2 = none) ∧
        ∃ l ∈ shapedUpTo t offset, (numberOf? l.2).isSome = true := by
  constructor
  · intro hne
    cases hread : readableNumber? t offset with
    | none =>
      exfalso
      cases hnear : nearestNumber? t offset with
      | none => exact hne (hread.trans hnear.symm)
      | some n => rw [readableNumber?_of_nearest hnear] at hread; cases hread
    | some n =>
      obtain ⟨l, hl, hn⟩ := List.mem_filterMap.1 (List.mem_of_getLast? hread)
      refine ⟨?_, l, hl, by simp [hn]⟩
      cases hlast : (shapedUpTo t offset).getLast? with
      | none =>
        rw [List.getLast?_eq_none_iff.1 hlast] at hl
        exact absurd hl (by simp)
      | some l' =>
        refine ⟨l', rfl, ?_⟩
        cases hn' : numberOf? l'.2 with
        | none => rfl
        | some n' =>
          have hnear : nearestNumber? t offset = some n' := by simp [nearestNumber?, hlast, hn']
          exact absurd ((readableNumber?_of_nearest hnear).trans hnear.symm) hne
  · rintro ⟨⟨l, hl, hnone⟩, l', hl', hsome⟩ heq
    have hnear : nearestNumber? t offset = none := by simp [nearestNumber?, hl, hnone]
    rw [hnear, readableNumber?, List.getLast?_eq_none_iff, List.filterMap_eq_nil_iff] at heq
    rw [heq l' hl'] at hsome
    exact absurd hsome (by simp)

/-! ## The marker that decides -/

/-- In an ascending list the last element with the weaker property has the stronger one as well
unless one without it comes after all those with it. -/
theorem getLast?_filter_eq_iff {α : Type} (f : α → Nat) {xs : List α}
    (h : xs.Pairwise fun x y => f x < f y) {p q : α → Bool} (hqp : ∀ x, q x = true → p x = true) :
    (xs.filter p).getLast? = (xs.filter q).getLast? ↔
      ∀ x ∈ xs, p x = true → q x = false → ∃ y ∈ xs, f x < f y ∧ q y = true := by
  induction xs using List.reverseRecOn with
  | nil => simp
  | append_singleton xs x ih =>
    rw [List.pairwise_append] at h
    obtain ⟨hxs, -, hlast⟩ := h
    have hlt : ∀ y ∈ xs, f y < f x := fun y hy => hlast y hy x (by simp)
    rw [List.filter_append, List.filter_append]
    by_cases hq : q x = true
    · have hp := hqp x hq
      simp only [List.filter_cons, List.filter_nil, hp, hq, if_true, List.getLast?_concat, true_iff]
      intro y hy _ hny
      rcases List.mem_append.1 hy with hy | hy
      · exact ⟨x, by simp, hlt y hy, hq⟩
      · obtain rfl : y = x := by simpa using hy
        exact absurd hq (by simp [hny])
    · have hq' : q x = false := by simpa using hq
      by_cases hp : p x = true
      · have hne : (xs.filter q).getLast? ≠ some x := by
          intro hl
          exact hq (List.mem_filter.1 (List.mem_of_getLast? hl)).2
        simp only [List.filter_cons, List.filter_nil, hp, hq', if_true, List.getLast?_concat,
          Bool.false_eq_true, if_false, List.append_nil]
        refine iff_of_false (fun heq => hne heq.symm) ?_
        intro hall
        obtain ⟨y, hy, hxy, hqy⟩ := hall x (by simp) hp hq'
        rcases List.mem_append.1 hy with hy | hy
        · have := hlt y hy
          omega
        · obtain rfl : y = x := by simpa using hy
          omega
      · simp only [List.filter_cons, List.filter_nil, hp, hq', Bool.false_eq_true, if_false,
          List.append_nil, ih hxs]
        constructor
        · intro hall y hy hpy hqy
          rcases List.mem_append.1 hy with hy | hy
          · obtain ⟨z, hz, hyz, hqz⟩ := hall y hy hpy hqy
            exact ⟨z, List.mem_append_left _ hz, hyz, hqz⟩
          · obtain rfl : y = x := by simpa using hy
            exact absurd hpy hp
        · intro hall y hy hpy hqy
          obtain ⟨z, hz, hyz, hqz⟩ := hall y (List.mem_append_left _ hy) hpy hqy
          rcases List.mem_append.1 hz with hz | hz
          · exact ⟨z, hz, hyz, hqz⟩
          · obtain rfl : z = x := by simpa using hz
            exact absurd hqz hq

namespace Document

/-- The deciding marker of a number is the last one below a heading of that number that can be
read, whatever heading-shaped lines stand between. So it is the last one whose own heading has the
number exactly when every marker that falls to it from a line that cannot be read is followed by
one of its own; a marker falls so from every such line with a readable one above. -/
theorem deciding_marker_of_readable_headings (t : List Char) (n : Nat) :
    (ofText t).table.marker? n = ((Marker.all (LineIndex.ofText t) t).filter fun m =>
      readableNumber? t m.location.offset = some n).getLast? ∧
    (∀ offset, readableNumber? t offset ≠ nearestNumber? t offset ↔
      (∃ l, (shapedUpTo t offset).getLast? = some l ∧ numberOf? l.2 = none) ∧
        ∃ l ∈ shapedUpTo t offset, (numberOf? l.2).isSome = true) ∧
    ((ofText t).table.marker? n = ((Marker.all (LineIndex.ofText t) t).filter fun m =>
        nearestNumber? t m.location.offset = some n).getLast? ↔
      ∀ m ∈ Marker.all (LineIndex.ofText t) t, readableNumber? t m.location.offset = some n →
        nearestNumber? t m.location.offset = none →
        ∃ m' ∈ Marker.all (LineIndex.ofText t) t, m.location.offset < m'.location.offset ∧
          nearestNumber? t m'.location.offset = some n) := by
  have hdecides : (ofText t).table.marker? n = ((Marker.all (LineIndex.ofText t) t).filter fun m =>
      readableNumber? t m.location.offset = some n).getLast? := by
    simp only [marker?_ofText, map_ownerAt?, numberAt?_eq]
  refine ⟨hdecides, readableNumber?_ne_nearest_iff t, ?_⟩
  rw [hdecides, getLast?_filter_eq_iff (·.location.offset) (markers_ascending t)
    (fun m h => by simpa using readableNumber?_of_nearest (by simpa using h))]
  simp only [decide_eq_true_eq, decide_eq_false_iff_not]
  refine forall₃_congr ?_
  intro m _ hread
  constructor
  · intro h hnone
    exact h (by simp [hnone])
  · intro h hne
    refine h ?_
    cases hnear : nearestNumber? t m.location.offset with
    | none => rfl
    | some k =>
      have hk := readableNumber?_of_nearest hnear
      rw [hread] at hk
      exact absurd (hnear.trans hk.symm) hne

def greatNumber : List Char :=
  "## Phase 1\n## Phase 99999999999\n<!-- REVIEW STATUS: APPROVED -->\n".toList

def foreignNumber : List Char :=
  "## Phase 1\n## Phase ２\n<!-- REVIEW STATUS: APPROVED -->\n".toList

/-- Both approvals count for the phase above, though another heading-shaped line is nearer. -/
theorem approval_under_unreadable_heading :
    (ofText greatNumber).statusOf? 1 = some .approved ∧
      (Marker.all (LineIndex.ofText greatNumber) greatNumber).map
        (nearestNumber? greatNumber ·.location.offset) = [none] ∧
      (ofText foreignNumber).statusOf? 1 = some .approved ∧
      (Marker.all (LineIndex.ofText foreignNumber) foreignNumber).map
        (nearestNumber? foreignNumber ·.location.offset) = [none] := by
  decide +kernel

end Document

end EditGuard.Review
