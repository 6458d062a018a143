import EditGuard.Proofs.Text.Lines
import EditGuard.Proofs.Text.Scan

/-! # Texts of whole lines

Lines written one after another, each ended by a newline, are whole lines, and every text is the
lines between its newlines. Whole lines in front of a text move each location in it down by their
newlines and on by their bytes and leave its column; what follows a text moves no location in it.
-/

namespace EditGuard.Text

/-! ## Lines one after another -/

def unlines (lines : List (List Char)) : List Char := lines.flatMap (· ++ ['\n'])

@[simp] theorem unlines_nil : unlines [] = [] := rfl

@[simp] theorem unlines_cons (line : List Char) (lines : List (List Char)) :
    unlines (line :: lines) = line ++ ['\n'] ++ unlines lines := rfl

theorem unlines_append (lines more : List (List Char)) :
    unlines (lines ++ more) = unlines lines ++ unlines more := by
  simp [unlines]

theorem WholeLines.append {s t : List Char} (hs : WholeLines s) (ht : WholeLines t) :
    WholeLines (s ++ t) := by
  rcases ht with rfl | ht
  · rwa [List.append_nil]
  · refine Or.inr ?_
    rw [List.getLast?_append, ht, Option.some_or]

theorem wholeLines_unlines (lines : List (List Char)) : WholeLines (unlines lines) := by
  induction lines with
  | nil => exact Or.inl rfl
  | cons line lines ih => exact (WholeLines.newline line).append ih

/-- A text is the lines between its newlines, but for the newline behind the last one. -/
theorem unlines_splitOn (t : List Char) : unlines (t.splitOn '\n') = t ++ ['\n'] := by
  induction t using line_induction with
  | last line h => simp [List.splitOn_eq_singleton h]
  | cons line rest h ih => simp [List.splitOn_append_cons_self_of_not_mem h, ih]

theorem newline_not_mem_splitOn {t piece : List Char} (h : piece ∈ t.splitOn '\n') :
    '\n' ∉ piece := by
  induction t using line_induction with
  | last line hline =>
    obtain rfl : piece = line := by simpa [List.splitOn_eq_singleton hline] using h
    exact hline
  | cons line rest hline ih =>
    rw [List.splitOn_append_cons_self_of_not_mem hline] at h
    rcases List.mem_cons.1 h with rfl | h
    · exact hline
    · exact ih h

/-! ## Line starts -/

theorem startsAfter_append (offset : Nat) (s t : List Char) :
    LineIndex.startsAfter offset (s ++ t) =
      LineIndex.startsAfter offset s ++ LineIndex.startsAfter (offset + byteLength s) t := by
  induction s generalizing offset with
  | nil => rfl
  | cons c s ih =>
    by_cases hc : c = '\n'
    · have hsize : '\n'.utf8Size = 1 := rfl
      simp [LineIndex.startsAfter, hc, ih, hsize, Nat.add_assoc]
    · simp [LineIndex.startsAfter, hc, ih, Nat.add_assoc]

theorem length_startsAfter (offset : Nat) (t : List Char) :
    (LineIndex.startsAfter offset t).length = t.count '\n' := by
  induction t generalizing offset with
  | nil => rfl
  | cons c t ih =>
    by_cases hc : c = '\n'
    · simp [LineIndex.startsAfter, hc, ih]
    · simp [LineIndex.startsAfter, hc, ih]

theorem mem_startsAfter {offset start : Nat} {t : List Char}
    (h : start ∈ LineIndex.startsAfter offset t) :
    offset < start ∧ start ≤ offset + byteLength t := by
  induction t generalizing offset with
  | nil => simp [LineIndex.startsAfter] at h
  | cons c t ih =>
    have hpos := c.utf8Size_pos
    by_cases hc : c = '\n'
    · have hsize : c.utf8Size = 1 := by rw [hc]; rfl
      simp only [LineIndex.startsAfter, hc, if_true, List.mem_cons] at h
      rw [byteLength_cons]
      rcases h with rfl | h
      · omega
      · have := ih h
        omega
    · rw [LineIndex.startsAfter, if_neg hc] at h
      have := ih h
      rw [byteLength_cons]
      omega

theorem filter_startsAfter_eq_nil {offset bound : Nat} (h : bound ≤ offset) (t : List Char) :
    (LineIndex.startsAfter offset t).filter (· ≤ bound) = [] := by
  rw [List.filter_eq_nil_iff]
  intro start hm
  have := (mem_startsAfter hm).1
  simp only [decide_eq_true_eq]
  omega

/-- Behind its last newline a line starts at the end of the text. -/
theorem getLast?_startsAfter {t : List Char} (h : t.getLast? = some '\n') (offset : Nat) :
    (LineIndex.startsAfter offset t).getLast? = some (offset + byteLength t) := by
  obtain ⟨front, rfl⟩ := List.getLast?_eq_some_iff.1 h
  have hsize : '\n'.utf8Size = 1 := rfl
  rw [startsAfter_append, byteLength_append, byteLength_cons, byteLength_nil, hsize]
  simp [LineIndex.startsAfter, Nat.add_assoc]

theorem startsAfter_ascending (offset : Nat) (t : List Char) :
    (LineIndex.startsAfter offset t).Pairwise (· < ·) := by
  induction t generalizing offset with
  | nil => exact List.Pairwise.nil
  | cons c t ih =>
    by_cases hc : c = '\n'
    · rw [LineIndex.startsAfter, if_pos hc, List.pairwise_cons]
      exact ⟨fun start hm => (mem_startsAfter hm).1, ih (offset + 1)⟩
    · rw [LineIndex.startsAfter, if_neg hc]
      exact ih _

theorem starts_ascending (t : List Char) : (LineIndex.ofText t).starts.Pairwise (· < ·) :=
  List.pairwise_cons.2 ⟨fun _ hm => (mem_startsAfter hm).1, startsAfter_ascending 0 t⟩

theorem starts_append (above below : List Char) :
    (LineIndex.ofText (above ++ below)).starts =
      (LineIndex.ofText above).starts ++ LineIndex.startsAfter (byteLength above) below := by
  show 0 :: LineIndex.startsAfter 0 (above ++ below) = _
  rw [startsAfter_append, Nat.zero_add]
  rfl

theorem le_of_mem_starts {t : List Char} {start : Nat} (h : start ∈ (LineIndex.ofText t).starts) :
    start ≤ byteLength t := by
  rcases List.mem_cons.1 h with rfl | h
  · exact Nat.zero_le _
  · have := (mem_startsAfter h).2
    omega

theorem getLast?_starts {above : List Char} (h : WholeLines above) :
    (LineIndex.ofText above).starts.getLast? = some (byteLength above) := by
  rcases h with rfl | h
  · rfl
  · show (0 :: LineIndex.startsAfter 0 above).getLast? = _
    rw [List.getLast?_cons, getLast?_startsAfter h 0, Nat.zero_add, Option.getD_some]

/-! ## Locations -/

/-- In an ascending list the elements up to a bound are those before the first one over it. -/
theorem takeWhile_eq_filter {α : Type} (f : α → Nat) (bound : Nat) {xs : List α}
    (h : xs.Pairwise fun x y => f x < f y) :
    xs.takeWhile (f · ≤ bound) = xs.filter (f · ≤ bound) := by
  induction xs with
  | nil => rfl
  | cons x xs ih =>
    rw [List.pairwise_cons] at h
    by_cases hx : f x ≤ bound
    · simp [hx, ih h.2]
    · have hnone : xs.filter (f · ≤ bound) = [] := by
        rw [List.filter_eq_nil_iff]
        intro y hy
        have := h.1 y hy
        simp only [decide_eq_true_eq]; omega
      simp [hx, hnone]

/-- The line starts at or before an offset. -/
def startsUpTo (t : List Char) (offset : Nat) : List Nat :=
  (LineIndex.ofText t).starts.filter (· ≤ offset)

theorem location_eq {t : List Char} {offset : Nat} (h : offset ≤ byteLength t) :
    (LineIndex.ofText t).location offset =
      ⟨(startsUpTo t offset).length, offset - (startsUpTo t offset).getLast?.getD 0 + 1,
        offset⟩ := by
  have hmin : min offset (LineIndex.ofText t).size = offset := Nat.min_eq_left h
  have hreached := takeWhile_eq_filter (fun start : Nat => start) offset (starts_ascending t)
  simp only [LineIndex.location, hmin, hreached, startsUpTo]

/-- The location of the same character when a text stands in front. -/
def Location.below (above : List Char) (l : Location) : Location :=
  ⟨above.count '\n' + l.line, l.column, byteLength above + l.offset⟩

/-- What follows a text moves no location in it. -/
theorem location_append_left (above below : List Char) {offset : Nat}
    (h : offset < byteLength above) :
    (LineIndex.ofText (above ++ below)).location offset =
      (LineIndex.ofText above).location offset := by
  have hnone : (LineIndex.startsAfter (byteLength above) below).filter (· ≤ offset) = [] :=
    filter_startsAfter_eq_nil (Nat.le_of_lt h) below
  have hstarts : startsUpTo (above ++ below) offset = startsUpTo above offset := by
    unfold startsUpTo
    rw [starts_append, List.filter_append, hnone, List.append_nil]
  have hle : offset ≤ byteLength (above ++ below) := by
    rw [byteLength_append]
    omega
  rw [location_eq hle, location_eq (Nat.le_of_lt h), hstarts]

/-- The starts up to an offset behind a seam are those before the seam, the last of which is the
first start behind it, and the moved others behind it. -/
theorem startsUpTo_append_right (above below : List Char) (offset : Nat) :
    startsUpTo (above ++ below) (byteLength above + offset) =
      (LineIndex.ofText above).starts ++
        ((LineIndex.startsAfter 0 below).filter (· ≤ offset)).map (byteLength above + ·) := by
  have hall : (LineIndex.ofText above).starts.filter (· ≤ byteLength above + offset) =
      (LineIndex.ofText above).starts := by
    rw [List.filter_eq_self]
    intro start hm
    have := le_of_mem_starts hm
    simp only [decide_eq_true_eq]
    omega
  have hmoved : LineIndex.startsAfter (byteLength above) below =
      (LineIndex.startsAfter 0 below).map (byteLength above + ·) := startsAfter_shift _ 0 below
  unfold startsUpTo
  rw [starts_append, List.filter_append, hall, hmoved, List.filter_map]
  congr 2
  apply List.filter_congr
  intro start _
  simp

/-- Whole lines in front of a text move every location in it. -/
theorem location_append_right {above : List Char} (h : WholeLines above) (below : List Char)
    {offset : Nat} (hle : offset ≤ byteLength below) :
    (LineIndex.ofText (above ++ below)).location (byteLength above + offset) =
      ((LineIndex.ofText below).location offset).below above := by
  have hle' : byteLength above + offset ≤ byteLength (above ++ below) := by
    rw [byteLength_append]
    omega
  have hbelow :
      startsUpTo below offset = 0 :: (LineIndex.startsAfter 0 below).filter (· ≤ offset) :=
    List.filter_cons_of_pos (by simp)
  have hlines : (LineIndex.ofText above).starts.length = above.count '\n' + 1 := by
    show (0 :: LineIndex.startsAfter 0 above).length = _
    rw [List.length_cons, length_startsAfter]
  have hlast := getLast?_starts h
  rw [location_eq hle', location_eq hle, startsUpTo_append_right, hbelow, Location.below]
  congr 1
  · dsimp only
    rw [List.length_append, hlines, List.length_map, List.length_cons]
    omega
  · rw [List.getLast?_append, hlast, List.getLast?_map, List.getLast?_cons]
    cases ((LineIndex.startsAfter 0 below).filter (· ≤ offset)).getLast? with
    | none => simp
    | some start => simp; omega

end EditGuard.Text
