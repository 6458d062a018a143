import EditGuard.Text.Position

/-! # The lines of a text

A text is its lines, and every line starts where the line index says. What holds of a last line
and is kept when a line is put in front holds of every text.
-/

namespace EditGuard.Text

theorem line_induction {P : List Char → Prop} (last : ∀ line, '\n' ∉ line → P line)
    (cons : ∀ line rest, '\n' ∉ line → P rest → P (line ++ '\n' :: rest)) (t : List Char) :
    P t := by
  induction hn : t.length using Nat.strongRecOn generalizing t with
  | ind n ih =>
    by_cases hm : '\n' ∈ t
    · obtain ⟨line, rest, rfl, hl⟩ := List.eq_append_cons_of_mem hm
      refine cons line rest hl (ih rest.length ?_ rest rfl)
      rw [← hn, List.length_append, List.length_cons]; omega
    · exact last t hm

theorem ne_newline_of_not_mem {line : List Char} (h : '\n' ∉ line) : ∀ c ∈ line, c ≠ '\n' := by
  rintro c hc rfl
  exact h hc

/-- A beginning without a character ends before any place where that character stands. -/
theorem exists_cut_of_not_mem {c : Char} {s t x y : List Char} (hx : c ∉ x)
    (h : s ++ c :: t = x ++ y) : ∃ d, s = x ++ d ∧ y = d ++ c :: t := by
  rcases List.append_eq_append_iff.1 h with ⟨d, hd, hrest⟩ | hcut
  · cases d with
    | nil => exact ⟨[], by simpa using hd.symm, by simpa using hrest.symm⟩
    | cons e d =>
      obtain ⟨rfl, -⟩ := List.cons.inj hrest
      exact absurd (by rw [hd]; simp) hx
  · exact hcut

theorem firstLine_append {s : List Char} (h : '\n' ∉ s) (t : List Char) :
    firstLine (s ++ t) = s ++ firstLine t := by
  have hall : ∀ c ∈ s, decide (c ≠ '\n') = true := by
    simpa using ne_newline_of_not_mem h
  exact List.takeWhile_append_of_pos hall

theorem firstLine_append_newline {line : List Char} (h : '\n' ∉ line) (rest : List Char) :
    firstLine (line ++ '\n' :: rest) = firstLine line := by
  have hself := firstLine_append h []
  rw [List.append_nil] at hself
  rw [firstLine_append h, hself]
  simp [firstLine]

/-- With or without its newline, a line holds none before its end. -/
theorem newline_not_mem_dropLast {line tail : List Char} (h : '\n' ∉ line)
    (htail : tail = [] ∨ tail = ['\n']) : '\n' ∉ (line ++ tail).dropLast := by
  rcases htail with rfl | rfl
  · rw [List.append_nil]
    exact fun hm => h ((List.dropLast_sublist line).subset hm)
  · rwa [List.dropLast_concat]

/-! ## Line starts -/

theorem startsAfter_line {line : List Char} (h : '\n' ∉ line) (offset : Nat) :
    LineIndex.startsAfter offset line = [] := by
  induction line generalizing offset with
  | nil => rfl
  | cons c line ih =>
    obtain ⟨hc, hl⟩ : '\n' ≠ c ∧ '\n' ∉ line := by simpa using h
    simp [LineIndex.startsAfter, hc.symm, ih hl]

theorem startsAfter_append_newline {line : List Char} (h : '\n' ∉ line) (offset : Nat)
    (rest : List Char) : LineIndex.startsAfter offset (line ++ '\n' :: rest) =
      (offset + byteLength line + 1) ::
        LineIndex.startsAfter (offset + byteLength line + 1) rest := by
  induction line generalizing offset with
  | nil => simp [LineIndex.startsAfter]
  | cons c line ih =>
    obtain ⟨hc, hl⟩ : '\n' ≠ c ∧ '\n' ∉ line := by simpa using h
    simp [LineIndex.startsAfter, hc.symm, ih hl, Nat.add_assoc]

theorem startsAfter_shift (k offset : Nat) (t : List Char) :
    LineIndex.startsAfter (k + offset) t = (LineIndex.startsAfter offset t).map (k + ·) := by
  induction t generalizing offset with
  | nil => rfl
  | cons c t ih =>
    by_cases hc : c = '\n'
    · simp [LineIndex.startsAfter, hc, Nat.add_assoc, ih]
    · simp [LineIndex.startsAfter, hc, Nat.add_assoc, ih]

/-- The lines of a text, each with the offset at which it starts. -/
def offsetLines (t : List Char) : List (Nat × List Char) :=
  (LineIndex.ofText t).starts.zip (t.splitOn '\n')

theorem offsetLines_line {line : List Char} (h : '\n' ∉ line) :
    offsetLines line = [(0, line)] := by
  simp [offsetLines, LineIndex.ofText, startsAfter_line h, List.splitOn_eq_singleton h]

theorem offsetLines_append_newline {line : List Char} (h : '\n' ∉ line) (rest : List Char) :
    offsetLines (line ++ '\n' :: rest) =
      (0, line) :: (offsetLines rest).map fun (offset, l) => (byteLength line + 1 + offset, l) := by
  have hstarts : (byteLength line + 1) :: LineIndex.startsAfter (byteLength line + 1) rest =
      (0 :: LineIndex.startsAfter 0 rest).map (byteLength line + 1 + ·) := by
    rw [List.map_cons, ← startsAfter_shift]
  simp only [offsetLines, LineIndex.ofText, startsAfter_append_newline h,
    List.splitOn_append_cons_self_of_not_mem h, Nat.zero_add, List.zip_cons_cons]
  rw [hstarts, List.zip_map_left]
  rfl

end EditGuard.Text
