import EditGuard.Proofs.Review.Composition
import EditGuard.Proofs.Text.Locations
import Mathlib.Algebra.Group.Nat.Defs

/-! # Phases and the lines that open them

Which lines open a phase is said of each line alone: hashes, the word, a whole run of ASCII digits
for a number of 32 bits, and an end. The outline of a text holds one phase for each such line, in
the order of the lines, and nothing else, since no match takes in the start of the next line.
-/

namespace EditGuard.Review

open Text

/-- A line that opens the phase of a number. The digits behind the opener are all those that stand
there, of whatever script, and end at the end of the line, at a colon or at white space. -/
inductive HeadingLine (n : Nat) : List Char → Prop
  | intro {opener digits tail : List Char} (hopener : HeadingText.Opener opener)
      (hne : digits ≠ []) (hascii : ∀ c ∈ digits, c.isDigit = true)
      (hwhole : ∀ c ∈ tail.head?, isDecimalDigit c = false)
      (hvalue : Nat.ofDigitChars 10 digits 0 = n) (hbound : n < 2 ^ 32)
      (hended : ∀ c ∈ tail.head?, HeadingText.isTerminator c = true) :
      HeadingLine n (opener ++ digits ++ tail)

namespace HeadingText

theorem number?_eq_some_iff {h : HeadingText} {n : Nat} :
    h.number? = some n ↔ h.digits ≠ [] ∧ (∀ c ∈ h.digits, c.isDigit = true) ∧
      Nat.ofDigitChars 10 h.digits 0 = n ∧ n < 2 ^ 32 := by
  have hbound : n ≤ largestNumber ↔ n < 2 ^ 32 := by
    unfold largestNumber
    omega
  rw [number?, Option.filter_eq_some_iff, decimal?_eq_some_iff, decide_eq_true_eq, hbound]
  simp only [and_assoc]

theorem headingLine_iff {line : List Char} {n : Nat} : HeadingLine n line ↔
    ∃ digits, digitsOfLine? line = some digits ∧ number? ⟨digits, []⟩ = some n := by
  simp only [digitsOfLine?_eq_some_iff, number?_eq_some_iff]
  constructor
  · intro h
    cases h with
    | @intro opener digits tail hopener hne hascii hwhole hvalue hbound hended =>
      have hall : digits.all isDecimalDigit = true := by
        rw [List.all_eq_true]
        intro c hc
        rw [isDecimalDigit, hascii c hc, Bool.true_or]
      exact ⟨digits, ⟨opener, tail, rfl, hopener, hne, hall, hended⟩, hne, hascii, hvalue, hbound⟩
  · rintro ⟨digits, ⟨opener, tail, rfl, hopener, -, -, hended⟩, hne, hascii, hvalue, hbound⟩
    refine .intro hopener hne hascii ?_ hvalue hbound hended
    intro c hc
    exact not_digit_of_isTerminator (hended c hc)

end HeadingText

/-! ## One line -/

section Line

variable {line tail : List Char}

theorem firstLine_line (h : '\n' ∉ line) (htail : tail = [] ∨ tail = ['\n']) :
    firstLine (line ++ tail) = line := by
  rw [firstLine_append h]
  rcases htail with rfl | rfl
  · exact List.append_nil line
  · exact List.append_nil line

theorem HeadingText.digitsOfLine?_line (h : '\n' ∉ line) (htail : tail = [] ∨ tail = ['\n']) :
    digitsOfLine? (line ++ tail) = digitsOfLine? line := by
  rcases htail with rfl | rfl
  · rw [List.append_nil]
  · exact digitsOfLine?_newline h []

theorem HeadingText.scan_of_line (h : '\n' ∉ line) (htail : tail = [] ∨ tail = ['\n']) :
    (recogniser.scan (line ++ tail)).map (fun hit => (hit.offset, hit.value.digits)) =
      ((digitsOfLine? line).map (0, ·)).toList := by
  rw [scan_line (newline_not_mem_dropLast h htail), digitsOfLine?_line h htail]

/-- A match in a line stands at its start and has the whole line for its title. -/
theorem HeadingText.hit_of_line (h : '\n' ∉ line) (htail : tail = [] ∨ tail = ['\n'])
    {hit : Hit HeadingText} (hm : hit ∈ recogniser.scan (line ++ tail)) :
    hit.offset = 0 ∧ hit.value.line = line ∧ digitsOfLine? line = some hit.value.digits := by
  have hpair : (hit.offset, hit.value.digits) ∈ (recogniser.scan (line ++ tail)).map
      fun hit => (hit.offset, hit.value.digits) := List.mem_map_of_mem hm
  rw [scan_of_line h htail, Option.mem_toList, Option.map_eq_some_iff] at hpair
  obtain ⟨digits, hdigits, heq⟩ := hpair
  obtain ⟨hstart, rfl⟩ := Prod.mk.inj heq
  obtain ⟨before, behind, ht, hoffset, -, hread⟩ := Recogniser.mem_scan recogniser_consumes hm
  have hbefore : before = [] :=
    eq_nil_of_byteLength (s := []) (by simpa [← hoffset] using hstart.symm)
  obtain ⟨-, hline, -⟩ := recogniser_eq_some_iff.1 hread
  refine ⟨hstart.symm, ?_, hdigits⟩
  rw [hbefore, List.nil_append] at ht
  rw [hline, ← ht, firstLine_line h htail]

theorem mem_phases_line (h : '\n' ∉ line) (htail : tail = [] ∨ tail = ['\n']) {phase : Phase} :
    phase ∈ (Document.ofText (line ++ tail)).outline.phases ↔
      ∃ n, HeadingLine n line ∧ phase = ⟨n, trim (line.dropWhile (· = '#')), ⟨1, 1, 0⟩⟩ := by
  have hlocation : (LineIndex.ofText (line ++ tail)).location 0 = ⟨1, 1, 0⟩ :=
    location_append [] (line ++ tail)
  show phase ∈ (HeadingText.recogniser.scan (line ++ tail)).filterMap
    (Phase.ofHit? (LineIndex.ofText (line ++ tail))) ↔ _
  rw [List.mem_filterMap]
  constructor
  · rintro ⟨hit, hm, hphase⟩
    obtain ⟨hoffset, hline, hdigits⟩ := HeadingText.hit_of_line h htail hm
    obtain ⟨n, hnumber, rfl⟩ := Option.map_eq_some_iff.1 hphase
    refine ⟨n, HeadingText.headingLine_iff.2 ⟨_, hdigits, hnumber⟩, ?_⟩
    rw [hoffset, hlocation, HeadingText.title, hline]
  · rintro ⟨n, hheading, rfl⟩
    obtain ⟨digits, hdigits, hnumber⟩ := HeadingText.headingLine_iff.1 hheading
    have hpair : (0, digits) ∈ (HeadingText.recogniser.scan (line ++ tail)).map
        fun hit => (hit.offset, hit.value.digits) := by
      rw [HeadingText.scan_of_line h htail, hdigits]
      exact List.mem_singleton_self _
    obtain ⟨hit, hm, heq⟩ := List.mem_map.1 hpair
    obtain ⟨hoffset, hline, -⟩ := HeadingText.hit_of_line h htail hm
    obtain ⟨-, rfl⟩ := Prod.mk.inj heq
    refine ⟨hit, hm, Option.map_eq_some_iff.2 ⟨n, hnumber, ?_⟩⟩
    rw [hoffset, hlocation, HeadingText.title, hline]

end Line

/-! ## All lines -/

/-- The phases of a text are those of its heading lines. -/
theorem mem_phases_iff {t : List Char} {phase : Phase} :
    phase ∈ (Document.ofText t).outline.phases ↔
      ∃ i line n, (t.splitOn '\n')[i]? = some line ∧ HeadingLine n line ∧
        phase = ⟨n, trim (line.dropWhile (· = '#')), ⟨i + 1, 1, bytesOfLines i t⟩⟩ := by
  induction t using line_induction generalizing phase with
  | last line h =>
    rw [← List.append_nil line, mem_phases_line h (Or.inl rfl), List.append_nil,
      List.splitOn_eq_singleton h]
    constructor
    · rintro ⟨n, hheading, rfl⟩
      exact ⟨0, line, n, rfl, hheading, rfl⟩
    · rintro ⟨i, line', n, hpiece, hheading, rfl⟩
      obtain ⟨rfl, rfl⟩ : i = 0 ∧ line = line' := by
        cases i with
        | zero => exact ⟨rfl, Option.some.inj hpiece⟩
        | succ i => cases hpiece
      exact ⟨n, hheading, rfl⟩
  | cons line rest h ih =>
    have hsplit : line ++ '\n' :: rest = line ++ ['\n'] ++ rest := by simp
    have hcount : (line ++ ['\n']).count '\n' = 1 := by
      rw [List.count_append, List.count_eq_zero_of_not_mem h]
      rfl
    rw [hsplit, phases_append (.newline line), List.mem_append, mem_phases_line h (Or.inr rfl),
      List.mem_map, ← hsplit, List.splitOn_append_cons_self_of_not_mem h]
    constructor
    · rintro (⟨n, hheading, rfl⟩ | ⟨phase, hphase, rfl⟩)
      · exact ⟨0, line, n, rfl, hheading, rfl⟩
      · obtain ⟨i, line', n, hpiece, hheading, rfl⟩ := ih.1 hphase
        refine ⟨i + 1, line', n, hpiece, hheading, ?_⟩
        rw [Phase.below, Location.below, hcount, bytesOfLines_succ h, Nat.add_comm 1]
    · rintro ⟨i, line', n, hpiece, hheading, rfl⟩
      cases i with
      | zero =>
        obtain rfl := Option.some.inj hpiece
        exact Or.inl ⟨n, hheading, rfl⟩
      | succ i =>
        refine Or.inr ⟨_, ih.2 ⟨i, line', n, hpiece, hheading, rfl⟩, ?_⟩
        rw [Phase.below, Location.below, hcount, bytesOfLines_succ h, Nat.add_comm 1]

theorem lines_ascending (t : List Char) :
    (Document.ofText t).outline.phases.Pairwise fun p q => p.location.line < q.location.line := by
  have hoffsets := phases_ascending t
  refine hoffsets.imp_of_mem ?_
  intro p q hp hq hlt
  obtain ⟨i, _, _, -, -, rfl⟩ := mem_phases_iff.1 hp
  obtain ⟨j, _, _, -, -, rfl⟩ := mem_phases_iff.1 hq
  dsimp only at hlt ⊢
  by_contra hle
  have hmono : bytesOfLines j t ≤ bytesOfLines i t := bytesOfLines_mono t (by omega)
  omega

/-- The outline of a text has one phase for each heading line, in the order of the lines, and no
other one: the number is that of the line, the title its text without the hashes, and the location
the start of the line. -/
theorem Document.phases_by_line (t : List Char) :
    ((ofText t).outline.phases.Pairwise fun p q => p.location.line < q.location.line) ∧
    ∀ phase, phase ∈ (ofText t).outline.phases ↔
      ∃ i line n, (t.splitOn '\n')[i]? = some line ∧ HeadingLine n line ∧
        phase = ⟨n, trim (line.dropWhile (· = '#')), ⟨i + 1, 1,
          byteLength (unlines ((t.splitOn '\n').take i))⟩⟩ :=
  ⟨lines_ascending t, fun _ => mem_phases_iff⟩

end EditGuard.Review
