import EditGuard.Proofs.Text.Lines
import EditGuard.Proofs.Text.Scan
import EditGuard.Proofs.Text.Words
import EditGuard.Review.Phase

/-! # The grammar of phase headings

A heading is an opener of hashes, the word and gaps, a run of digits and what ends the number. The
recogniser reads exactly the texts of this grammar at the starts of lines, so a scan finds one
match for each line that has the shape of a heading and no other.
-/

namespace EditGuard.Review.HeadingText

open Text

inductive Opener : List Char → Prop
  | intro {hashes gap₁ word gap₂ : List Char} (hne : hashes ≠ [])
      (hhashes : hashes.all (· = '#') = true) (hgap₁ : gap₁.all isGap = true)
      (hword : spells "phase".toList word = true) (hne₂ : gap₂ ≠ [])
      (hgap₂ : gap₂.all isGap = true) : Opener (hashes ++ gap₁ ++ word ++ gap₂)

def isTerminator (c : Char) : Bool := c = ':' || c = '：' || isBlank c

inductive Terminator : List Char → List Char → Prop
  | finish : Terminator [] []
  | mark {c : Char} {left : List Char} (h : isTerminator c = true) : Terminator [c] left

theorem terminator?_eq_some_iff {t left : List Char} :
    terminator? t = some left ↔ ∃ term, t = term ++ left ∧ Terminator term left := by
  constructor
  · intro h
    cases t with
    | nil =>
      obtain rfl : [] = left := by simpa [terminator?] using h
      exact ⟨[], rfl, .finish⟩
    | cons c t =>
      by_cases hc : isTerminator c = true
      · obtain rfl : t = left := by
          simpa [terminator?, show (c = ':' || c = '：' || isBlank c) = true from hc] using h
        exact ⟨[c], rfl, .mark hc⟩
      · simp [terminator?, show ¬ (c = ':' || c = '：' || isBlank c) = true from hc] at h
  · rintro ⟨term, rfl, hterm⟩
    cases hterm with
    | finish => rfl
    | mark hc => exact if_pos hc

theorem not_digit_of_isTerminator {c : Char} (h : isTerminator c = true) :
    isDecimalDigit c = false := by
  simp only [isTerminator, Bool.or_eq_true, decide_eq_true_eq] at h
  rcases h with (rfl | rfl) | h
  · decide
  · decide
  · exact not_digit_of_isBlank h

theorem Terminator.head {term left : List Char} (h : Terminator term left) :
    ∀ c ∈ (term ++ left).head?, isDecimalDigit c = false := by
  cases h with
  | finish => simp
  | mark hc =>
    intro c hm
    obtain rfl : _ = c := by simpa using hm
    exact not_digit_of_isTerminator hc

theorem digits?_eq_some_iff {t digits left : List Char} :
    digits? t = some (digits, left) ↔ ∃ gap₁ word gap₂ term,
      t = gap₁ ++ word ++ gap₂ ++ digits ++ term ++ left ∧ gap₁.all isGap = true ∧
        spells "phase".toList word = true ∧ gap₂ ≠ [] ∧ gap₂.all isGap = true ∧ digits ≠ [] ∧
        digits.all isDecimalDigit = true ∧ Terminator term left := by
  constructor
  · intro h
    obtain ⟨t₁, h₁, hread⟩ := Option.bind_eq_some_iff.1 h
    obtain ⟨t₂, h₂, hnumber⟩ := Option.bind_eq_some_iff.1 hread
    dsimp only at hnumber
    obtain ⟨word, hword, hdrop⟩ := dropFolded?_eq_some_iff.1 h₁
    obtain ⟨gap₁, hgap₁, rfl, -⟩ := dropWhile_isGap_eq_iff.1 hdrop
    obtain ⟨gap₂, hne, hgap₂, rfl, -⟩ := dropGap?_eq_some_iff.1 h₂
    by_cases hdigits : (t₂.takeWhile isDecimalDigit).isEmpty = true
    · rw [if_pos hdigits] at hnumber
      exact absurd hnumber (by simp)
    · rw [if_neg hdigits] at hnumber
      obtain ⟨left', hterm, heq⟩ := Option.bind_eq_some_iff.1 hnumber
      obtain ⟨rfl, rfl⟩ : t₂.takeWhile isDecimalDigit = digits ∧ left' = left := by
        simpa using heq
      obtain ⟨term, hdrop, hterm⟩ := terminator?_eq_some_iff.1 hterm
      refine ⟨gap₁, word, gap₂, term, ?_, hgap₁, hword, hne, hgap₂, by simpa using hdigits,
        List.all_takeWhile, hterm⟩
      simp [← hdrop]
  · rintro ⟨gap₁, word, gap₂, term, rfl, hgap₁, hword, hne, hgap₂, hdne, hdigits, hterm⟩
    have hhead : ∀ c ∈ (term ++ left).head?, isDecimalDigit c = false := hterm.head
    have htake : (digits ++ (term ++ left)).takeWhile isDecimalDigit = digits :=
      takeWhile_run hdigits hhead
    have hdrop : (digits ++ (term ++ left)).dropWhile isDecimalDigit = term ++ left :=
      dropWhile_eq_iff.2 ⟨digits, hdigits, rfl, hhead⟩
    have hungapped : Ungapped (digits ++ (term ++ left)) := by
      obtain ⟨c, digits, rfl⟩ := List.exists_cons_of_ne_nil hdne
      have hc : isDecimalDigit c = true := And.left (by simpa using hdigits)
      rw [List.cons_append, ungapped_cons, ← Bool.not_eq_true]
      intro hg
      rw [not_digit_of_isBlank (isBlank_of_isGap hg)] at hc
      exact Bool.false_ne_true hc
    refine Option.bind_eq_some_iff.2 ⟨gap₂ ++ (digits ++ (term ++ left)),
      dropFolded?_eq_some_iff.2 ⟨word, hword, ?_⟩, ?_⟩
    · exact dropWhile_isGap_eq_iff.2 ⟨gap₁, hgap₁, by simp, ungapped_of_spells hword (by decide)⟩
    refine Option.bind_eq_some_iff.2 ⟨digits ++ (term ++ left),
      dropGap?_eq_some_iff.2 ⟨gap₂, hne, hgap₂, rfl, hungapped⟩, ?_⟩
    rw [htake, hdrop, terminator?_eq_some_iff.2 ⟨term, rfl, hterm⟩]
    simp [hdne]

/-- The recogniser reads, at the start of a line, the texts of the grammar and no others. -/
theorem recogniser_eq_some_iff {before : Option Char} {t left : List Char} {h : HeadingText} :
    recogniser before t = some (h, left) ↔ startsLine before = true ∧ h.line = firstLine t ∧
      ∃ opener term, t = opener ++ h.digits ++ term ++ left ∧ Opener opener ∧ h.digits ≠ [] ∧
        h.digits.all isDecimalDigit = true ∧ Terminator term left := by
  obtain ⟨digits, line⟩ := h
  unfold recogniser
  constructor
  · intro h
    by_cases hstart : (startsLine before && t.head? == some '#') = true
    · rw [if_pos hstart] at h
      obtain ⟨⟨digits', left'⟩, hread, heq⟩ := Option.map_eq_some_iff.1 h
      obtain ⟨⟨rfl, rfl⟩, rfl⟩ : (digits' = digits ∧ firstLine t = line) ∧ left' = left := by
        simpa using heq
      obtain ⟨gap₁, word, gap₂, term, hdrop, hgap₁, hword, hne, hgap₂, hdne, hdigits, hterm⟩ :=
        digits?_eq_some_iff.1 hread
      obtain ⟨hashes, hhashes, rfl, hhead⟩ := dropWhile_eq_iff.1 hdrop
      rw [Bool.and_eq_true, beq_iff_eq] at hstart
      refine ⟨hstart.1, rfl, hashes ++ gap₁ ++ word ++ gap₂, term, by simp,
        .intro ?_ hhashes hgap₁ hword hne hgap₂, hdne, hdigits, hterm⟩
      rintro rfl
      have hfirst := hhead '#' (by simpa using hstart.2)
      simp at hfirst
    · rw [if_neg hstart] at h
      exact absurd h (by simp)
  · rintro ⟨hstart, hline, opener, term, ht, hopener, hdne, hdigits, hterm⟩
    dsimp only at hline ht hdne hdigits
    subst ht hline
    cases hopener with
    | @intro hashes gap₁ word gap₂ hne hhashes hgap₁ hword hne₂ hgap₂ =>
      have hdrop : (hashes ++ gap₁ ++ word ++ gap₂ ++ digits ++ term ++ left).dropWhile (· = '#') =
          gap₁ ++ word ++ gap₂ ++ digits ++ term ++ left := by
        refine dropWhile_eq_iff.2 ⟨hashes, hhashes, by simp, ?_⟩
        intro c hc
        have hmem : c ∈ gap₁ ++ word :=
          mem_of_head?_append (t := gap₂ ++ digits ++ term ++ left)
            (by simp [ne_nil_of_spells hword (by decide)]) (by simpa using hc)
        simp only [decide_eq_false_iff_not]
        rintro rfl
        rcases List.mem_append.1 hmem with hm | hm
        · exact not_mem_of_all_isGap hgap₁ (by decide) hm
        · exact not_mem_of_spells (by decide) (by decide) hword hm
      obtain ⟨c, hashes', rfl⟩ := List.exists_cons_of_ne_nil hne
      obtain rfl : c = '#' := And.left (by simpa using hhashes)
      rw [if_pos (by simp [hstart]), hdrop, digits?_eq_some_iff.2 ⟨gap₁, word, gap₂, term, rfl,
        hgap₁, hword, hne₂, hgap₂, hdne, hdigits, hterm⟩]
      rfl

/-! ## Lines -/

theorem Opener.newline_not_mem {opener : List Char} (h : Opener opener) : '\n' ∉ opener := by
  cases h with
  | @intro hashes gap₁ word gap₂ hne hhashes hgap₁ hword hne₂ hgap₂ =>
    have hn : isGap '\n' = false := by decide
    have hhash : '\n' ∉ hashes := by
      intro hm
      simp only [List.all_eq_true, decide_eq_true_eq] at hhashes
      exact absurd (hhashes _ hm) (by decide)
    simp only [List.mem_append, not_or]
    exact ⟨⟨⟨hhash, not_mem_of_all_isGap hgap₁ hn⟩,
      not_mem_of_spells (by decide) (by decide) hword⟩, not_mem_of_all_isGap hgap₂ hn⟩

theorem Opener.ne_nil {opener : List Char} (h : Opener opener) : opener ≠ [] := by
  cases h with
  | intro hne => simp [hne]

theorem newline_not_mem_number {opener digits : List Char} (hopener : Opener opener)
    (hdigits : digits.all isDecimalDigit = true) : '\n' ∉ opener ++ digits := by
  rw [List.mem_append, not_or]
  refine ⟨hopener.newline_not_mem, ?_⟩
  intro hm
  rw [List.all_eq_true] at hdigits
  exact absurd (hdigits _ hm) (by decide)

theorem recogniser_consumes : recogniser.Consumes := by
  intro before t h left hread
  obtain ⟨-, -, opener, term, ht, hopener, -⟩ := recogniser_eq_some_iff.1 hread
  exact ⟨opener ++ h.digits ++ term, by simp [hopener.ne_nil], ht⟩

/-- A heading ends with its line at the latest, so it stands in the part of the text up to the
newline. -/
theorem number_append_newline {opener digits term line left rest : List Char}
    (hno : '\n' ∉ opener ++ digits) (hterm : Terminator term left)
    (h : line ++ '\n' :: rest = opener ++ digits ++ term ++ left) :
    (line = opener ++ digits ∧ term = ['\n'] ∧ left = rest) ∨
      ∃ c left', isTerminator c = true ∧ line = opener ++ digits ++ c :: left' ∧ term = [c] ∧
        left = left' ++ '\n' :: rest := by
  rw [List.append_assoc (opener ++ digits)] at h
  obtain ⟨d, hd, hleft⟩ := exists_cut_of_not_mem hno h
  cases hterm with
  | finish => simp at hleft
  | @mark c left hc =>
    cases d with
    | nil =>
      obtain ⟨rfl, rfl⟩ : c = '\n' ∧ left = rest := by simpa using hleft
      exact Or.inl ⟨by simpa using hd, rfl, rfl⟩
    | cons d left' =>
      obtain ⟨rfl, rfl⟩ : c = d ∧ left = left' ++ '\n' :: rest := by simpa using hleft
      exact Or.inr ⟨c, left', hc, hd, rfl, rfl⟩

theorem firstLine_newline {line : List Char} (h : '\n' ∉ line) (rest rest' : List Char) :
    firstLine (line ++ '\n' :: rest) = firstLine (line ++ '\n' :: rest') := by
  rw [firstLine_append_newline h, firstLine_append_newline h]

theorem isTerminator_newline : isTerminator '\n' = true := by decide

theorem recogniser_lineBound : recogniser.LineBound where
  consumes := recogniser_consumes
  start _ := rfl
  seam before line rest h := by
    ext ⟨heading, left⟩
    rw [Option.map_eq_some_iff, recogniser_eq_some_iff]
    constructor
    · rintro ⟨hstart, hline, opener, term, ht, hopener, hdne, hdigits, hterm⟩
      rw [firstLine_newline h rest []] at hline
      rcases number_append_newline (newline_not_mem_number hopener hdigits) hterm ht with
        ⟨hd, rfl, rfl⟩ | ⟨c, left', hc, hd, rfl, rfl⟩
      · exact ⟨(heading, []), recogniser_eq_some_iff.2 ⟨hstart, hline, opener, ['\n'],
          by simp [hd], hopener, hdne, hdigits, .mark isTerminator_newline⟩, by simp⟩
      · exact ⟨(heading, left' ++ ['\n']), recogniser_eq_some_iff.2 ⟨hstart, hline, opener, [c],
          by simp [hd], hopener, hdne, hdigits, .mark hc⟩, by simp⟩
    · rintro ⟨⟨heading', left'⟩, hread, heq⟩
      obtain ⟨rfl, rfl⟩ : heading' = heading ∧ left' ++ rest = left := by simpa using heq
      obtain ⟨hstart, hline, opener, term, ht, hopener, hdne, hdigits, hterm⟩ :=
        recogniser_eq_some_iff.1 hread
      refine ⟨hstart, by rw [hline, firstLine_newline h], opener, term, ?_, hopener, hdne, hdigits,
        ?_⟩
      · have := congrArg (· ++ rest) ht
        simpa using this
      · rcases number_append_newline (newline_not_mem_number hopener hdigits) hterm ht with
          ⟨-, rfl, -⟩ | ⟨c, -, hc, -, rfl, -⟩
        · exact .mark isTerminator_newline
        · exact .mark hc

/-! ## One match a line -/

/-- The digits of a line that has the shape of a heading. -/
def digitsOfLine? (line : List Char) : Option (List Char) :=
  (recogniser none line).map (·.1.digits)

/-- A line of the shape of a heading: an opener, digits and nothing or a terminator. -/
def Shaped (line digits : List Char) : Prop :=
  ∃ opener tail, line = opener ++ digits ++ tail ∧ Opener opener ∧ digits ≠ [] ∧
    digits.all isDecimalDigit = true ∧ ∀ c ∈ tail.head?, isTerminator c = true

theorem digitsOfLine?_eq_some_iff {line digits : List Char} :
    digitsOfLine? line = some digits ↔ Shaped line digits := by
  unfold digitsOfLine?
  rw [Option.map_eq_some_iff]
  constructor
  · rintro ⟨⟨heading, left⟩, hread, rfl⟩
    obtain ⟨-, -, opener, term, ht, hopener, hdne, hdigits, hterm⟩ := recogniser_eq_some_iff.1 hread
    refine ⟨opener, term ++ left, by simp [ht], hopener, hdne, hdigits, ?_⟩
    cases hterm with
    | finish => simp
    | mark hc => simpa using hc
  · rintro ⟨opener, tail, rfl, hopener, hdne, hdigits, htail⟩
    cases tail with
    | nil =>
      exact ⟨(⟨digits, _⟩, []), recogniser_eq_some_iff.2 ⟨rfl, rfl, opener, [], by simp, hopener,
        hdne, hdigits, .finish⟩, rfl⟩
    | cons c tail =>
      exact ⟨(⟨digits, _⟩, tail), recogniser_eq_some_iff.2 ⟨rfl, rfl, opener, [c], by simp, hopener,
        hdne, hdigits, .mark (htail c rfl)⟩, rfl⟩

theorem digitsOfLine?_newline {line : List Char} (h : '\n' ∉ line) (rest : List Char) :
    digitsOfLine? (line ++ '\n' :: rest) = digitsOfLine? line := by
  ext digits
  rw [digitsOfLine?_eq_some_iff, digitsOfLine?_eq_some_iff]
  constructor
  · rintro ⟨opener, tail, ht, hopener, hdne, hdigits, htail⟩
    have hno := newline_not_mem_number hopener hdigits
    obtain ⟨d, hd, hleft⟩ := exists_cut_of_not_mem hno ht
    refine ⟨opener, d, hd, hopener, hdne, hdigits, ?_⟩
    intro c hc
    exact htail c (by rw [hleft, Option.mem_def, List.head?_append, Option.mem_def.1 hc]; rfl)
  · rintro ⟨opener, tail, rfl, hopener, hdne, hdigits, htail⟩
    refine ⟨opener, tail ++ '\n' :: rest, by simp, hopener, hdne, hdigits, ?_⟩
    cases tail with
    | nil => simp [isTerminator_newline]
    | cons c tail => exact htail

theorem recogniser_midline {c : Char} (hc : c ≠ '\n') (t : List Char) :
    recogniser (some c) t = none := by
  simp [recogniser, startsLine, hc]

theorem scanFrom_midline {c : Char} {line : List Char} (hc : c ≠ '\n')
    (h : '\n' ∉ line.dropLast) (offset : Nat) :
    recogniser.scanFrom 0 (some c) offset line = [] := by
  induction line generalizing c offset with
  | nil => simp
  | cons d line ih =>
    rw [Recogniser.scanFrom_pass (recogniser_midline hc _)]
    cases line with
    | nil => simp
    | cons e line =>
      obtain ⟨hd, hl⟩ : '\n' ≠ d ∧ '\n' ∉ (e :: line).dropLast := by simpa using h
      exact ih hd.symm hl _

theorem newline_not_mem_of_dropLast {s t : List Char} (h : '\n' ∉ (s ++ t).dropLast)
    (ht : t ≠ []) : '\n' ∉ s := by
  intro hm
  rw [List.dropLast_append_of_ne_nil ht] at h
  exact h (List.mem_append_left _ hm)

/-- A line, with or without its newline, has at most one match, at its start. -/
theorem scan_line {line : List Char} (h : '\n' ∉ line.dropLast) :
    (recogniser.scan line).map (fun hit => (hit.offset, hit.value.digits)) =
      ((digitsOfLine? line).map (0, ·)).toList := by
  cases hread : recogniser none line with
  | none =>
    cases line with
    | nil => simp [Recogniser.scan, digitsOfLine?, hread]
    | cons c line =>
      have hrest : recogniser.scanFrom 0 (some c) (0 + c.utf8Size) line = [] := by
        cases line with
        | nil => simp
        | cons d line =>
          obtain ⟨hc, hl⟩ : '\n' ≠ c ∧ '\n' ∉ (d :: line).dropLast := by simpa using h
          exact scanFrom_midline hc.symm hl _
      rw [Recogniser.scan, Recogniser.scanFrom_pass hread, hrest]
      simp [digitsOfLine?, hread]
  | some found =>
    obtain ⟨heading, left⟩ := found
    obtain ⟨lexeme, ne, rfl⟩ := recogniser_consumes hread
    have hrest : recogniser.scanFrom 0 lexeme.getLast? (0 + byteLength lexeme) left = [] := by
      by_cases hleft : left = []
      · simp [hleft]
      · obtain ⟨c, hc⟩ := Option.ne_none_iff_exists'.1 (mt List.getLast?_eq_none_iff.1 ne)
        have hcn : c ≠ '\n' := by
          rintro rfl
          exact newline_not_mem_of_dropLast h hleft (List.mem_of_getLast? hc)
        have hl : '\n' ∉ left.dropLast := by
          rw [List.dropLast_append_of_ne_nil hleft] at h
          exact fun hm => h (List.mem_append_right lexeme hm)
        rw [hc]
        exact scanFrom_midline hcn hl _
    rw [Recogniser.scan, Recogniser.scanFrom_hit hread ne, hrest]
    simp [digitsOfLine?, hread]

theorem digitsOfLine?_eq_none {line : List Char} (h : line.head? ≠ some '#') :
    digitsOfLine? line = none := by
  have hfalse : ¬ (startsLine none && line.head? == some '#') = true := by simp [h]
  simp only [digitsOfLine?, recogniser, if_neg hfalse, Option.map_none]

/-- A scan finds the heading-shaped lines of the text, each at its start and with its digits. -/
theorem scan_lines (t : List Char) :
    (recogniser.scan t).map (fun hit => (hit.offset, hit.value.digits)) =
      (offsetLines t).filterMap fun (offset, line) => (digitsOfLine? line).map (offset, ·) := by
  induction t using line_induction with
  | last line h =>
    rw [scan_line (fun hm => h ((List.dropLast_sublist line).subset hm)), offsetLines_line h]
    cases hdigits : digitsOfLine? line <;> simp [hdigits]
  | cons line rest h ih =>
    have hdrop : '\n' ∉ (line ++ ['\n']).dropLast := by simpa using h
    have hfirst := scan_line hdrop
    have hshift : ((recogniser.scan rest).map (Hit.shift (byteLength (line ++ ['\n'])))).map
        (fun hit => (hit.offset, hit.value.digits)) =
        ((offsetLines rest).filterMap fun (offset, l) => (digitsOfLine? l).map (offset, ·)).map
          fun (offset, digits) => (byteLength line + 1 + offset, digits) := by
      have hsize : '\n'.utf8Size = 1 := rfl
      rw [← ih]
      simp [Function.comp_def, hsize]
    have hsplit : line ++ '\n' :: rest = (line ++ ['\n']) ++ rest := by simp
    rw [offsetLines_append_newline h, hsplit,
      recogniser_lineBound.scan_append (WholeLines.newline line), List.map_append, hfirst, hshift,
      digitsOfLine?_newline h]
    cases hdigits : digitsOfLine? line with
    | none => simp [hdigits, List.filterMap_map, List.map_filterMap, Function.comp_def]
    | some digits => simp [hdigits, List.filterMap_map, List.map_filterMap, Function.comp_def]

end EditGuard.Review.HeadingText
