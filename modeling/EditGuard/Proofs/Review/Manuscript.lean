import EditGuard.Proofs.Review.Composition
import EditGuard.Proofs.Review.Gate
import EditGuard.Proofs.Review.StatusWords

/-! # Documents read back as written

A manuscript is a document in its parts: plain lines and markers under numbered headings. Reading
its text gives back the numbers, the markers in their order and the status of each number, and so
the decision of the gate is the one computed from the parts.
-/

namespace EditGuard.Review

open Text

/-! ## Manuscripts -/

/-- A line that is neither a heading nor a marker. -/
structure PlainLine where
  text : List Char
  oneLine : '\n' ∉ text
  unmarked : ¬ MarkerText.opening <:+: text
  unheaded : text.head? ≠ some '#'

/-- The context of a marker. -/
structure Remark where
  text : List Char
  nonempty : text ≠ []
  trimmed : trim text = text
  oneLine : '\n' ∉ text
  unclosed : ¬ MarkerText.closing <:+: text

/-- A marker, whose status word has its letters in either case. -/
structure WrittenMarker where
  status : Status
  word : List Char
  spelled : word.map Char.toUpper = status.name.toList
  remark : Option Remark

inductive BodyLine where
  | plain (line : PlainLine)
  | marker (m : WrittenMarker)

/-- A heading with what stands below it. -/
structure Chapter where
  number : Nat
  bounded : number ≤ HeadingText.largestNumber
  title : List Char
  oneLine : '\n' ∉ title
  unmarked : ¬ MarkerText.opening <:+: title
  body : List BodyLine

structure Manuscript where
  preamble : List PlainLine
  chapters : List Chapter

def WrittenMarker.ending (m : WrittenMarker) : List Char :=
  match m.remark with
  | none => "-->".toList
  | some remark => "- ".toList ++ remark.text ++ " -->".toList

def WrittenMarker.text (m : WrittenMarker) : List Char :=
  "<!-- REVIEW STATUS: ".toList ++ m.word ++ " ".toList ++ m.ending

def BodyLine.text : BodyLine → List Char
  | plain line => line.text
  | marker m => m.text

def BodyLine.markers : BodyLine → List WrittenMarker
  | plain _ => []
  | marker m => [m]

namespace Chapter

def heading (chapter : Chapter) : List Char :=
  "## Phase ".toList ++ (toString chapter.number).toList ++ ": ".toList ++ chapter.title

def text (chapter : Chapter) : List Char :=
  unlines (chapter.heading :: chapter.body.map BodyLine.text)

def markers (chapter : Chapter) : List WrittenMarker := chapter.body.flatMap BodyLine.markers

end Chapter

namespace Manuscript

def text (w : Manuscript) : List Char :=
  unlines (w.preamble.map PlainLine.text) ++ w.chapters.flatMap Chapter.text

def markers (w : Manuscript) : List WrittenMarker := w.chapters.flatMap Chapter.markers

/-- The status of the last marker in the chapters of a number. -/
def statusOf? (w : Manuscript) (n : Nat) : Option Status :=
  ((w.chapters.filter (·.number = n)).flatMap Chapter.markers).getLast?.map (·.status)

/-- What the parts say of an edit of the chapter with the greatest number. -/
def decision (w : Manuscript) : Decision :=
  match (w.chapters.map (·.number)).max? with
  | none => .allow .noPhases
  | some e =>
    if e ≤ 1 then .allow .firstPhase
    else match (List.range' 1 (e - 1)).find? (w.statusOf? · ≠ some .approved) with
      | some k => .deny ⟨e, k, w.statusOf? k⟩
      | none => .allow .priorPhasesApproved

end Manuscript

/-! ## Lines of a body -/

namespace WrittenMarker

variable (m : WrittenMarker)

/-- The credit of the marker below the last heading of a number. -/
def credit (number : Option Nat) : Credit := ⟨number, m.status, m.remark.map (·.text)⟩

theorem ofName?_word : Status.ofName? m.word = some m.status :=
  Status.ofName?_eq_some_iff.2 m.spelled

theorem mem_words : ∃ w ∈ MarkerText.words, spells w m.word = true :=
  Status.mem_words_iff.2 ⟨_, m.ofName?_word⟩

theorem ending_read : ∃ context, MarkerText.Ending context m.ending [] ∧
    MarkerText.note ⟨m.word, context⟩ = m.remark.map (·.text) := by
  unfold ending
  cases m.remark with
  | none => exact ⟨none, .bare (by decide), rfl⟩
  | some remark =>
    obtain ⟨hfirst, hlast⟩ := ends_of_trim_eq_self remark.trimmed
    have hgap : ∀ c : Char, isBlank c = false → isGap c = false := by
      intro c hc
      rw [← Bool.not_eq_true] at hc ⊢
      exact fun hg => hc (isBlank_of_isGap hg)
    have hungapped : Ungapped (remark.text ++ [' '] ++ MarkerText.closing) := by
      intro c hc
      rw [List.append_assoc] at hc
      obtain ⟨d, rest, hsplit⟩ := List.exists_cons_of_ne_nil remark.nonempty
      rw [hsplit] at hc
      exact hgap c (hfirst c (by rw [hsplit]; exact hc))
    have hend : MarkerText.Ending (some remark.text)
        ('-' :: ([' '] ++ remark.text ++ [' '] ++ MarkerText.closing)) [] :=
      .noted (by decide) (by decide) remark.oneLine remark.unclosed hungapped
        fun c hc => hgap c (hlast c hc)
    refine ⟨some remark.text, ?_, ?_⟩
    · have htext : "- ".toList ++ remark.text ++ " -->".toList =
          '-' :: ([' '] ++ remark.text ++ [' '] ++ MarkerText.closing) := by
        simp [MarkerText.closing]
      show MarkerText.Ending _ ("- ".toList ++ remark.text ++ " -->".toList) []
      rw [htext]
      exact hend
    · simp [MarkerText.note, remark.trimmed, remark.nonempty]

theorem line_read : headings (m.text ++ ['\n']) = [] ∧
    credits (m.text ++ ['\n']) = [m.credit none] := by
  obtain ⟨context, hend, hnote⟩ := m.ending_read
  have hopener := MarkerText.opener_spaced m.mem_words
  have hread := credits_line hopener m.ofName?_word hend (Or.inr rfl)
  rw [hnote] at hread
  exact hread

end WrittenMarker

theorem PlainLine.line_read (line : PlainLine) : headings (line.text ++ ['\n']) = [] ∧
    credits (line.text ++ ['\n']) = [] := by
  have hdrop : '\n' ∉ line.text.dropLast :=
    fun hm => line.oneLine (List.mem_of_mem_dropLast hm)
  rw [headings_newline line.oneLine, credits_newline]
  exact ⟨headings_eq_nil hdrop line.unheaded, credits_eq_nil line.unmarked⟩

theorem BodyLine.line_read (line : BodyLine) : headings (line.text ++ ['\n']) = [] ∧
    credits (line.text ++ ['\n']) = line.markers.map (·.credit none) := by
  cases line with
  | plain line => exact line.line_read
  | marker m => exact m.line_read

theorem under_credit (number number' : Option Nat) (markers : List WrittenMarker) :
    (markers.map (·.credit number)).map (Credit.under number') =
      markers.map (·.credit (number.or number')) := by
  rw [List.map_map]
  rfl

theorem body_read (body : List BodyLine) : headings (unlines (body.map BodyLine.text)) = [] ∧
    credits (unlines (body.map BodyLine.text)) =
      (body.flatMap BodyLine.markers).map (·.credit none) := by
  induction body with
  | nil => exact ⟨rfl, rfl⟩
  | cons line body ih =>
    obtain ⟨hheadings, hcredits⟩ := line.line_read
    rw [List.map_cons, unlines_cons, List.flatMap_cons, List.map_append]
    constructor
    · rw [headings_append (.newline _), hheadings, ih.1]
      rfl
    · rw [credits_append (.newline _), hcredits, ih.2, lastNumber?_eq_none hheadings, under_credit]
      rfl

/-! ## Chapters -/

namespace Chapter

variable (chapter : Chapter)

theorem heading_shaped :
    HeadingText.Shaped chapter.heading (toString chapter.number).toList := by
  have hopener : HeadingText.Opener (['#', '#'] ++ [' '] ++ "Phase".toList ++ [' ']) :=
    .intro (by decide) (by decide) (by decide) (by decide) (by decide) (by decide)
  have hne : (toString chapter.number).toList ≠ [] := by
    rw [Nat.toString_eq_repr, Nat.toList_repr]
    exact Nat.toDigits_ne_nil
  have hdigits : (toString chapter.number).toList.all isDecimalDigit = true := by
    rw [List.all_eq_true]
    intro c hc
    rw [isDecimalDigit, toString_isDigit _ c hc, Bool.true_or]
  have hcolon : ∀ c ∈ (": ".toList ++ chapter.title).head?, HeadingText.isTerminator c = true := by
    intro c hc
    obtain rfl : ':' = c := Option.some.inj hc
    rfl
  refine ⟨_, ": ".toList ++ chapter.title, ?_, hopener, hne, hdigits, hcolon⟩
  unfold heading
  rw [List.append_assoc _ _ chapter.title]
  rfl

theorem not_mem_heading_start {c : Char} (hdigit : c.isDigit = false)
    (hlabel : c ∉ "## Phase ".toList) (hcolon : c ∉ ": ".toList) :
    c ∉ "## Phase ".toList ++ (toString chapter.number).toList ++ ": ".toList := by
  have hnumber : c ∉ (toString chapter.number).toList := not_mem_toString hdigit _
  simp only [List.mem_append, not_or]
  exact ⟨⟨hlabel, hnumber⟩, hcolon⟩

theorem oneLine_heading : '\n' ∉ chapter.heading := by
  have hstart := chapter.not_mem_heading_start (c := '\n') (by decide) (by decide) (by decide)
  unfold heading
  rw [List.mem_append, not_or]
  exact ⟨hstart, chapter.oneLine⟩

theorem headings_heading : headings (chapter.heading ++ ['\n']) = [(0, chapter.number)] := by
  have hdrop : '\n' ∉ chapter.heading.dropLast :=
    fun hm => chapter.oneLine_heading (List.mem_of_mem_dropLast hm)
  have hnumber :
      HeadingText.number? ⟨(toString chapter.number).toList, []⟩ = some chapter.number := by
    rw [HeadingText.number?, decimal?_toString]
    simp [Option.filter, chapter.bounded]
  rw [headings_newline chapter.oneLine_heading, headings_line hdrop,
    HeadingText.digitsOfLine?_eq_some_iff.2 chapter.heading_shaped, Option.bind_some, hnumber]
  rfl

theorem credits_heading : credits (chapter.heading ++ ['\n']) = [] := by
  have hplain := chapter.not_mem_heading_start (c := '<') (by decide) (by decide) (by decide)
  have hopen : ¬ MarkerText.opening <:+: chapter.heading := by
    unfold heading
    rw [MarkerText.opening_infix_append hplain]
    exact chapter.unmarked
  rw [credits_newline, credits_eq_nil hopen]

theorem text_read : (headings chapter.text).map (·.2) = [chapter.number] ∧
    credits chapter.text = chapter.markers.map (·.credit (some chapter.number)) := by
  obtain ⟨hheadings, hcredits⟩ := body_read chapter.body
  have hlast : lastNumber? (chapter.heading ++ ['\n']) = some chapter.number := by
    rw [lastNumber?, headings_heading]
    rfl
  unfold text
  rw [unlines_cons]
  constructor
  · rw [headings_append (.newline _), hheadings, headings_heading]
    rfl
  · rw [credits_append (.newline _), hcredits, credits_heading, hlast, under_credit]
    rfl

theorem wholeLines_text : WholeLines chapter.text := wholeLines_unlines _

end Chapter

theorem chapters_read (chapters : List Chapter) :
    (headings (chapters.flatMap Chapter.text)).map (·.2) = chapters.map (·.number) ∧
    credits (chapters.flatMap Chapter.text) =
      chapters.flatMap fun chapter => chapter.markers.map (·.credit (some chapter.number)) := by
  induction chapters with
  | nil => exact ⟨rfl, rfl⟩
  | cons chapter chapters ih =>
    obtain ⟨hheadings, hcredits⟩ := chapter.text_read
    have hunder : ∀ number, (chapters.flatMap fun chapter =>
        chapter.markers.map (·.credit (some chapter.number))).map (Credit.under number) =
        chapters.flatMap fun chapter => chapter.markers.map (·.credit (some chapter.number)) := by
      intro number
      rw [List.map_flatMap]
      simp only [under_credit, Option.some_or]
    simp only [List.flatMap_cons, List.map_cons]
    constructor
    · rw [headings_append chapter.wholeLines_text, List.map_append, hheadings, ← ih.1]
      simp
    · rw [credits_append chapter.wholeLines_text, hcredits, ih.2, hunder]

/-! ## Manuscripts -/

namespace Manuscript

variable (w : Manuscript)

theorem preamble_read : headings (unlines (w.preamble.map PlainLine.text)) = [] ∧
    credits (unlines (w.preamble.map PlainLine.text)) = [] := by
  have hread := body_read (w.preamble.map BodyLine.plain)
  have hmarkers : (w.preamble.map BodyLine.plain).flatMap BodyLine.markers = [] := by
    rw [List.flatMap_map]
    simp [BodyLine.markers]
  rw [hmarkers, List.map_map] at hread
  exact hread

theorem headings_text : (headings w.text).map (·.2) = w.chapters.map (·.number) := by
  rw [text, headings_append (wholeLines_unlines _), w.preamble_read.1, ← (chapters_read _).1]
  simp

theorem credits_text : credits w.text =
    w.chapters.flatMap fun chapter => chapter.markers.map (·.credit (some chapter.number)) := by
  rw [text, credits_append (wholeLines_unlines _), w.preamble_read.2,
    lastNumber?_eq_none w.preamble_read.1, (chapters_read _).2, List.map_flatMap]
  simp only [under_credit, Option.some_or]
  rfl

end Manuscript

theorem filter_credits (chapters : List Chapter) (n : Nat) :
    (chapters.flatMap fun chapter =>
        chapter.markers.map (·.credit (some chapter.number))).filter (·.number = some n) =
      ((chapters.filter (·.number = n)).flatMap Chapter.markers).map (·.credit (some n)) := by
  induction chapters with
  | nil => rfl
  | cons chapter chapters ih =>
    rw [List.flatMap_cons, List.filter_append, ih]
    by_cases h : chapter.number = n
    · have hall : (chapter.markers.map (·.credit (some chapter.number))).filter
          (·.number = some n) = chapter.markers.map (·.credit (some n)) := by
        rw [List.filter_eq_self.2]
        · rw [h]
        · intro c hc
          obtain ⟨m, -, rfl⟩ := List.mem_map.1 hc
          simpa [WrittenMarker.credit] using h
      rw [hall, List.filter_cons_of_pos (by simpa using h), List.flatMap_cons, List.map_append]
    · have hnone : (chapter.markers.map (·.credit (some chapter.number))).filter
          (·.number = some n) = [] := by
        rw [List.filter_eq_nil_iff]
        intro c hc
        obtain ⟨m, -, rfl⟩ := List.mem_map.1 hc
        simpa [WrittenMarker.credit] using h
      rw [hnone, List.filter_cons_of_neg (by simpa using h), List.nil_append]

namespace Document

variable (w : Manuscript)

theorem statusOf?_manuscript (n : Nat) : (ofText w.text).statusOf? n = w.statusOf? n := by
  rw [statusOf?_ofText, w.credits_text, filter_credits, List.getLast?_map, Option.map_map]
  rfl

theorem decide_manuscript : (ofText w.text).decide none = w.decision := by
  have hnumbers : (ofText w.text).outline.phases.map (·.number) = w.chapters.map (·.number) := by
    rw [map_phases_number, w.headings_text]
  have hedited : (ofText w.text).editedNumber? none = (w.chapters.map (·.number)).max? :=
    congrArg List.max? hnumbers
  rw [decide_ofText, hedited]
  unfold Manuscript.decision
  by_cases hempty : (ofText w.text).outline.phases = []
  · have hnil : w.chapters.map (·.number) = [] := by rw [← hnumbers, hempty, List.map_nil]
    rw [if_pos hempty, hnil]
    rfl
  · rw [if_neg hempty]
    cases hmax : (w.chapters.map (·.number)).max? with
    | none =>
      have hnil := List.max?_eq_none_iff.1 hmax
      rw [← hnumbers, List.map_eq_nil_iff] at hnil
      exact absurd hnil hempty
    | some e =>
      have hstatus : (ofText w.text).statusOf? = w.statusOf? := funext (statusOf?_manuscript w)
      have hfind : (ofText w.text).lowestUnapproved? e =
          (List.range' 1 (e - 1)).find? (w.statusOf? · ≠ some .approved) := by
        rw [lowestUnapproved?_eq_find?, hstatus]
      cases hfound : (List.range' 1 (e - 1)).find? (w.statusOf? · ≠ some .approved) with
      | none => simp only [hfind, hfound]
      | some k => simp only [hfind, hfound, hstatus]

/-- What is read off a manuscript is what was written. -/
theorem read_as_written :
    (ofText w.text).outline.phases.map (·.number) = w.chapters.map (·.number) ∧
    (Marker.all (LineIndex.ofText w.text) w.text).map (fun m => (m.status, m.context)) =
      w.markers.map (fun m => (m.status, m.remark.map (·.text))) ∧
    (∀ n, (ofText w.text).statusOf? n = w.statusOf? n) ∧
    (ofText w.text).decide none = w.decision := by
  refine ⟨?_, ?_, statusOf?_manuscript w, decide_manuscript w⟩
  · rw [map_phases_number, w.headings_text]
  · rw [map_all, w.credits_text, List.map_flatMap, Manuscript.markers, List.map_flatMap]
    simp only [List.map_map]
    rfl

example : Manuscript.text ⟨[], [⟨2, by decide, "Store".toList, by decide, by decide,
    [.marker ⟨.draft, "Draft".toList, by decide, none⟩]⟩]⟩ =
      "## Phase 2: Store\n<!-- REVIEW STATUS: Draft -->\n".toList := by decide +kernel

end Document

end EditGuard.Review
