import EditGuard.Proofs.Text.Words
import EditGuard.Time.Instant

/-! # The characters of time stamps

Every instant prints as digits and a few signs, so a stamp fits into any text that gives these
characters no meaning of its own.
-/

namespace EditGuard.Time

open Text

def isStamp (c : Char) : Bool := c.isDigit || "-+:.TZ".toList.contains c

theorem isStamp_of_isDigit {c : Char} (h : c.isDigit = true) : isStamp c = true := by
  simp [isStamp, h]

theorem padded_isDigit (width n : Nat) : ∀ c ∈ (padded width n).toList, c.isDigit = true := by
  intro c hc
  simp only [padded, String.toList_ofList, List.mem_append] at hc
  rcases hc with hzero | hdigit
  · obtain rfl := List.eq_of_mem_replicate hzero
    decide
  · exact Nat.isDigit_of_mem_toDigits (by decide) (by decide) hdigit

theorem padded_isStamp (width n : Nat) : (padded width n).toList.all isStamp = true := by
  rw [List.all_eq_true]
  intro c hc
  exact isStamp_of_isDigit (padded_isDigit width n c hc)

theorem yearText_isStamp (year : Int) : (yearText year).toList.all isStamp = true := by
  have hsign : ∀ sign : String, sign.toList.all isStamp = true →
      (sign ++ padded 4 year.natAbs).toList.all isStamp = true := by
    intro sign hsign
    rw [String.toList_append, List.all_append, hsign, padded_isStamp]
    rfl
  unfold yearText
  split
  · exact hsign "-" (by decide)
  · split
    · exact padded_isStamp 4 _
    · exact hsign "+" (by decide)

theorem stamp_isStamp (i : Instant) : i.stamp.toList.all isStamp = true := by
  simp only [Instant.stamp, Instant.render, String.toList_append, List.all_append, Bool.and_eq_true,
    yearText_isStamp, padded_isStamp, true_and, and_true]
  decide

theorem not_mem_stamp (i : Instant) {c : Char} (h : isStamp c = false) : c ∉ i.stamp.toList := by
  intro hm
  rw [List.all_eq_true.1 (stamp_isStamp i) c hm] at h
  exact absurd h (by simp)

theorem stamp_ne_nil (i : Instant) : i.stamp.toList ≠ [] := by
  simp [Instant.stamp, Instant.render]

theorem not_blank_of_isStamp {c : Char} (h : isStamp c = true) : isBlank c = false := by
  rw [isStamp, Bool.or_eq_true] at h
  rcases h with hdigit | hsign
  · rw [← Bool.not_eq_true]
    intro hblank
    have hnot := not_digit_of_isBlank hblank
    simp [isDecimalDigit, hdigit] at hnot
  · have hall : ("-+:.TZ".toList.all fun d => !isBlank d) = true := by decide
    rw [List.all_eq_true] at hall
    simpa using hall c (List.contains_iff_mem.1 hsign)

/-- A stamp starts with a character that is not white space. -/
theorem stamp_first (i : Instant) (t : List Char) :
    ∀ c ∈ (i.stamp.toList ++ t).head?, isBlank c = false := by
  intro c hc
  have hm := mem_of_head?_append (stamp_ne_nil i) hc
  exact not_blank_of_isStamp (List.all_eq_true.1 (stamp_isStamp i) c hm)

end EditGuard.Time
