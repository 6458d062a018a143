import EditGuard.Text.Basic

/-! # White space

The characters with the Unicode property White_Space. They separate the words of an import
statement, may end a phase heading and are trimmed from titles and marker contexts.
-/

namespace EditGuard.Text

def blankRanges : Ranges := [
    (0x9, 0xD), (0x20, 0x20), (0x85, 0x85), (0xA0, 0xA0), (0x1680, 0x1680), (0x2000, 0x200A),
    (0x2028, 0x2029), (0x202F, 0x202F), (0x205F, 0x205F), (0x3000, 0x3000) ]

def isBlank (c : Char) : Bool := blankRanges.contains c

/-- A space or a tab: the white space that may not end a line. -/
def isGap (c : Char) : Bool := c = ' ' || c = '\t'

def dropGap? : List Char → Option (List Char)
  | [] => none
  | c :: rest => if isGap c then some (rest.dropWhile isGap) else none

def dropBlanks? : List Char → Option (List Char)
  | [] => none
  | c :: rest => if isBlank c then some (rest.dropWhile isBlank) else none

def trimEnd (t : List Char) : List Char := (t.reverse.dropWhile isBlank).reverse

/-- The text without white space at either end. -/
def trim (t : List Char) : List Char := trimEnd (t.dropWhile isBlank)

theorem isBlank_of_isGap {c : Char} (h : isGap c = true) : isBlank c = true := by
  simp only [isGap, Bool.or_eq_true, decide_eq_true_eq] at h
  rcases h with rfl | rfl <;> decide

end EditGuard.Text
