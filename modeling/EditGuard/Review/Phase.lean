import EditGuard.Text.Basic
import EditGuard.Text.Blank
import EditGuard.Text.Digit
import EditGuard.Text.Position
import EditGuard.Text.Scan

/-! # Phase headings

A phase heading is a line of hashes, the word "phase" in any case, a gap and a number, which ends
at the end of the line, at a colon or at white space. Its phase owns the text up to the next one.
-/

namespace EditGuard.Review

open Text

structure HeadingText where
  digits : List Char
  line : List Char
  deriving DecidableEq, Repr

namespace HeadingText

def startsLine : Option Char → Bool
  | none => true
  | some c => c = '\n'

/-- Behind the number: the end of the text, or one character that separates. -/
def terminator? : List Char → Option (List Char)
  | [] => some []
  | c :: rest => if c = ':' || c = '：' || isBlank c then some rest else none

def digits? (t : List Char) : Option (List Char × List Char) := do
  let t ← dropFolded? "phase".toList (t.dropWhile isGap)
  let t ← dropGap? t
  let digits := t.takeWhile isDecimalDigit
  if digits.isEmpty then none
  else
    let left ← terminator? (t.dropWhile isDecimalDigit)
    some (digits, left)

def recogniser : Recogniser HeadingText := fun before t =>
  if startsLine before && t.head? == some '#' then
    (digits? (t.dropWhile (· = '#'))).map fun (digits, left) => (⟨digits, firstLine t⟩, left)
  else none

/-- Phase numbers have 32 bits. -/
def largestNumber : Nat := 4294967295

/-- The phase number; digits of other scripts and numbers from 2^32 on give none. -/
def number? (h : HeadingText) : Option Nat :=
  (decimal? h.digits).filter (· ≤ largestNumber)

def title (h : HeadingText) : List Char := trim (h.line.dropWhile (· = '#'))

end HeadingText

structure Phase where
  number : Nat
  title : List Char
  location : Location
  deriving DecidableEq, Repr

namespace Phase

def ofHit? (lines : LineIndex) (hit : Hit HeadingText) : Option Phase :=
  hit.value.number?.map fun number =>
    { number, title := hit.value.title, location := lines.location hit.offset }

end Phase

structure Outline where
  phases : List Phase
  deriving DecidableEq, Repr

namespace Outline

def ofText (lines : LineIndex) (t : List Char) : Outline :=
  ⟨(HeadingText.recogniser.scan t).filterMap (Phase.ofHit? lines)⟩

def isEmpty (o : Outline) : Bool := o.phases.isEmpty

/-- The phase whose heading is the last one at or before an offset. Headings ascend, so the search
stops at the first one behind it. -/
def ownerAt? (o : Outline) (offset : Nat) : Option Phase :=
  (o.phases.takeWhile (·.location.offset ≤ offset)).getLast?

/-- The phase with the highest number, the last one among equals. -/
def highest? (o : Outline) : Option Phase :=
  o.phases.foldl (fun best p =>
    match best with
    | none => some p
    | some b => if b.number ≤ p.number then some p else some b) none

end Outline

end EditGuard.Review
