import EditGuard.Text.Basic

/-! # Positions in a text

A line index holds the offset at which every line starts. It turns byte offsets into lines and
columns and lines into offsets.
-/

namespace EditGuard.Text

/-- A line and a column, both counted from one, and the offset they stand for. -/
structure Location where
  line : Nat
  column : Nat
  offset : Nat
  deriving DecidableEq, Repr

def Location.display (l : Location) : String := s!"{l.line}:{l.column}"

/-- Ascending line starts and the size of the text, in bytes. -/
structure LineIndex where
  starts : List Nat
  size : Nat
  deriving DecidableEq, Repr

namespace LineIndex

def startsAfter (offset : Nat) : List Char → List Nat
  | [] => []
  | c :: rest =>
    if c = '\n' then (offset + 1) :: startsAfter (offset + 1) rest
    else startsAfter (offset + c.utf8Size) rest

def ofText (t : List Char) : LineIndex where
  starts := 0 :: startsAfter 0 t
  size := byteLength t

/-- The location of an offset; an offset behind the text stands for its end. -/
def location (index : LineIndex) (offset : Nat) : Location :=
  let o := min offset index.size
  let reached := index.starts.takeWhile (· ≤ o)
  { line := reached.length
    column := o - reached.getLast?.getD 0 + 1
    offset := o }

/-- The offset at which a line starts; there is no line zero and none behind the last. -/
def lineStart? (index : LineIndex) (line : Nat) : Option Nat :=
  match line with
  | 0 => none
  | n + 1 => index.starts[n]?

end LineIndex

end EditGuard.Text
