/-! # The UTF-8 form of a text

Bytes that are the UTF-8 form of no text are shown all the same, with a replacement character for
each longest beginning of a character that does not go on, and for each byte that begins none.
-/

namespace EditGuard.Text

abbrev Bytes := List UInt8

def toUtf8 (s : String) : Bytes := s.toUTF8.toList

/-- The text with this UTF-8 form; not every sequence of bytes is one. -/
def ofUtf8? (bytes : Bytes) : Option String := String.fromUTF8? ⟨bytes.toArray⟩

/-- The ASCII character of a byte; a byte beyond ASCII gives a character beyond ASCII. -/
def byteChar (b : UInt8) : Char := Char.ofNat b.toNat

/-! ## Bytes as they are shown -/

/-- A character that is begun: its value so far, how many bytes it is short of, and the bounds of
the next one. -/
structure Begun where
  value : Nat
  owed : Nat
  low : Nat
  high : Nat

namespace Begun

def ofByte? (b : Nat) : Option Begun :=
  if b < 0x80 then some ⟨b, 0, 0, 0⟩
  else if b < 0xC2 then none
  else if b < 0xE0 then some ⟨b - 0xC0, 1, 0x80, 0xBF⟩
  -- the bounds keep out long forms, surrogates and what lies beyond the last code point
  else if b < 0xF0 then
    some ⟨b - 0xE0, 2, if b = 0xE0 then 0xA0 else 0x80, if b = 0xED then 0x9F else 0xBF⟩
  else if b < 0xF5 then
    some ⟨b - 0xF0, 3, if b = 0xF0 then 0x90 else 0x80, if b = 0xF4 then 0x8F else 0xBF⟩
  else none

def next? (g : Begun) (b : Nat) : Option Begun :=
  if 0 < g.owed ∧ g.low ≤ b ∧ b ≤ g.high then
    some ⟨g.value * 64 + (b - 0x80), g.owed - 1, 0x80, 0xBF⟩
  else none

end Begun

def replacement : Char := '\ufffd'

/-- The characters of the bytes behind a character that is begun. -/
def shownFrom (begun : Option Begun) : Bytes → List Char
  | [] => if begun.isSome then [replacement] else []
  | b :: rest =>
    match begun.bind (·.next? b.toNat) with
    | some g =>
      if g.owed = 0 then Char.ofNat g.value :: shownFrom none rest else shownFrom (some g) rest
    | none =>
      (if begun.isSome then [replacement] else []) ++
        match Begun.ofByte? b.toNat with
        | some g =>
          if g.owed = 0 then Char.ofNat g.value :: shownFrom none rest
          else shownFrom (some g) rest
        | none => replacement :: shownFrom none rest

def shown (bytes : Bytes) : String := String.ofList (shownFrom none bytes)

end EditGuard.Text
