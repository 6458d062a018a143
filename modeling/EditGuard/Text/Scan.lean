import EditGuard.Text.Basic

/-! # Scanning a text for all matches

A recogniser looks at one position of a text. A scan tries it at every position from left to
right and goes on behind each match, so matches never overlap and the leftmost one wins.
-/

namespace EditGuard.Text

/-- Sees the character before a position, if any, and the text from there on. A match yields what
it denotes and the text that it leaves. -/
abbrev Recogniser (α : Type) := Option Char → List Char → Option (α × List Char)

/-- A match: the offset of its first byte, its own text and what it denotes. -/
structure Hit (α : Type) where
  offset : Nat
  lexeme : List Char
  value : α
  deriving Repr

namespace Recogniser

/-- Scans from a position whose offset is given, after first passing over `skip` characters. -/
def scanFrom {α : Type} (r : Recogniser α) :
    (skip : Nat) → (before : Option Char) → (offset : Nat) → List Char → List (Hit α)
  | _, _, _, [] => []
  | skip + 1, _, offset, c :: rest => scanFrom r skip (some c) (offset + c.utf8Size) rest
  | 0, before, offset, c :: rest =>
    match r before (c :: rest) with
    | none => scanFrom r 0 (some c) (offset + c.utf8Size) rest
    | some (value, left) =>
      let taken := rest.length + 1 - left.length
      ⟨offset, (c :: rest).take taken, value⟩ ::
        scanFrom r (taken - 1) (some c) (offset + c.utf8Size) rest

def scan {α : Type} (r : Recogniser α) (t : List Char) : List (Hit α) := r.scanFrom 0 none 0 t

end Recogniser

/-- The offsets at which a word is found when a scan goes on behind each find. -/
def occurrences (word t : List Char) : List Nat :=
  let here : Recogniser Unit := fun _ t => (List.isPrefixOf? word t).map fun rest => ((), rest)
  (here.scan t).map (·.offset)

end EditGuard.Text
