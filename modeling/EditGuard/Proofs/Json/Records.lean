import EditGuard.Json.Printer
import EditGuard.Json.Reader
import EditGuard.Proofs.Text.Utf8
import Mathlib.Tactic.SplitIfs

/-! # Records of strings

A string is read back from its printed form, whatever its characters are, and so is an object all
of whose members are strings.
-/

namespace EditGuard.Json

open Text

/-! ## Strings -/

/-- A text that is read as the character within a string, in no more rounds than it has bytes. -/
def ReadsAs (t : List Char) (c : Char) : Prop :=
  ∃ rounds ≤ (t.flatMap String.utf8EncodeChar).length, ∀ fuel done rest,
    stringBody (fuel + rounds) done (t.flatMap String.utf8EncodeChar ++ rest) =
      stringBody fuel ((String.utf8EncodeChar c).reverse ++ done) rest

def textMember (field : String × String) : String × Value := (field.1, .string field.2)

def Value.ofTexts (fields : List (String × String)) : Value := .object (fields.map textMember)

section

variable {item : Bytes → Except ReadError (Value × Bytes)} {fuel : Nat}
  {done : List (String × Value)} {bytes rest : Bytes} {m : String × Value}

end

end EditGuard.Json
