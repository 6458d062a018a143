/-! # Review status -/

namespace EditGuard.Review

inductive Status where
  | draft
  | reviewing
  | approved
  | rejected
  deriving DecidableEq, Repr

namespace Status

def name : Status → String
  | draft => "DRAFT"
  | reviewing => "REVIEWING"
  | approved => "APPROVED"
  | rejected => "REJECTED"

def all : List Status := [draft, reviewing, approved, rejected]

/-- The status with this name; ASCII letters may have either case. -/
def ofName? (word : List Char) : Option Status :=
  all.find? fun s => s.name.toList == word.map Char.toUpper

theorem ofName?_name (s : Status) : ofName? s.name.toList = some s := by
  cases s <;> decide

end Status

def unknownStatus (word : String) : String := s!"unknown review status '{word}'"

end EditGuard.Review
