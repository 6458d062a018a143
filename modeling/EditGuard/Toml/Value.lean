/-! # TOML values -/

namespace EditGuard.Toml

/-- How a table or an array came to be. It decides what may still be added. -/
inductive Origin where
  /-- Written as a value; nothing may be added. -/
  | inline
  /-- Only passed on the way to a header further down. -/
  | implied
  /-- Made by the dots of a key. -/
  | dotted
  /-- Opened by a header of its own. -/
  | header
  deriving DecidableEq, Repr

/-- Fields keep the order of the document; floats and dates keep their spelling. -/
inductive Value where
  | string (s : String)
  | integer (n : Int)
  | float (lexeme : String)
  | boolean (b : Bool)
  | dateTime (lexeme : String)
  | array (origin : Origin) (items : List Value)
  | table (origin : Origin) (fields : List (String × Value))
  deriving Repr

abbrev Fields := List (String × Value)

end EditGuard.Toml
