/-! # JSON values -/

namespace EditGuard.Json

/-- Members of an object keep the order and the repetitions of the text; numbers keep their
spelling. -/
inductive Value where
  | null
  | bool (b : Bool)
  | number (lexeme : String)
  | string (s : String)
  | array (items : List Value)
  | object (members : List (String × Value))
  deriving Repr

namespace Value

/-- A member of an object by its name; of several with one name, the last. -/
def get? (v : Value) (name : String) : Option Value :=
  match v with
  | object members => (members.reverse.find? (·.1 == name)).map (·.2)
  | _ => none

def string? : Value → Option String
  | string s => some s
  | _ => none

def ofNat (n : Nat) : Value := number (toString n)

def ofStrings (xs : List String) : Value := array (xs.map string)

end Value

end EditGuard.Json
