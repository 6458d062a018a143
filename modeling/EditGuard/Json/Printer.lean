import EditGuard.Json.Value

/-! # Printing JSON

One item or member a line, two spaces of indentation a level, empty containers on one line.
-/

namespace EditGuard.Json

def hexDigit (n : Nat) : Char := Nat.digitChar n

/-- Quotes, backslashes and control characters are escaped and all else is kept. -/
def escapeChar (c : Char) : List Char :=
  if c = '\x22' || c = '\\' then ['\\', c]
  else if c = '\x08' then ['\\', 'b']
  else if c = '\x0c' then ['\\', 'f']
  else if c = '\n' then ['\\', 'n']
  else if c = '\r' then ['\\', 'r']
  else if c = '\t' then ['\\', 't']
  else if c.toNat < 32 then
    ['\\', 'u', '0', '0', hexDigit (c.toNat / 16), hexDigit (c.toNat % 16)]
  else [c]

def stringText (s : String) : String :=
  String.ofList ('\x22' :: s.toList.flatMap escapeChar ++ ['\x22'])

def newline (level : Nat) : String := "\n" ++ "".pushn ' ' (2 * level)

mutual

def Value.pretty (level : Nat) : Value → String
  | .null => "null"
  | .bool b => if b then "true" else "false"
  | .number lexeme => lexeme
  | .string s => stringText s
  | .array [] => "[]"
  | .array (v :: rest) =>
    "[" ++ newline (level + 1) ++ v.pretty (level + 1) ++ prettyItems (level + 1) rest ++
      newline level ++ "]"
  | .object [] => "\x7b\x7d"
  | .object (m :: rest) =>
    "\x7b" ++ newline (level + 1) ++ prettyMember (level + 1) m ++
      prettyMembers (level + 1) rest ++ newline level ++ "\x7d"

def prettyItems (level : Nat) : List Value → String
  | [] => ""
  | v :: rest => "," ++ newline level ++ v.pretty level ++ prettyItems level rest

def prettyMember (level : Nat) : String × Value → String
  | (name, v) => stringText name ++ ": " ++ v.pretty level

def prettyMembers (level : Nat) : List (String × Value) → String
  | [] => ""
  | m :: rest => "," ++ newline level ++ prettyMember level m ++ prettyMembers level rest

end

end EditGuard.Json
