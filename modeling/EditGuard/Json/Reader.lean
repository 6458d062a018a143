import EditGuard.Json.Value
import EditGuard.Text.Utf8

/-! # Reading JSON

A strict reader over bytes: one value with white space around it, at most 127 open containers,
strings of valid UTF-8 with paired surrogates, and numbers in the range of a double.
-/

namespace EditGuard.Json

open Text

inductive ReadFault where
  | endInList
  | endInObject
  | endInString
  | endInValue
  | expectedColon
  | expectedListComma
  | expectedObjectComma
  | expectedIdent
  | expectedValue
  | invalidEscape
  | invalidNumber
  | numberOutOfRange
  | invalidUnicode
  | controlCharacter
  | keyNotString
  | loneSurrogate
  | trailingComma
  | trailingCharacters
  | brokenSurrogatePair
  | tooDeep
  deriving DecidableEq, Repr

def ReadFault.message : ReadFault → String
  | endInList => "EOF while parsing a list"
  | endInObject => "EOF while parsing an object"
  | endInString => "EOF while parsing a string"
  | endInValue => "EOF while parsing a value"
  | expectedColon => "expected `:`"
  | expectedListComma => "expected `,` or `]`"
  | expectedObjectComma => "expected `,` or `\x7d`"
  | expectedIdent => "expected ident"
  | expectedValue => "expected value"
  | invalidEscape => "invalid escape"
  | invalidNumber => "invalid number"
  | numberOutOfRange => "number out of range"
  | invalidUnicode => "invalid unicode code point"
  | controlCharacter => "control character (\\u0000-\\u001F) found while parsing a string"
  | keyNotString => "key must be a string"
  | loneSurrogate => "lone leading surrogate in hex escape"
  | trailingComma => "trailing comma"
  | trailingCharacters => "trailing characters"
  | brokenSurrogatePair => "unexpected end of hex escape"
  | tooDeep => "recursion limit exceeded"

/-- Why reading failed, and how many bytes were left then. -/
structure ReadError where
  fault : ReadFault
  left : Nat
  deriving DecidableEq, Repr

/-- The fault with its line and column, both in terms of the bytes read so far. -/
def ReadError.message (e : ReadError) (whole : Bytes) : String :=
  let done := whole.take (whole.length - e.left)
  let line := done.count 10 + 1
  let column := (done.reverse.takeWhile (· ≠ 10)).length
  s!"{e.fault.message} at line {line} column {column}"

def failBehind {α : Type} (fault : ReadFault) (rest : Bytes) : Except ReadError α :=
  .error ⟨fault, rest.length⟩

def failAt {α : Type} (fault : ReadFault) (rest : Bytes) : Except ReadError α :=
  .error ⟨fault, rest.length - 1⟩

def isSpace (b : UInt8) : Bool := b = 32 || b = 10 || b = 9 || b = 13

def skipSpace (bytes : Bytes) : Bytes := bytes.dropWhile isSpace

def isDigit (b : UInt8) : Bool := (byteChar b).isDigit

def digitValue (b : UInt8) : Nat := b.toNat - 48

/-! ## Words -/

def word (value : Value) : List Char → Bytes → Except ReadError (Value × Bytes)
  | [], bytes => .ok (value, bytes)
  | _ :: _, [] => failBehind .endInValue []
  | c :: more, b :: rest =>
    if byteChar b = c then word value more rest else failBehind .expectedIdent rest

/-! ## Numbers -/

/-- A decimal number `significand * 10 ^ exponent`. The significand has 64 bits: digits beyond that
count only by their place. -/
structure Magnitude where
  significand : Nat
  exponent : Int

namespace Magnitude

def hasRoom (m : Magnitude) (digit : Nat) : Bool :=
  m.significand * 10 + digit ≤ 18446744073709551615

def ofWholeDigits (digits : Bytes) : Magnitude :=
  digits.foldl (fun m b =>
    if m.exponent = 0 && m.hasRoom (digitValue b) then
      ⟨m.significand * 10 + digitValue b, 0⟩
    else ⟨m.significand, m.exponent + 1⟩) ⟨0, 0⟩

def withFraction (m : Magnitude) : Bytes → Magnitude
  | [] => m
  | b :: rest =>
    if m.hasRoom (digitValue b) then
      withFraction ⟨m.significand * 10 + digitValue b, m.exponent - 1⟩ rest
    else m

def overflows (m : Magnitude) : Bool :=
  m.significand ≠ 0 && 0 ≤ m.exponent &&
    (308 < m.exponent ||
      (Float.ofNat m.significand * Float.ofScientific 1 false m.exponent.toNat).isInf)

end Magnitude

def Magnitude.scaled (m : Magnitude) (positive : Bool) (places : Nat) : Magnitude :=
  ⟨m.significand, if positive then m.exponent + places else m.exponent - places⟩

def inRange (m : Magnitude) (rest : Bytes) : Except ReadError Bytes :=
  if m.overflows then failBehind .numberOutOfRange rest else .ok rest

/-- Reads the digits of an exponent behind its first one. An exponent of more than 31 bits is out
of range, or makes the number zero. -/
def exponentDigits (m : Magnitude) (positive : Bool) :
    (value : Nat) → Bytes → Except ReadError Bytes
  | value, [] => inRange (m.scaled positive value) []
  | value, b :: rest =>
    if isDigit b then
      let next := value * 10 + digitValue b
      if next ≤ 2147483647 then exponentDigits m positive next rest
      else if m.significand ≠ 0 && positive then failBehind .numberOutOfRange rest
      else .ok (rest.dropWhile isDigit)
    else inRange (m.scaled positive value) (b :: rest)

def exponent (m : Magnitude) (bytes : Bytes) : Except ReadError Bytes :=
  let (positive, digits) := match bytes with
    | b :: rest =>
      if byteChar b = '+' then (true, rest)
      else if byteChar b = '-' then (false, rest)
      else (true, bytes)
    | [] => (true, [])
  match digits with
  | [] => failBehind .endInValue []
  | b :: rest =>
    if isDigit b then exponentDigits m positive (digitValue b) rest
    else failBehind .invalidNumber rest

def exponentOrEnd (m : Magnitude) (bytes : Bytes) : Except ReadError Bytes :=
  match bytes with
  | b :: rest =>
    if byteChar b = 'e' || byteChar b = 'E' then exponent m rest else inRange m bytes
  | [] => inRange m bytes

def fractionOrEnd (m : Magnitude) (bytes : Bytes) : Except ReadError Bytes :=
  match bytes with
  | b :: rest =>
    if byteChar b = '.' then
      match rest.takeWhile isDigit with
      | [] => failAt (if rest.isEmpty then .endInValue else .invalidNumber) rest
      | digits => exponentOrEnd (m.withFraction digits) (rest.dropWhile isDigit)
    else exponentOrEnd m bytes
  | [] => inRange m bytes

/-- Reads a number without its sign. A leading zero stands alone. -/
def unsigned (bytes : Bytes) : Except ReadError Bytes :=
  match bytes with
  | [] => failBehind .endInValue []
  | b :: rest =>
    if byteChar b = '0' then
      match rest with
      | d :: _ => if isDigit d then failAt .invalidNumber rest else fractionOrEnd ⟨0, 0⟩ rest
      | [] => .ok []
    else if isDigit b then
      fractionOrEnd (.ofWholeDigits (bytes.takeWhile isDigit)) (bytes.dropWhile isDigit)
    else failBehind .invalidNumber rest

def number (bytes : Bytes) : Except ReadError (Value × Bytes) := do
  let rest ← match bytes with
    | b :: rest => if byteChar b = '-' then unsigned rest else unsigned bytes
    | [] => unsigned []
  let lexeme := bytes.take (bytes.length - rest.length)
  pure (.number (String.ofList (lexeme.map byteChar)), rest)

/-! ## Strings -/

def hexValue? (b : UInt8) : Option Nat :=
  let c := byteChar b
  if c.isDigit then some (c.toNat - 48)
  else if 'a' ≤ c && c ≤ 'f' then some (c.toNat - 87)
  else if 'A' ≤ c && c ≤ 'F' then some (c.toNat - 55)
  else none

def hexEscape : Bytes → Except ReadError (Nat × Bytes)
  | a :: b :: c :: d :: rest =>
    match hexValue? a, hexValue? b, hexValue? c, hexValue? d with
    | some a, some b, some c, some d => .ok (((a * 16 + b) * 16 + c) * 16 + d, rest)
    | _, _, _, _ => failBehind .invalidEscape rest
  | _ => failBehind .endInString []

/-- Reads one byte of the second half of a surrogate pair. -/
def pairByte (expected : Char) : Bytes → Except ReadError Bytes
  | [] => failBehind .endInString []
  | b :: rest => if byteChar b = expected then .ok rest else failBehind .brokenSurrogatePair rest

/-- Reads a character escape behind its letter; a character beyond the basic plane takes two. -/
def unicodeEscape (bytes : Bytes) : Except ReadError (Char × Bytes) := do
  let (high, rest) ← hexEscape bytes
  if 0xDC00 ≤ high && high ≤ 0xDFFF then failBehind .loneSurrogate rest
  else if high < 0xD800 || 0xDBFF < high then pure (Char.ofNat high, rest)
  else
    let rest ← pairByte '\\' rest
    let rest ← pairByte 'u' rest
    let (low, rest) ← hexEscape rest
    if low < 0xDC00 || 0xDFFF < low then failBehind .loneSurrogate rest
    else pure (Char.ofNat ((high - 0xD800) * 0x400 + (low - 0xDC00) + 0x10000), rest)

def escape : Bytes → Except ReadError (Char × Bytes)
  | [] => failBehind .endInString []
  | b :: rest =>
    match byteChar b with
    | '\x22' => .ok ('\x22', rest)
    | '\\' => .ok ('\\', rest)
    | '/' => .ok ('/', rest)
    | 'b' => .ok ('\x08', rest)
    | 'f' => .ok ('\x0c', rest)
    | 'n' => .ok ('\n', rest)
    | 'r' => .ok ('\r', rest)
    | 't' => .ok ('\t', rest)
    | 'u' => unicodeEscape rest
    | _ => failBehind .invalidEscape rest

/-- Reads a string behind its opening quote; `done` holds its bytes so far, last first. Every round
reads a byte at least, so the length of the input is fuel enough. -/
def stringBody : (fuel : Nat) → (done : Bytes) → Bytes → Except ReadError (String × Bytes)
  | 0, _, _ => failBehind .endInString []
  | _, _, [] => failBehind .endInString []
  | fuel + 1, done, b :: rest =>
    if byteChar b = '\x22' then
      match ofUtf8? done.reverse with
      | some s => .ok (s, rest)
      | none => failBehind .invalidUnicode rest
    else if byteChar b = '\\' then
      match escape rest with
      | .ok (c, rest) => stringBody fuel ((toUtf8 (String.singleton c)).reverse ++ done) rest
      | .error e => .error e
    else if b < 32 then failBehind .controlCharacter rest
    else stringBody fuel (b :: done) rest

def string (bytes : Bytes) : Except ReadError (String × Bytes) :=
  stringBody (bytes.length + 1) [] bytes

/-! ## Containers -/

def items (item : Bytes → Except ReadError (Value × Bytes)) :
    (fuel : Nat) → (done : List Value) → Bytes → Except ReadError (List Value × Bytes)
  | 0, _, bytes => failAt .endInList bytes
  | fuel + 1, done, bytes =>
    match skipSpace bytes with
    | [] => failAt .endInList []
    | b :: rest =>
      if byteChar b = ']' then .ok (done.reverse, rest)
      else if done.isEmpty then
        match item (b :: rest) with
        | .ok (v, rest) => items item fuel [v] rest
        | .error e => .error e
      else if byteChar b = ',' then
        match skipSpace rest with
        | [] => failAt .endInValue []
        | b :: rest =>
          if byteChar b = ']' then failAt .trailingComma (b :: rest)
          else match item (b :: rest) with
            | .ok (v, rest) => items item fuel (v :: done) rest
            | .error e => .error e
      else failAt .expectedListComma (b :: rest)

def member (item : Bytes → Except ReadError (Value × Bytes)) (bytes : Bytes) :
    Except ReadError ((String × Value) × Bytes) := do
  let (name, rest) ← string bytes
  match skipSpace rest with
  | [] => failAt .endInObject []
  | b :: rest =>
    if byteChar b = ':' then
      let (v, rest) ← item rest
      pure ((name, v), rest)
    else failAt .expectedColon (b :: rest)

def members (item : Bytes → Except ReadError (Value × Bytes)) :
    (fuel : Nat) → (done : List (String × Value)) → Bytes →
      Except ReadError (List (String × Value) × Bytes)
  | 0, _, bytes => failAt .endInObject bytes
  | fuel + 1, done, bytes =>
    match skipSpace bytes with
    | [] => failAt .endInObject []
    | b :: rest =>
      if byteChar b = '\x7d' then .ok (done.reverse, rest)
      else if done.isEmpty then
        if byteChar b = '\x22' then
          match member item rest with
          | .ok (m, rest) => members item fuel [m] rest
          | .error e => .error e
        else failAt .keyNotString (b :: rest)
      else if byteChar b = ',' then
        match skipSpace rest with
        | [] => failAt .endInValue []
        | b :: rest =>
          if byteChar b = '\x22' then
            match member item rest with
            | .ok (m, rest) => members item fuel (m :: done) rest
            | .error e => .error e
          else if byteChar b = '\x7d' then failAt .trailingComma (b :: rest)
          else failAt .keyNotString (b :: rest)
      else failAt .expectedObjectComma (b :: rest)

/-- Reads a value; `depth` is the number of containers that may still be opened. -/
def value (depth : Nat) (bytes : Bytes) : Except ReadError (Value × Bytes) :=
  match skipSpace bytes with
  | [] => failAt .endInValue []
  | b :: rest =>
    match byteChar b with
    | 'n' => word .null "ull".toList rest
    | 't' => word (.bool true) "rue".toList rest
    | 'f' => word (.bool false) "alse".toList rest
    | '\x22' => (string rest).map fun (s, rest) => (.string s, rest)
    | '[' =>
      match depth with
      | 0 => failAt .tooDeep (b :: rest)
      | depth + 1 =>
        (items (value depth) (rest.length + 1) [] rest).map fun (vs, rest) => (.array vs, rest)
    | '\x7b' =>
      match depth with
      | 0 => failAt .tooDeep (b :: rest)
      | depth + 1 =>
        (members (value depth) (rest.length + 1) [] rest).map fun (ms, rest) => (.object ms, rest)
    | c => if c = '-' || c.isDigit then number (b :: rest) else failAt .expectedValue (b :: rest)

def depthLimit : Nat := 127

def read (bytes : Bytes) : Except ReadError Value := do
  let (v, rest) ← value depthLimit bytes
  match skipSpace rest with
  | [] => pure v
  | rest => failAt .trailingCharacters rest

end EditGuard.Json
