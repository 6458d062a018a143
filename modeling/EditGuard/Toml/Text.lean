import EditGuard.Text.Basic
import EditGuard.Text.Blank

/-! # TOML strings, comments and line ends

Every reader takes the text from a position on and yields what it read and the text behind it.
-/

namespace EditGuard.Toml

open EditGuard.Text

/-- A character that may stand in a comment or a literal string: a tab or no control character. -/
def isPrintable (c : Char) : Bool := c = '\t' || (32 ≤ c.toNat && c.toNat ≠ 127)

def skipGap (t : List Char) : List Char := t.dropWhile isGap

def dropNewline? : List Char → Option (List Char)
  | '\n' :: rest => some rest
  | '\r' :: '\n' :: rest => some rest
  | _ => none

def skipComment : List Char → List Char
  | '#' :: rest => rest.dropWhile isPrintable
  | t => t

/-- The text behind the rest of a line that holds nothing but a gap and a comment. -/
def dropLineEnd? (t : List Char) : Option (List Char) :=
  match skipComment (skipGap t) with
  | [] => some []
  | t => dropNewline? t

def skipLines : (fuel : Nat) → List Char → List Char
  | 0, t => t
  | fuel + 1, t =>
    match dropNewline? (skipComment (skipGap t)) with
    | some rest => skipLines fuel rest
    | none => skipComment (skipGap t)

/-! ## Escapes -/

def hexValue? (c : Char) : Option Nat :=
  if c.isDigit then some (c.toNat - 48)
  else if 'a' ≤ c && c ≤ 'f' then some (c.toNat - 87)
  else if 'A' ≤ c && c ≤ 'F' then some (c.toNat - 55)
  else none

def hexNumber? : (digits : Nat) → (value : Nat) → List Char → Option (Nat × List Char)
  | 0, value, t => some (value, t)
  | digits + 1, value, c :: rest =>
    (hexValue? c).bind fun d => hexNumber? digits (value * 16 + d) rest
  | _ + 1, _, [] => none

/-- Reads a character given by its code point; surrogates are none. -/
def codePoint? (digits : Nat) (t : List Char) : Option (Char × List Char) := do
  let (n, rest) ← hexNumber? digits 0 t
  if n.isValidChar then some (Char.ofNat n, rest) else none

def escape? : List Char → Option (Char × List Char)
  | 'b' :: rest => some ('\x08', rest)
  | 't' :: rest => some ('\t', rest)
  | 'n' :: rest => some ('\n', rest)
  | 'f' :: rest => some ('\x0c', rest)
  | 'r' :: rest => some ('\r', rest)
  | '\x22' :: rest => some ('\x22', rest)
  | '\\' :: rest => some ('\\', rest)
  | 'u' :: rest => codePoint? 4 rest
  | 'U' :: rest => codePoint? 8 rest
  | _ => none

/-! ## Strings

The readers hold the characters so far, last first. Each round reads a character at least, so the
length of the text is fuel enough.
-/

def basicBody? : (fuel : Nat) → (done : List Char) → List Char → Option (String × List Char)
  | 0, _, _ => none
  | _, _, [] => none
  | fuel + 1, done, c :: rest =>
    if c = '\x22' then some (String.ofList done.reverse, rest)
    else if c = '\\' then
      (escape? rest).bind fun (e, rest) => basicBody? fuel (e :: done) rest
    else if isPrintable c then basicBody? fuel (c :: done) rest
    else none

def literalBody? (t : List Char) : Option (String × List Char) :=
  let isBody (c : Char) : Bool := isPrintable c && c ≠ '\x27'
  match t.dropWhile isBody with
  | '\x27' :: rest => some (String.ofList (t.takeWhile isBody), rest)
  | _ => none

/-- The text behind a line end escaped by a backslash, with all white space after it. -/
def dropEscapedLine? (t : List Char) : Option (List Char) :=
  (dropNewline? (skipGap t)).map skipWhite
where
  skipWhite : List Char → List Char
    | '\r' :: '\n' :: rest => skipWhite rest
    | c :: rest => if isGap c || c = '\n' then skipWhite rest else c :: rest
    | [] => []

/-- Reads a string over several lines behind its three quotes. Three to five quotes close it, and
those beyond three belong to it. Line ends are read as line feeds. -/
def multilineBody? (quote : Char) (escapes : Bool) :
    (fuel : Nat) → (done : List Char) → List Char → Option (String × List Char)
  | 0, _, _ => none
  | _, _, [] => none
  | fuel + 1, done, c :: rest =>
    if c = quote then
      let quotes := 1 + min 4 (rest.takeWhile (· = quote)).length
      let left := rest.drop (quotes - 1)
      if quotes < 3 then
        multilineBody? quote escapes fuel (List.replicate quotes quote ++ done) left
      else
        some (String.ofList (List.replicate (quotes - 3) quote ++ done).reverse, left)
    else if escapes && c = '\\' then
      match dropEscapedLine? rest with
      | some rest => multilineBody? quote escapes fuel done rest
      | none => (escape? rest).bind fun (e, rest) =>
          multilineBody? quote escapes fuel (e :: done) rest
    else match dropNewline? (c :: rest) with
      | some rest => multilineBody? quote escapes fuel ('\n' :: done) rest
      | none => if isPrintable c then multilineBody? quote escapes fuel (c :: done) rest else none

/-- The text of a string over several lines without a line end right behind its quotes. -/
def skipFirstNewline (t : List Char) : List Char := (dropNewline? t).getD t

def lineString? : List Char → Option (String × List Char)
  | '\x22' :: rest => basicBody? (rest.length + 1) [] rest
  | '\x27' :: rest => literalBody? rest
  | _ => none

def string? : List Char → Option (String × List Char)
  | '\x22' :: '\x22' :: '\x22' :: rest =>
    multilineBody? '\x22' true (rest.length + 1) [] (skipFirstNewline rest)
  | '\x27' :: '\x27' :: '\x27' :: rest =>
    multilineBody? '\x27' false (rest.length + 1) [] (skipFirstNewline rest)
  | t => lineString? t

end EditGuard.Toml
