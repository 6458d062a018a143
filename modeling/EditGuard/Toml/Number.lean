import EditGuard.Text.Basic
import EditGuard.Toml.Value

/-! # TOML numbers and dates -/

namespace EditGuard.Toml

open EditGuard.Text

/-! ## Numbers -/

/-- Reads digits behind a first one; an underscore may stand between two of them. -/
def moreDigits? (accepts : Char → Bool) : List Char → Option (List Char × List Char)
  | [] => some ([], [])
  | '_' :: rest =>
    match rest with
    | [] => none
    | d :: rest =>
      if accepts d then (moreDigits? accepts rest).map fun (ds, left) => (d :: ds, left) else none
  | c :: rest =>
    if accepts c then (moreDigits? accepts rest).map fun (ds, left) => (c :: ds, left)
    else some ([], c :: rest)

def digits? (accepts : Char → Bool) : List Char → Option (List Char × List Char)
  | [] => none
  | c :: rest =>
    if accepts c then (moreDigits? accepts rest).map fun (ds, left) => (c :: ds, left) else none

def digitValue (c : Char) : Nat :=
  if c.isDigit then c.toNat - 48 else c.toLower.toNat - 87

def valueOf (base : Nat) (digits : List Char) : Nat :=
  digits.foldl (fun n c => n * base + digitValue c) 0

def sign : List Char → Bool × List Char
  | '-' :: rest => (true, rest)
  | '+' :: rest => (false, rest)
  | t => (false, t)

def wholeDigits? : List Char → Option (List Char × List Char)
  | '0' :: rest => some (['0'], rest)
  | t => digits? Char.isDigit t

/-- Integers have 64 bits. -/
def inRange? (n : Int) : Option Value :=
  if -9223372036854775808 ≤ n && n ≤ 9223372036854775807 then some (.integer n) else none

def basedInteger? (base : Nat) (accepts : Char → Bool) (t : List Char) :
    Option (Value × List Char) := do
  let (digits, rest) ← digits? accepts t
  let v ← inRange? (valueOf base digits)
  some (v, rest)

def isHexDigit (c : Char) : Bool := c.isDigit || ('a' ≤ c.toLower && c.toLower ≤ 'f')

def integer? : List Char → Option (Value × List Char)
  | '0' :: 'x' :: rest => basedInteger? 16 isHexDigit rest
  | '0' :: 'o' :: rest => basedInteger? 8 (fun c => '0' ≤ c && c ≤ '7') rest
  | '0' :: 'b' :: rest => basedInteger? 2 (fun c => c = '0' || c = '1') rest
  | t => do
    let (negative, t) := sign t
    let (digits, rest) ← wholeDigits? t
    let n := valueOf 10 digits
    let v ← inRange? (if negative then -n else n)
    some (v, rest)

/-- Whether `mantissa * 10 ^ exponent` rounds to infinity in double precision. -/
def isTooLarge (mantissa : Nat) (exponent : Int) : Bool :=
  let bound := Nat.pow 2 1024 - Nat.pow 2 970
  if mantissa = 0 then false
  else if 0 ≤ exponent then 400 < exponent || bound ≤ mantissa * Nat.pow 10 exponent.toNat
  else
    let places := (-exponent).toNat
    places < (Nat.toDigits 10 mantissa).length && bound * Nat.pow 10 places ≤ mantissa

def exponent? : List Char → Option (Int × List Char)
  | c :: rest =>
    if c = 'e' || c = 'E' then do
      let (negative, rest) := sign rest
      let (digits, rest) ← digits? Char.isDigit rest
      let n := valueOf 10 digits
      some (if negative then -n else n, rest)
    else none
  | [] => none

def fraction? : List Char → Option (List Char × List Char)
  | '.' :: rest => digits? Char.isDigit rest
  | _ => none

/-- Reads a float; one without an exponent has a fraction. A positive one must be finite. -/
def float? (t : List Char) : Option (Value × List Char) := do
  let (negative, body) := sign t
  let finish (rest : List Char) : Option (Value × List Char) :=
    some (.float (String.ofList (t.take (t.length - rest.length))), rest)
  match List.isPrefixOf? "inf".toList body, List.isPrefixOf? "nan".toList body with
  | some rest, _ => finish rest
  | _, some rest => finish rest
  | none, none =>
    let (whole, rest) ← wholeDigits? body
    let (places, exponent, rest) ←
      match exponent? rest with
      | some (e, rest) => some ([], e, rest)
      | none => do
        let (places, rest) ← fraction? rest
        match rest with
        | c :: _ =>
          if c = 'e' || c = 'E' then do
            let (e, rest) ← exponent? rest
            some (places, e, rest)
          else some (places, 0, rest)
        | [] => some (places, 0, [])
    if !negative && isTooLarge (valueOf 10 (whole ++ places)) (exponent - places.length) then none
    else finish rest

/-! ## Dates and times -/

def fixedDigits? (width : Nat) (t : List Char) : Option (Nat × List Char) :=
  let digits := t.take width
  if digits.length = width && digits.all Char.isDigit then some (valueOf 10 digits, t.drop width)
  else none

def twoDigits? (least most : Nat) (t : List Char) : Option (Nat × List Char) :=
  (fixedDigits? 2 t).filter fun (n, _) => least ≤ n && n ≤ most

def daysInMonth (year month : Nat) : Nat :=
  if month = 2 then
    if year % 4 = 0 && (year % 100 ≠ 0 || year % 400 = 0) then 29 else 28
  else if month = 4 || month = 6 || month = 9 || month = 11 then 30
  else 31

def dropDate? (t : List Char) : Option (List Char) := do
  let (year, t) ← fixedDigits? 4 t
  let t ← List.isPrefixOf? ['-'] t
  let (month, t) ← twoDigits? 1 12 t
  let t ← List.isPrefixOf? ['-'] t
  let (_, t) ← twoDigits? 1 (daysInMonth year month) t
  some t

def dropTime? (t : List Char) : Option (List Char) := do
  let (_, t) ← twoDigits? 0 23 t
  let t ← List.isPrefixOf? [':'] t
  let (_, t) ← twoDigits? 0 59 t
  let t ← List.isPrefixOf? [':'] t
  let (_, t) ← twoDigits? 0 60 t
  match t with
  | '.' :: rest =>
    match rest.takeWhile Char.isDigit with
    | [] => some t
    | _ => some (rest.dropWhile Char.isDigit)
  | _ => some t

/-- The text behind an offset from universal time. -/
def dropOffset? : List Char → Option (List Char)
  | c :: rest =>
    if c = 'Z' || c = 'z' then some rest
    else if c = '+' || c = '-' then do
      let (_, t) ← twoDigits? 0 23 rest
      let t ← List.isPrefixOf? [':'] t
      let (_, t) ← twoDigits? 0 59 t
      some t
    else none
  | [] => none

/-- The text behind a date with, at will, a time and an offset, or behind a time alone. -/
def dropDateTime? (t : List Char) : Option (List Char) :=
  match dropDate? t with
  | some rest =>
    match rest with
    | c :: time =>
      if c = 'T' || c = 't' || c = ' ' then
        match dropTime? time with
        | some left => some ((dropOffset? left).getD left)
        | none => some rest
      else some rest
    | [] => some []
  | none => dropTime? t

def dateTime? (t : List Char) : Option (Value × List Char) :=
  (dropDateTime? t).map fun rest =>
    (.dateTime (String.ofList (t.take (t.length - rest.length))), rest)

def number? (t : List Char) : Option (Value × List Char) :=
  (dateTime? t).or ((float? t).or (integer? t))

end EditGuard.Toml
