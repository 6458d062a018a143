import EditGuard.Toml.Document
import EditGuard.Toml.Number
import EditGuard.Toml.Text

/-! # Reading TOML -/

namespace EditGuard.Toml

/-- Paths, and nested arrays and inline tables, are shorter than this. -/
def nestingLimit : Nat := 80

/-! ## Keys -/

def isBareKeyChar (c : Char) : Bool := c.isAlphanum || c = '-' || c = '_'

def simpleKey? (t : List Char) : Option (String × List Char) :=
  match t.takeWhile isBareKeyChar with
  | [] => lineString? t
  | name => some (String.ofList name, t.dropWhile isBareKeyChar)

/-- Reads names that dots join, with the gaps around them. -/
def keyPath? : (fuel : Nat) → List Char → Option (List String × List Char)
  | 0, _ => none
  | fuel + 1, t => do
    let (name, rest) ← simpleKey? (skipGap t)
    match skipGap rest with
    | '.' :: rest => do
      let (path, rest) ← keyPath? fuel rest
      some (name :: path, rest)
    | rest => some ([name], rest)

def key? (t : List Char) : Option (List String × String × List Char) := do
  let (names, rest) ← keyPath? nestingLimit t
  if nestingLimit ≤ names.length then none
  else
    let name ← names.getLast?
    some (names.dropLast, name, rest)

/-! ## Values -/

def items? (item : List Char → Option (Value × List Char)) :
    (fuel : Nat) → List Char → Option (List Value × List Char)
  | 0, _ => none
  | fuel + 1, t =>
    match skipLines (t.length + 1) t with
    | ']' :: rest => some ([], rest)
    | t => do
      let (v, rest) ← item t
      match skipLines (rest.length + 1) rest with
      | ',' :: rest => do
        let (vs, rest) ← items? item fuel rest
        some (v :: vs, rest)
      | ']' :: rest => some ([v], rest)
      | _ => none

def assignment? (item : List Char → Option (Value × List Char)) (t : List Char) :
    Option (Assignment × List Char) := do
  let (path, name, rest) ← key? t
  match rest with
  | '=' :: rest => do
    let (v, rest) ← item (skipGap rest)
    some (⟨path, name, v⟩, rest)
  | _ => none

def inlineFields? (item : List Char → Option (Value × List Char)) :
    (fuel : Nat) → List Char → Option (List Assignment × List Char)
  | 0, _ => none
  | fuel + 1, t => do
    let (a, rest) ← assignment? item t
    match skipGap rest with
    | ',' :: rest => do
      let (more, rest) ← inlineFields? item fuel rest
      some (a :: more, rest)
    | '\x7d' :: rest => some ([a], rest)
    | _ => none

/-- Reads a value; `depth` is the number of containers that may still be opened. -/
def value? (depth : Nat) (t : List Char) : Option (Value × List Char) :=
  match t with
  | [] => none
  | c :: rest =>
    match c with
    | '\x22' => (string? t).map fun (s, rest) => (.string s, rest)
    | '\x27' => (string? t).map fun (s, rest) => (.string s, rest)
    | '[' =>
      match depth with
      | 0 => none
      | depth + 1 =>
        (items? (value? depth) (rest.length + 1) rest).map fun (vs, rest) =>
          (.array .inline vs, rest)
    | '\x7b' =>
      match depth with
      | 0 => none
      | depth + 1 =>
        match skipGap rest with
        | '\x7d' :: rest => some (.table .inline [], rest)
        | rest => do
          let (assignments, rest) ← inlineFields? (value? depth) (rest.length + 1) rest
          let fields ← Fields.assignAll [] assignments
          some (.table .inline fields, rest)
    | 't' => (List.isPrefixOf? "true".toList t).map fun rest => (.boolean true, rest)
    | 'f' => (List.isPrefixOf? "false".toList t).map fun rest => (.boolean false, rest)
    | _ => number? t

/-! ## Documents -/

inductive Line where
  | blank
  | assignment (a : Assignment)
  | header (h : Header)

def header? (repeated : Bool) (t : List Char) : Option (Header × List Char) := do
  let (path, name, rest) ← key? t
  let rest ← List.isPrefixOf? (if repeated then [']', ']'] else [']']) rest
  some (⟨path, name, repeated⟩, rest)

def line? (t : List Char) : Option (Line × List Char) := do
  let (line, rest) ← match skipGap t with
    | '[' :: '[' :: rest => (header? true rest).map fun (h, rest) => (Line.header h, rest)
    | '[' :: rest => (header? false rest).map fun (h, rest) => (Line.header h, rest)
    | [] => some (.blank, [])
    | c :: rest =>
      if c = '#' || c = '\n' || c = '\r' then some (.blank, c :: rest)
      else (assignment? (value? (nestingLimit - 1)) (c :: rest)).map fun (a, rest) =>
        (Line.assignment a, rest)
  let rest ← dropLineEnd? rest
  some (line, rest)

inductive SyntaxFault where
  /-- A line cannot be read. -/
  | malformed (line : Nat)
  /-- Two keys or headers contradict each other. -/
  | conflict
  deriving DecidableEq, Repr

/-- Reads all lines, or tells how much of the text is left at the first that cannot be read. -/
def lines : (fuel : Nat) → List Char → Except Nat (List Line)
  | 0, t => if t.isEmpty then .ok [] else .error t.length
  | fuel + 1, t =>
    if t.isEmpty then .ok []
    else match line? t with
      | none => .error t.length
      | some (line, rest) => (lines fuel rest).map (line :: ·)

def sections : List Line → List Assignment × List Section
  | [] => ([], [])
  | .blank :: rest => sections rest
  | .assignment a :: rest =>
    let (first, more) := sections rest
    (a :: first, more)
  | .header h :: rest =>
    let (first, more) := sections rest
    ([], ⟨h, first⟩ :: more)

def withoutMark : List Char → List Char
  | '\ufeff' :: rest => rest
  | t => t

def read (text : List Char) : Except SyntaxFault Fields :=
  let t := withoutMark text
  match lines (t.length + 1) t with
  | .error left => .error (.malformed ((t.take (t.length - left)).count '\n' + 1))
  | .ok ls =>
    let (first, more) := sections ls
    match Fields.ofSections first more with
    | some fields => .ok fields
    | none => .error .conflict

end EditGuard.Toml
