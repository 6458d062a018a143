import EditGuard.Imports.Reference

/-! # Module imports of ECMAScript

`import clause from 'source'`, where the clause binds a default, names in braces or a whole module,
or a default and one of these. Imports without a clause are no references.
-/

namespace EditGuard.Imports.EsModule

open Text

def isIdentifierChar (c : Char) : Bool := isWord c || c = '$'

/-- Any quote closes any other. -/
def isQuote (c : Char) : Bool := c = '\x27' || c = '\x22' || c = '\x60'

def dropIdentifier? (t : List Char) : Option (List Char) := (takeRun? isIdentifierChar t).map (·.2)

/-- The text behind a binding: names in braces, a whole module under a name, or one identifier. -/
def dropBinding? : List Char → Option (List Char)
  | '\x7b' :: rest => List.isPrefixOf? ['\x7d'] (rest.dropWhile (· ≠ '\x7d'))
  | '*' :: rest => do
    let t ← dropBlanks? rest
    let t ← dropLeadingWord? "as" t
    dropIdentifier? t
  | t => dropIdentifier? t

def dropDefault? (t : List Char) : Option (List Char) := do
  let t ← dropIdentifier? t
  let t ← List.isPrefixOf? [','] (t.dropWhile isBlank)
  some (t.dropWhile isBlank)

def source? (t : List Char) : Option (List Char × List Char) := do
  let t ← dropBlanks? t
  let t ← dropLeadingWord? "from" t
  match t with
  | [] => none
  | quote :: t =>
    if isQuote quote then
      let (source, rest) ← takeRun? (!isQuote ·) t
      match rest with
      | [] => none
      | _ :: left => some (source, left)
    else none

def bound? (t : List Char) : Option (List Char × List Char) := (dropBinding? t).bind source?

/-- A default before another binding is tried first. -/
def clause? (t : List Char) : Option (List Char × List Char) :=
  match (dropDefault? t).bind bound? with
  | some found => some found
  | none => bound? t

/-- The word "type" is the modifier where a clause follows it, and else the start of a clause. -/
def statement : Recogniser (List Char) := fun before t => do
  let t ← dropKeyword? before t
  match (dropLeadingWord? "type" t).bind clause? with
  | some found => some found
  | none => clause? t

end EditGuard.Imports.EsModule
