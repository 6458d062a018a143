import EditGuard.Imports.Reference

/-! # Imports of declarations

Java: `import a.b.C;`, `import static a.b.C.d;` and `import a.b.*;`. White space may stand between
the words and before the semicolon. Swift: `import Module` and `import kind Module.Name`, where the
kind is the keyword of a declaration.
-/

namespace EditGuard.Imports.Java

open Text

def isNameChar (c : Char) : Bool := isPlainWord c || c = '.'

def dropSemicolon? (t : List Char) : Option (List Char) :=
  List.isPrefixOf? [';'] (t.dropWhile isBlank)

/-- A name up to its semicolon. A star may stand behind a name of at least two characters that ends
in a dot. -/
def name? (t : List Char) : Option (List Char × List Char) := do
  let (name, rest) ← takeRun? isNameChar t
  match rest with
  | '*' :: rest =>
    if 2 ≤ name.length && name.getLast? == some '.' then
      (dropSemicolon? rest).map fun left => (name ++ ['*'], left)
    else none
  | _ => (dropSemicolon? rest).map fun left => (name, left)

/-- The word "static" is the modifier where a name follows it, and else a name itself. -/
def statement : Recogniser (List Char) := fun before t => do
  let t ← dropKeyword? before t
  match (dropLeadingWord? "static" t).bind name? with
  | some found => some found
  | none => name? t

end EditGuard.Imports.Java

namespace EditGuard.Imports.Swift

open Text

def kinds : List String :=
  ["typealias", "struct", "class", "enum", "protocol", "let", "var", "func"]

def module? (t : List Char) : Option (List Char × List Char) := takeRun? isPlainWord t

/-- A kind is one where a module follows it, and else a module itself. -/
def statement : Recogniser (List Char) := fun before t => do
  let t ← dropKeyword? before t
  match kinds.findSome? fun kind => (dropLeadingWord? kind t).bind module? with
  | some found => some found
  | none => module? t

end EditGuard.Imports.Swift
