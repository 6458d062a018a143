import EditGuard.Toml.Reader

/-! # Reading records from TOML values

A record is read from a table by the names of its fields, or from an array by their order. The
fields of a table are read in the order of the document, so that the first fault there is the one
that is reported; that a field is missing is known only at the end of the table.
-/

namespace EditGuard.Toml

inductive ShapeFault where
  | wrongType
  | missingField (name : String)
  | unknownVariant (found : String) (expected : List String)
  | unknownField (found : String) (expected : List String)
  deriving DecidableEq, Repr

def ticked (name : String) : String := "\x60" ++ name ++ "\x60"

def alternatives : List String → String
  | [a, b] => s!"{ticked a} or {ticked b}"
  | [a] => ticked a
  | names => "one of " ++ String.intercalate ", " (names.map ticked)

def ShapeFault.message : ShapeFault → String
  | wrongType => "invalid type"
  | missingField name => s!"missing field {ticked name}"
  | unknownVariant found expected =>
    s!"unknown variant {ticked found}, expected {alternatives expected}"
  | unknownField found expected =>
    s!"unknown field {ticked found}, expected {alternatives expected}"

/-- A field of a record: how its value enters the record, and whether it has to be there. -/
structure Field (α : Type) where
  name : String
  isRequired : Bool
  enter : Value → α → Except ShapeFault α

/-- A field whose value is read and then put into the record. -/
def Field.reading {α β : Type} (name : String) (isRequired : Bool)
    (read : Value → Except ShapeFault β) (put : α → β → α) : Field α :=
  ⟨name, isRequired, fun v record => (read v).map (put record)⟩

/-- The fields of a record. A closed record refuses fields of other names, an open one passes over
them. -/
structure RecordShape (α : Type) where
  fields : List (Field α)
  isClosed : Bool := false

namespace RecordShape

variable {α : Type}

def enterNamed (shape : RecordShape α) (record : α) (entry : String × Value) :
    Except ShapeFault α :=
  match shape.fields.find? (·.name == entry.1) with
  | some field => field.enter entry.2 record
  | none =>
    if shape.isClosed then .error (.unknownField entry.1 (shape.fields.map (·.name)))
    else .ok record

def readTable (shape : RecordShape α) (blank : α) (entries : Fields) : Except ShapeFault α := do
  let record ← entries.foldlM shape.enterNamed blank
  match shape.fields.find? fun f => f.isRequired && (entries.lookup f.name).isNone with
  | some field => .error (.missingField field.name)
  | none => .ok record

/-- Reads an array. Its items are the values of the first fields, and more of them are passed
over. -/
def readItems : List (Field α) → α → List Value → Except ShapeFault α
  | [], record, _ => .ok record
  | field :: fields, record, [] =>
    if field.isRequired then .error .wrongType else readItems fields record []
  | field :: fields, record, v :: items => do
    let record ← field.enter v record
    readItems fields record items

/-- Reads a record. A date is a table of which no field is known. -/
def read (shape : RecordShape α) (blank : α) : Value → Except ShapeFault α
  | .table _ entries => shape.readTable blank entries
  | .array _ items => readItems shape.fields blank items
  | .dateTime _ => shape.readTable blank []
  | _ => .error .wrongType

end RecordShape

namespace Value

def readString : Value → Except ShapeFault String
  | string s => .ok s
  | _ => .error .wrongType

def readList {α : Type} (item : Value → Except ShapeFault α) : Value → Except ShapeFault (List α)
  | array _ items => items.mapM item
  | _ => .error .wrongType

def readStrings (v : Value) : Except ShapeFault (List String) := v.readList readString

def isEmptyContainer : Value → Bool
  | table _ fields => fields.isEmpty
  | array _ items => items.isEmpty
  | _ => false

/-- Reads one of several named variants: its name, or a table with its name and nothing in it. -/
def readVariant {α : Type} (ofName? : String → Option α) (names : List String) :
    Value → Except ShapeFault α
  | string s => named s
  | table _ [(name, content)] => do
    let variant ← named name
    if content.isEmptyContainer then .ok variant else .error .wrongType
  | _ => .error .wrongType
where
  named (name : String) : Except ShapeFault α :=
    match ofName? name with
    | some variant => .ok variant
    | none => .error (.unknownVariant name names)

end Value

inductive Error where
  | grammar (fault : SyntaxFault)
  | shape (fault : ShapeFault)
  deriving DecidableEq, Repr

namespace Error

/-- Where the reading stopped, and on a line of its own why. -/
def message : Error → String
  | grammar (.malformed line) => s!"TOML parse error at line {line}\nit cannot be read\n"
  | grammar .conflict => "TOML parse error at a repeated key\nduplicate key\n"
  | shape fault => s!"TOML parse error at a value\n{fault.message}\n"

end Error

def RecordShape.ofText {α : Type} (shape : RecordShape α) (blank : α) (text : List Char) :
    Except Error α :=
  match Toml.read text with
  | .error fault => .error (.grammar fault)
  | .ok entries => (shape.readTable blank entries).mapError .shape

end EditGuard.Toml
