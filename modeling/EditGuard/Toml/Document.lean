import EditGuard.Toml.Value

/-! # Assembling TOML tables

Where a key or a header may go depends on how the tables on its way came to be: a table is opened
by one header at most, dotted keys only extend tables that dots made, and inline values are closed.
-/

namespace EditGuard.Toml

namespace Fields

def replace (fields : Fields) (name : String) (v : Value) : Fields :=
  fields.map fun field => if field.1 == name then (name, v) else field

def without (fields : Fields) (name : String) : Fields := fields.filter (·.1 != name)

def isOpenToDots : Origin → Bool
  | .implied => true
  | .dotted => true
  | _ => false

/-- Edits the table at the end of a path, making the tables on the way that are not there yet. The
path leads into the last table of an array that headers made. -/
def editAt (dotted : Bool) (edit : Origin → Fields → Option Fields) :
    List String → Origin → Fields → Option Fields
  | [], origin, fields => edit origin fields
  | name :: path, _, fields =>
    match fields.lookup name with
    | none =>
      let made := if dotted then Origin.dotted else .implied
      (editAt dotted edit path made []).map fun inner => fields ++ [(name, .table made inner)]
    | some (.table made inner) =>
      if made = .inline || (dotted && !isOpenToDots made) then none
      else (editAt dotted edit path made inner).map fun inner =>
        fields.replace name (.table made inner)
    | some (.array .header items) =>
      match items.getLast? with
      | some (.table made inner) =>
        (editAt dotted edit path made inner).map fun inner =>
          fields.replace name (.array .header (items.dropLast ++ [.table made inner]))
      | _ => none
    | some _ => none

/-- Gives a name its value, at the end of a dotted path. A name has one value at most, and a path
leads only into tables that dots made. -/
def assign (fields : Fields) (path : List String) (name : String) (v : Value) : Option Fields :=
  editAt true (fun origin inner =>
    if (origin == .dotted) == path.isEmpty then none
    else if (inner.lookup name).isSome then none
    else some (inner ++ [(name, v)])) path .header fields

end Fields

structure Assignment where
  path : List String
  name : String
  value : Value
  deriving Repr

def Fields.assignAll (fields : Fields) (assignments : List Assignment) : Option Fields :=
  assignments.foldlM (fun fields a => fields.assign a.path a.name a.value) fields

/-- The line that opens a section: the path and the name of a table, or of an array that gets one
more table. -/
structure Header where
  path : List String
  name : String
  repeated : Bool
  deriving DecidableEq, Repr

structure Section where
  header : Header
  assignments : List Assignment
  deriving Repr

/-- Enters a section. A table that was only implied before keeps its fields and moves to the place
of its header. -/
def Fields.enter (root : Fields) (s : Section) : Option Fields :=
  Fields.editAt false (fun _ fields =>
    let name := s.header.name
    if s.header.repeated then do
      let table := Value.table .header (← Fields.assignAll [] s.assignments)
      match fields.lookup name with
      | none => some (fields ++ [(name, .array .header [table])])
      | some (.array .header items) =>
        some (fields.replace name (.array .header (items ++ [table])))
      | some _ => none
    else
      match fields.lookup name with
      | none => do
        let inner ← Fields.assignAll [] s.assignments
        some (fields ++ [(name, .table .header inner)])
      | some (.table .implied old) => do
        let inner ← Fields.assignAll old s.assignments
        some (fields.without name ++ [(name, .table .header inner)])
      | some _ => none) s.header.path .header root

def Fields.ofSections (first : List Assignment) (sections : List Section) : Option Fields := do
  let root ← Fields.assignAll [] first
  sections.foldlM Fields.enter root

end EditGuard.Toml
