import EditGuard.Fault
import EditGuard.Text.Basic
import EditGuard.Text.Utf8

/-! # File trees

A place is the list of names that leads from the root to a file or a directory. A path is walked
name by name; what it passes through has to be a directory.
-/

namespace EditGuard.Files

open Text

abbrev Place := List String

/-- A path as it is given: bytes, as a rule those of a text. -/
structure FilePath where
  bytes : Bytes
  deriving DecidableEq, Repr

namespace FilePath

def ofText (text : String) : FilePath := ⟨toUtf8 text⟩

def text? (path : FilePath) : Option String := ofUtf8? path.bytes

def display (path : FilePath) : String := shown path.bytes

end FilePath

inductive Node where
  | file (bytes : Bytes)
  /-- A file that cannot be read, and why. -/
  | locked (fault : Fault)
  | directory
  deriving DecidableEq, Repr

def Node.text : Node → Except Fault String
  | directory => .error .isADirectory
  | locked fault => .error fault
  | file bytes =>
    match ofUtf8? bytes with
    | some text => .ok text
    | none => .error .notText

/-- Why a file cannot be written: it is not opened, or it ends in a fault behind so many bytes. -/
inductive Barrier where
  | closed (fault : Fault)
  | full (taken : Nat) (fault : Fault)
  deriving DecidableEq, Repr

/-- Files and directories with their places. The root is there in any case. -/
structure Tree where
  entries : List (Place × Node)
  deriving Repr

def pathText (place : Place) : String :=
  if place.isEmpty then "/" else place.foldl (fun path name => path ++ "/" ++ name) ""

/-- The path of a file within a directory; an absolute path stays as it is. -/
def joinPath (directory path : String) : String :=
  if path.startsWith "/" || directory.isEmpty then path
  else if directory.endsWith "/" then directory ++ path
  else directory ++ "/" ++ path

/-- The names that a path goes through; an empty one stands for the directory itself. -/
def pathSteps (path : String) : List String :=
  (path.toList.splitOn '/').map fun step =>
    if step.isEmpty then "." else String.ofList step

def nameLimit : Nat := 255

/-- All paths are shorter than this, in bytes. -/
def pathLimit : Nat := 4096

namespace Tree

def node? (t : Tree) (place : Place) : Option Node :=
  if place.isEmpty then some .directory else t.entries.lookup place

def put (t : Tree) (place : Place) (n : Node) : Tree :=
  ⟨(place, n) :: t.entries.filter (·.1 ≠ place)⟩

def plant (t : Tree) (place : Place) (n : Node) : Tree :=
  ((List.range place.length).foldl (fun t size =>
    let parent := place.take size
    if (t.node? parent).isSome then t else t.put parent .directory) t).put place n

/-- Follows the steps of a path from a place. Nothing needs to be at the end of the last step. -/
def walk (t : Tree) : Place → List String → Except Fault Place
  | place, [] => .ok place
  | place, step :: steps =>
    match t.node? place with
    | none => .error .notFound
    | some (.file _) => .error .notADirectory
    | some (.locked _) => .error .notADirectory
    | some .directory =>
      if step = "." then walk t place steps
      else if step = ".." then walk t place.dropLast steps
      else if nameLimit < step.utf8ByteSize then .error .nameTooLong
      else walk t (place ++ [step]) steps

def resolve (t : Tree) (directory : Place) (path : String) : Except Fault Place :=
  if path.isEmpty then .error .notFound
  else if pathLimit ≤ path.utf8ByteSize then .error .nameTooLong
  else t.walk (if path.startsWith "/" then [] else directory) (pathSteps path)

def find (t : Tree) (directory : Place) (path : String) : Except Fault Node :=
  match t.resolve directory path with
  | .error fault => .error fault
  | .ok place =>
    match t.node? place with
    | some n => .ok n
    | none => .error .notFound

def isFile (t : Tree) (directory : Place) (path : String) : Bool :=
  match t.find directory path with
  | .ok (.file _) => true
  | .ok (.locked _) => true
  | _ => false

def readText (t : Tree) (directory : Place) (path : String) : Except Fault String :=
  match t.find directory path with
  | .error fault => .error fault
  | .ok node => node.text

/-- Writes a file, in place of the one that was there, against the barriers at some places. What
was written up to a fault stays. -/
def write (t : Tree) (barriers : List (Place × Barrier)) (directory : Place) (path : String)
    (bytes : Bytes) : Tree × Option Fault :=
  match t.resolve directory path with
  | .error fault => (t, some fault)
  | .ok place =>
    if t.node? place = some .directory then (t, some .isADirectory)
    else match barriers.lookup place with
      | none => (t.put place (.file bytes), none)
      | some (.closed fault) => (t, some fault)
      | some (.full taken fault) =>
        if bytes.length ≤ taken then (t.put place (.file bytes), none)
        else (t.put place (.file (bytes.take taken)), some fault)

theorem node?_put {t : Tree} {place : Place} (h : place ≠ []) (p : Place) (n : Node) :
    (t.put place n).node? p = if p = place then some n else t.node? p := by
  unfold node? put
  by_cases hp : p = place
  · subst hp
    simp [h]
  · have hb : (p == place) = false := beq_eq_false_iff_ne.2 hp
    simp only [List.lookup_cons, hb, hp, if_false]
    congr 1
    induction t.entries with
    | nil => rfl
    | cons entry entries ih =>
      obtain ⟨q, node⟩ := entry
      by_cases hq : q = place
      · subst hq
        simpa [List.lookup_cons, hb] using ih
      · simp only [List.filter_cons, ne_eq, hq, not_false_eq_true, decide_true, if_true,
          List.lookup_cons, ih]

end Tree

end EditGuard.Files
