import EditGuard.Files.Tree

/-! # Where the configuration comes from

A file that the caller names comes first, then a file of the project, then the one of the user; the
built-in defaults are left.
-/

namespace EditGuard.Config

open Files

structure Surroundings where
  tree : Tree
  /-- The working directory, which may have been removed. -/
  directory : Place
  environment : List (String × String)
  /-- The home directory of the account. -/
  accountHome : String
  /-- What paths lead to that are no text. -/
  others : List (FilePath × Node) := []
  /-- What keeps files from being written. -/
  barriers : List (Place × Barrier) := []

namespace Surroundings

def value? (s : Surroundings) (name : String) : Option String := s.environment.lookup name

/-- Why the working directory has no path, if it has none. -/
def directoryFault? (s : Surroundings) : Option Fault :=
  if s.tree.node? s.directory = some .directory then none else some .notFound

def isFile (s : Surroundings) (path : String) : Bool := s.tree.isFile s.directory path

def isThere (s : Surroundings) (path : String) : Bool := (s.tree.find s.directory path).isOk

def readText (s : Surroundings) (path : String) : Except Fault String :=
  s.tree.readText s.directory path

def readFile (s : Surroundings) (path : FilePath) : Except Fault String :=
  match path.text? with
  | some text => s.readText text
  | none =>
    match s.others.lookup path with
    | some node => node.text
    | none => .error .notFound

def home (s : Surroundings) : String :=
  match (s.value? "HOME").filter (· ≠ "") with
  | some directory => directory
  | none => s.accountHome

end Surroundings

inductive Source where
  | explicit (path : String)
  | project (path : String)
  | global (path : String)
  | builtin
  deriving DecidableEq, Repr

/-- The names of a project's configuration, the first of which is preferred. -/
def projectNames : List String := ["spec-hooks.toml", ".spec-hooks.toml"]

namespace Source

def path? : Source → Option String
  | explicit path => some path
  | project path => some path
  | global path => some path
  | builtin => none

def display : Source → String
  | explicit path => s!"{path} (--config)"
  | project path => s!"{path} (project)"
  | global path => s!"{path} (global)"
  | builtin => "built-in defaults"

/-- The files of the project; a working directory without a path has none. -/
def projectPaths (s : Surroundings) : List String :=
  if s.directoryFault?.isSome then []
  else projectNames.map (joinPath (pathText s.directory))

def globalPath (s : Surroundings) : String :=
  let directory := match s.value? "SPEC_HOOKS_CONFIG_DIR" with
    | some directory => directory
    | none => joinPath s.home ".spec-hooks"
  joinPath directory "config.toml"

/-- The configuration in effect. A file that the caller names need not be there. -/
def select (s : Surroundings) (named : Option String) : Source :=
  match named with
  | some path => explicit path
  | none =>
    match (projectPaths s).find? s.isFile with
    | some path => project path
    | none => if s.isFile (globalPath s) then global (globalPath s) else builtin

end Source

end EditGuard.Config
