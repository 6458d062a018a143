import EditGuard.Command.Run
import Std.Time.DateTime.Timestamp

/-! # The program

Takes a picture of the files that the arguments may lead to, runs on it and carries out what the run
decided.
-/

namespace EditGuard

open Command Config Files Hook

def faultOf : IO.Error → Fault
  | .noFileOrDirectory _ _ _ => .notFound
  | .noSuchThing _ _ _ => .notFound
  | .permissionDenied _ _ _ => .permissionDenied
  | .inappropriateType _ code _ => if code = 20 then .notADirectory else .isADirectory
  | .resourceExhausted _ _ _ => .noSpace
  | e => .other (toString e)

def nodeAt? (place : Place) : IO (Option Node) := do
  try
    let bytes ← IO.FS.readBinFile (pathText place)
    pure (some (.file bytes.toList))
  catch e =>
    match faultOf e with
    | .notFound => pure none
    | .notADirectory => pure none
    | .isADirectory => pure (some .directory)
    | fault => pure (some (.locked fault))

def picture (t : Tree) (place : Place) : List String → IO Tree
  | [] => pure t
  | step :: steps =>
    if step = "." then picture t place steps
    else if step = ".." then picture t place.dropLast steps
    else do
      match ← nodeAt? (place ++ [step]) with
      | none => pure t
      | some node => picture (t.plant (place ++ [step]) node) (place ++ [step]) steps

/-- Adds what a path passes through, seen from a directory. -/
def pictureOf (directory : Place) (t : Tree) (path : String) : IO Tree :=
  picture t (if path.startsWith "/" then [] else directory) (pathSteps path)

def workingDirectory : IO Place := do
  try
    let path ← IO.currentDir
    pure ((pathSteps (toString path)).filter (· ≠ "."))
  catch _ => pure ["removed"]

def variableNames : List String :=
  ["HOME", "SPEC_HOOKS_CONFIG", "SPEC_HOOKS_CONFIG_DIR", "SPEC_HOOKS_LOG"]

def currentEnvironment : IO (List (String × String)) :=
  variableNames.filterMapM fun name => do
    pure ((← IO.getEnv name).map fun text => (name, text))

def pathsOf (s : Surroundings) (args : List String) : List String :=
  match Invocation.ofArguments args (s.value? "SPEC_HOOKS_CONFIG") with
  | .error _ => []
  | .ok i =>
    let files := match i.task with
      | .check paths _ => paths.filterMap (·.text?)
      | _ => []
    i.config.toList ++ projectNames ++ [Source.globalPath s] ++ files

partial def readAll (stream : IO.FS.Stream) (done : Text.Bytes) : IO Input := do
  try
    let chunk ← stream.read 65536
    if chunk.isEmpty then pure ⟨done, none⟩ else readAll stream (done ++ chunk.toList)
  catch e => pure ⟨done, some (faultOf e)⟩

/-- The host of this run; only hooks read their input. -/
def currentHost (args : List String) : IO Host := do
  let directory ← workingDirectory
  let environment ← currentEnvironment
  let bare : Surroundings := { tree := ⟨[]⟩, directory, environment, accountHome := "/" }
  let tree ← picture ⟨[]⟩ [] directory
  let tree ← (pathsOf bare args).foldlM (pictureOf directory) tree
  let stdin ← if namesHook args then readAll (← IO.getStdin) [] else pure ⟨[], none⟩
  let now ← Std.Time.Timestamp.now
  pure { tree, directory, environment, accountHome := bare.accountHome, stdin
         now := ⟨now.toMillisecondsSinceUnixEpoch.toInt⟩ }

def carryOut (before after : Tree) : IO Unit :=
  after.entries.forM fun (place, node) =>
    match node with
    | .file bytes =>
      if before.node? place = some node then pure ()
      else IO.FS.writeBinFile (pathText place) ⟨bytes.toArray⟩
    | _ => pure ()

def put (stream : IO.FS.Stream) (bytes : Text.Bytes) : IO (Option Fault) := do
  try
    stream.write ⟨bytes.toArray⟩
    stream.flush
    pure none
  catch e => pure (some (faultOf e))

/-- Runs the program. When an output takes nothing, what a run does then counts instead. -/
def program (args : List String) : IO UInt32 := do
  let host ← currentHost args
  let stderr ← IO.getStderr
  let host := match ← put stderr (host.run args).stderr.written with
    | none => host
    | some _ => { host with stderr := ⟨[], some 0⟩ }
  let finish := host.run args
  try
    carryOut host.tree finish.tree
    match ← put (← IO.getStdout) finish.stdout.written with
    | none => pure finish.code.toUInt32
    | some _ =>
      let again := Host.run { host with stdout := ⟨[], some 0⟩ } args
      let _ ← put stderr (again.stderr.written.drop finish.stderr.written.length)
      pure again.code.toUInt32
  catch e =>
    let _ ← put stderr (host.fail host.stderr ⟨(faultOf e).message, none⟩).stderr.written
    pure failureCode.toUInt32

end EditGuard

def main (args : List String) : IO UInt32 := EditGuard.program args
