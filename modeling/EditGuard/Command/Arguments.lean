import EditGuard.Files.Tree
import EditGuard.Hook.Payload
import EditGuard.Text.Digit

/-! # Command-line arguments

Options stand before the name of a command, for all commands, or behind it. They are read from left
to right; the first that asks for help, asks for the version or is at fault ends the reading.
-/

namespace EditGuard.Command

open Files Hook Text

inductive Format where
  | text
  | json
  | compact
  deriving DecidableEq, Repr

namespace Format

def name : Format → String
  | text => "text"
  | json => "json"
  | compact => "compact"

def all : List Format := [text, json, compact]

def ofName? (s : String) : Option Format := all.find? (·.name == s)

end Format

inductive Task where
  | architecture
  | phaseReview (editLine : Option Nat)
  | check (paths : List FilePath) (format : Format)
  | listRules
  | init (force : Bool)
  deriving DecidableEq, Repr

/-- A command with the options that all commands share. -/
structure Invocation where
  verbose : Bool
  config : Option String
  task : Task
  deriving DecidableEq, Repr

inductive Switch where
  | verbose
  | config
  | editLine
  | format
  | force
  | help
  | version
  deriving DecidableEq, Repr

namespace Switch

def long : Switch → String
  | verbose => "verbose"
  | config => "config"
  | editLine => "edit-line"
  | format => "format"
  | force => "force"
  | help => "help"
  | version => "version"

def short? : Switch → Option Char
  | verbose => some 'v'
  | config => some 'c'
  | format => some 'f'
  | help => some 'h'
  | version => some 'V'
  | _ => none

def takesValue : Switch → Bool
  | config => true
  | editLine => true
  | format => true
  | _ => false

end Switch

inductive UsageFault where
  | unknown (argument : String)
  | missingValue (switch : Switch)
  | unwantedValue (switch : Switch)
  | invalidValue (switch : Switch) (value : String)
  | repeated (switch : Switch)
  | unwantedOperand (text : String)
  | emptyPath
  | noPaths
  | unknownCommand (name : String)
  | noCommand
  deriving DecidableEq, Repr

def UsageFault.message : UsageFault → String
  | unknown argument => s!"unexpected argument '{argument}' found"
  | missingValue switch => s!"a value is required for '--{switch.long}' but none was supplied"
  | unwantedValue switch => s!"unexpected value for '--{switch.long}' found"
  | invalidValue switch value => s!"invalid value '{value}' for '--{switch.long}'"
  | repeated switch => s!"the argument '--{switch.long}' cannot be used multiple times"
  | unwantedOperand text => s!"unexpected argument '{text}' found"
  | emptyPath => "a value is required for a path but none was supplied"
  | noPaths => "the following required arguments were not provided: <PATHS>..."
  | unknownCommand name => s!"unrecognized subcommand '{name}'"
  | noCommand => "a subcommand is required but none was provided"

inductive Stop where
  | help
  | version
  /-- There are no arguments at all. -/
  | nothing
  | usage (fault : UsageFault)
  deriving DecidableEq, Repr

/-! ## Pieces -/

/-- What an argument, or a letter of one, stands for. -/
inductive Piece where
  | flag (switch : Switch)
  | valued (switch : Switch) (value : String)
  | operand (text : String)
  /-- Two dashes, behind which there are no options. -/
  | escape
  | fault (f : UsageFault)
  deriving DecidableEq, Repr

def letters (known : List Switch) : List Char → List Piece × Option Switch
  | [] => ([], none)
  | c :: rest =>
    match known.find? (·.short? == some c) with
    | none => ([.fault (.unknown (String.ofList ['-', c]))], none)
    | some switch =>
      if switch.takesValue then
        match rest with
        | [] => ([], some switch)
        | '=' :: value => ([.valued switch (String.ofList value)], none)
        | value => ([.valued switch (String.ofList value)], none)
      else
        let (more, pending) := letters known rest
        (.flag switch :: more, pending)

def longOption (known : List Switch) (body : List Char) : List Piece × Option Switch :=
  let name := String.ofList (body.takeWhile (· ≠ '='))
  match known.find? (·.long == name), body.dropWhile (· ≠ '=') with
  | none, _ => ([.fault (.unknown (String.ofList ('-' :: '-' :: body)))], none)
  | some switch, [] =>
    if switch.takesValue then ([], some switch) else ([.flag switch], none)
  | some switch, _ :: value =>
    if switch.takesValue then ([.valued switch (String.ofList value)], none)
    else ([.fault (.unwantedValue switch)], none)

def argument (known : List Switch) (a : String) : List Piece × Option Switch :=
  match a.toList with
  | ['-', '-'] => ([.escape], none)
  | '-' :: '-' :: body => longOption known body
  | '-' :: c :: rest => letters known (c :: rest)
  | _ => ([.operand a], none)

def looksLikeOption (a : String) : Bool := a.startsWith "-" && 1 < a.length

/-- The pieces of all arguments, each with the arguments behind it. -/
def piecesOf (known : List Switch) : List String → List (Piece × List String)
  | [] => []
  | a :: rest =>
    match argument known a, rest with
    | (found, none), rest =>
      found.map (·, rest) ++
        if found = [.escape] then rest.map (.operand ·, []) else piecesOf known rest
    | (found, some switch), [] => found.map (·, []) ++ [(.fault (.missingValue switch), [])]
    | (found, some switch), v :: rest =>
      found.map (·, v :: rest) ++
        if looksLikeOption v then [(.fault (.missingValue switch), [])]
        else (.valued switch v, rest) :: piecesOf known rest

/-! ## Levels -/

structure Level where
  verbose : Bool := false
  config : Option String := none
  editLine : Option Nat := none
  format : Option Format := none
  force : Bool := false
  operands : List String := []
  deriving DecidableEq, Repr

/-- Line numbers have 64 bits. -/
def largestLine : Nat := 18446744073709551615

/-- A line number; a plus sign may stand before it. -/
def lineNumber? (value : String) : Option Nat :=
  let digits := match value.toList with
    | '+' :: digits => digits
    | digits => digits
  (decimal? digits).filter (· ≤ largestLine)

namespace Level

def refuse {α : Type} (f : UsageFault) : Except Stop α := .error (.usage f)

def enterFlag (l : Level) : Switch → Except Stop Level
  | .verbose => if l.verbose then refuse (.repeated .verbose) else .ok { l with verbose := true }
  | .force => if l.force then refuse (.repeated .force) else .ok { l with force := true }
  | .help => .error .help
  | .version => .error .version
  | switch => refuse (.missingValue switch)

def enterValue (l : Level) (value : String) : Switch → Except Stop Level
  | .config =>
    if l.config.isSome then refuse (.repeated .config)
    else if value.isEmpty then refuse (.invalidValue .config value)
    else .ok { l with config := some value }
  | .editLine =>
    if l.editLine.isSome then refuse (.repeated .editLine)
    else match lineNumber? value with
      | some n => .ok { l with editLine := some n }
      | none => refuse (.invalidValue .editLine value)
  | .format =>
    if l.format.isSome then refuse (.repeated .format)
    else match Format.ofName? value with
      | some f => .ok { l with format := some f }
      | none => refuse (.invalidValue .format value)
  | switch => refuse (.unwantedValue switch)

def enter (takesPaths : Bool) (l : Level) : Piece → Except Stop Level
  | .flag switch => l.enterFlag switch
  | .valued switch value => l.enterValue value switch
  | .operand text =>
    if !takesPaths then refuse (.unwantedOperand text)
    else if text.isEmpty then refuse .emptyPath
    else .ok { l with operands := l.operands ++ [text] }
  | .escape => .ok l
  | .fault f => refuse f

def ofArguments (known : List Switch) (takesPaths : Bool) (args : List String) :
    Except Stop Level :=
  (piecesOf known args).foldlM (fun l (piece, _) => l.enter takesPaths piece) {}

/-- Reads the arguments up to the name of the command, and yields it with those behind it. -/
def untilCommand : Level → List (Piece × List String) →
    Except Stop (Level × Option (String × List String))
  | l, [] => .ok (l, none)
  | l, (.operand name, rest) :: _ => .ok (l, some (name, rest))
  | l, (.escape, []) :: _ => .ok (l, none)
  | _, (.escape, a :: _) :: _ => refuse (.unwantedOperand a)
  | l, (piece, _) :: more => do
    let l ← l.enter false piece
    untilCommand l more

end Level

/-! ## Commands -/

inductive Verb where
  | hook (kind : Kind)
  | check
  | listRules
  | init
  deriving DecidableEq, Repr

namespace Verb

def name : Verb → String
  | hook kind => kind.name
  | check => "check"
  | listRules => "list-rules"
  | init => "init"

def all : List Verb := Kind.all.map hook ++ [check, listRules, init]

def ofName? (s : String) : Option Verb := all.find? (·.name == s)

def switches (v : Verb) : List Switch :=
  [.verbose, .config, .help] ++
    match v with
    | hook .phaseReview => [.editLine]
    | check => [.format]
    | init => [.force]
    | _ => []

def task (v : Verb) (behind : Level) : Except Stop Task :=
  match v with
  | hook .architecture => .ok .architecture
  | hook .phaseReview => .ok (.phaseReview behind.editLine)
  | check =>
    if behind.operands.isEmpty then Level.refuse .noPaths
    else .ok (.check (behind.operands.map .ofText) (behind.format.getD .text))
  | listRules => .ok .listRules
  | init => .ok (.init behind.force)

end Verb

def rootSwitches : List Switch := [.verbose, .config, .help, .version]

def helpName : String := "help"

def helpOn (topics : List String) : Stop :=
  match topics with
  | [] => .help
  | [topic] =>
    if topic == helpName || (Verb.ofName? topic).isSome then .help
    else .usage (.unknownCommand topic)
  | _ :: topic :: _ => .usage (.unknownCommand topic)

/-- The configuration that was named: behind the command, or else before it, or else by the
environment. An empty name there is refused wherever it would be looked at. -/
def namedConfig (root behind : Level) (environment : Option String) :
    Except Stop (Option String) :=
  if environment = some "" && (root.config.isNone || behind.config.isNone) then
    Level.refuse (.invalidValue .config "")
  else .ok (behind.config.or (root.config.or environment))

namespace Invocation

def ofVerb (root : Level) (environment : Option String) (name : String) (args : List String) :
    Except Stop Invocation :=
  match Verb.ofName? name with
  | none => Level.refuse (.unknownCommand name)
  | some verb => do
    let behind ← Level.ofArguments verb.switches (verb = .check) args
    let task ← verb.task behind
    let config ← namedConfig root behind environment
    pure ⟨root.verbose || behind.verbose, config, task⟩

/-- Reads the arguments; the environment may name a configuration too. -/
def ofArguments (args : List String) (environment : Option String) : Except Stop Invocation := do
  let (root, found) ← Level.untilCommand {} (piecesOf rootSwitches args)
  match found with
  | none =>
    if root = {} && environment.isNone then .error .nothing else Level.refuse .noCommand
  | some (name, rest) =>
    if name = helpName then .error (helpOn rest) else ofVerb root environment name rest

end Invocation

def namesHook (args : List String) : Bool := args.any fun a => Kind.all.any (·.name == a)

end EditGuard.Command
