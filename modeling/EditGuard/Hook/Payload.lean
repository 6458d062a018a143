import EditGuard.Fault
import EditGuard.Hook.Stream
import EditGuard.Json.Reader

/-! # Edit payloads

A payload describes an edit, as a JSON object with the path and the content of the edited file. Its
fields stand in the member `tool_input` or at the top; each is looked up on its own, and only
strings that are not empty count.
-/

namespace EditGuard.Hook

open Text

/-- What a hook looks at: the layers that an edit's imports cross, or the phase that it edits. -/
inductive Kind where
  | architecture
  | phaseReview
  deriving DecidableEq, Repr

namespace Kind

def name : Kind → String
  | architecture => "architecture"
  | phaseReview => "phase-review"

def all : List Kind := [architecture, phaseReview]

end Kind

/-- The bytes of a payload and what they decode to. -/
structure Payload where
  raw : Bytes
  document : Except Json.ReadError Json.Value

structure Target where
  path : String
  content : String
  deriving DecidableEq, Repr

structure PayloadError where
  fault : Fault
  deriving DecidableEq, Repr

def PayloadError.diagnostic (e : PayloadError) : Diagnostic where
  message := s!"failed to read hook payload: {e.fault.message}"
  code := "spec_hooks::payload::io"

/-- ASCII white space, form feed included. -/
def isBlankByte (b : UInt8) : Bool := b = 32 || b = 9 || b = 10 || b = 12 || b = 13

namespace Payload

def ofBytes (raw : Bytes) : Payload := ⟨raw, Json.read raw⟩

def receive (input : Input) : Except PayloadError Payload :=
  match input.fault with
  | some fault => .error ⟨fault⟩
  | none => .ok (ofBytes input.bytes)

def isBlank (p : Payload) : Bool := p.raw.all isBlankByte

/-- What is forwarded when the edit may pass: the payload itself, or an empty object for a blank
one. -/
def forwarded (p : Payload) : Bytes := if p.isBlank then toUtf8 "\x7b\x7d" else p.raw

def value? (p : Payload) : Option Json.Value := p.document.toOption

/-- A string member that is not empty. -/
def usable? (v : Json.Value) (name : String) : Option String :=
  ((v.get? name).bind Json.Value.string?).filter (· ≠ "")

def nested? (v : Json.Value) (name : String) : Option String :=
  (v.get? "tool_input").bind (usable? · name)

def path? (v : Json.Value) : Option String :=
  (nested? v "file_path").or (usable? v "file_path")

def content? (v : Json.Value) : Option String :=
  (nested? v "new_content").or ((nested? v "content").or (usable? v "content"))

def targetOf? (v : Json.Value) : Option Target := do
  let path ← path? v
  let content ← content? v
  some ⟨path, content⟩

def snippetOf? (v : Json.Value) : Option String :=
  (nested? v "new_string").or (usable? v "new_string")

def target? (p : Payload) : Option Target := p.value?.bind targetOf?

def snippet? (p : Payload) : Option String := p.value?.bind snippetOf?

end Payload

end EditGuard.Hook
