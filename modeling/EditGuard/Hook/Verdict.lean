import EditGuard.Hook.Outcome
import EditGuard.Layers.Advisory
import EditGuard.Log.Event
import EditGuard.Text.Scan

/-! # What the hooks decide

A verdict is an outcome with the events on the way to it. What a hook cannot judge passes.
-/

namespace EditGuard.Hook

open Config Layers Log Review Text Time

structure Verdict where
  outcome : Outcome
  events : List Event

/-! ## Layers -/

def layerEvents (path : String) : Option Report → List Event
  | none => [.noLayer path]
  | some r => [.layersChecked r]

def layerOutcome (found : Option Report) : Outcome :=
  match found.bind (·.advisory?) with
  | some advisory => .advise advisory
  | none => .pass

/-- Violations are advised on; no edit is refused for them. -/
def judgeLayers (settings : Settings) (p : Payload) : Verdict :=
  match p.target? with
  | none => ⟨.pass, [.noTarget .architecture]⟩
  | some target =>
    let found := settings.rulesets.check target.path target.content.toList
    ⟨layerOutcome found, layerEvents target.path found⟩

/-! ## Phases -/

/-- What is logged of a gate decision; of a file that is not gated, nothing. -/
def gateEvents (gated : GatedDocuments) (path : String) (content : List Char)
    (decision : Decision) : List Event :=
  if gated.contains path.toList then
    (Document.strayMarkers content).map (fun m => .strayMarker m.location.line) ++
      [.gateDecided path decision]
  else []

def uniqueOffset? (content snippet : List Char) : Option Nat :=
  match occurrences snippet content with
  | [offset] => some offset
  | _ => none

/-- Where the edit happens: at the line given, or else where the snippet of the payload is. -/
def hint? (editLine : Option Nat) (p : Payload) (content : List Char) : Option EditHint :=
  match editLine with
  | some n => some (.line n)
  | none => (p.snippet?.bind fun s => uniqueOffset? content s.toList).map .offset

def hintEvents (editLine : Option Nat) (p : Payload) (content : List Char) : List Event :=
  match editLine, p.snippet? with
  | none, some s => if 2 ≤ (occurrences s.toList content).length then [.snippetRepeated] else []
  | _, _ => []

def gateOutcome (now : Instant) : Decision → Outcome
  | .allow _ => .pass
  | .deny b => .deny (b.message now)

def judgePhases (editLine : Option Nat) (now : Instant) (settings : Settings) (p : Payload) :
    Verdict :=
  match p.target? with
  | none => ⟨.pass, [.noTarget .phaseReview]⟩
  | some target =>
    match GatedDocuments.compile settings.policy.documents with
    | .error e => ⟨.pass, [.policyRefused e]⟩
    | .ok gated =>
      let content := target.content.toList
      let decision := gated.evaluate target.path.toList content (hint? editLine p content)
      ⟨gateOutcome now decision,
        hintEvents editLine p content ++ gateEvents gated target.path content decision⟩

end EditGuard.Hook
