import EditGuard.Review.Document
import EditGuard.Review.Policy
import EditGuard.Time.Instant

/-! # The phase gate

An edit of phase `n` needs every phase from 1 to `n - 1` approved. Without a hint the edited phase
is the one with the highest number.
-/

namespace EditGuard.Review

open Text Time

def requiredStatus : Status := .approved

/-- Where an edit happens: a line counted from one, or a byte offset. -/
inductive EditHint where
  | line (n : Nat)
  | offset (n : Nat)
  deriving DecidableEq, Repr

namespace EditHint

/-- The phase that owns the hinted position. Line zero counts as line one, and a line behind the
document belongs to its last phase. -/
def owner? (d : Document) : EditHint → Option Phase
  | .line n =>
    match d.lines.lineStart? (max n 1) with
    | some start => d.outline.ownerAt? start
    | none => d.outline.phases.getLast?
  | .offset n => d.outline.ownerAt? n

end EditHint

inductive AllowReason where
  | notGated
  | noPhases
  | outsidePhases
  | firstPhase
  | priorPhasesApproved
  deriving DecidableEq, Repr

/-- A refused edit: the phase it edits, the lowest earlier phase without approval and the status
of that one. -/
structure Blocked where
  editing : Nat
  blocking : Nat
  status : Option Status
  deriving DecidableEq, Repr

inductive Decision where
  | allow (reason : AllowReason)
  | deny (blocked : Blocked)
  deriving DecidableEq, Repr

def Decision.isAllowed : Decision → Bool
  | .allow _ => true
  | .deny _ => false

namespace Document

def isApproved (d : Document) (number : Nat) : Bool := d.statusOf? number == some requiredStatus

/-- The lowest phase number from 1 up to a bound, exclusive, that is not approved. The table
bounds the search: a number of phases greater than its size is not approved throughout. -/
def lowestUnapproved? (d : Document) (bound : Nat) : Option Nat :=
  (List.range' 1 (min (bound - 1) (d.table.length + 1))).find? (!d.isApproved ·)

def decide (d : Document) (hint : Option EditHint) : Decision :=
  if d.outline.isEmpty then .allow .noPhases
  else
    let edited := match hint with
      | some h => h.owner? d
      | none => d.outline.highest?
    match edited with
    | none => .allow .outsidePhases
    | some phase =>
      if phase.number ≤ 1 then .allow .firstPhase
      else match d.lowestUnapproved? phase.number with
        | some number => .deny ⟨phase.number, number, d.statusOf? number⟩
        | none => .allow .priorPhasesApproved

end Document

namespace GatedDocuments

def evaluate (gated : GatedDocuments) (path content : List Char) (hint : Option EditHint) :
    Decision :=
  if gated.contains path then (Document.ofText content).decide hint else .allow .notGated

end GatedDocuments

namespace Blocked

def statusName (b : Blocked) : String := (b.status.map Status.name).getD "unmarked"

/-- The marker line that approves the blocking phase, for a reviewer to be filled in. -/
def template (now : Instant) (reviewer : String) : String :=
  "<!-- REVIEW STATUS: " ++ requiredStatus.name ++ " - " ++ now.stamp ++ " - " ++ reviewer ++
    " -->"

def message (b : Blocked) (now : Instant) : String :=
  s!"⚠️ Phase review gate: Phase {b.blocking} must pass human review before " ++
  s!"Phase {b.editing} can be edited\n\n" ++
  s!"Current Phase {b.blocking} status: {b.statusName}\n" ++
  s!"Required status: {requiredStatus.name}\n\n" ++
  s!"Add the approval marker under the Phase {b.blocking} heading:\n" ++
  template now "\x7breviewer\x7d" ++ "\n" ++
  "Review comments: \x7breview_comments\x7d"

end Blocked

end EditGuard.Review
