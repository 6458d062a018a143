import EditGuard.Log.Event
import EditGuard.Text.Digit
import EditGuard.Text.Word

/-! # Log filters

A filter is a list of directives such as `warn`, `spec_hooks_review=debug` or `[{file}]=debug`.
Of those that fit an event the most specific decides.
-/

namespace EditGuard.Log

open Text

structure Directive where
  target : Option (List Char) := none
  /-- The highest rank that is let through. -/
  threshold : Nat
  /-- The name of a field that the events have. -/
  field : Option (List Char) := none
  /-- Whether it is for events within a span of some name, or with some value of a field. There are
  no spans, so that it never fits. -/
  needsSpan : Bool := false
  deriving DecidableEq, Repr

abbrev Filter := List Directive

namespace Directive

/-- The rank that a level names, by number or by word in any case; zero lets nothing through. -/
def rank? (word : List Char) : Option Nat :=
  let digits := match word with
    | '+' :: rest => rest
    | _ => word
  match decimal? digits with
  | some n => if n ≤ 5 then some n else none
  | none =>
    let word := word.map Char.toUpper
    if word = "OFF".toList then some 0
    else (Level.all.find? (·.name.toList = word)).map (·.rank)

def threshold? (word : List Char) : Option Nat :=
  if word.isEmpty then some Level.trace.rank else rank? word

/-- What may follow a target: nothing, or an equals sign and a level. -/
def levelPart? : List Char → Option Nat
  | [] => some Level.trace.rank
  | c :: word => if c = '=' then threshold? word else none

/-- The part in brackets: the name of a span, then a field in braces. It makes a directive without
target or level; the text behind it is left. -/
def bracketed? (t : List Char) : Option (Directive × List Char) := do
  let isEnd (c : Char) : Bool := c = ']' || c = '\x7b'
  let span := t.takeWhile (!isEnd ·)
  let ofSpan : Directive := { threshold := Level.trace.rank, needsSpan := true }
  match t.dropWhile (!isEnd ·) with
  | [] => none
  | c :: rest =>
    -- brackets without braces name a span, if only an empty one
    if c = ']' then some (ofSpan, rest)
    else
      let field := rest.takeWhile (· ≠ '\x7d')
      let left ← List.isPrefixOf? ['\x7d', ']'] (rest.dropWhile (· ≠ '\x7d'))
      if field.isEmpty then none
      else if span.isEmpty && !field.contains '=' then
        some ({ threshold := Level.trace.rank, field := some field }, left)
      else some (ofSpan, left)

def startsTarget (c : Char) : Bool := isWord c || c = '-' || c = ':'

def ofText? (t : List Char) : Option Directive :=
  let isMark (c : Char) : Bool := c = '=' || c = '['
  let target := t.takeWhile (!isMark ·)
  match t.dropWhile (!isMark ·) with
  | [] =>
    if !(target.head?.any startsTarget) then none
    else match rank? target with
      | some rank => some { threshold := rank }
      | none => some { target := some target, threshold := Level.trace.rank }
  | c :: rest =>
    if !target.isEmpty && !(target.head?.any startsTarget) then none
    else if c = '=' then
      if target.isEmpty then none
      else (threshold? rest).map fun rank => { target := some target, threshold := rank }
    else do
      let (directive, rest) ← bracketed? rest
      let rank ← levelPart? rest
      some { directive with
        target := if target.isEmpty then none else some target, threshold := rank }

def fits (d : Directive) (e : Event) : Bool :=
  !d.needsSpan && d.target.all (·.isPrefixOf e.target.toList) &&
    d.field.all fun field => e.fieldNames.any (·.toList = field)

def weight (d : Directive) : Nat :=
  match d.target with
  | none => 0
  | some target => target.length + 1

/-- A longer target is more specific, and of equal targets a field, the later in order the more. -/
def yieldsTo (d e : Directive) : Bool :=
  let isBehind := (e.field.getD []).lex (d.field.getD []) fun c c' => c.toNat < c'.toNat
  d.weight < e.weight || d.weight = e.weight && !isBehind

end Directive

namespace Filter

def nothing : Filter := [{ threshold := 0 }]

def verbose : Filter := [{ threshold := Level.debug.rank }]

/-- A text without directives asks for errors. -/
def ofText? (text : String) : Option Filter := do
  let words := (text.toList.splitOn ',').filter (!·.isEmpty)
  let directives ← words.mapM Directive.ofText?
  some (if directives.isEmpty then [{ threshold := Level.error.rank }] else directives)

/-- The directive that decides on an event, the last of those that are equally specific. -/
def directive? (f : Filter) (e : Event) : Option Directive :=
  (f.filter (·.fits e)).foldl (fun best d =>
    match best with
    | none => some d
    | some b => if b.yieldsTo d then some d else some b) none

def lets (f : Filter) (e : Event) : Bool :=
  match f.directive? e with
  | some d => e.level.rank ≤ d.threshold
  | none => false

end Filter

end EditGuard.Log
