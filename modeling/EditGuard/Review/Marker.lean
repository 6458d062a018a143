import EditGuard.Text.Basic
import EditGuard.Text.Blank
import EditGuard.Text.Position
import EditGuard.Text.Scan
import EditGuard.Text.Word
import EditGuard.Review.Status

/-! # Status markers

A marker is a comment `<!-- REVIEW STATUS: word -->` on one line, with an optional free context
after a dash. A dash behind the status opens a context whenever a closing `-->` follows it on the
line; only otherwise does it belong to the closing itself.
-/

namespace EditGuard.Review

open Text

/-- A marker as written: its status word and its context. -/
structure MarkerText where
  word : List Char
  context : Option (List Char)
  deriving DecidableEq, Repr

namespace MarkerText

def opening : List Char := ['<', '!', '-', '-']

def closing : List Char := ['-', '-', '>']

/-- The status words, in the order in which they are tried. -/
def words : List (List Char) :=
  [Status.approved, Status.draft, Status.reviewing, Status.rejected].map fun s =>
    s.name.toList.map Char.toLower

def word? (t : List Char) : Option (List Char × List Char) :=
  words.findSome? fun w => do
    let rest ← dropFolded? w t
    if startsAfterWord rest then some (t.take w.length, rest) else none

def close? (t : List Char) : Option (List Char) := List.isPrefixOf? closing (t.dropWhile isGap)

/-- The shortest context that a closing on the same line ends, and the text behind the closing. -/
def contextUntilClose? : List Char → Option (List Char × List Char)
  | [] => none
  | c :: rest =>
    match close? (c :: rest) with
    | some left => some ([], left)
    | none =>
      if c = '\n' then none
      else (contextUntilClose? rest).map fun (context, left) => (c :: context, left)

/-- What may follow the status word: a dash with a context, or nothing, and then the closing. -/
def ending? (t : List Char) : Option (Option (List Char) × List Char) :=
  let plain := (close? t).map fun left => (none, left)
  match t.dropWhile isGap with
  | '-' :: rest =>
    match contextUntilClose? (rest.dropWhile isGap) with
    | some (context, left) => some (some context, left)
    | none => plain
  | _ => plain

def recogniser : Recogniser MarkerText := fun _ t => do
  let t ← List.isPrefixOf? opening t
  let t ← dropFolded? "review".toList (t.dropWhile isGap)
  let t ← dropGap? t
  let t ← dropFolded? "status:".toList t
  let (word, t) ← word? (t.dropWhile isGap)
  let (context, t) ← ending? t
  some (⟨word, context⟩, t)

/-- The context without surrounding white space, unless nothing is left of it. -/
def note (m : MarkerText) : Option (List Char) :=
  (m.context.map trim).filter (!·.isEmpty)

end MarkerText

structure Marker where
  status : Status
  context : Option (List Char)
  location : Location
  deriving DecidableEq, Repr

namespace Marker

def ofHit? (lines : LineIndex) (hit : Hit MarkerText) : Option Marker :=
  (Status.ofName? hit.value.word).map fun status =>
    { status, context := hit.value.note, location := lines.location hit.offset }

def all (lines : LineIndex) (t : List Char) : List Marker :=
  (MarkerText.recogniser.scan t).filterMap (ofHit? lines)

end Marker

end EditGuard.Review
