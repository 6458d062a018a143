import EditGuard.Review.Marker
import EditGuard.Review.Phase

/-! # Phased documents

A marker belongs to the phase that owns its position. The last marker of a phase number decides
its status; markers before the first heading belong to none.
-/

namespace EditGuard.Review

open Text

/-- Phase numbers with their deciding marker, each number once. -/
abbrev StatusTable := List (Nat × Marker)

namespace StatusTable

def record (table : StatusTable) (number : Nat) (m : Marker) : StatusTable :=
  (number, m) :: table.filter (·.1 ≠ number)

def marker? (table : StatusTable) (number : Nat) : Option Marker := table.lookup number

theorem marker?_record (table : StatusTable) (number n : Nat) (m : Marker) :
    (table.record number m).marker? n = if n = number then some m else table.marker? n := by
  unfold record marker?
  by_cases h : n = number
  · simp [h]
  · have hb : (n == number) = false := beq_eq_false_iff_ne.2 h
    simp only [List.lookup_cons, hb, h, if_false]
    induction table with
    | nil => rfl
    | cons entry table ih =>
      obtain ⟨k, marker⟩ := entry
      by_cases hk : k = number
      · subst hk
        simpa [List.lookup_cons, hb] using ih
      · simp only [List.filter_cons, ne_eq, hk, not_false_eq_true, decide_true, if_true,
          List.lookup_cons, ih]

end StatusTable

structure Document where
  lines : LineIndex
  outline : Outline
  table : StatusTable

namespace Document

def enter (outline : Outline) (table : StatusTable) (m : Marker) : StatusTable :=
  match outline.ownerAt? m.location.offset with
  | some phase => table.record phase.number m
  | none => table

def ofText (t : List Char) : Document :=
  let lines := LineIndex.ofText t
  let outline := Outline.ofText lines t
  { lines, outline, table := (Marker.all lines t).foldl (enter outline) [] }

def statusOf? (d : Document) (number : Nat) : Option Status :=
  (d.table.marker? number).map (·.status)

/-- The markers of a text that no phase owns. -/
def strayMarkers (t : List Char) : List Marker :=
  let lines := LineIndex.ofText t
  let outline := Outline.ofText lines t
  (Marker.all lines t).filter fun m => (outline.ownerAt? m.location.offset).isNone

end Document

end EditGuard.Review
