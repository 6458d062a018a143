import EditGuard.Proofs.Review.HeadingGrammar
import EditGuard.Proofs.Review.MarkerGrammar
import EditGuard.Proofs.Text.WholeLines
import EditGuard.Review.Document
import Mathlib.Data.List.Basic

/-! # Which phase a marker counts for

Headings stand in ascending order, so the owner of a position is the last heading at or before it
in the whole outline, and the status of a number is that of the last marker credited to it. Both
are read off a text line by line: the headings and credits of two runs of whole lines are those of
the first and those of the second, whose leading markers fall to the last heading of the first.
-/

namespace EditGuard.Review

open Text

/-! ## Headings -/

def headings (t : List Char) : List (Nat × Nat) :=
  (HeadingText.recogniser.scan t).filterMap fun hit => hit.value.number?.map (hit.offset, ·)

/-- The number of the last heading at or before an offset. -/
def numberAt? (t : List Char) (offset : Nat) : Option Nat :=
  ((headings t).filter (·.1 ≤ offset)).getLast?.map (·.2)

theorem offset_of_ofHit? {t : List Char} {hit : Hit HeadingText} {p : Phase}
    (hm : hit ∈ HeadingText.recogniser.scan t)
    (h : Phase.ofHit? (LineIndex.ofText t) hit = some p) :
    p.location.offset = hit.offset ∧ hit.value.number? = some p.number := by
  obtain ⟨number, hnumber, rfl⟩ := Option.map_eq_some_iff.1 h
  have hlt := Recogniser.offset_lt_of_mem_scan HeadingText.recogniser_consumes hm
  exact ⟨Nat.min_eq_left (Nat.le_of_lt hlt), hnumber⟩

theorem map_phases (t : List Char) :
    (Outline.ofText (LineIndex.ofText t) t).phases.map (fun p => (p.location.offset, p.number)) =
      headings t := by
  unfold Outline.ofText headings
  rw [List.map_filterMap]
  refine List.filterMap_congr ?_
  intro hit hm
  cases hp : Phase.ofHit? (LineIndex.ofText t) hit with
  | none =>
    rw [Phase.ofHit?, Option.map_eq_none_iff] at hp
    simp [hp]
  | some p =>
    obtain ⟨hoff, hnumber⟩ := offset_of_ofHit? hm hp
    simp [hnumber, hoff]

theorem map_phases_number (t : List Char) :
    (Document.ofText t).outline.phases.map (·.number) = (headings t).map (·.2) := by
  have h := congrArg (List.map Prod.snd) (map_phases t)
  rw [List.map_map] at h
  exact h

theorem headings_ascending (t : List Char) :
    (headings t).Pairwise fun a b => a.1 < b.1 := by
  refine List.Pairwise.filterMap _ ?_
    (Recogniser.scan_ascending HeadingText.recogniser_consumes t)
  intro hit hit' hlt a ha b hb
  obtain ⟨n, -, rfl⟩ := Option.map_eq_some_iff.1 ha
  obtain ⟨n', -, rfl⟩ := Option.map_eq_some_iff.1 hb
  exact hlt

theorem phases_ascending (t : List Char) :
    (Outline.ofText (LineIndex.ofText t) t).phases.Pairwise fun p q =>
      p.location.offset < q.location.offset := by
  have h := headings_ascending t
  rw [← map_phases, List.pairwise_map] at h
  exact h

theorem ownerAt?_eq (t : List Char) (offset : Nat) :
    (Outline.ofText (LineIndex.ofText t) t).ownerAt? offset =
      ((Outline.ofText (LineIndex.ofText t) t).phases.filter
        (·.location.offset ≤ offset)).getLast? := by
  have h := takeWhile_eq_filter (fun p : Phase => p.location.offset) offset (phases_ascending t)
  rw [Outline.ownerAt?, h]

theorem getLast?_filter_eq_findRev? {α : Type} (f : α → Bool) (xs : List α) :
    (xs.filter f).getLast? = xs.findRev? f := by
  rw [List.getLast?_filter, List.findRev?_eq_find?_reverse]

/-- The owner is the first heading met on the way back. -/
theorem ownerAt?_eq_findRev? (t : List Char) (offset : Nat) :
    (Document.ofText t).outline.ownerAt? offset =
      (Document.ofText t).outline.phases.findRev? (·.location.offset ≤ offset) :=
  (ownerAt?_eq t offset).trans (getLast?_filter_eq_findRev? _ _)

theorem map_ownerAt? (t : List Char) (offset : Nat) :
    ((Outline.ofText (LineIndex.ofText t) t).ownerAt? offset).map (·.number) =
      numberAt? t offset := by
  rw [ownerAt?_eq, numberAt?, ← map_phases, List.filter_map, List.getLast?_map, Option.map_map]
  rfl

/-! ## Credits -/

/-- What a marker says, and the number of the phase that it says it of. -/
structure Credit where
  number : Option Nat
  status : Status
  context : Option (List Char)
  deriving DecidableEq, Repr

def Credit.ofMarker (outline : Outline) (m : Marker) : Credit :=
  ⟨(outline.ownerAt? m.location.offset).map (·.number), m.status, m.context⟩

/-- The credit of a marker that no heading of its own text owns goes to the number before. -/
def Credit.under (number : Option Nat) (c : Credit) : Credit :=
  { c with number := c.number.or number }

def credits (t : List Char) : List Credit :=
  (MarkerText.recogniser.scan t).filterMap fun hit =>
    (Status.ofName? hit.value.word).map fun status =>
      ⟨numberAt? t hit.offset, status, hit.value.note⟩

theorem marker_of_ofHit? {t : List Char} {hit : Hit MarkerText} {m : Marker}
    (hm : hit ∈ MarkerText.recogniser.scan t)
    (h : Marker.ofHit? (LineIndex.ofText t) hit = some m) :
    m.location.offset = hit.offset ∧ Status.ofName? hit.value.word = some m.status ∧
      m.context = hit.value.note := by
  obtain ⟨status, hstatus, rfl⟩ := Option.map_eq_some_iff.1 h
  have hlt := Recogniser.offset_lt_of_mem_scan MarkerText.recogniser_consumes hm
  exact ⟨Nat.min_eq_left (Nat.le_of_lt hlt), hstatus, rfl⟩

theorem markers_ascending (t : List Char) :
    (Marker.all (LineIndex.ofText t) t).Pairwise fun m m' =>
      m.location.offset < m'.location.offset := by
  refine List.pairwise_filterMap.2 ?_
  refine (Recogniser.scan_ascending MarkerText.recogniser_consumes t).imp_of_mem ?_
  intro hit hit' hm hm' hlt m h m' h'
  rw [(marker_of_ofHit? hm h).1, (marker_of_ofHit? hm' h').1]
  exact hlt

theorem map_markers (t : List Char) :
    (Marker.all (LineIndex.ofText t) t).map
      (Credit.ofMarker (Outline.ofText (LineIndex.ofText t) t)) = credits t := by
  unfold Marker.all credits
  rw [List.map_filterMap]
  refine List.filterMap_congr ?_
  intro hit hm
  cases hp : Marker.ofHit? (LineIndex.ofText t) hit with
  | none =>
    rw [Marker.ofHit?, Option.map_eq_none_iff] at hp
    simp [hp]
  | some m =>
    obtain ⟨hoff, hstatus, hcontext⟩ := marker_of_ofHit? hm hp
    simp [hstatus, Credit.ofMarker, map_ownerAt?, hoff, hcontext]

theorem map_all (t : List Char) :
    (Marker.all (LineIndex.ofText t) t).map (fun m => (m.status, m.context)) =
      (credits t).map fun c => (c.status, c.context) := by
  rw [← map_markers, List.map_map]
  rfl

namespace Document

theorem marker?_enter (outline : Outline) (table : StatusTable) (m : Marker) (n : Nat) :
    (enter outline table m).marker? n =
      if (outline.ownerAt? m.location.offset).map (·.number) = some n then some m
      else table.marker? n := by
  unfold enter
  cases outline.ownerAt? m.location.offset with
  | none => simp
  | some p => simp [StatusTable.marker?_record, eq_comm]

theorem marker?_foldl_enter (outline : Outline) (markers : List Marker) (table : StatusTable)
    (n : Nat) :
    (markers.foldl (enter outline) table).marker? n =
      ((markers.filter fun m =>
        (outline.ownerAt? m.location.offset).map (·.number) = some n).getLast?).or
        (table.marker? n) := by
  induction markers generalizing table with
  | nil => simp
  | cons m markers ih =>
    rw [List.foldl_cons, ih, marker?_enter, List.filter_cons]
    by_cases h : (outline.ownerAt? m.location.offset).map (·.number) = some n
    · simp [h, List.getLast?_cons]
    · simp [h]

/-- The deciding marker of a number is the last one that a phase of the number owns. -/
theorem marker?_ofText (t : List Char) (n : Nat) :
    (ofText t).table.marker? n = ((Marker.all (LineIndex.ofText t) t).filter fun m =>
      ((Outline.ofText (LineIndex.ofText t) t).ownerAt? m.location.offset).map (·.number) =
        some n).getLast? := by
  have h := marker?_foldl_enter (Outline.ofText (LineIndex.ofText t) t)
    (Marker.all (LineIndex.ofText t) t) [] n
  simpa [ofText, StatusTable.marker?] using h

/-- The deciding marker says what the last credit of the number says. -/
theorem map_marker?_ofText (t : List Char) (n : Nat) :
    ((ofText t).table.marker? n).map (fun m => (m.status, m.context)) =
      ((credits t).filter (·.number = some n)).getLast?.map fun c => (c.status, c.context) := by
  rw [marker?_ofText, ← map_markers, List.filter_map, List.getLast?_map, Option.map_map]
  rfl

theorem statusOf?_ofText (t : List Char) (n : Nat) :
    (ofText t).statusOf? n =
      ((credits t).filter (·.number = some n)).getLast?.map (·.status) := by
  have h := congrArg (Option.map Prod.fst) (map_marker?_ofText t n)
  rw [Option.map_map, Option.map_map] at h
  exact h

end Document

/-! ## Single lines -/

theorem headings_eq_map_digits (t : List Char) :
    headings t = ((HeadingText.recogniser.scan t).map
      fun hit => (hit.offset, hit.value.digits)).filterMap fun (offset, digits) =>
        (HeadingText.number? ⟨digits, []⟩).map (offset, ·) := by
  rw [List.filterMap_map]
  rfl

/-- A line has at most one heading, at its start. -/
theorem headings_line {line : List Char} (h : '\n' ∉ line.dropLast) :
    headings line = (((HeadingText.digitsOfLine? line).bind
      fun digits => HeadingText.number? ⟨digits, []⟩).map (0, ·)).toList := by
  rw [headings_eq_map_digits, HeadingText.scan_line h]
  cases HeadingText.digitsOfLine? line with
  | none => rfl
  | some digits =>
    cases hn : HeadingText.number? ⟨digits, []⟩ with
    | none => simp [hn]
    | some n => simp [hn]

theorem headings_newline {line : List Char} (h : '\n' ∉ line) :
    headings (line ++ ['\n']) = headings line := by
  have hdrop := newline_not_mem_dropLast h (Or.inr rfl)
  have hdrop' := newline_not_mem_dropLast h (Or.inl rfl)
  rw [List.append_nil] at hdrop'
  rw [headings_line hdrop, headings_line hdrop', HeadingText.digitsOfLine?_newline h]

theorem headings_eq_nil {line : List Char} (h : '\n' ∉ line.dropLast)
    (hhead : line.head? ≠ some '#') : headings line = [] := by
  rw [headings_line h, HeadingText.digitsOfLine?_eq_none hhead]
  rfl

theorem credits_eq_nil {t : List Char} (h : ¬ MarkerText.opening <:+: t) : credits t = [] := by
  simp [credits, MarkerText.scan_eq_nil h]

/-- A line that one marker fills has no heading, and the marker is its only one. -/
theorem credits_line {word opener : List Char} {s : Status} {context : Option (List Char)}
    {body tail : List Char} (hopener : MarkerText.Opener word opener)
    (hstatus : Status.ofName? word = some s) (hend : MarkerText.Ending context body [])
    (htail : tail = [] ∨ tail = ['\n']) :
    headings (opener ++ body ++ tail) = [] ∧
      credits (opener ++ body ++ tail) = [⟨none, s, MarkerText.note ⟨word, context⟩⟩] := by
  obtain ⟨rest, hhead⟩ := hopener.head
  have hno : '\n' ∉ opener ++ body := MarkerText.newline_not_mem_marker hopener hend
  have hline : '\n' ∉ (opener ++ body ++ tail).dropLast := newline_not_mem_dropLast hno htail
  have hnil := headings_eq_nil hline (by simp [hhead])
  refine ⟨hnil, ?_⟩
  rw [credits, MarkerText.scan_marker hopener hend htail]
  simp only [numberAt?, hnil]
  simp [hstatus]

theorem credits_marker (s : Status) {context : Option (List Char)} {body tail : List Char}
    (hend : MarkerText.Ending context body []) (htail : tail = [] ∨ tail = ['\n']) :
    headings (MarkerText.plainOpener s ++ body ++ tail) = [] ∧
      credits (MarkerText.plainOpener s ++ body ++ tail) =
        [⟨none, s, MarkerText.note ⟨s.name.toList, context⟩⟩] :=
  credits_line (MarkerText.opener_plain s) (Status.ofName?_name s) hend htail

/-! ## The seam -/

theorem headings_append {s : List Char} (hs : WholeLines s) (t : List Char) :
    headings (s ++ t) =
      headings s ++ (headings t).map fun (offset, n) => (byteLength s + offset, n) := by
  unfold headings
  rw [HeadingText.recogniser_lineBound.scan_append hs, List.filterMap_append, List.filterMap_map,
    List.map_filterMap]
  congr 1
  refine List.filterMap_congr ?_
  intro hit _
  cases hnumber : hit.value.number? <;> simp [hnumber]

theorem heading_lt {t : List Char} {heading : Nat × Nat} (h : heading ∈ headings t) :
    heading.1 < byteLength t := by
  obtain ⟨hit, hm, heq⟩ := List.mem_filterMap.1 h
  obtain ⟨n, -, rfl⟩ := Option.map_eq_some_iff.1 heq
  exact Recogniser.offset_lt_of_mem_scan HeadingText.recogniser_consumes hm

def lastNumber? (t : List Char) : Option Nat := (headings t).getLast?.map (·.2)

theorem map_last_phase (t : List Char) :
    (Document.ofText t).outline.phases.getLast?.map (·.number) = lastNumber? t := by
  rw [← List.getLast?_map, map_phases_number, List.getLast?_map, lastNumber?]

theorem numberAt?_append_left {s : List Char} (hs : WholeLines s) (t : List Char) {offset : Nat}
    (h : offset < byteLength s) : numberAt? (s ++ t) offset = numberAt? s offset := by
  have hnone : ((headings t).map fun (o, n) => (byteLength s + o, n)).filter
      (·.1 ≤ offset) = [] := by
    rw [List.filter_eq_nil_iff]
    intro heading hm
    obtain ⟨⟨o, n⟩, -, rfl⟩ := List.mem_map.1 hm
    simp only [decide_eq_true_eq]; omega
  rw [numberAt?, headings_append hs, List.filter_append, hnone, List.append_nil, numberAt?]

/-- A position behind the seam is owned by a heading behind it, else by the last one before. -/
theorem numberAt?_append_right {s : List Char} (hs : WholeLines s) (t : List Char)
    (offset : Nat) :
    numberAt? (s ++ t) (byteLength s + offset) = (numberAt? t offset).or (lastNumber? s) := by
  have hall : (headings s).filter (·.1 ≤ byteLength s + offset) = headings s := by
    rw [List.filter_eq_self]
    intro heading hm
    have := heading_lt hm
    simp only [decide_eq_true_eq]; omega
  have hshift : ((headings t).map fun (o, n) => (byteLength s + o, n)).filter
      (·.1 ≤ byteLength s + offset) =
      ((headings t).filter (·.1 ≤ offset)).map fun (o, n) => (byteLength s + o, n) := by
    rw [List.filter_map]
    congr 1
    refine List.filter_congr ?_
    rintro ⟨o, n⟩ -
    simp
  rw [numberAt?, headings_append hs, List.filter_append, hall, hshift, List.getLast?_append,
    List.getLast?_map, numberAt?, lastNumber?]
  cases ((headings t).filter (·.1 ≤ offset)).getLast? with
  | none => simp
  | some heading => simp

theorem credits_append {s : List Char} (hs : WholeLines s) (t : List Char) :
    credits (s ++ t) = credits s ++ (credits t).map (Credit.under (lastNumber? s)) := by
  unfold credits
  rw [MarkerText.recogniser_lineBound.scan_append hs, List.filterMap_append, List.filterMap_map,
    List.map_filterMap]
  congr 1
  · refine List.filterMap_congr ?_
    intro hit hm
    rw [numberAt?_append_left hs t
      (Recogniser.offset_lt_of_mem_scan MarkerText.recogniser_consumes hm)]
  · refine List.filterMap_congr ?_
    intro hit _
    simp [numberAt?_append_right hs, Credit.under, Function.comp_def]

/-- A marker that fills the last line decides on the phase whose heading is the last. -/
theorem Document.statusOf?_append_marker {above : List Char} (ha : WholeLines above) {n : Nat}
    (hn : lastNumber? above = some n) (s : Status) {context : Option (List Char)}
    {body : List Char} (hend : MarkerText.Ending context body []) :
    (ofText (above ++ (MarkerText.plainOpener s ++ body))).statusOf? n = some s := by
  have hcredits := (credits_marker s hend (Or.inl rfl)).2
  rw [List.append_nil] at hcredits
  rw [statusOf?_ofText, credits_append ha, hcredits]
  simp [Credit.under, hn, List.getLast?_append]

end EditGuard.Review
