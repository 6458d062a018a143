import EditGuard.Proofs.Review.Ownership

/-! # Documents in parts

A document of whole lines and what follows them is read part by part: behind the seam phases and
markers are those of the second part, moved. Only ownership crosses the seam, as the markers before
the first heading of the second part fall to the last phase of the first. So the lines below a
heading decide on nothing but the number of that heading.
-/

namespace EditGuard.Review

open Text

/-! ## Phases and markers behind a seam -/

def Phase.below (above : List Char) (p : Phase) : Phase :=
  { p with location := p.location.below above }

def Marker.below (above : List Char) (m : Marker) : Marker :=
  { m with location := m.location.below above }

/-- What is read off the hits of a scan, with their locations, is read off part by part. -/
theorem filterMap_scan_append {α β : Type} {r : Recogniser α} (hr : r.LineBound)
    {above : List Char} (ha : WholeLines above) (below : List Char)
    (ofHit? : Hit α → Location → Option β) (move : β → β)
    (hmove : ∀ (hit : Hit α) (k : Nat) (l : Location),
      ofHit? (hit.shift k) (l.below above) = (ofHit? hit l).map move) :
    (r.scan (above ++ below)).filterMap
        (fun hit => ofHit? hit ((LineIndex.ofText (above ++ below)).location hit.offset)) =
      (r.scan above).filterMap
          (fun hit => ofHit? hit ((LineIndex.ofText above).location hit.offset)) ++
        ((r.scan below).filterMap
          (fun hit => ofHit? hit ((LineIndex.ofText below).location hit.offset))).map move := by
  rw [hr.scan_append ha, List.filterMap_append, List.filterMap_map, List.map_filterMap]
  congr 1
  · apply List.filterMap_congr
    intro hit hm
    rw [location_append_left above below (Recogniser.offset_lt_of_mem_scan hr.consumes hm)]
  · apply List.filterMap_congr
    intro hit hm
    have hlt := Recogniser.offset_lt_of_mem_scan hr.consumes hm
    show ofHit? (hit.shift (byteLength above)) _ = _
    rw [Hit.shift_offset, location_append_right ha below (Nat.le_of_lt hlt), hmove]

theorem phases_append {above : List Char} (ha : WholeLines above) (below : List Char) :
    (Document.ofText (above ++ below)).outline.phases =
      (Document.ofText above).outline.phases ++
        (Document.ofText below).outline.phases.map (Phase.below above) := by
  apply filterMap_scan_append HeadingText.recogniser_lineBound ha below
    (fun hit l => hit.value.number?.map fun number => (⟨number, hit.value.title, l⟩ : Phase))
    (Phase.below above)
  intro hit k l
  rw [Option.map_map]
  rfl

theorem markers_append {above : List Char} (ha : WholeLines above) (below : List Char) :
    Marker.all (LineIndex.ofText (above ++ below)) (above ++ below) =
      Marker.all (LineIndex.ofText above) above ++
        (Marker.all (LineIndex.ofText below) below).map (Marker.below above) := by
  apply filterMap_scan_append MarkerText.recogniser_lineBound ha below
    (fun hit l => (Status.ofName? hit.value.word).map fun status =>
      (⟨status, hit.value.note, l⟩ : Marker))
    (Marker.below above)
  intro hit k l
  rw [Option.map_map]
  rfl

/-! ## Status behind a seam -/

theorem lastNumber?_append {above : List Char} (ha : WholeLines above) (below : List Char) :
    lastNumber? (above ++ below) = (lastNumber? below).or (lastNumber? above) := by
  unfold lastNumber?
  rw [headings_append ha, List.getLast?_append, List.getLast?_map]
  cases (headings below).getLast? with
  | none => simp
  | some heading => simp

/-- The number that a marker counts for when the document stands behind another one. -/
def Document.numberBehind? (above below : List Char) (m : Marker) : Option Nat :=
  (((ofText below).outline.ownerAt? m.location.offset).or
    (ofText above).outline.phases.getLast?).map (·.number)

theorem Document.numberBehind?_eq (above below : List Char) (m : Marker) :
    numberBehind? above below m =
      ((Credit.ofMarker (ofText below).outline m).under (lastNumber? above)).number := by
  unfold numberBehind? Credit.ofMarker Credit.under
  rw [← map_last_phase]
  cases (ofText below).outline.ownerAt? m.location.offset with
  | none => rfl
  | some p => rfl

theorem Document.statusOf?_append {above : List Char} (ha : WholeLines above) (below : List Char)
    (n : Nat) : (ofText (above ++ below)).statusOf? n =
      (((Marker.all (LineIndex.ofText below) below).filter fun m =>
        numberBehind? above below m = some n).getLast?.map (·.status)).or
        ((ofText above).statusOf? n) := by
  have hbelow : ((credits below).map (Credit.under (lastNumber? above))).filter
      (·.number = some n) =
      ((Marker.all (LineIndex.ofText below) below).filter fun m =>
        numberBehind? above below m = some n).map
        fun m => (Credit.ofMarker (ofText below).outline m).under (lastNumber? above) := by
    rw [← map_markers, List.map_map, List.filter_map]
    congr 1
    apply List.filter_congr
    intro m _
    rw [numberBehind?_eq]
    rfl
  rw [statusOf?_ofText, statusOf?_ofText, credits_append ha, List.filter_append,
    List.getLast?_append, hbelow, List.getLast?_map]
  cases ((Marker.all (LineIndex.ofText below) below).filter fun m =>
      numberBehind? above below m = some n).getLast? with
  | none => rfl
  | some m => rfl

/-! ## Lines without a heading -/

theorem number_eq_none {t : List Char} (hh : headings t = []) {c : Credit} (hc : c ∈ credits t) :
    c.number = none := by
  obtain ⟨hit, -, heq⟩ := List.mem_filterMap.1 hc
  obtain ⟨status, -, rfl⟩ := Option.map_eq_some_iff.1 heq
  simp [numberAt?, hh]

theorem lastNumber?_eq_none {t : List Char} (hh : headings t = []) : lastNumber? t = none := by
  simp [lastNumber?, hh]

theorem numbers_between {above lines : List Char} (ha : WholeLines above) (hl : WholeLines lines)
    (hh : headings lines = []) (below : List Char) :
    (headings (above ++ (lines ++ below))).map (·.2) = (headings (above ++ below)).map (·.2) := by
  rw [headings_append ha, headings_append ha, headings_append hl, hh]
  simp [Function.comp_def]

theorem credits_between {above lines : List Char} (ha : WholeLines above) (hl : WholeLines lines)
    (hh : headings lines = []) (below : List Char) :
    credits (above ++ (lines ++ below)) =
      credits above ++ ((credits lines).map (Credit.under (lastNumber? above)) ++
        (credits below).map (Credit.under (lastNumber? above))) := by
  have hunder : ∀ c : Credit, (c.under none).under (lastNumber? above) =
      c.under (lastNumber? above) := by
    intro c
    simp [Credit.under]
  rw [credits_append ha, credits_append hl, lastNumber?_eq_none hh, List.map_append, List.map_map]
  simp only [Function.comp_def, hunder]

/-- Lines without a heading below a phase of one number leave every other number as it is. -/
theorem Document.statusOf?_between {above lines : List Char} (ha : WholeLines above)
    (hl : WholeLines lines) (hh : headings lines = []) (below : List Char) {k n : Nat}
    (hk : lastNumber? above = some k) (hn : n ≠ k) :
    (ofText (above ++ (lines ++ below))).statusOf? n = (ofText (above ++ below)).statusOf? n := by
  have hnone : ((credits lines).map (Credit.under (lastNumber? above))).filter
      (·.number = some n) = [] := by
    rw [List.filter_eq_nil_iff]
    intro c hc
    obtain ⟨c₀, hc₀, rfl⟩ := List.mem_map.1 hc
    have hnumber := number_eq_none hh hc₀
    simpa [Credit.under, hnumber, hk] using Ne.symm hn
  rw [statusOf?_ofText, statusOf?_ofText, credits_between ha hl hh, credits_append ha,
    List.filter_append, List.filter_append, List.filter_append, hnone, List.nil_append]

/-! ## The lines of a document -/

/-- A newline at the end of a document changes no credit. -/
theorem credits_newline (t : List Char) : credits (t ++ ['\n']) = credits t := by
  induction t using line_induction with
  | last line h =>
    unfold credits numberAt?
    rw [MarkerText.scan_newline h, headings_newline h]
  | cons line rest h ih =>
    have hsplit : line ++ '\n' :: rest = line ++ ['\n'] ++ rest := by simp
    rw [hsplit, List.append_assoc, credits_append (.newline line), credits_append (.newline line),
      ih]

theorem Document.statusOf?_splitOn (t : List Char) (n : Nat) :
    (ofText (unlines (t.splitOn '\n'))).statusOf? n = (ofText t).statusOf? n := by
  rw [unlines_splitOn, statusOf?_ofText, statusOf?_ofText, credits_newline]

theorem headings_eq_nil_of_phases {t : List Char} (h : (Document.ofText t).outline.phases = []) :
    headings t = [] := by
  have hnumbers := map_phases t
  show _ = _
  rw [← hnumbers]
  exact List.map_eq_nil_iff.2 h

theorem headings_unlines {lines : List (List Char)} (hline : ∀ line ∈ lines, '\n' ∉ line)
    (hh : ∀ line ∈ lines, headings line = []) : headings (unlines lines) = [] := by
  induction lines with
  | nil => rfl
  | cons line lines ih =>
    have hfirst : headings (line ++ ['\n']) = [] := by
      rw [headings_newline (hline line (by simp)), hh line (by simp)]
    have hrest := ih (fun l hm => hline l (List.mem_cons_of_mem line hm))
      (fun l hm => hh l (List.mem_cons_of_mem line hm))
    rw [unlines_cons, headings_append (.newline line), hfirst, hrest]
    rfl

namespace Document

/-- Two documents of the same lines, but for lines without a heading right below one heading of a
number. -/
inductive DifferBelow (number : Nat) (t t' : List Char) : Prop
  | intro {above body body' below : List (List Char)} {heading : List Char}
      (lines : t.splitOn '\n' = above ++ heading :: (body ++ below))
      (lines' : t'.splitOn '\n' = above ++ heading :: (body' ++ below))
      (numbered : (ofText heading).outline.phases.map (·.number) = [number])
      (bare : ∀ line ∈ body, (ofText line).outline.phases = [])
      (bare' : ∀ line ∈ body', (ofText line).outline.phases = [])

/-- The lines below one heading may as well not be there for any other number. -/
theorem statusOf?_of_lines {t : List Char} {above body below : List (List Char)}
    {heading : List Char} {k n : Nat}
    (hlines : t.splitOn '\n' = above ++ heading :: (body ++ below))
    (hnumbered : (ofText heading).outline.phases.map (·.number) = [k])
    (hbare : ∀ line ∈ body, (ofText line).outline.phases = []) (hn : n ≠ k) :
    (ofText t).statusOf? n =
      (ofText (unlines above ++ (heading ++ ['\n']) ++ unlines below)).statusOf? n := by
  have hmem : ∀ line ∈ above ++ heading :: (body ++ below), '\n' ∉ line := by
    rw [← hlines]
    exact fun line hm => newline_not_mem_splitOn hm
  have hbody : headings (unlines body) = [] := by
    refine headings_unlines (fun line hm => hmem line (by simp [hm])) ?_
    exact fun line hm => headings_eq_nil_of_phases (hbare line hm)
  have hheading : headings (heading ++ ['\n']) = headings heading :=
    headings_newline (hmem heading (by simp))
  have hlast : lastNumber? (unlines above ++ (heading ++ ['\n'])) = some k := by
    rw [lastNumber?_append (wholeLines_unlines above), lastNumber?, hheading, ← List.getLast?_map,
      ← map_phases_number, hnumbered]
    rfl
  have hsplit : unlines (above ++ heading :: (body ++ below)) =
      unlines above ++ (heading ++ ['\n']) ++ (unlines body ++ unlines below) := by
    rw [unlines_append, unlines_cons, unlines_append]
    simp only [List.append_assoc]
  rw [← statusOf?_splitOn t, hlines, hsplit]
  exact statusOf?_between ((wholeLines_unlines above).append (.newline heading))
    (wholeLines_unlines body) hbody _ hlast hn

/-- Behind whole lines a document is read as it is read alone, with its locations moved; only its
markers before its first heading fall to the last phase above. The lines below a heading decide on
no number but its own. -/
theorem read_in_parts (above below : List Char) (h : WholeLines above) :
    (ofText (above ++ below)).outline.phases =
      (ofText above).outline.phases ++ (ofText below).outline.phases.map (Phase.below above) ∧
    Marker.all (LineIndex.ofText (above ++ below)) (above ++ below) =
      Marker.all (LineIndex.ofText above) above ++
        (Marker.all (LineIndex.ofText below) below).map (Marker.below above) ∧
    (∀ n, (ofText (above ++ below)).statusOf? n =
      (((Marker.all (LineIndex.ofText below) below).filter fun m =>
        numberBehind? above below m = some n).getLast?.map (·.status)).or
        ((ofText above).statusOf? n)) ∧
    (∀ t t' k, DifferBelow k t t' →
      ∀ m, m ≠ k → (ofText t).statusOf? m = (ofText t').statusOf? m) := by
  refine ⟨phases_append h below, markers_append h below, statusOf?_append h below, ?_⟩
  intro t t' k hdiffer m hm
  obtain ⟨lines, lines', numbered, bare, bare'⟩ := hdiffer
  rw [statusOf?_of_lines lines numbered bare hm, statusOf?_of_lines lines' numbered bare' hm]

/-- A marker in front of the second part revokes the approval in the first, and a line put below
the second heading changes nothing about that. -/
theorem read_in_parts_revoked :
    (ofText ("## Phase 1\n<!-- REVIEW STATUS: APPROVED -->\n".toList ++
        "<!-- REVIEW STATUS: REJECTED -->\n## Phase 2\n".toList)).statusOf? 1 = some .rejected ∧
      (ofText "## Phase 1\n## Phase 2\n".toList).statusOf? 1 =
        (ofText
          "## Phase 1\n## Phase 2\n<!-- REVIEW STATUS: APPROVED -->\n".toList).statusOf? 1 := by
  have hparts := read_in_parts "## Phase 1\n<!-- REVIEW STATUS: APPROVED -->\n".toList
    "<!-- REVIEW STATUS: REJECTED -->\n## Phase 2\n".toList (Or.inr rfl)
  have hdiffer : DifferBelow 2 "## Phase 1\n## Phase 2\n".toList
      "## Phase 1\n## Phase 2\n<!-- REVIEW STATUS: APPROVED -->\n".toList :=
    @DifferBelow.intro 2 _ _ ["## Phase 1".toList] [] ["<!-- REVIEW STATUS: APPROVED -->".toList]
      [[]] "## Phase 2".toList (by decide +kernel) (by decide +kernel) (by decide +kernel)
      (by decide +kernel) (by decide +kernel)
  constructor
  · rw [hparts.2.2.1 1]
    decide +kernel
  · exact hparts.2.2.2 _ _ 2 hdiffer 1 (by decide)

end Document

end EditGuard.Review
