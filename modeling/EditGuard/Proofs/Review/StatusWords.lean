import EditGuard.Proofs.Review.Ownership
import EditGuard.Proofs.Text.Locations
import Mathlib

/-! # The words of the markers

A marker is found by a word in any letter case and read by a name whose ASCII letters may have
either case. The words hold no letter with a case beyond ASCII, so what is found is also read, and
the markers of a text are its matches one by one.
-/

namespace EditGuard.Review

open Text

/-! ## Words and names -/

/-- A word in capitals is spelled by the same word with its letters in either case. -/
theorem spells_of_map_toUpper {name word : List Char} (h : word.map Char.toUpper = name) :
    spells (name.map Char.toLower) word = true := by
  subst h
  induction word with
  | nil => rfl
  | cons c word ih =>
    have hc : foldsTo c.toUpper.toLower c = true := by
      rw [Char.toLower_toUpper_eq_toLower]
      simp [foldsTo]
    simp only [List.map_cons, spells, hc, Bool.true_and]
    exact ih

namespace Status

theorem map_toUpper_name (s : Status) : s.name.toList.map Char.toUpper = s.name.toList := by
  cases s <;> decide

/-- A status is read off the words that are its name but for the case of ASCII letters. -/
theorem ofName?_eq_some_iff {word : List Char} {s : Status} :
    ofName? word = some s ↔ word.map Char.toUpper = s.name.toList := by
  constructor
  · intro h
    have hname := List.find?_some h
    exact (eq_of_beq hname).symm
  · intro h
    have hself := ofName?_name s
    unfold ofName? at hself ⊢
    rw [h, ← map_toUpper_name, hself]

/-- No letter of a name has a case beyond ASCII. -/
theorem spells_name_iff {word : List Char} {s : Status} :
    spells (s.name.toList.map Char.toLower) word = true ↔
      word.map Char.toUpper = s.name.toList := by
  constructor
  · intro h
    have hs : 's' ∉ s.name.toList.map Char.toLower := by cases s <;> decide
    have hk : 'k' ∉ s.name.toList.map Char.toLower := by cases s <;> decide
    have hlower := map_toLower_of_spells hs hk h
    have hupper : ∀ t : List Char, (t.map Char.toLower).map Char.toUpper = t.map Char.toUpper := by
      intro t
      rw [List.map_map]
      exact List.map_congr_left fun c _ => Char.toUpper_toLower_eq_toUpper c
    rw [← hupper word, hlower, hupper, map_toUpper_name]
  · exact spells_of_map_toUpper

/-- The words of the markers are the names, in any letter case. -/
theorem mem_words_iff {word : List Char} :
    (∃ w ∈ MarkerText.words, spells w word = true) ↔ ∃ s, ofName? word = some s := by
  constructor
  · rintro ⟨w, hw, hspells⟩
    obtain ⟨s, -, rfl⟩ := List.mem_map.1 hw
    exact ⟨s, ofName?_eq_some_iff.2 (spells_name_iff.1 hspells)⟩
  · rintro ⟨s, hs⟩
    have hmem : s.name.toList.map Char.toLower ∈ MarkerText.words := by cases s <;> decide
    exact ⟨_, hmem, spells_name_iff.2 (ofName?_eq_some_iff.1 hs)⟩

end Status

/-! ## Matches and markers -/

/-- A text that a marker may carry as its context: not empty, on one line and trimmed. -/
structure IsNote (t : List Char) : Prop where
  nonempty : t ≠ []
  oneLine : '\n' ∉ t
  first : ∀ c ∈ t.head?, isBlank c = false
  last : ∀ c ∈ t.getLast?, isBlank c = false

/-- What the marker that is read from a match has to do with the match and the text. -/
structure ReadFrom (t : List Char) (hit : Hit MarkerText) (m : Marker) : Prop where
  stands : ∃ before behind, t = before ++ hit.lexeme ++ behind ∧
    m.location = locationBehind before
  opened : MarkerText.opening <+: hit.lexeme
  closed : MarkerText.closing <:+ hit.lexeme
  oneLine : '\n' ∉ hit.lexeme
  captured : ∃ opener ending, hit.lexeme = opener ++ ending ∧
    MarkerText.Opener hit.value.word opener
  accepted : Status.ofName? hit.value.word = some m.status
  named : hit.value.word.map Char.toUpper = m.status.name.toList
  noted : ∀ note ∈ m.context, IsNote note

namespace MarkerText

theorem Opener.exists_status {word opener : List Char} (h : Opener word opener) :
    ∃ s, Status.ofName? word = some s := by
  cases h with
  | intro _ _ _ _ _ _ hword => exact Status.mem_words_iff.1 hword

theorem isNote_of_note {m : MarkerText} {body left note : List Char}
    (hend : Ending m.context body left) (h : note ∈ m.note) : IsNote note := by
  obtain ⟨hnote, hfilter⟩ := Option.filter_eq_some_iff.1 h
  obtain ⟨context, hcontext, rfl⟩ := Option.map_eq_some_iff.1 hnote
  have hline : '\n' ∉ context := by
    rw [hcontext] at hend
    cases hend with
    | noted _ _ hline => exact hline
  obtain ⟨hfirst, hlast⟩ := ends_of_trim context
  exact ⟨by simpa using hfilter, fun hm => hline ((isInfix_trim context).subset hm), hfirst, hlast⟩

end MarkerText

/-- No match is dropped. -/
theorem exists_readFrom {t : List Char} {hit : Hit MarkerText}
    (hm : hit ∈ MarkerText.recogniser.scan t) :
    ∃ m, Marker.ofHit? (LineIndex.ofText t) hit = some m ∧ ReadFrom t hit m := by
  obtain ⟨before, behind, ht, hoffset, -, hread⟩ :=
    Recogniser.mem_scan MarkerText.recogniser_consumes hm
  obtain ⟨opener, ending, hsplit, hopener, hend⟩ := MarkerText.recogniser_eq_some_iff.1 hread
  have hlexeme : hit.lexeme = opener ++ ending := List.append_cancel_right hsplit
  obtain ⟨s, hs⟩ := hopener.exists_status
  have hlocation : (LineIndex.ofText t).location hit.offset = locationBehind before := by
    rw [hoffset, ht, List.append_assoc]
    exact location_append before _
  refine ⟨⟨s, hit.value.note, locationBehind before⟩, ?_, ?_⟩
  · rw [Marker.ofHit?, hs, hlocation]
    rfl
  · exact {
      stands := ⟨before, behind, ht, rfl⟩
      opened := by
        rw [hlexeme]
        exact hopener.opening_prefix.trans (List.prefix_append opener ending)
      closed := by
        rw [hlexeme]
        exact hend.closing_suffix.trans (List.suffix_append opener ending)
      oneLine := by
        rw [hlexeme]
        exact MarkerText.newline_not_mem_marker hopener hend
      captured := ⟨opener, ending, hlexeme, hopener⟩
      accepted := hs
      named := Status.ofName?_eq_some_iff.1 hs
      noted := fun note hnote => MarkerText.isNote_of_note hend hnote }

theorem forall₂_filterMap {α β : Type} {R : α → β → Prop} {f : α → Option β} {xs : List α}
    (h : ∀ x ∈ xs, ∃ y, f x = some y ∧ R x y) : List.Forall₂ R xs (xs.filterMap f) := by
  induction xs with
  | nil => exact .nil
  | cons x xs ih =>
    obtain ⟨y, hy, hr⟩ := h x List.mem_cons_self
    rw [List.filterMap_cons_some hy]
    exact .cons hr (ih fun z hz => h z (List.mem_cons_of_mem x hz))

/-- The markers of a text are its matches one by one, in ascending order: each stands where its
match does, a comment on one line, and bears the status that the word of the match names. The words
that a match may hold are those that name a status. -/
theorem markers_of_matches (t : List Char) :
    List.Forall₂ (ReadFrom t) (MarkerText.recogniser.scan t) (Marker.all (LineIndex.ofText t) t) ∧
    ((Marker.all (LineIndex.ofText t) t).Pairwise fun m m' =>
      m.location.offset < m'.location.offset) ∧
    ∀ word, (∃ w ∈ MarkerText.words, spells w word = true) ↔ ∃ s, Status.ofName? word = some s :=
  ⟨forall₂_filterMap fun _ hm => exists_readFrom hm, markers_ascending t,
    fun _ => Status.mem_words_iff⟩

end EditGuard.Review
