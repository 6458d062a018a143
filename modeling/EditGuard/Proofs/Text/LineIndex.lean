import EditGuard.Proofs.Text.Locations
import EditGuard.Proofs.Text.Utf8
import Mathlib.Data.Nat.PSub
import Mathlib.Data.Prod.Lex

/-! # The line index on bytes

The line index is built from characters and asked about bytes. A newline is one byte and no byte of
another character is a newline, so up to any offset, also one inside a character, the line starts
count the newlines among the bytes. From this follow the line and the column of every offset, and
that the search for them neither leaves the table nor goes below zero.
-/

namespace EditGuard.Text

def newlineByte : UInt8 := 10

/-! ## Characters as bytes -/

theorem toUtf8_ofList (t : List Char) :
    toUtf8 (String.ofList t) = t.flatMap String.utf8EncodeChar := by
  rw [toUtf8_eq_flatMap, String.toList_ofList]

theorem length_toUtf8_ofList (t : List Char) :
    (toUtf8 (String.ofList t)).length = byteLength t := by
  rw [toUtf8_ofList]
  induction t with
  | nil => rfl
  | cons c t ih =>
    rw [List.flatMap_cons, List.length_append, ih, String.length_utf8EncodeChar, byteLength_cons]

theorem newlineByte_not_mem {c : Char} (h : c ≠ '\n') :
    newlineByte ∉ String.utf8EncodeChar c := by
  intro hm
  by_cases hascii : c.toNat < 128
  · rw [utf8EncodeChar_of_ascii hascii, List.mem_singleton] at hm
    have hcode : newlineByte.toNat = c.toNat := by
      rw [hm, UInt8.toNat_ofNat', Nat.mod_eq_of_lt (by omega)]
    exact h (Char.toNat_inj.1 hcode.symm)
  · have hlarge := le_of_mem_utf8EncodeChar (Nat.le_of_not_lt hascii) hm
    exact absurd hlarge (by decide)

/-- The line starts within the next bytes count the newlines among them. -/
theorem length_filter_startsAfter (offset size : Nat) (t : List Char) :
    ((LineIndex.startsAfter offset t).filter (· ≤ offset + size)).length =
      ((toUtf8 (String.ofList t)).take size).count newlineByte := by
  rw [toUtf8_ofList]
  induction t generalizing offset size with
  | nil => simp [LineIndex.startsAfter]
  | cons c t ih =>
    have hrest : ((LineIndex.startsAfter (offset + c.utf8Size) t).filter
        (· ≤ offset + size)).length =
          ((t.flatMap String.utf8EncodeChar).take (size - c.utf8Size)).count newlineByte := by
      rw [← ih (offset + c.utf8Size)]
      by_cases hsize : c.utf8Size ≤ size
      · have hbound : offset + c.utf8Size + (size - c.utf8Size) = offset + size := by omega
        rw [hbound]
      · rw [filter_startsAfter_eq_nil (by omega), filter_startsAfter_eq_nil (by omega)]
    rw [List.flatMap_cons, List.take_append, List.count_append, String.length_utf8EncodeChar,
      ← hrest]
    by_cases hc : c = '\n'
    · subst hc
      have hwidth : '\n'.utf8Size = 1 := rfl
      have hbyte : String.utf8EncodeChar '\n' = [newlineByte] := by decide
      rw [LineIndex.startsAfter, if_pos rfl, hbyte, hwidth]
      cases size with
      | zero => rw [List.filter_cons_of_neg (by simp), List.take_zero, List.count_nil, Nat.zero_add]
      | succ size =>
        rw [List.filter_cons_of_pos (by simp), List.length_cons, Nat.add_comm]
        simp
    · have hnone : ((String.utf8EncodeChar c).take size).count newlineByte = 0 :=
        List.count_eq_zero.2 fun hm => newlineByte_not_mem hc (List.mem_of_mem_take hm)
      rw [LineIndex.startsAfter, if_neg hc, hnone, Nat.zero_add]

theorem length_starts (t : List Char) :
    (LineIndex.ofText t).starts.length = 1 + (toUtf8 (String.ofList t)).count newlineByte := by
  have hall : (LineIndex.startsAfter 0 t).filter (· ≤ 0 + byteLength t) =
      LineIndex.startsAfter 0 t := by
    rw [List.filter_eq_self]
    intro start hm
    have := (mem_startsAfter hm).2
    simp only [decide_eq_true_eq]
    omega
  have hcount := length_filter_startsAfter 0 (byteLength t) t
  rw [hall, ← length_toUtf8_ofList, List.take_length] at hcount
  rw [← hcount, LineIndex.ofText, List.length_cons, Nat.add_comm]

/-! ## Locations -/

/-- The line of an offset is one more than the newline bytes before it. -/
theorem location_line {t : List Char} {offset : Nat} (h : offset ≤ byteLength t) :
    ((LineIndex.ofText t).location offset).line =
      1 + ((toUtf8 (String.ofList t)).take offset).count newlineByte := by
  have hcount := length_filter_startsAfter 0 offset t
  rw [Nat.zero_add] at hcount
  rw [location_eq h, ← hcount, startsUpTo, LineIndex.ofText, List.filter_cons_of_pos (by simp),
    List.length_cons, Nat.add_comm]

theorem location_min (t : List Char) (offset : Nat) :
    (LineIndex.ofText t).location (min offset (byteLength t)) =
      (LineIndex.ofText t).location offset := by
  have hsize : (LineIndex.ofText t).size = byteLength t := rfl
  unfold LineIndex.location
  rw [hsize, Nat.min_assoc, Nat.min_self]

/-- What is reached at an offset ends with the start of its line. -/
theorem exists_line_start {t : List Char} {offset : Nat} (h : offset ≤ byteLength t) :
    ∃ i start, (startsUpTo t offset).length = i + 1 ∧
      (LineIndex.ofText t).starts[i]? = some start ∧ start ≤ offset ∧
      (LineIndex.ofText t).location offset = ⟨i + 1, offset - start + 1, offset⟩ := by
  have hfirst : 0 ∈ startsUpTo t offset := List.mem_filter.2 ⟨List.mem_cons_self, by simp⟩
  obtain ⟨i, hlength⟩ : ∃ i, (startsUpTo t offset).length = i + 1 :=
    Nat.exists_eq_add_one.2 (List.length_pos_of_mem hfirst)
  obtain ⟨start, hlast⟩ : ∃ start, (startsUpTo t offset)[i]? = some start :=
    ⟨_, List.getElem?_eq_getElem (by omega)⟩
  have hprefix : startsUpTo t offset <+: (LineIndex.ofText t).starts := by
    rw [startsUpTo, ← takeWhile_eq_filter (fun start : Nat => start) offset (starts_ascending t)]
    exact List.takeWhile_prefix _
  have hreached : start ≤ offset := by
    have hm := List.mem_of_getElem? hlast
    simpa using (List.mem_filter.1 hm).2
  refine ⟨i, start, hlength, ?_, hreached, ?_⟩
  · obtain ⟨later, hstarts⟩ := hprefix
    rw [← hstarts, List.getElem?_append_left (by omega)]
    exact hlast
  · rw [location_eq h, List.getLast?_eq_getElem?, hlength, Nat.add_sub_cancel, hlast]
    rfl

namespace LineIndex

/-- The location as it is searched for, by halving the table; a difference below zero and a place
outside the table give none. -/
def located? (index : LineIndex) (offset : Nat) : Option Location := do
  let offset := min offset index.size
  let last ← Nat.psub (countInFront (· ≤ offset) index.starts) 1
  let start ← index.starts[last]?
  let passed ← Nat.psub offset start
  some ⟨last + 1, passed + 1, offset⟩

/-- No step of the search fails. -/
theorem located?_ofText (t : List Char) (offset : Nat) :
    (ofText t).located? offset = some ((ofText t).location offset) := by
  have hle : min offset (byteLength t) ≤ byteLength t := Nat.min_le_right _ _
  obtain ⟨i, start, hlength, hstart, hreached, hlocation⟩ := exists_line_start hle
  have hcount : countInFront (· ≤ min offset (byteLength t)) (ofText t).starts = i + 1 := by
    rw [← hlength]
    exact countInFront_ascending (fun start : Nat => start) _ (starts_ascending t)
  have hlast : Nat.psub (i + 1) 1 = some i := Nat.psub_eq_some.2 rfl
  have hpassed : Nat.psub (min offset (byteLength t)) start =
      some (min offset (byteLength t) - start) := Nat.psub_eq_some.2 (Nat.sub_add_cancel hreached)
  have hsize : (ofText t).size = byteLength t := rfl
  rw [← location_min, hlocation, located?, hsize]
  simp only [hcount, hlast, hstart, hpassed, Option.bind_eq_bind, Option.bind_some]

end LineIndex

/-! ## Line starts -/

theorem column_pos (t : List Char) (offset : Nat) :
    1 ≤ ((LineIndex.ofText t).location offset).column :=
  Nat.le_add_left 1 _

/-- The line of an offset starts the column before it. -/
theorem lineStart?_line {t : List Char} {offset : Nat} (h : offset ≤ byteLength t) :
    ((LineIndex.ofText t).location offset).column - 1 ≤ offset ∧
      (LineIndex.ofText t).lineStart? ((LineIndex.ofText t).location offset).line =
        some (offset - (((LineIndex.ofText t).location offset).column - 1)) := by
  obtain ⟨i, start, -, hstart, hreached, hlocation⟩ := exists_line_start h
  have hback : offset - (offset - start + 1 - 1) = start := by omega
  rw [hlocation]
  refine ⟨?_, ?_⟩
  · dsimp only
    omega
  · dsimp only
    rw [hback]
    exact hstart

theorem lineStart?_isSome_iff (t : List Char) (line : Nat) :
    ((LineIndex.ofText t).lineStart? line).isSome = true ↔
      1 ≤ line ∧ line ≤ 1 + (toUtf8 (String.ofList t)).count newlineByte := by
  rw [← length_starts]
  cases line with
  | zero => simp [LineIndex.lineStart?]
  | succ i =>
    have hin : (LineIndex.ofText t).starts[i]?.isSome = true ↔
        i < (LineIndex.ofText t).starts.length := by simp
    show (LineIndex.ofText t).starts[i]?.isSome = true ↔ _
    rw [hin]
    omega

/-- A line starts where its first column is. -/
theorem lineStart?_eq_some_iff (t : List Char) (line start : Nat) :
    (LineIndex.ofText t).lineStart? line = some start ↔
      (LineIndex.ofText t).location start = ⟨line, 1, start⟩ := by
  constructor
  · intro h
    cases line with
    | zero => cases h
    | succ i =>
      have hstart : (LineIndex.ofText t).starts[i]? = some start := h
      have hle : start ≤ byteLength t := le_of_mem_starts (List.mem_of_getElem? hstart)
      obtain ⟨j, start', -, hstart', hreached, hlocation⟩ := exists_line_start hle
      have hline := (le_iff_le_line hstart start).1 (Nat.le_refl start)
      rw [hlocation] at hline
      have hij : i ≤ j := Nat.le_of_succ_le_succ hline
      have hji : j ≤ i := (start_le_iff hstart' hstart).1 hreached
      obtain rfl : i = j := Nat.le_antisymm hij hji
      obtain rfl : start = start' := Option.some.inj (hstart.symm.trans hstart')
      rw [hlocation, Nat.sub_self]
  · intro h
    have hoffset : min start (byteLength t) = start := congrArg Location.offset h
    have hle : start ≤ byteLength t := by omega
    have hback := (lineStart?_line hle).2
    rw [h] at hback
    exact hback

/-- Between the start of a line and an offset in it stands no newline. -/
theorem newlineByte_not_mem_line {t : List Char} {offset start : Nat} (h : offset ≤ byteLength t)
    (hstart : (LineIndex.ofText t).lineStart? ((LineIndex.ofText t).location offset).line =
      some start) :
    newlineByte ∉ ((toUtf8 (String.ofList t)).take offset).drop start := by
  have hreached : start ≤ offset := by
    have hback := (lineStart?_line h).2.symm.trans hstart
    rw [← Option.some.inj hback]
    exact Nat.sub_le _ _
  have hline := congrArg Location.line ((lineStart?_eq_some_iff _ _ _).1 hstart)
  rw [location_line (Nat.le_trans hreached h), location_line h] at hline
  have hsplit := List.take_append_drop start ((toUtf8 (String.ofList t)).take offset)
  rw [List.take_take, Nat.min_eq_left hreached] at hsplit
  rw [← hsplit, List.count_append] at hline
  rw [← List.count_eq_zero]
  omega

/-- Locations keep the order of the offsets. -/
theorem location_monotone (t : List Char) : Monotone fun offset : Nat =>
    toLex (((LineIndex.ofText t).location offset).line,
      ((LineIndex.ofText t).location offset).column) := by
  intro a b hab
  dsimp only
  rw [← location_min t a, ← location_min t b, Prod.Lex.toLex_le_toLex]
  have ha : min a (byteLength t) ≤ byteLength t := Nat.min_le_right _ _
  have hb : min b (byteLength t) ≤ byteLength t := Nat.min_le_right _ _
  have hle : min a (byteLength t) ≤ min b (byteLength t) := by omega
  generalize min a (byteLength t) = a at *
  generalize min b (byteLength t) = b at *
  have hline : ((LineIndex.ofText t).location a).line ≤ ((LineIndex.ofText t).location b).line := by
    have htake : (toUtf8 (String.ofList t)).take a <+: (toUtf8 (String.ofList t)).take b :=
      List.take_prefix_take_left hle
    have hcount := htake.sublist.count_le newlineByte
    rw [location_line ha, location_line hb]
    omega
  rcases Nat.lt_or_eq_of_le hline with hlt | heq
  · exact Or.inl hlt
  · refine Or.inr ⟨heq, ?_⟩
    obtain ⟨hcolumn, hstart⟩ := lineStart?_line ha
    obtain ⟨hcolumn', hstart'⟩ := lineStart?_line hb
    rw [heq, hstart', Option.some.injEq] at hstart
    have hpos := column_pos t b
    dsimp only
    omega

/-! ## Main statement -/

/-- The line index is exact and total. The search for an offset never fails; it gives the offset up
to the end of the text, counts the newline bytes before it and goes back to the start of its line.
A text has one line more than newlines, and each starts where its first column is. -/
theorem lineIndex_exact (t : List Char) :
    (∀ offset, let bytes := toUtf8 (String.ofList t)
      let location := (LineIndex.ofText t).location offset
      let start := location.offset - (location.column - 1)
      (LineIndex.ofText t).located? offset = some location ∧
      location.offset = min offset bytes.length ∧
      location.line = 1 + (bytes.take location.offset).count newlineByte ∧
      1 ≤ location.column ∧ location.column - 1 ≤ location.offset ∧
      (LineIndex.ofText t).lineStart? location.line = some start ∧
      newlineByte ∉ (bytes.take location.offset).drop start) ∧
    (∀ line, ((LineIndex.ofText t).lineStart? line).isSome = true ↔
      1 ≤ line ∧ line ≤ 1 + (toUtf8 (String.ofList t)).count newlineByte) ∧
    (∀ line start, (LineIndex.ofText t).lineStart? line = some start ↔
      (LineIndex.ofText t).location start = ⟨line, 1, start⟩) ∧
    Monotone fun offset : Nat => toLex (((LineIndex.ofText t).location offset).line,
      ((LineIndex.ofText t).location offset).column) := by
  refine ⟨?_, lineStart?_isSome_iff t, lineStart?_eq_some_iff t, location_monotone t⟩
  intro offset
  have hle : min offset (byteLength t) ≤ byteLength t := Nat.min_le_right _ _
  have hoffset : ((LineIndex.ofText t).location offset).offset = min offset (byteLength t) := rfl
  have hline := location_line hle
  obtain ⟨hcolumn, hstart⟩ := lineStart?_line hle
  have hunbroken := newlineByte_not_mem_line hle hstart
  rw [location_min] at hline hcolumn hstart hunbroken
  dsimp only
  rw [hoffset, length_toUtf8_ofList]
  exact ⟨LineIndex.located?_ofText t offset, rfl, hline, column_pos t offset, hcolumn, hstart,
    hunbroken⟩

end EditGuard.Text
