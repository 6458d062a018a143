import EditGuard.Proofs.Text.WholeLines
import Mathlib.Data.List.TakeWhile

/-! # Lines, columns and offsets

A line starts behind the bytes of the lines before it and their newlines. So a location counts: its
line is one more than the newlines before it, its column one more than the bytes behind the last of
them. The line of an offset is the number of line starts up to it, and in an ascending table that
number is the same whether the table is read through or searched by halving.
-/

namespace EditGuard.Text

/-! ## Locations by counting -/

theorem afterLast_unmarked {isMark : Char → Bool} {t : List Char} (h : ∀ c ∈ t, isMark c = false) :
    afterLast isMark t = t := by
  have hall : ∀ c ∈ t.reverse, (!isMark c) = true := by simpa using h
  rw [afterLast, List.takeWhile_eq_self_iff.2 hall, List.reverse_reverse]

theorem afterLast_append_mark {isMark : Char → Bool} {mark : Char} (hmark : isMark mark = true)
    (s t : List Char) : afterLast isMark (s ++ mark :: t) = afterLast isMark t := by
  have hreverse : (s ++ mark :: t).reverse = t.reverse ++ mark :: s.reverse := by simp
  rw [afterLast, afterLast, hreverse, List.takeWhile_append]
  split
  · next hall =>
    rw [List.takeWhile_cons_of_neg (by simp [hmark]), List.append_nil,
      (List.takeWhile_prefix _).eq_of_length hall]
  · rfl

/-- The location of the text behind a beginning, counted in that beginning. -/
def locationBehind (before : List Char) : Location :=
  ⟨before.count '\n' + 1, byteLength (afterLast (· = '\n') before) + 1, byteLength before⟩

theorem location_append_line {line : List Char} (h : '\n' ∉ line) (behind : List Char) :
    (LineIndex.ofText (line ++ behind)).location (byteLength line) = locationBehind line := by
  have hnone : (LineIndex.startsAfter (byteLength line) behind).filter (· ≤ byteLength line) = [] :=
    filter_startsAfter_eq_nil (Nat.le_refl _) behind
  have hstarts : startsUpTo (line ++ behind) (byteLength line) = [0] := by
    rw [startsUpTo, starts_append, List.filter_append, hnone, LineIndex.ofText, startsAfter_line h]
    simp
  have hle : byteLength line ≤ byteLength (line ++ behind) := by
    rw [byteLength_append]
    omega
  have hlast : afterLast (· = '\n') line = line :=
    afterLast_unmarked (by simpa using ne_newline_of_not_mem h)
  rw [location_eq hle, hstarts, locationBehind, hlast, List.count_eq_zero_of_not_mem h]
  rfl

/-- A location counts the newlines and the bytes before it. -/
theorem location_append (before behind : List Char) :
    (LineIndex.ofText (before ++ behind)).location (byteLength before) = locationBehind before := by
  induction before using line_induction with
  | last line h => exact location_append_line h behind
  | cons line rest h ih =>
    have hsplit : line ++ '\n' :: rest = line ++ ['\n'] ++ rest := by simp
    have hle : byteLength rest ≤ byteLength (rest ++ behind) := by
      rw [byteLength_append]
      omega
    have hcount : (line ++ ['\n'] ++ rest).count '\n' =
        (line ++ ['\n']).count '\n' + rest.count '\n' := List.count_append
    have hmoved : (locationBehind rest).below (line ++ ['\n']) =
        locationBehind (line ++ '\n' :: rest) := by
      unfold locationBehind Location.below
      rw [afterLast_append_mark rfl, hsplit, byteLength_append _ rest, hcount, Nat.add_assoc]
    rw [← hmoved, ← ih, hsplit, byteLength_append, List.append_assoc]
    exact location_append_right (.newline line) (rest ++ behind) hle

/-! ## Line starts -/

/-- The bytes of the first lines, each with its newline. -/
def bytesOfLines (count : Nat) (t : List Char) : Nat :=
  byteLength (unlines ((t.splitOn '\n').take count))

theorem bytesOfLines_succ {line : List Char} (h : '\n' ∉ line) (count : Nat) (rest : List Char) :
    bytesOfLines (count + 1) (line ++ '\n' :: rest) =
      byteLength (line ++ ['\n']) + bytesOfLines count rest := by
  rw [bytesOfLines, List.splitOn_append_cons_self_of_not_mem h, List.take_succ_cons, unlines_cons,
    byteLength_append, bytesOfLines]

theorem bytesOfLines_mono (t : List Char) {i j : Nat} (h : i ≤ j) :
    bytesOfLines i t ≤ bytesOfLines j t := by
  have hprefix : (t.splitOn '\n').take i <+: (t.splitOn '\n').take j :=
    List.take_prefix_take_left h
  obtain ⟨more, hmore⟩ := hprefix
  rw [bytesOfLines, bytesOfLines, ← hmore, unlines_append, byteLength_append]
  omega

/-- Each line starts behind the lines before it. -/
theorem starts_eq (t : List Char) : (LineIndex.ofText t).starts =
    (List.range (t.splitOn '\n').length).map (bytesOfLines · t) := by
  induction t using line_induction with
  | last line h =>
    simp [LineIndex.ofText, startsAfter_line h, List.splitOn_eq_singleton h, bytesOfLines]
  | cons line rest h ih =>
    have hstarts : (LineIndex.ofText (line ++ '\n' :: rest)).starts =
        0 :: (LineIndex.ofText rest).starts.map (byteLength (line ++ ['\n']) + ·) := by
      have hsize : '\n'.utf8Size = 1 := rfl
      rw [byteLength_append, byteLength_cons, byteLength_nil, hsize]
      simp only [LineIndex.ofText, startsAfter_append_newline h, Nat.zero_add, List.map_cons,
        ← startsAfter_shift, Nat.add_zero]
    have hlater : ∀ i, bytesOfLines (i + 1) (line ++ '\n' :: rest) =
        byteLength (line ++ ['\n']) + bytesOfLines i rest := fun i => bytesOfLines_succ h i rest
    rw [hstarts, ih, List.splitOn_append_cons_self_of_not_mem h, List.length_cons,
      List.range_succ_eq_map, List.map_cons, List.map_map, List.map_map]
    simp only [Function.comp_def, hlater, Nat.succ_eq_add_one]
    rfl

theorem lineStart?_succ {t : List Char} {i : Nat} (h : i < (t.splitOn '\n').length) :
    (LineIndex.ofText t).lineStart? (i + 1) = some (bytesOfLines i t) := by
  show (LineIndex.ofText t).starts[i]? = _
  rw [starts_eq, List.getElem?_map, List.getElem?_range h, Option.map_some]

/-! ## Searches in an ascending table -/

/-- The elements up to a bound are the first so many. -/
theorem le_iff_lt_length_filter {α : Type} (f : α → Nat) (bound : Nat) {xs : List α}
    (h : xs.Pairwise fun x y => f x < f y) {i : Nat} {x : α} (hx : xs[i]? = some x) :
    f x ≤ bound ↔ i < (xs.filter (f · ≤ bound)).length := by
  induction xs generalizing i with
  | nil => simp at hx
  | cons y xs ih =>
    rw [List.pairwise_cons] at h
    by_cases hy : f y ≤ bound
    · rw [List.filter_cons_of_pos (by simpa using hy), List.length_cons]
      cases i with
      | zero =>
        obtain rfl : y = x := by simpa using hx
        omega
      | succ i => rw [ih h.2 (by simpa using hx), Nat.add_lt_add_iff_right]
    · have hbehind : ∀ z ∈ y :: xs, ¬ f z ≤ bound := by
        intro z hz
        rcases List.mem_cons.1 hz with rfl | hz
        · exact hy
        · have := h.1 z hz
          omega
      have hnone : (y :: xs).filter (f · ≤ bound) = [] := by
        rw [List.filter_eq_nil_iff]
        simpa using hbehind
      rw [hnone, List.length_nil]
      exact iff_of_false (hbehind x (List.mem_of_getElem? hx)) (Nat.not_lt_zero i)

/-- Where a test that holds at first stops holding, between `low` and `size` places behind it. The
place in the middle tells in which half. -/
def halvingFrom (passes : Nat → Bool) (low size : Nat) : Nat :=
  if size = 0 then low
  else if passes (low + size / 2) then
    halvingFrom passes (low + size / 2 + 1) (size - size / 2 - 1)
  else halvingFrom passes low (size / 2)
termination_by size
decreasing_by all_goals omega

theorem halvingFrom_eq {passes : Nat → Bool} {low size point : Nat} (hlow : low ≤ point)
    (hhigh : point ≤ low + size)
    (hpasses : ∀ i, low ≤ i → i < low + size → (passes i = true ↔ i < point)) :
    halvingFrom passes low size = point := by
  fun_induction halvingFrom passes low size with
  | case1 low => omega
  | case2 low size hsize hmiddle ih =>
    have hfront := (hpasses (low + size / 2) (by omega) (by omega)).1 hmiddle
    apply ih
    · omega
    · omega
    · intro i hi hlt
      exact hpasses i (by omega) (by omega)
  | case3 low size hsize hmiddle ih =>
    have hback := mt (hpasses (low + size / 2) (by omega) (by omega)).2 hmiddle
    apply ih
    · omega
    · omega
    · intro i hi hlt
      exact hpasses i hi (by omega)

/-- The number of elements in front that pass a test, searched by halving. -/
def countInFront {α : Type} (passes : α → Bool) (xs : List α) : Nat :=
  halvingFrom (fun i => xs[i]?.any passes) 0 xs.length

theorem countInFront_ascending {α : Type} (f : α → Nat) (bound : Nat) {xs : List α}
    (h : xs.Pairwise fun x y => f x < f y) :
    countInFront (f · ≤ bound) xs = (xs.filter (f · ≤ bound)).length := by
  apply halvingFrom_eq (Nat.zero_le _)
  · rw [Nat.zero_add]
    exact List.length_filter_le _ _
  · intro i _ hi
    have hx : xs[i]? = some xs[i] := List.getElem?_eq_getElem (by omega)
    rw [hx, ← le_iff_lt_length_filter f bound h hx]
    simp

/-- The last element in front that passes a test, searched by halving. -/
def lastInFront? {α : Type} (passes : α → Bool) (xs : List α) : Option α :=
  match countInFront passes xs with
  | 0 => none
  | count + 1 => xs[count]?

theorem lastInFront?_ascending {α : Type} (f : α → Nat) (bound : Nat) {xs : List α}
    (h : xs.Pairwise fun x y => f x < f y) :
    lastInFront? (f · ≤ bound) xs = (xs.filter (f · ≤ bound)).getLast? := by
  have hprefix : xs.filter (f · ≤ bound) <+: xs := by
    rw [← takeWhile_eq_filter f bound h]
    exact List.takeWhile_prefix _
  have htake := List.prefix_iff_eq_take.1 hprefix
  unfold lastInFront?
  rw [countInFront_ascending f bound h]
  cases hcount : (xs.filter (f · ≤ bound)).length with
  | zero => rw [List.length_eq_zero_iff.1 hcount, List.getLast?_nil]
  | succ count =>
    rw [hcount] at htake
    rw [List.getLast?_eq_getElem?, hcount, htake, Nat.add_sub_cancel]
    exact (List.getElem?_take_of_lt (Nat.lt_succ_self count)).symm

/-! ## Lines of offsets -/

theorem start_le_iff {t : List Char} {i j start start' : Nat}
    (hi : (LineIndex.ofText t).starts[i]? = some start)
    (hj : (LineIndex.ofText t).starts[j]? = some start') : start ≤ start' ↔ i ≤ j := by
  obtain ⟨hi', rfl⟩ := List.getElem?_eq_some_iff.1 hi
  obtain ⟨hj', rfl⟩ := List.getElem?_eq_some_iff.1 hj
  have hascending := List.pairwise_iff_getElem.1 (starts_ascending t)
  rcases Nat.lt_trichotomy i j with h | rfl | h
  · have := hascending i j hi' hj' h
    omega
  · omega
  · have := hascending j i hj' hi' h
    omega

/-- The line of an offset is the last one that starts at or before it. -/
theorem le_iff_le_line {t : List Char} {i start : Nat}
    (hstart : (LineIndex.ofText t).starts[i]? = some start) (offset : Nat) :
    start ≤ offset ↔ i + 1 ≤ ((LineIndex.ofText t).location offset).line := by
  have hclamped : start ≤ offset ↔ start ≤ min offset (LineIndex.ofText t).size := by
    have hend : start ≤ (LineIndex.ofText t).size := le_of_mem_starts (List.mem_of_getElem? hstart)
    omega
  have hcount := le_iff_lt_length_filter (fun start : Nat => start)
    (min offset (LineIndex.ofText t).size) (starts_ascending t) hstart
  have hline : ((LineIndex.ofText t).location offset).line =
      ((LineIndex.ofText t).starts.filter (· ≤ min offset (LineIndex.ofText t).size)).length :=
    congrArg List.length (takeWhile_eq_filter (fun start : Nat => start) _ (starts_ascending t))
  rw [hclamped, hcount, hline]
  exact Nat.lt_iff_add_one_le

end EditGuard.Text
