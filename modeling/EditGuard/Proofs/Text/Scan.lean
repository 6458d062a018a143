import EditGuard.Text.Scan

/-! # What a scan finds

A recogniser that consumes what it matches is scanned match by match, so the hits of a scan stand
in the text where their offsets say, one behind the end of the other. A recogniser that in addition
never looks behind a mark, such as the end of its line, is scanned part by part: the hits of a text
that ends in the mark and of what follows it are the hits of the first followed by those of the
second.
-/

namespace EditGuard.Text

/-- A text that breaks off nowhere but at the end of a line. -/
def WholeLines (t : List Char) : Prop := t = [] ∨ t.getLast? = some '\n'

theorem WholeLines.newline (t : List Char) : WholeLines (t ++ ['\n']) := Or.inr (by simp)

theorem exists_part_of_getLast? {mark : Char} {t : List Char} (h : t.getLast? = some mark) :
    ∃ part rest, t = part ++ mark :: rest ∧ mark ∉ part := by
  have hm : mark ∈ t := List.mem_of_getLast? h
  exact List.eq_append_cons_of_mem hm

theorem byteLength_pos {t : List Char} (h : t ≠ []) : 0 < byteLength t := by
  obtain ⟨c, rest, rfl⟩ := List.exists_cons_of_ne_nil h
  have := c.utf8Size_pos
  rw [byteLength_cons]; omega

theorem eq_nil_of_byteLength {s d : List Char} (h : byteLength (s ++ d) = byteLength s) :
    d = [] := by
  cases d with
  | nil => rfl
  | cons c d =>
    have := c.utf8Size_pos
    rw [byteLength_append, byteLength_cons] at h
    omega

theorem append_inj_of_byteLength {s s' t t' : List Char} (h : s ++ t = s' ++ t')
    (hlen : byteLength s = byteLength s') : s = s' ∧ t = t' := by
  rcases List.append_eq_append_iff.1 h with ⟨d, rfl, rfl⟩ | ⟨d, rfl, rfl⟩
  · have hd : d = [] := eq_nil_of_byteLength hlen.symm
    simp [hd]
  · have hd : d = [] := eq_nil_of_byteLength hlen
    simp [hd]

theorem getLast?_cons_or (c : Char) (t : List Char) (before : Option Char) :
    (c :: t).getLast?.or before = t.getLast?.or (some c) := by
  cases t <;> simp [List.getLast?_cons]

namespace Hit

def shift {α : Type} (k : Nat) (h : Hit α) : Hit α := { h with offset := k + h.offset }

@[simp] theorem shift_offset {α : Type} (k : Nat) (h : Hit α) :
    (h.shift k).offset = k + h.offset := rfl

@[simp] theorem shift_value {α : Type} (k : Nat) (h : Hit α) : (h.shift k).value = h.value := rfl

end Hit

namespace Recogniser

variable {α : Type} {r : Recogniser α}

/-- A match takes at least one character and leaves what follows. -/
def Consumes (r : Recogniser α) : Prop :=
  ∀ ⦃before t value left⦄, r before t = some (value, left) →
    ∃ lexeme, lexeme ≠ [] ∧ t = lexeme ++ left

/-! ## Single steps -/

@[simp] theorem scanFrom_nil (r : Recogniser α) (skip : Nat) (before : Option Char)
    (offset : Nat) : r.scanFrom skip before offset [] = [] := by
  cases skip <;> rfl

theorem scanFrom_pass {before : Option Char} {c : Char} {t : List Char}
    (h : r before (c :: t) = none) (offset : Nat) :
    r.scanFrom 0 before offset (c :: t) = r.scanFrom 0 (some c) (offset + c.utf8Size) t := by
  simp [scanFrom, h]

theorem scanFrom_skip (r : Recogniser α) (skipped t : List Char) (before : Option Char)
    (offset : Nat) :
    r.scanFrom skipped.length before offset (skipped ++ t) =
      r.scanFrom 0 (skipped.getLast?.or before) (offset + byteLength skipped) t := by
  induction skipped generalizing before offset with
  | nil => simp
  | cons c skipped ih =>
    simp only [List.length_cons, List.cons_append, scanFrom, ih, getLast?_cons_or,
      byteLength_cons, Nat.add_assoc]

theorem scanFrom_hit {before : Option Char} {lexeme left : List Char} {value : α}
    (h : r before (lexeme ++ left) = some (value, left)) (ne : lexeme ≠ []) (offset : Nat) :
    r.scanFrom 0 before offset (lexeme ++ left) =
      ⟨offset, lexeme, value⟩ ::
        r.scanFrom 0 lexeme.getLast? (offset + byteLength lexeme) left := by
  obtain ⟨c, rest, rfl⟩ := List.exists_cons_of_ne_nil ne
  have htaken : (rest ++ left).length + 1 - left.length = rest.length + 1 := by
    rw [List.length_append]; omega
  have hlast : (c :: rest).getLast? = rest.getLast?.or (some c) := by
    rw [← getLast?_cons_or c rest none, Option.or_none]
  rw [List.cons_append] at h ⊢
  simp only [scanFrom, h, htaken, Nat.add_sub_cancel, scanFrom_skip, hlast, byteLength_cons,
    Nat.add_assoc]
  simp

/-- A scan ends, passes over a character or takes a match: what holds at the end and is kept by
the two steps holds of every scan. -/
theorem scan_induction (hr : r.Consumes) {P : Option Char → Nat → List Char → Prop}
    (nil : ∀ before offset, P before offset [])
    (pass : ∀ before offset c t, r before (c :: t) = none →
      P (some c) (offset + c.utf8Size) t → P before offset (c :: t))
    (hit : ∀ before offset lexeme left value, lexeme ≠ [] →
      r before (lexeme ++ left) = some (value, left) →
      P lexeme.getLast? (offset + byteLength lexeme) left → P before offset (lexeme ++ left))
    (before : Option Char) (offset : Nat) (t : List Char) : P before offset t := by
  induction hn : t.length using Nat.strongRecOn generalizing before offset t with
  | ind n ih =>
    cases t with
    | nil => exact nil before offset
    | cons c t =>
      cases h : r before (c :: t) with
      | none =>
        refine pass before offset c t h (ih t.length ?_ _ _ t rfl)
        rw [← hn, List.length_cons]; omega
      | some found =>
        obtain ⟨value, left⟩ := found
        obtain ⟨lexeme, ne, ht⟩ := hr h
        have hlt : left.length < n := by
          have := List.length_pos_iff.2 ne
          rw [← hn, ht, List.length_append]; omega
        rw [ht] at h ⊢
        exact hit before offset lexeme left value ne h (ih left.length hlt _ _ left rfl)

/-! ## Where the hits stand -/

theorem scanFrom_spec (hr : r.Consumes) (before : Option Char) (offset : Nat) (t : List Char) :
    ∀ h ∈ r.scanFrom 0 before offset t, ∃ pre left, t = pre ++ h.lexeme ++ left ∧
      h.offset = offset + byteLength pre ∧ h.lexeme ≠ [] ∧
      r (pre.getLast?.or before) (h.lexeme ++ left) = some (h.value, left) := by
  induction before, offset, t using scan_induction hr with
  | nil before offset => simp
  | pass before offset c t hpass ih =>
    intro h hm
    rw [scanFrom_pass hpass] at hm
    obtain ⟨pre, left, ht, hoff, ne, hrec⟩ := ih h hm
    refine ⟨c :: pre, left, by simp [ht], by simp [hoff, Nat.add_assoc], ne, ?_⟩
    rw [getLast?_cons_or]
    exact hrec
  | hit before offset lexeme left value ne hhit ih =>
    intro h hm
    rw [scanFrom_hit hhit ne] at hm
    rcases List.mem_cons.1 hm with rfl | hm
    · exact ⟨[], left, by simp, by simp, ne, by simpa using hhit⟩
    · obtain ⟨pre, left', ht, hoff, ne', hrec⟩ := ih h hm
      refine ⟨lexeme ++ pre, left', by simp [ht], by simp [hoff, Nat.add_assoc], ne', ?_⟩
      have hlast : (lexeme ++ pre).getLast?.or before = pre.getLast?.or lexeme.getLast? := by
        cases hl : lexeme.getLast? with
        | none => exact absurd (List.getLast?_eq_none_iff.1 hl) ne
        | some d => cases pre <;> simp [List.getLast?_append, List.getLast?_cons, hl]
      rw [hlast]
      exact hrec

/-- A hit stands in the text at its offset, and the recogniser matches it there. -/
theorem mem_scan (hr : r.Consumes) {t : List Char} {h : Hit α} (hm : h ∈ r.scan t) :
    ∃ pre left, t = pre ++ h.lexeme ++ left ∧ h.offset = byteLength pre ∧ h.lexeme ≠ [] ∧
      r pre.getLast? (h.lexeme ++ left) = some (h.value, left) := by
  obtain ⟨pre, left, ht, hoff, ne, hrec⟩ := scanFrom_spec hr none 0 t h hm
  exact ⟨pre, left, ht, by simpa using hoff, ne, by simpa using hrec⟩

theorem offset_lt_of_mem_scan (hr : r.Consumes) {t : List Char} {h : Hit α}
    (hm : h ∈ r.scan t) : h.offset < byteLength t := by
  obtain ⟨pre, left, ht, hoff, ne, -⟩ := mem_scan hr hm
  have := byteLength_pos ne
  rw [hoff, ht, byteLength_append, byteLength_append]; omega

theorem scanFrom_apart (hr : r.Consumes) (before : Option Char) (offset : Nat) (t : List Char) :
    (r.scanFrom 0 before offset t).Pairwise fun h h' =>
      h.offset + byteLength h.lexeme ≤ h'.offset := by
  induction before, offset, t using scan_induction hr with
  | nil before offset => simp
  | pass before offset c t hpass ih => rwa [scanFrom_pass hpass]
  | hit before offset lexeme left value ne hhit ih =>
    rw [scanFrom_hit hhit ne, List.pairwise_cons]
    refine ⟨?_, ih⟩
    intro h hm
    obtain ⟨pre, -, -, hoff, -⟩ := scanFrom_spec hr _ _ left h hm
    rw [hoff]
    exact Nat.le_add_right _ _

/-- Every hit ends before the next one starts. -/
theorem scan_apart (hr : r.Consumes) (t : List Char) :
    (r.scan t).Pairwise fun h h' => h.offset + byteLength h.lexeme ≤ h'.offset :=
  scanFrom_apart hr none 0 t

/-- Hits come in the order of their offsets, no two at one offset. -/
theorem scan_ascending (hr : r.Consumes) (t : List Char) :
    (r.scan t).Pairwise fun h h' => h.offset < h'.offset := by
  refine (scan_apart hr t).imp_of_mem ?_
  intro h h' hm _ hle
  obtain ⟨-, -, -, -, ne, -⟩ := mem_scan hr hm
  have := byteLength_pos ne
  omega

/-! ## Part by part -/

/-- A recogniser that sees nothing behind the next mark, and for which a text may start there. -/
structure BoundBy (r : Recogniser α) (mark : Char) : Prop where
  consumes : r.Consumes
  start : ∀ t, r (some mark) t = r none t
  seam : ∀ before part rest, mark ∉ part → r before (part ++ mark :: rest) =
    (r before (part ++ [mark])).map fun (value, left) => (value, left ++ rest)

/-- A recogniser that sees nothing behind the end of the line in which it starts, and for which
the start of the text is the start of a line. -/
abbrev LineBound (r : Recogniser α) : Prop := r.BoundBy '\n'

variable {mark : Char}

/-- What follows a text that ends in the mark changes no match in it. -/
theorem BoundBy.append (hr : r.BoundBy mark) {s : List Char} (hs : s.getLast? = some mark)
    (before : Option Char) (t : List Char) :
    r before (s ++ t) = (r before s).map fun (value, left) => (value, left ++ t) := by
  obtain ⟨part, rest, rfl, hpart⟩ := exists_part_of_getLast? hs
  rw [List.append_assoc, List.cons_append, hr.seam before part (rest ++ t) hpart,
    hr.seam before part rest hpart]
  cases r before (part ++ [mark]) with
  | none => rfl
  | some found => simp

theorem scanFrom_shift (r : Recogniser α) (skip k : Nat) (before : Option Char) (offset : Nat)
    (t : List Char) :
    r.scanFrom skip before (k + offset) t =
      (r.scanFrom skip before offset t).map (Hit.shift k) := by
  induction t generalizing skip before offset with
  | nil => simp
  | cons c t ih =>
    cases skip with
    | succ skip => simp only [scanFrom, Nat.add_assoc, ih]
    | zero =>
      cases h : r before (c :: t) with
      | none => simp only [scanFrom, h, Nat.add_assoc, ih]
      | some found => simp [scanFrom, h, Nat.add_assoc, ih, Hit.shift]

theorem BoundBy.scanFrom_start (hr : r.BoundBy mark) {before : Option Char}
    (hb : before = none ∨ before = some mark) (offset : Nat) (t : List Char) :
    r.scanFrom 0 before offset t = r.scanFrom 0 none offset t := by
  rcases hb with rfl | rfl
  · rfl
  · cases t with
    | nil => simp
    | cons c t => simp only [scanFrom, hr.start]

theorem BoundBy.scanFrom_append (hr : r.BoundBy mark) (before : Option Char) (offset : Nat)
    (s t : List Char) (hs : s.getLast?.or before = none ∨ s.getLast?.or before = some mark) :
    r.scanFrom 0 before offset (s ++ t) =
      r.scanFrom 0 before offset s ++ r.scanFrom 0 none (offset + byteLength s) t := by
  induction before, offset, s using scan_induction hr.consumes with
  | nil before offset =>
    simpa using hr.scanFrom_start (by simpa using hs) offset t
  | pass before offset c s hpass ih =>
    have hend : (c :: s).getLast? = some mark := by simpa [List.getLast?_cons] using hs
    have hpass' : r before (c :: (s ++ t)) = none := by
      rw [← List.cons_append, hr.append hend, hpass]; rfl
    have hs' : s.getLast?.or (some c) = none ∨ s.getLast?.or (some c) = some mark := by
      cases s <;> simp_all [List.getLast?_cons]
    rw [List.cons_append, scanFrom_pass hpass', scanFrom_pass hpass, ih hs', byteLength_cons,
      Nat.add_assoc]
  | hit before offset lexeme left value ne hhit ih =>
    have hend : (lexeme ++ left).getLast? = some mark := by
      cases hl : (lexeme ++ left).getLast? with
      | none => exact absurd (List.append_eq_nil_iff.1 (List.getLast?_eq_none_iff.1 hl)).1 ne
      | some d => simpa [hl] using hs
    have hhit' : r before (lexeme ++ (left ++ t)) = some (value, left ++ t) := by
      rw [← List.append_assoc, hr.append hend, hhit]; rfl
    have hs' : left.getLast?.or lexeme.getLast? = none ∨
        left.getLast?.or lexeme.getLast? = some mark := by
      rw [← List.getLast?_append]; exact Or.inr hend
    rw [List.append_assoc, scanFrom_hit hhit' ne, scanFrom_hit hhit ne, ih hs', byteLength_append,
      List.cons_append, Nat.add_assoc]

/-- The seam of a scan: behind the mark it starts afresh. -/
theorem BoundBy.scan_append (hr : r.BoundBy mark) {s : List Char}
    (hs : s = [] ∨ s.getLast? = some mark) (t : List Char) :
    r.scan (s ++ t) = r.scan s ++ (r.scan t).map (Hit.shift (byteLength s)) := by
  have hend : s.getLast?.or none = none ∨ s.getLast?.or none = some mark := by
    rcases hs with rfl | hs
    · simp
    · simp [hs]
  unfold scan
  rw [hr.scanFrom_append none 0 s t hend, Nat.zero_add, ← scanFrom_shift, Nat.add_zero]

end Recogniser

end EditGuard.Text
