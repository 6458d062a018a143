import EditGuard.Proofs.Text.Scan
import Mathlib.Data.List.Basic

/-! # Where a word occurs

A word may stand at several offsets of a text, and occurrences may overlap. A scan finds the first
one and goes on behind its end, so it finds one alone just when all others start within the first.
-/

namespace EditGuard.Text

/-- The word stands in the text with `offset` bytes before it. -/
def OccursAt (word t : List Char) (offset : Nat) : Prop :=
  ∃ before behind, t = before ++ word ++ behind ∧ byteLength before = offset

/-- The offsets at which a word stands, in a text that starts at a given offset. -/
def everyOffset (word : List Char) (start : Nat) : List Char → List Nat
  | [] => if word = [] then [start] else []
  | c :: rest =>
    if word.isPrefixOf (c :: rest) then start :: everyOffset word (start + c.utf8Size) rest
    else everyOffset word (start + c.utf8Size) rest

theorem occursAt_nil {word : List Char} {offset : Nat} :
    OccursAt word [] offset ↔ word = [] ∧ offset = 0 := by
  constructor
  · intro h
    obtain ⟨before, behind, ht, hoffset⟩ := h
    have hnil := List.append_eq_nil_iff.1 ht.symm
    have hfront := List.append_eq_nil_iff.1 hnil.1
    rw [hfront.1] at hoffset
    exact ⟨hfront.2, hoffset.symm⟩
  · intro h
    exact ⟨[], [], by simp [h.1], by simp [h.2]⟩

theorem occursAt_cons {word rest : List Char} {c : Char} {offset : Nat} :
    OccursAt word (c :: rest) offset ↔ (word <+: c :: rest ∧ offset = 0) ∨
      ∃ k, OccursAt word rest k ∧ offset = c.utf8Size + k := by
  constructor
  · intro h
    obtain ⟨before, behind, ht, hoffset⟩ := h
    cases before with
    | nil => exact Or.inl ⟨⟨behind, ht.symm⟩, hoffset.symm⟩
    | cons d before =>
      obtain ⟨rfl, hrest⟩ := List.cons.inj ht
      rw [byteLength_cons] at hoffset
      exact Or.inr ⟨byteLength before, ⟨before, behind, hrest, rfl⟩, hoffset.symm⟩
  · intro h
    rcases h with ⟨⟨behind, ht⟩, hoffset⟩ | ⟨k, ⟨before, behind, ht, hk⟩, hoffset⟩
    · exact ⟨[], behind, ht.symm, hoffset.symm⟩
    · exact ⟨c :: before, behind, by rw [ht]; rfl, by rw [byteLength_cons, hk, hoffset]⟩

theorem mem_everyOffset {word t : List Char} {start offset : Nat} :
    offset ∈ everyOffset word start t ↔ ∃ k, OccursAt word t k ∧ offset = start + k := by
  induction t generalizing start with
  | nil =>
    simp only [occursAt_nil, everyOffset]
    by_cases h : word = []
    · simp [h]
    · simp [h]
  | cons c rest ih =>
    have hlater : offset ∈ everyOffset word (start + c.utf8Size) rest ↔
        ∃ k, (∃ j, OccursAt word rest j ∧ k = c.utf8Size + j) ∧ offset = start + k := by
      rw [ih]
      constructor
      · intro h
        obtain ⟨j, hj, hoffset⟩ := h
        exact ⟨c.utf8Size + j, ⟨j, hj, rfl⟩, by omega⟩
      · intro h
        obtain ⟨k, ⟨j, hj, hk⟩, hoffset⟩ := h
        exact ⟨j, hj, by omega⟩
    simp only [occursAt_cons, everyOffset, or_and_right, exists_or, ← hlater]
    by_cases h : word <+: c :: rest
    · rw [if_pos (List.isPrefixOf_iff_prefix.2 h)]
      simp [h]
    · rw [if_neg (mt List.isPrefixOf_iff_prefix.1 h)]
      simp [h]

theorem occursAt_iff_mem {word t : List Char} {offset : Nat} :
    OccursAt word t offset ↔ offset ∈ everyOffset word 0 t := by
  rw [mem_everyOffset]
  simp

/-! ## What is found -/

/-- Reads the word and nothing else. -/
def wordAt (word : List Char) : Recogniser Unit :=
  fun _ t => (List.isPrefixOf? word t).map fun rest => ((), rest)

theorem wordAt_eq_some_iff {word t left : List Char} {before : Option Char} {u : Unit} :
    wordAt word before t = some (u, left) ↔ t = word ++ left := by
  rw [wordAt, Option.map_eq_some_iff]
  simp [List.isPrefixOf?_eq_some_iff_append_eq, eq_comm]

theorem wordAt_consumes {word : List Char} (hne : word ≠ []) : (wordAt word).Consumes := by
  intro before t u left h
  exact ⟨word, hne, wordAt_eq_some_iff.1 h⟩

theorem occurrences_eq (word t : List Char) :
    occurrences word t = ((wordAt word).scan t).map (·.offset) := rfl

/-- What starts behind a beginning of the text stands in the rest of it. -/
theorem occursAt_of_append {word front behind : List Char} {offset : Nat}
    (h : OccursAt word (front ++ behind) offset) (hoffset : byteLength front ≤ offset) :
    ∃ k, OccursAt word behind k ∧ offset = byteLength front + k := by
  obtain ⟨before, left, ht, hbefore⟩ := h
  rw [List.append_assoc] at ht
  rcases List.append_eq_append_iff.1 ht with ⟨gap, hgap, hbehind⟩ | ⟨gap, hgap, hleft⟩
  · have hlength : byteLength front + byteLength gap = offset := by
      rw [← byteLength_append, ← hgap, hbefore]
    exact ⟨byteLength gap, ⟨gap, left, by rw [hbehind, List.append_assoc], rfl⟩, hlength.symm⟩
  · have hlength : byteLength front = byteLength before + byteLength gap := by
      rw [hgap, byteLength_append]
    have hnil : gap = [] := by
      apply eq_nil_of_byteLength (s := before)
      rw [byteLength_append]
      omega
    rw [hnil, List.append_nil] at hgap
    rw [hnil, List.nil_append] at hleft
    refine ⟨0, ⟨[], left, hleft.symm, rfl⟩, ?_⟩
    rw [hgap, hbefore, Nat.add_zero]

/-- A scan finds the first occurrence and goes on behind it. -/
theorem scanFrom_first {word : List Char} (hne : word ≠ []) (before : Option Char) (offset : Nat)
    (t : List Char) (h : word <:+: t) :
    ∃ front left, t = front ++ word ++ left ∧ (∀ k, OccursAt word t k → byteLength front ≤ k) ∧
      (wordAt word).scanFrom 0 before offset t = ⟨offset + byteLength front, word, ()⟩ ::
        (wordAt word).scanFrom 0 word.getLast? (offset + byteLength (front ++ word)) left := by
  induction before, offset, t using Recogniser.scan_induction (wordAt_consumes hne) with
  | nil before offset => exact absurd (List.infix_nil.1 h) hne
  | pass before offset c t hpass ih =>
    have hprefix : ¬ word <+: c :: t := by
      intro hprefix
      obtain ⟨rest, hrest⟩ := hprefix
      have hread : wordAt word before (c :: t) = some ((), rest) :=
        wordAt_eq_some_iff.2 hrest.symm
      rw [hread] at hpass
      exact absurd hpass (by simp)
    have hin : word <:+: t := (List.infix_cons_iff.1 h).resolve_left hprefix
    obtain ⟨front, left, ht, hfirst, hscan⟩ := ih hin
    refine ⟨c :: front, left, by rw [ht]; rfl, ?_, ?_⟩
    · intro k hk
      obtain ⟨j, hj, hoffset⟩ := (occursAt_cons.1 hk).resolve_left fun hhere => hprefix hhere.1
      have hle := hfirst j hj
      rw [byteLength_cons]
      omega
    · rw [Recogniser.scanFrom_pass hpass, hscan, List.cons_append, byteLength_cons,
        byteLength_cons, Nat.add_assoc, Nat.add_assoc]
  | hit before offset lexeme left value ne hhit ih =>
    have hlexeme : lexeme = word := List.append_cancel_right (wordAt_eq_some_iff.1 hhit)
    refine ⟨[], left, by rw [hlexeme]; rfl, fun k _ => Nat.zero_le k, ?_⟩
    rw [Recogniser.scanFrom_hit hhit ne, hlexeme]
    rfl

theorem scanFrom_eq_nil_iff {word : List Char} (hne : word ≠ []) (before : Option Char)
    (offset : Nat) (t : List Char) :
    (wordAt word).scanFrom 0 before offset t = [] ↔ ¬ word <:+: t := by
  constructor
  · intro hnil hin
    obtain ⟨front, left, -, -, hscan⟩ := scanFrom_first hne before offset t hin
    rw [hscan] at hnil
    cases hnil
  · intro hout
    apply List.eq_nil_iff_forall_not_mem.2
    intro hit hm
    obtain ⟨front, left, ht, -, -, hread⟩ :=
      Recogniser.scanFrom_spec (wordAt_consumes hne) before offset t hit hm
    have hlexeme : hit.lexeme = word := List.append_cancel_right (wordAt_eq_some_iff.1 hread)
    rw [hlexeme] at ht
    exact hout ⟨front, left, ht.symm⟩

theorem infix_iff_occursAt {word t : List Char} : word <:+: t ↔ ∃ k, OccursAt word t k := by
  constructor
  · intro h
    obtain ⟨before, behind, ht⟩ := h
    exact ⟨byteLength before, before, behind, ht.symm, rfl⟩
  · intro h
    obtain ⟨k, before, behind, ht, -⟩ := h
    exact ⟨before, behind, ht.symm⟩

/-- One find is all when nothing starts behind the end of the first occurrence. -/
theorem occurrences_eq_singleton_iff {word t : List Char} (hne : word ≠ []) {offset : Nat} :
    occurrences word t = [offset] ↔ OccursAt word t offset ∧
      ∀ k, OccursAt word t k → offset ≤ k ∧ k < offset + byteLength word := by
  have hpositive : 0 < byteLength word := byteLength_pos hne
  by_cases hin : word <:+: t
  · obtain ⟨front, left, ht, hfirst, hscan⟩ := scanFrom_first hne none 0 t hin
    have hfound : occurrences word t = byteLength front ::
        ((wordAt word).scanFrom 0 word.getLast? (0 + byteLength (front ++ word)) left).map
          (·.offset) := by
      rw [occurrences_eq, Recogniser.scan, hscan, List.map_cons, Nat.zero_add]
    have hhere : OccursAt word t (byteLength front) := ⟨front, left, ht, rfl⟩
    rw [hfound, List.cons.injEq, List.map_eq_nil_iff, scanFrom_eq_nil_iff hne]
    constructor
    · intro h
      obtain ⟨rfl, hlast⟩ := h
      refine ⟨hhere, fun k hk => ⟨hfirst k hk, Nat.lt_of_not_le ?_⟩⟩
      intro hbehind
      rw [ht] at hk
      have hfront : byteLength (front ++ word) ≤ k := by rw [byteLength_append]; omega
      obtain ⟨j, hj, -⟩ := occursAt_of_append hk hfront
      exact hlast (infix_iff_occursAt.2 ⟨j, hj⟩)
    · intro h
      obtain ⟨hat, hall⟩ := h
      have hle := hfirst offset hat
      have hge := (hall _ hhere).1
      refine ⟨by omega, ?_⟩
      intro hmore
      obtain ⟨before, behind, hleft⟩ := hmore
      have hlater : OccursAt word t (byteLength (front ++ word ++ before)) :=
        ⟨front ++ word ++ before, behind, by rw [ht, ← hleft]; simp, rfl⟩
      have hlt := (hall _ hlater).2
      rw [byteLength_append, byteLength_append] at hlt
      omega
  · have hnone := (scanFrom_eq_nil_iff hne none 0 t).2 hin
    have hempty : occurrences word t = [] := by
      rw [occurrences_eq, Recogniser.scan, hnone, List.map_nil]
    rw [hempty]
    constructor
    · intro h
      cases h
    · intro h
      exact absurd (infix_iff_occursAt.2 ⟨offset, h.1⟩) hin

/-- A word that stands at one offset only is found there. -/
theorem occurrences_eq_singleton {word t : List Char} (hne : word ≠ []) {offset : Nat}
    (h : ∀ k, OccursAt word t k ↔ k = offset) : occurrences word t = [offset] := by
  have hpositive : 0 < byteLength word := byteLength_pos hne
  refine (occurrences_eq_singleton_iff hne).2 ⟨(h offset).2 rfl, ?_⟩
  intro k hk
  have hk' : k = offset := (h k).1 hk
  omega

theorem exists_first_occurrence {word t : List Char} (hne : word ≠ []) {k : Nat}
    (h : OccursAt word t k) :
    ∃ offset, OccursAt word t offset ∧ ∀ k, OccursAt word t k → offset ≤ k := by
  obtain ⟨front, left, ht, hfirst, -⟩ := scanFrom_first hne none 0 t (infix_iff_occursAt.2 ⟨k, h⟩)
  exact ⟨byteLength front, ⟨front, left, ht, rfl⟩, hfirst⟩

/-! ## Words that overlap themselves -/

/-- A beginning of the word, neither empty nor all of it, is also its end. -/
def OverlapsItself (word : List Char) : Prop :=
  ∃ front overlap back, front ≠ [] ∧ overlap ≠ [] ∧ word = front ++ overlap ∧
    word = overlap ++ back

theorem OccursAt.le {word t : List Char} {k : Nat} (h : OccursAt word t k) :
    k + byteLength word ≤ byteLength t := by
  obtain ⟨before, behind, ht, hk⟩ := h
  rw [ht, byteLength_append, byteLength_append, hk]
  omega

/-- A word that starts again before it has ended overlaps itself. -/
theorem overlapsItself_of_occursAt {word t : List Char} {j k : Nat} (hj : OccursAt word t j)
    (hk : OccursAt word t k) (hlater : j < k) (hwithin : k < j + byteLength word) :
    OverlapsItself word := by
  obtain ⟨before, behind, ht, hbefore⟩ := hj
  rw [ht, List.append_assoc] at hk
  obtain ⟨m, ⟨front, rest, hrest, hfront⟩, hm⟩ := occursAt_of_append hk (by omega)
  rw [List.append_assoc] at hrest
  -- The second occurrence starts in the first one, and so ends behind it.
  obtain ⟨overlap, hword, htail⟩ : ∃ overlap, word = front ++ overlap ∧
      word ++ rest = overlap ++ behind := by
    rcases List.append_eq_append_iff.1 hrest with ⟨gap, hgap, -⟩ | ⟨gap, hgap, htail⟩
    · rw [hgap, byteLength_append] at hfront
      omega
    · exact ⟨gap, hgap, htail⟩
  have hlength : byteLength word = byteLength front + byteLength overlap := by
    rw [hword, byteLength_append]
  have hback : ∃ back, word = overlap ++ back := by
    rcases List.append_eq_append_iff.1 htail with ⟨gap, hgap, -⟩ | ⟨gap, hgap, -⟩
    · rw [hgap, byteLength_append] at hlength
      omega
    · exact ⟨gap, hgap⟩
  obtain ⟨back, hback⟩ := hback
  refine ⟨front, overlap, back, ?_, ?_, hword, hback⟩
  · intro hnil
    rw [hnil, byteLength_nil] at hfront
    omega
  · intro hnil
    rw [hnil, byteLength_nil] at hlength
    omega

/-- Of a word that overlaps itself a scan may find one occurrence where there are two. -/
theorem OverlapsItself.exists_hidden {word : List Char} (h : OverlapsItself word) :
    ∃ t k, occurrences word t = [0] ∧ OccursAt word t k ∧ k ≠ 0 := by
  obtain ⟨front, overlap, back, hfront, hoverlap, hword, hback⟩ := h
  have hne : word ≠ [] := by
    rw [hword]
    exact List.append_ne_nil_of_right_ne_nil front hoverlap
  have hsecond : OccursAt word (front ++ word) (byteLength front) :=
    ⟨front, [], (List.append_nil _).symm, rfl⟩
  have hfirst : OccursAt word (front ++ word) 0 := by
    refine ⟨[], back, ?_, rfl⟩
    rw [List.nil_append]
    calc front ++ word = front ++ (overlap ++ back) := by rw [← hback]
      _ = word ++ back := by rw [← List.append_assoc, ← hword]
  have hshort : byteLength front < byteLength word := by
    have hpositive := byteLength_pos hoverlap
    rw [hword, byteLength_append]
    omega
  refine ⟨front ++ word, byteLength front, ?_, hsecond, Nat.ne_of_gt (byteLength_pos hfront)⟩
  refine (occurrences_eq_singleton_iff hne).2 ⟨hfirst, fun k hk => ⟨Nat.zero_le k, ?_⟩⟩
  have hle := hk.le
  rw [byteLength_append] at hle
  omega

end EditGuard.Text
