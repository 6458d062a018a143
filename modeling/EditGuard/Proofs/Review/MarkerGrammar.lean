import EditGuard.Proofs.Text.Lines
import EditGuard.Proofs.Text.Scan
import EditGuard.Proofs.Text.Words
import EditGuard.Review.Marker
import Mathlib.Data.List.Basic

/-! # The grammar of status markers

A marker is an opener, which runs from `<!--` to the gap behind the status word, and an ending. The
recogniser reads exactly the texts of this grammar, and none of them reaches over its line.
-/

namespace EditGuard.Review.MarkerText

open Text

/-! ## Closings -/

theorem not_closing_prefix_of_ne {c : Char} {t : List Char} (hc : c ≠ '-') :
    ¬ closing <+: c :: t := by
  rintro ⟨s, hs⟩
  simp only [closing, List.cons_append, List.cons.injEq] at hs
  exact hc hs.1.symm

/-- No closing ends in a text without a greater-than sign. -/
theorem closing_infix_append {s t : List Char} (ht : '>' ∉ t) :
    closing <:+: s ++ t ↔ closing <:+: s := by
  constructor
  · rintro ⟨a, b, h⟩
    rcases List.append_eq_append_iff.1 h with ⟨d, hs, -⟩ | ⟨d, hs, hd⟩
    · exact ⟨a, d, hs.symm⟩
    · cases d with
      | nil => exact ⟨a, [], by simpa using hs⟩
      | cons c d =>
        exfalso
        have hgt : '>' ∈ c :: d := by
          have hlast : (a ++ closing).getLast? = some '>' := by simp [closing]
          rw [hs, List.getLast?_append] at hlast
          exact List.mem_of_getLast? (by simpa [List.getLast?_cons] using hlast)
        exact ht (by rw [hd]; exact List.mem_append_left b hgt)
  · rintro ⟨a, b, h⟩
    exact ⟨a, b ++ t, by rw [← h]; simp⟩

/-- No closing starts in a text without a greater-than sign that does not end in a dash. -/
theorem closing_infix_prepend {s t : List Char} (hs : '>' ∉ s) (hl : s.getLast? ≠ some '-') :
    closing <:+: s ++ t ↔ closing <:+: t := by
  induction s with
  | nil => simp
  | cons c s ih =>
    have hs' : '>' ∉ s := fun hm => hs (List.mem_cons_of_mem c hm)
    have hl' : s.getLast? ≠ some '-' := by
      intro h
      exact hl (by simp [List.getLast?_cons, h])
    rw [List.cons_append, List.infix_cons_iff, ih hs' hl', or_iff_right]
    rintro ⟨u, hu⟩
    simp only [closing, List.cons_append, List.nil_append, List.cons.injEq] at hu
    obtain ⟨rfl, hu⟩ := hu
    cases s with
    | nil => simp at hl
    | cons d s =>
      simp only [List.cons_append, List.cons.injEq] at hu
      obtain ⟨rfl, hu⟩ := hu
      cases s with
      | nil => simp at hl
      | cons e s =>
        simp only [List.cons_append, List.cons.injEq] at hu
        exact hs (by simp [← hu.1])

theorem gt_not_mem_gap {gap : List Char} (h : gap.all isGap = true) : '>' ∉ gap :=
  not_mem_of_all_isGap h (by decide)

theorem dash_not_last_of_gap {gap : List Char} (h : gap.all isGap = true) :
    gap.getLast? ≠ some '-' := by
  intro hl
  exact not_mem_of_all_isGap h (by decide) (List.mem_of_getLast? hl)

theorem close?_eq_some_iff {t left : List Char} :
    close? t = some left ↔ ∃ gap, gap.all isGap = true ∧ t = gap ++ closing ++ left := by
  unfold close?
  rw [List.isPrefixOf?_eq_some_iff_append_eq, eq_comm, dropWhile_isGap_eq_iff]
  constructor
  · rintro ⟨gap, hgap, ht, -⟩
    exact ⟨gap, hgap, by simp [ht]⟩
  · rintro ⟨gap, hgap, ht⟩
    exact ⟨gap, hgap, by simp [ht], by simp [closing, isGap]⟩

/-! ## The context -/

theorem contextUntilClose?_of_close {t left : List Char} (h : close? t = some left) :
    contextUntilClose? t = some ([], left) := by
  cases t with
  | nil => simp [close?, List.isPrefixOf?, closing] at h
  | cons c t => simp [contextUntilClose?, h]

theorem contextUntilClose?_of_no_close {c : Char} {t : List Char} (h : close? (c :: t) = none) :
    contextUntilClose? (c :: t) =
      if c = '\n' then none
      else (contextUntilClose? t).map fun (context, left) => (c :: context, left) := by
  simp [contextUntilClose?, h]

/-- A gap and a closing cannot start inside a note that holds no closing and does not end in a
gap. -/
theorem close?_note_eq_none {note gap : List Char} (left : List Char) (hne : note ≠ [])
    (hgap : gap.all isGap = true) (hopen : ¬ closing <:+: note)
    (hlast : ∀ c ∈ note.getLast?, isGap c = false) :
    close? (note ++ gap ++ closing ++ left) = none := by
  rw [Option.eq_none_iff_forall_ne_some]
  intro left' h
  obtain ⟨gap', hgap', ht⟩ := close?_eq_some_iff.1 h
  have notGap : ¬ note.all isGap = true := by
    intro hall
    obtain ⟨c, hc⟩ := Option.ne_none_iff_exists'.1 (mt List.getLast?_eq_none_iff.1 hne)
    rw [List.all_eq_true] at hall
    have := hall c (List.mem_of_getLast? hc)
    rw [hlast c hc] at this
    exact Bool.false_ne_true this
  simp only [List.append_assoc] at ht
  rcases List.append_eq_append_iff.1 ht with ⟨d, rfl, hd⟩ | ⟨d, rfl, hd⟩
  · rw [List.all_append, Bool.and_eq_true] at hgap'
    exact notGap hgap'.1
  · -- The closing would start `d` before the end of the note: too little for a whole closing.
    match d, hd with
    | [], _ => exact notGap (by simpa using hgap')
    | a :: b :: c :: d, hd =>
      simp only [closing, List.cons_append, List.nil_append, List.cons.injEq] at hd
      obtain ⟨rfl, rfl, rfl, -⟩ := hd
      exact hopen ⟨gap', d, by simp [closing]⟩
    | [a], hd =>
      cases gap with
      | nil => simp [closing] at hd
      | cons g gap =>
        simp only [closing, List.cons_append, List.nil_append, List.cons.injEq] at hd
        simp [← hd.2.1, isGap] at hgap
    | [a, b], hd =>
      cases gap with
      | nil => simp [closing] at hd
      | cons g gap =>
        simp only [closing, List.cons_append, List.nil_append, List.cons.injEq] at hd
        simp [← hd.2.2.1, isGap] at hgap

theorem exists_note_of_contextUntilClose? {t note left : List Char}
    (h : contextUntilClose? t = some (note, left)) :
    ∃ gap, gap.all isGap = true ∧ t = note ++ gap ++ closing ++ left ∧ '\n' ∉ note ∧
      ¬ closing <:+: note ∧ ∀ c ∈ note.getLast?, isGap c = false := by
  induction t generalizing note with
  | nil => simp [contextUntilClose?] at h
  | cons c t ih =>
    cases hclose : close? (c :: t) with
    | some left' =>
      rw [contextUntilClose?_of_close hclose] at h
      obtain ⟨rfl, rfl⟩ : [] = note ∧ left' = left := by simpa using h
      obtain ⟨gap, hgap, ht⟩ := close?_eq_some_iff.1 hclose
      exact ⟨gap, hgap, by simpa using ht, by simp, by simp [closing], by simp⟩
    | none =>
      rw [contextUntilClose?_of_no_close hclose] at h
      by_cases hc : c = '\n'
      · simp [hc] at h
      · rw [if_neg hc] at h
        obtain ⟨⟨note', left'⟩, hrec, heq⟩ := Option.map_eq_some_iff.1 h
        obtain ⟨rfl, rfl⟩ : c :: note' = note ∧ left' = left := by simpa using heq
        obtain ⟨gap, hgap, rfl, hline, hopen, hlast⟩ := ih hrec
        refine ⟨gap, hgap, rfl, by simpa [Ne.symm hc] using hline, ?_, ?_⟩
        · rw [List.infix_cons_iff, or_iff_left hopen]
          rintro ⟨u, hu⟩
          have hsome : close? (c :: (note' ++ gap ++ closing ++ left')) =
              some (u ++ gap ++ closing ++ left') :=
            close?_eq_some_iff.2 ⟨[], rfl, by simp [← List.cons_append, ← hu]⟩
          rw [hsome] at hclose
          exact absurd hclose (by simp)
        · intro d hd
          cases note' with
          | cons e note' => exact hlast d (by simpa [List.getLast?_cons] using hd)
          | nil =>
            obtain rfl : c = d := by simpa using hd
            rw [← Bool.not_eq_true]
            intro hg
            have hsome : close? (c :: ([] ++ gap ++ closing ++ left')) = some left' :=
              close?_eq_some_iff.2 ⟨c :: gap, by rw [List.all_cons, hg, hgap]; rfl, by simp⟩
            rw [hsome] at hclose
            exact absurd hclose (by simp)

theorem contextUntilClose?_note {note gap : List Char} (left : List Char)
    (hgap : gap.all isGap = true) (hline : '\n' ∉ note) (hopen : ¬ closing <:+: note)
    (hlast : ∀ c ∈ note.getLast?, isGap c = false) :
    contextUntilClose? (note ++ gap ++ closing ++ left) = some (note, left) := by
  induction note with
  | nil => exact contextUntilClose?_of_close (close?_eq_some_iff.2 ⟨gap, hgap, by simp⟩)
  | cons c note ih =>
    have hnone := close?_note_eq_none left (by simp) hgap hopen hlast
    obtain ⟨hc, hline⟩ : '\n' ≠ c ∧ '\n' ∉ note := by simpa using hline
    have hopen' : ¬ closing <:+: note := fun h => hopen (h.trans (List.suffix_cons c note).isInfix)
    have hlast' : ∀ d ∈ note.getLast?, isGap d = false := by
      intro d hd
      exact hlast d (by simp [List.getLast?_cons, Option.mem_def.1 hd])
    simp only [List.cons_append] at hnone ⊢
    rw [contextUntilClose?_of_no_close hnone, if_neg hc.symm, ih hline hopen' hlast']
    rfl

/-- The context read is the text up to the gap before the first closing of the line. -/
theorem contextUntilClose?_eq_some_iff {t note left : List Char} :
    contextUntilClose? t = some (note, left) ↔
      ∃ gap, gap.all isGap = true ∧ t = note ++ gap ++ closing ++ left ∧ '\n' ∉ note ∧
        ¬ closing <:+: note ∧ ∀ c ∈ note.getLast?, isGap c = false := by
  constructor
  · exact exists_note_of_contextUntilClose?
  · rintro ⟨gap, hgap, rfl, hline, hopen, hlast⟩
    exact contextUntilClose?_note left hgap hline hopen hlast

theorem contextUntilClose?_eq_none_iff {t : List Char} :
    contextUntilClose? t = none ↔ ¬ closing <:+: firstLine t := by
  induction t with
  | nil => simp [contextUntilClose?, firstLine, closing]
  | cons c t ih =>
    cases hclose : close? (c :: t) with
    | some left =>
      obtain ⟨gap, hgap, ht⟩ := close?_eq_some_iff.1 hclose
      have hline : '\n' ∉ gap ++ closing := by
        simp [closing, not_mem_of_all_isGap hgap (by decide : isGap '\n' = false)]
      have hfirst : firstLine (c :: t) = gap ++ closing ++ firstLine left := by
        rw [ht, firstLine_append hline]
      simp only [contextUntilClose?_of_close hclose, reduceCtorEq, false_iff, hfirst]
      exact not_not_intro ⟨gap, firstLine left, rfl⟩
    | none =>
      rw [contextUntilClose?_of_no_close hclose]
      by_cases hc : c = '\n'
      · subst hc
        simp [firstLine, closing]
      · have hfirst : firstLine (c :: t) = c :: firstLine t := by simp [firstLine, hc]
        have hprefix : ¬ closing <+: c :: firstLine t := by
          rintro ⟨u, hu⟩
          have ht : c :: t = closing ++ (u ++ t.dropWhile (· ≠ '\n')) := by
            rw [← List.append_assoc, hu, List.cons_append]
            simp [firstLine]
          have := close?_eq_some_iff.2 ⟨[], rfl, by simpa using ht⟩
          simp [this] at hclose
        rw [if_neg hc, Option.map_eq_none_iff, ih, hfirst, List.infix_cons_iff,
          or_iff_right hprefix]

/-! ## The ending -/

/-- What may follow the opener: a closing behind which the line holds no other one, or a dash, a
note up to the first gap and closing of the line behind the dash, and that closing. -/
inductive Ending : Option (List Char) → List Char → List Char → Prop
  | bare {left : List Char} (alone : ¬ closing <:+: firstLine left) : Ending none closing left
  | noted {before note behind left : List Char} (hbefore : before.all isGap = true)
      (hbehind : behind.all isGap = true) (hline : '\n' ∉ note) (hopen : ¬ closing <:+: note)
      (hfirst : Ungapped (note ++ behind ++ closing))
      (hlast : ∀ c ∈ note.getLast?, isGap c = false) :
      Ending (some note) ('-' :: (before ++ note ++ behind ++ closing)) left

/-- The rest of a closing behind its first dash is part of no closing. -/
theorem closing_infix_dash_gt {t : List Char} : closing <:+: '-' :: '>' :: t ↔ closing <:+: t := by
  have hdash : ¬ closing <+: '-' :: '>' :: t := by
    rintro ⟨u, hu⟩
    simp [closing] at hu
  rw [List.infix_cons_iff, or_iff_right hdash, List.infix_cons_iff,
    or_iff_right (not_closing_prefix_of_ne (by decide))]

theorem closing_infix_behind_closing {left : List Char} :
    closing <:+: firstLine ('-' :: '>' :: left) ↔ closing <:+: firstLine left := by
  have h : firstLine ('-' :: '>' :: left) = '-' :: '>' :: firstLine left := by simp [firstLine]
  rw [h, closing_infix_dash_gt]

theorem Ending.head {context : Option (List Char)} {body left : List Char}
    (h : Ending context body left) : ∃ rest, body = '-' :: rest := by
  cases h with
  | bare alone => exact ⟨_, rfl⟩
  | noted => exact ⟨_, rfl⟩

theorem ending?_of_dash {t rest : List Char} (h : t.dropWhile isGap = '-' :: rest) :
    ending? t = match contextUntilClose? (rest.dropWhile isGap) with
      | some (context, left) => some (some context, left)
      | none => (close? t).map fun left => (none, left) := by
  unfold ending?
  rw [h]
  rfl

theorem exists_ending_of_ending? {t : List Char} {context : Option (List Char)}
    {left : List Char} (h : ending? t = some (context, left)) :
    ∃ gap body, gap.all isGap = true ∧ t = gap ++ body ++ left ∧ Ending context body left := by
  obtain ⟨gap, hgap, ht, hu⟩ := dropWhile_isGap_eq_iff.1 (Eq.refl (t.dropWhile isGap))
  cases hdrop : t.dropWhile isGap with
  | nil => simp [ending?, hdrop, close?, List.isPrefixOf?, closing] at h
  | cons c rest =>
    by_cases hc : c = '-'
    · subst hc
      rw [ending?_of_dash hdrop] at h
      cases hnote : contextUntilClose? (rest.dropWhile isGap) with
      | some found =>
        obtain ⟨note, left'⟩ := found
        rw [hnote] at h
        obtain ⟨rfl, rfl⟩ : some note = context ∧ left' = left := by simpa using h
        obtain ⟨behind, hbehind, hrest, hline, hopen, hlast⟩ :=
          contextUntilClose?_eq_some_iff.1 hnote
        obtain ⟨before, hbefore, hsplit, hfirst⟩ := dropWhile_isGap_eq_iff.1 hrest
        refine ⟨gap, _, hgap, ?_, .noted hbefore hbehind hline hopen ?_ hlast⟩
        · rw [ht, hdrop, hsplit]; simp
        · intro d hd
          refine hfirst d ?_
          rw [Option.mem_def, List.head?_append, Option.mem_def.1 hd, Option.some_or]
      | none =>
        rw [hnote] at h
        obtain ⟨left', hclose, heq⟩ := Option.map_eq_some_iff.1 h
        obtain ⟨rfl, rfl⟩ : none = context ∧ left' = left := by simpa using heq
        have hrest : '-' :: rest = closing ++ left' := by
          rw [← hdrop]; exact (List.isPrefixOf?_eq_some_iff_append_eq.1 hclose).symm
        refine ⟨gap, closing, hgap, by rw [ht, hdrop, hrest]; simp, .bare ?_⟩
        obtain rfl : rest = '-' :: '>' :: left' := by simpa [closing] using hrest
        rw [(ungapped_cons.2 (by decide : isGap '-' = false)).dropWhile,
          contextUntilClose?_eq_none_iff] at hnote
        rwa [closing_infix_behind_closing] at hnote
    · have hclose : close? t = none := by
        rw [close?, hdrop]
        simp [List.isPrefixOf?, closing, Ne.symm hc]
      have hnone : ending? t = none := by
        unfold ending?
        rw [hdrop]
        split
        · next heq => exact absurd (List.cons.inj heq).1 hc
        · simp [hclose]
      simp [hnone] at h

theorem ending?_of_ending {gap body left : List Char} {context : Option (List Char)}
    (hgap : gap.all isGap = true) (hend : Ending context body left) :
    ending? (gap ++ body ++ left) = some (context, left) := by
  cases hend with
  | bare alone =>
    have hdrop : (gap ++ closing ++ left).dropWhile isGap = '-' :: '-' :: '>' :: left :=
      dropWhile_isGap_eq_iff.2 ⟨gap, hgap, by simp [closing], by simp [isGap]⟩
    have hnote : contextUntilClose? ('-' :: '>' :: left) = none :=
      contextUntilClose?_eq_none_iff.2 (by rwa [closing_infix_behind_closing])
    have hclose : close? (gap ++ closing ++ left) = some left :=
      close?_eq_some_iff.2 ⟨gap, hgap, rfl⟩
    rw [ending?_of_dash hdrop, (ungapped_cons.2 (by decide : isGap '-' = false)).dropWhile,
      hnote, hclose]
    rfl
  | @noted before note behind _ hbefore hbehind hline hopen hfirst hlast =>
    have hdrop : (gap ++ '-' :: (before ++ note ++ behind ++ closing) ++ left).dropWhile isGap =
        '-' :: (before ++ note ++ behind ++ closing ++ left) :=
      dropWhile_isGap_eq_iff.2 ⟨gap, hgap, by simp, by simp [isGap]⟩
    have hinner : (before ++ note ++ behind ++ closing ++ left).dropWhile isGap =
        note ++ behind ++ closing ++ left := by
      refine dropWhile_isGap_eq_iff.2 ⟨before, hbefore, by simp, ?_⟩
      intro d hd
      refine hfirst d ?_
      rw [Option.mem_def, List.head?_append] at hd
      cases hh : (note ++ behind ++ closing).head? with
      | none => simp [closing] at hh
      | some e => rwa [hh, Option.some_or] at hd
    have hnote : contextUntilClose? (note ++ behind ++ closing ++ left) = some (note, left) :=
      contextUntilClose?_eq_some_iff.2 ⟨behind, hbehind, rfl, hline, hopen, hlast⟩
    rw [ending?_of_dash hdrop, hinner, hnote]

theorem ending?_eq_some_iff {t : List Char} {context : Option (List Char)} {left : List Char} :
    ending? t = some (context, left) ↔
      ∃ gap body, gap.all isGap = true ∧ t = gap ++ body ++ left ∧ Ending context body left := by
  constructor
  · exact exists_ending_of_ending?
  · rintro ⟨gap, body, hgap, rfl, hend⟩
    exact ending?_of_ending hgap hend

/-! ## The status word -/

theorem words_plain : ∀ w ∈ words, ∀ c ∈ w, c ≠ 'ſ' ∧ c ≠ '\u212a' := by
  have hall : (words.all fun w => w.all fun c => decide (c ≠ 'ſ' ∧ c ≠ '\u212a')) = true := by
    decide
  simpa using hall

theorem words_prefix_free : ∀ w ∈ words, ∀ w' ∈ words, w <+: w' → w = w' := by decide

theorem readsWord_iff {w t word rest : List Char} :
    ((dropFolded? w t).bind fun rest =>
      if startsAfterWord rest then some (t.take w.length, rest) else none) = some (word, rest) ↔
      t = word ++ rest ∧ spells w word = true ∧ startsAfterWord rest = true := by
  constructor
  · intro h
    obtain ⟨rest', hdrop, h⟩ := Option.bind_eq_some_iff.1 h
    obtain ⟨x, hx, rfl⟩ := dropFolded?_eq_some_iff.1 hdrop
    by_cases hb : startsAfterWord rest' = true
    · rw [if_pos hb, ← spells_length hx, List.take_left, Option.some.injEq, Prod.mk.injEq] at h
      obtain ⟨rfl, rfl⟩ := h
      exact ⟨rfl, hx, hb⟩
    · simp [hb] at h
  · rintro ⟨rfl, hx, hb⟩
    refine Option.bind_eq_some_iff.2 ⟨rest, dropFolded?_eq_some_iff.2 ⟨word, hx, rfl⟩, ?_⟩
    rw [if_pos hb, ← spells_length hx, List.take_left]

theorem word?_eq_some_iff {t word rest : List Char} :
    word? t = some (word, rest) ↔
      t = word ++ rest ∧ (∃ w ∈ words, spells w word = true) ∧ startsAfterWord rest = true := by
  constructor
  · intro h
    obtain ⟨w, hw, hread⟩ := List.exists_of_findSome?_eq_some h
    obtain ⟨ht, hx, hb⟩ := readsWord_iff.1 hread
    exact ⟨ht, ⟨w, hw, hx⟩, hb⟩
  · rintro ⟨ht, ⟨w, hw, hx⟩, hb⟩
    have hread := readsWord_iff.2 ⟨ht, hx, hb⟩
    cases hfound : word? t with
    | none =>
      have hnone := List.findSome?_eq_none_iff.1 hfound w hw
      exact absurd (hread.symm.trans hnone) (by simp)
    | some found =>
      obtain ⟨word', rest'⟩ := found
      obtain ⟨w', hw', hread'⟩ := List.exists_of_findSome?_eq_some hfound
      obtain ⟨ht', hx', -⟩ := readsWord_iff.1 hread'
      have hww : w = w' := by
        rcases List.prefix_or_prefix_of_prefix ⟨rest, ht.symm⟩ ⟨rest', ht'.symm⟩ with hp | hp
        · exact words_prefix_free w hw w' hw'
            (prefix_of_spells (words_plain w hw) (words_plain w' hw') hx hx' hp)
        · exact (words_prefix_free w' hw' w hw
            (prefix_of_spells (words_plain w' hw') (words_plain w hw) hx' hx hp)).symm
      have hlen : word'.length = word.length := by
        rw [spells_length hx, spells_length hx', hww]
      obtain ⟨rfl, rfl⟩ := List.append_inj (ht'.symm.trans ht) hlen
      rfl

theorem ungapped_of_word {word t : List Char} (h : ∃ w ∈ words, spells w word = true) :
    Ungapped (word ++ t) := by
  obtain ⟨w, hw, hx⟩ := h
  have hhead : ∀ w ∈ words, ∃ c rest, w = c :: rest ∧ isGap c = false := by
    simp [words, Status.name, isGap]
  obtain ⟨c, rest, rfl, hc⟩ := hhead w hw
  exact ungapped_of_spells hx hc

/-! ## The whole marker -/

/-- What stands before the ending: `<!--`, the two words, the status word and the gap behind it. -/
inductive Opener (word : List Char) : List Char → Prop
  | intro {gap₁ review gap₂ status gap₃ gap₄ : List Char} (hgap₁ : gap₁.all isGap = true)
      (hreview : spells "review".toList review = true) (hne : gap₂ ≠ [])
      (hgap₂ : gap₂.all isGap = true) (hstatus : spells "status:".toList status = true)
      (hgap₃ : gap₃.all isGap = true) (hword : ∃ w ∈ words, spells w word = true)
      (hgap₄ : gap₄.all isGap = true) :
      Opener word (opening ++ gap₁ ++ review ++ gap₂ ++ status ++ gap₃ ++ word ++ gap₄)

/-- The opener with single spaces and in capitals, as the gate writes it. -/
def plainOpener (s : Status) : List Char :=
  opening ++ [' '] ++ "REVIEW".toList ++ [' '] ++ "STATUS:".toList ++ [' '] ++ s.name.toList ++
    [' ']

theorem opener_spaced {word : List Char} (h : ∃ w ∈ words, spells w word = true) :
    Opener word (opening ++ [' '] ++ "REVIEW".toList ++ [' '] ++ "STATUS:".toList ++ [' '] ++
      word ++ [' ']) :=
  .intro (by decide) (by decide) (by decide) (by decide) (by decide) (by decide) h (by decide)

theorem opener_plain (s : Status) : Opener s.name.toList (plainOpener s) := by
  apply opener_spaced
  cases s <;> decide

theorem plainOpener_eq (s : Status) :
    plainOpener s = ("<!-- REVIEW STATUS: " ++ s.name).toList ++ [' '] := by
  rw [String.toList_append]
  rfl

theorem startsAfterWord_gap_dash {gap rest : List Char} (h : gap.all isGap = true) :
    startsAfterWord (gap ++ '-' :: rest) = true := by
  cases gap with
  | nil => exact (by decide : (!isWord '-') = true)
  | cons c gap =>
    have hc : isGap c = true := And.left (by simpa using h)
    simp only [isGap, Bool.or_eq_true, decide_eq_true_eq] at hc
    rcases hc with rfl | rfl
    · exact (by decide : (!isWord ' ') = true)
    · exact (by decide : (!isWord '\t') = true)

/-- The recogniser reads the texts of the grammar and no others. -/
theorem recogniser_eq_some_iff {before : Option Char} {t left : List Char} {m : MarkerText} :
    recogniser before t = some (m, left) ↔ ∃ opener body, t = opener ++ body ++ left ∧
      Opener m.word opener ∧ Ending m.context body left := by
  constructor
  · intro h
    simp only [recogniser, bind, Option.bind_eq_some_iff, Option.some.injEq, Prod.mk.injEq,
      Prod.exists] at h
    obtain ⟨t₁, h₁, t₂, h₂, t₃, h₃, t₄, h₄, word, t₅, h₅, context, left', h₆, rfl, rfl⟩ := h
    obtain rfl := List.isPrefixOf?_eq_some_iff_append_eq.1 h₁
    obtain ⟨review, hreview, hdrop₁⟩ := dropFolded?_eq_some_iff.1 h₂
    obtain ⟨gap₁, hgap₁, rfl, -⟩ := dropWhile_isGap_eq_iff.1 hdrop₁
    obtain ⟨gap₂, hne, hgap₂, rfl, -⟩ := dropGap?_eq_some_iff.1 h₃
    obtain ⟨status, hstatus, rfl⟩ := dropFolded?_eq_some_iff.1 h₄
    obtain ⟨hdrop₃, hword, -⟩ := word?_eq_some_iff.1 h₅
    obtain ⟨gap₃, hgap₃, rfl, -⟩ := dropWhile_isGap_eq_iff.1 hdrop₃
    obtain ⟨gap₄, body, hgap₄, rfl, hend⟩ := ending?_eq_some_iff.1 h₆
    exact ⟨_, body, by simp, .intro hgap₁ hreview hne hgap₂ hstatus hgap₃ hword hgap₄, hend⟩
  · rintro ⟨opener, body, rfl, hopener, hend⟩
    obtain ⟨word, context⟩ := m
    cases hopener with
    | @intro gap₁ review gap₂ status gap₃ gap₄ hgap₁ hreview hne hgap₂ hstatus hgap₃ hword hgap₄ =>
      obtain ⟨rest, hbody⟩ := hend.head
      simp only [recogniser, bind, Option.bind_eq_some_iff, Option.some.injEq, Prod.mk.injEq,
        Prod.exists]
      refine ⟨gap₁ ++ review ++ gap₂ ++ status ++ gap₃ ++ word ++ gap₄ ++ body ++ left,
        List.isPrefixOf?_eq_some_iff_append_eq.2 (by simp),
        gap₂ ++ status ++ gap₃ ++ word ++ gap₄ ++ body ++ left,
        dropFolded?_eq_some_iff.2 ⟨review, hreview, ?_⟩,
        status ++ gap₃ ++ word ++ gap₄ ++ body ++ left,
        dropGap?_eq_some_iff.2 ⟨gap₂, hne, hgap₂, by simp, ?_⟩,
        gap₃ ++ word ++ gap₄ ++ body ++ left,
        dropFolded?_eq_some_iff.2 ⟨status, hstatus, by simp⟩,
        word, gap₄ ++ body ++ left, word?_eq_some_iff.2 ⟨?_, hword, ?_⟩, context, left,
        ending?_eq_some_iff.2 ⟨gap₄, body, hgap₄, by simp, hend⟩, rfl, rfl⟩
      · refine dropWhile_isGap_eq_iff.2 ⟨gap₁, hgap₁, by simp, ?_⟩
        exact ungapped_of_spells hreview (by decide)
      · simp only [List.append_assoc]
        exact ungapped_of_spells hstatus (by decide)
      · refine dropWhile_isGap_eq_iff.2 ⟨gap₃, hgap₃, by simp, ?_⟩
        exact ungapped_of_word hword
      · rw [hbody, List.append_assoc, List.cons_append]
        exact startsAfterWord_gap_dash hgap₄

/-! ## Lines -/

theorem Opener.head {word opener : List Char} (h : Opener word opener) :
    ∃ rest, opener = '<' :: rest := by
  cases h with
  | intro => exact ⟨_, rfl⟩

theorem not_mem_word {c : Char} (hc : Caseless c) (hw : ∀ w ∈ words, c ∉ w) {word : List Char}
    (h : ∃ w ∈ words, spells w word = true) : c ∉ word := by
  obtain ⟨w, hm, hx⟩ := h
  exact not_mem_of_spells hc (hw w hm) hx

/-- Behind its `<!--` an opener holds no character that is neither in a gap nor in a word. -/
theorem Opener.tail {word opener : List Char} (h : Opener word opener) {c : Char}
    (hc : Caseless c) (hgap : isGap c = false)
    (hw : c ∉ "review".toList ++ "status:".toList ++ words.flatten) :
    ∃ tail, opener = opening ++ tail ∧ c ∉ tail := by
  simp only [List.mem_append, not_or, List.mem_flatten, not_exists, not_and] at hw
  obtain ⟨⟨hrev, hsta⟩, hwords⟩ := hw
  cases h with
  | @intro gap₁ review gap₂ status gap₃ gap₄ hgap₁ hreview hne hgap₂ hstatus hgap₃ hword hgap₄ =>
    refine ⟨gap₁ ++ review ++ gap₂ ++ status ++ gap₃ ++ word ++ gap₄, by simp, ?_⟩
    simp only [List.mem_append, not_or]
    exact ⟨⟨⟨⟨⟨⟨not_mem_of_all_isGap hgap₁ hgap, not_mem_of_spells hc hrev hreview⟩,
      not_mem_of_all_isGap hgap₂ hgap⟩, not_mem_of_spells hc hsta hstatus⟩,
      not_mem_of_all_isGap hgap₃ hgap⟩, not_mem_word hc hwords hword⟩,
      not_mem_of_all_isGap hgap₄ hgap⟩

theorem Opener.not_mem {word opener : List Char} (h : Opener word opener) {c : Char}
    (hc : Caseless c) (hgap : isGap c = false) (hopen : c ∉ opening)
    (hw : c ∉ "review".toList ++ "status:".toList ++ words.flatten) : c ∉ opener := by
  obtain ⟨tail, rfl, htail⟩ := h.tail hc hgap hw
  rw [List.mem_append, not_or]
  exact ⟨hopen, htail⟩

/-- An opener ends before the first dash behind its `<!--`, so a text has at most one. -/
theorem Opener.unique {word word' opener opener' t t' : List Char} (h : Opener word opener)
    (h' : Opener word' opener') (heq : opener ++ '-' :: t = opener' ++ '-' :: t') :
    opener = opener' ∧ t = t' := by
  obtain ⟨tail, rfl, htail⟩ := h.tail (c := '-') (by decide) (by decide) (by decide)
  obtain ⟨tail', rfl, htail'⟩ := h'.tail (c := '-') (by decide) (by decide) (by decide)
  have hsplit : tail ++ '-' :: t = tail' ++ '-' :: t' := by simpa using heq
  obtain ⟨d, rfl, hd⟩ := exists_cut_of_not_mem htail' hsplit
  cases d with
  | nil => exact ⟨by simp, by simpa using hd.symm⟩
  | cons c d =>
    obtain ⟨rfl, -⟩ := List.cons.inj hd
    exact absurd (by simp) htail

theorem Opener.last {word opener : List Char} (h : Opener word opener) :
    opener.getLast? ≠ some '-' := by
  cases h with
  | @intro gap₁ review gap₂ status gap₃ gap₄ hgap₁ hreview hne hgap₂ hstatus hgap₃ hword hgap₄ =>
    have hdash : '-' ∉ word := not_mem_word (by decide) (by decide) hword
    have hne' : word ≠ [] := by
      obtain ⟨w, hm, hx⟩ := hword
      have hwords : ∀ w ∈ words, w ≠ [] := by decide
      exact ne_nil_of_spells hx (hwords w hm)
    intro hl
    rw [List.getLast?_append] at hl
    cases hg : gap₄.getLast? with
    | some c =>
      rw [hg, Option.some_or] at hl
      exact dash_not_last_of_gap hgap₄ (hg.trans hl)
    | none =>
      rw [hg, Option.none_or, List.getLast?_append] at hl
      cases hlw : word.getLast? with
      | some c =>
        rw [hlw, Option.some_or] at hl
        exact hdash (List.mem_of_getLast? (hlw.trans hl))
      | none => exact hne' (List.getLast?_eq_none_iff.1 hlw)

theorem Ending.closing_suffix {context : Option (List Char)} {body left : List Char}
    (h : Ending context body left) : closing <:+ body := by
  cases h with
  | bare alone => exact List.suffix_rfl
  | @noted before note behind => exact ⟨'-' :: (before ++ note ++ behind), by simp⟩

theorem Ending.newline_not_mem {context : Option (List Char)} {body left : List Char}
    (h : Ending context body left) : '\n' ∉ body := by
  cases h with
  | bare alone => simp [closing]
  | noted hbefore hbehind hline =>
    have hn : isGap '\n' = false := by decide
    simp [closing, hline, not_mem_of_all_isGap hbefore hn, not_mem_of_all_isGap hbehind hn]

theorem newline_not_mem_marker {word opener : List Char} {context : Option (List Char)}
    {body left : List Char} (hopener : Opener word opener) (hend : Ending context body left) :
    '\n' ∉ opener ++ body := by
  rw [List.mem_append, not_or]
  exact ⟨hopener.not_mem (by decide) (by decide) (by decide) (by decide), hend.newline_not_mem⟩

/-- The ending depends on what follows only up to the end of the line. -/
theorem Ending.congr {context : Option (List Char)} {body left left' : List Char}
    (h : Ending context body left) (hl : firstLine left = firstLine left') :
    Ending context body left' := by
  cases h with
  | bare alone => exact .bare (by rwa [← hl])
  | noted hbefore hbehind hline hopen hfirst hlast =>
    exact .noted hbefore hbehind hline hopen hfirst hlast

theorem recogniser_consumes : recogniser.Consumes := by
  intro before t m left h
  obtain ⟨opener, body, ht, hopener, -⟩ := recogniser_eq_some_iff.1 h
  obtain ⟨rest, hrest⟩ := hopener.head
  exact ⟨opener ++ body, by simp [hrest], ht⟩

theorem Opener.opening_prefix {word opener : List Char} (h : Opener word opener) :
    opening <+: opener := by
  cases h with
  | intro => simp only [List.append_assoc, List.prefix_append]

/-- No marker starts in a text without a less-than sign. -/
theorem opening_infix_append {s t : List Char} (hs : '<' ∉ s) :
    opening <:+: s ++ t ↔ opening <:+: t := by
  induction s with
  | nil => rw [List.nil_append]
  | cons c s ih =>
    obtain ⟨hc, hs⟩ : '<' ≠ c ∧ '<' ∉ s := by simpa using hs
    have hstart : ¬ opening <+: c :: (s ++ t) := by
      intro hprefix
      exact hc (List.cons_prefix_cons.1 hprefix).1
    rw [List.cons_append, List.infix_cons_iff, ih hs, or_iff_right hstart]

theorem unopened_of_not_mem {t : List Char} (h : '<' ∉ t) : ¬ opening <:+: t :=
  fun hin => h (hin.subset (by decide))

theorem scan_eq_nil {t : List Char} (h : ¬ opening <:+: t) : recogniser.scan t = [] := by
  rw [List.eq_nil_iff_forall_not_mem]
  intro hit hm
  obtain ⟨pre, left, ht, -, -, hread⟩ := Recogniser.mem_scan recogniser_consumes hm
  obtain ⟨opener, body, hsplit, hopener, -⟩ := recogniser_eq_some_iff.1 hread
  have hin : opening <:+: opener ++ (body ++ left) :=
    (hopener.opening_prefix.trans (List.prefix_append _ _)).isInfix
  apply h
  rw [ht, List.append_assoc, hsplit, List.append_assoc]
  exact hin.trans (List.suffix_append pre _).isInfix

theorem recogniser_line {line : List Char} (h : '\n' ∉ line) (before : Option Char)
    (rest : List Char) : recogniser before (line ++ '\n' :: rest) =
      (recogniser before line).map fun (m, left) => (m, left ++ '\n' :: rest) := by
  ext ⟨m, left⟩
  rw [Option.map_eq_some_iff, recogniser_eq_some_iff]
  constructor
  · rintro ⟨opener, body, ht, hopener, hend⟩
    obtain ⟨d, hd, hleft⟩ := exists_cut_of_not_mem (newline_not_mem_marker hopener hend) ht
    refine ⟨(m, d), recogniser_eq_some_iff.2 ⟨opener, body, hd, hopener, hend.congr ?_⟩,
      by simpa using hleft.symm⟩
    rw [hleft]
    exact firstLine_append_newline (fun hm => h (by rw [hd]; simp [hm])) rest
  · rintro ⟨⟨m', left'⟩, hread, heq⟩
    obtain ⟨rfl, rfl⟩ : m' = m ∧ left' ++ '\n' :: rest = left := by simpa using heq
    obtain ⟨opener, body, rfl, hopener, hend⟩ := recogniser_eq_some_iff.1 hread
    refine ⟨opener, body, by simp, hopener, hend.congr ?_⟩
    exact (firstLine_append_newline (fun hm => h (by simp [hm])) rest).symm

theorem recogniser_lineBound : recogniser.LineBound where
  consumes := recogniser_consumes
  start _ := rfl
  seam before line rest h := by
    rw [recogniser_line h, recogniser_line h]
    cases recogniser before line with
    | none => rfl
    | some found => simp

theorem scanFrom_newline (before : Option Char) (offset : Nat) (line : List Char)
    (h : '\n' ∉ line) : recogniser.scanFrom 0 before offset (line ++ ['\n']) =
      recogniser.scanFrom 0 before offset line := by
  induction before, offset, line using Recogniser.scan_induction recogniser_consumes with
  | nil before offset =>
    rw [List.nil_append, Recogniser.scanFrom_pass rfl, Recogniser.scanFrom_nil,
      Recogniser.scanFrom_nil]
  | pass before offset c line hpass ih =>
    have hline : '\n' ∉ line := fun hm => h (List.mem_cons_of_mem c hm)
    have hpass' : recogniser before (c :: (line ++ ['\n'])) = none := by
      rw [← List.cons_append, recogniser_line h, hpass]
      rfl
    rw [List.cons_append, Recogniser.scanFrom_pass hpass', Recogniser.scanFrom_pass hpass, ih hline]
  | hit before offset lexeme left value ne hhit ih =>
    have hleft : '\n' ∉ left := fun hm => h (List.mem_append_right lexeme hm)
    have hhit' : recogniser before (lexeme ++ (left ++ ['\n'])) = some (value, left ++ ['\n']) := by
      rw [← List.append_assoc, recogniser_line h, hhit]
      rfl
    rw [List.append_assoc, Recogniser.scanFrom_hit hhit' ne, Recogniser.scanFrom_hit hhit ne,
      ih hleft]

/-- The newline that ends a line takes part in no marker. -/
theorem scan_newline {line : List Char} (h : '\n' ∉ line) :
    recogniser.scan (line ++ ['\n']) = recogniser.scan line :=
  scanFrom_newline none 0 line h

/-- A marker that fills its line is the only one of the line. -/
theorem scan_marker {word opener : List Char} {context : Option (List Char)} {body tail : List Char}
    (hopener : Opener word opener) (hend : Ending context body [])
    (htail : tail = [] ∨ tail = ['\n']) :
    recogniser.scan (opener ++ body ++ tail) = [⟨0, opener ++ body, ⟨word, context⟩⟩] := by
  obtain ⟨rest, hhead⟩ := hopener.head
  have hread : recogniser none (opener ++ body ++ tail) = some (⟨word, context⟩, tail) := by
    refine recogniser_eq_some_iff.2 ⟨opener, body, rfl, hopener, hend.congr ?_⟩
    rcases htail with rfl | rfl
    · rfl
    · rfl
  have hrest : recogniser.scanFrom 0 (opener ++ body).getLast? (0 + byteLength (opener ++ body))
      tail = [] := by
    rcases htail with rfl | rfl
    · simp
    · rw [Recogniser.scanFrom_pass rfl]
      simp
  rw [Recogniser.scan, Recogniser.scanFrom_hit hread (by simp [hhead]), hrest]

end EditGuard.Review.MarkerText
