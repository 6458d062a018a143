import EditGuard.Text.Lowercase
import Mathlib.Data.List.Basic

/-! # Lowercase

Lowercasing does not see the case of ASCII letters, in a letter or in its neighbours. It goes
character by character but for the capital sigma, whose form tells whether it ends a word. So a part
of a text is lowercased in its place as it is on its own, if its sigmas have the same forms there;
a sigma at an end of the part may have another form in another place.
-/

namespace EditGuard.Text

/-! ## The case of ASCII letters -/

/-- The same characters up to the case of ASCII letters. -/
def SameLetters (s t : List Char) : Prop := s.map Char.toLower = t.map Char.toLower

instance (s t : List Char) : Decidable (SameLetters s t) := inferInstanceAs (Decidable (_ = _))

theorem toLower_cases (c : Char) : c.toLower = c ∨ ∃ i : Fin 26, c = Char.ofNat (65 + i) := by
  unfold Char.toLower
  split
  · next h =>
    have hlow : 65 ≤ c.toNat := by simpa [UInt32.le_iff_toNat_le] using h.1
    have hhigh : c.toNat ≤ 90 := by simpa [UInt32.le_iff_toNat_le] using h.2
    have hcode : 65 + (c.toNat - 65) = c.toNat := by omega
    refine Or.inr ⟨⟨c.toNat - 65, by omega⟩, ?_⟩
    simp only [hcode, Char.ofNat_toNat]
  · exact Or.inl rfl

/-- What has one value on each letter in both cases does not see the case of ASCII letters. -/
theorem eq_toLower_of_letters {β : Type} {f : Char → β}
    (h : ∀ i : Fin 26, f (Char.ofNat (65 + i)).toLower = f (Char.ofNat (65 + i))) (c : Char) :
    f c.toLower = f c := by
  rcases toLower_cases c with hc | ⟨i, rfl⟩
  · rw [hc]
  · exact h i

theorem isCased_toLower : ∀ c, isCased c.toLower = isCased c :=
  eq_toLower_of_letters (by decide +kernel)

theorem isCaseIgnorable_toLower : ∀ c, isCaseIgnorable c.toLower = isCaseIgnorable c :=
  eq_toLower_of_letters (by decide +kernel)

theorem lowerChar_toLower : ∀ c, lowerChar c.toLower = lowerChar c :=
  eq_toLower_of_letters (by decide +kernel)

/-- A character that is no ASCII letter is no other in lowercase. -/
theorem toLower_eq_iff {mark : Char} (h : mark.isAlpha = false) (c : Char) :
    c.toLower = mark ↔ c = mark := by
  rcases toLower_cases c with hc | ⟨i, rfl⟩
  · rw [hc]
  · have hletters : ∀ i : Fin 26, (Char.ofNat (65 + i)).toLower.isAlpha = true ∧
        (Char.ofNat (65 + i)).isAlpha = true := by decide
    obtain ⟨hlower, hupper⟩ := hletters i
    constructor
    · intro heq
      rw [heq, h] at hlower
      cases hlower
    · intro heq
      rw [heq, h] at hupper
      cases hupper

theorem dropWhile_map_toLower {p : Char → Bool} (h : ∀ c, p c.toLower = p c) (t : List Char) :
    (t.map Char.toLower).dropWhile p = (t.dropWhile p).map Char.toLower := by
  have hp : p ∘ Char.toLower = p := funext h
  rw [List.dropWhile_map, hp]

theorem meetsCased_map_toLower (t : List Char) :
    meetsCased (t.map Char.toLower) = meetsCased t := by
  rw [meetsCased, dropWhile_map_toLower isCaseIgnorable_toLower, meetsCased]
  cases t.dropWhile isCaseIgnorable with
  | nil => rfl
  | cons c rest => exact isCased_toLower c

theorem lowerAfter_map_toLower (before t : List Char) :
    lowerAfter (before.map Char.toLower) (t.map Char.toLower) = lowerAfter before t := by
  induction t generalizing before with
  | nil => rfl
  | cons c t ih =>
    have hsigma : lowerSigma (before.map Char.toLower) (t.map Char.toLower) =
        lowerSigma before t := by
      rw [lowerSigma, meetsCased_map_toLower, meetsCased_map_toLower, lowerSigma]
    have hrest := ih (c :: before)
    rw [List.map_cons] at hrest
    have hmark : c.toLower = 'Σ' ↔ c = 'Σ' := toLower_eq_iff (by decide) c
    simp only [List.map_cons, lowerAfter, hmark, hsigma, lowerChar_toLower, hrest]

/-- Lowercasing does not see the case of ASCII letters. -/
theorem lowercase_congr {s t : List Char} (h : SameLetters s t) : lowercase s = lowercase t := by
  have hs : lowercase (s.map Char.toLower) = lowercase s := lowerAfter_map_toLower [] s
  have ht : lowercase (t.map Char.toLower) = lowercase t := lowerAfter_map_toLower [] t
  rw [← hs, h, ht]

theorem SameLetters.dropWhile {p : Char → Bool} (hp : ∀ c, p c.toLower = p c) {s t : List Char}
    (h : SameLetters s t) : SameLetters (s.dropWhile p) (t.dropWhile p) := by
  unfold SameLetters
  rw [← dropWhile_map_toLower hp, ← dropWhile_map_toLower hp, h]

/-! ## Cased neighbours -/

theorem meetsCased_append (s t : List Char) :
    meetsCased (s ++ t) = if s.all isCaseIgnorable then meetsCased t else meetsCased s := by
  induction s with
  | nil => rfl
  | cons c s ih =>
    by_cases hc : isCaseIgnorable c = true
    · simpa [meetsCased, hc] using ih
    · simp [meetsCased, hc]

theorem meetsCased_of_ignorable {s : List Char} (h : s.all isCaseIgnorable = true) :
    meetsCased s = false := by
  have happend := meetsCased_append s []
  rwa [if_pos h, List.append_nil] at happend

theorem not_ignorable_of_meetsCased {s : List Char} (h : meetsCased s = true) :
    s.all isCaseIgnorable = false := by
  rw [← Bool.not_eq_true]
  intro hall
  rw [meetsCased_of_ignorable hall] at h
  cases h

theorem meetsCased_append_of_meets {s : List Char} (h : meetsCased s = true) (t : List Char) :
    meetsCased (s ++ t) = true := by
  rw [meetsCased_append, not_ignorable_of_meetsCased h, if_neg Bool.false_ne_true, h]

theorem meetsCased_append_eq_false {s t : List Char} (hs : meetsCased s = false)
    (ht : meetsCased t = false) : meetsCased (s ++ t) = false := by
  rw [meetsCased_append, hs, ht, ite_self]

theorem lowerSigma_eq_final_iff {before after : List Char} :
    lowerSigma before after = 'ς' ↔ meetsCased before = true ∧ meetsCased after = false := by
  unfold lowerSigma
  cases meetsCased before <;> cases meetsCased after <;> decide

theorem lowerSigma_eq_medial_iff {before after : List Char} :
    lowerSigma before after = 'σ' ↔ ¬ lowerSigma before after = 'ς' := by
  unfold lowerSigma
  cases meetsCased before <;> cases meetsCased after <;> decide

/-! ## Parts of a text -/

/-- The lowercase form of a part of a text, given the text around it; the characters before it come
nearest first. -/
def lowerWithin (before after : List Char) : List Char → List Char
  | [] => []
  | c :: rest =>
    (if c = 'Σ' then [lowerSigma before (rest ++ after)] else lowerChar c) ++
      lowerWithin (c :: before) after rest

theorem lowerWithin_nil (before t : List Char) : lowerWithin before [] t = lowerAfter before t := by
  induction t generalizing before with
  | nil => rfl
  | cons c t ih => rw [lowerWithin, lowerAfter, ih, List.append_nil]

theorem lowerWithin_append (before after s t : List Char) :
    lowerWithin before after (s ++ t) =
      lowerWithin before (t ++ after) s ++ lowerWithin (s.reverse ++ before) after t := by
  induction s generalizing before with
  | nil => rfl
  | cons c s ih =>
    rw [List.cons_append, lowerWithin, ih, lowerWithin, List.reverse_cons]
    simp only [List.append_assoc, List.singleton_append]

/-- A text is lowercased part by part, each in its place. -/
theorem lowercase_append₃ (before t after : List Char) :
    lowercase (before ++ t ++ after) = lowerWithin [] (t ++ after) before ++
      lowerWithin before.reverse after t ++ lowerWithin (t.reverse ++ before.reverse) [] after := by
  have hwhole : lowercase (before ++ t ++ after) = lowerWithin [] [] (before ++ t ++ after) :=
    (lowerWithin_nil [] _).symm
  rw [hwhole, lowerWithin_append, lowerWithin_append]
  simp only [List.append_nil, List.reverse_append]

/-- The capital sigmas of a part have the forms in their place that they have in another one. -/
theorem lowerWithin_congr {before after before' after' t : List Char}
    (h : ∀ front rest, t = front ++ 'Σ' :: rest →
      lowerSigma (front.reverse ++ before) (rest ++ after) =
        lowerSigma (front.reverse ++ before') (rest ++ after')) :
    lowerWithin before after t = lowerWithin before' after' t := by
  induction t generalizing before before' with
  | nil => rfl
  | cons c t ih =>
    have hrest : lowerWithin (c :: before) after t = lowerWithin (c :: before') after' t := by
      apply ih
      intro front rest ht
      have hsigma := h (c :: front) rest (by rw [ht, List.cons_append])
      simpa using hsigma
    rw [lowerWithin, lowerWithin, hrest]
    by_cases hc : c = 'Σ'
    · have hsigma := h [] t (by rw [hc, List.nil_append])
      rw [if_pos hc, if_pos hc]
      simpa using hsigma
    · rw [if_neg hc, if_neg hc]

/-- The part is lowercased between two texts as it is on its own. -/
def LowersAlike (before after t : List Char) : Prop :=
  ∀ front rest, t = front ++ 'Σ' :: rest →
    lowerSigma (front.reverse ++ before.reverse) (rest ++ after) = lowerSigma front.reverse rest

/-- Whether the two texts around a sigma tell its form, whatever stands beyond them. A letter before
it makes it final or not by the first thing behind it that is not ignorable; a letter behind it or
something that is no letter before it keeps it from being final. -/
def settlesSigma (before after : List Char) : Bool :=
  if meetsCased before then !after.all isCaseIgnorable
  else meetsCased after || !before.all isCaseIgnorable

/-- Each capital sigma has its form from the text itself. -/
def Steady (t : List Char) : Prop :=
  ∀ front rest, t = front ++ 'Σ' :: rest → settlesSigma front.reverse rest = true

/-- The capital sigmas of the rest of a text have their forms from the text. -/
def steadyAfter (before : List Char) : List Char → Bool
  | [] => true
  | c :: rest => (c != 'Σ' || settlesSigma before rest) && steadyAfter (c :: before) rest

theorem steadyAfter_iff (before t : List Char) : steadyAfter before t = true ↔
    ∀ front rest, t = front ++ 'Σ' :: rest →
      settlesSigma (front.reverse ++ before) rest = true := by
  induction t generalizing before with
  | nil => simp [steadyAfter]
  | cons c t ih =>
    rw [steadyAfter, Bool.and_eq_true, ih, Bool.or_eq_true, bne_iff_ne]
    constructor
    · rintro ⟨hfirst, hrest⟩ front rest ht
      cases front with
      | nil =>
        obtain ⟨rfl, rfl⟩ := List.cons.inj ht
        exact hfirst.resolve_left fun hne => hne rfl
      | cons d front =>
        obtain ⟨rfl, hbehind⟩ := List.cons.inj ht
        simpa using hrest front rest hbehind
    · intro h
      constructor
      · by_cases hc : c = 'Σ'
        · exact Or.inr (h [] t (by rw [hc, List.nil_append]))
        · exact Or.inl hc
      · intro front rest ht
        simpa using h (c :: front) rest (by rw [ht, List.cons_append])

instance (t : List Char) : Decidable (Steady t) :=
  decidable_of_iff (steadyAfter [] t = true) (by simp [steadyAfter_iff, Steady])

/-- A final sigma is steady before a separator, and is not at the end. -/
example : Steady "/ΟΔΟΣ/".toList ∧ ¬ Steady "/ΟΔΟΣ".toList := by decide +kernel

theorem lowerSigma_append_of_settles {before after : List Char}
    (h : settlesSigma before after = true) (before' after' : List Char) :
    lowerSigma (before ++ before') (after ++ after') = lowerSigma before after := by
  unfold settlesSigma at h
  rw [lowerSigma, lowerSigma, meetsCased_append, meetsCased_append]
  by_cases hbefore : meetsCased before = true
  · rw [if_pos hbefore, Bool.not_eq_true'] at h
    rw [not_ignorable_of_meetsCased hbefore, h, if_neg Bool.false_ne_true,
      if_neg Bool.false_ne_true]
  · rw [if_neg hbefore, Bool.or_eq_true, Bool.not_eq_true'] at h
    rw [Bool.not_eq_true] at hbefore
    rcases h with hafter | hclosed
    · rw [not_ignorable_of_meetsCased hafter, if_neg Bool.false_ne_true, hafter, Bool.not_true,
        Bool.and_false, Bool.and_false]
    · rw [hclosed, if_neg Bool.false_ne_true, hbefore, Bool.false_and, Bool.false_and]

theorem Steady.lowersAlike {t : List Char} (h : Steady t) (before after : List Char) :
    LowersAlike before after t :=
  fun front rest ht => lowerSigma_append_of_settles (h front rest ht) _ _

theorem LowersAlike.lowerWithin_eq {before after t : List Char} (h : LowersAlike before after t) :
    lowerWithin before.reverse after t = lowercase t := by
  rw [lowercase, ← lowerWithin_nil]
  apply lowerWithin_congr
  intro front rest ht
  rw [List.append_nil, List.append_nil]
  exact h front rest ht

theorem LowersAlike.isInfix_lowercase {before after t : List Char}
    (h : LowersAlike before after t) : lowercase t <:+: lowercase (before ++ t ++ after) := by
  rw [lowercase_append₃, h.lowerWithin_eq]
  exact List.infix_append _ _ _

theorem steady_of_not_mem {t : List Char} (h : 'Σ' ∉ t) : Steady t := by
  intro front rest ht
  exact absurd (by rw [ht]; simp) h

theorem Steady.isInfix_lowercase {part t : List Char} (h : Steady part) (hpart : part <:+: t) :
    lowercase part <:+: lowercase t := by
  obtain ⟨before, after, rfl⟩ := hpart
  exact (h.lowersAlike before after).isInfix_lowercase

/-! ## Texts whose ends matter -/

/-- Without capital sigmas around a part only the part depends on its place. -/
theorem lowercase_around {before after : List Char} (hbefore : 'Σ' ∉ before) (hafter : 'Σ' ∉ after)
    (t : List Char) : lowercase (before ++ t ++ after) =
      lowercase before ++ lowerWithin before.reverse after t ++ lowercase after := by
  have hfirst := (steady_of_not_mem hbefore).lowersAlike [] (t ++ after)
  have hlast := (steady_of_not_mem hafter).lowersAlike (before ++ t) []
  rw [lowercase_append₃, ← List.reverse_append, hlast.lowerWithin_eq]
  congr 2
  exact hfirst.lowerWithin_eq

/-- A character that stands in one place for no more sigmas than in another is met no more often. -/
theorem count_lowerWithin_le {before after before' after' t : List Char} {x : Char}
    (h : ∀ front rest, t = front ++ 'Σ' :: rest →
      lowerSigma (front.reverse ++ before) (rest ++ after) = x →
        lowerSigma (front.reverse ++ before') (rest ++ after') = x) :
    (lowerWithin before after t).count x ≤ (lowerWithin before' after' t).count x := by
  induction t generalizing before before' with
  | nil => exact Nat.le_refl _
  | cons c t ih =>
    have hrest : (lowerWithin (c :: before) after t).count x ≤
        (lowerWithin (c :: before') after' t).count x := by
      apply ih
      intro front rest ht
      have hsigma := h (c :: front) rest (by rw [ht, List.cons_append])
      simpa using hsigma
    rw [lowerWithin, lowerWithin, List.count_append, List.count_append]
    by_cases hc : c = 'Σ'
    · have hsigma := h [] t (by rw [hc, List.nil_append])
      rw [if_pos hc, if_pos hc, List.count_singleton, List.count_singleton]
      by_cases hx : lowerSigma before (t ++ after) = x
      · have hx' : lowerSigma before' (t ++ after') = x := hsigma hx
        rw [hx, hx']
        omega
      · rw [if_neg (by simpa using hx)]
        omega
    · rw [if_neg hc, if_neg hc]
      omega

theorem count_lowerWithin_lt {before after before' after' front rest : List Char} {x : Char}
    (h : ∀ front' rest', front ++ 'Σ' :: rest = front' ++ 'Σ' :: rest' →
      lowerSigma (front'.reverse ++ before) (rest' ++ after) = x →
        lowerSigma (front'.reverse ++ before') (rest' ++ after') = x)
    (hother : lowerSigma (front.reverse ++ before) (rest ++ after) ≠ x)
    (hsame : lowerSigma (front.reverse ++ before') (rest ++ after') = x) :
    (lowerWithin before after (front ++ 'Σ' :: rest)).count x <
      (lowerWithin before' after' (front ++ 'Σ' :: rest)).count x := by
  have hfront : (lowerWithin before ('Σ' :: rest ++ after) front).count x ≤
      (lowerWithin before' ('Σ' :: rest ++ after') front).count x := by
    apply count_lowerWithin_le
    intro front' rest' hsplit
    have hsigma := h front' (rest' ++ 'Σ' :: rest) (by rw [hsplit]; simp)
    simpa using hsigma
  have hrest : (lowerWithin ('Σ' :: (front.reverse ++ before)) after rest).count x ≤
      (lowerWithin ('Σ' :: (front.reverse ++ before')) after' rest).count x := by
    apply count_lowerWithin_le
    intro front' rest' hsplit
    have hsigma := h (front ++ 'Σ' :: front') rest' (by rw [hsplit]; simp)
    simpa using hsigma
  rw [lowerWithin_append, lowerWithin_append, lowerWithin, lowerWithin, if_pos rfl, if_pos rfl,
    hsame]
  simp only [List.count_append, List.count_singleton_self, List.count_singleton, beq_iff_eq,
    if_neg hother]
  omega

/-- A text that is not steady holds a sigma that a letter behind the text turns out of the final
form, or one that a letter before the text turns into it. In no place that shows this do the other
sigmas make up for it. -/
theorem count_lt_of_not_steady {t letter silent loud : List Char} (h : ¬ Steady t)
    (hletter : meetsCased letter = true) (hsilent : meetsCased silent = false)
    (hloud : meetsCased loud = true) :
    (lowerWithin [] loud t).count 'ς' < (lowercase t).count 'ς' ∨
      (lowerWithin letter silent t).count 'σ' < (lowercase t).count 'σ' := by
  simp only [Steady, not_forall, Bool.not_eq_true] at h
  obtain ⟨front, rest, rfl, hopen⟩ := h
  unfold settlesSigma at hopen
  rw [lowercase, ← lowerWithin_nil]
  by_cases hfront : meetsCased front.reverse = true
  · -- final with nothing behind it that a letter would not reach through
    rw [if_pos hfront, Bool.not_eq_false'] at hopen
    refine Or.inl (count_lowerWithin_lt ?_ ?_ ?_)
    · intro front' rest' _ hfinal
      obtain ⟨hfront', hrest'⟩ := lowerSigma_eq_final_iff.1 hfinal
      refine lowerSigma_eq_final_iff.2 ⟨hfront', ?_⟩
      rw [List.append_nil, ← Bool.not_eq_true]
      intro hmeets
      rw [meetsCased_append_of_meets hmeets] at hrest'
      cases hrest'
    · intro hfinal
      have hnone := (lowerSigma_eq_final_iff.1 hfinal).2
      rw [meetsCased_append, if_pos hopen, hloud] at hnone
      cases hnone
    · rw [List.append_nil, List.append_nil]
      exact lowerSigma_eq_final_iff.2 ⟨hfront, meetsCased_of_ignorable hopen⟩
  · -- not final, as no letter stands before it, which one before the text would change
    rw [if_neg hfront, Bool.or_eq_false_iff, Bool.not_eq_false'] at hopen
    obtain ⟨hrest, hignorable⟩ := hopen
    refine Or.inr (count_lowerWithin_lt ?_ ?_ ?_)
    · intro front' rest' _ hmedial
      rw [lowerSigma_eq_medial_iff] at hmedial ⊢
      rw [List.append_nil, List.append_nil]
      intro hfinal
      obtain ⟨hfront', hrest'⟩ := lowerSigma_eq_final_iff.1 hfinal
      exact hmedial (lowerSigma_eq_final_iff.2
        ⟨meetsCased_append_of_meets hfront' _, meetsCased_append_eq_false hrest' hsilent⟩)
    · rw [Ne, lowerSigma_eq_medial_iff, not_not, lowerSigma_eq_final_iff, meetsCased_append,
        if_pos hignorable]
      exact ⟨hletter, meetsCased_append_eq_false hrest hsilent⟩
    · rw [List.append_nil, List.append_nil, lowerSigma_eq_medial_iff]
      intro hfinal
      exact hfront (lowerSigma_eq_final_iff.1 hfinal).1

theorem not_isInfix_of_count_lt {part before t after : List Char} {x : Char}
    (hbefore : x ∉ before) (hafter : x ∉ after) (h : t.count x < part.count x) :
    ¬ part <:+: before ++ t ++ after := by
  intro hpart
  have hle := hpart.sublist.count_le x
  rw [List.count_append, List.count_append, List.count_eq_zero.2 hbefore,
    List.count_eq_zero.2 hafter] at hle
  omega

/-- A text that is not steady is lost, once lowercased, between some two words of a path. -/
theorem exists_lost_of_not_steady {t : List Char} (h : ¬ Steady t) :
    ∃ before after, '\\' ∉ before ++ after ∧
      "/a.x".toList <:+ lowercase (before ++ t ++ after) ∧
      ¬ lowercase t <:+: lowercase (before ++ t ++ after) := by
  have hletter : meetsCased "a".toList = true := by decide +kernel
  have hsilent : meetsCased "/a.x".toList = false := by decide +kernel
  have hloud : meetsCased "a/a.x".toList = true := by decide +kernel
  rcases count_lt_of_not_steady h hletter hsilent hloud with hfinal | hmedial
  · have hlower : lowercase ([] ++ t ++ "a/a.x".toList) =
        [] ++ lowerWithin [] "a/a.x".toList t ++ "a/a.x".toList :=
      lowercase_around (by decide) (by decide) t
    refine ⟨[], "a/a.x".toList, by decide, ?_, ?_⟩
    · rw [hlower]
      exact List.IsSuffix.trans (by decide) (List.suffix_append _ _)
    · rw [hlower]
      exact not_isInfix_of_count_lt (by decide) (by decide) hfinal
  · have hlower : lowercase ("a".toList ++ t ++ "/a.x".toList) =
        "a".toList ++ lowerWithin "a".toList "/a.x".toList t ++ "/a.x".toList :=
      lowercase_around (by decide) (by decide) t
    refine ⟨"a".toList, "/a.x".toList, by decide, ?_, ?_⟩
    · rw [hlower]
      exact List.suffix_append _ _
    · rw [hlower]
      exact not_isInfix_of_count_lt (by decide) (by decide) hmedial

end EditGuard.Text
