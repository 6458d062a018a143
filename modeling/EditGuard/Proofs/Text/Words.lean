import EditGuard.Text.Basic
import EditGuard.Text.Blank
import EditGuard.Text.Digit
import EditGuard.Text.Word

/-! # Words, gaps and digits as parts of a text

What the readers of words and gaps accept, said of the text itself: each reader takes a beginning
of a stated kind and leaves the rest.
-/

namespace EditGuard.Text

/-! ## Words in any letter case -/

/-- Whether a text spells a word, each letter in some case. -/
def spells : List Char → List Char → Bool
  | [], [] => true
  | w :: word, c :: t => foldsTo w c && spells word t
  | _, _ => false

theorem dropFolded?_eq_some_iff {word t rest : List Char} :
    dropFolded? word t = some rest ↔ ∃ x, spells word x = true ∧ t = x ++ rest := by
  induction word generalizing t with
  | nil =>
    constructor
    · intro h
      exact ⟨[], rfl, by simpa [dropFolded?] using h⟩
    · rintro ⟨x, hx, rfl⟩
      cases x with
      | nil => rfl
      | cons c x => simp [spells] at hx
  | cons w word ih =>
    constructor
    · intro h
      cases t with
      | nil => simp [dropFolded?] at h
      | cons c t =>
        by_cases hw : foldsTo w c = true
        · obtain ⟨x, hx, rfl⟩ := ih.1 (by simpa [dropFolded?, hw] using h)
          exact ⟨c :: x, by simp [spells, hw, hx], rfl⟩
        · simp [dropFolded?, hw] at h
    · rintro ⟨x, hx, rfl⟩
      cases x with
      | nil => simp [spells] at hx
      | cons c x =>
        obtain ⟨hw, hx⟩ : foldsTo w c = true ∧ spells word x = true := by
          simpa [spells] using hx
        simpa [dropFolded?, hw] using ih.2 ⟨x, hx, rfl⟩

theorem spells_length {word x : List Char} (h : spells word x = true) :
    x.length = word.length := by
  induction word generalizing x with
  | nil =>
    cases x with
    | nil => rfl
    | cons c x => simp [spells] at h
  | cons w word ih =>
    cases x with
    | nil => simp [spells] at h
    | cons c x => simp [ih (by simpa [spells] using And.right (by simpa [spells] using h))]

/-- A word without the two letters that have cases beyond ASCII is spelled in ASCII alone. -/
theorem map_toLower_of_spells {word x : List Char} (hs : 's' ∉ word) (hk : 'k' ∉ word)
    (h : spells word x = true) : x.map Char.toLower = word := by
  induction word generalizing x with
  | nil =>
    cases x with
    | nil => rfl
    | cons c x => simp [spells] at h
  | cons w word ih =>
    cases x with
    | nil => simp [spells] at h
    | cons c x =>
      obtain ⟨hc, hx⟩ : foldsTo w c = true ∧ spells word x = true := by simpa [spells] using h
      simp only [List.mem_cons, not_or] at hs hk
      have hlower : c.toLower = w := by
        simpa [foldsTo, Ne.symm hs.1, Ne.symm hk.1] using hc
      rw [List.map_cons, hlower, ih hs.2 hk.2 hx]

theorem ne_nil_of_spells {word x : List Char} (h : spells word x = true) (hw : word ≠ []) :
    x ≠ [] := by
  rintro rfl
  have hlen := spells_length h
  exact hw (List.length_eq_zero_iff.1 hlen.symm)

/-- A character without letter case, which only itself folds to. -/
def Caseless (c : Char) : Prop := c.toLower = c ∧ c ≠ 'ſ' ∧ c ≠ '\u212a'

instance (c : Char) : Decidable (Caseless c) := inferInstanceAs (Decidable (_ ∧ _ ∧ _))

theorem eq_of_foldsTo {w c : Char} (hc : Caseless c) (h : foldsTo w c = true) : w = c := by
  obtain ⟨hl, hs, hk⟩ := hc
  simpa [foldsTo, hl, hs, hk, eq_comm] using h

theorem not_mem_of_spells {word x : List Char} {c : Char} (hc : Caseless c) (hw : c ∉ word)
    (h : spells word x = true) : c ∉ x := by
  induction word generalizing x with
  | nil =>
    cases x with
    | nil => simp
    | cons d x => simp [spells] at h
  | cons w word ih =>
    cases x with
    | nil => simp
    | cons d x =>
      obtain ⟨hd, hx⟩ : foldsTo w d = true ∧ spells word x = true := by simpa [spells] using h
      simp only [List.mem_cons, not_or] at hw ⊢
      refine ⟨?_, ih hw.2 hx⟩
      rintro rfl
      exact hw.1 (eq_of_foldsTo hc hd).symm

/-- No character is a case of two letters. -/
theorem foldsTo_unique {a b c : Char} (ha : a ≠ 'ſ' ∧ a ≠ '\u212a') (hb : b ≠ 'ſ' ∧ b ≠ '\u212a')
    (hac : foldsTo a c = true) (hbc : foldsTo b c = true) : a = b := by
  by_cases hs : c = 'ſ'
  · subst hs
    have hl : 'ſ'.toLower = 'ſ' := by decide
    have ha' : a = 's' := by simpa [foldsTo, hl, ha.1.symm] using hac
    have hb' : b = 's' := by simpa [foldsTo, hl, hb.1.symm] using hbc
    rw [ha', hb']
  by_cases hk : c = '\u212a'
  · subst hk
    have hl : '\u212a'.toLower = '\u212a' := by decide
    have ha' : a = 'k' := by simpa [foldsTo, hl, ha.2.symm] using hac
    have hb' : b = 'k' := by simpa [foldsTo, hl, hb.2.symm] using hbc
    rw [ha', hb']
  have ha' : c.toLower = a := by simpa [foldsTo, hs, hk] using hac
  have hb' : c.toLower = b := by simpa [foldsTo, hs, hk] using hbc
  rw [← ha', ← hb']

/-- Of two words spelled at one place the shorter begins the longer. -/
theorem prefix_of_spells {word word' x x' : List Char}
    (hw : ∀ c ∈ word, c ≠ 'ſ' ∧ c ≠ '\u212a') (hw' : ∀ c ∈ word', c ≠ 'ſ' ∧ c ≠ '\u212a')
    (h : spells word x = true) (h' : spells word' x' = true) (hx : x <+: x') :
    word <+: word' := by
  induction word generalizing word' x x' with
  | nil => exact List.nil_prefix
  | cons w word ih =>
    cases x with
    | nil => simp [spells] at h
    | cons c x =>
      obtain ⟨y, rfl⟩ := hx
      cases word' with
      | nil => simp [spells] at h'
      | cons w' word' =>
        obtain ⟨hc, hx⟩ : foldsTo w c = true ∧ spells word x = true := by simpa [spells] using h
        obtain ⟨hc', hx'⟩ : foldsTo w' c = true ∧ spells word' (x ++ y) = true := by
          simpa [spells] using h'
        have hww : w = w' := foldsTo_unique (hw w (by simp)) (hw' w' (by simp)) hc hc'
        rw [hww, List.cons_prefix_cons]
        exact ⟨rfl, ih (fun c hm => hw c (by simp [hm])) (fun c hm => hw' c (by simp [hm])) hx hx'
          (List.prefix_append x y)⟩

/-! ## Runs -/

theorem dropWhile_eq_iff {p : Char → Bool} {t rest : List Char} :
    t.dropWhile p = rest ↔
      ∃ run, run.all p = true ∧ t = run ++ rest ∧ ∀ c ∈ rest.head?, p c = false := by
  constructor
  · rintro rfl
    refine ⟨t.takeWhile p, List.all_takeWhile, by simp, ?_⟩
    intro c hc
    have hne : t.dropWhile p ≠ [] := by rintro h; simp [h] at hc
    have hhead : (t.dropWhile p).head hne = c := by
      simpa [List.head?_eq_some_head hne] using hc
    rw [← hhead]
    exact List.head_dropWhile_not p hne
  · rintro ⟨run, hrun, rfl, h⟩
    rw [List.dropWhile_append_of_pos (by simpa using hrun)]
    cases rest with
    | nil => rfl
    | cons c rest => simp [h c rfl]

theorem takeWhile_run {p : Char → Bool} {run rest : List Char} (hrun : run.all p = true)
    (h : ∀ c ∈ rest.head?, p c = false) : (run ++ rest).takeWhile p = run := by
  rw [List.takeWhile_append_of_pos (by simpa using hrun)]
  cases rest with
  | nil => simp
  | cons c rest => simp [h c rfl]

theorem mem_of_head?_append {s t : List Char} {c : Char} (hs : s ≠ [])
    (h : c ∈ (s ++ t).head?) : c ∈ s := by
  cases s with
  | nil => exact absurd rfl hs
  | cons d s =>
    obtain rfl : d = c := by simpa using h
    exact List.mem_cons_self

/-! ## Gaps -/

def Ungapped (t : List Char) : Prop := ∀ c ∈ t.head?, isGap c = false

@[simp] theorem ungapped_nil : Ungapped [] := by simp [Ungapped]

@[simp] theorem ungapped_cons {c : Char} {t : List Char} :
    Ungapped (c :: t) ↔ isGap c = false := by
  simp [Ungapped]

theorem Ungapped.dropWhile {t : List Char} (h : Ungapped t) : t.dropWhile isGap = t :=
  dropWhile_eq_iff.2 ⟨[], rfl, rfl, h⟩

theorem dropWhile_isGap_eq_iff {t rest : List Char} :
    t.dropWhile isGap = rest ↔ ∃ gap, gap.all isGap = true ∧ t = gap ++ rest ∧ Ungapped rest :=
  dropWhile_eq_iff

theorem dropGap?_eq_some_iff {t rest : List Char} :
    dropGap? t = some rest ↔
      ∃ gap, gap ≠ [] ∧ gap.all isGap = true ∧ t = gap ++ rest ∧ Ungapped rest := by
  constructor
  · intro h
    cases t with
    | nil => simp [dropGap?] at h
    | cons c t =>
      by_cases hc : isGap c = true
      · simp only [dropGap?, hc, if_true, Option.some.injEq] at h
        obtain ⟨gap, hgap, rfl, hr⟩ := dropWhile_isGap_eq_iff.1 h
        exact ⟨c :: gap, by simp, by simp [hc, hgap], rfl, hr⟩
      · simp [dropGap?, hc] at h
  · rintro ⟨gap, hne, hgap, rfl, hr⟩
    obtain ⟨c, gap, rfl⟩ := List.exists_cons_of_ne_nil hne
    obtain ⟨hc, hgap⟩ : isGap c = true ∧ gap.all isGap = true := by simpa using hgap
    simp only [List.cons_append, dropGap?, hc, if_true, Option.some.injEq]
    exact dropWhile_isGap_eq_iff.2 ⟨gap, hgap, rfl, hr⟩

theorem not_mem_of_all_isGap {gap : List Char} {c : Char} (h : gap.all isGap = true)
    (hc : isGap c = false) : c ∉ gap := by
  intro hm
  rw [List.all_eq_true] at h
  simp [h c hm] at hc

theorem exists_gap_behind (t : List Char) : ∃ note gap, t = note ++ gap ∧ gap.all isGap = true ∧
    ∀ c ∈ note.getLast?, isGap c = false := by
  obtain ⟨run, hrun, ht, hhead⟩ := dropWhile_eq_iff.1 (Eq.refl (t.reverse.dropWhile isGap))
  refine ⟨(t.reverse.dropWhile isGap).reverse, run.reverse, ?_, by simpa using hrun,
    by simpa using hhead⟩
  rw [← List.reverse_append, ← ht, List.reverse_reverse]

theorem ungapped_of_spells {w : Char} {word x t : List Char} (h : spells (w :: word) x = true)
    (hw : isGap w = false) : Ungapped (x ++ t) := by
  cases x with
  | nil => simp [spells] at h
  | cons c x =>
    have hc : foldsTo w c = true := And.left (by simpa [spells] using h)
    rw [List.cons_append, ungapped_cons, ← Bool.not_eq_true]
    intro hg
    simp only [isGap, Bool.or_eq_true, decide_eq_true_eq] at hg
    rcases hg with rfl | rfl
    · rw [eq_of_foldsTo (by decide) hc] at hw; simp [isGap] at hw
    · rw [eq_of_foldsTo (by decide) hc] at hw; simp [isGap] at hw

/-! ## Trimming -/

theorem trimEnd_append_blanks {t blanks : List Char} (h : blanks.all isBlank = true) :
    trimEnd (t ++ blanks) = trimEnd t := by
  have hrev : ∀ c ∈ blanks.reverse, isBlank c = true := by simpa using h
  rw [trimEnd, List.reverse_append, List.dropWhile_append_of_pos hrev, trimEnd]

theorem trim_append_blanks {t blanks : List Char} (h : blanks.all isBlank = true) :
    trim (t ++ blanks) = trim t := by
  unfold trim
  rw [List.dropWhile_append]
  split
  · next hnil =>
    have hall : blanks.dropWhile isBlank = [] :=
      dropWhile_eq_iff.2 ⟨blanks, h, by simp, by simp⟩
    rw [hall, List.isEmpty_iff.1 hnil]
  · exact trimEnd_append_blanks h

theorem trim_eq_self {t : List Char} (hfirst : ∀ c ∈ t.head?, isBlank c = false)
    (hlast : ∀ c ∈ t.getLast?, isBlank c = false) : trim t = t := by
  have hstart : t.dropWhile isBlank = t := dropWhile_eq_iff.2 ⟨[], rfl, rfl, hfirst⟩
  have hend : t.reverse.dropWhile isBlank = t.reverse :=
    dropWhile_eq_iff.2 ⟨[], rfl, rfl, by simpa using hlast⟩
  rw [trim, hstart, trimEnd, hend, List.reverse_reverse]

theorem trim_ne_nil {t : List Char} (hne : t ≠ []) (hfirst : ∀ c ∈ t.head?, isBlank c = false) :
    trim t ≠ [] := by
  intro hnil
  have hstart : t.dropWhile isBlank = t := dropWhile_eq_iff.2 ⟨[], rfl, rfl, hfirst⟩
  rw [trim, hstart, trimEnd, List.reverse_eq_nil_iff] at hnil
  obtain ⟨run, hrun, ht, -⟩ := dropWhile_eq_iff.1 hnil
  obtain ⟨c, rest, rfl⟩ := List.exists_cons_of_ne_nil hne
  have hm : c ∈ run := by
    have hrev : c ∈ (c :: rest).reverse := by simp
    rwa [ht, List.append_nil] at hrev
  have hblank := List.all_eq_true.1 hrun c hm
  rw [hfirst c rfl] at hblank
  exact absurd hblank (by simp)

theorem trimEnd_prefix (t : List Char) : trimEnd t <+: t := by
  have hsuffix : t.reverse.dropWhile isBlank <:+ t.reverse := List.dropWhile_suffix isBlank
  rw [trimEnd, ← List.reverse_suffix, List.reverse_reverse]
  exact hsuffix

theorem isInfix_trim (t : List Char) : trim t <:+: t := by
  have hend : trim t <+: t.dropWhile isBlank := trimEnd_prefix _
  exact hend.isInfix.trans (List.dropWhile_suffix isBlank).isInfix

/-- Trimming leaves no white space at the ends. -/
theorem ends_of_trim (t : List Char) :
    (∀ c ∈ (trim t).head?, isBlank c = false) ∧ ∀ c ∈ (trim t).getLast?, isBlank c = false := by
  obtain ⟨-, -, -, hfirst⟩ := dropWhile_eq_iff.1 (Eq.refl (t.dropWhile isBlank))
  obtain ⟨-, -, -, hlast⟩ :=
    dropWhile_eq_iff.1 (Eq.refl ((t.dropWhile isBlank).reverse.dropWhile isBlank))
  constructor
  · intro c hc
    obtain ⟨blanks, hblanks⟩ := trimEnd_prefix (t.dropWhile isBlank)
    apply hfirst c
    rw [← hblanks, Option.mem_def, List.head?_append, ← trim, Option.mem_def.1 hc, Option.some_or]
  · intro c hc
    rw [trim, trimEnd, List.getLast?_reverse] at hc
    exact hlast c hc

theorem ends_of_trim_eq_self {t : List Char} (h : trim t = t) :
    (∀ c ∈ t.head?, isBlank c = false) ∧ ∀ c ∈ t.getLast?, isBlank c = false := by
  have hends := ends_of_trim t
  rwa [h] at hends

/-! ## Digits -/

/-- Sets of characters whose ranges all lie apart have no character in common. -/
theorem not_contains_of_apart {as bs : Ranges}
    (h : as.all (fun a => bs.all fun b => decide (a.2 < b.1) || decide (b.2 < a.1)) = true)
    {c : Char} (hc : as.contains c = true) : bs.contains c = false := by
  rw [← Bool.not_eq_true]
  intro hb
  obtain ⟨a, ha, ha₁, ha₂⟩ := Ranges.contains_iff.1 hc
  obtain ⟨b, hb, hb₁, hb₂⟩ := Ranges.contains_iff.1 hb
  simp only [List.all_eq_true, Bool.or_eq_true, decide_eq_true_eq] at h
  have := h a ha b hb
  omega

theorem not_digit_of_isBlank {c : Char} (h : isBlank c = true) : isDecimalDigit c = false := by
  have hforeign : foreignDigitRanges.contains c = false := not_contains_of_apart (by decide) h
  have hascii : Ranges.contains [(48, 57)] c = false := not_contains_of_apart (by decide) h
  have hdigit : c.isDigit = false := by
    rw [← hascii]
    simp [Ranges.contains, Char.isDigit, UInt32.le_iff_toNat_le]
  simp [isDecimalDigit, hforeign, hdigit]

theorem toString_isDigit (n : Nat) : ∀ c ∈ (toString n).toList, c.isDigit = true := by
  intro c hc
  rw [Nat.toString_eq_repr, Nat.toList_repr] at hc
  exact Nat.isDigit_of_mem_toDigits (by decide) (by decide) hc

theorem not_mem_toString {c : Char} (h : c.isDigit = false) (n : Nat) :
    c ∉ (toString n).toList := by
  intro hm
  rw [toString_isDigit n c hm] at h
  exact absurd h (by simp)

/-- A number is read off ASCII digits, by their value in base ten. -/
theorem decimal?_eq_some_iff {t : List Char} {n : Nat} :
    decimal? t = some n ↔
      t ≠ [] ∧ (∀ c ∈ t, c.isDigit = true) ∧ Nat.ofDigitChars 10 t 0 = n := by
  have hvalue : t.foldl (fun n c => n * 10 + (c.toNat - 48)) 0 = Nat.ofDigitChars 10 t 0 := by
    unfold Nat.ofDigitChars
    congr 1
    funext n c
    rw [Nat.mul_comm]
    rfl
  unfold decimal?
  rw [hvalue]
  by_cases hempty : t = []
  · simp [hempty]
  · by_cases hall : t.all Char.isDigit = true
    · simpa [hempty, hall] using fun _ => List.all_eq_true.1 hall
    · have hnot : ¬ ∀ c ∈ t, c.isDigit = true := mt List.all_eq_true.2 hall
      simp [hall, hnot]

/-- A number is the value of its digits. -/
theorem decimal?_toString (n : Nat) : decimal? (toString n).toList = some n := by
  have hdigits : (toString n).toList = Nat.toDigits 10 n := by
    rw [Nat.toString_eq_repr, Nat.toList_repr]
  have hne : (toString n).toList ≠ [] := by
    rw [hdigits]
    exact Nat.toDigits_ne_nil
  have hvalue : Nat.ofDigitChars 10 (toString n).toList 0 = n := by
    rw [hdigits]
    exact Nat.ofDigitChars_toDigits (by decide) (by decide)
  exact decimal?_eq_some_iff.2 ⟨hne, toString_isDigit n, hvalue⟩

/-! ## Word characters -/

theorem contains_of_isAlphanum {c : Char} (h : c.isAlphanum = true ∨ c = '_') :
    Ranges.contains [(48, 57), (65, 90), (95, 95), (97, 122)] c = true := by
  rcases h with h | rfl
  · have hcode : c.toNat = c.val.toNat := rfl
    have hkinds : (decide (65 ≤ c.val ∧ c.val ≤ 90) || (97 ≤ c.val && c.val ≤ 122) ||
        (48 ≤ c.val && c.val ≤ 57)) = true := h
    have hranges : ((65 ≤ c.val.toNat ∧ c.val.toNat ≤ 90) ∨ 97 ≤ c.val.toNat ∧ c.val.toNat ≤ 122) ∨
        48 ≤ c.val.toNat ∧ c.val.toNat ≤ 57 := by
      simpa [UInt32.le_iff_toNat_le] using hkinds
    simp only [Ranges.contains, List.any_cons, List.any_nil, Bool.or_eq_true, Bool.and_eq_true,
      decide_eq_true_eq]
    omega
  · decide

theorem isWord_of_isAlphanum {c : Char} (h : c.isAlphanum = true ∨ c = '_') : isWord c = true := by
  have hends : ∀ range ∈ [(48, 57), (65, 90), (95, 95), (97, 122)], range.2 < 128 := by decide
  obtain ⟨range, hrange, -, hle⟩ := Ranges.contains_iff.1 (contains_of_isAlphanum h)
  have hascii : c.toNat < 128 := Nat.lt_of_le_of_lt hle (hends range hrange)
  rw [isWord, if_pos hascii]
  simpa using h

theorem not_blank_of_isWord {c : Char} (h : isWord c = true) : isBlank c = false := by
  unfold isWord at h
  split at h
  · have hword : c.isAlphanum = true ∨ c = '_' := by simpa using h
    exact not_contains_of_apart (by decide) (contains_of_isAlphanum hword)
  · exact not_contains_of_apart (by decide +kernel) h

end EditGuard.Text
