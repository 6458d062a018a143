import EditGuard.Proofs.Review.Ownership

/-! # How far a marker reaches

A marker should be one comment, which its first closing ends. A dash that follows the status word
opens a context, though, and so does the first dash of a closing: a marker without a context runs
on to the next closing of its line, if there is one, and takes what stands between as its context.
-/

namespace EditGuard.Review.MarkerText

open Text

/-- A comment that its own closing ends: no other one stands before it. -/
def OneComment (t : List Char) : Prop := closing <:+ t ∧ ¬ closing <:+: t.dropLast

instance (t : List Char) : Decidable (OneComment t) := inferInstanceAs (Decidable (_ ∧ _))

/-- A marker without a context: a closing follows the opener. -/
def Bare (t : List Char) : Prop := ∃ word opener, Opener word opener ∧ t = opener ++ closing

/-- A closing before the last one of an ending has the dash of the ending as its first. -/
theorem closing_infix_dropLast {context : Option (List Char)} {body left : List Char}
    (h : Ending context body left) (hin : closing <:+: body.dropLast) :
    ∃ rest, body ++ left = closing ++ rest ∧ closing <:+: firstLine rest := by
  have hbody := h.newline_not_mem
  cases h with
  | bare alone =>
    exfalso
    have hlen := hin.length_le
    simp [closing] at hlen
  | @noted before note behind _ hbefore hbehind hline hopen hfirst hlast =>
    have hdrop : ('-' :: (before ++ note ++ behind ++ closing)).dropLast =
        ('-' :: (before ++ note)) ++ (behind ++ ['-', '-']) := by
      have hlong : '-' :: (before ++ note ++ behind ++ closing) =
          ('-' :: (before ++ note)) ++ (behind ++ ['-', '-']) ++ ['>'] := by simp [closing]
      rw [hlong, List.dropLast_concat]
    have hgt : '>' ∉ behind ++ ['-', '-'] := by simp [gt_not_mem_gap hbehind]
    rw [hdrop, closing_infix_append hgt] at hin
    cases before with
    | cons c before =>
      -- A gap behind the dash keeps it out of every closing.
      exfalso
      have hlast' : ('-' :: c :: before).getLast? ≠ some '-' := by
        simpa [List.getLast?_cons] using dash_not_last_of_gap hbefore
      have hgt' : '>' ∉ '-' :: c :: before := by simpa using gt_not_mem_gap hbefore
      exact hopen ((closing_infix_prepend hgt' hlast').1 (by simpa using hin))
    | nil =>
      rw [List.nil_append, List.infix_cons_iff, or_iff_left hopen] at hin
      obtain ⟨note', hnote⟩ := hin
      obtain rfl : '-' :: '>' :: note' = note := by simpa [closing] using hnote
      have hrest : '\n' ∉ note' ++ behind ++ closing := by
        simp only [List.mem_cons, List.mem_append, not_or] at hbody
        simp [hbody.2.1.1.2.2.2, hbody.2.1.2, closing]
      refine ⟨note' ++ behind ++ closing ++ left, by simp [closing], note' ++ behind,
        firstLine left, ?_⟩
      rw [firstLine_append hrest]

/-- A marker is one comment unless a second closing follows the first on the line. -/
theorem oneComment_iff {word opener : List Char} {context : Option (List Char)}
    {body left : List Char} (hopener : Opener word opener) (hend : Ending context body left) :
    OneComment (opener ++ body) ↔
      ∀ rest, body ++ left = closing ++ rest → ¬ closing <:+: firstLine rest := by
  obtain ⟨tail, hbody⟩ := hend.head
  have hne : body ≠ [] := by simp [hbody]
  have hgt : '>' ∉ opener :=
    hopener.not_mem (c := '>') (by decide) (by decide) (by decide) (by decide)
  have hsplit : closing <:+: (opener ++ body).dropLast ↔ closing <:+: body.dropLast := by
    rw [List.dropLast_append_of_ne_nil hne, closing_infix_prepend hgt hopener.last]
  have hsuffix : closing <:+ opener ++ body :=
    hend.closing_suffix.trans (List.suffix_append opener body)
  rw [OneComment, hsplit]
  constructor
  · rintro ⟨-, hnot⟩ rest heq hin
    cases hend with
    | bare alone =>
      obtain rfl : left = rest := by simpa using heq
      exact alone hin
    | @noted before note behind _ hbefore hbehind hline hopen hfirst hlast =>
      -- The body is longer than a closing, so the closing in front is not its last one.
      have hprefix : closing <+: ('-' :: (before ++ note ++ behind ++ closing)).dropLast := by
        refine List.prefix_of_prefix_length_le ⟨rest, heq.symm⟩
          ((List.dropLast_prefix _).trans (List.prefix_append _ _)) ?_
        simp [closing]; omega
      exact hnot hprefix.isInfix
  · intro h
    refine ⟨hsuffix, ?_⟩
    intro hin
    obtain ⟨rest, heq, hclose⟩ := closing_infix_dropLast hend hin
    exact h rest heq hclose

/-- The same for the markers of a text: only a marker without a context fails to be one comment,
and it does so when its line holds another closing behind it. -/
theorem oneComment_of_mem_scan {t : List Char} {hit : Hit MarkerText}
    (hm : hit ∈ recogniser.scan t) :
    OneComment hit.lexeme ↔ ∀ pre marker rest, t = pre ++ marker ++ rest →
      byteLength pre = hit.offset → Bare marker → ¬ closing <:+: firstLine rest := by
  obtain ⟨pre, left, ht, hoffset, -, hread⟩ := Recogniser.mem_scan recogniser_consumes hm
  obtain ⟨opener, body, hsplit, hopener, hend⟩ := recogniser_eq_some_iff.1 hread
  have hlexeme : hit.lexeme = opener ++ body := List.append_cancel_right hsplit
  obtain ⟨tail, hbody⟩ := hend.head
  rw [hlexeme] at ht ⊢
  rw [oneComment_iff hopener hend]
  constructor
  · rintro h pre' marker rest heq hlen ⟨word, opener', hopener', rfl⟩
    simp only [ht, List.append_assoc] at heq
    obtain ⟨-, heq⟩ := append_inj_of_byteLength heq (hoffset.symm.trans hlen.symm)
    have hcut : opener ++ '-' :: (tail ++ left) = opener' ++ '-' :: ('-' :: '>' :: rest) := by
      simpa [hbody, closing] using heq
    obtain ⟨-, htail⟩ := hopener.unique hopener' hcut
    exact h rest (by simp [hbody, htail, closing])
  · intro h rest heq
    refine h pre (opener ++ closing) rest ?_ hoffset.symm ⟨_, opener, hopener, rfl⟩
    rw [ht]
    simp [heq]

/-! ## Two markers on a line -/

def bareMarker (s : Status) : List Char := ("<!-- REVIEW STATUS: " ++ s.name ++ " -->").toList

theorem bareMarker_eq (s : Status) : bareMarker s = plainOpener s ++ closing := by
  rw [plainOpener_eq, bareMarker, String.toList_append, List.append_assoc]
  rfl

theorem not_mem_head {c : Char} (hc : Caseless c) (hgap : isGap c = false) (hopen : c ∉ opening)
    (hw : c ∉ "review".toList ++ "status:".toList ++ words.flatten) (s : Status) :
    c ∉ ("<!-- REVIEW STATUS: " ++ s.name).toList := by
  have hopener := (opener_plain s).not_mem hc hgap hopen hw
  rw [plainOpener_eq, List.mem_append, not_or] at hopener
  exact hopener.1

/-- What a marker takes as its context when another one follows it on the line. -/
def swallowed (between : List Char) (s : Status) : List Char :=
  "->".toList ++ between ++ ("<!-- REVIEW STATUS: " ++ s.name).toList

theorem swallowed_first (between : List Char) (s : Status) :
    ∀ c ∈ (swallowed between s).head?, isBlank c = false := by
  intro c hc
  obtain rfl : '-' = c := by simpa [swallowed] using hc
  decide

theorem swallowed_last (between : List Char) (s : Status) :
    ∀ c ∈ (swallowed between s).getLast?, isBlank c = false := by
  have hname : (swallowed between s).getLast? = s.name.toList.getLast? := by
    rw [swallowed, String.toList_append, ← List.append_assoc, List.getLast?_append]
    cases s <;> rfl
  have hplain : (s.name.toList.getLast?.all fun c => !isBlank c) = true := by cases s <;> decide
  intro c hc
  rw [hname] at hc
  simpa [Option.mem_def.1 hc] using hplain

theorem ending_swallowed {between : List Char} (hline : '\n' ∉ between)
    (hopen : ¬ closing <:+: between) (s : Status) :
    Ending (some (swallowed between s)) (closing ++ between ++ bareMarker s) [] := by
  have hbody : closing ++ between ++ bareMarker s =
      '-' :: ([] ++ swallowed between s ++ [' '] ++ closing) := by
    rw [bareMarker_eq, plainOpener_eq, swallowed]
    simp only [List.append_assoc]
    rfl
  have hgt := not_mem_head (c := '>') (by decide) (by decide) (by decide) (by decide) s
  rw [hbody]
  refine .noted rfl rfl ?_ ?_ ?_ ?_
  · have hname := not_mem_head (c := '\n') (by decide) (by decide) (by decide) (by decide) s
    simp only [swallowed, List.mem_append, not_or]
    exact ⟨⟨by decide, hline⟩, hname⟩
  · rw [swallowed, closing_infix_append hgt]
    exact mt closing_infix_dash_gt.1 hopen
  · simp [swallowed, isGap]
  · intro c hc
    have hblank := swallowed_last between s c hc
    rw [← Bool.not_eq_true] at hblank ⊢
    exact mt isBlank_of_isGap hblank

theorem note_swallowed (word between : List Char) (s : Status) :
    note ⟨word, some (swallowed between s)⟩ = some (swallowed between s) := by
  have htrim := trim_eq_self (swallowed_first between s) (swallowed_last between s)
  have hne : swallowed between s ≠ [] := by simp [swallowed]
  simp [note, htrim, hne]

/-- A marker is one comment unless it has no context and its line holds another closing: then it
runs on. So of two markers on a line only the first is read, which keeps the phase at its status. -/
theorem reach_of_markers (t between : List Char) (s₁ s₂ : Status) :
    (∀ hit ∈ recogniser.scan t, OneComment hit.lexeme ↔
      ∀ pre marker rest, t = pre ++ marker ++ rest → byteLength pre = hit.offset → Bare marker →
        ¬ closing <:+: firstLine rest) ∧
    ('\n' ∉ between → ¬ closing <:+: between →
      ∀ line, line = bareMarker s₁ ++ between ++ bareMarker s₂ →
        (Marker.all (LineIndex.ofText line) line).map (fun m => (m.status, m.context)) =
          [(s₁, some (swallowed between s₂))] ∧
        ∀ above n, WholeLines above →
          (Document.ofText above).outline.phases.getLast?.map (·.number) = some n →
          (Document.ofText (above ++ line)).statusOf? n = some s₁) := by
  constructor
  · intro hit hm
    exact oneComment_of_mem_scan hm
  · intro hline hopen line hsplit
    have hend := ending_swallowed hline hopen s₂
    have hbody : line = plainOpener s₁ ++ (closing ++ between ++ bareMarker s₂) := by
      rw [hsplit, bareMarker_eq s₁]
      simp
    constructor
    · have hcredits := (credits_marker s₁ hend (Or.inl rfl)).2
      rw [List.append_nil, ← hbody, note_swallowed] at hcredits
      rw [map_all, hcredits]
      rfl
    · intro above n ha hn
      rw [map_last_phase] at hn
      rw [hbody]
      exact Document.statusOf?_append_marker ha hn s₁ hend

/-- A rejection on the line of an approval is not read, and the approval stands. -/
theorem rejection_not_read :
    (∃ hit ∈ recogniser.scan (bareMarker .approved ++ " ".toList ++ bareMarker .rejected),
      ¬ OneComment hit.lexeme) ∧
    (Document.ofText ("## Phase 1\n".toList ++ (bareMarker .approved ++ " ".toList ++
      bareMarker .rejected))).statusOf? 1 = some .approved := by
  decide +kernel

theorem reach_of_markers_rejected :
    (Document.ofText ("## Phase 1\n".toList ++ (bareMarker .approved ++ " ".toList ++
      bareMarker .rejected))).statusOf? 1 = some .approved :=
  ((reach_of_markers [] " ".toList .approved .rejected).2 (by decide) (by decide) _ rfl).2
    "## Phase 1\n".toList 1 (Or.inr (by decide)) (by decide)

end EditGuard.Review.MarkerText
