import EditGuard.Proofs.Review.Ownership
import EditGuard.Proofs.Time.Stamp
import EditGuard.Review.Gate

/-! # The approval template

The denial of an edit holds a marker line with a blank for the reviewer. Any name may be filled in
that stays on its line and closes no comment: the line is then one marker, whose context is the
time stamp and the name.
-/

namespace EditGuard.Review

open Text Time

/-! ## Filling in -/

/-- Replaces every occurrence of a part, from left to right, after first passing over `skip`
characters. -/
def replaceFrom (part new : List Char) : (skip : Nat) → List Char → List Char
  | _, [] => []
  | skip + 1, _ :: rest => replaceFrom part new skip rest
  | 0, c :: rest =>
    if part.isPrefixOf (c :: rest) then new ++ replaceFrom part new (part.length - 1) rest
    else c :: replaceFrom part new 0 rest

def replaceAll (part new t : List Char) : List Char := replaceFrom part new 0 t

theorem replaceFrom_skip (part new skipped t : List Char) :
    replaceFrom part new skipped.length (skipped ++ t) = replaceAll part new t := by
  induction skipped with
  | nil => rfl
  | cons c skipped ih => exact ih

theorem replaceAll_append {c : Char} {before : List Char} (h : c ∉ before)
    (part new t : List Char) :
    replaceAll (c :: part) new (before ++ t) = before ++ replaceAll (c :: part) new t := by
  induction before with
  | nil => rfl
  | cons d before ih =>
    obtain ⟨hd, hbefore⟩ : c ≠ d ∧ c ∉ before := by simpa using h
    have hnot : ¬ (c :: part).isPrefixOf (d :: (before ++ t)) = true := by simp [hd]
    rw [List.cons_append, replaceAll, replaceFrom, if_neg hnot, List.cons_append]
    exact congrArg (d :: ·) (ih hbefore)

theorem replaceAll_part (c : Char) (part new t : List Char) :
    replaceAll (c :: part) new (c :: part ++ t) = new ++ replaceAll (c :: part) new t := by
  have hprefix : (c :: part).isPrefixOf (c :: (part ++ t)) = true := by simp
  rw [List.cons_append, replaceAll, replaceFrom, if_pos hprefix]
  exact congrArg (new ++ ·) (replaceFrom_skip (c :: part) new part t)

theorem replaceAll_once {c : Char} {before behind : List Char} (hbefore : c ∉ before)
    (hbehind : c ∉ behind) (part new : List Char) :
    replaceAll (c :: part) new (before ++ (c :: part ++ behind)) = before ++ (new ++ behind) := by
  have hrest := replaceAll_append hbehind part new []
  rw [List.append_nil] at hrest
  rw [replaceAll_append hbefore, replaceAll_part, hrest]
  simp [replaceAll, replaceFrom]

/-! ## The line of the template -/

def reviewerBlank : List Char := "\x7breviewer\x7d".toList

/-- What the context of the template says of a reviewer. -/
def attestation (now : Instant) (reviewer : List Char) : List Char :=
  now.stamp.toList ++ " - ".toList ++ reviewer

def approvalLine (now : Instant) (reviewer : List Char) : List Char :=
  "<!-- REVIEW STATUS: ".toList ++ requiredStatus.name.toList ++ " - ".toList ++
    attestation now reviewer ++ " -->".toList

theorem template_toList (now : Instant) (reviewer : String) :
    (Blocked.template now reviewer).toList = approvalLine now reviewer.toList := by
  unfold Blocked.template approvalLine attestation
  simp only [String.toList_append]
  simp only [List.append_assoc]

def approvalHead (now : Instant) : List Char :=
  "<!-- REVIEW STATUS: ".toList ++ requiredStatus.name.toList ++ " - ".toList ++
    now.stamp.toList ++ " - ".toList

theorem approvalLine_eq (now : Instant) (reviewer : List Char) :
    approvalLine now reviewer = approvalHead now ++ (reviewer ++ " -->".toList) := by
  unfold approvalLine attestation approvalHead
  simp only [List.append_assoc]

theorem not_mem_approvalHead {c : Char} (hstamp : isStamp c = false)
    (hplain : c ∉ "<!-- REVIEW STATUS: ".toList ++ requiredStatus.name.toList ++ " - ".toList)
    (now : Instant) : c ∉ approvalHead now := by
  have hdash : c ∉ " - ".toList := fun hm => hplain (List.mem_append_right _ hm)
  unfold approvalHead
  rw [List.mem_append, List.mem_append, not_or, not_or]
  exact ⟨⟨hplain, not_mem_stamp now hstamp⟩, hdash⟩

/-- The line of the denial with the blank. -/
def templateLine (b : Blocked) (now : Instant) : List Char :=
  (((b.message now).toList.splitOn '\n').find? (occursIn reviewerBlank)).getD []

theorem replaceAll_approvalLine (now : Instant) (reviewer : List Char) :
    replaceAll reviewerBlank reviewer (approvalLine now reviewerBlank) =
      approvalLine now reviewer := by
  have hbefore := not_mem_approvalHead (c := '\x7b') (by decide) (by decide) now
  have hbehind : '\x7b' ∉ " -->".toList := by decide
  have honce := replaceAll_once hbefore hbehind "reviewer\x7d".toList reviewer
  rw [approvalLine_eq, approvalLine_eq]
  exact honce

theorem dash_toList : " - ".toList = [' ', '-', ' '] := rfl

theorem closing_toList : " -->".toList = ' ' :: MarkerText.closing := rfl

theorem attestation_first (now : Instant) (reviewer : List Char) :
    ∀ c ∈ (attestation now reviewer).head?, isBlank c = false := by
  have hfirst := stamp_first now (" - ".toList ++ reviewer)
  rwa [← List.append_assoc] at hfirst

theorem attestation_ne_nil (now : Instant) (reviewer : List Char) :
    attestation now reviewer ≠ [] := by
  unfold attestation
  simp

/-- A name on one line that closes no comment leaves the context open up to its end. -/
theorem attestation_open {reviewer : List Char} (hline : '\n' ∉ reviewer)
    (hopen : ¬ MarkerText.closing <:+: reviewer) (now : Instant) :
    '\n' ∉ attestation now reviewer ∧ ¬ MarkerText.closing <:+: attestation now reviewer := by
  have hlast : (now.stamp.toList ++ " - ".toList).getLast? ≠ some '-' := by
    have hspace : " - ".toList.getLast? = some ' ' := rfl
    rw [List.getLast?_append, hspace]
    simp
  have hgt : '>' ∉ now.stamp.toList ++ " - ".toList := by
    rw [List.mem_append, not_or]
    exact ⟨not_mem_stamp now (by decide), by decide⟩
  refine ⟨?_, ?_⟩
  · unfold attestation
    rw [List.mem_append, List.mem_append, not_or, not_or]
    exact ⟨⟨not_mem_stamp now (by decide), by decide⟩, hline⟩
  · unfold attestation
    rwa [MarkerText.closing_infix_prepend hgt hlast]

/-- The filled line is an approval, with time stamp and name as its context. -/
theorem ending_approvalLine {reviewer : List Char} (hline : '\n' ∉ reviewer)
    (hopen : ¬ MarkerText.closing <:+: reviewer) (now : Instant) :
    ∃ context body, MarkerText.Ending context body [] ∧
      approvalLine now reviewer = MarkerText.plainOpener .approved ++ body ∧
      MarkerText.note ⟨Status.approved.name.toList, context⟩ =
        some (trim (attestation now reviewer)) := by
  obtain ⟨hno, hnot⟩ := attestation_open hline hopen now
  obtain ⟨note, gap, hsplit, hgap, hlast⟩ := exists_gap_behind (attestation now reviewer)
  have hbehind : (gap ++ [' ']).all isGap = true := by
    rw [List.all_append, hgap]
    decide
  refine ⟨some note, '-' :: ([' '] ++ note ++ (gap ++ [' ']) ++ MarkerText.closing),
    .noted (by decide) hbehind ?_ ?_ ?_ hlast, ?_, ?_⟩
  · exact fun hm => hno (by rw [hsplit]; exact List.mem_append_left gap hm)
  · exact fun hin => hnot (by rw [hsplit]; exact hin.trans (List.prefix_append note gap).isInfix)
  · have heq : note ++ (gap ++ [' ']) ++ MarkerText.closing =
        attestation now reviewer ++ (' ' :: MarkerText.closing) := by
      rw [hsplit]
      simp
    intro c hc
    rw [heq] at hc
    have hm : c ∈ (attestation now reviewer).head? := by
      cases hh : attestation now reviewer with
      | nil => exact absurd hh (attestation_ne_nil now reviewer)
      | cons d rest => rw [hh] at hc; exact hc
    rw [← Bool.not_eq_true]
    intro hg
    have hblank := isBlank_of_isGap hg
    rw [attestation_first now reviewer c hm] at hblank
    exact absurd hblank (by simp)
  · unfold approvalLine requiredStatus
    rw [MarkerText.plainOpener_eq, String.toList_append, dash_toList, closing_toList, hsplit]
    simp only [List.append_assoc, List.cons_append, List.nil_append]
  · have hblanks : gap.all isBlank = true := by
      rw [List.all_eq_true] at hgap ⊢
      exact fun c hc => isBlank_of_isGap (hgap c hc)
    have htrim : trim note = trim (attestation now reviewer) := by
      rw [hsplit, trim_append_blanks hblanks]
    have hne := trim_ne_nil (attestation_ne_nil now reviewer) (attestation_first now reviewer)
    simp [MarkerText.note, htrim, hne]

/-! ## The denial -/

/-- The characters that give a line of the denial a meaning: they start a marker or a blank. -/
def IsActive (c : Char) : Prop := c = '<' ∨ c = '\x7b'

theorem not_mem_statusName {c : Char} (hc : IsActive c) (b : Blocked) :
    c ∉ b.statusName.toList := by
  unfold Blocked.statusName
  rcases hc with rfl | rfl
  · cases b.status with
    | none => decide
    | some s => cases s <;> decide
  · cases b.status with
    | none => decide
    | some s => cases s <;> decide

/-- The denial is a notice, the template and a line for comments. -/
theorem message_toList (b : Blocked) (now : Instant) : ∃ notice comments : List Char,
    (b.message now).toList =
      notice ++ '\n' :: (approvalLine now reviewerBlank ++ '\n' :: comments) ∧
    (∀ c, IsActive c → c ∉ notice) ∧ '<' ∉ comments := by
  obtain ⟨notice, hmessage, hlast, hplain⟩ : ∃ notice : String,
      b.message now = notice ++ Blocked.template now "\x7breviewer\x7d" ++ "\n" ++
        "Review comments: \x7breview_comments\x7d" ∧
      notice.toList.getLast? = some '\n' ∧ ∀ c, IsActive c → c ∉ notice.toList := by
    refine ⟨_, rfl, ?_, ?_⟩
    · have hend : (toString " heading:\n").toList.getLast? = some '\n' := rfl
      simp only [String.toList_append, List.getLast?_append, hend, Option.some_or]
    · intro c hc
      have hdigit : c.isDigit = false := by
        rcases hc with rfl | rfl
        · decide
        · decide
      have hstatus : c ∉ (toString b.statusName).toList := not_mem_statusName hc b
      simp only [String.toList_append, List.mem_append, not_mem_toString hdigit, hstatus, or_false]
      rcases hc with rfl | rfl
      · decide
      · decide
  obtain ⟨front, hfront⟩ := List.getLast?_eq_some_iff.1 hlast
  refine ⟨front, "Review comments: \x7breview_comments\x7d".toList, ?_, ?_, by decide⟩
  · have hnewline : "\n".toList = ['\n'] := rfl
    have hblank : "\x7breviewer\x7d".toList = reviewerBlank := rfl
    rw [hmessage, String.toList_append, String.toList_append, String.toList_append, template_toList,
      hfront, hnewline, hblank]
    simp only [List.append_assoc, List.cons_append, List.nil_append]
  · intro c hc hm
    exact hplain c hc (by rw [hfront]; exact List.mem_append_left _ hm)

theorem newline_not_mem_approvalLine {reviewer : List Char} (hline : '\n' ∉ reviewer)
    (now : Instant) : '\n' ∉ approvalLine now reviewer := by
  have hbefore := not_mem_approvalHead (c := '\n') (by decide) (by decide) now
  have hbehind : '\n' ∉ " -->".toList := by decide
  rw [approvalLine_eq, List.mem_append, List.mem_append, not_or, not_or]
  exact ⟨hbefore, hline, hbehind⟩

theorem templateLine_eq (b : Blocked) (now : Instant) :
    templateLine b now = approvalLine now reviewerBlank := by
  obtain ⟨notice, comments, hmessage, hplain, -⟩ := message_toList b now
  have hnone : ∀ piece ∈ notice.splitOn '\n', ¬ occursIn reviewerBlank piece = true := by
    intro piece hpiece hin
    have hbrace : '\x7b' ∈ piece := (occursIn_iff.1 hin).subset (by decide)
    have hlines : '\x7b' ∈ unlines (notice.splitOn '\n') :=
      List.mem_flatMap.2 ⟨piece, hpiece, List.mem_append_left _ hbrace⟩
    rw [unlines_splitOn, List.mem_append] at hlines
    exact hplain _ (Or.inr rfl) (hlines.resolve_right (by decide))
  have hfound : occursIn reviewerBlank (approvalLine now reviewerBlank) = true := by
    rw [occursIn_iff, approvalLine_eq, ← List.append_assoc]
    exact List.infix_append _ _ _
  have hline := newline_not_mem_approvalLine (by decide : '\n' ∉ reviewerBlank) now
  unfold templateLine
  rw [hmessage, List.splitOn_append_cons_self, List.splitOn_append_cons_self_of_not_mem hline,
    List.find?_append, List.find?_eq_none.2 hnone, Option.none_or,
    List.find?_cons_of_pos hfound, Option.getD_some]

theorem replaceAll_templateLine (b : Blocked) (now : Instant) (reviewer : List Char) :
    replaceAll reviewerBlank reviewer (templateLine b now) = approvalLine now reviewer := by
  rw [templateLine_eq, replaceAll_approvalLine]

theorem credits_approvalLine {reviewer : List Char} (hline : '\n' ∉ reviewer)
    (hopen : ¬ MarkerText.closing <:+: reviewer) (now : Instant) :
    headings (approvalLine now reviewer ++ ['\n']) = [] ∧
      credits (approvalLine now reviewer ++ ['\n']) =
        [⟨none, .approved, some (trim (attestation now reviewer))⟩] := by
  obtain ⟨context, body, hend, hsplit, hnote⟩ := ending_approvalLine hline hopen now
  have hmarker := credits_marker .approved hend (Or.inr rfl)
  rwa [hnote, ← hsplit] at hmarker

theorem length_markers_message (b : Blocked) (now : Instant) :
    (Marker.all (LineIndex.ofText (b.message now).toList) (b.message now).toList).length = 1 := by
  obtain ⟨notice, comments, hmessage, hplain, hcomments⟩ := message_toList b now
  have hnotice : credits (notice ++ ['\n']) = [] :=
    credits_eq_nil (MarkerText.unopened_of_not_mem (by simp [hplain '<' (Or.inl rfl)]))
  have hblank : ¬ MarkerText.closing <:+: reviewerBlank := by
    intro hin
    have hgt : '>' ∈ reviewerBlank := hin.subset (by decide)
    exact absurd hgt (by decide)
  have hline := (credits_approvalLine (by decide) hblank now).2
  have hsplit : (b.message now).toList =
      (notice ++ ['\n']) ++ ((approvalLine now reviewerBlank ++ ['\n']) ++ comments) := by
    rw [hmessage]
    simp
  have hcredits : (credits (b.message now).toList).length = 1 := by
    rw [hsplit, credits_append (.newline notice), credits_append (.newline _), hnotice, hline,
      credits_eq_nil (MarkerText.unopened_of_not_mem hcomments)]
    rfl
  rw [← map_markers, List.length_map] at hcredits
  exact hcredits

end EditGuard.Review
