import EditGuard.Config.Settings
import EditGuard.Proofs.Text.WholeLines
import Mathlib.Data.List.Forall2

/-! # Documents line by line

A line that is read in the same way whatever comes after it may stand in any document: the document
is then read as its lines are. Empty lines and comments are such lines, and leave no trace.
-/

namespace EditGuard.Toml

open Text

/-- The text is read as this line, whatever follows its end. -/
def ReadsAs (text : List Char) (l : Line) : Prop :=
  ∀ rest, line? (text ++ '\n' :: rest) = some (l, rest)

def isIdle : List Char → Bool
  | [] => true
  | c :: rest => c = '#' && rest.all isPrintable

theorem dropWhile_isPrintable {body : List Char} (h : body.all isPrintable = true)
    (rest : List Char) : (body ++ '\n' :: rest).dropWhile isPrintable = '\n' :: rest := by
  rw [List.dropWhile_append_of_pos (List.all_eq_true.1 h)]
  exact List.dropWhile_cons_of_neg (by decide)

theorem readsAs_blank {text : List Char} (h : isIdle text = true) : ReadsAs text .blank := by
  intro rest
  cases text with
  | nil => rfl
  | cons c body =>
    obtain ⟨hc, hbody⟩ : c = '#' ∧ body.all isPrintable = true := by simpa [isIdle] using h
    rw [hc]
    have hcomment : skipComment (skipGap ('#' :: body ++ '\n' :: rest)) = '\n' :: rest :=
      dropWhile_isPrintable hbody rest
    have hend : dropLineEnd? ('#' :: body ++ '\n' :: rest) = some rest := by
      rw [dropLineEnd?, hcomment]
      rfl
    show (dropLineEnd? ('#' :: body ++ '\n' :: rest)).bind (fun left => some (Line.blank, left)) =
      some (Line.blank, rest)
    rw [hend]
    rfl

theorem length_le_unlines (texts : List (List Char)) : texts.length ≤ (unlines texts).length := by
  induction texts with
  | nil => exact Nat.le_refl 0
  | cons text texts ih =>
    rw [unlines_cons, List.length_append, List.length_append, List.length_cons]
    simp only [List.length_cons, List.length_nil]
    omega

theorem lines_unlines {texts : List (List Char)} {ls : List Line}
    (h : List.Forall₂ ReadsAs texts ls) {fuel : Nat} (hfuel : texts.length ≤ fuel) :
    lines fuel (unlines texts) = .ok ls := by
  induction h generalizing fuel with
  | nil =>
    cases fuel with
    | zero => rfl
    | succ fuel => rfl
  | @cons text l texts ls hread hrest ih =>
    cases fuel with
    | zero => cases hfuel
    | succ fuel =>
      have hfull : (text ++ '\n' :: unlines texts).isEmpty = false := by simp
      rw [unlines_cons, List.append_assoc, List.singleton_append, lines, hfull,
        if_neg (by simp), hread]
      dsimp only
      rw [ih (Nat.le_of_succ_le_succ hfuel)]
      rfl

/-- A document reads as its lines do. -/
theorem read_unlines {texts : List (List Char)} {ls : List Line} {first : List Assignment}
    {more : List Section} {fields : Fields} (h : List.Forall₂ ReadsAs texts ls)
    (hmark : (unlines texts).head? ≠ some '\ufeff') (hsections : sections ls = (first, more))
    (hfields : Fields.ofSections first more = some fields) :
    read (unlines texts) = .ok fields := by
  have htext : withoutMark (unlines texts) = unlines texts := by
    unfold withoutMark
    split
    · next rest heq => exact absurd (by rw [heq]; rfl) hmark
    · rfl
  have hlines : lines ((unlines texts).length + 1) (unlines texts) = .ok ls :=
    lines_unlines h (Nat.le_succ_of_le (length_le_unlines texts))
  simp only [read, htext, hlines, hsections, hfields]

/-! ## Idle lines -/

theorem forall₂_blank {texts : List (List Char)} (h : ∀ text ∈ texts, isIdle text = true) :
    List.Forall₂ ReadsAs texts (List.replicate texts.length .blank) := by
  induction texts with
  | nil => exact .nil
  | cons text texts ih =>
    obtain ⟨hidle, hrest⟩ := List.forall_mem_cons.1 h
    exact .cons (readsAs_blank hidle) (ih hrest)

end EditGuard.Toml
