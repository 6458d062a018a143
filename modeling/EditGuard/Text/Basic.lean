/-! # Texts

A text is a list of characters. Sizes and positions are counted in bytes of its UTF-8 form.
-/

namespace EditGuard.Text

def byteLength (t : List Char) : Nat := t.foldl (fun n c => n + c.utf8Size) 0

theorem foldl_byteLength (t : List Char) (n : Nat) :
    t.foldl (fun n c => n + c.utf8Size) n = n + byteLength t := by
  unfold byteLength
  induction t generalizing n with
  | nil => rfl
  | cons c t ih => simp only [List.foldl_cons]; rw [ih, ih (0 + c.utf8Size)]; omega

@[simp] theorem byteLength_nil : byteLength [] = 0 := rfl

@[simp] theorem byteLength_cons (c : Char) (t : List Char) :
    byteLength (c :: t) = c.utf8Size + byteLength t := by
  simpa [byteLength] using foldl_byteLength t c.utf8Size

@[simp] theorem byteLength_append (s t : List Char) :
    byteLength (s ++ t) = byteLength s + byteLength t := by
  induction s with
  | nil => simp
  | cons c s ih => simp [ih, Nat.add_assoc]

def occursIn (part : List Char) : List Char → Bool
  | [] => part.isEmpty
  | c :: rest => part.isPrefixOf (c :: rest) || occursIn part rest

theorem occursIn_iff {part t : List Char} : occursIn part t = true ↔ part <:+: t := by
  induction t with
  | nil => simp [occursIn]
  | cons c t ih => simp [occursIn, ih, List.infix_cons_iff]

def firstLine (t : List Char) : List Char := t.takeWhile (· ≠ '\n')

/-- What follows the last marked character; the whole text when there is none. -/
def afterLast (isMark : Char → Bool) (t : List Char) : List Char :=
  (t.reverse.takeWhile fun c => !isMark c).reverse

/-! ## Sets of characters -/

abbrev Ranges := List (Nat × Nat)

def Ranges.contains (ranges : Ranges) (c : Char) : Bool :=
  ranges.any fun range => decide (range.1 ≤ c.toNat) && decide (c.toNat ≤ range.2)

theorem Ranges.contains_iff {ranges : Ranges} {c : Char} :
    ranges.contains c = true ↔ ∃ range ∈ ranges, range.1 ≤ c.toNat ∧ c.toNat ≤ range.2 := by
  simp [Ranges.contains]

/-! ## Words in any letter case -/

/-- Whether `c` is `letter`, a lowercase ASCII character, in some case. -/
def foldsTo (letter c : Char) : Bool :=
  c.toLower = letter || (letter = 's' && c = 'ſ') || (letter = 'k' && c = '\u212a')

/-- The text after a given word, whatever the case of its letters. -/
def dropFolded? : List Char → List Char → Option (List Char)
  | [], t => some t
  | _ :: _, [] => none
  | w :: word, c :: t => if foldsTo w c then dropFolded? word t else none

end EditGuard.Text
