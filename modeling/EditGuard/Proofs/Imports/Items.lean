import EditGuard.Proofs.Imports.Order
import EditGuard.Proofs.Text.Locations
import EditGuard.Proofs.Text.Words

/-! # Sources written item by item

An item is an import statement, spelled as its syntax spells it, or noise, a text without the
keyword such as a line of code or none; each is ended by a newline. A statement that is read up to
its own end leaves the next item to be read from its start, and nothing is read from noise. So the
references of such a source are those of its statements, each at the start of its statement.
-/

namespace EditGuard.Imports

open Text

/-! ## Items -/

/-- A text, without the newline behind it, in which the keyword does not stand. -/
structure Noise where
  text : List Char
  silent : ¬ "import".toList <:+: text

/-- How a syntax writes its statements: what is read behind the keyword and a space, what may stand
behind that on the same line, and the token that the statement refers to. -/
structure Spelling (α : Type) where
  clause : α → List Char
  behind : α → List Char
  token : α → List Char

inductive Item (α : Type) where
  | noise (n : Noise)
  | statement (s : α)

/-- The start of the line behind whole lines. -/
def lineBehind (before : List Char) : Location :=
  ⟨before.count '\n' + 1, 1, byteLength before⟩

namespace Spelling

variable {α : Type}

def statement (w : Spelling α) (a : α) : List Char := "import".toList ++ ' ' :: w.clause a

theorem statement_ne_nil (w : Spelling α) (a : α) : w.statement a ≠ [] :=
  List.append_ne_nil_of_right_ne_nil _ (List.cons_ne_nil _ _)

theorem statement_append (w : Spelling α) (a : α) (rest : List Char) :
    w.statement a ++ rest = "import".toList ++ ' ' :: (w.clause a ++ rest) :=
  List.append_assoc _ _ _

def text (w : Spelling α) : Item α → List Char
  | .noise n => n.text
  | .statement s => w.statement s ++ w.behind s

def source (w : Spelling α) (items : List (Item α)) : List Char := unlines (items.map w.text)

def token? (w : Spelling α) : Item α → Option (List Char)
  | .noise _ => none
  | .statement s => some (w.token s)

/-- The references of the statements among the items, given the text before them. -/
def refsBehind (w : Spelling α) (before : List Char) : List (Item α) → List ImportRef
  | [] => []
  | item :: items =>
    ((w.token? item).map (⟨·, lineBehind before⟩)).toList ++
      w.refsBehind (before ++ (w.text item ++ ['\n'])) items

def refs (w : Spelling α) (items : List (Item α)) : List ImportRef := w.refsBehind [] items

end Spelling

theorem locationBehind_wholeLines {before : List Char} (h : WholeLines before) :
    locationBehind before = lineBehind before := by
  rcases h with rfl | h
  · rfl
  · obtain ⟨front, rfl⟩ := List.getLast?_eq_some_iff.1 h
    have hlast : afterLast (· = '\n') (front ++ ['\n']) = [] := afterLast_append_mark rfl front []
    rw [locationBehind, hlast]
    rfl

/-! ## Texts without a statement -/

/-- Nowhere in the text does a statement start, whatever follows its newline. -/
def Quiet (before : Option Char) (text : List Char) : Prop :=
  ∀ pre suf rest, text = pre ++ suf →
    dropKeyword? (pre.getLast?.or before) (suf ++ '\n' :: rest) = none

theorem Quiet.tail {before : Option Char} {c : Char} {text : List Char}
    (h : Quiet before (c :: text)) : Quiet (some c) text := by
  intro pre suf rest htext
  have hquiet := h (c :: pre) suf rest (by rw [htext, List.cons_append])
  rwa [getLast?_cons_or] at hquiet

theorem quiet_of_silent {text : List Char} (h : ¬ "import".toList <:+: text)
    (before : Option Char) : Quiet before text := by
  intro pre suf rest hsplit
  cases hkeyword : dropKeyword? (pre.getLast?.or before) (suf ++ '\n' :: rest) with
  | none => rfl
  | some left =>
    obtain ⟨behind, htext, -⟩ := dropKeyword?_eq_some hkeyword
    obtain ⟨d, hsuf, -⟩ := exists_cut_of_not_mem (by decide) htext
    have hinfix : "import".toList <:+: text := ⟨pre, d, by rw [hsplit, hsuf, List.append_assoc]⟩
    exact absurd hinfix h

theorem quiet_nil (before : Option Char) : Quiet before [] :=
  quiet_of_silent (by decide) before

theorem statement_eq_none {s : ImportSyntax} {before : Option Char} {t : List Char}
    (h : dropKeyword? before t = none) : s.statement before t = none := by
  cases hread : s.statement before t with
  | none => rfl
  | some found =>
    obtain ⟨left, hkeyword, -⟩ := ImportSyntax.statement_eq_some hread
    rw [h] at hkeyword
    cases hkeyword

/-- A scan passes over a quiet text and its newline. -/
theorem scanFrom_quiet (s : ImportSyntax) {before : Option Char} {text : List Char}
    (h : Quiet before text) (offset : Nat) (rest : List Char) :
    s.statement.scanFrom 0 before offset (text ++ '\n' :: rest) =
      s.statement.scanFrom 0 (some '\n') (offset + byteLength (text ++ ['\n'])) rest := by
  induction text generalizing before offset with
  | nil =>
    have hnone : s.statement before ('\n' :: rest) = none := statement_eq_none (h [] [] rest rfl)
    exact Recogniser.scanFrom_pass hnone offset
  | cons c text ih =>
    have hnone : s.statement before (c :: (text ++ '\n' :: rest)) = none :=
      statement_eq_none (h [] (c :: text) rest rfl)
    rw [List.cons_append, Recogniser.scanFrom_pass hnone, ih h.tail, List.cons_append,
      byteLength_cons, Nat.add_assoc]

/-! ## References of a source -/

/-- The statements of a syntax are read as they are spelled, up to where the line may go on. -/
structure Spelling.ReadIn {α : Type} (w : Spelling α) (s : ImportSyntax) : Prop where
  reads : ∀ a before rest, endsBeforeWord before = true →
    s.statement before (w.statement a ++ (w.behind a ++ '\n' :: rest)) =
      some (w.token a, w.behind a ++ '\n' :: rest)
  quiet : ∀ a, Quiet (w.statement a).getLast? (w.behind a)

namespace Spelling.ReadIn

variable {α : Type} {w : Spelling α} {s : ImportSyntax}

/-- One item: a statement is found where it begins, and the scan goes on behind the newline. -/
theorem scanFrom_item (h : w.ReadIn s) (item : Item α) {before : Option Char}
    (hbefore : endsBeforeWord before = true) (offset : Nat) (rest : List Char) :
    (s.statement.scanFrom 0 before offset (w.text item ++ ['\n'] ++ rest)).map
        (fun hit => (hit.value, hit.offset)) =
      ((w.token? item).map (·, offset)).toList ++
        (s.statement.scanFrom 0 (some '\n') (offset + byteLength (w.text item ++ ['\n'])) rest).map
          (fun hit => (hit.value, hit.offset)) := by
  rw [List.append_assoc, List.singleton_append]
  cases item with
  | noise n =>
    rw [text, scanFrom_quiet s (quiet_of_silent n.silent before)]
    rfl
  | statement a =>
    have hread := h.reads a before rest hbefore
    rw [text, List.append_assoc, Recogniser.scanFrom_hit hread (w.statement_ne_nil a),
      scanFrom_quiet s (h.quiet a), List.append_assoc, byteLength_append (w.statement a),
      Nat.add_assoc]
    rfl

/-- Behind whole lines the references of the items are those of their statements. -/
theorem scanFrom_source (h : w.ReadIn s) (items : List (Item α)) (before : List Char)
    (hbefore : WholeLines before) :
    ((s.statement.scanFrom 0 before.getLast? (byteLength before) (w.source items)).map
        (fun hit => (hit.value, hit.offset))).map
        (fun found => ImportRef.mk found.1
          ((LineIndex.ofText (before ++ w.source items)).location found.2)) =
      w.refsBehind before items := by
  induction items generalizing before with
  | nil => simp [source, refsBehind]
  | cons item items ih =>
    have hword : endsBeforeWord before.getLast? = true := by
      rcases hbefore with rfl | hlast
      · rfl
      · rw [hlast]
        rfl
    have hsource : w.source (item :: items) = w.text item ++ ['\n'] ++ w.source items := by
      rw [source, List.map_cons, unlines_cons]
      rfl
    have hlast : (before ++ (w.text item ++ ['\n'])).getLast? = some '\n' := by simp
    have hlocation : (LineIndex.ofText (before ++ w.source (item :: items))).location
        (byteLength before) = lineBehind before := by
      rw [location_append, locationBehind_wholeLines hbefore]
    have hwhole : before ++ w.source (item :: items) =
        before ++ (w.text item ++ ['\n']) ++ w.source items := by
      rw [hsource, ← List.append_assoc]
    have hrest := ih (before ++ (w.text item ++ ['\n'])) (Or.inr hlast)
    rw [hlast, byteLength_append, ← hwhole] at hrest
    rw [refsBehind, ← hrest, hsource, h.scanFrom_item item hword, ← hsource, List.map_append]
    cases w.token? item with
    | none => rfl
    | some token =>
      rw [Option.map_some, Option.map_some, ← hlocation]
      rfl

theorem extract_source (h : w.ReadIn s) (items : List (Item α)) :
    s.extract (w.source items) = w.refs items := by
  have hrefs := h.scanFrom_source items [] (Or.inl rfl)
  rw [List.map_map] at hrefs
  exact hrefs

end Spelling.ReadIn

/-! ## Readers on what is spelled -/

def Unspaced (t : List Char) : Prop := ∀ c ∈ t.head?, isBlank c = false

theorem unspaced_cons {c : Char} {t : List Char} : Unspaced (c :: t) ↔ isBlank c = false := by
  simp [Unspaced]

theorem Unspaced.append {s : List Char} (hne : s ≠ []) (h : ∀ c ∈ s, isBlank c = false)
    (t : List Char) : Unspaced (s ++ t) :=
  fun c hc => h c (mem_of_head?_append hne hc)

theorem unspaced_word {word : List Char} (h : word.head?.any (!isBlank ·) = true)
    (t : List Char) : Unspaced (word ++ t) := by
  cases word with
  | nil => cases h
  | cons c word => exact unspaced_cons.2 (by simpa using h)

theorem dropBlanks?_space {t : List Char} (h : Unspaced t) : dropBlanks? (' ' :: t) = some t := by
  have hrest : t.dropWhile isBlank = t := dropWhile_eq_iff.2 ⟨[], rfl, rfl, h⟩
  have hspace : isBlank ' ' = true := by decide
  rw [dropBlanks?, if_pos hspace, hrest]

theorem dropBlanks?_eq_none {t : List Char} (h : Unspaced t) : dropBlanks? t = none := by
  cases t with
  | nil => rfl
  | cons c t => simp [dropBlanks?, unspaced_cons.1 h]

theorem dropKeyword?_space {before : Option Char} (hbefore : endsBeforeWord before = true)
    {t : List Char} (h : Unspaced t) :
    dropKeyword? before ("import".toList ++ ' ' :: t) = some t :=
  dropKeyword?_eq_some_iff.2 ⟨' ' :: t, rfl, hbefore, dropBlanks?_space h⟩

theorem dropLeadingWord?_space (word : String) {t : List Char} (h : Unspaced t) :
    dropLeadingWord? word (word.toList ++ ' ' :: t) = some t := by
  have hword : List.isPrefixOf? word.toList (word.toList ++ ' ' :: t) = some (' ' :: t) :=
    List.isPrefixOf?_eq_some_iff_append_eq.2 rfl
  rw [dropLeadingWord?, hword, Option.bind_some, dropBlanks?_space h]

/-- Up to a mark that is not of the word stands another word, or no white space behind it. -/
theorem dropLeadingWord?_eq_none {word : String} {s rest : List Char} {mark : Char}
    (hmark : mark ∉ word.toList) (hs : ∀ c ∈ s, isBlank c = false)
    (hother : s = word.toList → isBlank mark = false) :
    dropLeadingWord? word (s ++ mark :: rest) = none := by
  cases hword : List.isPrefixOf? word.toList (s ++ mark :: rest) with
  | none => rw [dropLeadingWord?, hword, Option.bind_none]
  | some behind =>
    obtain ⟨d, rfl, rfl⟩ := exists_cut_of_not_mem hmark
      (List.isPrefixOf?_eq_some_iff_append_eq.1 hword).symm
    have hunspaced : Unspaced (d ++ mark :: rest) := by
      cases d with
      | nil => exact unspaced_cons.2 (hother (List.append_nil _))
      | cons c d => exact unspaced_cons.2 (hs c (by simp))
    rw [dropLeadingWord?, hword, Option.bind_some, dropBlanks?_eq_none hunspaced]

theorem dropLeadingWord?_mark {word : String} {mark : Char} (hmark : mark ∉ word.toList)
    (hne : word.toList ≠ []) (rest : List Char) :
    dropLeadingWord? word (mark :: rest) = none :=
  dropLeadingWord?_eq_none hmark (by simp) fun heq => absurd heq.symm hne

/-! ### Modifiers -/

/-- A text behind a modifier, or without it. -/
def modified (word : String) (isPresent : Bool) (t : List Char) : List Char :=
  if isPresent then word.toList ++ ' ' :: t else t

theorem modified_append (word : String) (isPresent : Bool) (t rest : List Char) :
    modified word isPresent t ++ rest = modified word isPresent (t ++ rest) := by
  cases isPresent with
  | false => rfl
  | true => exact List.append_assoc _ _ _

theorem unspaced_modified {word : String} (hword : word.toList.head?.any (!isBlank ·) = true)
    (isPresent : Bool) {t : List Char} (h : Unspaced t) :
    Unspaced (modified word isPresent t) := by
  cases isPresent with
  | false => exact h
  | true => exact unspaced_word hword _

/-- What is read behind a modifier is read with and without it, if without it the modifier is not
seen in front of something else. -/
theorem read_modified {word : String} {read? : List Char → Option (List Char × List Char)}
    {t : List Char} {found : List Char × List Char} (isPresent : Bool) (h : Unspaced t)
    (hread : read? t = some found) (hbare : (dropLeadingWord? word t).bind read? = none) :
    (match (dropLeadingWord? word (modified word isPresent t)).bind read? with
      | some found => some found
      | none => read? (modified word isPresent t)) = some found := by
  cases isPresent with
  | false => simp only [modified, Bool.false_eq_true, if_false, hbare, hread]
  | true => simp only [modified, if_true, dropLeadingWord?_space word h, Option.bind_some, hread]

/-! ### Runs -/

structure Run (accepts : Char → Bool) where
  text : List Char
  nonempty : text ≠ []
  uniform : text.all accepts = true

theorem Run.accepted {accepts : Char → Bool} (run : Run accepts) :
    ∀ c ∈ run.text, accepts c = true :=
  List.all_eq_true.1 run.uniform

theorem takeRun?_append {accepts : Char → Bool} {run rest : List Char} (hne : run ≠ [])
    (hrun : run.all accepts = true) (hrest : ∀ c ∈ rest.head?, accepts c = false) :
    takeRun? accepts (run ++ rest) = some (run, rest) :=
  takeRun?_eq_some_iff.2
    ⟨hne, takeWhile_run hrun hrest, dropWhile_eq_iff.2 ⟨run, hrun, rfl, hrest⟩⟩

theorem takeRun?_run {accepts : Char → Bool} (run : Run accepts) {mark : Char}
    (h : accepts mark = false) (rest : List Char) :
    takeRun? accepts (run.text ++ mark :: rest) = some (run.text, mark :: rest) :=
  takeRun?_append run.nonempty run.uniform (by simpa using h)

theorem Run.unspaced {accepts : Char → Bool} (run : Run accepts)
    (h : ∀ c, accepts c = true → isBlank c = false) (rest : List Char) :
    Unspaced (run.text ++ rest) :=
  .append run.nonempty (fun c hc => h c (run.accepted c hc)) rest

theorem takeRun?_eq_none {accepts : Char → Bool} {t : List Char}
    (h : ∀ c ∈ t.head?, accepts c = false) : takeRun? accepts t = none := by
  cases t with
  | nil => rfl
  | cons c t => simp [takeRun?, h c rfl]

end EditGuard.Imports
