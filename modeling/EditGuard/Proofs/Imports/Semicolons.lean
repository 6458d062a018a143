import EditGuard.Proofs.Imports.Order
import EditGuard.Proofs.Text.WholeLines

/-! # Sources cut at a semicolon

A Java import ends with the first semicolon behind its keyword and a Swift import before it, and a
word may start behind a semicolon. So nothing on one side of a semicolon takes part in what is read
on the other: the references of a source are those up to the semicolon and, in their places, those
of the text behind it.
-/

namespace EditGuard.Imports

open Text

/-! ## References in parts -/

/-- The reference in a text in which so many bytes stand before its source. -/
def ImportRef.movedIn (whole : List Char) (bytes : Nat) (ref : ImportRef) : ImportRef :=
  let offset := bytes + ref.location.offset
  ⟨ref.token, { (LineIndex.ofText whole).location offset with offset }⟩

theorem references_append {r : Recogniser (List Char)} {mark : Char} (hr : r.BoundBy mark)
    {front : List Char} (hfront : front.getLast? = some mark) (source : List Char) :
    references r (front ++ source) = references r front ++
      (references r source).map (ImportRef.movedIn (front ++ source) (byteLength front)) := by
  unfold references
  rw [hr.scan_append (Or.inr hfront), List.map_append, List.map_map, List.map_map]
  congr 1
  · apply List.map_congr_left
    intro hit hm
    rw [location_append_left front source (Recogniser.offset_lt_of_mem_scan hr.consumes hm)]
  · apply List.map_congr_left
    intro hit hm
    have hlt := Recogniser.offset_lt_of_mem_scan hr.consumes hm
    have hlocal := location_offset_of_mem_scan hr.consumes hm
    have hmoved : ((LineIndex.ofText (front ++ source)).location
        (byteLength front + hit.offset)).offset = byteLength front + hit.offset := by
      apply Nat.min_eq_left
      show _ ≤ byteLength (front ++ source)
      rw [byteLength_append]
      omega
    simp only [Function.comp_apply, ImportRef.movedIn, Hit.shift_value, Hit.shift_offset, hlocal]
    congr 1
    generalize LineIndex.location _ (byteLength front + hit.offset) = moved at hmoved ⊢
    rw [← hmoved]

/-! ## Readers in front of a mark -/

/-- What is passed over does not depend on the next mark and on what follows it. -/
def PassesBefore (mark : Char) (drop? : List Char → Option (List Char)) : Prop :=
  ∀ part rest, drop? (part ++ mark :: rest) = (drop? part).map (· ++ mark :: rest)

/-- What is read does not depend on what follows the next mark. -/
def SealedBy (mark : Char) (read? : List Char → Option (List Char × List Char)) : Prop :=
  ∀ part rest, read? (part ++ mark :: rest) =
    (read? (part ++ [mark])).map fun (value, left) => (value, left ++ rest)

variable {mark : Char}

theorem passesBefore_isPrefixOf? {word : List Char} (h : mark ∉ word) :
    PassesBefore mark (List.isPrefixOf? word) := by
  intro part rest
  induction word generalizing part with
  | nil => rfl
  | cons w word ih =>
    obtain ⟨hw, hword⟩ := List.ne_and_not_mem_of_not_mem_cons h
    cases part with
    | nil => simp [List.isPrefixOf?, Ne.symm hw]
    | cons c part =>
      by_cases hc : w = c
      · simpa [List.isPrefixOf?, hc] using ih hword part
      · simp [List.isPrefixOf?, hc]

theorem dropWhile_append_mark {p : Char → Bool} (h : p mark = false) (part rest : List Char) :
    (part ++ mark :: rest).dropWhile p = part.dropWhile p ++ mark :: rest := by
  induction part with
  | nil => simp [h]
  | cons c part ih =>
    by_cases hc : p c = true
    · simpa [hc] using ih
    · simp [hc]

theorem takeWhile_append_mark {p : Char → Bool} (h : p mark = false) (part rest : List Char) :
    (part ++ mark :: rest).takeWhile p = part.takeWhile p := by
  induction part with
  | nil => simp [h]
  | cons c part ih =>
    by_cases hc : p c = true
    · simpa [hc] using ih
    · simp [hc]

theorem passesBefore_dropBlanks? (h : isBlank mark = false) : PassesBefore mark dropBlanks? := by
  intro part rest
  cases part with
  | nil => simp [dropBlanks?, h]
  | cons c part =>
    by_cases hc : isBlank c = true
    · simpa [dropBlanks?, hc] using dropWhile_append_mark h part rest
    · simp [dropBlanks?, hc]

theorem takeRun?_append_mark {accepts : Char → Bool} (h : accepts mark = false)
    (part rest : List Char) :
    takeRun? accepts (part ++ mark :: rest) =
      (takeRun? accepts part).map fun (run, left) => (run, left ++ mark :: rest) := by
  rw [takeRun?, takeWhile_append_mark h, dropWhile_append_mark h, takeRun?]
  cases part.takeWhile accepts with
  | nil => rfl
  | cons c run => rfl

theorem sealedBy_takeRun? {accepts : Char → Bool} (h : accepts mark = false) :
    SealedBy mark (takeRun? accepts) := by
  intro part rest
  rw [takeRun?_append_mark h, takeRun?_append_mark h]
  cases takeRun? accepts part with
  | none => rfl
  | some found => simp

/-! ### Readers one after another -/

theorem PassesBefore.bind {drop? next? : List Char → Option (List Char)}
    (h : PassesBefore mark drop?) (hnext : PassesBefore mark next?) :
    PassesBefore mark fun t => (drop? t).bind next? := by
  intro part rest
  dsimp only
  rw [h part rest]
  cases drop? part with
  | none => rfl
  | some left => exact hnext left rest

theorem PassesBefore.seal {drop? : List Char → Option (List Char)}
    {read? : List Char → Option (List Char × List Char)} (h : PassesBefore mark drop?)
    (hread : SealedBy mark read?) : SealedBy mark fun t => (drop? t).bind read? := by
  intro part rest
  dsimp only
  rw [h part rest, h part []]
  cases drop? part with
  | none => rfl
  | some left => exact hread left rest

theorem SealedBy.either {first? second? : List Char → Option (List Char × List Char)}
    (hfirst : SealedBy mark first?) (hsecond : SealedBy mark second?) :
    SealedBy mark fun t => match first? t with
      | some found => some found
      | none => second? t := by
  intro part rest
  dsimp only
  rw [hfirst part rest]
  cases first? (part ++ [mark]) with
  | none => exact hsecond part rest
  | some found => rfl

theorem SealedBy.findSome? {β : Type} {read? : β → List Char → Option (List Char × List Char)}
    {choices : List β} (h : ∀ choice ∈ choices, SealedBy mark (read? choice)) :
    SealedBy mark fun t => choices.findSome? fun choice => read? choice t := by
  induction choices with
  | nil => exact fun _ _ => rfl
  | cons choice choices ih =>
    obtain ⟨hchoice, hrest⟩ := List.forall_mem_cons.1 h
    intro part rest
    dsimp only
    rw [List.findSome?_cons, List.findSome?_cons, hchoice part rest]
    cases read? choice (part ++ [mark]) with
    | none => exact ih hrest part rest
    | some found => rfl

theorem passesBefore_dropLeadingWord? {word : String} (hword : mark ∉ word.toList)
    (hblank : isBlank mark = false) : PassesBefore mark (dropLeadingWord? word) :=
  (passesBefore_isPrefixOf? hword).bind (passesBefore_dropBlanks? hblank)

theorem passesBefore_dropKeyword? (hword : mark ∉ "import".toList) (hblank : isBlank mark = false)
    (before : Option Char) : PassesBefore mark (dropKeyword? before) := by
  apply (passesBefore_isPrefixOf? hword).bind
  cases endsBeforeWord before with
  | false => exact fun _ _ => rfl
  | true => exact passesBefore_dropBlanks? hblank

/-! ## Statements -/

theorem semicolon_not_blank : isBlank ';' = false := by decide

theorem Java.sealedBy_dropSemicolon? (value : List Char) :
    SealedBy ';' fun t => (dropSemicolon? t).map fun left => (value, left) := by
  intro part rest
  dsimp only
  rw [dropSemicolon?, dropSemicolon?, dropWhile_append_mark semicolon_not_blank,
    dropWhile_append_mark semicolon_not_blank]
  cases part.dropWhile isBlank with
  | nil => rfl
  | cons c behind =>
    by_cases hc : ';' = c
    · subst hc
      simp [List.isPrefixOf?]
    · simp [List.isPrefixOf?, hc]

/-- A semicolon ends a name, and no name goes on behind it. -/
theorem Java.sealedBy_name? : SealedBy ';' name? := by
  intro part rest
  have hmark : isNameChar ';' = false := by decide
  rw [name?, name?, takeRun?_append_mark hmark, takeRun?_append_mark hmark]
  cases takeRun? isNameChar part with
  | none => rfl
  | some found =>
    obtain ⟨name, left⟩ := found
    cases left with
    | nil => exact sealedBy_dropSemicolon? name [] rest
    | cons c left =>
      by_cases hstar : c = '*'
      · subst hstar
        show (if _ then _ else _) = (if _ then _ else _ : Option _).map _
        split
        · exact sealedBy_dropSemicolon? (name ++ ['*']) left rest
        · rfl
      · have hplain := sealedBy_dropSemicolon? name (c :: left) rest
        simpa [hstar] using hplain

theorem Java.statement_boundBy_semicolon : statement.BoundBy ';' where
  consumes := ImportSyntax.java.statement_consumes
  start _ := rfl
  seam before part rest _ := by
    have hstatic : PassesBefore ';' (dropLeadingWord? "static") :=
      passesBefore_dropLeadingWord? (by decide) semicolon_not_blank
    have hkeyword := passesBefore_dropKeyword? (by decide) semicolon_not_blank before
    exact hkeyword.seal ((hstatic.seal sealedBy_name?).either sealedBy_name?) part rest

theorem Swift.statement_boundBy_semicolon : statement.BoundBy ';' where
  consumes := ImportSyntax.swift.statement_consumes
  start _ := rfl
  seam before part rest _ := by
    have hmodule : SealedBy ';' module? := sealedBy_takeRun? (by decide)
    have hkind : ∀ kind ∈ kinds, SealedBy ';' fun t => (dropLeadingWord? kind t).bind module? := by
      intro kind hkind
      have hword : ';' ∉ kind.toList := by
        revert kind
        decide
      exact (passesBefore_dropLeadingWord? hword semicolon_not_blank).seal hmodule
    have hkeyword := passesBefore_dropKeyword? (by decide) semicolon_not_blank before
    exact hkeyword.seal ((SealedBy.findSome? hkind).either hmodule) part rest

/-! ## Main statement -/

/-- A semicolon isolates the imports of Java and of Swift on its two sides, whatever stands there:
the references are those of the text up to it, followed by those of the text behind it, with their
tokens, moved by the bytes in front of them to where they stand in the whole. -/
theorem semicolon_isolates (front source : List Char) :
    let whole := front ++ ';' :: source
    ImportSyntax.java.extract whole = ImportSyntax.java.extract (front ++ [';']) ++
        (ImportSyntax.java.extract source).map (ImportRef.movedIn whole (byteLength front + 1)) ∧
      ImportSyntax.swift.extract whole = ImportSyntax.swift.extract (front ++ [';']) ++
        (ImportSyntax.swift.extract source).map
          (ImportRef.movedIn whole (byteLength front + 1)) := by
  have hlast : (front ++ [';']).getLast? = some ';' := List.getLast?_concat
  have hwhole : front ++ ';' :: source = front ++ [';'] ++ source := by simp
  have hbytes : byteLength front + 1 = byteLength (front ++ [';']) := by
    rw [byteLength_append]
    rfl
  dsimp only
  rw [hwhole, hbytes]
  exact ⟨references_append Java.statement_boundBy_semicolon hlast source,
    references_append Swift.statement_boundBy_semicolon hlast source⟩

example : ImportSyntax.java.extract "import a import b;import c;".toList =
    [⟨"b".toList, ⟨1, 10, 9⟩⟩, ⟨"c".toList, ⟨1, 19, 18⟩⟩] := by
  decide

end EditGuard.Imports
