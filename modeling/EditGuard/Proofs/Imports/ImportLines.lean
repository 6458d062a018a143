import EditGuard.Proofs.Imports.Items

/-! # Import lines

The imports of Java and Swift stand on one line each. A word of the syntax ("static", the kind of a
declaration) can also be a name: what decides is whether white space and a name follow it, or the
end of the line or of the name.
-/

namespace EditGuard.Imports

open Text

theorem isWord_of_isPlainWord {c : Char} (h : isPlainWord c = true) : isWord c = true :=
  isWord_of_isAlphanum (by simpa [isPlainWord] using h)

/-! ## Java -/

namespace Java

/-- A word of letters, digits, underscores and dots, and perhaps the wildcard behind it. -/
structure Name where
  word : Run isNameChar
  isWildcard : Bool

def Name.text (n : Name) : List Char :=
  n.word.text ++ if n.isWildcard then ['.', '*'] else []

/-- An import line, with or without the word "static". -/
structure Import where
  isStatic : Bool
  name : Name

def spelling : Spelling Import where
  clause i := modified "static" i.isStatic (i.name.text ++ [';'])
  behind _ := []
  token i := i.name.text

theorem not_blank_of_isNameChar {c : Char} (h : isNameChar c = true) : isBlank c = false := by
  have hkind : isPlainWord c = true ∨ c = '.' := by simpa [isNameChar] using h
  rcases hkind with hplain | rfl
  · exact not_blank_of_isWord (isWord_of_isPlainWord hplain)
  · decide

theorem Name.not_blank (n : Name) : ∀ c ∈ n.text, isBlank c = false := by
  intro c hc
  rcases List.mem_append.1 hc with hword | hstar
  · exact not_blank_of_isNameChar (n.word.accepted c hword)
  · have hmark : c = '.' ∨ c = '*' := by
      by_cases hw : n.isWildcard = true
      · simpa [hw] using hstar
      · simp [hw] at hstar
    rcases hmark with rfl | rfl
    · decide
    · decide

theorem Name.text_ne_nil (n : Name) : n.text ≠ [] :=
  List.append_ne_nil_of_left_ne_nil n.word.nonempty _

theorem dropSemicolon?_cons (rest : List Char) : dropSemicolon? (';' :: rest) = some rest := by
  have hblank : isBlank ';' = false := by decide
  rw [dropSemicolon?, List.dropWhile_cons_of_neg (by simp [hblank])]
  rfl

/-- The word takes the dot of a wildcard, which is a name character, but not its star. -/
theorem name?_text (n : Name) (rest : List Char) :
    name? (n.text ++ ';' :: rest) = some (n.text, rest) := by
  by_cases hwildcard : n.isWildcard = true
  · have htext : n.text = n.word.text ++ ['.'] ++ ['*'] := by
      rw [Name.text, if_pos hwildcard, List.append_assoc]
      rfl
    have hrun : takeRun? isNameChar (n.word.text ++ ['.'] ++ '*' :: ';' :: rest) =
        some (n.word.text ++ ['.'], '*' :: ';' :: rest) := by
      apply takeRun?_append
      · simp
      · have hdot : isNameChar '.' = true := by decide
        simp [n.word.uniform, hdot]
      · have hstar : isNameChar '*' = false := by decide
        simpa using hstar
    have hlength : 2 ≤ (n.word.text ++ ['.']).length := by
      have := List.length_pos_iff.2 n.word.nonempty
      rw [List.length_append, List.length_singleton]
      omega
    rw [htext, List.append_assoc, List.singleton_append, name?, hrun]
    simp only [Option.bind_eq_bind, Option.bind_some, hlength, List.getLast?_concat,
      beq_self_eq_true, decide_true, Bool.and_self, if_true, dropSemicolon?_cons, Option.map_some]
  · have htext : n.text = n.word.text := by
      rw [Name.text, if_neg hwildcard, List.append_nil]
    have hmark : isNameChar ';' = false := by decide
    rw [htext, name?, takeRun?_run n.word hmark]
    simp only [Option.bind_eq_bind, Option.bind_some, dropSemicolon?_cons, Option.map_some]
    rfl

theorem statement_spelling (i : Import) {before : Option Char}
    (hbefore : endsBeforeWord before = true) (rest : List Char) :
    statement before (spelling.statement i ++ rest) = some (i.name.text, rest) := by
  have htext : spelling.statement i ++ rest =
      "import".toList ++ ' ' :: modified "static" i.isStatic (i.name.text ++ ';' :: rest) := by
    rw [spelling.statement_append, spelling, modified_append, List.append_assoc,
      List.singleton_append]
  have hname : Unspaced (i.name.text ++ ';' :: rest) :=
    .append i.name.text_ne_nil i.name.not_blank _
  have hbare : dropLeadingWord? "static" (i.name.text ++ ';' :: rest) = none :=
    dropLeadingWord?_eq_none (by decide) i.name.not_blank fun _ => by decide
  have hmodified : Unspaced (modified "static" i.isStatic (i.name.text ++ ';' :: rest)) :=
    unspaced_modified (by decide) i.isStatic hname
  rw [htext, statement, dropKeyword?_space hbefore hmodified]
  exact read_modified i.isStatic hname (name?_text i.name rest) (by rw [hbare, Option.bind_none])

theorem spelling_readIn : spelling.ReadIn .java where
  reads i _ rest hbefore := statement_spelling i hbefore ('\n' :: rest)
  quiet _ := quiet_nil _

end Java

/-! ## Swift -/

namespace Swift

/-- An import line: a module that is not a kind, or a kind and a member of a module. -/
inductive Import where
  | whole (moduleName : Run isPlainWord) (unkind : moduleName.text ∉ kinds.map String.toList)
  | member (kind : String) (declared : kind ∈ kinds) (moduleName : Run isPlainWord)
      (name : List Char) (plain : name.all isPlainWord = true)
      (other : name ≠ "import".toList)

/-- The name of a member stands behind what is read. -/
def spelling : Spelling Import where
  clause
    | .whole moduleName _ => moduleName.text
    | .member kind _ moduleName _ _ _ => kind.toList ++ ' ' :: moduleName.text
  behind
    | .whole _ _ => []
    | .member _ _ _ name _ _ => '.' :: name
  token
    | .whole moduleName _ => moduleName.text
    | .member _ _ moduleName _ _ _ => moduleName.text

theorem not_blank_of_isPlainWord (c : Char) (h : isPlainWord c = true) : isBlank c = false :=
  not_blank_of_isWord (isWord_of_isPlainWord h)

theorem kind_ne_nil {kind : String} (h : kind ∈ kinds) : kind.toList ≠ [] := by
  revert kind
  decide

theorem kind_isPlainWord {kind : String} (h : kind ∈ kinds) :
    kind.toList.all isPlainWord = true := by
  have hkinds : kinds.all (·.toList.all isPlainWord) = true := by decide
  exact List.all_eq_true.1 hkinds kind h

/-- No kind is read off another word. -/
theorem dropLeadingWord?_other {kind : String} (h : kind ∈ kinds) {word : List Char}
    (hword : ∀ c ∈ word, isPlainWord c = true) (hother : word ≠ kind.toList) {mark : Char}
    (hmark : isPlainWord mark = false) (rest : List Char) :
    dropLeadingWord? kind (word ++ mark :: rest) = none := by
  have hunmarked : mark ∉ kind.toList := by
    intro hm
    rw [List.all_eq_true.1 (kind_isPlainWord h) mark hm] at hmark
    cases hmark
  have hunspaced : ∀ c ∈ word, isBlank c = false :=
    fun c hc => not_blank_of_isPlainWord c (hword c hc)
  exact dropLeadingWord?_eq_none hunmarked hunspaced fun heq => absurd heq hother

theorem module?_run (moduleName : Run isPlainWord) {mark : Char} (h : isPlainWord mark = false)
    (rest : List Char) :
    module? (moduleName.text ++ mark :: rest) = some (moduleName.text, mark :: rest) :=
  takeRun?_run moduleName h rest

theorem statement_whole (moduleName : Run isPlainWord)
    (unkind : moduleName.text ∉ kinds.map String.toList) {before : Option Char}
    (hbefore : endsBeforeWord before = true) (rest : List Char) :
    statement before ("import".toList ++ ' ' :: (moduleName.text ++ '\n' :: rest)) =
      some (moduleName.text, '\n' :: rest) := by
  have hmark : isPlainWord '\n' = false := by decide
  have hkinds : (kinds.findSome? fun kind =>
      (dropLeadingWord? kind (moduleName.text ++ '\n' :: rest)).bind module?) = none := by
    rw [List.findSome?_eq_none_iff]
    intro kind hkind
    have hother : moduleName.text ≠ kind.toList := fun heq =>
      unkind (List.mem_map.2 ⟨kind, hkind, heq.symm⟩)
    rw [dropLeadingWord?_other hkind moduleName.accepted hother hmark, Option.bind_none]
  rw [statement, dropKeyword?_space hbefore (moduleName.unspaced not_blank_of_isPlainWord _)]
  simp only [Option.bind_eq_bind, Option.bind_some, hkinds, module?_run moduleName hmark]

/-- A kind in front of a module is the one kind that is read there. -/
theorem findSome?_kinds {kind : String} (hkind : kind ∈ kinds) (moduleName : Run isPlainWord)
    (rest : List Char) :
    (kinds.findSome? fun kind' => (dropLeadingWord? kind'
      (kind.toList ++ ' ' :: (moduleName.text ++ '.' :: rest))).bind module?) =
        some (moduleName.text, '.' :: rest) := by
  have hdot : isPlainWord '.' = false := by decide
  have hspace : isPlainWord ' ' = false := by decide
  have hself : (dropLeadingWord? kind
      (kind.toList ++ ' ' :: (moduleName.text ++ '.' :: rest))).bind module? =
        some (moduleName.text, '.' :: rest) := by
    rw [dropLeadingWord?_space kind (moduleName.unspaced not_blank_of_isPlainWord _),
      Option.bind_some, module?_run moduleName hdot]
  cases hfirst : kinds.findSome? fun kind' => (dropLeadingWord? kind'
      (kind.toList ++ ' ' :: (moduleName.text ++ '.' :: rest))).bind module? with
  | none =>
    rw [List.findSome?_eq_none_iff] at hfirst
    rw [hfirst kind hkind] at hself
    cases hself
  | some found =>
    obtain ⟨kind', hkind', hread⟩ := List.exists_of_findSome?_eq_some hfirst
    by_cases hsame : kind.toList = kind'.toList
    · rw [← String.toList_inj.1 hsame, hself] at hread
      exact hread.symm
    · have hplain := List.all_eq_true.1 (kind_isPlainWord hkind)
      rw [dropLeadingWord?_other hkind' hplain hsame hspace] at hread
      cases hread

theorem statement_member {kind : String} (hkind : kind ∈ kinds) (moduleName : Run isPlainWord)
    {before : Option Char} (hbefore : endsBeforeWord before = true) (rest : List Char) :
    statement before
      ("import".toList ++ ' ' :: (kind.toList ++ ' ' :: (moduleName.text ++ '.' :: rest))) =
        some (moduleName.text, '.' :: rest) := by
  let run : Run isPlainWord := ⟨kind.toList, kind_ne_nil hkind, kind_isPlainWord hkind⟩
  have hunspaced : Unspaced (kind.toList ++ ' ' :: (moduleName.text ++ '.' :: rest)) :=
    run.unspaced not_blank_of_isPlainWord _
  rw [statement, dropKeyword?_space hbefore hunspaced]
  simp only [Option.bind_eq_bind, Option.bind_some, findSome?_kinds hkind moduleName]

/-- Behind a module's dot no statement starts, as the word there is not the keyword. -/
theorem quiet_member {before : Option Char} {name : List Char}
    (hplain : name.all isPlainWord = true) (hother : name ≠ "import".toList) :
    Quiet before ('.' :: name) := by
  intro pre suf rest hsplit
  cases hkeyword : dropKeyword? (pre.getLast?.or before) (suf ++ '\n' :: rest) with
  | none => rfl
  | some left =>
    obtain ⟨behind, htext, hstart, hblanks⟩ := dropKeyword?_eq_some_iff.1 hkeyword
    obtain ⟨d, rfl, rfl⟩ := exists_cut_of_not_mem (by decide) htext
    cases pre with
    | nil => exact absurd (List.cons.inj hsplit).1 (by decide)
    | cons c pre =>
      obtain ⟨-, hname⟩ := List.cons.inj hsplit
      subst hname
      rw [getLast?_cons_or] at hstart
      cases hlast : pre.getLast? with
      | some x =>
        have hword : isWord x = true :=
          isWord_of_isPlainWord (List.all_eq_true.1 hplain x
            (List.mem_append_left _ (List.mem_of_getLast? hlast)))
        rw [hlast, Option.some_or, endsBeforeWord, hword] at hstart
        cases hstart
      | none =>
        obtain rfl : pre = [] := List.getLast?_eq_none_iff.1 hlast
        cases d with
        | nil => exact absurd (by simp) hother
        | cons x d =>
          have hx : isBlank x = false := not_blank_of_isPlainWord x
            (List.all_eq_true.1 hplain x (by simp))
          rw [List.cons_append, dropBlanks?_eq_none (unspaced_cons.2 hx)] at hblanks
          cases hblanks

theorem spelling_readIn : spelling.ReadIn .swift where
  reads a before rest hbefore := by
    rw [spelling.statement_append]
    cases a with
    | whole moduleName unkind => exact statement_whole moduleName unkind hbefore rest
    | member kind declared moduleName name =>
      show statement before ("import".toList ++ ' ' :: (kind.toList ++ ' ' :: moduleName.text ++
        '.' :: (name ++ '\n' :: rest))) = some (moduleName.text, '.' :: (name ++ '\n' :: rest))
      rw [List.append_assoc, List.cons_append]
      exact statement_member declared moduleName hbefore _
  quiet a := by
    cases a with
    | whole => exact quiet_nil _
    | member _ _ _ _ plain other => exact quiet_member plain other

end Swift

/-! ## Main statement -/

/-- From import lines and noise the references are those of the import lines: one for each, in
order, with the name or the module it imports and at the start of its line. -/
theorem import_lines_extracted (javaItems : List (Item Java.Import))
    (swiftItems : List (Item Swift.Import)) :
    ImportSyntax.java.extract (Java.spelling.source javaItems) = Java.spelling.refs javaItems ∧
      ImportSyntax.swift.extract (Swift.spelling.source swiftItems) =
        Swift.spelling.refs swiftItems :=
  ⟨Java.spelling_readIn.extract_source javaItems, Swift.spelling_readIn.extract_source swiftItems⟩

example : Java.spelling.source
    [.noise ⟨[], by decide⟩,
     .statement ⟨true, ⟨⟨"a.".toList, by decide, by decide⟩, true⟩⟩,
     .statement ⟨false, ⟨⟨"static".toList, by decide, by decide⟩, false⟩⟩] =
    "\nimport static a..*;\nimport static;\n".toList := by
  decide

example : Swift.spelling.source
    [.statement (.whole ⟨"structure".toList, by decide, by decide⟩ (by decide)),
     .statement (.member "struct" (by decide) ⟨"import".toList, by decide, by decide⟩
      "class".toList (by decide) (by decide))] =
    "import structure\nimport struct import.class\n".toList := by
  decide

end EditGuard.Imports
