import EditGuard.Proofs.Imports.Items

/-! # Import clauses

A module import of ECMAScript binds a default, names in braces, a whole module, or a default and
one of these. The words "type" and "from" may also be bound: "type" is the modifier where a clause
follows it, which "from" and the quotes behind it are not, and "from" ends a clause where a source
follows it.
-/

namespace EditGuard.Imports.EsModule

open Text

abbrev Identifier := Run isIdentifierChar

inductive Binding where
  | identifier (name : Identifier)
  | names (inside : List Char) (unclosed : '\x7d' ∉ inside)
  | whole (name : Identifier)

def Binding.text : Binding → List Char
  | identifier name => name.text
  | names inside _ => '\x7b' :: (inside ++ ['\x7d'])
  | whole name => '*' :: ' ' :: ("as".toList ++ ' ' :: name.text)

/-- An import statement; the source stands between two quotes of one kind. -/
structure Import where
  isType : Bool
  default? : Option Identifier
  binding : Binding
  quote : Char
  quotes : isQuote quote = true
  source : Run (!isQuote ·)

def Import.clause (i : Import) : List Char :=
  match i.default? with
  | none => i.binding.text
  | some name => name.text ++ ',' :: ' ' :: i.binding.text

def Import.origin (i : Import) : List Char :=
  ' ' :: ("from".toList ++ ' ' :: i.quote :: (i.source.text ++ [i.quote]))

def spelling : Spelling Import where
  clause i := modified "type" i.isType (i.clause ++ i.origin)
  behind _ := []
  token i := i.source.text

/-! ## Words and quotes -/

theorem not_blank_of_isIdentifierChar (c : Char) (h : isIdentifierChar c = true) :
    isBlank c = false := by
  have hkind : isWord c = true ∨ c = '$' := by simpa [isIdentifierChar] using h
  rcases hkind with hword | rfl
  · exact not_blank_of_isWord hword
  · decide

theorem not_blank_of_isQuote {c : Char} (h : isQuote c = true) : isBlank c = false := by
  have hkind : (c = '\x27' ∨ c = '\x22') ∨ c = '\x60' := by simpa [isQuote] using h
  rcases hkind with (rfl | rfl) | rfl
  · decide
  · decide
  · decide

theorem not_mem_of_isQuote {c : Char} (h : isQuote c = true) {word : List Char}
    (hword : word.all (!isQuote ·) = true) : c ∉ word := by
  intro hm
  have hunquoted := List.all_eq_true.1 hword c hm
  rw [h] at hunquoted
  exact absurd hunquoted (by decide)

theorem Identifier.not_blank (name : Identifier) : ∀ c ∈ name.text, isBlank c = false :=
  fun c hc => not_blank_of_isIdentifierChar c (name.accepted c hc)

theorem Identifier.unspaced (name : Identifier) (rest : List Char) : Unspaced (name.text ++ rest) :=
  Run.unspaced name not_blank_of_isIdentifierChar rest

theorem dropIdentifier?_run (name : Identifier) {mark : Char} (h : isIdentifierChar mark = false)
    (rest : List Char) : dropIdentifier? (name.text ++ mark :: rest) = some (mark :: rest) := by
  rw [dropIdentifier?, takeRun?_run name h]
  rfl

theorem dropIdentifier?_eq_none {mark : Char} (h : isIdentifierChar mark = false)
    (rest : List Char) : dropIdentifier? (mark :: rest) = none := by
  rw [dropIdentifier?, takeRun?_eq_none (by simpa using h)]
  rfl

/-! ## Parts of a statement -/

theorem dropBinding?_name (name : Identifier) (rest : List Char) :
    dropBinding? (name.text ++ rest) = dropIdentifier? (name.text ++ rest) := by
  obtain ⟨c, more, htext⟩ := List.exists_cons_of_ne_nil name.nonempty
  have hc : isIdentifierChar c = true := name.accepted c (by simp [htext])
  rw [htext, List.cons_append]
  unfold dropBinding?
  split
  · next heq =>
    obtain ⟨rfl, -⟩ := List.cons.inj heq
    exact absurd hc (by decide)
  · next heq =>
    obtain ⟨rfl, -⟩ := List.cons.inj heq
    exact absurd hc (by decide)
  · rfl

theorem dropBinding?_text (b : Binding) (rest : List Char) :
    dropBinding? (b.text ++ ' ' :: rest) = some (' ' :: rest) := by
  have hspace : isIdentifierChar ' ' = false := by decide
  cases b with
  | identifier name => rw [Binding.text, dropBinding?_name, dropIdentifier?_run name hspace]
  | names inside unclosed =>
    have hinside : inside.all (fun c => decide (c ≠ '\x7d')) = true := by
      rw [List.all_eq_true]
      intro c hc
      simp only [decide_eq_true_eq]
      rintro rfl
      exact unclosed hc
    have hdrop : (inside ++ '\x7d' :: ' ' :: rest).dropWhile (fun c => decide (c ≠ '\x7d')) =
        '\x7d' :: ' ' :: rest := dropWhile_eq_iff.2 ⟨inside, hinside, rfl, by simp⟩
    rw [Binding.text, List.cons_append, List.append_assoc, List.singleton_append, dropBinding?,
      hdrop]
    exact List.isPrefixOf?_eq_some_iff_append_eq.2 rfl
  | whole name =>
    have has : Unspaced ("as".toList ++ ' ' :: (name.text ++ ' ' :: rest)) :=
      unspaced_word (by decide) _
    rw [Binding.text, List.cons_append, List.cons_append, List.append_assoc, List.cons_append,
      dropBinding?, dropBlanks?_space has]
    simp only [Option.bind_eq_bind, Option.bind_some,
      dropLeadingWord?_space "as" (name.unspaced (' ' :: rest)), dropIdentifier?_run name hspace]

theorem source?_origin (i : Import) (rest : List Char) :
    source? (i.origin ++ rest) = some (i.source.text, rest) := by
  have hquoted : Unspaced (i.quote :: (i.source.text ++ i.quote :: rest)) :=
    unspaced_cons.2 (not_blank_of_isQuote i.quotes)
  have hfrom : Unspaced ("from".toList ++ ' ' :: i.quote :: (i.source.text ++ i.quote :: rest)) :=
    unspaced_word (by decide) _
  have hclosing : (!isQuote i.quote) = false := by simp [i.quotes]
  rw [Import.origin, List.cons_append, List.append_assoc, List.cons_append, List.cons_append,
    List.append_assoc, List.singleton_append, source?, dropBlanks?_space hfrom]
  simp only [Option.bind_eq_bind, Option.bind_some, dropLeadingWord?_space "from" hquoted,
    i.quotes, if_true, takeRun?_run i.source hclosing]

theorem bound?_text (i : Import) (rest : List Char) :
    bound? (i.binding.text ++ (i.origin ++ rest)) = some (i.source.text, rest) := by
  have hbinding : dropBinding? (i.binding.text ++ (i.origin ++ rest)) = some (i.origin ++ rest) :=
    dropBinding?_text i.binding _
  rw [bound?, hbinding, Option.bind_some, source?_origin]

/-! ## Clauses -/

theorem dropDefault?_name (name : Identifier) {t : List Char} (h : Unspaced t) :
    dropDefault? (name.text ++ ',' :: ' ' :: t) = some t := by
  have hmark : isIdentifierChar ',' = false := by decide
  have hcomma : (',' :: ' ' :: t).dropWhile isBlank = ',' :: ' ' :: t :=
    dropWhile_eq_iff.2 ⟨[], rfl, rfl, unspaced_cons.2 (by decide)⟩
  have hword : List.isPrefixOf? [','] (',' :: ' ' :: t) = some (' ' :: t) := rfl
  have hrest : (' ' :: t).dropWhile isBlank = t := dropWhile_eq_iff.2 ⟨[' '], by decide, rfl, h⟩
  rw [dropDefault?, dropIdentifier?_run name hmark]
  simp only [Option.bind_eq_bind, Option.bind_some, hcomma, hword, hrest]

/-- No comma follows a word in front of white space and another word or quote. -/
theorem dropDefault?_eq_none (name : Identifier) {c : Char} (hc : isBlank c = false)
    (hcomma : c ≠ ',') (rest : List Char) :
    dropDefault? (name.text ++ ' ' :: c :: rest) = none := by
  have hspace : isIdentifierChar ' ' = false := by decide
  have hrest : (' ' :: c :: rest).dropWhile isBlank = c :: rest :=
    dropWhile_eq_iff.2 ⟨[' '], by decide, rfl, unspaced_cons.2 hc⟩
  have hword : List.isPrefixOf? [','] (c :: rest) = none := by simp [List.isPrefixOf?, hcomma.symm]
  rw [dropDefault?, dropIdentifier?_run name hspace]
  simp only [Option.bind_eq_bind, Option.bind_some, hrest, hword, Option.bind_none]

theorem dropDefault?_mark {mark : Char} (h : isIdentifierChar mark = false) (rest : List Char) :
    dropDefault? (mark :: rest) = none := by
  rw [dropDefault?, dropIdentifier?_eq_none h]
  rfl

/-- No binding is itself a default: behind it stands no comma. -/
theorem dropDefault?_binding (i : Import) (rest : List Char) :
    dropDefault? (i.binding.text ++ (i.origin ++ rest)) = none := by
  cases hbinding : i.binding with
  | identifier name =>
    exact dropDefault?_eq_none name (by decide) (by decide) _
  | names inside unclosed => exact dropDefault?_mark (by decide) _
  | whole name => exact dropDefault?_mark (by decide) _

theorem Binding.unspaced (b : Binding) (rest : List Char) : Unspaced (b.text ++ rest) := by
  cases b with
  | identifier name => exact name.unspaced rest
  | names inside unclosed => exact unspaced_cons.2 (by decide)
  | whole name => exact unspaced_cons.2 (by decide)

theorem clause?_text (i : Import) (rest : List Char) :
    clause? (i.clause ++ (i.origin ++ rest)) = some (i.source.text, rest) := by
  unfold Import.clause
  cases i.default? with
  | none =>
    dsimp only
    rw [clause?, dropDefault?_binding, Option.bind_none]
    exact bound?_text i rest
  | some name =>
    dsimp only
    rw [List.append_assoc, List.cons_append, List.cons_append, clause?,
      dropDefault?_name name (i.binding.unspaced _), Option.bind_some, bound?_text]

theorem unspaced_clause (i : Import) (rest : List Char) : Unspaced (i.clause ++ rest) := by
  unfold Import.clause
  cases i.default? with
  | none => exact i.binding.unspaced rest
  | some name =>
    dsimp only
    rw [List.append_assoc]
    exact name.unspaced _

/-- The word "from" and a quote are no clause. -/
theorem clause?_from {quote : Char} (h : isQuote quote = true) (rest : List Char) :
    clause? ("from".toList ++ ' ' :: quote :: rest) = none := by
  have hquote : isBlank quote = false := not_blank_of_isQuote h
  have hcomma : quote ≠ ',' := by
    intro heq
    rw [heq] at h
    exact absurd h (by decide)
  let name : Identifier := ⟨"from".toList, by decide, by decide⟩
  have hdefault : dropDefault? ("from".toList ++ ' ' :: quote :: rest) = none :=
    dropDefault?_eq_none name hquote hcomma rest
  have hbinding : dropBinding? ("from".toList ++ ' ' :: quote :: rest) =
      some (' ' :: quote :: rest) := dropBinding?_text (.identifier name) _
  have hword : dropLeadingWord? "from" (quote :: rest) = none :=
    dropLeadingWord?_mark (not_mem_of_isQuote h (by decide)) (by decide) rest
  have hsource : source? (' ' :: quote :: rest) = none := by
    rw [source?, dropBlanks?_space (unspaced_cons.2 hquote)]
    simp only [Option.bind_eq_bind, Option.bind_some, hword, Option.bind_none]
  rw [clause?, hdefault, Option.bind_none, bound?, hbinding, Option.bind_some, hsource]

/-- Without the modifier no clause follows a word "type", which can only be bound. -/
theorem clause?_behind_type (i : Import) (rest : List Char) :
    (dropLeadingWord? "type" (i.clause ++ (i.origin ++ rest))).bind clause? = none := by
  unfold Import.clause
  cases i.default? with
  | some name =>
    have hother : dropLeadingWord? "type"
        (name.text ++ ',' :: ' ' :: (i.binding.text ++ (i.origin ++ rest))) = none :=
      dropLeadingWord?_eq_none (by decide) name.not_blank fun _ => by decide
    dsimp only
    rw [List.append_assoc, List.cons_append, List.cons_append, hother, Option.bind_none]
  | none =>
    dsimp only
    cases i.binding with
    | identifier name =>
      have horigin : i.origin ++ rest =
          ' ' :: ("from".toList ++ ' ' :: i.quote :: (i.source.text ++ i.quote :: rest)) := by
        simp only [Import.origin, List.cons_append, List.append_assoc, List.nil_append]
      have hfrom : Unspaced
          ("from".toList ++ ' ' :: i.quote :: (i.source.text ++ i.quote :: rest)) :=
        unspaced_word (by decide) _
      rw [Binding.text, horigin]
      by_cases htype : name.text = "type".toList
      · rw [htype, dropLeadingWord?_space "type" hfrom, Option.bind_some, clause?_from i.quotes]
      · have hother : dropLeadingWord? "type" (name.text ++ ' ' ::
            ("from".toList ++ ' ' :: i.quote :: (i.source.text ++ i.quote :: rest))) = none :=
          dropLeadingWord?_eq_none (by decide) name.not_blank fun heq => absurd heq htype
        rw [hother, Option.bind_none]
    | names inside unclosed =>
      rw [Binding.text, List.cons_append, dropLeadingWord?_mark (by decide) (by decide),
        Option.bind_none]
    | whole name =>
      rw [Binding.text, List.cons_append, dropLeadingWord?_mark (by decide) (by decide),
        Option.bind_none]

/-! ## Statements -/

theorem statement_spelling (i : Import) {before : Option Char}
    (hbefore : endsBeforeWord before = true) (rest : List Char) :
    statement before (spelling.statement i ++ rest) = some (i.source.text, rest) := by
  have htext : spelling.statement i ++ rest =
      "import".toList ++ ' ' :: modified "type" i.isType (i.clause ++ (i.origin ++ rest)) := by
    rw [spelling.statement_append, spelling, modified_append, List.append_assoc]
  have hclause := unspaced_clause i (i.origin ++ rest)
  have hmodified : Unspaced (modified "type" i.isType (i.clause ++ (i.origin ++ rest))) :=
    unspaced_modified (by decide) i.isType hclause
  rw [htext, statement, dropKeyword?_space hbefore hmodified]
  exact read_modified i.isType hclause (clause?_text i rest) (clause?_behind_type i rest)

theorem spelling_readIn : spelling.ReadIn .esModule where
  reads i _ rest hbefore := statement_spelling i hbefore ('\n' :: rest)
  quiet _ := quiet_nil _

/-- From module imports and noise the references are those of the imports: one for each, in order,
with the source it names and at the place where it begins. -/
theorem module_imports_extracted (items : List (Item Import)) :
    ImportSyntax.esModule.extract (spelling.source items) = spelling.refs items :=
  spelling_readIn.extract_source items

example : spelling.source
    [.statement ⟨false, none, .identifier ⟨"type".toList, by decide, by decide⟩, '\x27', by decide,
      ⟨"a".toList, by decide, by decide⟩⟩,
     .noise ⟨"const from = 1".toList, by decide +kernel⟩,
     .statement ⟨true, some ⟨"from".toList, by decide, by decide⟩,
      .names "\n  import,\n".toList (by decide), '\x22', by decide,
      ⟨"./b".toList, by decide, by decide⟩⟩] =
    "import type from \x27a\x27\nconst from = 1\n".toList ++
      "import type from, \x7b\n  import,\n\x7d from \x22./b\x22\n".toList := by
  decide +kernel

end EditGuard.Imports.EsModule
