import EditGuard.Imports.Syntax
import EditGuard.Proofs.Text.Scan
import Mathlib.Data.List.Basic

/-! # References in the order of the source

Each reader of an import statement goes on behind what it has read, so a statement takes at least
its keyword and no two statements start at one place. The references of a source therefore come in
the order of their offsets. What a statement refers to is a token of its syntax, spelled out behind
the keyword.
-/

namespace EditGuard.Imports

open Text

/-! ## Readers leave an end of the text -/

theorem isPrefixOf?_suffix {word t rest : List Char} (h : List.isPrefixOf? word t = some rest) :
    rest <:+ t :=
  ⟨word, List.isPrefixOf?_eq_some_iff_append_eq.1 h⟩

theorem dropBlanks?_suffix {t rest : List Char} (h : dropBlanks? t = some rest) : rest <:+ t := by
  cases t with
  | nil => cases h
  | cons c t =>
    by_cases hc : isBlank c = true
    · obtain rfl : t.dropWhile isBlank = rest := by simpa [dropBlanks?, hc] using h
      exact (List.dropWhile_suffix isBlank).trans (List.suffix_cons c t)
    · simp [dropBlanks?, hc] at h

theorem dropLeadingWord?_suffix {word : String} {t rest : List Char}
    (h : dropLeadingWord? word t = some rest) : rest <:+ t := by
  obtain ⟨behind, hword, hblanks⟩ := Option.bind_eq_some_iff.1 h
  exact (dropBlanks?_suffix hblanks).trans (isPrefixOf?_suffix hword)

theorem takeRun?_eq_some_iff {accepts : Char → Bool} {t run rest : List Char} :
    takeRun? accepts t = some (run, rest) ↔
      run ≠ [] ∧ t.takeWhile accepts = run ∧ t.dropWhile accepts = rest := by
  unfold takeRun?
  cases hrun : t.takeWhile accepts with
  | nil =>
    constructor
    · intro h
      cases h
    · intro h
      exact absurd h.2.1.symm h.1
  | cons c more =>
    simp only [Option.some.injEq, Prod.mk.injEq]
    constructor
    · intro h
      exact ⟨by rw [← h.1]; exact List.cons_ne_nil c more, h.1, h.2⟩
    · intro h
      exact h.2

theorem takeRun?_eq_some {accepts : Char → Bool} {t run rest : List Char}
    (h : takeRun? accepts t = some (run, rest)) :
    run ≠ [] ∧ (∀ c ∈ run, accepts c = true) ∧ t = run ++ rest := by
  obtain ⟨hne, rfl, rfl⟩ := takeRun?_eq_some_iff.1 h
  exact ⟨hne, List.all_eq_true.1 List.all_takeWhile, List.takeWhile_append_dropWhile.symm⟩

/-- The keyword is a word of its own and white space follows it. -/
theorem dropKeyword?_eq_some_iff {before : Option Char} {t rest : List Char} :
    dropKeyword? before t = some rest ↔ ∃ behind, t = "import".toList ++ behind ∧
      endsBeforeWord before = true ∧ dropBlanks? behind = some rest := by
  have hword : ∀ behind, (if endsBeforeWord before then dropBlanks? behind else none) = some rest ↔
      endsBeforeWord before = true ∧ dropBlanks? behind = some rest := by simp
  unfold dropKeyword?
  simp only [Option.bind_eq_bind, Option.bind_eq_some_iff,
    List.isPrefixOf?_eq_some_iff_append_eq, hword, @eq_comm _ t]

theorem dropKeyword?_eq_some {before : Option Char} {t rest : List Char}
    (h : dropKeyword? before t = some rest) :
    ∃ behind, t = "import".toList ++ behind ∧ rest <:+ behind := by
  obtain ⟨behind, ht, -, hblanks⟩ := dropKeyword?_eq_some_iff.1 h
  exact ⟨behind, ht, dropBlanks?_suffix hblanks⟩

/-! ## Readers find tokens -/

/-- What a reader finds is of a kind and stands in the text in front of what is left. -/
def Finds (kind : List Char → Prop) (read? : List Char → Option (List Char × List Char)) : Prop :=
  ∀ ⦃t token left⦄, read? t = some (token, left) →
    kind token ∧ ∃ gap closing, t = gap ++ token ++ (closing ++ left)

namespace Finds

variable {kind : List Char → Prop}

theorem behind {drop? : List Char → Option (List Char)}
    {read? : List Char → Option (List Char × List Char)}
    (hdrop : ∀ ⦃t rest⦄, drop? t = some rest → rest <:+ t) (hread : Finds kind read?) :
    Finds kind fun t => (drop? t).bind read? := by
  intro t token left h
  obtain ⟨rest, hrest, hfound⟩ := Option.bind_eq_some_iff.1 h
  obtain ⟨hkind, gap, closing, rfl⟩ := hread hfound
  obtain ⟨passed, rfl⟩ := hdrop hrest
  exact ⟨hkind, passed ++ gap, closing, by simp⟩

theorem either {first? second? : List Char → Option (List Char × List Char)}
    (hfirst : Finds kind first?) (hsecond : Finds kind second?) :
    Finds kind fun t => match first? t with
      | some found => some found
      | none => second? t := by
  intro t token left h
  dsimp only at h
  split at h
  · next heq =>
    obtain rfl := Option.some.inj h
    exact hfirst heq
  · exact hsecond h

theorem findSome? {β : Type} {read? : β → List Char → Option (List Char × List Char)}
    (choices : List β) (h : ∀ choice, Finds kind (read? choice)) :
    Finds kind fun t => choices.findSome? fun choice => read? choice t := by
  intro t token left hfound
  obtain ⟨choice, -, hread⟩ := List.exists_of_findSome?_eq_some hfound
  exact h choice hread

end Finds

theorem finds_takeRun? (accepts : Char → Bool) :
    Finds (fun run => run ≠ [] ∧ ∀ c ∈ run, accepts c = true) (takeRun? accepts) := by
  intro t run rest h
  obtain ⟨hne, hrun, rfl⟩ := takeRun?_eq_some h
  exact ⟨⟨hne, hrun⟩, [], [], rfl⟩

theorem dropLeadingWord?_behind {kind : List Char → Prop}
    {read? : List Char → Option (List Char × List Char)} (word : String)
    (hread : Finds kind read?) : Finds kind fun t => (dropLeadingWord? word t).bind read? :=
  hread.behind fun _ _ h => dropLeadingWord?_suffix h

/-! ### Java -/

/-- A name, and perhaps the wildcard behind it. -/
def Java.IsToken (token : List Char) : Prop :=
  ∃ word, word ≠ [] ∧ (∀ c ∈ word, isNameChar c = true) ∧
    (token = word ∨ token = word ++ ".*".toList)

theorem Java.dropSemicolon?_suffix {t rest : List Char} (h : dropSemicolon? t = some rest) :
    rest <:+ t :=
  (isPrefixOf?_suffix h).trans (List.dropWhile_suffix isBlank)

theorem Java.finds_name? : Finds IsToken name? := by
  intro t token left h
  obtain ⟨⟨run, rest⟩, hrun, hend⟩ := Option.bind_eq_some_iff.1 h
  obtain ⟨hne, hword, rfl⟩ := takeRun?_eq_some hrun
  dsimp only at hend
  split at hend
  · next rest =>
    by_cases hstar : (2 ≤ run.length && run.getLast? == some '.') = true
    · rw [if_pos hstar] at hend
      obtain ⟨left', hsemicolon, heq⟩ := Option.map_eq_some_iff.1 hend
      obtain ⟨rfl, rfl⟩ := Prod.mk.inj heq
      obtain ⟨closing, rfl⟩ := dropSemicolon?_suffix hsemicolon
      obtain ⟨hlength, hdot⟩ : 2 ≤ run.length ∧ run.getLast? = some '.' := by simpa using hstar
      obtain ⟨word, rfl⟩ := List.getLast?_eq_some_iff.1 hdot
      have hshorter : word ≠ [] := by
        rintro rfl
        exact absurd hlength (by decide)
      have hchars : ∀ c ∈ word, isNameChar c = true :=
        fun c hc => hword c (List.mem_append_left _ hc)
      exact ⟨⟨word, hshorter, hchars, Or.inr (by simp)⟩, [], closing, by simp⟩
    · rw [if_neg hstar] at hend
      cases hend
  · obtain ⟨left', hsemicolon, heq⟩ := Option.map_eq_some_iff.1 hend
    obtain ⟨rfl, rfl⟩ := Prod.mk.inj heq
    obtain ⟨closing, rfl⟩ := dropSemicolon?_suffix hsemicolon
    exact ⟨⟨run, hne, hword, Or.inl rfl⟩, [], closing, rfl⟩

/-! ### Modules of ECMAScript -/

theorem EsModule.dropIdentifier?_suffix {t rest : List Char} (h : dropIdentifier? t = some rest) :
    rest <:+ t := by
  obtain ⟨⟨run, rest'⟩, hrun, rfl⟩ := Option.map_eq_some_iff.1 h
  obtain ⟨-, -, rfl⟩ := takeRun?_eq_some hrun
  exact List.suffix_append run rest'

theorem EsModule.dropBinding?_suffix {t rest : List Char} (h : dropBinding? t = some rest) :
    rest <:+ t := by
  unfold dropBinding? at h
  split at h
  · next t =>
    have hclosing : rest <:+ t := (isPrefixOf?_suffix h).trans (List.dropWhile_suffix _)
    exact hclosing.trans (List.suffix_cons _ t)
  · next t =>
    obtain ⟨t₁, hblanks, h⟩ := Option.bind_eq_some_iff.1 h
    obtain ⟨t₂, hword, hname⟩ := Option.bind_eq_some_iff.1 h
    have hrest : rest <:+ t₁ := (dropIdentifier?_suffix hname).trans (dropLeadingWord?_suffix hword)
    exact (hrest.trans (dropBlanks?_suffix hblanks)).trans (List.suffix_cons _ t)
  · exact dropIdentifier?_suffix h

theorem EsModule.dropDefault?_suffix {t rest : List Char} (h : dropDefault? t = some rest) :
    rest <:+ t := by
  obtain ⟨t₁, hname, h⟩ := Option.bind_eq_some_iff.1 h
  obtain ⟨t₂, hcomma, heq⟩ := Option.bind_eq_some_iff.1 h
  obtain rfl : t₂.dropWhile isBlank = rest := Option.some.inj heq
  have hbehind : t₂ <:+ t₁ := (isPrefixOf?_suffix hcomma).trans (List.dropWhile_suffix isBlank)
  exact ((List.dropWhile_suffix isBlank).trans hbehind).trans (dropIdentifier?_suffix hname)

theorem EsModule.finds_source? :
    Finds (fun source => source ≠ [] ∧ ∀ c ∈ source, isQuote c = false) source? := by
  intro t source left h
  obtain ⟨t₁, hblanks, h₁⟩ := Option.bind_eq_some_iff.1 h
  obtain ⟨t₂, hword, h₂⟩ := Option.bind_eq_some_iff.1 h₁
  obtain ⟨passed, rfl⟩ : t₂ <:+ t :=
    (dropLeadingWord?_suffix hword).trans (dropBlanks?_suffix hblanks)
  split at h₂
  · cases h₂
  · next quote t₃ =>
    by_cases hquote : isQuote quote = true
    · rw [if_pos hquote] at h₂
      obtain ⟨⟨run, rest⟩, hrun, hclosing⟩ := Option.bind_eq_some_iff.1 h₂
      obtain ⟨hne, hunquoted, hsplit⟩ := takeRun?_eq_some hrun
      dsimp only at hclosing
      split at hclosing
      · cases hclosing
      · next closing left' =>
        obtain ⟨rfl, rfl⟩ := Prod.mk.inj (Option.some.inj hclosing)
        refine ⟨⟨hne, fun c hc => by simpa using hunquoted c hc⟩, passed ++ [quote], [closing], ?_⟩
        rw [hsplit]
        simp
    · rw [if_neg hquote] at h₂
      cases h₂

theorem EsModule.finds_clause? :
    Finds (fun source => source ≠ [] ∧ ∀ c ∈ source, isQuote c = false) clause? := by
  have hbound : Finds _ bound? := finds_source?.behind fun _ _ h => dropBinding?_suffix h
  exact (hbound.behind fun _ _ h => dropDefault?_suffix h).either hbound

/-! ## Statements -/

/-- A match starts within the text, so its location is that of its own offset. -/
theorem location_offset_of_mem_scan {r : Recogniser (List Char)} (hr : r.Consumes)
    {source : List Char} {hit : Hit (List Char)} (hm : hit ∈ r.scan source) :
    ((LineIndex.ofText source).location hit.offset).offset = hit.offset :=
  Nat.min_eq_left (Nat.le_of_lt (Recogniser.offset_lt_of_mem_scan hr hm))

namespace ImportSyntax

/-- The tokens of a syntax: names and wildcards, modules, and sources between quotes. -/
def IsToken : ImportSyntax → List Char → Prop
  | java, token => Java.IsToken token
  | swift, token => token ≠ [] ∧ ∀ c ∈ token, isPlainWord c = true
  | esModule, token => token ≠ [] ∧ ∀ c ∈ token, EsModule.isQuote c = false

/-- Behind the keyword each syntax finds one of its tokens. -/
theorem statement_eq_some {s : ImportSyntax} {before : Option Char} {t token left : List Char}
    (h : s.statement before t = some (token, left)) :
    ∃ rest, dropKeyword? before t = some rest ∧ s.IsToken token ∧
      ∃ gap closing, rest = gap ++ token ++ (closing ++ left) := by
  cases s with
  | java =>
    obtain ⟨rest, hkeyword, hname⟩ := Option.bind_eq_some_iff.1 h
    have hfinds := (dropLeadingWord?_behind "static" Java.finds_name?).either Java.finds_name?
    exact ⟨rest, hkeyword, hfinds hname⟩
  | swift =>
    obtain ⟨rest, hkeyword, hmodule⟩ := Option.bind_eq_some_iff.1 h
    have hread : Finds _ Swift.module? := finds_takeRun? isPlainWord
    have hkinds := Finds.findSome? Swift.kinds fun kind =>
      dropLeadingWord?_behind kind hread
    exact ⟨rest, hkeyword, (hkinds.either hread) hmodule⟩
  | esModule =>
    obtain ⟨rest, hkeyword, hclause⟩ := Option.bind_eq_some_iff.1 h
    have hfinds :=
      (dropLeadingWord?_behind "type" EsModule.finds_clause?).either EsModule.finds_clause?
    exact ⟨rest, hkeyword, hfinds hclause⟩

/-- A match is the keyword as a word of its own, and the token somewhere behind it. -/
theorem statement_spells {s : ImportSyntax} {before : Option Char} {t token left : List Char}
    (h : s.statement before t = some (token, left)) :
    endsBeforeWord before = true ∧ s.IsToken token ∧
      ∃ gap closing, t = "import".toList ++ gap ++ token ++ closing ++ left := by
  obtain ⟨rest, hkeyword, htoken, gap, closing, rfl⟩ := statement_eq_some h
  obtain ⟨behind, rfl, hword, hblanks⟩ := dropKeyword?_eq_some_iff.1 hkeyword
  obtain ⟨blanks, rfl⟩ := dropBlanks?_suffix hblanks
  exact ⟨hword, htoken, blanks ++ gap, closing, by simp⟩

theorem statement_consumes (s : ImportSyntax) : s.statement.Consumes := by
  intro before t token left h
  obtain ⟨-, -, gap, closing, rfl⟩ := statement_spells h
  refine ⟨"import".toList ++ gap ++ token ++ closing, ?_, rfl⟩
  simp

/-- References come in the order of their offsets, no two at one offset. -/
theorem extract_ascending (s : ImportSyntax) (source : List Char) :
    (s.extract source).Pairwise fun ref ref' => ref.location.offset < ref'.location.offset := by
  unfold extract references
  rw [List.pairwise_map]
  refine (Recogniser.scan_ascending s.statement_consumes source).imp_of_mem ?_
  intro hit hit' hm hm' hlt
  rw [location_offset_of_mem_scan s.statement_consumes hm,
    location_offset_of_mem_scan s.statement_consumes hm']
  exact hlt

/-- What is made of some of the references, each at its place, keeps their order. -/
theorem filterMap_extract_ascending {β : Type} (s : ImportSyntax) (source : List Char)
    {make? : ImportRef → Option β} {place : β → Location}
    (h : ∀ ref made, make? ref = some made → place made = ref.location) :
    ((s.extract source).filterMap make?).Pairwise
      fun made made' => (place made).offset < (place made').offset := by
  refine List.Pairwise.filterMap _ ?_ (s.extract_ascending source)
  intro ref ref' hlt made hmade made' hmade'
  rw [h ref made hmade, h ref' made' hmade']
  exact hlt

end ImportSyntax

end EditGuard.Imports
