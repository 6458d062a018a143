import EditGuard.Proofs.Glob.Matching
import EditGuard.Proofs.Review.GatedDocuments
import EditGuard.Proofs.Text.Locations
import Mathlib.Data.List.Forall2

/-! # Names of gated documents

Whether a document is gated is decided by its base name, which any directory may stand before. The
built-in patterns ask for one of two endings or for one name, in any letter case; other patterns
without character sets do not see letter case either.
-/

namespace EditGuard.Review.GatedDocuments

open Glob Text

/-! ## Base names -/

/-- A beginning of a path that ends in a separator, if it is not empty. -/
def IsDirectory (directory : List Char) : Prop :=
  ∀ c, directory.getLast? = some c → isSeparator c = true

theorem baseName_append {directory : List Char} (h : IsDirectory directory) (path : List Char) :
    baseName (directory ++ path) = baseName path := by
  rcases List.eq_nil_or_concat' directory with rfl | ⟨front, c, rfl⟩
  · rfl
  · rw [List.append_assoc]
    exact afterLast_append_mark (h c List.getLast?_concat) front path

/-- A path is a directory and its base name, which has no separator. -/
theorem exists_directory (path : List Char) : ∃ directory, IsDirectory directory ∧
    path = directory ++ baseName path ∧ ∀ c ∈ baseName path, isSeparator c = false := by
  refine ⟨(path.reverse.dropWhile fun c => !isSeparator c).reverse, ?_, ?_, ?_⟩
  · intro c hc
    have hhead := List.head?_dropWhile_not (fun c => !isSeparator c) path.reverse
    rw [List.getLast?_reverse] at hc
    rw [hc] at hhead
    simpa using hhead
  · rw [baseName, afterLast, ← List.reverse_append, List.takeWhile_append_dropWhile,
      List.reverse_reverse]
  · intro c hc
    rw [baseName, afterLast, List.mem_reverse] at hc
    simpa using List.mem_takeWhile_imp hc

theorem isSeparator_toLower : ∀ c, isSeparator c.toLower = isSeparator c :=
  eq_toLower_of_letters (by decide)

theorem baseName_map_toLower (path : List Char) :
    baseName (path.map Char.toLower) = (baseName path).map Char.toLower := by
  have hmark : (fun c => !isSeparator c) ∘ Char.toLower = fun c => !isSeparator c := by
    funext c
    exact congrArg (!·) (isSeparator_toLower c)
  rw [baseName, afterLast, ← List.map_reverse, List.takeWhile_map, hmark, ← List.map_reverse]
  rfl

theorem sameLetters_baseName {path path' : List Char} (h : SameLetters path path') :
    SameLetters (baseName path) (baseName path') := by
  rw [SameLetters, ← baseName_map_toLower, ← baseName_map_toLower, h]

/-! ## The built-in patterns -/

theorem spells_letters_iff {word t : List Char} :
    Spells (word.map Token.char) t ↔ SameLetters t word := by
  induction word generalizing t with
  | nil => simp [Spells, SameLetters]
  | cons w word ih =>
    constructor
    · rintro ⟨rest, ⟨c, rfl, hc⟩, hspells⟩
      have hletter : c.toLower = w.toLower := by simpa [Token.accepts, sameLetter] using hc
      rw [SameLetters, List.map_cons, List.map_cons, hletter, ih.1 hspells]
    · intro h
      obtain ⟨c, rest, rfl, hc, hrest⟩ := List.map_eq_cons_iff.1 h
      exact ⟨rest, ⟨c, rfl, by simpa [Token.accepts, sameLetter] using hc⟩, ih.2 hrest⟩

/-- A star in front of a word asks for the word at the end of the text. -/
theorem spells_ending_iff {word t : List Char} :
    Spells (.anySequence :: word.map Token.char) t ↔
      word.map Char.toLower <:+ t.map Char.toLower := by
  rw [List.suffix_map_iff]
  apply exists_congr
  intro rest
  rw [spells_letters_iff, SameLetters, eq_comm]
  rfl

/-- The built-in patterns, ready to match. -/
def builtin : GatedDocuments :=
  ⟨[⟨.anySequence :: ".spec.md".toList.map .char⟩, ⟨.anySequence :: ".prd.md".toList.map .char⟩,
    ⟨"prd.md".toList.map .char⟩]⟩

theorem compile_defaultDocuments : compile defaultDocuments = .ok builtin := rfl

/-- The base name with its ASCII letters in lowercase. -/
def lowerName (path : List Char) : List Char := (baseName path).map Char.toLower

theorem contains_builtin_iff (path : List Char) :
    builtin.contains path = true ↔ ".spec.md".toList <:+ lowerName path ∨
      ".prd.md".toList <:+ lowerName path ∨ lowerName path = "prd.md".toList := by
  have hspec : ".spec.md".toList.map Char.toLower = ".spec.md".toList := by decide
  have hprd : ".prd.md".toList.map Char.toLower = ".prd.md".toList := by decide
  have hname : "prd.md".toList.map Char.toLower = "prd.md".toList := by decide
  simp only [contains, builtin, List.any_cons, List.any_nil, Bool.or_eq_true, Pattern.accepts_iff,
    spells_ending_iff, spells_letters_iff, SameLetters, hspec, hprd, hname, Bool.false_eq_true,
    or_false]
  rfl

/-! ## Patterns in another case -/

theorem compile_of_sameLetters {documents documents' : List String} {gated : GatedDocuments}
    (hplain : ∀ d ∈ documents, '[' ∉ d.toList)
    (hletters : List.Forall₂ (fun d d' => SameLetters d.toList d'.toList) documents documents')
    (h : compile documents = .ok gated) : ∃ gated', compile documents' = .ok gated' ∧
      ∀ path path', SameLetters path path' → gated.contains path = gated'.contains path' := by
  induction hletters generalizing gated with
  | nil =>
    obtain rfl : (⟨[]⟩ : GatedDocuments) = gated := Except.ok.inj h
    exact ⟨⟨[]⟩, rfl, fun path path' _ => rfl⟩
  | cons hd _ ih =>
    obtain ⟨hhere, hthere⟩ := List.forall_mem_cons.1 hplain
    obtain ⟨pattern, rest, hpattern, hrest, rfl⟩ := compile_cons_eq_ok_iff.1 h
    obtain ⟨pattern', hpattern', haccepts⟩ := Pattern.accepts_of_sameLetters hhere hd hpattern
    obtain ⟨rest', hrest', hcontains⟩ := ih hthere hrest
    refine ⟨_, compile_cons_eq_ok_iff.2 ⟨pattern', rest', hpattern', hrest', rfl⟩, ?_⟩
    intro path path' hpath
    have hmore := hcontains path path' hpath
    rw [contains, contains] at hmore ⊢
    rw [List.any_cons, List.any_cons, haccepts _ _ (sameLetters_baseName hpath), hmore]

/-! ## Main statement -/

/-- What follows the last separator of a path decides whether it is gated. The built-in patterns
gate the names that end in `.spec.md` or `.prd.md` or are `prd.md`, in any letter case; patterns
without character sets gate the same files whatever the case of the letters of both. -/
theorem gated_by_base_name :
    (∀ path, ∃ directory, IsDirectory directory ∧ path = directory ++ baseName path ∧
      ∀ c ∈ baseName path, isSeparator c = false) ∧
    (∃ gated, compile defaultDocuments = .ok gated ∧ ∀ path, gated.contains path = true ↔
      ".spec.md".toList <:+ lowerName path ∨ ".prd.md".toList <:+ lowerName path ∨
        lowerName path = "prd.md".toList) ∧
    (∀ (gated : GatedDocuments) directory path, IsDirectory directory →
      gated.contains (directory ++ path) = gated.contains path) ∧
    ∀ documents documents' gated, (∀ d ∈ documents, '[' ∉ d.toList) →
      List.Forall₂ (fun d d' => SameLetters d.toList d'.toList) documents documents' →
      compile documents = .ok gated → ∃ gated', compile documents' = .ok gated' ∧
        ∀ path path', SameLetters path path' → gated.contains path = gated'.contains path' := by
  refine ⟨exists_directory, ⟨builtin, compile_defaultDocuments, contains_builtin_iff⟩, ?_, ?_⟩
  · intro gated directory path h
    rw [contains, contains, baseName_append h]
  · intro documents documents' gated hplain hletters h
    exact compile_of_sameLetters hplain hletters h

theorem gated_by_base_name_payment :
    builtin.contains "C:\\docs\\Payment.SPEC.MD".toList = true ∧
      (∃ gated, compile ["*.SPEC.md", "*.PRD.md", "Prd.md"] = .ok gated ∧
        gated.contains "c:\\DOCS\\payment.spec.md".toList = true) ∧
      builtin.contains "checkout.spec.md/notes.txt".toList = false := by
  obtain ⟨-, -, hdirectory, hletters⟩ := gated_by_base_name
  have hpayment : builtin.contains "C:\\docs\\Payment.SPEC.MD".toList = true := by
    have hdocs : IsDirectory "C:\\docs\\".toList := by
      intro c hc
      obtain rfl : '\\' = c := by simpa using hc
      rfl
    have hname : builtin.contains "Payment.SPEC.MD".toList = true := by decide +kernel
    exact (hdirectory builtin _ _ hdocs).trans hname
  have hnotes : builtin.contains "checkout.spec.md/notes.txt".toList = false := by
    have hfolder : IsDirectory "checkout.spec.md/".toList := by
      intro c hc
      obtain rfl : '/' = c := by simpa using hc
      rfl
    have hname : builtin.contains "notes.txt".toList = false := by decide +kernel
    exact (hdirectory builtin _ _ hfolder).trans hname
  have hplain : ∀ d ∈ defaultDocuments, '[' ∉ d.toList := by decide
  have hrecased : List.Forall₂ (fun d d' : String => SameLetters d.toList d'.toList)
      defaultDocuments ["*.SPEC.md", "*.PRD.md", "Prd.md"] :=
    .cons (by decide) (.cons (by decide) (.cons (by decide) .nil))
  obtain ⟨gated, hgated, hsame⟩ := hletters _ _ _ hplain hrecased compile_defaultDocuments
  exact ⟨hpayment, ⟨gated, hgated, (hsame _ _ (by decide)).symm.trans hpayment⟩, hnotes⟩

end EditGuard.Review.GatedDocuments
