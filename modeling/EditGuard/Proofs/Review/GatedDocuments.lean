import EditGuard.Review.Policy
import Mathlib.Data.List.Basic

/-! # Gated documents

Document patterns are of use when each of them can be read, and a file is then gated when one of
them accepts its base name.
-/

namespace EditGuard.Review.GatedDocuments

open Glob

/-- Every pattern can be read. -/
def Readable (documents : List String) : Prop :=
  ∀ d ∈ documents, ∃ pattern, Pattern.parse d.toList = .ok pattern

/-- One of the patterns accepts the base name of the file. -/
def Selects (documents : List String) (path : List Char) : Prop :=
  ∃ d ∈ documents, ∃ pattern, Pattern.parse d.toList = .ok pattern ∧
    pattern.accepts (baseName path) = true

theorem compile_cons_eq_ok_iff {d : String} {documents : List String} {gated : GatedDocuments} :
    compile (d :: documents) = .ok gated ↔ ∃ pattern rest, Pattern.parse d.toList = .ok pattern ∧
      compile documents = .ok rest ∧ gated = ⟨pattern :: rest.patterns⟩ := by
  unfold compile
  rw [List.mapM_cons]
  cases Pattern.parse d.toList with
  | error e => simp [Except.mapError, bind, Except.bind]
  | ok pattern =>
    cases documents.mapM fun d => (Pattern.parse d.toList).mapError (InvalidPattern.mk d) with
    | error e => simp [Except.mapError, bind, Except.bind]
    | ok patterns => simp [Except.mapError, bind, Except.bind, pure, Except.pure, eq_comm]

theorem exists_compile_iff (documents : List String) :
    (∃ gated, compile documents = .ok gated) ↔ Readable documents := by
  induction documents with
  | nil => simp [compile, Readable, bind, Except.bind, pure, Except.pure]
  | cons d documents ih =>
    rw [Readable, List.forall_mem_cons, ← Readable, ← ih]
    constructor
    · intro h
      obtain ⟨gated, hgated⟩ := h
      obtain ⟨pattern, rest, hpattern, hrest, -⟩ := compile_cons_eq_ok_iff.1 hgated
      exact ⟨⟨pattern, hpattern⟩, ⟨rest, hrest⟩⟩
    · intro h
      obtain ⟨⟨pattern, hpattern⟩, ⟨rest, hrest⟩⟩ := h
      exact ⟨_, compile_cons_eq_ok_iff.2 ⟨pattern, rest, hpattern, hrest, rfl⟩⟩

theorem contains_iff {documents : List String} {gated : GatedDocuments}
    (h : compile documents = .ok gated) (path : List Char) :
    gated.contains path = true ↔ Selects documents path := by
  induction documents generalizing gated with
  | nil =>
    obtain rfl : (⟨[]⟩ : GatedDocuments) = gated := Except.ok.inj h
    simp [contains, Selects]
  | cons d documents ih =>
    obtain ⟨pattern, rest, hpattern, hrest, rfl⟩ := compile_cons_eq_ok_iff.1 h
    have hhere : (∃ read, Pattern.parse d.toList = .ok read ∧
        read.accepts (baseName path) = true) ↔ pattern.accepts (baseName path) = true := by
      simp [hpattern]
    rw [Selects, List.exists_mem_cons_iff, ← Selects, ← ih hrest, hhere, contains, List.any_cons,
      Bool.or_eq_true]
    rfl

end EditGuard.Review.GatedDocuments
