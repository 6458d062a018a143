import EditGuard.Layers.Builtin
import EditGuard.Layers.Resolver
import EditGuard.Proofs.Layers.Consistency

/-! # Places by priority

The resolver looks for one rule in the joined list of all path rules. What it finds is what a walk
over the ecosystems finds that stops at the first with a layer of its own for the path. So a
priority decides between ecosystems that both want a file, and nothing else.
-/

namespace EditGuard.Layers

open Text

/-! ## Path rules as written -/

def PathRule.Fits (rule : PathRule) (path : List Char) : Prop :=
  (∃ listed ∈ rule.extensions,
    extension? (normalisePath path) = some (lowercase (listed.toList.dropWhile (· = '.')))) ∧
  (rule.fragments = [] ∨
    ∃ fragment ∈ rule.fragments, lowercaseText fragment <:+: normalisePath path)

instance PathRule.decidableFits (rule : PathRule) (path : List Char) : Decidable (rule.Fits path) :=
  inferInstanceAs (Decidable (_ ∧ _))

/-- The layer that an ecosystem has for a path, by the first of its rules that fits. -/
def Ecosystem.layerFor? (e : Ecosystem) (path : List Char) : Option String :=
  (e.paths.find? (·.Fits path)).map (·.layer)

def Ecosystem.placeFor? (e : Ecosystem) (path : List Char) : Option Place :=
  (e.layerFor? path).map (Place.mk e.name)

theorem PathMatcher.accepts_ofRule (name : String) (rule : PathRule) {path extension : List Char}
    (h : extension? (normalisePath path) = some extension) :
    (PathMatcher.ofRule name rule).accepts (normalisePath path) extension =
      decide (rule.Fits path) := by
  have hlisted : (PathMatcher.ofRule name rule).extensions.contains extension = true ↔
      ∃ listed ∈ rule.extensions,
        some extension = some (lowercase (listed.toList.dropWhile (· = '.'))) := by
    simp [PathMatcher.ofRule, eq_comm]
  have hfragments : ((PathMatcher.ofRule name rule).fragments.isEmpty ||
      (PathMatcher.ofRule name rule).fragments.any (occursIn · (normalisePath path))) = true ↔
      rule.fragments = [] ∨
        ∃ fragment ∈ rule.fragments, lowercaseText fragment <:+: normalisePath path := by
    simp [PathMatcher.ofRule, occursIn_iff]
  rw [Bool.eq_iff_iff, decide_eq_true_eq, PathRule.Fits, h, ← hlisted, ← hfragments,
    PathMatcher.accepts, Bool.and_eq_true]

theorem PathRule.not_fits_of_extension?_eq_none (rule : PathRule) {path : List Char}
    (h : extension? (normalisePath path) = none) : ¬ rule.Fits path := by
  intro hfits
  obtain ⟨⟨listed, -, hlisted⟩, -⟩ := hfits
  rw [h] at hlisted
  cases hlisted

theorem Ecosystem.layerFor?_of_extension?_eq_none (e : Ecosystem) {path : List Char}
    (h : extension? (normalisePath path) = none) : e.layerFor? path = none := by
  have hnone : e.paths.find? (fun rule => decide (rule.Fits path)) = none := by
    rw [List.find?_eq_none]
    intro rule _
    simpa using rule.not_fits_of_extension?_eq_none h
  rw [layerFor?, hnone]
  rfl

/-! ## The walk -/

namespace Rulesets

/-- What the rules of one ecosystem find in the list of all rules. -/
theorem find?_matchers (e : Ecosystem) {path extension : List Char}
    (h : extension? (normalisePath path) = some extension) :
    ((e.paths.map (PathMatcher.ofRule e.name)).find?
        (·.accepts (normalisePath path) extension)).map (·.place) = e.placeFor? path := by
  rw [List.find?_map, Option.map_map, Ecosystem.placeFor?, Ecosystem.layerFor?, Option.map_map]
  simp only [Function.comp_def, PathMatcher.accepts_ofRule _ _ h]
  rfl

/-- The joined list is the walk. -/
theorem place?_eq_findSome? (r : Rulesets) (path : List Char) :
    (Resolver.ofRulesets r).place? path = r.ordered.findSome? (·.placeFor? path) := by
  unfold Resolver.place?
  dsimp only
  cases hextension : extension? (normalisePath path) with
  | none =>
    symm
    rw [List.findSome?_eq_none_iff]
    intro e _
    rw [Ecosystem.placeFor?, e.layerFor?_of_extension?_eq_none hextension]
    rfl
  | some extension =>
    have hwalk : (fun e : Ecosystem => e.placeFor? path) = fun e =>
        ((e.paths.map (PathMatcher.ofRule e.name)).find?
          (·.accepts (normalisePath path) extension)).map (·.place) :=
      funext fun e => (find?_matchers e hextension).symm
    rw [hwalk]
    simp only [Resolver.ofRulesets, List.find?_flatMap, List.map_findSome?]
    rfl

variable {r r' : Rulesets}

/-- What stands first in the walk is a place in one of the ecosystems. -/
theorem Consistent.exists_placeFor? (h : r.Consistent) {path : List Char} {place : Place}
    (hplace : (Resolver.ofRulesets r).place? path = some place) :
    ∃ e ∈ r.ecosystems, e.placeFor? path = some place := by
  rw [place?_eq_findSome?] at hplace
  obtain ⟨e, he, hfound⟩ := List.exists_of_findSome?_eq_some hplace
  exact ⟨e, h.mem_ordered.1 he, hfound⟩

/-- A path is placed when some ecosystem has a layer for it, whatever the priority. -/
theorem Consistent.isSome_place?_iff (h : r.Consistent) (path : List Char) :
    ((Resolver.ofRulesets r).place? path).isSome = true ↔
      ∃ e ∈ r.ecosystems, (e.layerFor? path).isSome = true := by
  rw [place?_eq_findSome?, List.findSome?_isSome_iff]
  simp only [h.mem_ordered, Ecosystem.placeFor?, Option.isSome_map]

theorem ecosystem_of_placeFor? {e : Ecosystem} {path : List Char} {place : Place}
    (h : e.placeFor? path = some place) : place.ecosystem = e.name := by
  obtain ⟨layer, -, rfl⟩ := Option.map_eq_some_iff.1 h
  rfl

theorem isSome_layerFor? {e : Ecosystem} {path : List Char} {place : Place}
    (h : e.placeFor? path = some place) : (e.layerFor? path).isSome = true := by
  obtain ⟨layer, hlayer, -⟩ := Option.map_eq_some_iff.1 h
  rw [hlayer]
  rfl

theorem Consistent.place_unique (h : r.Consistent) {e e' : Ecosystem} (he : e ∈ r.ecosystems)
    (he' : e' ∈ r.ecosystems) {path : List Char} {place place' : Place}
    (hplace : e.placeFor? path = some place) (hplace' : e'.placeFor? path = some place')
    (hname : place.ecosystem = place'.ecosystem) : place = place' := by
  rw [ecosystem_of_placeFor? hplace, ecosystem_of_placeFor? hplace'] at hname
  have hsame : e = e' := by
    have hfound := h.ecosystem?_eq he
    rw [hname, h.ecosystem?_eq he'] at hfound
    exact (Option.some.inj hfound).symm
  rw [hsame, hplace'] at hplace
  exact (Option.some.inj hplace).symm

/-- A file goes to the first ecosystem, by the order of the rulesets, that has a layer for it. The
same ecosystems in another order, with any other priority, place the same files; they place a file
differently only if several ecosystems have a layer for it, and never in another layer of the same
ecosystem. -/
theorem placed_by_priority (r r' : Rulesets) (path : List Char) (h : r.validate = .ok ())
    (h' : r'.validate = .ok ()) (hsame : ∀ e, e ∈ r'.ecosystems ↔ e ∈ r.ecosystems) :
    (Resolver.ofRulesets r).place? path = r.ordered.findSome? (·.placeFor? path) ∧
    (((Resolver.ofRulesets r).place? path).isSome = true ↔
      ((Resolver.ofRulesets r').place? path).isSome = true) ∧
    ((∀ e₁ ∈ r.ecosystems, ∀ e₂ ∈ r.ecosystems, (e₁.layerFor? path).isSome = true →
        (e₂.layerFor? path).isSome = true → e₁ = e₂) →
      (Resolver.ofRulesets r).place? path = (Resolver.ofRulesets r').place? path) ∧
    ∀ place place', (Resolver.ofRulesets r).place? path = some place →
      (Resolver.ofRulesets r').place? path = some place' →
      place.ecosystem = place'.ecosystem → place.layer = place'.layer := by
  have hr := (validate_eq_ok_iff r).1 h
  have hr' := (validate_eq_ok_iff r').1 h'
  have hplaced : ((Resolver.ofRulesets r).place? path).isSome = true ↔
      ((Resolver.ofRulesets r').place? path).isSome = true := by
    simp only [hr.isSome_place?_iff, hr'.isSome_place?_iff, hsame]
  refine ⟨place?_eq_findSome? r path, hplaced, ?_, ?_⟩
  · intro honly
    cases hplace : (Resolver.ofRulesets r).place? path with
    | none =>
      rw [hplace] at hplaced
      cases hplace' : (Resolver.ofRulesets r').place? path with
      | none => rfl
      | some place' =>
        rw [hplace'] at hplaced
        cases hplaced.2 rfl
    | some place =>
      rw [hplace] at hplaced
      obtain ⟨place', hplace'⟩ := Option.isSome_iff_exists.1 (hplaced.1 rfl)
      obtain ⟨e, he, hfound⟩ := hr.exists_placeFor? hplace
      obtain ⟨e', he', hfound'⟩ := hr'.exists_placeFor? hplace'
      have heq := honly e he e' ((hsame e').1 he') (isSome_layerFor? hfound)
        (isSome_layerFor? hfound')
      rw [heq, hfound'] at hfound
      rw [hplace', hfound]
  · intro place place' hplace hplace' hname
    obtain ⟨e, he, hfound⟩ := hr.exists_placeFor? hplace
    obtain ⟨e', he', hfound'⟩ := hr'.exists_placeFor? hplace'
    rw [hr.place_unique he ((hsame e').1 he') hfound hfound' hname]

/-- The built-in rulesets, but the ecosystem of a language comes before that of a framework. -/
def genericFirst : Rulesets :=
  { Builtin.rulesets with priority := ["typescript", "vue"] }

/-- Two ecosystems have a layer for the file, and each priority has its own choice. -/
theorem placed_by_priority_generic :
    (Resolver.ofRulesets Builtin.rulesets).place? "src/service/user.ts".toList =
        some ⟨"vue", "Service"⟩ ∧
      (Resolver.ofRulesets genericFirst).place? "src/service/user.ts".toList =
        some ⟨"typescript", "Service"⟩ ∧
      (((Resolver.ofRulesets Builtin.rulesets).place? "src/service/user.ts".toList).isSome = true ↔
        ((Resolver.ofRulesets genericFirst).place?
          "src/service/user.ts".toList).isSome = true) := by
  have hgeneric : genericFirst.validate = .ok () := by decide +kernel
  have hplaced := placed_by_priority Builtin.rulesets genericFirst "src/service/user.ts".toList
    Builtin.validate_rulesets hgeneric fun _ => Iff.rfl
  exact ⟨by decide +kernel, by decide +kernel, hplaced.2.1⟩

end Rulesets

end EditGuard.Layers
