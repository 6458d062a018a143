import EditGuard.Proofs.Layers.Exactness
import EditGuard.Proofs.Layers.LetterCase
import EditGuard.Proofs.Layers.Placement
import EditGuard.Proofs.Text.Locations
import EditGuard.Proofs.Text.Lowercase

/-! # Fragments that are there

A rule is meant to match where one of its fragments stands in a path or a token, and so it does
where the fragment stands as it is written and takes the same form in lowercase there as on its own.
A fragment that depends on its place for the form of a capital sigma is missed in some places where
it stands; every other one is found wherever it does.
-/

namespace EditGuard.Layers

open Text

/-! ## Rules in the order they are tried -/

def PathRule.Lists (rule : PathRule) (path : List Char) : Prop :=
  ∃ listed ∈ rule.extensions,
    extension? (normalisePath path) = some (lowercase (listed.toList.dropWhile (· = '.')))

instance (rule : PathRule) (path : List Char) : Decidable (rule.Lists path) :=
  inferInstanceAs (Decidable (∃ listed ∈ rule.extensions, _ = _))

theorem PathRule.Lists.fits {rule : PathRule} {path : List Char} (h : rule.Lists path)
    {fragment : String} (hmem : fragment ∈ rule.fragments)
    (hfound : lowercaseText fragment <:+: normalisePath path) : rule.Fits path :=
  ⟨h, Or.inr ⟨fragment, hmem, hfound⟩⟩

theorem find?_passing {α : Type} {p : α → Bool} {x : α} (hx : p x = true) (above below : List α) :
    ∃ found ∈ above ++ [x], (above ++ x :: below).find? p = some found := by
  have hsome : ((above ++ [x]).find? p).isSome = true :=
    List.find?_isSome.2 ⟨x, by simp, hx⟩
  obtain ⟨found, hfound⟩ := Option.isSome_iff_exists.1 hsome
  refine ⟨found, List.mem_of_find?_eq_some hfound, ?_⟩
  rw [List.append_cons, List.find?_append, hfound, Option.some_or]

namespace Rulesets

def pathRules (r : Rulesets) : List (String × PathRule) :=
  r.ordered.flatMap fun e => e.paths.map (Prod.mk e.name)

theorem place?_eq_find? (r : Rulesets) (path : List Char) :
    (Resolver.ofRulesets r).place? path =
      (r.pathRules.find? (·.2.Fits path)).map fun found => ⟨found.1, found.2.layer⟩ := by
  have hwalk : (fun e : Ecosystem => e.placeFor? path) = fun e =>
      ((e.paths.map (Prod.mk e.name)).find? (·.2.Fits path)).map fun found =>
        ⟨found.1, found.2.layer⟩ := by
    funext e
    rw [List.find?_map, Option.map_map, Ecosystem.placeFor?, Ecosystem.layerFor?, Option.map_map]
    rfl
  rw [place?_eq_findSome?, pathRules, List.find?_flatMap, List.map_findSome?, hwalk]
  rfl

/-- A rule that fits a path leaves it to no rule behind. -/
theorem place?_of_fits {r : Rulesets} {above below : List (String × PathRule)} {name : String}
    {rule : PathRule} (hrules : r.pathRules = above ++ (name, rule) :: below) {path : List Char}
    (hfits : rule.Fits path) : ∃ found ∈ above ++ [(name, rule)],
      (Resolver.ofRulesets r).place? path = some ⟨found.1, found.2.layer⟩ := by
  obtain ⟨found, hmem, hfound⟩ :=
    find?_passing (p := fun entry : String × PathRule => decide (entry.2.Fits path))
      (x := (name, rule)) (decide_eq_true hfits) above below
  refine ⟨found, hmem, ?_⟩
  rw [place?_eq_find?, hrules, hfound, Option.map_some]

theorem Consistent.importLayer?_of_fits {r : Rulesets} (h : r.Consistent) {e : Ecosystem}
    (he : e ∈ r.ecosystems) {above below : List ImportRule} {rule : ImportRule}
    (hrules : e.imports = above ++ rule :: below) {token : List Char} (hfits : rule.Fits token) :
    ∃ found ∈ above ++ [rule],
      (Resolver.ofRulesets r).importLayer? e.name token = some found.layer := by
  obtain ⟨found, hmem, hfound⟩ :=
    find?_passing (p := fun rule : ImportRule => decide (rule.Fits token))
      (decide_eq_true hfits) above below
  refine ⟨found, hmem, ?_⟩
  rw [h.importLayer?_eq he, hrules, hfound, Option.map_some]

end Rulesets

/-! ## Fragments found wherever they stand -/

/-- A rule with the fragment fits every path in which the fragment stands and whose extension it
lists, and the path has a place by that rule or by one before it. -/
def PlacesLiterally (fragment : String) : Prop :=
  ∀ (r : Rulesets) (above below : List (String × PathRule)) (name : String) (rule : PathRule),
    r.pathRules = above ++ (name, rule) :: below → fragment ∈ rule.fragments →
    ∀ path, rule.Lists path → fragment.toList <:+: withSlashes path →
      rule.Fits path ∧ ∃ found ∈ above ++ [(name, rule)],
        (Resolver.ofRulesets r).place? path = some ⟨found.1, found.2.layer⟩

/-- A token in which the fragment stands has a layer by the rule with the fragment or by one before
it. -/
def InfersLiterally (fragment : String) : Prop :=
  ∀ r : Rulesets, r.validate = .ok () → ∀ e ∈ r.ecosystems,
    ∀ (above below : List ImportRule) (rule : ImportRule),
      e.imports = above ++ rule :: below → fragment ∈ rule.fragments →
      ∀ token, fragment.toList <:+: token → ∃ found ∈ above ++ [rule],
        (Resolver.ofRulesets r).importLayer? e.name token = some found.layer

theorem backslash_not_mem_withSlashes (path : List Char) : '\\' ∉ withSlashes path := by
  intro hmem
  obtain ⟨c, -, hc⟩ := List.mem_map.1 hmem
  by_cases hslash : c = '\\'
  · rw [if_pos hslash] at hc
    cases hc
  · rw [if_neg hslash] at hc
    exact hslash hc

theorem withSlashes_of_not_mem {path : List Char} (h : '\\' ∉ path) : withSlashes path = path := by
  have hsame : path.map (fun c => if c = '\\' then '/' else c) = path.map id := by
    apply List.map_congr_left
    intro c hc
    have hne : c ≠ '\\' := by
      intro heq
      rw [heq] at hc
      exact h hc
    rw [if_neg hne, id]
  rw [withSlashes, hsame, List.map_id]

theorem extension?_of_suffix {path : List Char} (h : "/a.x".toList <:+ path) :
    extension? path = some "x".toList := by
  obtain ⟨front, rfl⟩ := h
  have hname : afterLast (· = '/') (front ++ "/a.x".toList) = "a.x".toList :=
    afterLast_append_mark rfl front "a.x".toList
  rw [extension?, hname]
  rfl

/-! ## Rulesets of one fragment -/

namespace Rulesets

variable {extension fragment : String}

theorem validate_streets : (streets extension fragment).validate = .ok () := rfl

theorem pathRules_streets : (streets extension fragment).pathRules =
    [("streets", ⟨[extension], [fragment], "Street"⟩)] := rfl

theorem isInfix_of_fits {layer : String} {path : List Char}
    (h : PathRule.Fits ⟨[extension], [fragment], layer⟩ path) :
    lowercaseText fragment <:+: normalisePath path := by
  rcases h.2 with hnone | ⟨other, hmem, hfound⟩
  · cases hnone
  · rw [List.mem_singleton.1 hmem] at hfound
    exact hfound

theorem isInfix_of_importLayer?_streets {token : List Char} {layer : String}
    (h : (Resolver.ofRulesets (streets extension fragment)).importLayer? "streets" token =
      some layer) : lowercaseText fragment <:+: lowercase token := by
  have hconsistent : (streets extension fragment).Consistent :=
    (validate_eq_ok_iff _).1 validate_streets
  have hrule := hconsistent.importLayer?_eq
    (List.mem_singleton_self (street extension fragment)) token
  obtain ⟨rule, hfound, -⟩ := Option.map_eq_some_iff.1 (hrule.symm.trans h)
  have hrulefits : rule.Fits token := by simpa using List.find?_some hfound
  obtain ⟨other, hother, hfits⟩ := hrulefits
  rw [List.mem_singleton.1 (List.mem_of_find?_eq_some hfound)] at hother
  rw [List.mem_singleton.1 hother] at hfits
  exact hfits

end Rulesets

/-! ## Main statement -/

theorem placesLiterally_iff (fragment : String) :
    PlacesLiterally fragment ↔ Steady fragment.toList ∨ '\\' ∈ fragment.toList := by
  constructor
  · intro hplaces
    by_contra hother
    obtain ⟨hopen, hslash⟩ := not_or.1 hother
    obtain ⟨before, after, hplain, hsuffix, hlost⟩ := exists_lost_of_not_steady hopen
    have hpath : withSlashes (before ++ fragment.toList ++ after) =
        before ++ fragment.toList ++ after := by
      apply withSlashes_of_not_mem
      rw [List.mem_append] at hplain
      simp only [List.mem_append]
      rintro ((hmem | hmem) | hmem)
      · exact hplain (Or.inl hmem)
      · exact hslash hmem
      · exact hplain (Or.inr hmem)
    rw [← hpath] at hsuffix hlost
    have hlists : PathRule.Lists ⟨["x"], [fragment], "Street"⟩
        (before ++ fragment.toList ++ after) :=
      ⟨"x", List.mem_singleton_self _, extension?_of_suffix hsuffix⟩
    have hfits := (hplaces (.streets "x" fragment) [] [] "streets" _ Rulesets.pathRules_streets
      (List.mem_singleton_self _) _ hlists (by rw [hpath]; exact List.infix_append _ _ _)).1
    exact hlost (Rulesets.isInfix_of_fits hfits)
  · intro h r above below name rule hrules hmem path hlists hpart
    have hfits : rule.Fits path := by
      rcases h with hsteady | hslash
      · exact hlists.fits hmem (hsteady.isInfix_lowercase hpart)
      · exact absurd (hpart.subset hslash) (backslash_not_mem_withSlashes path)
    exact ⟨hfits, Rulesets.place?_of_fits hrules hfits⟩

theorem infersLiterally_iff (fragment : String) :
    InfersLiterally fragment ↔ Steady fragment.toList := by
  constructor
  · intro hinfers
    by_contra hopen
    obtain ⟨before, after, -, -, hlost⟩ := exists_lost_of_not_steady hopen
    obtain ⟨found, -, hlayer⟩ := hinfers (.streets "x" fragment) Rulesets.validate_streets
      (Rulesets.street "x" fragment) (List.mem_singleton_self _) [] [] _ rfl
      (List.mem_singleton_self _) (before ++ fragment.toList ++ after) (List.infix_append _ _ _)
    exact hlost (Rulesets.isInfix_of_importLayer?_streets hlayer)
  · intro hsteady r hvalid e he above below rule hrules hmem token hpart
    have hconsistent := (Rulesets.validate_eq_ok_iff r).1 hvalid
    have hfits : rule.Fits token := ⟨fragment, hmem, hsteady.isInfix_lowercase hpart⟩
    exact hconsistent.importLayer?_of_fits he hrules hfits

/-- A fragment is found wherever it stands just when its capital sigmas have their forms from the
fragment itself, and in any case where it is lowercased as it is on its own. One with a backslash
stands in no path, as paths are matched with slashes. -/
theorem literal_fragments_match_iff (fragment : String) :
    (PlacesLiterally fragment ↔ Steady fragment.toList ∨ '\\' ∈ fragment.toList) ∧
    (InfersLiterally fragment ↔ Steady fragment.toList) ∧
    ∀ before after, LowersAlike before after fragment.toList →
      (∀ (rule : PathRule) path, fragment ∈ rule.fragments → rule.Lists path →
        withSlashes path = before ++ fragment.toList ++ after → rule.Fits path) ∧
      ∀ rule : ImportRule, fragment ∈ rule.fragments →
        rule.Fits (before ++ fragment.toList ++ after) := by
  refine ⟨placesLiterally_iff fragment, infersLiterally_iff fragment, ?_⟩
  intro before after halike
  constructor
  · intro rule path hmem hlists hpath
    apply hlists.fits hmem
    rw [normalisePath_eq, hpath]
    exact halike.isInfix_lowercase
  · intro rule hmem
    exact ⟨fragment, hmem, halike.isInfix_lowercase⟩

/-- With the separators in the fragment its last sigma is at the end of a word in every place. -/
theorem literal_fragments_match_iff_separated :
    Steady "/ΟΔΟΣ/".toList ∧ PlacesLiterally "/ΟΔΟΣ/" ∧ InfersLiterally "/ΟΔΟΣ/" ∧
    (Resolver.ofRulesets (.streets "java" "/ΟΔΟΣ/")).place? "src\\ΟΔΟΣ\\Map.java".toList =
      some ⟨"streets", "Street"⟩ := by
  have hsteady : Steady "/ΟΔΟΣ/".toList := by decide +kernel
  have hlists : PathRule.Lists ⟨["java"], ["/ΟΔΟΣ/"], "Street"⟩ "src\\ΟΔΟΣ\\Map.java".toList := by
    decide +kernel
  have hpath : "/ΟΔΟΣ/".toList <:+: withSlashes "src\\ΟΔΟΣ\\Map.java".toList := by decide +kernel
  obtain ⟨hplaces, hinfers, -⟩ := literal_fragments_match_iff "/ΟΔΟΣ/"
  have hliteral : PlacesLiterally "/ΟΔΟΣ/" := hplaces.2 (Or.inl hsteady)
  obtain ⟨-, found, hmem, hplace⟩ := hliteral (.streets "java" "/ΟΔΟΣ/") [] [] "streets" _
    Rulesets.pathRules_streets (List.mem_singleton_self _) _ hlists hpath
  rw [List.mem_singleton.1 hmem] at hplace
  exact ⟨hsteady, hliteral, hinfers.2 hsteady, hplace⟩

/-- The fragment stands in the path and in the token, with one more letter behind it, and neither
gets a layer. -/
theorem literal_fragment_missed :
    (Rulesets.streets "java" "ΟΔΟΣ").validate = .ok () ∧
    PathRule.Lists ⟨["java"], ["ΟΔΟΣ"], "Street"⟩ "src/ΟΔΟΣΑ/Map.java".toList ∧
    "ΟΔΟΣ".toList <:+: withSlashes "src/ΟΔΟΣΑ/Map.java".toList ∧
    (Resolver.ofRulesets (.streets "java" "ΟΔΟΣ")).place? "src/ΟΔΟΣΑ/Map.java".toList = none ∧
    "ΟΔΟΣ".toList <:+: "gr.ΟΔΟΣΑ.Map".toList ∧
    (Resolver.ofRulesets (.streets "java" "ΟΔΟΣ")).importLayer? "streets"
      "gr.ΟΔΟΣΑ.Map".toList = none ∧
    ¬ PlacesLiterally "ΟΔΟΣ" ∧ ¬ InfersLiterally "ΟΔΟΣ" := by
  have hlists : PathRule.Lists ⟨["java"], ["ΟΔΟΣ"], "Street"⟩ "src/ΟΔΟΣΑ/Map.java".toList := by
    decide +kernel
  have hpath : "ΟΔΟΣ".toList <:+: withSlashes "src/ΟΔΟΣΑ/Map.java".toList := by
    decide +kernel
  have hplace : (Resolver.ofRulesets (.streets "java" "ΟΔΟΣ")).place?
      "src/ΟΔΟΣΑ/Map.java".toList = none := by decide +kernel
  have htoken : "ΟΔΟΣ".toList <:+: "gr.ΟΔΟΣΑ.Map".toList := by decide +kernel
  have hlayer : (Resolver.ofRulesets (.streets "java" "ΟΔΟΣ")).importLayer? "streets"
      "gr.ΟΔΟΣΑ.Map".toList = none := by decide +kernel
  refine ⟨Rulesets.validate_streets, hlists, hpath, hplace, htoken, hlayer, ?_, ?_⟩
  · intro hplaces
    obtain ⟨-, found, -, hfound⟩ := hplaces (.streets "java" "ΟΔΟΣ") [] [] "streets" _
      Rulesets.pathRules_streets (List.mem_singleton_self _) _ hlists hpath
    cases hplace.symm.trans hfound
  · intro hinfers
    obtain ⟨found, -, hfound⟩ := hinfers (.streets "java" "ΟΔΟΣ") Rulesets.validate_streets
      (Rulesets.street "java" "ΟΔΟΣ") (List.mem_singleton_self _) [] [] _ rfl
      (List.mem_singleton_self _) _ htoken
    cases hlayer.symm.trans hfound

/-! ## The built-in rules -/

/-- The fragments of the built-in rules are found wherever they stand. -/
theorem builtin_fragments_steady : ∀ e ∈ Builtin.rulesets.ecosystems,
    (∀ rule ∈ e.paths, ∀ fragment ∈ rule.fragments, Steady fragment.toList) ∧
    ∀ rule ∈ e.imports, ∀ fragment ∈ rule.fragments, Steady fragment.toList := by
  have hplain : ∀ e ∈ Builtin.rulesets.ecosystems,
      (∀ rule ∈ e.paths, ∀ fragment ∈ rule.fragments, 'Σ' ∉ fragment.toList) ∧
      ∀ rule ∈ e.imports, ∀ fragment ∈ rule.fragments, 'Σ' ∉ fragment.toList := by decide +kernel
  intro e he
  obtain ⟨hpaths, himports⟩ := hplain e he
  exact ⟨fun rule hrule fragment hmem => steady_of_not_mem (hpaths rule hrule fragment hmem),
    fun rule hrule fragment hmem => steady_of_not_mem (himports rule hrule fragment hmem)⟩

end EditGuard.Layers
