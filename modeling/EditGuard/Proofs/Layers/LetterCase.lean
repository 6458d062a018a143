import EditGuard.Layers.Builtin
import EditGuard.Layers.Resolver
import EditGuard.Proofs.Text.Lowercase
import Mathlib.Data.List.Forall2

/-! # Matching without letter case

Paths are matched after their separators and letters are made alike, and tokens after their letters
are, so what differs in no more than that has the same place and comes from the same layer. Rules
are made alike too before they are kept: rulesets that differ only in the letters of their
extensions and fragments, or in dots before extensions, have one resolver.
-/

namespace EditGuard.Layers

open Text

def withSlashes (path : List Char) : List Char := path.map fun c => if c = '\\' then '/' else c

theorem normalisePath_eq (path : List Char) : normalisePath path = lowercase (withSlashes path) :=
  rfl

/-! ## Rulesets written in other cases -/

/-- The extension with so many dots before it, perhaps, and in other cases. -/
def RecasedExtension (extension extension' : String) : Prop :=
  ∃ dots, SameLetters (List.replicate dots '.' ++ extension.toList) extension'.toList

structure PathRule.Recased (rule rule' : PathRule) : Prop where
  extensions : List.Forall₂ RecasedExtension rule.extensions rule'.extensions
  fragments : List.Forall₂ (fun s s' => SameLetters s.toList s'.toList)
    rule.fragments rule'.fragments
  layer : rule.layer = rule'.layer

structure ImportRule.Recased (rule rule' : ImportRule) : Prop where
  fragments : List.Forall₂ (fun s s' => SameLetters s.toList s'.toList)
    rule.fragments rule'.fragments
  layer : rule.layer = rule'.layer

structure Ecosystem.Recased (e e' : Ecosystem) : Prop where
  name : e.name = e'.name
  title : e.title = e'.title
  rule : e.rule = e'.rule
  importSyntax : e.importSyntax = e'.importSyntax
  layers : e.layers = e'.layers
  paths : List.Forall₂ PathRule.Recased e.paths e'.paths
  imports : List.Forall₂ ImportRule.Recased e.imports e'.imports

/-- The second rulesets are the first, but for the case of ASCII letters in extensions and
fragments, and for dots added before extensions. -/
structure Rulesets.Recased (r r' : Rulesets) : Prop where
  priority : r.priority = r'.priority
  ecosystems : List.Forall₂ Ecosystem.Recased r.ecosystems r'.ecosystems

/-! ## One resolver -/

theorem map_eq_map_of_forall₂ {α β γ : Type} {R : α → β → Prop} {f : α → γ} {g : β → γ}
    {xs : List α} {ys : List β} (h : List.Forall₂ R xs ys) (hfg : ∀ x y, R x y → f x = g y) :
    xs.map f = ys.map g := by
  induction h with
  | nil => rfl
  | cons hxy _ ih => rw [List.map_cons, List.map_cons, hfg _ _ hxy, ih]

/-- Dots before an extension are dropped, however many there are. -/
theorem RecasedExtension.lowercase_eq {s s' : String} (h : RecasedExtension s s') :
    lowercase (s.toList.dropWhile (· = '.')) = lowercase (s'.toList.dropWhile (· = '.')) := by
  obtain ⟨dots, hletters⟩ := h
  have hdot : ∀ c : Char, decide (c.toLower = '.') = decide (c = '.') := by
    intro c
    rw [decide_eq_decide]
    exact toLower_eq_iff (by decide) c
  have hdropped : (List.replicate dots '.' ++ s.toList).dropWhile (· = '.') =
      s.toList.dropWhile (· = '.') :=
    List.dropWhile_append_of_pos fun c hc => by simpa using List.eq_of_mem_replicate hc
  have hbehind := SameLetters.dropWhile (p := fun c => decide (c = '.')) hdot hletters
  rw [hdropped] at hbehind
  exact lowercase_congr hbehind

theorem lowercaseText_congr {s s' : String} (h : SameLetters s.toList s'.toList) :
    lowercaseText s = lowercaseText s' :=
  lowercase_congr h

theorem PathRule.Recased.ofRule_eq {rule rule' : PathRule} (h : rule.Recased rule')
    (ecosystem : String) :
    PathMatcher.ofRule ecosystem rule = PathMatcher.ofRule ecosystem rule' := by
  rw [PathMatcher.ofRule, PathMatcher.ofRule, h.layer,
    map_eq_map_of_forall₂ h.extensions fun _ _ => RecasedExtension.lowercase_eq,
    map_eq_map_of_forall₂ h.fragments fun _ _ => lowercaseText_congr]

theorem ImportRule.Recased.ofRule_eq {rule rule' : ImportRule} (h : rule.Recased rule') :
    ImportMatcher.ofRule rule = ImportMatcher.ofRule rule' := by
  rw [ImportMatcher.ofRule, ImportMatcher.ofRule, h.layer,
    map_eq_map_of_forall₂ h.fragments fun _ _ => lowercaseText_congr]

/-- What a resolver keeps of an ecosystem. -/
def Ecosystem.matchers (e : Ecosystem) : String × List PathMatcher × List ImportMatcher :=
  (e.name, e.paths.map (PathMatcher.ofRule e.name), e.imports.map ImportMatcher.ofRule)

theorem Ecosystem.Recased.matchers_eq {e e' : Ecosystem} (h : e.Recased e') :
    e.matchers = e'.matchers := by
  rw [matchers, matchers, h.name,
    map_eq_map_of_forall₂ h.paths fun _ _ hrule => hrule.ofRule_eq e'.name,
    map_eq_map_of_forall₂ h.imports fun _ _ hrule => hrule.ofRule_eq]

namespace Rulesets

/-- The order of the ecosystems is that of what is kept of them, as it goes by their names. -/
theorem map_matchers_ordered (r : Rulesets) :
    r.ordered.map Ecosystem.matchers =
      r.priority.filterMap
          (fun name => (r.ecosystems.map Ecosystem.matchers).find? (·.1 == name)) ++
        (r.ecosystems.map Ecosystem.matchers).filter (!r.priority.contains ·.1) := by
  have hnamed : ∀ name, (r.ecosystem? name).map Ecosystem.matchers =
      (r.ecosystems.map Ecosystem.matchers).find? (·.1 == name) := by
    intro name
    rw [List.find?_map]
    rfl
  rw [ordered, List.map_append, List.map_filterMap, List.filter_map]
  simp only [hnamed]
  rfl

/-- A resolver is made of what is kept of the ecosystems, in their order. -/
theorem ofRulesets_eq (r : Rulesets) : Resolver.ofRulesets r =
    ⟨(r.ordered.map Ecosystem.matchers).flatMap (·.2.1),
      (r.ordered.map Ecosystem.matchers).map fun kept => (kept.1, kept.2.2)⟩ := by
  rw [List.flatMap_map, List.map_map]
  rfl

theorem Recased.ofRulesets_eq {r r' : Rulesets} (h : r.Recased r') :
    Resolver.ofRulesets r = Resolver.ofRulesets r' := by
  have hkept : r.ecosystems.map Ecosystem.matchers = r'.ecosystems.map Ecosystem.matchers :=
    map_eq_map_of_forall₂ h.ecosystems fun _ _ => Ecosystem.Recased.matchers_eq
  rw [Rulesets.ofRulesets_eq, Rulesets.ofRulesets_eq, map_matchers_ordered, map_matchers_ordered,
    h.priority, hkept]

/-! ## Main statement -/

/-- Matching does not see letter case, the kind of separators and dots before extensions, in paths
and tokens as in rules. -/
theorem matching_ignores_case (r : Rulesets) :
    (∀ path path', SameLetters (withSlashes path) (withSlashes path') →
      (Resolver.ofRulesets r).place? path = (Resolver.ofRulesets r).place? path') ∧
    (∀ ecosystem token token', SameLetters token token' →
      (Resolver.ofRulesets r).importLayer? ecosystem token =
        (Resolver.ofRulesets r).importLayer? ecosystem token') ∧
    ∀ r' : Rulesets, r.Recased r' →
      (∀ path, (Resolver.ofRulesets r).place? path = (Resolver.ofRulesets r').place? path) ∧
      ∀ ecosystem token, (Resolver.ofRulesets r).importLayer? ecosystem token =
        (Resolver.ofRulesets r').importLayer? ecosystem token := by
  refine ⟨?_, ?_, ?_⟩
  · intro path path' h
    rw [Resolver.place?, Resolver.place?, normalisePath_eq, normalisePath_eq, lowercase_congr h]
  · intro ecosystem token token' h
    rw [Resolver.importLayer?, Resolver.importLayer?, lowercase_congr h]
  · intro r' h
    rw [h.ofRulesets_eq]
    exact ⟨fun _ => rfl, fun _ _ => rfl⟩

/-- An ecosystem of one layer, with a path rule of one extension and one fragment and an import rule
of that fragment. -/
def street (extension fragment : String) : Ecosystem where
  name := "streets"
  title := "Streets"
  rule := "Streets stand alone"
  importSyntax := .esModule
  layers := [⟨"Street", []⟩]
  paths := [⟨[extension], [fragment], "Street"⟩]
  imports := [⟨[fragment], "Street"⟩]

def streets (extension fragment : String) : Rulesets := ⟨[], [street extension fragment]⟩

theorem streets_recased {extension extension' fragment fragment' : String}
    (he : RecasedExtension extension extension')
    (hf : SameLetters fragment.toList fragment'.toList) :
    (streets extension fragment).Recased (streets extension' fragment') where
  priority := rfl
  ecosystems := .cons
    { name := rfl
      title := rfl
      rule := rfl
      importSyntax := rfl
      layers := rfl
      paths := .cons ⟨.cons he .nil, .cons hf .nil, rfl⟩ .nil
      imports := .cons ⟨.cons hf .nil, rfl⟩ .nil }
    .nil

theorem matching_ignores_case_street :
    (Resolver.ofRulesets (streets "ts" "/οδός street/")).place?
        "C:\\Site\\ΟΔΌΣ Street\\Map.TS".toList = some ⟨"streets", "Street"⟩ ∧
      (Resolver.ofRulesets (streets "ts" "/οδός street/")).place?
        "c:/site/ΟΔΌΣ STREET/map.ts".toList = some ⟨"streets", "Street"⟩ ∧
      (Resolver.ofRulesets (streets "..TS" "/οδός STREET/")).place?
        "c:/site/ΟΔΌΣ STREET/map.ts".toList = some ⟨"streets", "Street"⟩ ∧
      (Resolver.ofRulesets (streets "ts" "/οδός street/")).importLayer? "streets"
        "@/ΟΔΌΣ Street/map".toList = some "Street" ∧
      (Resolver.ofRulesets (streets "ts" "/οδός street/")).importLayer? "streets"
        "@/ΟΔΌΣ STREET/MAP".toList = some "Street" := by
  have hplace : (Resolver.ofRulesets (streets "ts" "/οδός street/")).place?
      "C:\\Site\\ΟΔΌΣ Street\\Map.TS".toList = some ⟨"streets", "Street"⟩ := by decide +kernel
  have hlayer : (Resolver.ofRulesets (streets "ts" "/οδός street/")).importLayer? "streets"
      "@/ΟΔΌΣ Street/map".toList = some "Street" := by decide +kernel
  have hrecased : (streets "ts" "/οδός street/").Recased (streets "..TS" "/οδός STREET/") :=
    streets_recased ⟨2, by decide⟩ (by decide)
  obtain ⟨hpaths, htokens, hrules⟩ := matching_ignores_case (streets "ts" "/οδός street/")
  have hslashed := hpaths "C:\\Site\\ΟΔΌΣ Street\\Map.TS".toList
    "c:/site/ΟΔΌΣ STREET/map.ts".toList (by decide)
  have hloud := (hrules _ hrecased).1 "c:/site/ΟΔΌΣ STREET/map.ts".toList
  have htoken := htokens "streets" "@/ΟΔΌΣ Street/map".toList "@/ΟΔΌΣ STREET/MAP".toList (by decide)
  rw [hplace] at hslashed
  rw [hlayer] at htoken
  exact ⟨hplace, hslashed.symm, hloud.symm.trans hslashed.symm, hlayer, htoken.symm⟩

end Rulesets

end EditGuard.Layers
