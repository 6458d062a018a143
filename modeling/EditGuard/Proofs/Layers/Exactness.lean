import EditGuard.Layers.Builtin
import EditGuard.Layers.Report
import EditGuard.Proofs.Imports.Order
import EditGuard.Proofs.Layers.Consistency

/-! # Reports of consistent rulesets

A report joins its parts by name: the place of the file names an ecosystem and a layer, and the
resolver keeps the import rules by the name of their ecosystem. In consistent rulesets each name
leads back to the one ecosystem and the one layer that it was taken from, so a report says what
the rules as written say of the file.
-/

namespace EditGuard.Layers

open Imports Text

/-! ## Import rules as written -/

/-- One of the fragments stands in the token, whatever the case of their letters. -/
def ImportRule.Fits (rule : ImportRule) (token : List Char) : Prop :=
  ∃ fragment ∈ rule.fragments, lowercaseText fragment <:+: lowercase token

instance (rule : ImportRule) (token : List Char) : Decidable (rule.Fits token) :=
  inferInstanceAs (Decidable (∃ fragment ∈ rule.fragments, _ <:+: _))

/-- The violation that an import of a file in a layer is by the first rule that fits it. -/
def Ecosystem.breach? (e : Ecosystem) (l : Layer) (ref : ImportRef) : Option Violation :=
  match e.imports.find? (·.Fits ref.token) with
  | none => none
  | some rule =>
    if rule.layer = l.name ∨ rule.layer ∈ l.allows then none
    else some ⟨l.name, String.ofList ref.token, rule.layer, e.rule, ref.location⟩

theorem accepts_ofRule (rule : ImportRule) (token : List Char) :
    (ImportMatcher.ofRule rule).accepts (lowercase token) = decide (rule.Fits token) := by
  rw [Bool.eq_iff_iff, decide_eq_true_eq]
  simp only [ImportMatcher.ofRule, ImportMatcher.accepts, List.any_map, List.any_eq_true,
    Function.comp_apply, occursIn_iff]
  rfl

/-! ## What a name leads to -/

theorem lookup_eq_some {β : Type} {key : String} {value : β} {entries : List (String × β)}
    (hm : (key, value) ∈ entries) (hunique : ∀ other, (key, other) ∈ entries → other = value) :
    entries.lookup key = some value := by
  induction entries with
  | nil => cases hm
  | cons entry entries ih =>
    obtain ⟨key', value'⟩ := entry
    rw [List.lookup_cons]
    by_cases hkey : key = key'
    · subst hkey
      have hvalue := hunique value' List.mem_cons_self
      rw [hvalue, beq_self_eq_true]
    · have hb : (key == key') = false := beq_eq_false_iff_ne.2 hkey
      have hrest : (key, value) ∈ entries := by
        rcases List.mem_cons.1 hm with heq | hm
        · exact absurd (Prod.mk.inj heq).1 hkey
        · exact hm
      rw [hb]
      exact ih hrest fun other ho => hunique other (List.mem_cons_of_mem _ ho)

namespace Rulesets.Consistent

variable {r : Rulesets}

theorem importRules_eq (h : r.Consistent) {e : Ecosystem} (he : e ∈ r.ecosystems) :
    (Resolver.ofRulesets r).importRules e.name = e.imports.map ImportMatcher.ofRule := by
  have hentry : (e.name, e.imports.map ImportMatcher.ofRule) ∈
      (Resolver.ofRulesets r).imports.reverse := by
    rw [List.mem_reverse]
    exact List.mem_map.2 ⟨e, h.mem_ordered.2 he, rfl⟩
  have hunique : ∀ rules, (e.name, rules) ∈ (Resolver.ofRulesets r).imports.reverse →
      rules = e.imports.map ImportMatcher.ofRule := by
    intro rules hm
    rw [List.mem_reverse] at hm
    obtain ⟨e', he', heq⟩ := List.mem_map.1 hm
    obtain ⟨hname, rfl⟩ := Prod.mk.inj heq
    have hfound := h.ecosystem?_eq (h.mem_ordered.1 he')
    rw [hname, h.ecosystem?_eq he] at hfound
    rw [Option.some.inj hfound]
  rw [Resolver.importRules, lookup_eq_some hentry hunique, Option.getD_some]

theorem importLayer?_eq (h : r.Consistent) {e : Ecosystem} (he : e ∈ r.ecosystems)
    (token : List Char) : (Resolver.ofRulesets r).importLayer? e.name token =
      (e.imports.find? (·.Fits token)).map (·.layer) := by
  rw [Resolver.importLayer?, h.importRules_eq he, List.find?_map, Option.map_map]
  simp only [Function.comp_def, accepts_ofRule]
  rfl

theorem violation?_eq (h : r.Consistent) {e : Ecosystem} (he : e ∈ r.ecosystems) {l : Layer}
    (hl : l ∈ e.layers) (ref : ImportRef) :
    e.violation? (Resolver.ofRulesets r) l.name ref = e.breach? l ref := by
  have hallowed : e.allowed l.name = l.allows := (h.ecosystems e he).allowed_eq hl
  rw [Ecosystem.violation?, h.importLayer?_eq he, Ecosystem.breach?]
  cases e.imports.find? (·.Fits ref.token) with
  | none => rfl
  | some rule =>
    have hallows : e.allows l.name rule.layer = true ↔
        rule.layer = l.name ∨ rule.layer ∈ l.allows := by
      rw [Ecosystem.allows, hallowed, Bool.or_eq_true, beq_iff_eq, List.contains_iff_mem, eq_comm]
    simp only [Option.map_some, hallows]

/-- A file is placed by a rule of an ecosystem, in a layer of it. -/
theorem exists_of_place? (h : r.Consistent) {path : List Char} {place : Place}
    (hplace : (Resolver.ofRulesets r).place? path = some place) :
    ∃ e ∈ r.ecosystems, ∃ l ∈ e.layers, place = ⟨e.name, l.name⟩ := by
  unfold Resolver.place? at hplace
  dsimp only at hplace
  cases hextension : extension? (normalisePath path) with
  | none =>
    rw [hextension] at hplace
    cases hplace
  | some extension =>
    simp only [hextension] at hplace
    obtain ⟨m, hfound, rfl⟩ := Option.map_eq_some_iff.1 hplace
    obtain ⟨e, he, hm⟩ := List.mem_flatMap.1 (List.mem_of_find?_eq_some hfound)
    obtain ⟨rule, hrule, rfl⟩ := List.mem_map.1 hm
    have hmem : e ∈ r.ecosystems := h.mem_ordered.1 he
    have hdeclared := ((h.ecosystems e hmem).paths rule hrule).2
    obtain ⟨l, hl, hname⟩ := Ecosystem.exists_layer_of_declares hdeclared
    exact ⟨e, hmem, l, hl, by rw [hname]; rfl⟩

end Rulesets.Consistent

/-! ## Reports -/

namespace Ecosystem

theorem breach?_eq_some {e : Ecosystem} {l : Layer} {ref : ImportRef} {v : Violation}
    (h : e.breach? l ref = some v) : v.location = ref.location ∧
      ∃ rule ∈ e.imports, rule.layer = v.dependencyLayer := by
  unfold breach? at h
  cases hfound : e.imports.find? (·.Fits ref.token) with
  | none =>
    rw [hfound] at h
    cases h
  | some rule =>
    simp only [hfound] at h
    by_cases hallowed : rule.layer = l.name ∨ rule.layer ∈ l.allows
    · rw [if_pos hallowed] at h
      cases h
    · rw [if_neg hallowed] at h
      obtain rfl := Option.some.inj h
      exact ⟨rfl, rule, List.mem_of_find?_eq_some hfound, rfl⟩

theorem breaches_ascending (e : Ecosystem) (l : Layer) (content : List Char) :
    ((e.importSyntax.extract content).filterMap (e.breach? l)).Pairwise
      fun v v' => v.location.offset < v'.location.offset := by
  apply e.importSyntax.filterMap_extract_ascending content
  intro ref v hv
  exact (breach?_eq_some hv).1

theorem Consistent.declares_of_breach {e : Ecosystem} (h : e.Consistent) {l : Layer}
    {refs : List ImportRef} {v : Violation} (hv : v ∈ refs.filterMap (e.breach? l)) :
    e.declares v.dependencyLayer = true := by
  obtain ⟨ref, -, hbreach⟩ := List.mem_filterMap.1 hv
  obtain ⟨-, rule, hrule, hlayer⟩ := breach?_eq_some hbreach
  rw [← hlayer]
  exact (h.imports rule hrule).2

end Ecosystem

namespace Rulesets

theorem check_eq_of_place? {r : Rulesets} (h : r.Consistent) {e : Ecosystem}
    (he : e ∈ r.ecosystems) {l : Layer} (hl : l ∈ e.layers) {path : String}
    (hplace : (Resolver.ofRulesets r).place? path.toList = some ⟨e.name, l.name⟩)
    (content : List Char) :
    r.check path content = some
      { path
        ecosystem := e.name
        title := e.title
        layer := l.name
        allowed := l.allows
        rule := e.rule
        importsChecked := (e.importSyntax.extract content).length
        violations := (e.importSyntax.extract content).filterMap (e.breach? l) } := by
  have hviolations : (fun ref => e.violation? (Resolver.ofRulesets r) l.name ref) = e.breach? l :=
    funext fun ref => h.violation?_eq he hl ref
  have hreport : r.check path content =
      some (e.report (Resolver.ofRulesets r) path l.name content) := by
    simp only [check, hplace, h.ecosystem?_eq he, Option.bind_eq_bind, Option.bind_some]
  rw [hreport, Ecosystem.report, (h.ecosystems e he).allowed_eq hl]
  simp only [hviolations]

/-- A file is reported on when it has a place, and the report is what the ecosystem and the layer
of that name say of it: the layers allowed and, in the order of the source, the imports that the
first rule that fits puts in a layer that is neither the same nor allowed. -/
theorem check_exact (r : Rulesets) (path : String) (content : List Char)
    (h : r.validate = .ok ()) :
    (r.check path content = none ↔ (Resolver.ofRulesets r).place? path.toList = none) ∧
    ∀ place, (Resolver.ofRulesets r).place? path.toList = some place →
      ∃ e l, r.ecosystems.filter (·.name = place.ecosystem) = [e] ∧
        e.layers.filter (·.name = place.layer) = [l] ∧
        r.check path content = some
          { path
            ecosystem := place.ecosystem
            title := e.title
            layer := place.layer
            allowed := l.allows
            rule := e.rule
            importsChecked := (e.importSyntax.extract content).length
            violations := (e.importSyntax.extract content).filterMap (e.breach? l) } ∧
        ((e.importSyntax.extract content).filterMap (e.breach? l)).Pairwise
          (fun v v' => v.location.offset < v'.location.offset) ∧
        ∀ v ∈ (e.importSyntax.extract content).filterMap (e.breach? l),
          e.declares v.dependencyLayer = true := by
  have hconsistent := (validate_eq_ok_iff r).1 h
  constructor
  · cases hplace : (Resolver.ofRulesets r).place? path.toList with
    | none => simp [check, hplace]
    | some place =>
      obtain ⟨e, he, l, hl, rfl⟩ := hconsistent.exists_of_place? hplace
      rw [check_eq_of_place? hconsistent he hl hplace]
      simp
  · intro place hplace
    obtain ⟨e, he, l, hl, rfl⟩ := hconsistent.exists_of_place? hplace
    have hwithin := hconsistent.ecosystems e he
    exact ⟨e, l, filter_key_eq hconsistent.names he, filter_key_eq hwithin.layers hl,
      check_eq_of_place? hconsistent he hl hplace content, e.breaches_ascending l content,
      fun v hv => hwithin.declares_of_breach hv⟩

/-- The built-in rulesets are consistent and report on a controller. -/
theorem check_exact_builtin :
    ∃ report, Builtin.rulesets.check "shop/controller/Orders.java"
        "import shop.domain.Order;\nimport shop.gateway.Card;\n".toList = some report ∧
      report.layer = "Controller" ∧
      report.violations.Pairwise fun v v' => v.location.offset < v'.location.offset := by
  have hplace : (Resolver.ofRulesets Builtin.rulesets).place?
      "shop/controller/Orders.java".toList = some ⟨"java", "Controller"⟩ := by decide +kernel
  obtain ⟨e, l, -, -, hcheck, hascending, -⟩ := (check_exact Builtin.rulesets
    "shop/controller/Orders.java" "import shop.domain.Order;\nimport shop.gateway.Card;\n".toList
    (by decide +kernel)).2 _ hplace
  exact ⟨_, hcheck, rfl, hascending⟩

end Rulesets

end EditGuard.Layers
