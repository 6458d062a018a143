import EditGuard.Proofs.Layers.Consistency
import Mathlib.Data.List.Perm.Basic

/-! # The order of accepted rulesets

The checks accept the rulesets whose names are declared once and used only where they are declared.
A name of the priority then stands for one ecosystem and no other name does, so the order takes
every ecosystem once: those that the priority names, one for each of its names, and then the others
as they are declared.
-/

namespace EditGuard.Layers

/-! ## Declared names -/

theorem Ecosystem.declares_iff (e : Ecosystem) (layer : String) :
    e.declares layer = true ↔ layer ∈ e.layers.map (·.name) := by
  simp [declares]

namespace Rulesets

variable {r : Rulesets}

theorem isSome_ecosystem?_iff (r : Rulesets) (name : String) :
    (r.ecosystem? name).isSome = true ↔ name ∈ r.ecosystems.map (·.name) := by
  simp [ecosystem?]

theorem name_of_ecosystem? {name : String} {e : Ecosystem} (h : r.ecosystem? name = some e) :
    e.name = name := by
  simpa using List.find?_some h

/-! ## The order -/

/-- The ecosystems that the priority names. -/
def preferred (r : Rulesets) : List Ecosystem := r.priority.filterMap r.ecosystem?

/-- The ecosystems that the priority leaves out. -/
def remaining (r : Rulesets) : List Ecosystem :=
  r.ecosystems.filter fun e => decide (e.name ∉ r.priority)

theorem ordered_eq (r : Rulesets) : r.ordered = r.preferred ++ r.remaining := by
  simp [ordered, preferred, remaining]

theorem name_mem_of_preferred {e : Ecosystem} (h : e ∈ r.preferred) : e.name ∈ r.priority := by
  obtain ⟨name, hname, he⟩ := List.mem_filterMap.1 h
  rwa [name_of_ecosystem? he]

/-- The preferred ecosystems are one for each name of the priority, in its order. -/
theorem Consistent.map_preferred (h : r.Consistent) : r.preferred.map (·.name) = r.priority := by
  have hname : ∀ name ∈ r.priority, (r.ecosystem? name).map (·.name) = some name := by
    intro name hm
    obtain ⟨e, he⟩ := Option.isSome_iff_exists.1 (h.priority name hm)
    rw [he, Option.map_some, name_of_ecosystem? he]
  rw [preferred, List.map_filterMap, List.filterMap_congr hname, List.filterMap_some]

theorem Consistent.nodup_ecosystems (h : r.Consistent) : r.ecosystems.Nodup :=
  List.Nodup.of_map _ h.names

theorem Consistent.nodup_ordered (h : r.Consistent) : r.ordered.Nodup := by
  have hnames : (r.preferred.map (·.name)).Nodup := by
    rw [h.map_preferred]
    exact h.ranked
  have happart : ∀ e ∈ r.preferred, ∀ e' ∈ r.remaining, e ≠ e' := by
    intro e he e' he' heq
    have hleft : e'.name ∉ r.priority := by simpa using (List.mem_filter.1 he').2
    rw [← heq] at hleft
    exact hleft (name_mem_of_preferred he)
  rw [ordered_eq, List.nodup_append]
  exact ⟨List.Nodup.of_map _ hnames, h.nodup_ecosystems.filter _, happart⟩

theorem Consistent.ordered_perm (h : r.Consistent) : r.ordered.Perm r.ecosystems :=
  (List.perm_ext_iff_of_nodup h.nodup_ordered h.nodup_ecosystems).2 fun _ => h.mem_ordered

/-! ## Main statement -/

/-- Accepted are just the rulesets in which names are not empty, declared once and used where they
are declared, no layer lists itself and no rule is empty; and their order is one of all their
ecosystems, those of the priority first. -/
theorem accepted_and_ordered (r : Rulesets) :
    (r.validate = .ok () ↔
      (∀ e ∈ r.ecosystems, e.name ≠ "") ∧
      (r.ecosystems.map (·.name)).Nodup ∧
      (∀ e ∈ r.ecosystems,
        (e.layers.map (·.name)).Nodup ∧
        (∀ l ∈ e.layers, ∀ dependency ∈ l.allows,
          dependency ∈ e.layers.map (·.name) ∧ dependency ≠ l.name) ∧
        (∀ rule ∈ e.paths, rule.extensions ≠ [] ∧ rule.layer ∈ e.layers.map (·.name)) ∧
        (∀ rule ∈ e.imports, rule.fragments ≠ [] ∧ rule.layer ∈ e.layers.map (·.name))) ∧
      r.priority.Nodup ∧
      (∀ name ∈ r.priority, name ∈ r.ecosystems.map (·.name))) ∧
    (r.validate = .ok () →
      r.ordered.Perm r.ecosystems ∧ r.ordered.Nodup ∧
      ∃ first rest, r.ordered = first ++ rest ∧ first.map (·.name) = r.priority ∧
        rest = r.ecosystems.filter fun e => decide (e.name ∉ r.priority)) := by
  constructor
  · rw [validate_eq_ok_iff]
    simp only [← Ecosystem.declares_iff, ← isSome_ecosystem?_iff]
    constructor
    · intro h
      refine ⟨h.named, h.names, ?_, h.ranked, h.priority⟩
      intro e he
      obtain ⟨hlayers, hdependencies, hpaths, himports⟩ := h.ecosystems e he
      exact ⟨hlayers, hdependencies, hpaths, himports⟩
    · intro h
      obtain ⟨hnamed, hnames, hwithin, hranked, hpriority⟩ := h
      refine ⟨hnamed, hnames, ?_, hpriority, hranked⟩
      intro e he
      obtain ⟨hlayers, hdependencies, hpaths, himports⟩ := hwithin e he
      exact ⟨hlayers, hdependencies, hpaths, himports⟩
  · intro hvalid
    have h := (validate_eq_ok_iff r).1 hvalid
    exact ⟨h.ordered_perm, h.nodup_ordered, r.preferred, r.remaining, ordered_eq r,
      h.map_preferred, rfl⟩

/-- Two ecosystems, of which the priority names the second. -/
def secondFirst : Rulesets where
  priority := ["swift"]
  ecosystems := [
    { name := "java", title := "", rule := "Web → Domain", importSyntax := .java
      layers := [⟨"Web", ["Domain"]⟩, ⟨"Domain", []⟩]
      paths := [⟨["java"], ["/web/"], "Web"⟩]
      imports := [⟨[".domain."], "Domain"⟩] },
    { name := "swift", title := "", rule := "View", importSyntax := .swift
      layers := [⟨"View", []⟩]
      paths := [⟨["swift"], [], "View"⟩]
      imports := [] }]

theorem accepted_and_ordered_secondFirst :
    secondFirst.validate = .ok () ∧ secondFirst.ordered.map (·.name) = ["swift", "java"] ∧
      secondFirst.ordered.Perm secondFirst.ecosystems := by
  have hvalid : secondFirst.validate = .ok () := by decide
  exact ⟨hvalid, by decide, ((accepted_and_ordered secondFirst).2 hvalid).1⟩

end Rulesets

end EditGuard.Layers
