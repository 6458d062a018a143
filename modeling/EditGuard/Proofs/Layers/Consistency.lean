import EditGuard.Layers.Builtin
import EditGuard.Layers.Validation
import Mathlib.Data.List.Basic
import Mathlib.Data.List.Nodup

/-! # Consistent rulesets

The checks accept the rulesets in which no name stands for two things and every name that is used
stands for something. In such rulesets an ecosystem and a layer are determined by their names.
-/

namespace EditGuard.Layers

/-! ## Checks -/

theorem faultIf_eq_nil_iff {condition : Bool} {fault : Inconsistency} :
    faultIf condition fault = [] ↔ condition = false := by
  cases condition with
  | false => simp [faultIf]
  | true => simp [faultIf]

theorem forall_mem_withEarlier {α : Type} {P : α → Prop} (earlier xs : List α) :
    (∀ p ∈ withEarlier earlier xs, P p.2) ↔ ∀ x ∈ xs, P x := by
  induction xs generalizing earlier with
  | nil => simp [withEarlier]
  | cons x xs ih => rw [withEarlier, List.forall_mem_cons, ih, List.forall_mem_cons]

theorem forall_mem_zipIdx {α : Type} {P : α → Prop} (xs : List α) :
    (∀ p ∈ xs.zipIdx, P p.1) ↔ ∀ x ∈ xs, P x := by
  have hfst : xs.zipIdx.map Prod.fst = xs := List.zipIdx_map_fst 0 xs
  rw [← List.forall_mem_map, hfst]

/-- No item has the key of an earlier one just when the keys are distinct. -/
theorem not_repeated_iff {α : Type} (key : α → String) (earlier xs : List α) :
    (∀ p ∈ withEarlier earlier xs, (p.1.any fun y => key y == key p.2) = false) ↔
      (xs.map key).Nodup ∧ ∀ x ∈ xs, ∀ y ∈ earlier, key y ≠ key x := by
  induction xs generalizing earlier with
  | nil => simp [withEarlier]
  | cons x xs ih =>
    have hfirst : (earlier.any fun y => key y == key x) = false ↔
        ∀ y ∈ earlier, key y ≠ key x := by simp
    rw [withEarlier, List.forall_mem_cons, ih, hfirst, List.map_cons, List.nodup_cons]
    constructor
    · intro h
      obtain ⟨hx, hnodup, hrest⟩ := h
      refine ⟨⟨?_, hnodup⟩, ?_⟩
      · intro hm
        obtain ⟨y, hy, heq⟩ := List.mem_map.1 hm
        exact hrest y hy x List.mem_cons_self heq.symm
      · intro z hz
        rcases List.mem_cons.1 hz with rfl | hz
        · exact hx
        · exact fun y hy => hrest z hz y (List.mem_cons_of_mem x hy)
    · intro h
      obtain ⟨⟨hx, hnodup⟩, hall⟩ := h
      refine ⟨hall x List.mem_cons_self, hnodup, ?_⟩
      intro z hz y hy
      rcases List.mem_cons.1 hy with rfl | hy
      · exact fun heq => hx (List.mem_map.2 ⟨z, hz, heq.symm⟩)
      · exact hall z (List.mem_cons_of_mem x hz) y hy

theorem not_repeated_iff_nodup {α : Type} (key : α → String) (xs : List α) :
    (∀ p ∈ withEarlier [] xs, (p.1.any fun y => key y == key p.2) = false) ↔
      (xs.map key).Nodup := by
  rw [not_repeated_iff]
  simp

/-! ## Ecosystems -/

/-- An ecosystem whose layers are distinct and whose rules are of its own layers. -/
structure Ecosystem.Consistent (e : Ecosystem) : Prop where
  layers : (e.layers.map (·.name)).Nodup
  dependencies : ∀ l ∈ e.layers, ∀ dependency ∈ l.allows,
    e.declares dependency = true ∧ dependency ≠ l.name
  paths : ∀ rule ∈ e.paths, rule.extensions ≠ [] ∧ e.declares rule.layer = true
  imports : ∀ rule ∈ e.imports, rule.fragments ≠ [] ∧ e.declares rule.layer = true

namespace Ecosystem

theorem layerFaults_eq_nil_iff (e : Ecosystem) :
    e.layerFaults = [] ↔ (e.layers.map (·.name)).Nodup := by
  rw [← not_repeated_iff_nodup, layerFaults, List.flatMap_eq_nil_iff]
  simp only [faultIf_eq_nil_iff]

theorem dependencyFaults_eq_nil_iff (e : Ecosystem) :
    e.dependencyFaults = [] ↔ ∀ l ∈ e.layers, ∀ dependency ∈ l.allows,
      e.declares dependency = true ∧ dependency ≠ l.name := by
  rw [dependencyFaults, List.flatMap_eq_nil_iff]
  simp only [List.flatMap_eq_nil_iff, List.append_eq_nil_iff, faultIf_eq_nil_iff]
  simp

theorem pathFaults_eq_nil_iff (e : Ecosystem) :
    e.pathFaults = [] ↔
      ∀ rule ∈ e.paths, rule.extensions ≠ [] ∧ e.declares rule.layer = true := by
  have hrules := forall_mem_zipIdx
    (P := fun rule : PathRule => rule.extensions ≠ [] ∧ e.declares rule.layer = true) e.paths
  rw [← hrules, pathFaults, List.flatMap_eq_nil_iff]
  simp only [List.append_eq_nil_iff, faultIf_eq_nil_iff]
  simp

theorem importFaults_eq_nil_iff (e : Ecosystem) :
    e.importFaults = [] ↔
      ∀ rule ∈ e.imports, rule.fragments ≠ [] ∧ e.declares rule.layer = true := by
  have hrules := forall_mem_zipIdx
    (P := fun rule : ImportRule => rule.fragments ≠ [] ∧ e.declares rule.layer = true) e.imports
  rw [← hrules, importFaults, List.flatMap_eq_nil_iff]
  simp only [List.append_eq_nil_iff, faultIf_eq_nil_iff]
  simp

theorem faults_eq_nil_iff (e : Ecosystem) : e.faults = [] ↔ e.Consistent := by
  simp only [faults, List.append_eq_nil_iff, layerFaults_eq_nil_iff, dependencyFaults_eq_nil_iff,
    pathFaults_eq_nil_iff, importFaults_eq_nil_iff]
  constructor
  · intro h
    exact ⟨h.1.1.1, h.1.1.2, h.1.2, h.2⟩
  · intro h
    exact ⟨⟨⟨h.layers, h.dependencies⟩, h.paths⟩, h.imports⟩

end Ecosystem

/-! ## Rulesets -/

structure Rulesets.Consistent (r : Rulesets) : Prop where
  named : ∀ e ∈ r.ecosystems, e.name ≠ ""
  names : (r.ecosystems.map (·.name)).Nodup
  ecosystems : ∀ e ∈ r.ecosystems, e.Consistent
  priority : ∀ name ∈ r.priority, (r.ecosystem? name).isSome = true
  ranked : r.priority.Nodup

namespace Rulesets

theorem ecosystemFaults_eq_nil_iff (r : Rulesets) :
    r.ecosystemFaults = [] ↔ (∀ e ∈ r.ecosystems, e.name ≠ "") ∧
      (r.ecosystems.map (·.name)).Nodup ∧ ∀ e ∈ r.ecosystems, e.Consistent := by
  have hnamed := forall_mem_withEarlier (P := fun e : Ecosystem => e.name ≠ "") [] r.ecosystems
  have hwithin := forall_mem_withEarlier (P := Ecosystem.Consistent) [] r.ecosystems
  rw [← not_repeated_iff_nodup, ← hnamed, ← hwithin, ecosystemFaults, List.flatMap_eq_nil_iff]
  simp only [List.append_eq_nil_iff, faultIf_eq_nil_iff, Ecosystem.faults_eq_nil_iff, and_assoc]
  simp [forall_and]

theorem priorityFaults_eq_nil_iff (r : Rulesets) :
    r.priorityFaults = [] ↔
      (∀ name ∈ r.priority, (r.ecosystem? name).isSome = true) ∧ r.priority.Nodup := by
  have hknown := forall_mem_withEarlier
    (P := fun name : String => (r.ecosystem? name).isSome = true) [] r.priority
  have hranked := not_repeated_iff_nodup (fun name : String => name) r.priority
  have hcontains : ∀ (earlier : List String) (name : String),
      (earlier.any fun y => y == name) = earlier.contains name := by
    intro earlier name
    rw [Bool.eq_iff_iff]
    simp
  simp only [hcontains, List.map_id'] at hranked
  rw [← hknown, ← hranked, priorityFaults, List.flatMap_eq_nil_iff]
  simp only [List.append_eq_nil_iff, faultIf_eq_nil_iff]
  simp [forall_and]

theorem validate_eq_ok_iff (r : Rulesets) : r.validate = .ok () ↔ r.Consistent := by
  have hfaults : r.validate = .ok () ↔ r.faults = [] := by
    unfold validate
    cases r.faults with
    | nil => simp
    | cons fault rest => simp
  rw [hfaults, faults, List.append_eq_nil_iff, ecosystemFaults_eq_nil_iff,
    priorityFaults_eq_nil_iff]
  constructor
  · intro h
    exact ⟨h.1.1, h.1.2.1, h.1.2.2, h.2.1, h.2.2⟩
  · intro h
    exact ⟨⟨h.named, h.names, h.ecosystems⟩, h.priority, h.ranked⟩

end Rulesets

/-! ## Names -/

/-- Of items with distinct keys one alone has its key. -/
theorem filter_key_eq {α : Type} {key : α → String} {xs : List α} (h : (xs.map key).Nodup) {x : α}
    (hx : x ∈ xs) : xs.filter (fun y => key y = key x) = [x] := by
  obtain ⟨above, below, rfl⟩ := List.append_of_mem hx
  rw [List.map_append, List.map_cons, List.nodup_append, List.nodup_cons] at h
  obtain ⟨-, ⟨hbelow, -⟩, happart⟩ := h
  have hnone : ∀ y, (y ∈ above ∨ y ∈ below) → key y ≠ key x := by
    intro y hy heq
    rcases hy with hy | hy
    · exact happart (key y) (List.mem_map_of_mem hy) (key x) List.mem_cons_self heq
    · exact hbelow (List.mem_map.2 ⟨y, hy, heq⟩)
  have habove' : above.filter (fun y => key y = key x) = [] := by
    rw [List.filter_eq_nil_iff]
    intro y hy
    simpa using hnone y (Or.inl hy)
  have hbelow' : below.filter (fun y => key y = key x) = [] := by
    rw [List.filter_eq_nil_iff]
    intro y hy
    simpa using hnone y (Or.inr hy)
  rw [List.filter_append, List.filter_cons_of_pos (by simp), habove', hbelow', List.nil_append]

theorem find?_key_eq {α : Type} {key : α → String} {xs : List α} (h : (xs.map key).Nodup) {x : α}
    (hx : x ∈ xs) : xs.find? (fun y => key y == key x) = some x := by
  have hfilter : xs.filter (fun y => key y == key x) = [x] := filter_key_eq h hx
  rw [← List.head?_filter, hfilter]
  rfl

namespace Rulesets

variable {r : Rulesets}

theorem Consistent.ecosystem?_eq (h : r.Consistent) {e : Ecosystem} (he : e ∈ r.ecosystems) :
    r.ecosystem? e.name = some e :=
  find?_key_eq h.names he

/-- The order of the priority leaves no ecosystem out and adds none. -/
theorem Consistent.mem_ordered (h : r.Consistent) {e : Ecosystem} :
    e ∈ r.ordered ↔ e ∈ r.ecosystems := by
  rw [ordered, List.mem_append, List.mem_filterMap, List.mem_filter]
  constructor
  · intro hm
    rcases hm with ⟨name, -, hname⟩ | ⟨he, -⟩
    · exact List.mem_of_find?_eq_some hname
    · exact he
  · intro he
    by_cases hranked : e.name ∈ r.priority
    · exact Or.inl ⟨e.name, hranked, h.ecosystem?_eq he⟩
    · exact Or.inr ⟨he, by simpa using hranked⟩

end Rulesets

namespace Ecosystem

theorem exists_layer_of_declares {e : Ecosystem} {name : String} (h : e.declares name = true) :
    ∃ l ∈ e.layers, l.name = name := by
  simpa [declares] using h

theorem Consistent.allowed_eq {e : Ecosystem} (h : e.Consistent) {l : Layer} (hl : l ∈ e.layers) :
    e.allowed l.name = l.allows := by
  have hlayer : e.layer? l.name = some l := find?_key_eq h.layers hl
  rw [allowed, hlayer]
  rfl

end Ecosystem

theorem Builtin.validate_rulesets : Builtin.rulesets.validate = .ok () := by decide +kernel

end EditGuard.Layers
