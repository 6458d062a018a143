import EditGuard.Proofs.Review.Ownership
import EditGuard.Review.Gate
import Mathlib.Data.Set.Card
import Mathlib.Order.Bounds.Basic
import Mathlib.Order.Interval.Finset.Nat

/-! # The threshold of a document

The decision on an edit is fixed by one number of the document, the lowest one from 1 on that is
not approved, and by the number of the phase that is edited. The threshold is bounded by the
markers of the document, which is why the search for it may stop there.
-/

namespace EditGuard.Review

open Text

theorem StatusTable.mem_keys_of_marker? {table : StatusTable} {n : Nat} {m : Marker}
    (h : table.marker? n = some m) : n ∈ table.map (·.1) := by
  unfold marker? at h
  induction table with
  | nil => simp at h
  | cons entry table ih =>
    obtain ⟨k, marker⟩ := entry
    rw [List.lookup_cons] at h
    by_cases hk : n = k
    · simp [hk]
    · have hb : (n == k) = false := beq_eq_false_iff_ne.2 hk
      rw [hb] at h
      exact List.mem_cons_of_mem _ (ih h)

namespace Document

/-! ## The lowest number without approval -/

theorem mem_keys_of_statusOf? {d : Document} {n : Nat} {s : Status} (h : d.statusOf? n = some s) :
    n ∈ d.table.map (·.1) := by
  obtain ⟨m, hm, -⟩ := Option.map_eq_some_iff.1 h
  exact StatusTable.mem_keys_of_marker? hm

theorem isApproved_iff (d : Document) (n : Nat) :
    d.isApproved n = true ↔ d.statusOf? n = some requiredStatus := by
  simp [isApproved]

/-- A run of approved numbers has at most one number for each entry of the table. -/
theorem length_le_of_approved (d : Document) (count : Nat)
    (h : ∀ n, 1 ≤ n → n < 1 + count → d.isApproved n = true) : count ≤ d.table.length := by
  have hsub : List.range' 1 count ⊆ d.table.map (·.1) := by
    intro n hn
    have hrange := List.mem_range'_1.1 hn
    exact mem_keys_of_statusOf? ((isApproved_iff d n).1 (h n hrange.1 hrange.2))
  have hnodup : (List.range' 1 count).Nodup := List.nodup_range'
  have hlen := hnodup.length_le_of_subset hsub
  simpa using hlen

theorem lowestUnapproved?_eq_some_iff (d : Document) (bound k : Nat) :
    d.lowestUnapproved? bound = some k ↔ 1 ≤ k ∧ k < bound ∧ d.isApproved k = false ∧
      ∀ n, 1 ≤ n → n < k → d.isApproved n = true := by
  unfold lowestUnapproved?
  rw [List.find?_range'_eq_some]
  constructor
  · intro h
    obtain ⟨hk, hmem, hbefore⟩ := h
    have hrange := List.mem_range'_1.1 hmem
    refine ⟨hrange.1, by omega, by simpa using hk, ?_⟩
    intro n hn hlt
    simpa using hbefore n hn hlt
  · intro h
    obtain ⟨hk, hlt, hnot, hbefore⟩ := h
    have hlen := length_le_of_approved d (k - 1) (fun n hn hlt => hbefore n hn (by omega))
    refine ⟨by simpa using hnot, List.mem_range'_1.2 ⟨hk, by omega⟩, ?_⟩
    intro n hn hlt
    simpa using hbefore n hn hlt

theorem lowestUnapproved?_eq_none_iff (d : Document) (bound : Nat) :
    d.lowestUnapproved? bound = none ↔ ∀ n, 1 ≤ n → n < bound → d.isApproved n = true := by
  constructor
  · intro h
    -- All numbers searched are approved, and the table is too short for more of them.
    have hall : ∀ n, 1 ≤ n → n < 1 + min (bound - 1) (d.table.length + 1) →
        d.isApproved n = true := by
      intro n hn hlt
      unfold lowestUnapproved? at h
      rw [List.find?_eq_none] at h
      simpa using h n (List.mem_range'_1.2 ⟨hn, hlt⟩)
    have hlen := length_le_of_approved d _ hall
    intro n hn hlt
    exact hall n hn (by omega)
  · intro h
    cases hfound : d.lowestUnapproved? bound with
    | none => rfl
    | some k =>
      obtain ⟨hk, hlt, hnot, -⟩ := (lowestUnapproved?_eq_some_iff d bound k).1 hfound
      rw [h k hk hlt] at hnot
      exact absurd hnot (by simp)

theorem lowestUnapproved?_eq_find? (d : Document) (bound : Nat) :
    d.lowestUnapproved? bound =
      (List.range' 1 (bound - 1)).find? (d.statusOf? · ≠ some .approved) := by
  ext k
  rw [lowestUnapproved?_eq_some_iff, List.find?_range'_eq_some, List.mem_range'_1]
  have hnot : ∀ n, d.isApproved n = false ↔ d.statusOf? n ≠ some .approved := by
    intro n
    rw [← Bool.not_eq_true, isApproved_iff]
    rfl
  have happroved : ∀ n, d.isApproved n = true ↔ ¬ d.statusOf? n ≠ some .approved := by
    intro n
    rw [isApproved_iff, not_not]
    rfl
  constructor
  · intro h
    obtain ⟨hk, hlt, hblocked, hbefore⟩ := h
    refine ⟨by simpa using (hnot k).1 hblocked, ⟨hk, by omega⟩, ?_⟩
    intro n hn hlt
    simpa using (happroved n).1 (hbefore n hn hlt)
  · intro h
    obtain ⟨hblocked, hrange, hbefore⟩ := h
    refine ⟨hrange.1, by omega, (hnot k).2 (by simpa using hblocked), ?_⟩
    intro n hn hlt
    exact (happroved n).2 (by simpa using hbefore n hn hlt)

/-- Some number up to the size of the table and one is not approved. -/
theorem exists_threshold (d : Document) : ∃ t, t ≤ d.table.length + 1 ∧ 1 ≤ t ∧
    d.isApproved t = false ∧ ∀ n, 1 ≤ n → n < t → d.isApproved n = true := by
  cases hfound : d.lowestUnapproved? (d.table.length + 2) with
  | some t =>
    obtain ⟨ht, hlt, hnot, hbefore⟩ := (lowestUnapproved?_eq_some_iff d _ t).1 hfound
    exact ⟨t, by omega, ht, hnot, hbefore⟩
  | none =>
    have hall := (lowestUnapproved?_eq_none_iff d _).1 hfound
    have hlen := length_le_of_approved d (d.table.length + 1)
      (fun n hn hlt => hall n hn (by omega))
    omega

/-! ## The edited phase -/

theorem foldl_highest (phases : List Phase) (b : Phase) :
    ((phases.foldl (fun best p =>
      match best with
      | none => some p
      | some b => if b.number ≤ p.number then some p else some b) (some b)).map (·.number)) =
      some ((phases.map (·.number)).foldl max b.number) := by
  induction phases generalizing b with
  | nil => rfl
  | cons p phases ih =>
    by_cases h : b.number ≤ p.number
    · simp only [List.foldl_cons, List.map_cons, if_pos h, ih, Nat.max_eq_right h]
    · have hle : p.number ≤ b.number := by omega
      simp only [List.foldl_cons, List.map_cons, if_neg h, ih, Nat.max_eq_left hle]

theorem highest?_map_number (o : Outline) :
    o.highest?.map (·.number) = (o.phases.map (·.number)).max? := by
  unfold Outline.highest?
  cases o.phases with
  | nil => rfl
  | cons p phases => exact foldl_highest phases p

end Document

/-- Whether a heading stands at or before the hinted position. A line counts from one, and a line
behind the document has every heading before it. -/
def EditHint.reaches (d : Document) (p : Phase) : EditHint → Bool
  | .line n =>
    match d.lines.lineStart? (max n 1) with
    | some start => p.location.offset ≤ start
    | none => true
  | .offset n => p.location.offset ≤ n

namespace Document

theorem owner?_ofText (c : List Char) (h : EditHint) :
    h.owner? (ofText c) =
      ((ofText c).outline.phases.filter fun p => h.reaches (ofText c) p).getLast? := by
  cases h with
  | offset n => exact ownerAt?_eq c n
  | line n =>
    simp only [EditHint.owner?, EditHint.reaches]
    cases (ofText c).lines.lineStart? (max n 1) with
    | some start => exact ownerAt?_eq c start
    | none => simp

/-- The number of the phase that an edit falls to: the greatest number without a hint, and with one
that of the last heading that the hint has reached. -/
def editedNumber? (d : Document) : Option EditHint → Option Nat
  | none => (d.outline.phases.map (·.number)).max?
  | some h => (d.outline.phases.filter fun p => h.reaches d p).getLast?.map (·.number)

theorem decide_ofText (c : List Char) (hint : Option EditHint) :
    (ofText c).decide hint =
      if (ofText c).outline.phases = [] then .allow .noPhases
      else match (ofText c).editedNumber? hint with
        | none => .allow .outsidePhases
        | some e =>
          if e ≤ 1 then .allow .firstPhase
          else match (ofText c).lowestUnapproved? e with
            | some k => .deny ⟨e, k, (ofText c).statusOf? k⟩
            | none => .allow .priorPhasesApproved := by
  have hempty : (ofText c).outline.isEmpty = true ↔ (ofText c).outline.phases = [] :=
    List.isEmpty_iff
  unfold decide
  simp only [hempty]
  split
  · rfl
  · cases hint with
    | none =>
      have hedited : (ofText c).editedNumber? none = (ofText c).outline.highest?.map (·.number) :=
        (highest?_map_number _).symm
      rw [hedited]
      dsimp only
      cases (ofText c).outline.highest? <;> rfl
    | some h =>
      have hedited : (ofText c).editedNumber? (some h) = (h.owner? (ofText c)).map (·.number) :=
        congrArg (Option.map Phase.number) (owner?_ofText c h).symm
      rw [hedited]
      dsimp only
      cases h.owner? (ofText c) <;> rfl

def decisionAt (d : Document) (t : Nat) (hint : Option EditHint) : Decision :=
  if d.outline.phases = [] then .allow .noPhases
  else match d.editedNumber? hint with
    | none => .allow .outsidePhases
    | some e =>
      if e ≤ 1 then .allow .firstPhase
      else if t < e then .deny ⟨e, t, d.statusOf? t⟩
      else .allow .priorPhasesApproved

theorem lowestUnapproved?_of_threshold {d : Document} {t : Nat} (ht : 1 ≤ t)
    (hnot : d.isApproved t = false) (hbefore : ∀ n, 1 ≤ n → n < t → d.isApproved n = true)
    (bound : Nat) : d.lowestUnapproved? bound = if t < bound then some t else none := by
  by_cases h : t < bound
  · rw [if_pos h]
    exact (lowestUnapproved?_eq_some_iff d bound t).2 ⟨ht, h, hnot, hbefore⟩
  · rw [if_neg h]
    exact (lowestUnapproved?_eq_none_iff d bound).2 (fun n hn hlt => hbefore n hn (by omega))

theorem decide_eq_decisionAt (c : List Char) {t : Nat} (ht : 1 ≤ t)
    (hnot : (ofText c).isApproved t = false)
    (hbefore : ∀ n, 1 ≤ n → n < t → (ofText c).isApproved n = true) (hint : Option EditHint) :
    (ofText c).decide hint = (ofText c).decisionAt t hint := by
  rw [decide_ofText]
  unfold decisionAt
  split
  · rfl
  · cases (ofText c).editedNumber? hint with
    | none => rfl
    | some e =>
      dsimp only
      rw [lowestUnapproved?_of_threshold ht hnot hbefore]
      by_cases h : t < e
      · simp [h]
      · simp [h]

theorem blocked_of_decisionAt {d : Document} {t : Nat} {hint : Option EditHint} {b : Blocked}
    (h : d.decisionAt t hint = .deny b) :
    d.editedNumber? hint = some b.editing ∧ b.blocking = t ∧ b.status = d.statusOf? t := by
  unfold decisionAt at h
  split at h
  · cases h
  · split at h
    · cases h
    · next hedited =>
      split at h
      · cases h
      · split at h
        · cases h
          exact ⟨hedited, rfl, rfl⟩
        · cases h

/-- No hint leads to a greater number than the greatest. -/
theorem editedNumber?_le {d : Document} {hint : Option EditHint} {e g : Nat}
    (hg : d.editedNumber? none = some g) (he : d.editedNumber? hint = some e) : e ≤ g := by
  have hmax := (List.max?_eq_some_iff.1 hg).2
  refine hmax e ?_
  cases hint with
  | none => exact List.max?_mem he
  | some h =>
    obtain ⟨p, hp, rfl⟩ := Option.map_eq_some_iff.1 he
    have hmem := List.mem_of_getLast? hp
    exact List.mem_map_of_mem (List.mem_filter.1 hmem).1

/-- An edit of the phase with the greatest number is the hardest to allow. -/
theorem isAllowed_of_unhinted {d : Document} {t : Nat}
    (h : (d.decisionAt t none).isAllowed = true) (hint : Option EditHint) :
    (d.decisionAt t hint).isAllowed = true := by
  unfold decisionAt at h ⊢
  by_cases hempty : d.outline.phases = []
  · simp [hempty, Decision.isAllowed]
  · simp only [if_neg hempty] at h ⊢
    cases hg : d.editedNumber? none with
    | none =>
      have hnil := List.max?_eq_none_iff.1 hg
      exact absurd (List.map_eq_nil_iff.1 hnil) hempty
    | some g =>
      rw [hg] at h
      cases he : d.editedNumber? hint with
      | none => rfl
      | some e =>
        have hle := editedNumber?_le hg he
        dsimp only at h ⊢
        by_cases hfirst : e ≤ 1
        · simp [hfirst, Decision.isAllowed]
        · have hg1 : ¬ g ≤ 1 := by omega
          by_cases hlt : t < g
          · simp [hg1, hlt, Decision.isAllowed] at h
          · have hte : ¬ t < e := by omega
            simp [hfirst, hte, Decision.isAllowed]

/-! ## The numbers with a marker -/

theorem finite_marked (d : Document) : {n | (d.statusOf? n).isSome = true}.Finite := by
  refine (d.table.map (·.1)).finite_toSet.subset ?_
  intro n hn
  obtain ⟨s, hs⟩ := Option.isSome_iff_exists.1 hn
  exact mem_keys_of_statusOf? hs

theorem threshold_le_marked {d : Document} {t : Nat}
    (hbefore : ∀ n, 1 ≤ n → n < t → d.isApproved n = true) :
    t ≤ 1 + {n | (d.statusOf? n).isSome = true}.ncard := by
  have hsub : (↑(Finset.Ico 1 t) : Set Nat) ⊆ {n | (d.statusOf? n).isSome = true} := by
    intro n hn
    have hrange := Finset.mem_Ico.1 (Finset.mem_coe.1 hn)
    have happroved := (isApproved_iff d n).1 (hbefore n hrange.1 hrange.2)
    simp [happroved]
  have hcard := Set.ncard_le_ncard hsub d.finite_marked
  rw [Set.ncard_coe_finset, Nat.card_Ico] at hcard
  omega

/-- One number decides on every edit of a document: the lowest one from 1 on without approval. All
denials name it, dropping a hint never unlocks an edit, and it exceeds the count of marked numbers
by at most one. -/
theorem decide_by_threshold (c : List Char) :
    ∃ t, IsLeast {n | 1 ≤ n ∧ (ofText c).statusOf? n ≠ some .approved} t ∧
      t ≤ 1 + {n | ((ofText c).statusOf? n).isSome = true}.ncard ∧
      (∀ hint, (ofText c).decide hint =
        if (ofText c).outline.phases = [] then .allow .noPhases
        else match (ofText c).editedNumber? hint with
          | none => .allow .outsidePhases
          | some e =>
            if e ≤ 1 then .allow .firstPhase
            else if t < e then .deny ⟨e, t, (ofText c).statusOf? t⟩
            else .allow .priorPhasesApproved) ∧
      (∀ hint b, (ofText c).decide hint = .deny b →
        b.blocking = t ∧ b.status = (ofText c).statusOf? t) ∧
      (((ofText c).decide none).isAllowed = true →
        ∀ hint, ((ofText c).decide hint).isAllowed = true) := by
  obtain ⟨t, -, ht, hnot, hbefore⟩ := (ofText c).exists_threshold
  have hdecide := decide_eq_decisionAt c ht hnot hbefore
  refine ⟨t, ⟨⟨ht, ?_⟩, ?_⟩, threshold_le_marked hbefore, hdecide, ?_, ?_⟩
  · intro happroved
    rw [(isApproved_iff _ t).2 happroved] at hnot
    exact absurd hnot (by simp)
  · intro n hn
    by_contra hlt
    exact hn.2 ((isApproved_iff _ n).1 (hbefore n hn.1 (by omega)))
  · intro hint b hb
    rw [hdecide] at hb
    exact (blocked_of_decisionAt hb).2
  · intro h hint
    rw [hdecide] at h ⊢
    exact isAllowed_of_unhinted h hint

end Document

end EditGuard.Review
