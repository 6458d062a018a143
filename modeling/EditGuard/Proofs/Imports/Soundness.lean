import EditGuard.Layers.Builtin
import EditGuard.Layers.Report
import EditGuard.Proofs.Imports.Order
import EditGuard.Proofs.Text.Locations

/-! # References stand in their source

Whatever a source holds, no reference is made up. Each stands where its location says: there the
keyword begins a word, and behind it, before the next reference, stands the token, which is one of
the tokens of the syntax. The scan carries this from match to match, as each match ends before the
next one starts and a token lies within its match. Violations are at places of references, so they
come in the same order.
-/

namespace EditGuard.Imports

open Layers Text

/-- The source makes a reference before a limit: the keyword begins a word at the location, and the
token, one of the syntax, ends at or before the limit. -/
def ImportSyntax.Makes (s : ImportSyntax) (source : List Char) (limit : Nat) (ref : ImportRef) :
    Prop :=
  ∃ before gap after, source = before ++ "import".toList ++ gap ++ ref.token ++ after ∧
    endsBeforeWord before.getLast? = true ∧ s.IsToken ref.token ∧
    ref.location = locationBehind before ∧
    byteLength (before ++ "import".toList ++ gap ++ ref.token) ≤ limit

/-- Where the next reference starts, or else the source ends. -/
def startOfNext (source : List Char) (later : List ImportRef) : Nat :=
  (later.head?.map (·.location.offset)).getD (byteLength source)

namespace ImportSyntax

/-- A match makes its reference within its own text. -/
theorem makes_of_mem_scan {s : ImportSyntax} {source : List Char} {hit : Hit (List Char)}
    (hm : hit ∈ s.statement.scan source) {limit : Nat}
    (hlimit : hit.offset + byteLength hit.lexeme ≤ limit) :
    s.Makes source limit ⟨hit.value, (LineIndex.ofText source).location hit.offset⟩ := by
  obtain ⟨before, left, rfl, hoffset, -, hread⟩ := Recogniser.mem_scan s.statement_consumes hm
  obtain ⟨hword, htoken, gap, closing, hspelled⟩ := statement_spells hread
  have hlexeme : hit.lexeme = "import".toList ++ gap ++ hit.value ++ closing :=
    List.append_cancel_right hspelled
  refine ⟨before, gap, closing ++ left, ?_, hword, htoken, ?_, ?_⟩
  · rw [hlexeme]
    simp only [List.append_assoc]
  · rw [hoffset, List.append_assoc]
    exact location_append before (hit.lexeme ++ left)
  · rw [hoffset, hlexeme] at hlimit
    simp only [byteLength_append] at hlimit ⊢
    omega

/-- A match ends before the next reference starts. -/
theorem end_le_startOfNext {s : ImportSyntax} {source : List Char}
    {earlier later : List (Hit (List Char))} {hit : Hit (List Char)}
    (hscan : s.statement.scan source = earlier ++ hit :: later) :
    hit.offset + byteLength hit.lexeme ≤ startOfNext source
      (later.map fun hit => ⟨hit.value, (LineIndex.ofText source).location hit.offset⟩) := by
  have hm : hit ∈ s.statement.scan source := by rw [hscan]; simp
  cases later with
  | nil =>
    obtain ⟨before, left, hsource, hoffset, -, -⟩ := Recogniser.mem_scan s.statement_consumes hm
    show _ ≤ byteLength source
    rw [hsource, hoffset, byteLength_append, byteLength_append]
    omega
  | cons next later =>
    have hnext : next ∈ s.statement.scan source := by rw [hscan]; simp
    have hapart := Recogniser.scan_apart s.statement_consumes source
    rw [hscan, List.pairwise_append, List.pairwise_cons] at hapart
    show _ ≤ ((LineIndex.ofText source).location next.offset).offset
    rw [location_offset_of_mem_scan s.statement_consumes hnext]
    exact hapart.2.1.1 next List.mem_cons_self

theorem makes_of_extract {s : ImportSyntax} {source : List Char} {earlier later : List ImportRef}
    {ref : ImportRef} (h : s.extract source = earlier ++ ref :: later) :
    s.Makes source (startOfNext source later) ref := by
  obtain ⟨front, back, hscan, -, hback⟩ := List.map_eq_append_iff.1 h
  obtain ⟨hit, behind, rfl, rfl, rfl⟩ := List.map_eq_cons_iff.1 hback
  have hm : hit ∈ s.statement.scan source := by rw [hscan]; simp
  exact makes_of_mem_scan hm (end_le_startOfNext hscan)

end ImportSyntax

theorem location_of_violation? {e : Ecosystem} {resolver : Resolver} {layer : String}
    {ref : ImportRef} {v : Violation} (h : e.violation? resolver layer ref = some v) :
    v.location = ref.location := by
  unfold Ecosystem.violation? at h
  split at h
  · cases h
  · next target _ =>
    by_cases hallowed : e.allows layer target = true
    · rw [if_pos hallowed] at h
      cases h
    · rw [if_neg hallowed] at h
      obtain rfl := Option.some.inj h
      rfl

theorem violations_ascending {r : Rulesets} {path : String} {content : List Char}
    {report : Report} (h : r.check path content = some report) :
    report.violations.Pairwise fun v v' => v.location.offset < v'.location.offset := by
  obtain ⟨place, -, hreport⟩ := Option.bind_eq_some_iff.1 h
  obtain ⟨e, -, hreport⟩ := Option.bind_eq_some_iff.1 hreport
  obtain rfl := Option.some.inj hreport
  exact e.importSyntax.filterMap_extract_ascending content fun _ _ hv => location_of_violation? hv

/-! ## Main statement -/

/-- The references of a source come in the order of their offsets, and each is made in the source
before the next one starts; so the violations of a report come in the order of their offsets, in
any rulesets. -/
theorem extraction_sound (s : ImportSyntax) (source : List Char) :
    (s.extract source).Pairwise
      (fun ref ref' => ref.location.offset < ref'.location.offset) ∧
    (∀ earlier ref later, s.extract source = earlier ++ ref :: later →
      s.Makes source (startOfNext source later) ref) ∧
    ∀ (r : Rulesets) (path : String) (report : Report), r.check path source = some report →
      report.violations.Pairwise fun v v' => v.location.offset < v'.location.offset :=
  ⟨s.extract_ascending source, fun _ _ _ h => ImportSyntax.makes_of_extract h,
    fun _ _ _ h => violations_ascending h⟩

/-- A controller that imports a gateway and a mapper, the first under an unfinished import. -/
def crowdedController : List Char :=
  "import (\nimport static shop.gateway.Card.*; import shop.mapper.Rows;".toList

theorem extraction_sound_crowded :
    ImportSyntax.java.extract crowdedController =
        [⟨"shop.gateway.Card.*".toList, ⟨2, 1, 9⟩⟩, ⟨"shop.mapper.Rows".toList, ⟨2, 36, 44⟩⟩] ∧
      ImportSyntax.java.Makes crowdedController 44
        ⟨"shop.gateway.Card.*".toList, ⟨2, 1, 9⟩⟩ ∧
      ∃ report, Builtin.rulesets.check "shop/controller/Pay.java" crowdedController = some report ∧
        report.violations.length = 2 ∧
        report.violations.Pairwise fun v v' => v.location.offset < v'.location.offset := by
  have hextract : ImportSyntax.java.extract crowdedController =
      [⟨"shop.gateway.Card.*".toList, ⟨2, 1, 9⟩⟩, ⟨"shop.mapper.Rows".toList, ⟨2, 36, 44⟩⟩] := by
    decide +kernel
  obtain ⟨-, hmakes, hviolations⟩ := extraction_sound .java crowdedController
  have hcount : (Builtin.rulesets.check "shop/controller/Pay.java" crowdedController).map
      (·.violations.length) = some 2 := by decide +kernel
  obtain ⟨report, hreport, hlength⟩ := Option.map_eq_some_iff.1 hcount
  exact ⟨hextract, hmakes [] _ _ hextract, report, hreport, hlength,
    hviolations _ _ report hreport⟩

end EditGuard.Imports
