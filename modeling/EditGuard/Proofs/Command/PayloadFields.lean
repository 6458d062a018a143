import EditGuard.Proofs.Command.Configuration

/-! # Fields of a payload

The edited file is told by fields within `tool_input` and by fields at the top. Those within come
first, each for itself: a path is looked for without regard to the contents, and a content without
regard to the paths. What else a payload holds is of no consequence to the hooks.
-/

namespace EditGuard.Hook.Payload

open Json

/-! ## Members that count -/

/-- The value is an object whose member of this name is a text that is not empty. -/
def Holds (v : Value) (name text : String) : Prop :=
  v.get? name = some (.string text) ∧ text ≠ ""

/-- The member `tool_input` is such an object. -/
def HoldsWithin (v : Value) (name text : String) : Prop :=
  ∃ input, v.get? "tool_input" = some input ∧ Holds input name text

variable {v v' : Value} {name text : String}

theorem string?_eq_some_iff : v.string? = some text ↔ v = .string text := by
  cases v <;> simp [Value.string?]

theorem usable?_eq_some_iff : usable? v name = some text ↔ Holds v name text := by
  simp [usable?, Holds, Option.filter_eq_some_iff, Option.bind_eq_some_iff, string?_eq_some_iff]

theorem nested?_eq_some_iff : nested? v name = some text ↔ HoldsWithin v name text := by
  simp only [nested?, Option.bind_eq_some_iff, usable?_eq_some_iff, HoldsWithin]

theorem nested?_eq_none_iff : nested? v name = none ↔ ∀ text, ¬ HoldsWithin v name text := by
  simp only [Option.eq_none_iff_forall_ne_some, ne_eq, nested?_eq_some_iff]

/-- A field within depends on the member that it stands in, and there on its own value. -/
theorem nested?_eq (v : Value) (name : String) :
    nested? v name = (((v.get? "tool_input").bind (·.get? name)).bind Value.string?).filter
      (· ≠ "") := by
  rw [nested?]
  cases v.get? "tool_input" with
  | none => rfl
  | some input => rfl

/-! ## Paths and contents -/

/-- The path that a document gives: the one within, or else the one at the top. -/
inductive GivesPath (v : Value) : String → Prop where
  | within {path : String} (h : HoldsWithin v "file_path" path) : GivesPath v path
  | top {path : String} (hwithin : ∀ text, ¬ HoldsWithin v "file_path" text)
      (h : Holds v "file_path" path) : GivesPath v path

/-- The content that a document gives: the new content within, or else the content there, or else
the one at the top. -/
inductive GivesContent (v : Value) : String → Prop where
  | new {content : String} (h : HoldsWithin v "new_content" content) : GivesContent v content
  | within {content : String} (hnew : ∀ text, ¬ HoldsWithin v "new_content" text)
      (h : HoldsWithin v "content" content) : GivesContent v content
  | top {content : String} (hnew : ∀ text, ¬ HoldsWithin v "new_content" text)
      (hwithin : ∀ text, ¬ HoldsWithin v "content" text) (h : Holds v "content" content) :
      GivesContent v content

theorem path?_eq_some_iff {path : String} : path? v = some path ↔ GivesPath v path := by
  rw [path?, Option.or_eq_some_iff, nested?_eq_some_iff, nested?_eq_none_iff, usable?_eq_some_iff]
  constructor
  · rintro (h | ⟨hwithin, h⟩)
    · exact .within h
    · exact .top hwithin h
  · rintro (h | ⟨hwithin, h⟩)
    · exact Or.inl h
    · exact Or.inr ⟨hwithin, h⟩

theorem content?_eq_some_iff {content : String} :
    content? v = some content ↔ GivesContent v content := by
  rw [content?, Option.or_eq_some_iff, Option.or_eq_some_iff, nested?_eq_some_iff,
    nested?_eq_none_iff, nested?_eq_some_iff, nested?_eq_none_iff, usable?_eq_some_iff]
  constructor
  · rintro (h | ⟨hnew, h | ⟨hwithin, h⟩⟩)
    · exact .new h
    · exact .within hnew h
    · exact .top hnew hwithin h
  · rintro (h | ⟨hnew, h⟩ | ⟨hnew, hwithin, h⟩)
    · exact Or.inl h
    · exact Or.inr ⟨hnew, Or.inl h⟩
    · exact Or.inr ⟨hnew, Or.inr ⟨hwithin, h⟩⟩

theorem targetOf?_eq_some_iff {target : Target} : targetOf? v = some target ↔
    GivesPath v target.path ∧ GivesContent v target.content := by
  rw [← path?_eq_some_iff, ← content?_eq_some_iff, targetOf?]
  cases path? v with
  | none => simp
  | some path =>
    cases content? v with
    | none => simp
    | some content =>
      obtain ⟨path', content'⟩ := target
      simp

/-! ## What the fields within hide -/

/-- A document that names the file within and holds a content there. -/
structure NamesWithin (v : Value) : Prop where
  path : ∃ path, HoldsWithin v "file_path" path
  content : ∃ content, HoldsWithin v "new_content" content ∨ HoldsWithin v "content" content

theorem holdsWithin_congr (h : v'.get? "tool_input" = v.get? "tool_input") (name text : String) :
    HoldsWithin v' name text ↔ HoldsWithin v name text := by
  rw [HoldsWithin, HoldsWithin, h]

/-- Fields at the top are of no consequence then. -/
theorem NamesWithin.targetOf?_eq (hv : NamesWithin v)
    (h : v'.get? "tool_input" = v.get? "tool_input") :
    ∃ target, targetOf? v = some target ∧ targetOf? v' = some target := by
  obtain ⟨path, hpath⟩ := hv.path
  have hpath' : GivesPath v' path := .within ((holdsWithin_congr h _ _).2 hpath)
  by_cases hnew : ∃ content, HoldsWithin v "new_content" content
  · obtain ⟨content, hcontent⟩ := hnew
    have hcontent' : GivesContent v' content := .new ((holdsWithin_congr h _ _).2 hcontent)
    exact ⟨⟨path, content⟩, targetOf?_eq_some_iff.2 ⟨.within hpath, .new hcontent⟩,
      targetOf?_eq_some_iff.2 ⟨hpath', hcontent'⟩⟩
  · obtain ⟨content, hcontent | hcontent⟩ := hv.content
    · exact absurd ⟨content, hcontent⟩ hnew
    · have hnone : ∀ text, ¬ HoldsWithin v "new_content" text := fun text ht => hnew ⟨text, ht⟩
      have hnone' : ∀ text, ¬ HoldsWithin v' "new_content" text :=
        fun text ht => hnone text ((holdsWithin_congr h _ _).1 ht)
      have hcontent' : GivesContent v' content :=
        .within hnone' ((holdsWithin_congr h _ _).2 hcontent)
      exact ⟨⟨path, content⟩, targetOf?_eq_some_iff.2 ⟨.within hpath, .within hnone hcontent⟩,
        targetOf?_eq_some_iff.2 ⟨hpath', hcontent'⟩⟩

/-! ## Documents with nothing within -/

def targetFields : List String := ["file_path", "new_content", "content"]

/-- A document whose `tool_input` is missing, no object, or without any field of a target. -/
inductive NothingWithin (v : Value) : Prop where
  | missing (h : v.get? "tool_input" = none) : NothingWithin v
  | noObject {input : Value} (h : v.get? "tool_input" = some input)
      (hshape : ∀ members, input ≠ .object members) : NothingWithin v
  | noField {input : Value} (h : v.get? "tool_input" = some input)
      (hfields : ∀ name ∈ targetFields, ∀ text, ¬ Holds input name text) : NothingWithin v

def without (name : String) : Value → Value
  | .object members => .object (members.filter (·.1 != name))
  | v => v

theorem get?_without {name name' : String} (h : name' ≠ name) (v : Value) :
    (without name v).get? name' = v.get? name' := by
  cases v with
  | object members =>
    have hboth : ∀ member : String × Value,
        decide ((member.1 != name) = true ∧ (member.1 == name') = true) = (member.1 == name') := by
      intro member
      by_cases hm : member.1 = name'
      · simp [hm, h]
      · simp [hm]
    rw [without, Value.get?, Value.get?, ← List.filter_reverse, List.find?_filter]
    simp only [hboth]
  | _ => rfl

theorem get?_without_self (name : String) (v : Value) : (without name v).get? name = none := by
  cases v with
  | object members =>
    rw [without, Value.get?, Option.map_eq_none_iff, List.find?_eq_none]
    intro member hm
    rw [List.mem_reverse, List.mem_filter] at hm
    simpa using hm.2
  | _ => rfl

theorem get?_of_not_object (h : ∀ members, v ≠ .object members) (name : String) :
    v.get? name = none := by
  cases v with
  | object members => exact absurd rfl (h members)
  | _ => rfl

theorem NothingWithin.not_holdsWithin (h : NothingWithin v) (hname : name ∈ targetFields) :
    ¬ HoldsWithin v name text := by
  rintro ⟨input, hinput, hholds⟩
  cases h with
  | missing h =>
    rw [h] at hinput
    cases hinput
  | noObject h hshape =>
    obtain rfl := Option.some.inj (h.symm.trans hinput)
    rw [Holds, get?_of_not_object hshape] at hholds
    cases hholds.1
  | noField h hfields =>
    obtain rfl := Option.some.inj (h.symm.trans hinput)
    exact hfields name hname text hholds

theorem nothingWithin_without (v : Value) : NothingWithin (without "tool_input" v) :=
  .missing (get?_without_self "tool_input" v)

/-- With nothing within, a document gives what its fields at the top give. -/
theorem NothingWithin.targetOf?_eq (h : NothingWithin v) :
    targetOf? v = targetOf? (without "tool_input" v) := by
  have hnested : ∀ {w : Value}, NothingWithin w → ∀ name ∈ targetFields, nested? w name = none :=
    fun hw name hname => nested?_eq_none_iff.2 fun text => hw.not_holdsWithin hname
  have htop : ∀ name, name ≠ "tool_input" → usable? (without "tool_input" v) name =
      usable? v name := by
    intro name hname
    rw [usable?, usable?, get?_without hname]
  have hwithout := nothingWithin_without v
  have hpath : path? v = path? (without "tool_input" v) := by
    rw [path?, path?, hnested h _ (by decide), hnested hwithout _ (by decide), htop _ (by decide)]
  have hcontent : content? v = content? (without "tool_input" v) := by
    rw [content?, content?, hnested h _ (by decide), hnested h _ (by decide),
      hnested hwithout _ (by decide), hnested hwithout _ (by decide), htop _ (by decide)]
  rw [targetOf?, targetOf?, hpath, hcontent]

/-! ## Fields that hooks look at -/

/-- Documents that agree on the fields that hooks look at, within and at the top. -/
structure SameFields (v v' : Value) : Prop where
  top : ∀ name ∈ ["file_path", "content", "new_string"], v.get? name = v'.get? name
  within : ∀ name ∈ ["file_path", "new_content", "content", "new_string"],
    (v.get? "tool_input").bind (·.get? name) = (v'.get? "tool_input").bind (·.get? name)

namespace SameFields

theorem usable?_eq (h : SameFields v v') (hname : name ∈ ["file_path", "content", "new_string"]) :
    usable? v name = usable? v' name := by
  rw [usable?, usable?, h.top name hname]

theorem nested?_eq (h : SameFields v v')
    (hname : name ∈ ["file_path", "new_content", "content", "new_string"]) :
    nested? v name = nested? v' name := by
  rw [Payload.nested?_eq, Payload.nested?_eq, h.within name hname]

theorem path?_eq (h : SameFields v v') : path? v = path? v' := by
  rw [path?, path?, h.nested?_eq (by decide), h.usable?_eq (by decide)]

theorem content?_eq (h : SameFields v v') : content? v = content? v' := by
  have hcontent : nested? v "content" = nested? v' "content" := h.nested?_eq (by decide)
  rw [content?, content?, h.nested?_eq (by decide), hcontent, h.usable?_eq (by decide)]

theorem targetOf?_eq (h : SameFields v v') : targetOf? v = targetOf? v' := by
  rw [targetOf?, targetOf?, h.path?_eq, h.content?_eq]

theorem snippetOf?_eq (h : SameFields v v') : snippetOf? v = snippetOf? v' := by
  rw [snippetOf?, snippetOf?, h.nested?_eq (by decide), h.usable?_eq (by decide)]

end SameFields

theorem target?_of_document {p : Payload} (hv : p.document = .ok v) : p.target? = targetOf? v := by
  rw [target?, value?, hv]
  rfl

theorem snippet?_of_document {p : Payload} (hv : p.document = .ok v) :
    p.snippet? = snippetOf? v := by
  rw [snippet?, value?, hv]
  rfl

end EditGuard.Hook.Payload

namespace EditGuard.Command

open Config Hook Hook.Payload Json Text Time

/-! ## Main statement -/

/-- Hooks see no more of a payload than its target and its snippet. -/
theorem judge_outcome_congr {p p' : Payload} (htarget : p'.target? = p.target?)
    (hsnippet : p'.snippet? = p.snippet?) {t : Task} {now : Instant}
    {judge : Settings → Payload → Verdict} (ht : t.judge? now = some judge)
    (settings : Settings) : (judge settings p').outcome = (judge settings p).outcome := by
  rcases Task.judge?_cases ht with ⟨-, rfl⟩ | ⟨editLine, -, rfl⟩
  · rw [judgeLayers, judgeLayers, htarget]
  · have hhint : ∀ content, hint? editLine p' content = hint? editLine p content := by
      intro content
      cases editLine with
      | none => rw [hint?.eq_def, hint?.eq_def, hsnippet]
      | some n => rfl
    simp only [judgePhases, htarget, hhint]
    cases p.target? with
    | none => rfl
    | some target =>
      cases Review.GatedDocuments.compile settings.policy.documents with
      | error e => rfl
      | ok gated => rfl

theorem sameButTime_judge {t : Task} {now now' : Instant}
    {judge judge' : Settings → Payload → Verdict} (ht : t.judge? now = some judge)
    (ht' : t.judge? now' = some judge') (settings : Settings) (p : Payload) :
    SameButTime now now' (judge settings p).outcome (judge' settings p).outcome := by
  rcases Task.judge?_cases ht with ⟨rfl, rfl⟩ | ⟨editLine, rfl, rfl⟩
  · obtain rfl : judgeLayers = judge' := Option.some.inj ht'
    exact .same _
  · obtain rfl : judgePhases editLine now' = judge' := Option.some.inj ht'
    obtain ⟨denial, hdenial⟩ := exists_refusal_of_judgePhases editLine settings p
    rw [hdenial now, hdenial now']
    exact .of_refusal now now' denial

/-- The fields of a file within `tool_input` hide those at the top, and those that are missing or
of no use there leave them in place, the path and the content each for itself. Payloads with the
same fields are judged alike by both hooks, but for the time that a refusal names. -/
theorem fields_within_come_first {p : Payload} {v : Value} (hv : p.document = .ok v) :
    (NamesWithin v → ∀ (p' : Payload) v', p'.document = .ok v' →
      v'.get? "tool_input" = v.get? "tool_input" →
      ∃ target, p.target? = some target ∧ p'.target? = some target) ∧
    (NothingWithin v → ∀ p' : Payload, p'.document = .ok (without "tool_input" v) →
      p'.target? = p.target?) ∧
    (∀ target, p.target? = some target ↔
      GivesPath v target.path ∧ GivesContent v target.content) ∧
    ∀ (p' : Payload) v', p'.document = .ok v' → SameFields v v' →
      ∀ (t : Task) settings now now' judge judge', t.judge? now = some judge →
        t.judge? now' = some judge' →
        SameButTime now now' (judge settings p).outcome (judge' settings p').outcome := by
  refine ⟨?_, ?_, ?_, ?_⟩
  · intro hwithin p' v' hv' hsame
    rw [target?_of_document hv, target?_of_document hv']
    exact hwithin.targetOf?_eq hsame
  · intro hnothing p' hv'
    rw [target?_of_document hv, target?_of_document hv']
    exact hnothing.targetOf?_eq.symm
  · intro target
    rw [target?_of_document hv]
    exact targetOf?_eq_some_iff
  · intro p' v' hv' hfields t settings now now' judge judge' ht ht'
    have htarget : p'.target? = p.target? := by
      rw [target?_of_document hv, target?_of_document hv', hfields.targetOf?_eq]
    have hsnippet : p'.snippet? = p.snippet? := by
      rw [snippet?_of_document hv, snippet?_of_document hv', hfields.snippetOf?_eq]
    rw [judge_outcome_congr htarget hsnippet ht' settings]
    exact sameButTime_judge ht ht' settings p

/-- An edit with an empty path within and a path at the top, and with contents in both places. -/
def halfNamedEdit : Payload :=
  .ofBytes (toUtf8 ("\x7b\"file_path\": \"a.spec.md\", \"content\": \"x\", " ++
    "\"tool_input\": \x7b\"file_path\": \"\", \"content\": \"## Phase 1\"\x7d\x7d"))

def halfNamed : Value :=
  .object [("file_path", .string "a.spec.md"), ("content", .string "x"),
    ("tool_input", .object [("file_path", .string ""), ("content", .string "## Phase 1")])]

/-- The same edit with a field that no hook looks at. -/
def signedEdit : Payload :=
  .ofBytes (toUtf8 ("\x7b\"id\":\"7\",\"content\":\"x\",\"file_path\":\"a.spec.md\"," ++
    "\"tool_input\":\x7b\"content\":\"## Phase 1\",\"file_path\":\"\"\x7d\x7d"))

def signed : Value :=
  .object [("id", .string "7"), ("content", .string "x"), ("file_path", .string "a.spec.md"),
    ("tool_input", .object [("content", .string "## Phase 1"), ("file_path", .string "")])]

theorem fields_within_come_first_halfNamed :
    halfNamedEdit.target? = some ⟨"a.spec.md", "## Phase 1"⟩ ∧
      ∀ settings now, (judgePhases none now settings signedEdit).outcome.exitCode =
        (judgePhases none now settings halfNamedEdit).outcome.exitCode := by
  have hv : halfNamedEdit.document = .ok halfNamed := by with_unfolding_all rfl
  have hv' : signedEdit.document = .ok signed := by with_unfolding_all rfl
  obtain ⟨-, -, htarget, hjudged⟩ := fields_within_come_first hv
  have hpath : GivesPath halfNamed "a.spec.md" :=
    .top (nested?_eq_none_iff.1 rfl) ⟨rfl, by decide⟩
  have hcontent : GivesContent halfNamed "## Phase 1" :=
    .within (nested?_eq_none_iff.1 rfl) ⟨_, rfl, rfl, by decide⟩
  have hfields : SameFields halfNamed signed := by
    constructor
    · simp only [List.forall_mem_cons]
      exact ⟨rfl, rfl, rfl, List.forall_mem_nil _⟩
    · simp only [List.forall_mem_cons]
      exact ⟨rfl, rfl, rfl, rfl, List.forall_mem_nil _⟩
  refine ⟨(htarget _).2 ⟨hpath, hcontent⟩, fun settings now => ?_⟩
  exact (hjudged _ _ hv' hfields (.phaseReview none) settings now now _ _ rfl rfl).exitCode_eq

end EditGuard.Command
