import EditGuard.Proofs.Command.HookRun

/-! # Arguments that make no sense

A hook must not hold up an edit because of its own arguments, so where they make no sense the edit
passes unjudged. Whether a hook was meant is not told from the name of the command, but from all
arguments alike. The value of an option and a file to check may bear the name of a hook as well, and
a fault in the arguments of another command then looks like the end of a hook that went well.
-/

namespace EditGuard.Command

open Config Hook Text

/-! ## Options -/

/-- A piece of an argument that is read as an option. -/
def Piece.IsOption : Piece → Prop
  | .operand _ => False
  | .escape => False
  | _ => True

theorem looksLikeOption_iff {a : String} :
    looksLikeOption a = true ↔ ∃ c rest, a.toList = '-' :: c :: rest := by
  rw [looksLikeOption, Bool.and_eq_true, String.startsWith_string_iff, decide_eq_true_eq,
    ← String.length_toList]
  constructor
  · intro h
    obtain ⟨⟨rest, hrest⟩, hlength⟩ := h
    rw [← hrest] at hlength ⊢
    cases rest with
    | nil => exact absurd hlength (by decide)
    | cons c rest => exact ⟨c, rest, rfl⟩
  · intro h
    obtain ⟨c, rest, ha⟩ := h
    rw [ha]
    exact ⟨⟨c :: rest, rfl⟩, by simp⟩

section

variable {known : List Switch} {a : String}

theorem isOption_of_mem_letters (cs : List Char) : ∀ p ∈ (letters known cs).1, p.IsOption := by
  fun_induction letters known cs with
  | case1 => simp
  | case2 => simp [Piece.IsOption]
  | case3 => simp
  | case4 => simp [Piece.IsOption]
  | case5 => simp [Piece.IsOption]
  | case6 c rest switch _ _ more pending hmore ih => simp_all [Piece.IsOption]

theorem isOption_of_mem_longOption (body : List Char) :
    ∀ p ∈ (longOption known body).1, p.IsOption := by
  unfold longOption
  dsimp only
  split
  · simp [Piece.IsOption]
  · split <;> simp [Piece.IsOption]
  · split <;> simp [Piece.IsOption]

theorem argument_escape : argument known "--" = ([.escape], none) := rfl

theorem argument_operand (h : looksLikeOption a = false) :
    argument known a = ([.operand a], none) := by
  have hplain : ¬ ∃ c rest, a.toList = '-' :: c :: rest := by
    rw [← looksLikeOption_iff, h]
    exact Bool.false_ne_true
  unfold argument
  split
  · next ha => exact absurd ⟨_, _, ha⟩ hplain
  · next ha => exact absurd ⟨_, _, ha⟩ hplain
  · next ha => exact absurd ⟨_, _, ha⟩ hplain
  · rfl

theorem isOption_of_mem_argument (ha : a ≠ "--") (h : looksLikeOption a = true) :
    ∀ p ∈ (argument known a).1, p.IsOption := by
  obtain ⟨c, rest, htext⟩ := looksLikeOption_iff.1 h
  unfold argument
  split
  · next hescape => exact absurd (String.toList_inj.1 hescape) ha
  · exact isOption_of_mem_longOption _
  · exact isOption_of_mem_letters _
  · next hplain => exact absurd htext (hplain c rest)

theorem letters_ne_nil (c : Char) (cs : List Char) :
    (letters known (c :: cs)).1 = [] → (letters known (c :: cs)).2 ≠ none := by
  rw [letters]
  split
  · simp
  · split
    · split <;> simp
    · simp

theorem longOption_ne_nil (body : List Char) :
    (longOption known body).1 = [] → (longOption known body).2 ≠ none := by
  unfold longOption
  dsimp only
  split
  · simp
  · split <;> simp
  · split <;> simp

theorem argument_ne_nil (h : looksLikeOption a = true) :
    (argument known a).1 = [] → (argument known a).2 ≠ none := by
  obtain ⟨c, rest, htext⟩ := looksLikeOption_iff.1 h
  unfold argument
  split
  · simp
  · exact longOption_ne_nil _
  · exact letters_ne_nil _ _
  · next hplain => exact absurd htext (hplain c rest)

theorem piecesOf_escape (rest : List String) :
    piecesOf known ("--" :: rest) = (.escape, rest) :: rest.map (.operand ·, []) := by
  simp [piecesOf, argument_escape]

theorem piecesOf_operand (h : looksLikeOption a = false) (rest : List String) :
    piecesOf known (a :: rest) = (.operand a, rest) :: piecesOf known rest := by
  simp [piecesOf, argument_operand h]

theorem piecesOf_whole (ha : a ≠ "--") (h : looksLikeOption a = true)
    (hwhole : (argument known a).2 = none) (rest : List String) :
    piecesOf known (a :: rest) = (argument known a).1.map (·, rest) ++ piecesOf known rest := by
  have hoptions : ∀ p ∈ (argument known a).1, p.IsOption := isOption_of_mem_argument ha h
  cases hargument : argument known a with
  | mk found pending =>
    rw [hargument] at hwhole hoptions
    obtain rfl : pending = none := hwhole
    have hnot : found ≠ [.escape] := by
      rintro rfl
      exact hoptions .escape List.mem_cons_self
    rw [piecesOf.eq_def]
    simp only [hargument, if_neg hnot]

theorem piecesOf_half {switch : Switch} (hhalf : (argument known a).2 = some switch) :
    piecesOf known [a] =
      (argument known a).1.map (·, []) ++ [(.fault (.missingValue switch), [])] := by
  cases hargument : argument known a with
  | mk found pending =>
    rw [hargument] at hhalf
    obtain rfl : pending = some switch := hhalf
    rw [piecesOf.eq_def]
    simp only [hargument]

theorem piecesOf_value {switch : Switch} (hhalf : (argument known a).2 = some switch) (v : String)
    (rest : List String) : piecesOf known (a :: v :: rest) =
      (argument known a).1.map (·, v :: rest) ++
        if looksLikeOption v then [(.fault (.missingValue switch), [])]
        else (.valued switch v, rest) :: piecesOf known rest := by
  cases hargument : argument known a with
  | mk found pending =>
    rw [hargument] at hhalf
    obtain rfl : pending = some switch := hhalf
    rw [piecesOf.eq_def]
    simp only [hargument]

theorem head_piecesOf_option (ha : a ≠ "--") (h : looksLikeOption a = true) (rest : List String) :
    ∃ p behind more, piecesOf known (a :: rest) = (p, behind) :: more ∧ p.IsOption := by
  obtain ⟨tail, hpieces, htail⟩ : ∃ tail,
      piecesOf known (a :: rest) = (argument known a).1.map (·, rest) ++ tail ∧
        ((argument known a).2 ≠ none →
          ∃ p behind more, tail = (p, behind) :: more ∧ p.IsOption) := by
    cases hpending : (argument known a).2 with
    | none => exact ⟨_, piecesOf_whole ha h hpending rest, fun hhalf => absurd rfl hhalf⟩
    | some switch =>
      cases rest with
      | nil => exact ⟨_, piecesOf_half hpending, fun _ => ⟨_, _, _, rfl, trivial⟩⟩
      | cons v rest =>
        refine ⟨_, piecesOf_value hpending v rest, fun _ => ?_⟩
        split
        · exact ⟨_, _, _, rfl, trivial⟩
        · exact ⟨_, _, _, rfl, trivial⟩
  rw [hpieces]
  cases hfound : (argument known a).1 with
  | nil => exact htail (argument_ne_nil h hfound)
  | cons p ps =>
    have hp : p ∈ (argument known a).1 := hfound ▸ List.mem_cons_self
    exact ⟨p, rest, _, rfl, isOption_of_mem_argument ha h p hp⟩

end

/-! ## Reading up to the command -/

namespace Level

variable {l l' root : Level} {p : Piece} {behind : List String} {more : List (Piece × List String)}
  {found : Option (String × List String)}

theorem untilCommand_option (hp : p.IsOption)
    (h : untilCommand l ((p, behind) :: more) = .ok (root, found)) :
    ∃ l', l.enter false p = .ok l' ∧ untilCommand l' more = .ok (root, found) := by
  have hstep : untilCommand l ((p, behind) :: more) =
      (l.enter false p).bind fun l => untilCommand l more := by
    cases p with
    | operand text => cases hp
    | escape => cases hp
    | flag switch => rfl
    | valued switch value => rfl
    | fault f => rfl
  rw [hstep] at h
  cases hentered : l.enter false p with
  | error stop =>
    rw [hentered] at h
    cases h
  | ok l' =>
    rw [hentered] at h
    exact ⟨l', rfl, h⟩

theorem untilCommand_options {ps : List Piece} (hps : ∀ p ∈ ps, p.IsOption)
    (h : untilCommand l (ps.map (·, behind) ++ more) = .ok (root, found)) :
    ∃ l', untilCommand l' more = .ok (root, found) := by
  induction ps generalizing l with
  | nil => exact ⟨l, h⟩
  | cons p ps ih =>
    obtain ⟨hp, hps⟩ := List.forall_mem_cons.1 hps
    obtain ⟨l', -, hrest⟩ := untilCommand_option hp h
    exact ih hps hrest

theorem enterFlag_ne_empty {switch : Switch} (h : l.enterFlag switch = .ok l') : l' ≠ {} := by
  rintro rfl
  cases switch with
  | verbose =>
    rw [enterFlag] at h
    split at h
    · cases h
    · simp at h
  | force =>
    rw [enterFlag] at h
    split at h
    · cases h
    · simp at h
  | _ => cases h

theorem enterValue_ne_empty {switch : Switch} {value : String}
    (h : l.enterValue value switch = .ok l') : l' ≠ {} := by
  rintro rfl
  cases switch with
  | config =>
    rw [enterValue] at h
    split at h
    · cases h
    · split at h
      · cases h
      · simp at h
  | editLine =>
    rw [enterValue] at h
    split at h
    · cases h
    · split at h
      · simp at h
      · cases h
  | format =>
    rw [enterValue] at h
    split at h
    · cases h
    · split at h
      · simp at h
      · cases h
  | _ => cases h

/-- An option that is taken is noted down. -/
theorem enter_ne_empty (hp : p.IsOption) (h : l.enter false p = .ok l') : l' ≠ {} := by
  cases p with
  | operand text => cases hp
  | escape => cases hp
  | fault f => cases h
  | flag switch => exact enterFlag_ne_empty h
  | valued switch value => exact enterValue_ne_empty h

/-- Without a command and without options there is nothing but perhaps the two dashes. -/
theorem untilCommand_none {pieces : List (Piece × List String)}
    (h : untilCommand l pieces = .ok (root, none)) :
    root ≠ {} ∨ l = root ∧ (pieces = [] ∨ ∃ more, pieces = (.escape, []) :: more) := by
  induction pieces generalizing l with
  | nil =>
    cases h
    exact Or.inr ⟨rfl, Or.inl rfl⟩
  | cons piece more ih =>
    obtain ⟨p, behind⟩ := piece
    by_cases hp : p.IsOption
    · obtain ⟨l', hentered, hrest⟩ := untilCommand_option hp h
      rcases ih hrest with hroot | ⟨rfl, -⟩
      · exact Or.inl hroot
      · exact Or.inl (enter_ne_empty hp hentered)
    · cases p with
      | operand text => cases h
      | escape =>
        cases behind with
        | nil =>
          cases h
          exact Or.inr ⟨rfl, Or.inr ⟨more, rfl⟩⟩
        | cons a behind => cases h
      | _ => exact absurd trivial hp

end Level

/-! ## The name of the command -/

/-- The name of the command that is meant: the first argument that is neither an option nor the
value of one. Behind two dashes none is expected. -/
def commandName? : List String → Option String
  | [] => none
  | a :: rest =>
    if a = "--" then none
    else if looksLikeOption a then
      match (argument rootSwitches a).2, rest with
      | some _, v :: rest =>
        if looksLikeOption v then commandName? (v :: rest) else commandName? rest
      | _, rest => commandName? rest
    else some a

theorem mem_of_commandName? {args : List String} {name : String}
    (h : commandName? args = some name) : name ∈ args := by
  fun_induction commandName? args with
  | case1 => cases h
  | case2 => cases h
  | case3 a _ _ _ v rest _ _ ih => exact List.mem_cons_of_mem a (ih h)
  | case4 a _ _ _ v rest _ _ ih =>
    exact List.mem_cons_of_mem a (List.mem_cons_of_mem v (ih h))
  | case5 a _ _ rest _ ih => exact List.mem_cons_of_mem a (ih h)
  | case6 a rest =>
    obtain rfl := Option.some.inj h
    exact List.mem_cons_self

/-- Wherever the name of a command is read, it is the one that is meant. -/
theorem commandName?_of_untilCommand {args : List String} {l root : Level} {name : String}
    {behind : List String}
    (h : Level.untilCommand l (piecesOf rootSwitches args) = .ok (root, some (name, behind))) :
    commandName? args = some name := by
  fun_induction commandName? args generalizing l with
  | case1 => cases h
  | case2 rest =>
    rw [piecesOf_escape] at h
    cases rest with
    | nil => cases h
    | cons a rest => cases h
  | case3 a ha hoption switch v rest hhalf hv ih =>
    rw [piecesOf_value hhalf, if_pos hv] at h
    obtain ⟨l', h⟩ := Level.untilCommand_options (isOption_of_mem_argument ha hoption) h
    cases h
  | case4 a ha hoption switch v rest hhalf hv ih =>
    rw [piecesOf_value hhalf, if_neg hv] at h
    obtain ⟨l', h⟩ := Level.untilCommand_options (isOption_of_mem_argument ha hoption) h
    have hvalued : (Piece.valued switch v).IsOption := trivial
    obtain ⟨l'', -, h⟩ := Level.untilCommand_option hvalued h
    exact ih h
  | case5 a ha hoption rest hwhole ih =>
    cases hpending : (argument rootSwitches a).2 with
    | none =>
      rw [piecesOf_whole ha hoption hpending] at h
      obtain ⟨l', h⟩ := Level.untilCommand_options (isOption_of_mem_argument ha hoption) h
      exact ih h
    | some switch =>
      cases rest with
      | nil =>
        rw [piecesOf_half hpending] at h
        obtain ⟨l', h⟩ := Level.untilCommand_options (isOption_of_mem_argument ha hoption) h
        cases h
      | cons v rest => exact absurd rfl (hwhole switch v rest hpending)
  | case6 a rest ha hoption =>
    rw [piecesOf_operand (Bool.eq_false_iff.2 hoption)] at h
    cases h
    rfl

/-! ## Ends for want of arguments -/

/-- The reading does not end for want of arguments. -/
def Answers {α : Type} (x : Except Stop α) : Prop := x ≠ .error .nothing

section

variable {α β : Type} {x : Except Stop α} {f : α → Except Stop β}

theorem answers_ok (a : α) : Answers (.ok a) := nofun

theorem answers_refuse (fault : UsageFault) : Answers (Level.refuse fault : Except Stop α) := nofun

theorem Answers.bind (hx : Answers x) (hf : ∀ a, Answers (f a)) : Answers (x >>= f) := by
  cases x with
  | error stop => exact fun h => hx (congrArg _ (Except.error.inj h))
  | ok a => exact hf a

end

namespace Level

theorem answers_enterFlag (l : Level) (switch : Switch) : Answers (l.enterFlag switch) := by
  unfold enterFlag
  split
  · split <;> nofun
  · split <;> nofun
  all_goals nofun

theorem answers_enterValue (l : Level) (value : String) (switch : Switch) :
    Answers (l.enterValue value switch) := by
  unfold enterValue
  split
  · split
    · nofun
    · split <;> nofun
  · split
    · nofun
    · split <;> nofun
  · split
    · nofun
    · split <;> nofun
  · nofun

theorem answers_enter (takesPaths : Bool) (l : Level) (p : Piece) :
    Answers (l.enter takesPaths p) := by
  cases p with
  | flag switch => exact l.answers_enterFlag switch
  | valued switch value => exact l.answers_enterValue value switch
  | operand text =>
    rw [enter]
    split
    · nofun
    · split <;> nofun
  | escape => exact answers_ok l
  | fault f => exact answers_refuse f

theorem answers_ofArguments (known : List Switch) (takesPaths : Bool) (args : List String) :
    Answers (ofArguments known takesPaths args) := by
  unfold ofArguments
  generalize piecesOf known args = pieces
  generalize ({} : Level) = l
  induction pieces generalizing l with
  | nil => exact answers_ok l
  | cons piece pieces ih =>
    rw [List.foldlM_cons]
    exact (answers_enter takesPaths l piece.1).bind fun l => ih l

theorem answers_untilCommand (l : Level) (pieces : List (Piece × List String)) :
    Answers (untilCommand l pieces) := by
  fun_induction untilCommand l pieces with
  | case1 l => exact answers_ok _
  | case2 l => exact answers_ok _
  | case3 l => exact answers_ok _
  | case4 l => exact answers_refuse _
  | case5 l piece behind more _ _ _ ih => exact (answers_enter false l piece).bind ih

end Level

theorem answers_ofVerb (root : Level) (environment : Option String) (name : String)
    (args : List String) : Answers (Invocation.ofVerb root environment name args) := by
  unfold Invocation.ofVerb
  split
  · exact answers_refuse _
  · next verb _ =>
    refine (Level.answers_ofArguments _ _ _).bind fun behind => ?_
    refine Answers.bind ?_ fun task => Answers.bind ?_ fun config => answers_ok _
    · cases verb with
      | hook kind => cases kind <;> nofun
      | check =>
        rw [Verb.task]
        split <;> nofun
      | listRules => nofun
      | init => nofun
    · rw [namedConfig]
      split <;> nofun

/-- Only the two dashes count for nothing. -/
theorem args_of_untilCommand_none {args : List String}
    (h : Level.untilCommand {} (piecesOf rootSwitches args) = .ok ({}, none)) :
    args = [] ∨ args = ["--"] := by
  rcases Level.untilCommand_none h with hroot | ⟨-, hpieces⟩
  · exact absurd rfl hroot
  cases args with
  | nil => exact Or.inl rfl
  | cons a rest =>
    by_cases ha : a = "--"
    · subst ha
      rw [piecesOf_escape] at hpieces
      simpa using hpieces
    · by_cases hoption : looksLikeOption a = true
      · obtain ⟨p, behind, more, hhead, hp⟩ := head_piecesOf_option ha hoption rest
        rw [hhead] at hpieces
        rcases hpieces with hnone | ⟨more', hescape⟩
        · cases hnone
        · cases hescape
          cases hp
      · rw [piecesOf_operand (Bool.eq_false_iff.2 hoption)] at hpieces
        simp at hpieces

theorem helpOn_ne_nothing (topics : List String) : helpOn topics ≠ .nothing := by
  unfold helpOn
  split
  · nofun
  · split <;> nofun
  · nofun

theorem args_of_nothing {args : List String} {environment : Option String}
    (h : Invocation.ofArguments args environment = .error .nothing) :
    args = [] ∨ args = ["--"] := by
  unfold Invocation.ofArguments at h
  cases huntil : Level.untilCommand {} (piecesOf rootSwitches args) with
  | error stop =>
    rw [huntil] at h
    obtain rfl : stop = .nothing := Except.error.inj h
    exact absurd huntil (Level.answers_untilCommand _ _)
  | ok read =>
    obtain ⟨root, found⟩ := read
    rw [huntil] at h
    cases found with
    | none =>
      by_cases hroot : root = {}
      · subst hroot
        exact args_of_untilCommand_none huntil
      · simp [bind, Except.bind, hroot, Level.refuse] at h
    | some found =>
      obtain ⟨name, rest⟩ := found
      by_cases hname : name = helpName
      · have hhelp : helpOn rest = .nothing := by
          simpa [bind, Except.bind, hname] using h
        exact absurd hhelp (helpOn_ne_nothing rest)
      · have hverb : Invocation.ofVerb root environment name rest = .error .nothing := by
          simpa [bind, Except.bind, hname] using h
        exact absurd hverb (answers_ofVerb root environment name rest)

/-! ## Runs -/

theorem namesHook_iff {args : List String} :
    namesHook args = true ↔ ∃ kind : Kind, kind.name ∈ args := by
  have hall : ∀ kind : Kind, kind ∈ Kind.all := by
    intro kind
    cases kind <;> decide
  simp only [namesHook, List.any_eq_true, beq_iff_eq]
  constructor
  · intro h
    obtain ⟨a, ha, kind, -, rfl⟩ := h
    exact ⟨kind, ha⟩
  · intro h
    obtain ⟨kind, hkind⟩ := h
    exact ⟨kind.name, hkind, kind, hall kind, rfl⟩

/-- A run that tells what is wrong with its arguments and then lets the edit pass; if this cannot be
told, the run breaks off. -/
structure PassesUnjudged (h : Host) (f : UsageFault) (ended : Finish) : Prop where
  told : (h.stderr.write (toUtf8 (usageText f))).2 = none → ended.code = 0 ∧
    (h.stdout.TakesAll → h.stdin.fault = none →
      ended.stdout.written = h.stdout.written ++ passedOn h.stdin.bytes)
  untold : (h.stderr.write (toUtf8 (usageText f))).2 ≠ none →
    ended.code = unwritableCode ∧ ended.stdout = h.stdout

namespace Host

variable {h : Host} {args : List String} {stop : Stop} {f : UsageFault}

theorem passesUnjudged_passThrough (h : Host) (f : UsageFault) :
    PassesUnjudged h f (h.passThrough (usageText f)) := by
  cases hwrite : h.stderr.write (toUtf8 (usageText f)) with
  | mk stderr fault =>
    cases fault with
    | none =>
      refine ⟨fun _ => ?_, fun hrefused => absurd (by rw [hwrite]) hrefused⟩
      rw [passThrough, hwrite]
      refine ⟨rfl, fun hstdout hwhole => ?_⟩
      rw [← forwarded_ofBytes, ← receivedPayload_of_whole hwhole]
      exact (Outcome.forward_written hstdout (receivedPayload h.stdin) stderr).1
    | some fault =>
      refine ⟨fun htaken => ?_, fun _ => ?_⟩
      · rw [hwrite] at htaken
        cases htaken
      · rw [passThrough, hwrite]
        exact ⟨rfl, rfl⟩

/-- Arguments that name a hook lead to no end but this one, if they are at fault. -/
theorem run_of_hook_named (hstop : Invocation.ofArguments args (h.value? "SPEC_HOOKS_CONFIG") =
    .error stop) (hhelp : stop ≠ .help) (hversion : stop ≠ .version)
    (hnamed : ∃ kind : Kind, kind.name ∈ args) :
    ∃ f, stop = .usage f ∧ PassesUnjudged h f (h.run args) := by
  have hnames : namesHook args = true := namesHook_iff.2 hnamed
  have hrun : h.run args = h.stop args stop := by rw [run, hstop]
  cases stop with
  | help => exact absurd rfl hhelp
  | version => exact absurd rfl hversion
  | nothing =>
    rcases args_of_nothing hstop with rfl | rfl
    · cases hnames
    · exact absurd hnames (by decide)
  | usage f =>
    rw [Host.stop, if_pos hnames] at hrun
    exact ⟨f, rfl, hrun ▸ passesUnjudged_passThrough h f⟩

theorem run_of_no_hook_named (hstop : Invocation.ofArguments args (h.value? "SPEC_HOOKS_CONFIG") =
    .error stop) (hhelp : stop ≠ .help) (hversion : stop ≠ .version)
    (hnamed : ¬ ∃ kind : Kind, kind.name ∈ args) :
    (h.run args).code = usageCode ∧ (h.run args).stdout = h.stdout := by
  have hnames : namesHook args = false := by
    rw [← namesHook_iff] at hnamed
    exact Bool.eq_false_iff.2 hnamed
  have hrun : h.run args = h.stop args stop := by rw [run, hstop]
  rw [hrun]
  cases stop with
  | help => exact absurd rfl hhelp
  | version => exact absurd rfl hversion
  | nothing => exact ⟨rfl, rfl⟩
  | usage f =>
    rw [Host.stop, hnames]
    exact ⟨rfl, rfl⟩

end Host

theorem PassesUnjudged.code_ne {h : Host} {f : UsageFault} {ended : Finish}
    (hpasses : PassesUnjudged h f ended) : ended.code ≠ usageCode := by
  by_cases htold : (h.stderr.write (toUtf8 (usageText f))).2 = none
  · rw [(hpasses.told htold).1]
    decide
  · rw [(hpasses.untold htold).1]
    decide

/-- Arguments at fault end the run in two, with nothing on standard output, if and only if none of
them is the name of a hook; else the edit passes unjudged. So it does where a hook is meant, and so
it does where another command is meant, or none, and a hook is named by an option's value or by an
operand. -/
theorem usage_fault_refused_iff {h : Host} {args : List String} {stop : Stop}
    (hstop : Invocation.ofArguments args (h.value? "SPEC_HOOKS_CONFIG") = .error stop)
    (hhelp : stop ≠ .help) (hversion : stop ≠ .version) :
    (∀ root name behind, Level.untilCommand {} (piecesOf rootSwitches args) =
      .ok (root, some (name, behind)) → commandName? args = some name) ∧
    (∀ kind : Kind, commandName? args = some kind.name →
      ∃ f, stop = .usage f ∧ PassesUnjudged h f (h.run args)) ∧
    ((h.run args).code = usageCode ∧ (h.run args).stdout = h.stdout ↔
      ∀ kind : Kind, kind.name ∉ args) ∧
    ((∃ kind : Kind, kind.name ∈ args) →
      ∃ f, stop = .usage f ∧ PassesUnjudged h f (h.run args)) := by
  have hpasses := Host.run_of_hook_named hstop hhelp hversion
  refine ⟨fun root name behind => commandName?_of_untilCommand, ?_, ⟨?_, ?_⟩, hpasses⟩
  · intro kind hmeant
    exact hpasses ⟨kind, mem_of_commandName? hmeant⟩
  · intro hended kind hkind
    obtain ⟨f, -, hunjudged⟩ := hpasses ⟨kind, hkind⟩
    exact hunjudged.code_ne hended.1
  · intro hnone
    exact Host.run_of_no_hook_named hstop hhelp hversion (not_exists.2 hnone)

def smallPayload : Host := Host.bare ⟨toUtf8 "\x7b\"a\":1\x7d", none⟩

theorem usage_fault_refused_iff_smallPayload :
    (smallPayload.run ["phase-review", "--edit-line", "abc"]).code = 0 ∧
      (smallPayload.run ["phase-review", "--edit-line", "abc"]).stdout.written =
        toUtf8 "\x7b\"a\":1\x7d" ∧
      (smallPayload.run ["check", "--format", "bogus", "a.spec.md"]).code = usageCode := by
  have hline : Invocation.ofArguments ["phase-review", "--edit-line", "abc"] none =
      .error (.usage (.invalidValue .editLine "abc")) := by decide +kernel
  have hformat : Invocation.ofArguments ["check", "--format", "bogus", "a.spec.md"] none =
      .error (.usage (.invalidValue .format "bogus")) := by decide +kernel
  obtain ⟨-, hmeant, -, -⟩ := usage_fault_refused_iff (h := smallPayload) hline nofun nofun
  obtain ⟨-, -, hrefused, -⟩ := usage_fault_refused_iff (h := smallPayload) hformat nofun nofun
  obtain ⟨f, -, hpasses⟩ := hmeant .phaseReview (by decide +kernel)
  obtain ⟨hcode, hwritten⟩ := hpasses.told rfl
  refine ⟨hcode, ?_, (hrefused.2 ?_).1⟩
  · rw [hwritten trivial rfl]
    decide +kernel
  · intro kind
    cases kind <;> decide

/-- A check with a format that there is not, and a file that bears the name of a hook, ends well
and writes the payload. -/
theorem usage_fault_passes_check :
    let args := ["check", "--format", "bogus", "architecture"]
    Invocation.ofArguments args (smallPayload.value? "SPEC_HOOKS_CONFIG") =
      .error (.usage (.invalidValue .format "bogus")) ∧
    commandName? args = some "check" ∧
    (smallPayload.run args).code = 0 ∧
    (smallPayload.run args).stdout.written = toUtf8 "\x7b\"a\":1\x7d" := by
  refine ⟨?_, ?_, ?_, ?_⟩
  · decide +kernel
  · decide +kernel
  · decide +kernel
  · decide +kernel

end EditGuard.Command
