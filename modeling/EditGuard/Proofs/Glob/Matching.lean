import EditGuard.Glob.Pattern
import EditGuard.Proofs.Text.Lowercase
import Mathlib

/-! # What a pattern accepts

A pattern is matched by keeping all that its tokens may leave of a text, token by token. It accepts
a text just when the tokens, one behind the other, make up the text. Without character sets this
does not see the case of ASCII letters, in the pattern as in the text.
-/

namespace EditGuard.Glob

open Text

/-! ## What is left of a text -/

/-- A token may take the beginning of the text and leave the rest. -/
def Token.Leaves (t rest : List Char) : Token → Prop
  | anySequence => rest <:+ t
  | anyComponents => rest = t ∨ (∃ passed, t = passed ++ '/' :: rest) ∨ rest = []
  | token => ∃ c, t = c :: rest ∧ token.accepts c = true

/-- The tokens, one behind the other, make up the text. -/
def Spells : List Token → List Char → Prop
  | [], t => t = []
  | token :: tokens, t => ∃ rest, token.Leaves t rest ∧ Spells tokens rest

theorem mem_ends_iff {e t : List Char} : e ∈ ends t ↔ e <:+ t := by
  induction t with
  | nil => simp [ends]
  | cons c t ih => simp [ends, ih, List.suffix_cons_iff]

theorem mem_endsBehindSlash_iff {e t : List Char} :
    e ∈ endsBehindSlash t ↔ e = [] ∨ ∃ passed, t = passed ++ '/' :: e := by
  induction t with
  | nil => simp [endsBehindSlash]
  | cons c t ih =>
    have hlonger : (∃ passed, c :: t = passed ++ '/' :: e) ↔
        (c = '/' ∧ t = e) ∨ ∃ passed, t = passed ++ '/' :: e := by
      simp [List.cons_eq_append_iff, exists_or, and_comm, eq_comm (a := e), eq_comm (a := '/')]
    rw [hlonger]
    by_cases hc : c = '/'
    · rw [endsBehindSlash, if_pos hc, List.mem_cons, ih]
      simp only [hc, true_and, eq_comm (a := e) (b := t)]
      exact or_left_comm
    · rw [endsBehindSlash, if_neg hc, ih]
      simp [hc]

/-- Each text is an end of all those before it. -/
def Nested (texts : List (List Char)) : Prop := texts.Pairwise fun t e => e <:+ t

theorem Nested.suffix_head {t : List Char} {texts : List (List Char)} (h : Nested (t :: texts))
    {e : List Char} (he : e ∈ t :: texts) : e <:+ t := by
  rcases List.mem_cons.1 he with rfl | he
  · exact List.suffix_refl e
  · exact (List.pairwise_cons.1 h).1 e he

theorem nested_ends (t : List Char) : Nested (ends t) := by
  induction t with
  | nil => exact List.pairwise_singleton _ _
  | cons c t ih =>
    refine List.pairwise_cons.2 ⟨fun e he => ?_, ih⟩
    exact (mem_ends_iff.1 he).trans (List.suffix_cons c t)

/-- What is left behind a character that a token accepts. -/
def Token.behindOne? (token : Token) : List Char → Option (List Char)
  | [] => none
  | c :: t => if token.accepts c then some t else none

theorem Token.behindOne?_eq_some_iff {token : Token} {t rest : List Char} :
    token.behindOne? t = some rest ↔ ∃ c, t = c :: rest ∧ token.accepts c = true := by
  cases t with
  | nil => simp [behindOne?]
  | cons c t =>
    by_cases h : token.accepts c = true
    · simp [behindOne?, h]
    · simp [behindOne?, h]

theorem Nested.behindOne {texts : List (List Char)} (h : Nested texts) (token : Token) :
    Nested (texts.filterMap token.behindOne?) := by
  refine List.Pairwise.filterMap _ ?_ h
  intro t e he rest hrest rest' hrest'
  obtain ⟨c, rfl, -⟩ := Token.behindOne?_eq_some_iff.1 hrest
  obtain ⟨c', rfl, -⟩ := Token.behindOne?_eq_some_iff.1 hrest'
  rcases List.suffix_cons_iff.1 he with heq | hsuffix
  · obtain ⟨-, rfl⟩ := List.cons.inj heq
    exact List.suffix_refl _
  · exact (List.suffix_cons c' rest').trans hsuffix

theorem Nested.leaves {texts : List (List Char)} (h : Nested texts) (token : Token) :
    Nested (token.leaves texts) := by
  cases token with
  | anySequence =>
    cases texts with
    | nil => exact h
    | cons t texts => exact nested_ends t
  | anyComponents =>
    cases texts with
    | nil => exact h
    | cons t texts => exact (nested_ends t).filter _
  | char c => exact h.behindOne (.char c)
  | anyChar => exact h.behindOne .anyChar
  | within set => exact h.behindOne (.within set)
  | except set => exact h.behindOne (.except set)

theorem mem_behindOne_iff {texts : List (List Char)} {token : Token} {rest : List Char} :
    rest ∈ texts.filterMap token.behindOne? ↔
      ∃ t ∈ texts, ∃ c, t = c :: rest ∧ token.accepts c = true := by
  simp only [List.mem_filterMap, Token.behindOne?_eq_some_iff]

/-- Components may leave a text itself, what stands behind a slash of it, and nothing; of nested
texts these are found among the ends of the first one. -/
theorem mem_leaves_anyComponents_iff {texts : List (List Char)} (h : Nested texts)
    {rest : List Char} :
    rest ∈ Token.anyComponents.leaves texts ↔ ∃ t ∈ texts, Token.anyComponents.Leaves t rest := by
  cases texts with
  | nil => simp [Token.leaves]
  | cons t texts =>
    have hmem : rest ∈ Token.anyComponents.leaves (t :: texts) ↔
        rest <:+ t ∧ (rest ∈ endsBehindSlash t ∨ rest ∈ t :: texts) := by
      simp [Token.leaves, mem_ends_iff]
    rw [hmem, mem_endsBehindSlash_iff]
    constructor
    · rintro ⟨-, (hnil | hslash) | hself⟩
      · exact ⟨t, List.mem_cons_self, Or.inr (Or.inr hnil)⟩
      · exact ⟨t, List.mem_cons_self, Or.inr (Or.inl hslash)⟩
      · exact ⟨rest, hself, Or.inl rfl⟩
    · rintro ⟨e, he, rfl | ⟨passed, rfl⟩ | rfl⟩
      · exact ⟨h.suffix_head he, Or.inr he⟩
      · obtain ⟨front, rfl⟩ := h.suffix_head he
        refine ⟨⟨front ++ passed ++ ['/'], by simp⟩, Or.inl (Or.inr ⟨front ++ passed, by simp⟩)⟩
      · exact ⟨List.nil_suffix, Or.inl (Or.inl rfl)⟩

theorem mem_leaves_iff {texts : List (List Char)} (h : Nested texts) (token : Token)
    {rest : List Char} : rest ∈ token.leaves texts ↔ ∃ t ∈ texts, token.Leaves t rest := by
  cases token with
  | anySequence =>
    cases texts with
    | nil => simp [Token.leaves]
    | cons t texts =>
      show rest ∈ ends t ↔ ∃ e ∈ t :: texts, rest <:+ e
      rw [mem_ends_iff]
      constructor
      · intro hrest
        exact ⟨t, List.mem_cons_self, hrest⟩
      · rintro ⟨e, he, hrest⟩
        exact hrest.trans (h.suffix_head he)
  | anyComponents => exact mem_leaves_anyComponents_iff h
  | char c => exact mem_behindOne_iff
  | anyChar => exact mem_behindOne_iff
  | within set => exact mem_behindOne_iff
  | except set => exact mem_behindOne_iff

theorem nil_mem_foldl_leaves_iff {texts : List (List Char)} (h : Nested texts)
    (tokens : List Token) :
    [] ∈ tokens.foldl Token.leaves texts ↔ ∃ t ∈ texts, Spells tokens t := by
  induction tokens generalizing texts with
  | nil => simp [Spells]
  | cons token tokens ih =>
    rw [List.foldl_cons, ih (h.leaves token)]
    constructor
    · rintro ⟨rest, hrest, hspells⟩
      obtain ⟨t, ht, hleaves⟩ := (mem_leaves_iff h token).1 hrest
      exact ⟨t, ht, rest, hleaves, hspells⟩
    · rintro ⟨t, ht, rest, hleaves, hspells⟩
      exact ⟨rest, (mem_leaves_iff h token).2 ⟨t, ht, hleaves⟩, hspells⟩

/-- A pattern accepts what its tokens make up. -/
theorem Pattern.accepts_iff (p : Pattern) (t : List Char) :
    p.accepts t = true ↔ Spells p.tokens t := by
  rw [accepts, List.contains_iff_mem, nil_mem_foldl_leaves_iff (List.pairwise_singleton _ t)]
  simp

/-! ## Letter case -/

theorem sameLetter_toLower_left (c x : Char) : sameLetter c.toLower x = sameLetter c x := by
  rw [sameLetter, sameLetter, Char.toLower_toLower_eq_toLower]

theorem sameLetter_toLower_right (c x : Char) : sameLetter c x.toLower = sameLetter c x := by
  rw [sameLetter, sameLetter, Char.toLower_toLower_eq_toLower]

theorem toLower_eq_slash_iff (c : Char) : c.toLower = '/' ↔ c = '/' := toLower_eq_iff (by decide) c

namespace Token

def lower : Token → Token
  | char c => char c.toLower
  | token => token

def IsPlain : Token → Prop
  | within _ => False
  | except _ => False
  | _ => True

theorem IsPlain.accepts_lower {token : Token} (h : token.IsPlain) (c : Char) :
    token.lower.accepts c.toLower = token.accepts c := by
  cases token with
  | char x => exact (sameLetter_toLower_left c _).trans (sameLetter_toLower_right c x)
  | anyChar => rfl
  | anySequence => rfl
  | anyComponents => rfl
  | within set => cases h
  | except set => cases h

/-- A plain token leaves of a text in lowercase what it leaves of the text, in lowercase. -/
theorem IsPlain.leaves_lower_iff {token : Token} (h : token.IsPlain) {t rest : List Char} :
    token.lower.Leaves (t.map Char.toLower) rest ↔
      ∃ left, rest = left.map Char.toLower ∧ token.Leaves t left := by
  have hone : (∃ c, t.map Char.toLower = c :: rest ∧ token.lower.accepts c = true) ↔
      ∃ left, rest = left.map Char.toLower ∧ ∃ c, t = c :: left ∧ token.accepts c = true := by
    constructor
    · rintro ⟨c, ht, haccepts⟩
      obtain ⟨x, left, rfl, rfl, rfl⟩ := List.map_eq_cons_iff.1 ht
      exact ⟨left, rfl, x, rfl, (h.accepts_lower x).symm.trans haccepts⟩
    · rintro ⟨left, rfl, c, rfl, haccepts⟩
      exact ⟨c.toLower, rfl, (h.accepts_lower c).trans haccepts⟩
  cases token with
  | char x => exact hone
  | anyChar => exact hone
  | anySequence =>
    show rest <:+ t.map Char.toLower ↔ _
    rw [List.suffix_map_iff]
    exact exists_congr fun left => and_comm
  | anyComponents =>
    constructor
    · rintro (rfl | ⟨passed, hslash⟩ | rfl)
      · exact ⟨t, rfl, Or.inl rfl⟩
      · obtain ⟨front, behind, rfl, -, hbehind⟩ := List.map_eq_append_iff.1 hslash
        obtain ⟨c, left, rfl, hc, rfl⟩ := List.map_eq_cons_iff.1 hbehind
        rw [(toLower_eq_slash_iff c).1 hc]
        exact ⟨left, rfl, Or.inr (Or.inl ⟨front, rfl⟩)⟩
      · exact ⟨[], rfl, Or.inr (Or.inr rfl)⟩
    · rintro ⟨left, rfl, rfl | ⟨passed, rfl⟩ | rfl⟩
      · exact Or.inl rfl
      · exact Or.inr (Or.inl ⟨passed.map Char.toLower, by rw [List.map_append]; rfl⟩)
      · exact Or.inr (Or.inr rfl)
  | within set => cases h
  | except set => cases h

end Token

theorem spells_lower_iff {tokens : List Token} (h : ∀ token ∈ tokens, token.IsPlain)
    (t : List Char) : Spells (tokens.map Token.lower) (t.map Char.toLower) ↔ Spells tokens t := by
  induction tokens generalizing t with
  | nil => simp [Spells]
  | cons token tokens ih =>
    obtain ⟨htoken, hrest⟩ := List.forall_mem_cons.1 h
    rw [List.map_cons]
    constructor
    · rintro ⟨rest, hleaves, hspells⟩
      obtain ⟨left, rfl, hleft⟩ := htoken.leaves_lower_iff.1 hleaves
      exact ⟨left, hleft, (ih hrest left).1 hspells⟩
    · rintro ⟨left, hleft, hspells⟩
      exact ⟨left.map Char.toLower, htoken.leaves_lower_iff.2 ⟨left, rfl, hleft⟩,
        (ih hrest left).2 hspells⟩

/-! ## Patterns in another case -/

theorem takeWhile_star_length (t : List Char) :
    ((t.map Char.toLower).takeWhile (· = '*')).length = (t.takeWhile (· = '*')).length := by
  have hstar : (fun c => decide (c = '*')) ∘ Char.toLower = fun c => decide (c = '*') := by
    funext c
    exact decide_eq_decide.2 (toLower_eq_iff (by decide) c)
  rw [List.takeWhile_map, hstar, List.length_map]

theorem map_toLower_eq_some_slash_iff (before : Option Char) :
    before.map Char.toLower = some '/' ↔ before = some '/' := by
  cases before with
  | none => simp
  | some c => simp [toLower_eq_slash_iff]

/-- A token is read alike from texts that differ in letter case, its own letter apart. -/
theorem token_map_toLower {c : Char} (hc : c ≠ '[') (before : Option Char) (position : Nat)
    (rest : List Char) :
    token (before.map Char.toLower) position c.toLower (rest.map Char.toLower) =
      (token before position c rest).map fun found => (found.1.lower, found.2) := by
  by_cases hquestion : c = '?'
  · rw [hquestion]
    rfl
  · by_cases hstar : c = '*'
    · rw [hstar]
      have hlength := takeWhile_star_length rest
      have hbefore := map_toLower_eq_some_slash_iff before
      have hdrop : (rest.map Char.toLower).drop 1 = (rest.drop 1).map Char.toLower :=
        List.map_drop.symm
      have hstarLower : '*'.toLower = '*' := rfl
      rw [hstarLower]
      simp only [token, hlength, hbefore, hdrop, Option.map_eq_none_iff]
      split
      · rfl
      · split
        · cases rest.drop 1 with
          | nil => rfl
          | cons next behind =>
            simp only [List.map_cons, toLower_eq_slash_iff]
            split <;> rfl
        · rfl
      · rfl
    · have hlower : ∀ mark : Char, mark.isAlpha = false → c ≠ mark → c.toLower ≠ mark :=
        fun mark hmark hne heq => hne ((toLower_eq_iff hmark c).1 heq)
      have hquestion' := hlower '?' (by decide) hquestion
      have hstar' := hlower '*' (by decide) hstar
      have hc' := hlower '[' (by decide) hc
      simp only [token]
      rfl

theorem isPlain_of_token {c : Char} (hc : c ≠ '[') {before : Option Char} {position : Nat}
    {rest : List Char} {found : Token × Nat} (h : token before position c rest = .ok found) :
    found.1.IsPlain := by
  unfold token at h
  grind [Token.IsPlain]

/-- Patterns without sets that differ in letter case are read alike. -/
theorem tokensFrom_map_toLower (skip : Nat) (before : Option Char) (position : Nat)
    {t : List Char} (h : '[' ∉ t) :
    tokensFrom skip (before.map Char.toLower) position (t.map Char.toLower) =
      (tokensFrom skip before position t).map (·.map Token.lower) := by
  induction t generalizing skip before position with
  | nil => cases skip <;> rfl
  | cons c t ih =>
    obtain ⟨hc, ht⟩ : '[' ≠ c ∧ '[' ∉ t := by simpa using h
    cases skip with
    | succ skip => exact ih skip (some c) (position + 1) ht
    | zero =>
      rw [List.map_cons, tokensFrom, tokensFrom, token_map_toLower hc.symm]
      cases token before position c t with
      | error e => rfl
      | ok found =>
        have hmore := ih (found.2 - 1) (some c) (position + 1) ht
        simp only [Except.map, bind, Except.bind, Option.map_some] at hmore ⊢
        rw [hmore]
        cases tokensFrom (found.2 - 1) (some c) (position + 1) t <;> rfl

theorem isPlain_of_tokensFrom {skip : Nat} {before : Option Char} {position : Nat} {t : List Char}
    (h : '[' ∉ t) {tokens : List Token} (htokens : tokensFrom skip before position t = .ok tokens) :
    ∀ token ∈ tokens, token.IsPlain := by
  induction t generalizing skip before position tokens with
  | nil =>
    obtain rfl : [] = tokens := by cases skip <;> exact Except.ok.inj htokens
    simp
  | cons c t ih =>
    obtain ⟨hc, ht⟩ : '[' ≠ c ∧ '[' ∉ t := by simpa using h
    cases skip with
    | succ skip => exact ih ht htokens
    | zero =>
      rw [tokensFrom] at htokens
      cases hfound : token before position c t with
      | error e =>
        rw [hfound] at htokens
        cases htokens
      | ok found =>
        cases hmore : tokensFrom (found.2 - 1) (some c) (position + 1) t with
        | error e =>
          simp only [hfound, hmore, bind, Except.bind] at htokens
          cases htokens
        | ok more =>
          simp only [hfound, hmore, bind, Except.bind, pure, Except.pure] at htokens
          obtain rfl := Except.ok.inj htokens
          exact List.forall_mem_cons.2 ⟨isPlain_of_token hc.symm hfound, ih ht hmore⟩

namespace Pattern

def lower (p : Pattern) : Pattern := ⟨p.tokens.map Token.lower⟩

theorem parse_map_toLower {t : List Char} (h : '[' ∉ t) :
    parse (t.map Char.toLower) = (parse t).map lower := by
  rw [parse, parse]
  have htokens := tokensFrom_map_toLower 0 none 0 h
  rw [Option.map_none] at htokens
  rw [htokens]
  cases tokensFrom 0 none 0 t <;> rfl

theorem accepts_lower {t : List Char} (h : '[' ∉ t) {p : Pattern} (hp : parse t = .ok p)
    (text : List Char) : p.lower.accepts (text.map Char.toLower) = p.accepts text := by
  have hplain : ∀ token ∈ p.tokens, token.IsPlain := by
    cases htokens : tokensFrom 0 none 0 t with
    | error e =>
      rw [parse, htokens] at hp
      cases hp
    | ok tokens =>
      rw [parse, htokens] at hp
      obtain rfl := Except.ok.inj hp
      exact isPlain_of_tokensFrom h htokens
  rw [Bool.eq_iff_iff, accepts_iff, accepts_iff]
  exact spells_lower_iff hplain text

/-- Patterns without sets do not see the case of ASCII letters, their own or those of a text. -/
theorem accepts_of_sameLetters {t t' : List Char} (h : '[' ∉ t) (hletters : SameLetters t t')
    {p : Pattern} (hp : parse t = .ok p) : ∃ p', parse t' = .ok p' ∧
      ∀ text text', SameLetters text text' → p.accepts text = p'.accepts text' := by
  have hbracket : ∀ s : List Char, '[' ∈ s ↔ '[' ∈ s.map Char.toLower := by
    intro s
    rw [List.mem_map]
    constructor
    · intro hs
      exact ⟨'[', hs, rfl⟩
    · rintro ⟨c, hc, hlower⟩
      rwa [← (toLower_eq_iff (by decide) c).1 hlower]
  have h' : '[' ∉ t' := by
    rw [hbracket, ← hletters, ← hbracket]
    exact h
  have hboth : (parse t').map lower = .ok p.lower := by
    rw [← parse_map_toLower h', ← hletters, parse_map_toLower h, hp]
    rfl
  cases hp' : parse t' with
  | error e =>
    rw [hp'] at hboth
    cases hboth
  | ok p' =>
    rw [hp'] at hboth
    refine ⟨p', rfl, fun text text' htext => ?_⟩
    rw [← accepts_lower h hp, ← accepts_lower h' hp', ← Except.ok.inj hboth, htext]

end Pattern

end EditGuard.Glob
