/-! # Wildcard patterns

`?` stands for one character, `*` for any text, `[…]` and `[!…]` for one character within or outside
a set, and `**` as a whole component of a path for any number of components.
-/

namespace EditGuard.Glob

inductive Specifier where
  | single (c : Char)
  | range (first last : Char)
  deriving DecidableEq, Repr

inductive Token where
  | char (c : Char)
  | anyChar
  | anySequence
  | anyComponents
  | within (set : List Specifier)
  | except (set : List Specifier)
  deriving DecidableEq, Repr

inductive PatternFault where
  | tooManyStars
  | partialComponent
  | openSet
  deriving DecidableEq, Repr

/-- Why a text is no pattern, and near which of its characters. -/
structure PatternError where
  position : Nat
  fault : PatternFault
  deriving DecidableEq, Repr

def PatternFault.message : PatternFault → String
  | tooManyStars => "wildcards are either regular `*` or recursive `**`"
  | partialComponent => "recursive wildcards must form a single path component"
  | openSet => "invalid range pattern"

def PatternError.message (e : PatternError) : String :=
  s!"Pattern syntax error near position {e.position}: {e.fault.message}"

/-! ## Reading a pattern -/

/-- The members that a set spells: ranges where a dash joins two characters, else single ones. -/
def specifiers : List Char → List Specifier
  | first :: '-' :: last :: rest => .range first last :: specifiers rest
  | c :: rest => .single c :: specifiers rest
  | [] => []

/-- The members of a set and the number of characters up to its bracket, inclusive. The first
member may be a bracket itself. -/
def set? : List Char → Option (List Specifier × Nat)
  | [] => none
  | first :: more =>
    if more.contains ']' then
      let others := more.takeWhile (· ≠ ']')
      some (specifiers (first :: others), others.length + 2)
    else none

/-- The token at a position, with the number of characters that spell it. -/
def token (before : Option Char) (position : Nat) (c : Char) (rest : List Char) :
    Except PatternError (Token × Nat) :=
  match c with
  | '?' => .ok (.anyChar, 1)
  | '*' =>
    match (rest.takeWhile (· = '*')).length with
    | 0 => .ok (.anySequence, 1)
    | 1 =>
      if before = none || before = some '/' then
        match rest.drop 1 with
        | [] => .ok (.anyComponents, 2)
        | next :: _ =>
          if next = '/' then .ok (.anyComponents, 3) else .error ⟨position + 2, .partialComponent⟩
      else .error ⟨position - 1, .partialComponent⟩
    | _ => .error ⟨position + 2, .tooManyStars⟩
  | '[' =>
    let found := match rest with
      | '!' :: rest => (set? rest).map fun (set, size) => (Token.except set, size + 2)
      | _ => (set? rest).map fun (set, size) => (Token.within set, size + 1)
    match found with
    | some result => .ok result
    | none => .error ⟨position, .openSet⟩
  | _ => .ok (.char c, 1)

/-- Reads the tokens from a position on, after first passing over `skip` characters. -/
def tokensFrom : (skip : Nat) → (before : Option Char) → (position : Nat) → List Char →
    Except PatternError (List Token)
  | _, _, _, [] => .ok []
  | skip + 1, _, position, c :: rest => tokensFrom skip (some c) (position + 1) rest
  | 0, before, position, c :: rest => do
    let (t, size) ← token before position c rest
    let more ← tokensFrom (size - 1) (some c) (position + 1) rest
    pure (t :: more)

structure Pattern where
  tokens : List Token
  deriving DecidableEq, Repr

def Pattern.parse (t : List Char) : Except PatternError Pattern :=
  (tokensFrom 0 none 0 t).map Pattern.mk

/-! ## Matching, whatever the case of ASCII letters -/

def isAscii (c : Char) : Bool := c.toNat < 128

def sameLetter (a b : Char) : Bool := a.toLower = b.toLower

/-- A range between two ASCII letters holds an ASCII character in either case. -/
def Specifier.accepts (c : Char) : Specifier → Bool
  | single x => sameLetter c x
  | range first last =>
    (isAscii c && first.isAlpha && last.isAlpha &&
      decide (first.toLower ≤ c.toLower) && decide (c.toLower ≤ last.toLower)) ||
    (decide (first ≤ c) && decide (c ≤ last))

def Token.accepts (c : Char) : Token → Bool
  | char x => sameLetter c x
  | within set => set.any (·.accepts c)
  | except set => !set.any (·.accepts c)
  | _ => true

def ends : List Char → List (List Char)
  | [] => [[]]
  | c :: rest => (c :: rest) :: ends rest

def endsBehindSlash : List Char → List (List Char)
  | [] => [[]]
  | c :: rest => if c = '/' then rest :: endsBehindSlash rest else endsBehindSlash rest

/-- What a token may leave of some texts. The texts are ends of the first of them, the longest
first, and so are those that are left. -/
def Token.leaves (texts : List (List Char)) : Token → List (List Char)
  | anySequence =>
    match texts with
    | [] => []
    | t :: _ => ends t
  | anyComponents =>
    match texts with
    | [] => []
    | t :: _ => (ends t).filter fun e => (endsBehindSlash t).contains e || texts.contains e
  | token =>
    texts.filterMap fun
      | [] => none
      | c :: t => if token.accepts c then some t else none

def Pattern.accepts (p : Pattern) (t : List Char) : Bool :=
  (p.tokens.foldl Token.leaves [t]).contains []

end EditGuard.Glob
