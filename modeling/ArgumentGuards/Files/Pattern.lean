/-!
# Patterns for names

One part of a path is matched by a pattern: a question mark stands for one character, a star for any
number of them, and brackets for one character of a set or, after an exclamation mark, of none. Two
stars stand for any number of directories and must be a part by themselves.
-/

namespace ArgumentGuards

/-- What is wrong with a pattern. -/
inductive PatternError where
  | wildcards
  | recursiveWildcards
  | range
  deriving DecidableEq, Repr

/-- The wording of what is wrong with a pattern. -/
def PatternError.message : PatternError → String
  | .wildcards => "wildcards are either regular `*` or recursive `**`"
  | .recursiveWildcards => "recursive wildcards must form a single path component"
  | .range => "invalid range pattern"

/-- A piece of a pattern. -/
inductive Wildcard where
  | char (c : Char)
  | anyChar
  | anyChars
  | directories
  /-- One character of some inclusive ranges. -/
  | within (ranges : List (Char × Char))
  /-- One character of no such range. -/
  | outside (ranges : List (Char × Char))
  deriving DecidableEq, Repr

/-- The character that a piece stands for, unless it stands for several. -/
def Wildcard.char? : Wildcard → Option Char
  | .char c => some c
  | _ => none

/-- A pattern for one part of a path. -/
abbrev Pattern := List Wildcard

namespace Pattern

/-- The ranges of a set: two characters with a hyphen between them, or one character. -/
def ranges : List Char → List (Char × Char)
  | a :: '-' :: b :: rest => (a, b) :: ranges rest
  | a :: rest => (a, a) :: ranges rest
  | [] => []

/-- A set in brackets, from its first character on, and what follows it. -/
def set? (cs : List Char) : Option (List (Char × Char) × List Char) :=
  match cs with
  | [] => none
  | first :: rest =>
    match rest.dropWhile (· ≠ ']') with
    | [] => none
    | _ :: after => some (ranges (first :: rest.takeWhile (· ≠ ']')), after)

/--
The pieces of a pattern, after a character that came before them. Every step takes a character, so
the length of the text bounds the steps.
-/
def parseFrom : Nat → Option Char → List Char → Except PatternError Pattern
  | 0, _, _ => .ok []
  | _ + 1, _, [] => .ok []
  | bound + 1, previous, '*' :: rest =>
    let more := rest.takeWhile (· = '*')
    let after := rest.drop more.length
    match more.length with
    | 0 => (parseFrom bound (some '*') after).map (.anyChars :: ·)
    | 1 =>
      -- a slash or an end on both sides
      if previous.isSome && previous ≠ some '/' then .error .recursiveWildcards
      else
        match after with
        | [] => .ok [.directories]
        | '/' :: after => (parseFrom bound (some '/') after).map (.directories :: ·)
        | _ => .error .recursiveWildcards
    | _ => .error .wildcards
  | bound + 1, _, '?' :: rest => (parseFrom bound (some '?') rest).map (.anyChar :: ·)
  | bound + 1, _, '[' :: '!' :: rest =>
    match set? rest with
    | none => .error .range
    | some (set, after) => (parseFrom bound (some ']') after).map (.outside set :: ·)
  | bound + 1, _, '[' :: rest =>
    match set? rest with
    | none => .error .range
    | some (set, after) => (parseFrom bound (some ']') after).map (.within set :: ·)
  | bound + 1, _, c :: rest => (parseFrom bound (some c) rest).map (.char c :: ·)

/-- The pieces of a pattern. -/
def parse (text : String) : Except PatternError Pattern :=
  parseFrom text.toList.length none text.toList

/-- The name that a pattern without wildcards stands for. -/
def literal? (p : Pattern) : Option String := (p.mapM Wildcard.char?).map String.ofList

/-- Whether a pattern stands for any number of directories. -/
def isRecursive (p : Pattern) : Bool := p.contains .directories

/-- Whether a character lies in one of some ranges. -/
def inSet (set : List (Char × Char)) (c : Char) : Bool :=
  set.any fun (first, last) => first ≤ c && c ≤ last

/-- Whether a list or one of its ends passes a test, the whole list first. -/
def anyEnd (test : List Char → Bool) : List Char → Bool
  | [] => test []
  | c :: rest => test (c :: rest) || anyEnd test rest

/-- Whether a pattern matches all of a name. -/
def matchChars : Pattern → List Char → Bool
  | [], cs => cs.isEmpty
  | .anyChars :: rest, cs => anyEnd (matchChars rest) cs
  | .directories :: rest, cs => anyEnd (matchChars rest) cs
  | .char d :: rest, c :: cs => c = d && matchChars rest cs
  | .anyChar :: rest, _ :: cs => matchChars rest cs
  | .within set :: rest, c :: cs => inSet set c && matchChars rest cs
  | .outside set :: rest, c :: cs => !inSet set c && matchChars rest cs
  | .char _ :: _, [] => false
  | .anyChar :: _, [] => false
  | .within _ :: _, [] => false
  | .outside _ :: _, [] => false

/-- Whether a pattern matches a name. -/
def matchName (p : Pattern) (name : String) : Bool := matchChars p name.toList

end Pattern

end ArgumentGuards
