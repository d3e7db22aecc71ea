import ArgumentGuards.Json.Fault

/-!
# The outline of a JSON text

An outline is the tree of a text in which every value knows the bytes at which it begins and ends.
It is built for every text: where the text stops being JSON the outline stops too, and holds a
break there. Whoever reads an outline goes through it in the order of the text, so that the first
thing wrong is found, be it the text or the shape of a value.

What is wrong at one place depends on who comes to it. A reader that wants the value refuses
numbers that are too large, unpaired surrogates and deep nesting; one that passes over a value it
has no use for checks its grammar only, and names some breaks differently. So a break holds what
each of them says, and numbers and strings hold a fault in place of a value that cannot be had.
-/

namespace ArgumentGuards.Json

/-- A place where a text stops being JSON, and what is said of it. -/
structure Break where
  /-- By a reader of the value. -/
  whenRead : Fault
  /-- By a reader that passes over the value. -/
  whenSkipped : Fault
  /-- By a reader that looks for the name of one of several variants. -/
  whenNamed : Fault

/-- A break of which everybody says the same. -/
def Break.same (fault : Fault) : Break := ⟨fault, fault, fault⟩

/-- A key of an object. -/
structure Key where
  /-- The text of the key, or why it cannot be had. -/
  value : Except Fault String
  /-- The bytes up to the end of the key. -/
  stop : Nat
  /-- The bytes taken when the object is left right after the key. -/
  left : Nat

/-- What a reader meets that leaves an array or object right after one of its values. -/
structure Leaving where
  /-- The bytes taken then: an end that follows is taken, and so is a comma in an array. -/
  place : Nat
  /-- What is wrong with leaving there, unless the end follows. -/
  fault : Option Fault

/-- How an array or object ends. -/
inductive Ending where
  /-- After its closing bracket. -/
  | closed (stop : Nat)
  /-- In a break. -/
  | broken (here : Break)

/--
The outline of one value. Starts and stops count bytes of the text; `opened` counts those taken when
an array or object is left right after its bracket.
-/
inductive Node where
  | null (start stop : Nat)
  | bool (value : Bool) (start stop : Nat)
  | number (value : Except Fault Number) (start stop : Nat)
  | string (value : Except Fault String) (start stop : Nat)
  | array (start opened : Nat) (items : List (Node × Leaving)) (ending : Ending)
  | object (start opened : Nat) (members : List (Key × Node × Leaving)) (ending : Ending)
  | broken (here : Break)

/-- The values of an array in the order of the text. -/
abbrev Items := List (Node × Leaving)

/-- The members of an object in the order of the text. -/
abbrev Members := List (Key × Node × Leaving)

/-- An outline of a whole text: one value, and what is wrong after it. -/
structure Outline where
  root : Node
  trailing : Option Fault

/-! ## Passing over a value -/

/-- What a reader says of an ending that passes over the value. -/
def Ending.skipFault? : Ending → Option Fault
  | .closed _ => none
  | .broken here => some here.whenSkipped

/-- What a reader says of an ending that wants the value. -/
def Ending.readFault? : Ending → Option Fault
  | .closed _ => none
  | .broken here => some here.whenRead

mutual

/-- The first thing wrong with a value for a reader that passes over it. -/
def Node.skipFault? : Node → Option Fault
  | .array _ _ items ending => skipItemsFault? items <|> ending.skipFault?
  | .object _ _ members ending => skipMembersFault? members <|> ending.skipFault?
  | .broken here => some here.whenSkipped
  | .null _ _ => none
  | .bool _ _ _ => none
  | .number _ _ _ => none
  | .string _ _ _ => none

/-- The first thing wrong with the values of an array that is passed over. -/
def skipItemsFault? : List (Node × Leaving) → Option Fault
  | [] => none
  | (node, _) :: rest => node.skipFault? <|> skipItemsFault? rest

/-- The first thing wrong with the values of an object that is passed over. -/
def skipMembersFault? : List (Key × Node × Leaving) → Option Fault
  | [] => none
  | (_, node, _) :: rest => node.skipFault? <|> skipMembersFault? rest

end

/-! ## Reading a value whole -/

/-- The levels of arrays and objects that a reader opens inside one another. -/
def nestingLimit : Nat := 127

/-- The fault of opening one level too many: the bracket is looked at and not taken. -/
def tooDeepAt (start : Nat) : Fault := Cause.tooDeep.at (start + 1)

/-- The fault that stands in place of a value. -/
def faultOf? {α : Type} : Except Fault α → Option Fault
  | .ok _ => none
  | .error fault => some fault

mutual

/-- The first thing wrong with a value that is read whole, with so many levels left to open. -/
def Node.readFault? (room : Nat) : Node → Option Fault
  | .array start _ items ending =>
    if room = 0 then some (tooDeepAt start)
    else readItemsFault? (room - 1) items <|> ending.readFault?
  | .object start _ members ending =>
    if room = 0 then some (tooDeepAt start)
    else readMembersFault? (room - 1) members <|> ending.readFault?
  | .number value _ _ => faultOf? value
  | .string value _ _ => faultOf? value
  | .broken here => some here.whenRead
  | .null _ _ => none
  | .bool _ _ _ => none

/-- The first thing wrong with the values of an array that is read whole. -/
def readItemsFault? (room : Nat) : List (Node × Leaving) → Option Fault
  | [] => none
  | (node, _) :: rest => node.readFault? room <|> readItemsFault? room rest

/-- The first thing wrong with the members of an object that is read whole. -/
def readMembersFault? (room : Nat) : List (Key × Node × Leaving) → Option Fault
  | [] => none
  | (key, node, _) :: rest =>
    faultOf? key.value <|> node.readFault? room <|> readMembersFault? room rest

end

mutual

/-- The value of an outline that has nothing wrong. -/
def Node.toJson : Node → Json
  | .null _ _ => .null
  | .bool b _ _ => .bool b
  | .number (.ok n) _ _ => .number n
  | .number (.error _) _ _ => .null
  | .string (.ok s) _ _ => .string s
  | .string (.error _) _ _ => .null
  | .array _ _ items _ => .array (itemsToJson items)
  | .object _ _ members _ => .object (membersToJson members)
  | .broken _ => .null

/-- The values of the items of an array. -/
def itemsToJson : List (Node × Leaving) → List Json
  | [] => []
  | (node, _) :: rest => node.toJson :: itemsToJson rest

/-- The keys and values of an object. -/
def membersToJson : List (Key × Node × Leaving) → List (String × Json)
  | [] => []
  | (key, node, _) :: rest =>
    ((match key.value with | .ok k => k | .error _ => ""), node.toJson) :: membersToJson rest

end

end ArgumentGuards.Json
