import ArgumentGuards.Json.Outline.Scanner

/-!
# Decoders

A decoder reads the outline of a value as a value of a domain type, or finds the first fault.
There are two ways to come to an outline. A value is read from the *text* in the order of the text,
and faults have places; or it has been *buffered*: read whole because its shape depends on a member
that may stand anywhere in it. A buffered value has no syntax faults any more, and what is wrong
with its shape has no place, since the text has moved on. The two ways also differ in how the name
of a variant may be written.
-/

namespace ArgumentGuards.Json

/-- Whether a value is read from the text or from a buffer. -/
inductive Origin where
  | text
  | buffer
  deriving DecidableEq, Repr

/-- Reads an outline, with so many levels of arrays and objects left to open. -/
abbrev Decoder (α : Type) := Origin → Nat → Node → Except Fault α

/-- A fault of this part has the given place unless it has one already. -/
def placedAt {α : Type} (place : Nat) : Except Fault α → Except Fault α
  | .ok a => .ok a
  | .error fault => .error (fault.orAt place)

/-- A part read from a buffer: its faults have no place. -/
def unplaced {α : Type} : Except Fault α → Except Fault α
  | .ok a => .ok a
  | .error fault => .error fault.unplace

/-- The levels left inside an array or object, unless it is one too many. -/
def Origin.enter (origin : Origin) (room start : Nat) : Except Fault Nat :=
  match origin, room with
  | .text, 0 => .error (tooDeepAt start)
  | _, room => .ok (room - 1)

/-- The fault of a value that is not of the type that is wanted. -/
def wrongType (expected : String) : Node → Fault
  | .null _ stop => (Cause.wrongType .null expected).at stop
  | .bool b _ stop => (Cause.wrongType (.bool b) expected).at stop
  | .number (.ok n) _ stop => (Cause.wrongType (.number n) expected).at stop
  | .number (.error fault) _ _ => fault
  | .string (.ok s) _ stop => (Cause.wrongType (.string s) expected).at stop
  | .string (.error fault) _ _ => fault
  | .array start _ _ _ => (Cause.wrongType .sequence expected).at start
  | .object start _ _ _ => (Cause.wrongType .map expected).at start
  | .broken here => here.whenRead

namespace Decoder

/-! ## Scalars -/

/-- A truth value. -/
def bool : Decoder Bool
  | _, _, .bool b _ _ => .ok b
  | _, _, node => .error (wrongType "a boolean" node)

/-- A text. -/
def string : Decoder String
  | _, _, .string value _ _ => value
  | _, _, node => .error (wrongType "a string" node)

/-- Nothing: null, or an empty object from a buffer. -/
def unit : Decoder Unit
  | _, _, .null _ _ => .ok ()
  | .buffer, _, .object _ _ [] _ => .ok ()
  | _, _, node => .error (wrongType "unit" node)

/-- An integer in a range, which a message calls by a name. -/
def integer (name : String) (low high : Int) : Decoder Int
  | _, _, .number (.ok (.integer n)) _ stop =>
    if low ≤ n ∧ n ≤ high then .ok n
    else .error ((Cause.wrongValue (.number (.integer n)) name).at stop)
  | _, _, node => .error (wrongType name node)

/-- A decoded value under a function. -/
def map {α β : Type} (f : α → β) (decode : Decoder α) : Decoder β :=
  fun origin room node => (decode origin room node).map f

/-- A signed integer of 64 bits. -/
def int64 : Decoder Int64 := map Int64.ofInt (integer "i64" (-Int.pow 2 63) (Int.pow 2 63 - 1))

/-- A natural number of 32 bits. -/
def uint32 : Decoder UInt32 := map (UInt32.ofNat ·.toNat) (integer "u32" 0 (Int.pow 2 32 - 1))

/-- A natural number of 64 bits that counts something. -/
def count : Decoder UInt64 := map (UInt64.ofNat ·.toNat) (integer "usize" 0 (Int.pow 2 64 - 1))

/-- A value or null. -/
def option {α : Type} (decode : Decoder α) : Decoder (Option α)
  | _, _, .null _ _ => .ok none
  | origin, room, node => (decode origin room node).map some

/-- Any value. -/
def json : Decoder Json
  | .text, room, node =>
    match node.readFault? room with
    | some fault => .error fault
    | none => .ok node.toJson
  | .buffer, _, node => .ok node.toJson

/--
Nothing, where a value of any form is taken: of an array or object the bracket has been taken when
it turns out to be one.
-/
def nothing (expected : String) : Decoder Unit
  | _, _, .null _ _ => .ok ()
  | origin, room, .array start opened _ _ => do
    let _ ← origin.enter room start
    .error ((Cause.wrongType .sequence expected).at opened)
  | origin, room, .object start opened _ _ => do
    let _ ← origin.enter room start
    .error ((Cause.wrongType .map expected).at opened)
  | _, _, node => .error (wrongType expected node)

/-! ## Lists -/

/-- What is wrong with an ending for a reader that has read all before it. -/
def finish {α : Type} (a : α) : Ending → Except Fault α
  | .closed _ => .ok a
  | .broken here => .error here.whenRead

/-- The values of an array, each read by the same decoder. -/
def items {α : Type} (decode : Node → Except Fault α) (ending : Ending) :
    Items → Except Fault (List α)
  | [] => finish [] ending
  | (node, leaving) :: rest => do
    let a ← placedAt leaving.place (decode node)
    let more ← items decode ending rest
    return a :: more

/-- A list. -/
def list {α : Type} (decode : Decoder α) : Decoder (List α)
  | origin, room, .array start _ nodes ending => do
    let room ← origin.enter room start
    items (decode origin room) ending nodes
  | _, _, node => .error (wrongType "a sequence" node)

/-! ## Variants -/

/-- How a message names the value that is due where the name of a variant is. -/
def variantExpectation : String := "variant identifier"

/-- What a name stands for, or the fault of a name that stands for nothing. -/
def variant {α : Type} (variants : List (String × α)) (name : String) : Except Fault α :=
  match variants.lookup name with
  | some a => .ok a
  | none => .error (Cause.unknownVariant name (variants.map Prod.fst)).unplaced

/-- What a member's key stands for. -/
def variantOfKey {α : Type} (variants : List (String × α)) (key : Key) : Except Fault α := do
  placedAt key.stop (variant variants (← key.value))

/--
The name of a variant as it stands in a tag. From a buffer the variant's number is as good as its
name.
-/
def tag {α : Type} (variants : List (String × α)) : Decoder α
  | _, _, .string value _ stop => do placedAt stop (variant variants (← value))
  | .buffer, _, .number (.ok (.integer n)) _ stop =>
    if n < 0 then .error ((Cause.wrongType (.number (.integer n)) variantExpectation).at stop)
    else
      match variants[n.toNat]? with
      | some (_, a) => .ok a
      | none =>
        let range := "variant index 0 <= i < " ++ Nat.repr variants.length
        .error ((Cause.wrongValue (.number (.integer n)) range).at stop)
  | _, _, node => .error (wrongType variantExpectation node)

/-- The end of an object that names a variant: nothing else may stand in it. -/
def finishVariant {α : Type} (a : α) (leaving : Leaving) : Except Fault α :=
  match leaving.fault with
  | none => .ok a
  | some fault =>
    if fault.cause = .endOfObject then .error fault
    else .error (Cause.expectedValue.at leaving.place)

/-- A variant without content, from the text: its name, or an object from its name to null. -/
def enumFromText {α : Type} (variants : List (String × α)) (room : Nat) : Node → Except Fault α
  | .string value _ stop => do placedAt stop (variant variants (← value))
  | .object start _ members ending => do
    let room ← Origin.text.enter room start
    match members, ending with
    | (key, node, leaving) :: _, _ => do
      let a ← variantOfKey variants key
      -- a variant has no content, so its value can only be null
      unit .text room node
      finishVariant a leaving
    | [], .closed stop => .error (Cause.expectedValue.at stop)
    | [], .broken here => .error here.whenNamed
  | .broken here => .error here.whenNamed
  | .null start _ => .error (Cause.expectedValue.at (start + 1))
  | .bool _ start _ => .error (Cause.expectedValue.at (start + 1))
  | .number _ start _ => .error (Cause.expectedValue.at (start + 1))
  | .array start _ _ _ => .error (Cause.expectedValue.at (start + 1))

/-- A variant without content, from a buffer. -/
def enumFromBuffer {α : Type} (variants : List (String × α)) : Node → Except Fault α
  | .string value _ _ => do variant variants (← value)
  | .object _ _ [(key, node, _)] _ => do
    let a ← variantOfKey variants key
    unit .buffer 0 node
    return a
  | .object _ _ _ _ => .error (Cause.wrongValue .map "map with a single key").unplaced
  | node => .error (wrongType "string or map" node)

/-- A variant without content. -/
def enum {α : Type} (variants : List (String × α)) : Decoder α
  | .text, room, node => enumFromText variants room node
  | .buffer, _, node => enumFromBuffer variants node

end Decoder

/-! ## Whole texts -/

/-- The value of an outline: what follows it is looked at last. -/
def Outline.decode {α : Type} (decode : Decoder α) (o : Outline) : Except Fault α :=
  match decode .text nestingLimit o.root, o.trailing with
  | .error fault, _ => .error fault
  | .ok _, some fault => .error fault
  | .ok a, none => .ok a

/-- The value that a text holds. -/
def decodeText {α : Type} (decode : Decoder α) (text : String) : Except DocumentError α :=
  match (outline text).decode decode with
  | .ok a => .ok a
  | .error fault => .error (fault.within text)

end ArgumentGuards.Json
