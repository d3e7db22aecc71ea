import ArgumentGuards.Json.Decoder

/-!
# Decoding records

A record is read from an object or from an array of its fields. In an object the fields may come in
any order; keys that name no field are passed over, and a key that comes twice is a fault. In an
array the fields come in the order of their declaration.
-/

namespace ArgumentGuards.Json

/-- What a field is when it is not given. -/
inductive Absent (α : Type) where
  /-- A fault. -/
  | required
  /-- This value, but only in an object. -/
  | optional (value : α)
  /-- This value. -/
  | defaulted (value : α)

/-- A field: its key, how its value is read, and what it is when not given. -/
structure Field (α : Type) where
  key : String
  decode : Decoder α
  absent : Absent α := .required

/-- The fields of a record in the order of their declaration. -/
inductive Fields : List Type → Type 1 where
  | nil : Fields []
  | cons {α : Type} {types : List Type} (field : Field α) (rest : Fields types) :
      Fields (α :: types)

/-- One value for every field. -/
def Values : List Type → Type
  | [] => Unit
  | α :: types => α × Values types

/-- The values that have been found so far. -/
def Slots : List Type → Type
  | [] => Unit
  | α :: types => Option α × Slots types

/-- Nothing has been found. -/
def Slots.empty : (types : List Type) → Slots types
  | [] => ()
  | _ :: types => (none, Slots.empty types)

/-- A record: what a message calls it, its fields, and the value that they make. -/
structure Record (α : Type) : Type 1 where
  label : String
  {types : List Type}
  fields : Fields types
  build : Values types → α

namespace Fields

/-- The number of fields. -/
def length {types : List Type} : Fields types → Nat
  | nil => 0
  | cons _ rest => rest.length + 1

/-! ## From an object -/

/--
The values found so far with one more member's, or `none` if its key names no field. A repeated
field is noticed at its key, before its value is read.
-/
def put? {types : List Type} (origin : Origin) (room : Nat) (name : String)
    (key : Key) (node : Node) (leaving : Leaving) :
    Fields types → Slots types → Option (Except Fault (Slots types))
  | nil, _ => none
  | cons field rest, (slot, slots) =>
    if field.key = name then
      match slot with
      | some _ => some (.error ((Cause.duplicateField field.key).at key.left))
      | none =>
        some ((placedAt leaving.place (field.decode origin room node)).map fun a => (some a, slots))
    else (rest.put? origin room name key node leaving slots).map (·.map fun more => (slot, more))

/-- A value for every field, or the first field that is missing. -/
def settle {types : List Type} : Fields types → Slots types → Except Cause (Values types)
  | nil, _ => .ok ()
  | cons field rest, (slot, slots) => do
    let a ← match slot, field.absent with
      | some a, _ => .ok a
      | none, .required => .error (.missingField field.key)
      | none, .optional a => .ok a
      | none, .defaulted a => .ok a
    let more ← rest.settle slots
    return (a, more)

/-- The values of an object's members, added to those found so far. -/
def fromMembers {types : List Type} (fields : Fields types) (origin : Origin) (room : Nat)
    (ending : Ending) : Members → Slots types → Except Fault (Values types)
  | [], slots =>
    match ending with
    | .broken here => .error here.whenRead
    | .closed stop =>
      match fields.settle slots with
      | .ok values => .ok values
      | .error cause => .error (cause.at stop)
  | (key, node, leaving) :: rest, slots => do
    let name ← key.value
    match fields.put? origin room name key node leaving slots with
    | some found => do fields.fromMembers origin room ending rest (← found)
    | none =>
      -- a key that names no field: its value only has to be grammatical
      match node.skipFault? with
      | some fault => .error fault
      | none => fields.fromMembers origin room ending rest slots

/-! ## From an array -/

/-- What a message calls so many elements. -/
def elements (n : Nat) : String := Nat.repr n ++ (if n = 1 then " element" else " elements")

/-- The fault of an array that goes on after the last field. -/
def surplus (origin : Origin) (total given : Nat) (left : Leaving) (more : Items) :
    Except Fault Unit :=
  match origin with
  | .text =>
    match left.fault with
    | some fault => .error fault
    | none => .ok ()
  | .buffer =>
    if more.isEmpty then .ok ()
    else .error (Cause.wrongLength total (elements given ++ " in sequence")).unplaced

/--
The values of an array's items: `index` fields have been read, and the array could be left at
`left`.
-/
def fromItems {types : List Type} (label : String) (origin : Origin) (room total : Nat)
    (ending : Ending) : Fields types → Nat → Leaving → Items → Except Fault (Values types)
  | nil, index, left, more => do
    surplus origin total index left more
    return ()
  | cons field rest, index, left, [] => do
    match ending, field.absent with
    | .broken here, _ => .error here.whenRead
    -- the fields after the last item
    | .closed _, .defaulted a =>
      return (a, ← rest.fromItems label origin room total ending (index + 1) left [])
    | .closed stop, _ => .error ((Cause.wrongLength index label).at stop)
  | cons field rest, index, _, (node, leaving) :: more => do
    let a ← placedAt leaving.place (field.decode origin room node)
    return (a, ← rest.fromItems label origin room total ending (index + 1) leaving more)

end Fields

/-- How a value is read from the members of an object or from the items of an array. -/
structure Shape (α : Type) where
  ofMembers : Origin → Nat → Members → Ending → Except Fault α
  ofItems : Origin → Nat → Items → Ending → Except Fault α

namespace Record

/-- What a message calls an array of the fields. -/
def lengthLabel {α : Type} (record : Record α) : String :=
  record.label ++ " with " ++ Fields.elements record.fields.length

/-- A record from the members of an object. -/
def ofMembers {α : Type} (record : Record α) (origin : Origin) (room : Nat) (members : Members)
    (ending : Ending) : Except Fault α :=
  (record.fields.fromMembers origin room ending members (.empty record.types)).map record.build

/-- A record from the items of an array. -/
def ofItems {α : Type} (record : Record α) (origin : Origin) (room : Nat) (items : Items)
    (ending : Ending) : Except Fault α :=
  (record.fields.fromItems record.lengthLabel origin room items.length ending 0 ⟨0, none⟩ items).map
    record.build

/-- The two ways in which a record is read. -/
def shape {α : Type} (record : Record α) : Shape α := ⟨record.ofMembers, record.ofItems⟩

/-- A record. -/
def decoder {α : Type} (record : Record α) : Decoder α
  | origin, room, .object start _ members ending => do
    let room ← origin.enter room start
    record.ofMembers origin room members ending
  | origin, room, .array start _ items ending => do
    let room ← origin.enter room start
    record.ofItems origin room items ending
  | _, _, node => .error (wrongType record.label node)

end Record

end ArgumentGuards.Json
