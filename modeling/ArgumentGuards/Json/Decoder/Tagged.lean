import ArgumentGuards.Json.Decoder.Record

/-!
# Decoding tagged values

A value of one of several shapes says which by a tag. Either the tag is one more member of the
object that holds the fields: then everything is buffered until the tag is known. Or tag and content
are the two members of an object: then the content is read from the text if the tag came first, and
buffered otherwise. Both forms may be written as arrays that begin with the tag.
-/

namespace ArgumentGuards.Json

/-- The first thing wrong with a value that is buffered. -/
def buffer (origin : Origin) (room : Nat) (node : Node) : Except Fault Unit :=
  match origin with
  | .buffer => .ok ()
  | .text =>
    match node.readFault? room with
    | some fault => .error fault
    | none => .ok ()

/-- The first thing wrong with the items of an array that are buffered. -/
def bufferItems (origin : Origin) (room : Nat) (ending : Ending) : Items → Except Fault Unit
  | [] => Decoder.finish () ending
  | (node, _) :: rest => do
    buffer origin room node
    bufferItems origin room ending rest

/-! ## A tag among the fields -/

/-- A value whose tag is a member beside its fields. -/
structure TaggedSum (α : Type) where
  label : String
  tag : String
  variants : List (String × Shape α)

namespace TaggedSum

/-- The variant that the tag among an object's members names, after all else has been buffered. -/
def findTag {α : Type} (sum : TaggedSum α) (origin : Origin) (room : Nat) (ending : Ending) :
    Members → Option (Shape α) → Except Fault (Shape α)
  | [], found =>
    match ending, found with
    | .broken here, _ => .error here.whenRead
    | .closed _, some shape => .ok shape
    | .closed stop, none => .error ((Cause.missingField sum.tag).at stop)
  | (key, node, _) :: rest, found => do
    let name ← key.value
    if name = sum.tag then
      if found.isSome then .error ((Cause.duplicateField sum.tag).at key.left)
      else do
        let shape ← Decoder.tag sum.variants origin room node
        sum.findTag origin room ending rest (some shape)
    else do
      buffer origin room node
      sum.findTag origin room ending rest found

/-- Whether a member is the tag. -/
def isTag {α : Type} (sum : TaggedSum α) : Key × Node × Leaving → Bool
  | (key, _, _) =>
    match key.value with
    | .ok name => name = sum.tag
    | .error _ => false

/-- A value whose tag is a member beside its fields. -/
def decoder {α : Type} (sum : TaggedSum α) : Decoder α
  | origin, room, .object start _ members ending => do
    let room ← origin.enter room start
    let shape ← sum.findTag origin room ending members none
    unplaced (shape.ofMembers .buffer room (members.filter (!sum.isTag ·)) ending)
  | origin, room, .array start _ items ending => do
    let room ← origin.enter room start
    match items, ending with
    | [], .broken here => .error here.whenRead
    | [], .closed stop => .error ((Cause.missingField sum.tag).at stop)
    | (node, leaving) :: rest, _ => do
      let shape ← placedAt leaving.place (Decoder.tag sum.variants origin room node)
      bufferItems origin room ending rest
      unplaced (shape.ofItems .buffer room rest ending)
  | _, _, node => .error (wrongType sum.label node)

end TaggedSum

/-! ## A tag beside the content -/

/-- A variant of a value with one member for its tag and one for its content. -/
structure Content (α : Type) where
  decode : Decoder α
  /-- The value without any content, if the variant has one. -/
  absent : Option α := none

/-- A value with one member for its tag and one for its content. -/
structure ContentSum (α : Type) where
  label : String
  tag : String
  content : String
  variants : List (String × Content α)

namespace ContentSum

/-- Which of its two members a key names. -/
inductive Role where
  | tag
  | content
  deriving DecidableEq

/-- The next member that has a role, and the members after it; others are passed over. -/
def nextMember {α : Type} (sum : ContentSum α) (ending : Ending) :
    Members → Except Fault (Option (Role × Key × Node × Leaving × Members))
  | [] => Decoder.finish none ending
  | (key, node, leaving) :: rest => do
    let name ← key.value
    if name = sum.tag then return some (.tag, key, node, leaving, rest)
    else if name = sum.content then return some (.content, key, node, leaving, rest)
    else
      match node.skipFault? with
      | some fault => .error fault
      | none => sum.nextMember ending rest

/-- The key of a role. -/
def keyOf {α : Type} (sum : ContentSum α) : Role → String
  | .tag => sum.tag
  | .content => sum.content

/-- The value, unless one of its members comes again. -/
def unrepeated {α : Type} (sum : ContentSum α) (ending : Ending) (rest : Members) (a : α) :
    Except Fault α := do
  match ← sum.nextMember ending rest with
  | none => return a
  | some (role, key, _) => .error ((Cause.duplicateField (sum.keyOf role)).at key.left)

/-- Where an object ends for a member that is missing. -/
def missing {α : Type} (name : String) : Ending → Except Fault α
  | .closed stop => .error ((Cause.missingField name).at stop)
  | .broken here => .error here.whenRead

/-- The value whose tag was found first. -/
def tagFirst {α : Type} (sum : ContentSum α) (origin : Origin) (room : Nat) (ending : Ending)
    (variant : Content α) (rest : Members) : Except Fault α := do
  match ← sum.nextMember ending rest with
  | some (.tag, key, _) => .error ((Cause.duplicateField sum.tag).at key.left)
  | some (.content, _, node, leaving, rest) => do
    let a ← placedAt leaving.place (variant.decode origin room node)
    sum.unrepeated ending rest a
  | none =>
    match variant.absent with
    | some a => return a
    | none => missing sum.content ending

/-- The value whose content was found first, and buffered. -/
def contentFirst {α : Type} (sum : ContentSum α) (origin : Origin) (room : Nat) (ending : Ending)
    (content : Node) (rest : Members) : Except Fault α := do
  buffer origin room content
  match ← sum.nextMember ending rest with
  | some (.tag, _, node, leaving, rest) => do
    let variant ← placedAt leaving.place (Decoder.enum sum.variants origin room node)
    let a ← placedAt leaving.place (unplaced (variant.decode .buffer room content))
    sum.unrepeated ending rest a
  | some (.content, key, _) => .error ((Cause.duplicateField sum.content).at key.left)
  | none => missing sum.tag ending

/-- The value of an object. -/
def ofMembers {α : Type} (sum : ContentSum α) (origin : Origin) (room : Nat) (ending : Ending)
    (members : Members) : Except Fault α := do
  match ← sum.nextMember ending members with
  | some (.tag, _, node, leaving, rest) => do
    let variant ← placedAt leaving.place (Decoder.enum sum.variants origin room node)
    sum.tagFirst origin room ending variant rest
  | some (.content, _, node, _, rest) => sum.contentFirst origin room ending node rest
  | none => missing sum.tag ending

/-- The value of an array: the tag, then the content, which must be there. -/
def ofItems {α : Type} (sum : ContentSum α) (origin : Origin) (room : Nat) (ending : Ending) :
    Items → Except Fault α
  | [] => shortOf 0
  | [(node, leaving)] => do
    let _ ← placedAt leaving.place (Decoder.tag sum.variants origin room node)
    shortOf 1
  | (node, leaving) :: (content, left) :: rest => do
    let variant ← placedAt leaving.place (Decoder.tag sum.variants origin room node)
    let a ← placedAt left.place (variant.decode origin room content)
    Fields.surplus origin (rest.length + 2) 2 left rest
    return a
where
  /-- What is wrong with an array of so many items. -/
  shortOf (length : Nat) : Except Fault α :=
    match ending with
    | .closed stop => .error ((Cause.wrongLength length sum.label).at stop)
    | .broken here => .error here.whenRead

/-- A value with one member for its tag and one for its content. -/
def decoder {α : Type} (sum : ContentSum α) : Decoder α
  | origin, room, .object start _ members ending => do
    let room ← origin.enter room start
    sum.ofMembers origin room ending members
  | origin, room, .array start _ items ending => do
    let room ← origin.enter room start
    sum.ofItems origin room ending items
  | _, _, node => .error (wrongType sum.label node)

end ContentSum

end ArgumentGuards.Json
