import ArgumentGuards.Json.Outline.Numeral
import ArgumentGuards.Json.Outline.Quoted

/-!
# The outline of a text

`outline` is total: every text has one. Arrays and objects are gone through by one bound that
falls with every call, and twice the length of the text is enough of it, since no two calls in a
row leave the text as it was.
-/

namespace ArgumentGuards.Json

/-- A break where a value is due; a reader that wants a name only looks at the first byte. -/
def valueBreak (start : Nat) (fault : Fault) : Break :=
  ⟨fault, fault, Cause.expectedValue.at (start + 1)⟩

/-- A word that must go on as given. -/
def scanWord (start : Nat) : List Char → Cursor → Except Break Cursor
  | [], here => .ok here
  | c :: word, here =>
    match here.rest with
    | [] => .error (valueBreak start (Cause.endOfValue.at here.offset))
    | d :: _ =>
      if d = c then scanWord start word here.next
      else .error (valueBreak start (Cause.expectedIdentifier.at (here.offset + 1)))

/-- What a scan found, and where the text goes on unless it broke. -/
abbrev Scanned (α : Type) := α × Except Break Cursor

/-- A word that stands for a value. -/
def scanConstant (word : List Char) (value : Nat → Nat → Node) (here : Cursor) : Scanned Node :=
  match scanWord here.offset word here.next with
  | .ok after => (value here.offset after.offset, .ok after)
  | .error broken => (.broken broken, .error broken)

/-- A break that ends the scan of a value. -/
def brokenValue (here : Break) : Scanned Node := (.broken here, .error here)

/-- A value that is neither array nor object, if one begins at a cursor. -/
def scanScalar (here : Cursor) : Scanned Node :=
  match here.rest with
  | [] => brokenValue (.same (here.lookFault .endOfValue))
  | c :: rest =>
    if c = 'n' then scanConstant ['u', 'l', 'l'] .null here
    else if c = 't' then scanConstant ['r', 'u', 'e'] (.bool true) here
    else if c = 'f' then scanConstant ['a', 'l', 's', 'e'] (.bool false) here
    else if c = '"' then
      match scanString 0 [] none (here.offset + 1) rest with
      | .ok (value, after) => (.string value here.offset after.offset, .ok after)
      | .error broken => brokenValue broken
    else if c = '-' || c.isDigit then
      match scanNumeral here with
      | .ok (numeral, after) => (.number numeral.value here.offset after.offset, .ok after)
      | .error broken => brokenValue broken
    else brokenValue (valueBreak here.offset (here.lookFault .expectedValue))

/-- The break where a key is due. `atEnd` is said by a reader of the value when the text ends. -/
def keyBreak (here : Cursor) (atEnd : Cause) : Break :=
  let read (cause : Cause) (skipped : Cause) : Break :=
    ⟨here.lookFault cause, here.lookFault skipped, here.lookFault cause⟩
  match here.rest with
  | [] => read atEnd .endOfObject
  | c :: _ => read (if c = '\x7d' then .trailingComma else .keyNotString) .keyNotString

/-- The colon that is due after a key. -/
def scanColon (here : Cursor) : Except Break Cursor :=
  let here := here.skipBlanks
  match here.rest with
  | [] => .error (.same (here.lookFault .endOfObject))
  | c :: _ => if c = ':' then .ok here.next else .error (.same (here.lookFault .expectedColon))

/-- The end of an array or object that broke. -/
def brokenEnding {α : Type} (here : Break) : List α × Ending × Except Break Cursor :=
  ([], .broken here, .error here)

/-- One more value in front of those after it; after a break there are none. -/
def andThen {α : Type} (found : α) (after : Except Break Cursor)
    (rest : Cursor → List α × Ending × Except Break Cursor) :
    List α × Ending × Except Break Cursor :=
  match after with
  | .error broken => ([found], .broken broken, .error broken)
  | .ok here =>
    let (more, ending, after) := rest here
    (found :: more, ending, after)

/-- The place a reader has reached when it leaves after a value; after a break it is not asked. -/
def leaveAfter (leave : Cursor → Leaving) : Except Break Cursor → Leaving
  | .ok here => leave here
  | .error _ => ⟨0, none⟩

mutual

/-- The value at a cursor. -/
def scanValue : Nat → Cursor → Scanned Node
  -- the bound is never used up, so nobody sees this break
  | 0, here => brokenValue (.same (here.lookFault .endOfValue))
  | bound + 1, here =>
    let here := here.skipBlanks
    match here.rest with
    | '[' :: _ =>
      let (items, ending, after) := scanItems bound true here.next
      (.array here.offset (leaveArray here.next).place items ending, after)
    | '\x7b' :: _ =>
      let (members, ending, after) := scanMembers bound true here.next
      (.object here.offset (leaveObject here.next).place members ending, after)
    | _ => scanScalar here

/-- The values of an array from a cursor on; the first one follows no comma. -/
def scanItems : Nat → Bool → Cursor → Items × Ending × Except Break Cursor
  | 0, _, here => brokenEnding (.same (here.lookFault .endOfList))
  | bound + 1, isFirst, here =>
    let here := here.skipBlanks
    let item (here : Cursor) :=
      let (node, after) := scanValue bound here
      andThen (node, leaveAfter leaveArray after) after (scanItems bound false)
    match here.rest with
    | [] => brokenEnding (.same (here.lookFault .endOfList))
    | c :: _ =>
      if c = ']' then ([], .closed (here.offset + 1), .ok here.next)
      else if isFirst then item here
      else if c = ',' then
        let here := here.next.skipBlanks
        -- who passes over the array wants a value after the comma, whatever comes
        if here.rest.head? = some ']' then
          brokenEnding ⟨here.lookFault .trailingComma, here.lookFault .expectedValue,
            here.lookFault .trailingComma⟩
        else item here
      else brokenEnding (.same (here.lookFault .expectedCommaOrBracket))

/-- The members of an object from a cursor on; the first one follows no comma. -/
def scanMembers : Nat → Bool → Cursor → Members × Ending × Except Break Cursor
  | 0, _, here => brokenEnding (.same (here.lookFault .endOfObject))
  | bound + 1, isFirst, here =>
    let here := here.skipBlanks
    let member (here : Cursor) (atEnd : Cause) :=
      match here.rest with
      | '"' :: rest =>
        match scanString 0 [] none (here.offset + 1) rest with
        | .error broken => brokenEnding broken
        | .ok (value, after) =>
          let key : Key := ⟨value, after.offset, (leaveObject after).place⟩
          match scanColon after with
          -- the key stays, since a key that comes twice is noticed before its colon
          | .error broken => ([(key, .broken broken, ⟨0, none⟩)], .broken broken, .error broken)
          | .ok here =>
            let (node, after) := scanValue bound here
            andThen (key, node, leaveAfter leaveObject after) after (scanMembers bound false)
      | _ => brokenEnding (keyBreak here atEnd)
    match here.rest with
    | [] => brokenEnding (keyBreak here .endOfObject)
    | c :: _ =>
      if c = '\x7d' then ([], .closed (here.offset + 1), .ok here.next)
      else if isFirst then member here .endOfObject
      else if c = ',' then member here.next.skipBlanks .endOfValue
      else brokenEnding (.same (here.lookFault .expectedCommaOrBrace))

end

/-- What is wrong with a text after its value: anything but blanks. -/
def trailingFault? (here : Cursor) : Option Fault :=
  let here := here.skipBlanks
  match here.rest with
  | [] => none
  | _ :: _ => some (here.lookFault .trailingCharacters)

/-- The outline of a text. -/
def outline (text : String) : Outline :=
  let here := Cursor.start text
  match scanValue (2 * here.rest.length + 2) here with
  | (root, .ok after) => ⟨root, trailingFault? after⟩
  | (root, .error _) => ⟨root, none⟩

end ArgumentGuards.Json
