import ArgumentGuards.Json.Decoder.Record
import Mathlib

/-!
# Every fault of a text has a place

A fault may come without a place, from a value that has been buffered. A reader of records that
reads from the text never hands such a fault on: where it asks for a field, the fault gets the
place at which the field was left. So whatever is wrong with a text, and however deep in it, the
place of it is known (`exists_position`).

There are two halves. In the outline of a text every fault has a place, because each is made from a
cursor: that is an induction over the calls of the scanner (`scan_placed`). And what a reader of
records says is a fault of the outline, a fault that it makes itself at a place of the outline, or
a fault of a field, which is given one; nothing is assumed of the decoders of the fields.
-/

namespace ArgumentGuards.Json

/-! ## What a result is or fails with -/

section

variable {ε α β : Type}

/-- Whether a value has one property, or an error another. -/
def Yields (good : α → Prop) (bad : ε → Prop) : Except ε α → Prop
  | .ok a => good a
  | .error e => bad e

/-- Whether a result fails with errors of one kind only, if at all. -/
abbrev FailsAs (bad : ε → Prop) (result : Except ε α) : Prop := Yields (fun _ => True) bad result

variable {good : α → Prop} {further : β → Prop} {bad : ε → Prop}

theorem Yields.of_ok {result : Except ε α} {a : α} (h : Yields good bad result)
    (found : result = .ok a) : good a := by
  subst found
  exact h

theorem Yields.of_error {result : Except ε α} {e : ε} (h : Yields good bad result)
    (found : result = .error e) : bad e := by
  subst found
  exact h

theorem Yields.bind {result : Except ε α} {next : α → Except ε β} (first : Yields good bad result)
    (second : ∀ a, good a → Yields further bad (next a)) :
    Yields further bad (result >>= next) := by
  cases result with
  | ok a => exact second a first
  | error e => exact first

theorem FailsAs.bind {result : Except ε α} {next : α → Except ε β} (first : FailsAs bad result)
    (second : ∀ a, Yields further bad (next a)) : Yields further bad (result >>= next) :=
  Yields.bind first fun a _ => second a

theorem FailsAs.map {result : Except ε α} (h : FailsAs bad result) (f : α → β) :
    FailsAs bad (result.map f) := by
  cases result with
  | ok a => trivial
  | error e => exact h

end

/-- What holds of two things holds of whichever of them is there first. -/
theorem forall_mem_orElse {α : Type} {p : α → Prop} {first second : Option α}
    (h : ∀ a ∈ first, p a) (h' : ∀ a ∈ second, p a) : ∀ a ∈ (first <|> second), p a := by
  cases first with
  | none => exact h'
  | some a => exact h

/-! ## Faults with a place -/

/-- Whether a fault has a place. -/
def Fault.IsPlaced (fault : Fault) : Prop := ∃ place, fault.place = some place

/-- Whether a value is had, or a fault with a place. -/
abbrev Traced {α : Type} (result : Except Fault α) : Prop := FailsAs Fault.IsPlaced result

theorem Cause.isPlaced_at (cause : Cause) (place : Nat) : (cause.at place).IsPlaced := ⟨place, rfl⟩

theorem Cursor.isPlaced_lookFault (here : Cursor) (cause : Cause) :
    (here.lookFault cause).IsPlaced := cause.isPlaced_at _

theorem isPlaced_tooDeepAt (start : Nat) : (tooDeepAt start).IsPlaced := Cause.isPlaced_at _ _

theorem Fault.isPlaced_orAt (fault : Fault) (place : Nat) : (fault.orAt place).IsPlaced := by
  obtain ⟨cause, own⟩ := fault
  cases own with
  | none => exact ⟨place, rfl⟩
  | some own => exact ⟨own, rfl⟩

/-- Whoever asks for a part at a place gets no fault without one. -/
theorem traced_placedAt {α : Type} (place : Nat) (result : Except Fault α) :
    Traced (placedAt place result) := by
  cases result with
  | ok a => trivial
  | error fault => exact fault.isPlaced_orAt place

/-- Whether whatever is said of a break has a place. -/
structure Break.IsPlaced (here : Break) : Prop where
  read : here.whenRead.IsPlaced
  skipped : here.whenSkipped.IsPlaced
  named : here.whenNamed.IsPlaced

theorem Break.IsPlaced.same {fault : Fault} (h : fault.IsPlaced) : (Break.same fault).IsPlaced :=
  ⟨h, h, h⟩

theorem Cursor.isPlaced_same (here : Cursor) (cause : Cause) :
    (Break.same (here.lookFault cause)).IsPlaced := .same (here.isPlaced_lookFault cause)

theorem isPlaced_valueBreak (start : Nat) {fault : Fault} (h : fault.IsPlaced) :
    (valueBreak start fault).IsPlaced := ⟨h, h, Cause.isPlaced_at _ _⟩

/-! ## Strings -/

theorem traced_hexUnit (offset : Nat) (cs : List Char) : Traced (hexUnit offset cs) := by
  unfold hexUnit
  dsimp only
  split
  · trivial
  · split
    · exact Cause.isPlaced_at _ _
    · exact Cause.isPlaced_at _ _

theorem traced_secondHalf (offset : Nat) (cs : List Char) : Traced (secondHalf offset cs) := by
  unfold secondHalf
  split
  · exact Cause.isPlaced_at _ _
  · split
    · exact Cause.isPlaced_at _ _
    · split
      · exact Cause.isPlaced_at _ _
      · split
        · exact Cause.isPlaced_at _ _
        · refine (traced_hexUnit _ _).bind fun unit => ?_
          split
          · trivial
          · exact Cause.isPlaced_at _ _

/-- Whether the fault of an escape has a place, if it has one. -/
def Escape.IsPlaced : Escape → Prop
  | .char _ _ => True
  | .unpaired fault _ => fault.IsPlaced
  | .broken fault => fault.IsPlaced

theorem isPlaced_numberedEscape (offset : Nat) (digits : List Char) :
    (numberedEscape offset digits).IsPlaced := by
  unfold numberedEscape
  cases unit : hexUnit offset digits with
  | error fault => exact (traced_hexUnit _ _).of_error unit
  | ok value =>
      dsimp only
      split
      · exact Cause.isPlaced_at _ _
      · split
        · cases second : secondHalf (offset + 4) (digits.drop 4) with
          | error fault => exact (traced_secondHalf _ _).of_error second
          | ok value => trivial
        · trivial

theorem isPlaced_scanEscape (offset : Nat) (cs : List Char) : (scanEscape offset cs).IsPlaced := by
  unfold scanEscape
  split
  · exact Cause.isPlaced_at _ _
  · split_ifs
    all_goals first
      | trivial
      | exact isPlaced_numberedEscape _ _
      | exact Cause.isPlaced_at _ _

theorem isPlaced_stringBreak {earlier : Option Fault} {whenRead whenSkipped : Fault}
    (before : ∀ fault ∈ earlier, fault.IsPlaced) (read : whenRead.IsPlaced)
    (skipped : whenSkipped.IsPlaced) : (stringBreak earlier whenRead whenSkipped).IsPlaced := by
  cases earlier with
  | none => exact ⟨read, skipped, read⟩
  | some fault => exact ⟨before fault rfl, skipped, before fault rfl⟩

/-- **Faults in a string have places**: of its text, and of a break in it. -/
theorem scanString_placed (cs : List Char) : ∀ (skip : Nat) (done : List Char)
    (earlier : Option Fault) (offset : Nat), (∀ fault ∈ earlier, fault.IsPlaced) →
    Yields (fun found => Traced found.1) Break.IsPlaced
      (scanString skip done earlier offset cs) := by
  induction cs with
  | nil =>
      intro skip done earlier offset before
      have ended := Cause.endOfString.isPlaced_at offset
      cases skip <;> exact isPlaced_stringBreak before ended ended
  | cons c rest ih =>
      intro skip done earlier offset before
      cases skip with
      | succ skip => exact ih skip done earlier _ before
      | zero =>
          unfold scanString
          dsimp only
          split
          · cases earlier with
            | none => trivial
            | some fault => exact before fault rfl
          · split
            · have escape := isPlaced_scanEscape (offset + 1) rest
              cases he : scanEscape (offset + 1) rest with
              | char d length => exact ih length _ earlier _ before
              | unpaired fault length =>
                  -- this fault is remembered unless there is an earlier one
                  rw [he] at escape
                  refine ih length done _ _ (forall_mem_orElse before ?_)
                  intro own isOwn
                  cases isOwn
                  exact escape
              | broken fault =>
                  rw [he] at escape
                  exact isPlaced_stringBreak before escape escape
            · split
              · exact isPlaced_stringBreak before (Cause.isPlaced_at _ _) (Cause.isPlaced_at _ _)
              · exact ih 0 _ earlier _ before

theorem scanQuoted_placed (offset : Nat) (rest : List Char) :
    Yields (fun found => Traced found.1) Break.IsPlaced (scanString 0 [] none offset rest) := by
  refine scanString_placed rest 0 [] none offset ?_
  intro fault there
  cases there

/-! ## Numbers -/

theorem Numeral.traced_scaled (n : Numeral) (significand : Nat) (exponent : Int) :
    Traced (n.scaled significand exponent) := by
  unfold scaled
  split
  · trivial
  · exact Cause.isPlaced_at _ _

theorem Numeral.traced_real (n : Numeral) (significand dropped : Nat) :
    Traced (n.real significand dropped) := by
  unfold real
  dsimp only
  split
  · exact n.traced_scaled _ _
  · split
    · exact n.traced_scaled _ _
    · split
      · exact Cause.isPlaced_at _ _
      · trivial

/-- The fault of a number that is too large has a place. -/
theorem Numeral.traced_value (n : Numeral) : Traced n.value := by
  unfold value
  dsimp only
  split
  · split
    · trivial
    · split
      · exact n.traced_scaled _ _
      · trivial
  · exact n.traced_real _ _

theorem demandDigits_placed (start : Nat) (here : Cursor) :
    FailsAs Break.IsPlaced (demandDigits start here) := by
  unfold demandDigits
  split
  · exact ⟨here.isPlaced_lookFault _, here.isPlaced_lookFault _, Cause.isPlaced_at _ _⟩
  · trivial

theorem scanWhole_placed (start : Nat) (here : Cursor) :
    FailsAs Break.IsPlaced (scanWhole start here) := by
  unfold scanWhole
  split
  · split
    · exact ⟨Cause.isPlaced_at _ _, Cause.isPlaced_at _ _, Cause.isPlaced_at _ _⟩
    · trivial
  · exact demandDigits_placed start here

theorem scanFraction_placed (start : Nat) (here : Cursor) :
    FailsAs Break.IsPlaced (scanFraction start here) := by
  unfold scanFraction
  split
  · exact (demandDigits_placed start here.next).bind fun _ => trivial
  · trivial

theorem scanExponent_placed (start : Nat) (here : Cursor) :
    FailsAs Break.IsPlaced (scanExponent start here) := by
  unfold scanExponent
  split
  · exact (demandDigits_placed start _).bind fun _ => trivial
  · trivial

theorem scanNumeral_placed (here : Cursor) : FailsAs Break.IsPlaced (scanNumeral here) := by
  unfold scanNumeral
  refine (scanWhole_placed _ _).bind fun whole => ?_
  refine (scanFraction_placed _ _).bind fun fraction => ?_
  exact (scanExponent_placed _ _).bind fun _ => trivial

/-! ## Values -/

/-- Whether what is met by leaving has a place, if anything is wrong with it. -/
def Leaving.IsPlaced (leaving : Leaving) : Prop := ∀ fault ∈ leaving.fault, fault.IsPlaced

/-- Whether an ending has a place, if it is a break. -/
def Ending.IsPlaced : Ending → Prop
  | .closed _ => True
  | .broken here => here.IsPlaced

/-- Whether all that is wrong with a value, and in it, has a place. -/
inductive Node.IsPlaced : Node → Prop where
  | null (start stop : Nat) : IsPlaced (.null start stop)
  | bool (b : Bool) (start stop : Nat) : IsPlaced (.bool b start stop)
  | number {value : Except Fault Number} {start stop : Nat} :
      Traced value → IsPlaced (.number value start stop)
  | string {value : Except Fault String} {start stop : Nat} :
      Traced value → IsPlaced (.string value start stop)
  | array {start opened : Nat} {items : Items} {ending : Ending} :
      (∀ item ∈ items, IsPlaced item.1) → (∀ item ∈ items, item.2.IsPlaced) → ending.IsPlaced →
      IsPlaced (.array start opened items ending)
  | object {start opened : Nat} {members : Members} {ending : Ending} :
      (∀ member ∈ members, Traced member.1.value) → (∀ member ∈ members, IsPlaced member.2.1) →
      ending.IsPlaced → IsPlaced (.object start opened members ending)
  | broken {here : Break} : here.IsPlaced → IsPlaced (.broken here)

/-- Whether all that is wrong with an item of an array, and with leaving after it, has a place. -/
def ItemPlaced (item : Node × Leaving) : Prop := item.1.IsPlaced ∧ item.2.IsPlaced

/-- Whether all that is wrong with a member of an object has a place. -/
def MemberPlaced (member : Key × Node × Leaving) : Prop :=
  Traced member.1.value ∧ member.2.1.IsPlaced

/-- Whether all that is wrong with a scanned value has a place. -/
structure ScanPlaced (found : Scanned Node) : Prop where
  node : found.1.IsPlaced
  after : FailsAs Break.IsPlaced found.2

/-- Whether all that is wrong with some scanned values has a place. -/
structure ListPlaced {α : Type} (each : α → Prop) (found : List α × Ending × Except Break Cursor) :
    Prop where
  all : ∀ a ∈ found.1, each a
  ending : found.2.1.IsPlaced
  after : FailsAs Break.IsPlaced found.2.2

theorem ScanPlaced.broken {here : Break} (h : here.IsPlaced) : ScanPlaced (brokenValue here) :=
  ⟨.broken h, h⟩

theorem ListPlaced.broken {α : Type} {each : α → Prop} {here : Break} (h : here.IsPlaced) :
    ListPlaced each (brokenEnding here) := ⟨List.forall_mem_nil _, h, h⟩

theorem ListPlaced.closed {α : Type} {each : α → Prop} (stop : Nat) (after : Cursor) :
    ListPlaced each ([], .closed stop, .ok after) := ⟨List.forall_mem_nil _, trivial, trivial⟩

theorem ListPlaced.andThen {α : Type} {each : α → Prop} {found : α}
    {after : Except Break Cursor} {rest : Cursor → List α × Ending × Except Break Cursor}
    (first : each found) (goesOn : FailsAs Break.IsPlaced after)
    (others : ∀ here, ListPlaced each (rest here)) :
    ListPlaced each (andThen found after rest) := by
  cases after with
  | error broken => exact ⟨List.forall_mem_singleton.mpr first, goesOn, goesOn⟩
  | ok here =>
      obtain ⟨all, ending, after⟩ := others here
      exact ⟨List.forall_mem_cons.mpr ⟨first, all⟩, ending, after⟩

theorem scanWord_placed (start : Nat) (word : List Char) : ∀ here,
    FailsAs Break.IsPlaced (scanWord start word here) := by
  induction word with
  | nil =>
      intro here
      trivial
  | cons c word ih =>
      intro here
      unfold scanWord
      split
      · exact isPlaced_valueBreak start (Cause.isPlaced_at _ _)
      · split
        · exact ih here.next
        · exact isPlaced_valueBreak start (Cause.isPlaced_at _ _)

theorem scanConstant_placed (word : List Char) {value : Nat → Nat → Node} (here : Cursor)
    (sound : ∀ start stop, (value start stop).IsPlaced) :
    ScanPlaced (scanConstant word value here) := by
  unfold scanConstant
  cases found : scanWord here.offset word here.next with
  | ok after => exact ⟨sound _ _, trivial⟩
  | error broken => exact .broken ((scanWord_placed _ _ _).of_error found)

theorem scanScalar_placed (here : Cursor) : ScanPlaced (scanScalar here) := by
  unfold scanScalar
  split
  · exact .broken (here.isPlaced_same _)
  · rename_i c rest _
    split_ifs
    · exact scanConstant_placed _ here .null
    · exact scanConstant_placed _ here (.bool true)
    · exact scanConstant_placed _ here (.bool false)
    · cases found : scanString 0 [] none (here.offset + 1) rest with
      | ok value => exact ⟨.string ((scanQuoted_placed _ _).of_ok found), trivial⟩
      | error broken => exact .broken ((scanQuoted_placed _ _).of_error found)
    · cases found : scanNumeral here with
      | ok value => exact ⟨.number value.1.traced_value, trivial⟩
      | error broken => exact .broken ((scanNumeral_placed here).of_error found)
    · exact .broken (isPlaced_valueBreak _ (here.isPlaced_lookFault _))

theorem leaveArray_placed (here : Cursor) : (leaveArray here).IsPlaced := by
  intro fault there
  unfold leaveArray at there
  dsimp only at there
  split at there
  · cases there
    exact Cursor.isPlaced_lookFault _ _
  · split at there
    · cases there
    · split at there
      · cases there
        exact Cursor.isPlaced_lookFault _ _
      · cases there
        exact Cursor.isPlaced_lookFault _ _

theorem keyBreak_placed (here : Cursor) (atEnd : Cause) : (keyBreak here atEnd).IsPlaced := by
  unfold keyBreak
  dsimp only
  split
  · exact ⟨here.isPlaced_lookFault _, here.isPlaced_lookFault _, here.isPlaced_lookFault _⟩
  · exact ⟨here.isPlaced_lookFault _, here.isPlaced_lookFault _, here.isPlaced_lookFault _⟩

theorem scanColon_placed (here : Cursor) : FailsAs Break.IsPlaced (scanColon here) := by
  unfold scanColon
  dsimp only
  split
  · exact Cursor.isPlaced_same _ _
  · split
    · trivial
    · exact Cursor.isPlaced_same _ _

/-! ## The outline -/

section

variable {bound : Nat}

/-- A value of an array is placed if the values in it are, and so are the values after it. -/
theorem item_placed (value : ∀ here, ScanPlaced (scanValue bound here))
    (others : ∀ here, ListPlaced ItemPlaced (scanItems bound false here)) (here : Cursor) :
    ListPlaced ItemPlaced
      (andThen ((scanValue bound here).1, leaveAfter leaveArray (scanValue bound here).2)
        (scanValue bound here).2 (scanItems bound false)) := by
  obtain ⟨node, after⟩ := value here
  have left : (leaveAfter leaveArray (scanValue bound here).2).IsPlaced := by
    cases (scanValue bound here).2 with
    | ok there => exact leaveArray_placed there
    | error broken =>
        intro fault there
        cases there
  exact .andThen ⟨node, left⟩ after others

theorem scanItems_placed (value : ∀ here, ScanPlaced (scanValue bound here))
    (others : ∀ here, ListPlaced ItemPlaced (scanItems bound false here)) (isFirst : Bool)
    (here : Cursor) : ListPlaced ItemPlaced (scanItems (bound + 1) isFirst here) := by
  rw [scanItems]
  dsimp only
  split
  · exact .broken (Cursor.isPlaced_same _ _)
  · split_ifs
    · exact .closed _ _
    · exact item_placed value others _
    · exact .broken ⟨Cursor.isPlaced_lookFault _ _, Cursor.isPlaced_lookFault _ _,
        Cursor.isPlaced_lookFault _ _⟩
    · exact item_placed value others _
    · exact .broken (Cursor.isPlaced_same _ _)

/-- A member is placed if its value is, and so are the members after it. -/
theorem member_placed {key : Key} (named : Traced key.value)
    (value : ∀ here, ScanPlaced (scanValue bound here))
    (others : ∀ here, ListPlaced MemberPlaced (scanMembers bound false here)) (here : Cursor)
    (leaving : Leaving) :
    ListPlaced MemberPlaced
      (andThen (key, (scanValue bound here).1, leaving) (scanValue bound here).2
        (scanMembers bound false)) := by
  obtain ⟨node, after⟩ := value here
  exact .andThen ⟨named, node⟩ after others

theorem scanMembers_placed (value : ∀ here, ScanPlaced (scanValue bound here))
    (others : ∀ here, ListPlaced MemberPlaced (scanMembers bound false here)) (isFirst : Bool)
    (here : Cursor) : ListPlaced MemberPlaced (scanMembers (bound + 1) isFirst here) := by
  rw [scanMembers]
  dsimp only
  split
  · exact .broken (keyBreak_placed _ _)
  · split_ifs
    on_goal 1 => exact .closed _ _
    on_goal 3 => exact .broken (Cursor.isPlaced_same _ _)
    -- a member from its key on, be it the first one or one after a comma
    all_goals
      split
      · split
        · rename_i broken found
          exact .broken ((scanQuoted_placed _ _).of_error found)
        · rename_i name after found
          have named : Traced name := (scanQuoted_placed _ _).of_ok found
          split
          · rename_i broken found
            have colon := (scanColon_placed after).of_error found
            exact ⟨List.forall_mem_singleton.mpr ⟨named, .broken colon⟩, colon, colon⟩
          · exact member_placed named value others _ _
      · exact .broken (keyBreak_placed _ _)

theorem scanValue_placed (items : ∀ here, ListPlaced ItemPlaced (scanItems bound true here))
    (members : ∀ here, ListPlaced MemberPlaced (scanMembers bound true here)) (here : Cursor) :
    ScanPlaced (scanValue (bound + 1) here) := by
  rw [scanValue]
  dsimp only
  split
  · obtain ⟨all, ending, after⟩ := items here.skipBlanks.next
    refine ⟨.array (fun item there => (all item there).1) (fun item there => (all item there).2)
      ending, after⟩
  · obtain ⟨all, ending, after⟩ := members here.skipBlanks.next
    refine ⟨.object (fun member there => (all member there).1)
      (fun member there => (all member there).2) ending, after⟩
  · exact scanScalar_placed _

end

/-- **Whatever a scan finds wrong has a place**, in values, arrays and objects. -/
theorem scan_placed (bound : Nat) :
    (∀ here, ScanPlaced (scanValue bound here))
      ∧ (∀ isFirst here, ListPlaced ItemPlaced (scanItems bound isFirst here))
      ∧ ∀ isFirst here, ListPlaced MemberPlaced (scanMembers bound isFirst here) := by
  -- every call has one less of the bound, whichever of the three functions it is a call of
  induction bound with
  | zero =>
      refine ⟨fun here => ?_, fun isFirst here => ?_, fun isFirst here => ?_⟩
      · exact .broken (here.isPlaced_same _)
      · exact .broken (here.isPlaced_same _)
      · exact .broken (here.isPlaced_same _)
  | succ bound ih =>
      obtain ⟨values, items, members⟩ := ih
      refine ⟨?_, ?_, ?_⟩
      · exact scanValue_placed (items true) (members true)
      · exact scanItems_placed values (items false)
      · exact scanMembers_placed values (members false)

/-- All that is wrong in the outline of a text has a place, and so has what follows its value. -/
theorem outline_placed (text : String) :
    (outline text).root.IsPlaced ∧ ∀ fault ∈ (outline text).trailing, fault.IsPlaced := by
  have scanned := (scan_placed (2 * (Cursor.start text).rest.length + 2)).1 (.start text)
  unfold outline
  dsimp only
  split
  · rename_i root after found
    rw [found] at scanned
    refine ⟨scanned.node, ?_⟩
    intro fault there
    change fault ∈ trailingFault? after at there
    unfold trailingFault? at there
    dsimp only at there
    split at there
    · cases there
    · cases there
      exact Cursor.isPlaced_lookFault _ _
  · rename_i root broken found
    rw [found] at scanned
    refine ⟨scanned.node, ?_⟩
    intro fault there
    cases there

/-! ## Passing over a value -/

theorem Ending.IsPlaced.skipFault? {ending : Ending} (placed : ending.IsPlaced) :
    ∀ fault ∈ ending.skipFault?, fault.IsPlaced := by
  intro fault there
  cases ending with
  | closed stop => cases there
  | broken here =>
      cases there
      exact placed.skipped

mutual

theorem skipFault?_placed : ∀ {node : Node}, node.IsPlaced →
    ∀ fault ∈ node.skipFault?, fault.IsPlaced
  | .array _ _ items ending, placed => by
      cases placed with
      | array nodes _ ends =>
          rw [Node.skipFault?]
          exact forall_mem_orElse (skipItemsFault?_placed nodes) ends.skipFault?
  | .object _ _ members ending, placed => by
      cases placed with
      | object _ nodes ends =>
          rw [Node.skipFault?]
          exact forall_mem_orElse (skipMembersFault?_placed nodes) ends.skipFault?
  | .broken here, placed => by
      intro fault there
      cases placed with
      | broken placed =>
          cases there
          exact placed.skipped
  | .null _ _, _ => by
      intro fault there
      cases there
  | .bool _ _ _, _ => by
      intro fault there
      cases there
  | .number _ _ _, _ => by
      intro fault there
      cases there
  | .string _ _ _, _ => by
      intro fault there
      cases there

theorem skipItemsFault?_placed : ∀ {items : Items}, (∀ item ∈ items, item.1.IsPlaced) →
    ∀ fault ∈ skipItemsFault? items, fault.IsPlaced
  | [], _ => by
      intro fault there
      cases there
  | (node, _) :: rest, placed => by
      obtain ⟨first, others⟩ := List.forall_mem_cons.mp placed
      rw [skipItemsFault?]
      exact forall_mem_orElse (skipFault?_placed first) (skipItemsFault?_placed others)

theorem skipMembersFault?_placed : ∀ {members : Members},
    (∀ member ∈ members, member.2.1.IsPlaced) →
    ∀ fault ∈ skipMembersFault? members, fault.IsPlaced
  | [], _ => by
      intro fault there
      cases there
  | (_, node, _) :: rest, placed => by
      obtain ⟨first, others⟩ := List.forall_mem_cons.mp placed
      rw [skipMembersFault?]
      exact forall_mem_orElse (skipFault?_placed first) (skipMembersFault?_placed others)

end

/-! ## Records -/

theorem traced_enter (origin : Origin) (room start : Nat) : Traced (origin.enter room start) := by
  unfold Origin.enter
  split
  · exact isPlaced_tooDeepAt start
  · trivial

theorem wrongType_placed (expected : String) {node : Node} (placed : node.IsPlaced) :
    (wrongType expected node).IsPlaced := by
  cases placed with
  | null start stop => exact Cause.isPlaced_at _ _
  | bool b start stop => exact Cause.isPlaced_at _ _
  | @number value _ _ traced =>
      cases value with
      | ok n => exact Cause.isPlaced_at _ _
      | error fault => exact traced
  | @string value _ _ traced =>
      cases value with
      | ok text => exact Cause.isPlaced_at _ _
      | error fault => exact traced
  | array _ _ _ => exact Cause.isPlaced_at _ _
  | object _ _ _ => exact Cause.isPlaced_at _ _
  | broken placed => exact placed.read

namespace Fields

/-- A member that is a field's fails with a place, whatever the decoder of the field says. -/
theorem put?_traced {origin : Origin} {room : Nat} {name : String} {key : Key} {node : Node}
    {leaving : Leaving} : ∀ {types : List Type} (fields : Fields types) (slots : Slots types),
    ∀ found ∈ fields.put? origin room name key node leaving slots, Traced found
  | _, .nil, _ => by
      intro found there
      cases there
  | _, .cons field rest, (slot, slots) => by
      intro found there
      by_cases same : field.key = name
      · cases slot with
        | some a =>
            have repeated : (cons field rest).put? origin room name key node leaving (some a, slots)
                = some (.error ((Cause.duplicateField field.key).at key.left)) := if_pos same
            rw [repeated] at there
            cases there
            exact Cause.isPlaced_at _ _
        | none =>
            have own : (cons field rest).put? origin room name key node leaving (none, slots)
                = some ((placedAt leaving.place (field.decode origin room node)).map
                  fun a => (some a, slots)) := if_pos same
            rw [own] at there
            cases there
            exact (traced_placedAt _ _).map _
      · have later : (cons field rest).put? origin room name key node leaving (slot, slots)
            = (rest.put? origin room name key node leaving slots).map
              (·.map fun more => (slot, more)) := if_neg same
        obtain ⟨more, given, rfl⟩ := Option.map_eq_some_iff.mp (later.symm.trans there)
        exact (put?_traced rest slots more given).map _

theorem fromMembers_traced {types : List Type} (fields : Fields types) (origin : Origin)
    (room : Nat) {ending : Ending} (ends : ending.IsPlaced) (members : Members) :
    (∀ member ∈ members, MemberPlaced member) → ∀ slots,
      Traced (fields.fromMembers origin room ending members slots) := by
  induction members with
  | nil =>
      intro _ slots
      unfold fromMembers
      cases ending with
      | broken here => exact ends.read
      | closed stop =>
          dsimp only
          split
          · trivial
          · exact Cause.isPlaced_at _ _
  | cons member rest ih =>
      obtain ⟨key, node, leaving⟩ := member
      intro placed slots
      obtain ⟨⟨named, value⟩, others⟩ := List.forall_mem_cons.mp placed
      unfold fromMembers
      refine named.bind fun name => ?_
      cases hf : fields.put? origin room name key node leaving slots with
      | some found => exact (put?_traced fields slots found hf).bind fun more => ih others more
      | none =>
          -- a member that is passed over can only be wrong in its grammar
          dsimp only
          cases hs : node.skipFault? with
          | some fault => exact skipFault?_placed value fault hs
          | none => exact ih others slots

theorem surplus_traced (total given : Nat) {left : Leaving} (placed : left.IsPlaced)
    (more : Items) : Traced (surplus .text total given left more) := by
  unfold surplus
  dsimp only
  split
  · rename_i fault there
    exact placed fault there
  · trivial

theorem fromItems_traced (label : String) (room total : Nat) {ending : Ending}
    (ends : ending.IsPlaced) : ∀ {types : List Type} (fields : Fields types) (index : Nat)
    {left : Leaving} (items : Items), left.IsPlaced → (∀ item ∈ items, item.2.IsPlaced) →
      Traced (fields.fromItems label .text room total ending index left items)
  | _, .nil, index, left, items, leaving, _ => by
      unfold fromItems
      exact (surplus_traced total index leaving items).bind fun _ => trivial
  | _, .cons field rest, index, left, [], leaving, _ => by
      unfold fromItems
      cases ending with
      | broken here => exact ends.read
      | closed stop =>
          cases field.absent with
          | defaulted a =>
              exact (fromItems_traced label room total ends rest (index + 1) [] leaving
                (List.forall_mem_nil _)).bind fun _ => trivial
          | required => exact Cause.isPlaced_at _ _
          | optional a => exact Cause.isPlaced_at _ _
  | _, .cons field rest, index, left, (node, leaving) :: more, _, placed => by
      obtain ⟨first, others⟩ := List.forall_mem_cons.mp placed
      unfold fromItems
      refine (traced_placedAt _ _).bind fun a => ?_
      exact (fromItems_traced label room total ends rest (index + 1) more first others).bind
        fun _ => trivial

end Fields

/-- **A record that is read from the text has no fault without a place**, however its fields are
read. -/
theorem Record.decoder_traced {α : Type} (record : Record α) (room : Nat) {node : Node}
    (placed : node.IsPlaced) : Traced (record.decoder .text room node) := by
  cases placed with
  | array nodes leavings ends =>
      unfold decoder
      refine (traced_enter _ _ _).bind fun room => ?_
      have start : Leaving.IsPlaced ⟨0, none⟩ := by
        intro fault there
        cases there
      exact (Fields.fromItems_traced _ room _ ends record.fields 0 _ start leavings).map _
  | object keys nodes ends =>
      unfold decoder
      refine (traced_enter _ _ _).bind fun room => ?_
      have members := fun member there => And.intro (keys member there) (nodes member there)
      exact (Fields.fromMembers_traced record.fields .text room ends _ members _).map _
  | null start stop => exact wrongType_placed _ (.null start stop)
  | bool b start stop => exact wrongType_placed _ (.bool b start stop)
  | number traced => exact wrongType_placed _ (.number traced)
  | string traced => exact wrongType_placed _ (.string traced)
  | broken here => exact wrongType_placed _ (.broken here)

/-- **The position of what is wrong with a text is known.** -/
theorem exists_position {α : Type} {record : Record α} {text : String} {e : DocumentError}
    (rejected : decodeText record.decoder text = .error e) :
    ∃ place, e.position = some (Text.positionAt text place) := by
  obtain ⟨root, trailing⟩ := outline_placed text
  have traced : Traced ((outline text).decode record.decoder) := by
    unfold Outline.decode
    cases wrong : record.decoder .text nestingLimit (outline text).root with
    | error fault => exact (record.decoder_traced nestingLimit root).of_error wrong
    | ok a =>
        cases ht : (outline text).trailing with
        | some fault => exact trailing fault ht
        | none => trivial
  unfold decodeText at rejected
  cases hd : (outline text).decode record.decoder with
  | ok a =>
      rw [hd] at rejected
      cases rejected
  | error fault =>
      obtain ⟨place, known⟩ := traced.of_error hd
      rw [hd] at rejected
      cases rejected
      refine ⟨place, ?_⟩
      change fault.place.map (Text.positionAt text) = _
      rw [known, Option.map_some]

end ArgumentGuards.Json
