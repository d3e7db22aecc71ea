import ArgumentGuards.Json.Outline.Cursor
import ArgumentGuards.Json.Printer
import Mathlib

/-!
# Layouts of JSON texts

The compact and the pretty text of a value differ in blanks only. A layout says which blanks stand
where some may: before an item or closing bracket on a line of its own, and after a colon. What can
be said of the texts in every layout need not be said of each.
-/

namespace ArgumentGuards.Json

/-- The blanks of a text. -/
structure Layout where
  /-- Before an item, member or closing bracket at a depth. -/
  line : Nat → List Char
  /-- Between a colon and the value after it. -/
  gap : List Char
  line_blank : ∀ depth, ∀ c ∈ line depth, Cursor.isBlank c
  gap_blank : ∀ c ∈ gap, Cursor.isBlank c

namespace Layout

/-- No blanks at all. -/
def compact : Layout where
  line _ := []
  gap := []
  line_blank _ := List.forall_mem_nil _
  gap_blank := List.forall_mem_nil _

/-- One item or member a line. -/
def pretty : Layout where
  line depth := '\n' :: List.replicate (2 * depth) ' '
  gap := [' ']
  line_blank depth := by
    refine List.forall_mem_cons.mpr ⟨rfl, fun c there => ?_⟩
    rw [List.eq_of_mem_replicate there]
    rfl
  gap_blank := List.forall_mem_singleton.mpr rfl

/-- The text of an array or object after one of its items. -/
def more (l : Layout) (depth : Nat) (closing : Char) : List (List Char) → List Char
  | [] => l.line depth ++ [closing]
  | text :: rest => ',' :: (l.line (depth + 1) ++ text ++ l.more depth closing rest)

/-- The text of an array or object after its opening bracket. -/
def enclosed (l : Layout) (depth : Nat) (closing : Char) : List (List Char) → List Char
  | [] => [closing]
  | text :: rest => l.line (depth + 1) ++ text ++ l.more depth closing rest

mutual

/-- The text of a value at a depth. -/
def write (l : Layout) (depth : Nat) : Json → List Char
  | .null => ['n', 'u', 'l', 'l']
  | .bool true => ['t', 'r', 'u', 'e']
  | .bool false => ['f', 'a', 'l', 's', 'e']
  | .number n => (numberText n).toList
  | .string s => (quote s).toList
  | .array items => '[' :: l.enclosed depth ']' (l.writeItems (depth + 1) items)
  | .object members => '\x7b' :: l.enclosed depth '\x7d' (l.writeMembers (depth + 1) members)

/-- The texts of some values. -/
def writeItems (l : Layout) (depth : Nat) : List Json → List (List Char)
  | [] => []
  | item :: rest => l.write depth item :: l.writeItems depth rest

/-- The texts of some members. -/
def writeMembers (l : Layout) (depth : Nat) : List (String × Json) → List (List Char)
  | [] => []
  | (key, value) :: rest =>
    ((quote key).toList ++ ':' :: (l.gap ++ l.write depth value)) :: l.writeMembers depth rest

end

end Layout

/-! ## The two printers -/

theorem toList_intercalate_cons (separator text : String) (rest : List String) :
    (String.intercalate separator (text :: rest)).toList
      = text.toList ++ (rest.map String.toList).flatMap (separator.toList ++ ·) := by
  induction rest generalizing text with
  | nil => simp
  | cons next rest ih =>
      rw [String.intercalate_cons_cons, String.toList_append, String.toList_append, ih]
      simp

theorem Layout.more_eq (l : Layout) (depth : Nat) (closing : Char) (texts : List (List Char)) :
    l.more depth closing texts
      = texts.flatMap (',' :: l.line (depth + 1) ++ ·) ++ l.line depth ++ [closing] := by
  induction texts with
  | nil => simp [Layout.more]
  | cons text rest ih => simp [Layout.more, ih]

/-- What is printed compactly is enclosed without blanks. -/
theorem toList_enclosed_compact (depth : Nat) {opening closing : String} {first last : Char}
    (hopening : opening.toList = [first]) (hclosing : closing.toList = [last])
    (texts : List String) :
    (opening ++ String.intercalate "," texts ++ closing).toList
      = first :: Layout.compact.enclosed depth last (texts.map String.toList) := by
  rw [String.toList_append, String.toList_append, hopening, hclosing]
  cases texts with
  | nil => simp [Layout.enclosed]
  | cons text rest =>
      rw [toList_intercalate_cons, List.map_cons, Layout.enclosed, Layout.more_eq]
      simp [Layout.compact]

/-- What is printed prettily is enclosed by lines. -/
theorem toList_bracketed (depth : Nat) {opening closing : String} {first last : Char}
    (hopening : opening.toList = [first]) (hclosing : closing.toList = [last])
    (texts : List String) :
    (bracketed opening closing depth texts).toList
      = first :: Layout.pretty.enclosed depth last (texts.map String.toList) := by
  cases texts with
  | nil => simp [bracketed, Layout.enclosed, hopening, hclosing]
  | cons text rest =>
      unfold bracketed
      simp only [String.toList_append, toList_intercalate_cons, List.map_cons, Layout.enclosed,
        Layout.more_eq, hopening, hclosing, indentation, String.toList_ofList, Layout.pretty]
      simp

theorem brackets : "[".toList = ['['] ∧ "]".toList = [']'] := ⟨rfl, rfl⟩

theorem braces : "\x7b".toList = ['\x7b'] ∧ "\x7d".toList = ['\x7d'] := ⟨rfl, rfl⟩

mutual

/-- **The compact text has no blanks.** -/
theorem toList_compact (depth : Nat) : ∀ j : Json, j.compact.toList = Layout.compact.write depth j
  | .null => by simp [compact, Layout.write]
  | .bool true => by simp [compact, Layout.write]
  | .bool false => by simp [compact, Layout.write]
  | .number n => by rw [compact, Layout.write]
  | .string s => by rw [compact, Layout.write]
  | .array items => by
      rw [compact, toList_enclosed_compact depth brackets.1 brackets.2,
        toList_compactItems (depth + 1) items, Layout.write]
  | .object members => by
      rw [compact, toList_enclosed_compact depth braces.1 braces.2,
        toList_compactMembers (depth + 1) members, Layout.write]

theorem toList_compactItems (depth : Nat) : ∀ items : List Json,
    (compactItems items).map String.toList = Layout.compact.writeItems depth items
  | [] => rfl
  | item :: rest => by
      rw [compactItems, List.map_cons, toList_compact depth item, toList_compactItems depth rest,
        Layout.writeItems]

theorem toList_compactMembers (depth : Nat) : ∀ members : List (String × Json),
    (compactMembers members).map String.toList = Layout.compact.writeMembers depth members
  | [] => rfl
  | (key, value) :: rest => by
      rw [compactMembers, List.map_cons, toList_compactMembers depth rest, Layout.writeMembers,
        ← toList_compact depth value]
      simp [Layout.compact]

end

mutual

/-- **The pretty text has one item or member a line.** -/
theorem toList_prettyAt (depth : Nat) : ∀ j : Json,
    (j.prettyAt depth).toList = Layout.pretty.write depth j
  | .null => by simp [prettyAt, Layout.write]
  | .bool true => by simp [prettyAt, Layout.write]
  | .bool false => by simp [prettyAt, Layout.write]
  | .number n => by rw [prettyAt, Layout.write]
  | .string s => by rw [prettyAt, Layout.write]
  | .array items => by
      rw [prettyAt, toList_bracketed depth brackets.1 brackets.2,
        toList_prettyItems (depth + 1) items, Layout.write]
  | .object members => by
      rw [prettyAt, toList_bracketed depth braces.1 braces.2,
        toList_prettyMembers (depth + 1) members, Layout.write]

theorem toList_prettyItems (depth : Nat) : ∀ items : List Json,
    (prettyItems depth items).map String.toList = Layout.pretty.writeItems depth items
  | [] => rfl
  | item :: rest => by
      rw [prettyItems, List.map_cons, toList_prettyAt depth item, toList_prettyItems depth rest,
        Layout.writeItems]

theorem toList_prettyMembers (depth : Nat) : ∀ members : List (String × Json),
    (prettyMembers depth members).map String.toList = Layout.pretty.writeMembers depth members
  | [] => rfl
  | (key, value) :: rest => by
      rw [prettyMembers, List.map_cons, toList_prettyMembers depth rest, Layout.writeMembers,
        ← toList_prettyAt depth value]
      simp [Layout.pretty]

end

end ArgumentGuards.Json
