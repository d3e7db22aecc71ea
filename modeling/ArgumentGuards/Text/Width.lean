import ArgumentGuards.Text.Width.Following

/-!
# Display width

How many columns of a terminal a text takes. Most characters take one; a combining mark takes none;
East Asian characters and emoji take two, and what is shown as one shape is counted once. The end of
such a shape decides what the characters before it take, so a text is measured from its last
character to its first, and the measure keeps what the part already measured begins with.
-/

namespace ArgumentGuards.Text

/-- What is known of the end of a text: its width so far and what it begins with. -/
structure Measure where
  /-- The columns so far. -/
  columns : Int
  /-- What the measured part begins with, a selector in front of it apart. -/
  following : Following
  /-- The selector that the measured part begins with. -/
  selector : Option Selector

namespace Measure

/-- Nothing measured yet. -/
def zero : Measure := ⟨0, .plain, none⟩

/-- The measure after a character that is no selector and takes no notice of one. -/
def pushPlain (m : Measure) (c : Char) : Measure :=
  let following := if m.selector.isSome then m.following.withoutSelector else m.following
  let (columns, following) := following.before c
  ⟨m.columns + columns, following, none⟩

/-- The measure with the character before it. -/
def push (m : Measure) (c : Char) : Measure :=
  match Selector.ofChar? c with
  | some selector =>
    let following := if m.selector = some .emoji then m.following.withoutSelector else m.following
    ⟨m.columns, following.behind selector, some selector⟩
  | none =>
    match m.selector with
    | some .emoji =>
      if hasEmojiForm c then ⟨m.columns + if m.following.joinsEmoji then 0 else 2, .emoji, none⟩
      else m.pushPlain c
    | some .text => if hasNarrowForm c then ⟨m.columns + 1, .plain, none⟩ else m.pushPlain c
    | some .fullWidth => if isCurlyQuote c then ⟨m.columns + 2, .plain, none⟩ else m.pushPlain c
    | none => m.pushPlain c

end Measure

/-- The columns that a text takes. -/
def width (text : String) : Nat :=
  (text.toList.foldr (fun c m => Measure.push m c) .zero).columns.toNat

end ArgumentGuards.Text
