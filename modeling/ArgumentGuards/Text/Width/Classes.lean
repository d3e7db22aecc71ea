import ArgumentGuards.Text.Ranges
import ArgumentGuards.Text.Width.Tables

/-!
# Character classes that decide display width

What a single character is, as far as it matters to the width of a text: its width alone, the
shapes that a selector can give it, and its part in emoji sequences and in the ligatures of a few
scripts.
-/

namespace ArgumentGuards.Text

/-- Whether a character takes no column when nothing after it matters. -/
def isZeroWidth (c : Char) : Bool := inRanges zeroWidthRanges c.toNat

/-- Whether a character takes two columns when nothing after it matters. -/
def isWide (c : Char) : Bool := inRanges wideRanges c.toNat

/-- Whether an Arabic letter reaches over a character without a column to the letter before. -/
def isJoinTransparent (c : Char) : Bool := isZeroWidth c && !inRanges joinBreakRanges c.toNat

/-- Whether a ligature forms across a character. -/
def isLigatureTransparent (c : Char) : Bool :=
  let code := c.toNat
  code = 0x34F || inRange 0x17B4 0x17B5 code || inRange 0x180B 0x180D code || code = 0x180F ||
    inRange 0xFE00 0xFE0F code || inRange 0xE0100 0xE01EF code

/-- Whether a character is shown as an emoji unless a selector says otherwise. -/
def isEmojiByDefault (c : Char) : Bool := inRanges emojiByDefaultRanges c.toNat

/-- Whether the emoji selector shows a character as an emoji. -/
def hasEmojiForm (c : Char) : Bool := inRanges emojiFormRanges c.toNat

/-- Whether the text selector makes a wide emoji narrow: enclosed ideographs stay wide. -/
def hasNarrowForm (c : Char) : Bool :=
  isEmojiByDefault c && hasEmojiForm c && !inRange 0x1F200 0x1F2FF c.toNat

/-- Whether a character is a quotation mark with a full-width form. -/
def isCurlyQuote (c : Char) : Bool :=
  c = '\u2018' || c = '\u2019' || c = '\u201C' || c = '\u201D'

/-- Whether a character is an emoji that takes a skin tone. -/
def isSkinToneBase (c : Char) : Bool := inRanges skinToneBaseRanges c.toNat

/-- Whether a character is a skin tone. -/
def isSkinTone (c : Char) : Bool := inRange 0x1F3FB 0x1F3FF c.toNat

/-- Whether a character is a letter that makes a flag together with another one. -/
def isFlagLetter (c : Char) : Bool := inRange 0x1F1E6 0x1F1FF c.toNat

/-- Whether a character is an Arabic alef, which a lam before it is written together with. -/
def isAlef (c : Char) : Bool :=
  let code := c.toNat
  inRange 0x622 0x623 code || code = 0x625 || code = 0x627 || inRange 0x671 0x673 code ||
    code = 0x675 || inRange 0x773 0x774 code || inRange 0x870 0x882 code

/-- Whether a character is an Arabic lam. -/
def isLam (c : Char) : Bool :=
  let code := c.toNat
  code = 0x644 || inRange 0x6B5 0x6B8 code || code = 0x76A || code = 0x8A6 || code = 0x8C7

/-- Whether a character is a Khmer letter with a form below the letter before it. -/
def hasSubscriptForm (c : Char) : Bool :=
  let code := c.toNat
  inRange 0x1780 0x1782 code || inRange 0x1784 0x1787 code || inRange 0x1789 0x178C code ||
    inRange 0x178E 0x1793 code || inRange 0x1795 0x1798 code || inRange 0x179B 0x179D code ||
    code = 0x17A0 || code = 0x17A2 || code = 0x17A7 || inRange 0x17AB 0x17AC code || code = 0x17AF

/-- Whether a character is a Tifinagh consonant. -/
def isTifinaghConsonant (c : Char) : Bool :=
  inRange 0x2D31 0x2D65 c.toNat || c.toNat = 0x2D6F

/-- The character that joins those on its two sides to one shape. -/
def joiner : Char := '\u200D'

end ArgumentGuards.Text
