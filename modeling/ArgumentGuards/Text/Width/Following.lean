import ArgumentGuards.Text.Width.Classes

/-!
# Shapes of several characters

Some sequences are shown as one shape: an emoji with a skin tone, emoji that are joined, pairs of
flag letters, and the ligatures of a few scripts. How wide a character is depends on what the text
after it begins with. A character that completes a shape adds nothing to the columns that the shape
already has; where a shape is narrower than what was counted for its parts, it takes a column back.
-/

namespace ArgumentGuards.Text

/-- The last part of a ligature that the characters before it may complete. -/
inductive LigaturePart where
  /-- A Hebrew lamed, which an alef joins. -/
  | lamed
  /-- A Khmer letter, which the sign before it puts below another letter. -/
  | khmerLetter
  /-- A Buginese ya. -/
  | ya
  /-- A Buginese ya with the vowel i before it. -/
  | vowelYa
  /-- A Tifinagh consonant. -/
  | consonant
  /-- A Tifinagh consonant with the consonant joiner before it. -/
  | joinedConsonant
  /-- A second tone letter of Lisu. -/
  | tone
  /-- An old Turkic i. -/
  | orkhonI
  deriving DecidableEq

/-- What the text after a character begins with, as far as it matters to that character. -/
inductive Following where
  /-- Nothing that matters. -/
  | plain
  /-- An Arabic alef. -/
  | alef
  /-- The last part of a ligature; `joined` tells whether a joiner stands before it. -/
  | ligature (part : LigaturePart) (joined : Bool)
  /-- The Kirat Rai vowel e. -/
  | kiratE
  /-- The Kirat Rai vowel ai. -/
  | kiratAi
  /-- A whole emoji. -/
  | emoji
  /-- A skin tone. -/
  | skinTone
  /-- One flag letter. -/
  | flagLetter
  /-- Two flag letters or more. -/
  | flagLetters
  /-- A joiner with an emoji after it. -/
  | joinedEmoji
  /-- The sign of a keycap that is joined to an emoji. -/
  | joinedKeycap
  /-- One flag letter that is joined to an emoji. -/
  | joinedFlagLetter
  /-- An even number of flag letters, the last joined to an emoji. -/
  | joinedEvenFlagLetters
  /-- Three flag letters or a greater odd number, the last joined to an emoji. -/
  | joinedOddFlagLetters
  /-- The last letters of a tag that is joined to an emoji; at first its end alone. -/
  | tagLetters (count : Nat)
  /-- The last digits of a tag that is joined to an emoji. -/
  | tagDigits (count : Nat)
  deriving DecidableEq

/-- A character that chooses the shape of the one before it. -/
inductive Selector where
  /-- As an emoji. -/
  | emoji
  /-- As text. -/
  | text
  /-- In the full-width form. -/
  | fullWidth
  deriving DecidableEq

/-- The selector that a character is. -/
def Selector.ofChar? (c : Char) : Option Selector :=
  if c = '\uFE0F' then some .emoji
  else if c = '\uFE0E' then some .text
  else if c = '\uFE01' then some .fullWidth
  else none

namespace Following

/-- Whether the letter before may join over a selector. -/
def staysOverSelector : Following → Bool
  | .alef | .ligature .. => true
  | _ => false

/-- Whether an emoji before it is joined to one after it, and so has no columns of its own. -/
def joinsEmoji : Following → Bool
  | .joinedEmoji | .joinedKeycap => true
  | _ => false

/-- A character that nothing after it has an influence on: its columns, and what it begins. -/
def alone (c : Char) : Int × Following :=
  let code := c.toNat
  if code ≤ 0xA0 then (1, .plain)
  else if code = 0x5DC then (1, .ligature .lamed false)
  else if isAlef c then (1, .alef)
  else if hasSubscriptForm c then (1, .ligature .khmerLetter false)
  else if code = 0x17A4 then (2, .plain)
  else if code = 0x17D8 then (3, .plain)
  else if code = 0x1A10 then (1, .ligature .ya false)
  else if isTifinaghConsonant c then (1, .ligature .consonant false)
  else if inRange 0xA4FC 0xA4FD code then (1, .ligature .tone false)
  else if code = 0x10C03 then (1, .ligature .orkhonI false)
  else if code = 0x16D67 then (1, .kiratE)
  else if code = 0x16D68 then (1, .kiratAi)
  else if isFlagLetter c then (1, .flagLetter)
  else if isSkinTone c then (2, .skinTone)
  else if isEmojiByDefault c then (2, .emoji)
  else if isZeroWidth c then (0, .plain)
  else if isWide c then (2, .plain)
  else (1, .plain)

/--
A character before the last part of a ligature. Some ligatures need a joiner between their parts,
and the others form with or without one.
-/
def beforeLigature (part : LigaturePart) (joined : Bool) (c : Char) : Int × Following :=
  if c = joiner then (0, .ligature part true)
  else if isLigatureTransparent c then (0, .ligature part joined)
  else
    let code := c.toNat
    match part, joined with
    | .lamed, true => if code = 0x5D0 then (0, .plain) else alone c
    | .khmerLetter, _ => if code = 0x17D2 then (-1, .plain) else alone c
    | .ya, true => if code = 0x1A17 then (0, .ligature .vowelYa false) else alone c
    | .vowelYa, _ => if code = 0x1A15 then (0, .plain) else alone c
    | .consonant, joined =>
      if code = 0x2D7F then (1, .ligature .joinedConsonant false)
      else if joined && isTifinaghConsonant c then (0, .plain)
      else alone c
    | .joinedConsonant, _ => if isTifinaghConsonant c then (-1, .plain) else alone c
    | .tone, _ => if inRange 0xA4F8 0xA4FB code then (0, .plain) else alone c
    | .orkhonI, true => if code = 0x10C32 then (0, .plain) else alone c
    | _, _ => alone c

/-- A character before a joiner with an emoji after it. -/
def beforeJoinedEmoji (c : Char) : Int × Following :=
  let code := c.toNat
  if code = 0x20E3 then (0, .joinedKeycap)
  else if isFlagLetter c then (1, .joinedFlagLetter)
  else if isSkinTone c then (0, .skinTone)
  else if code = 0xE007F then (0, .tagLetters 0)
  else
    match alone c with
    | (_, .emoji) => (0, .emoji)
    | other => other

/-- A character before the last `letters` letters of a joined tag: a tag holds at most six. -/
def beforeTagLetters (letters : Nat) (c : Char) : Int × Following :=
  let code := c.toNat
  if letters < 6 && inRange 0xE0061 0xE007A code then (0, .tagLetters (letters + 1))
  else if letters < 5 && inRange 0xE0030 0xE0039 code then (0, .tagDigits 1)
  else if 3 ≤ letters && code = 0x1F3F4 then (0, .emoji)
  else alone c

/-- A character before the last `digits` digits of a joined tag: a tag holds three. -/
def beforeTagDigits (digits : Nat) (c : Char) : Int × Following :=
  let code := c.toNat
  if digits < 3 && inRange 0xE0030 0xE0039 code then (0, .tagDigits (digits + 1))
  else if digits = 3 && code = 0x1F3F4 then (0, .emoji)
  else alone c

/-- What a character adds to the width of the text after it, and what it begins with that text. -/
def before (following : Following) (c : Char) : Int × Following :=
  let code := c.toNat
  match following with
  | .plain => alone c
  | .alef =>
    if isLam c then (0, .plain) else if isJoinTransparent c then (0, .alef) else alone c
  | .ligature part joined => beforeLigature part joined c
  | .kiratE =>
    if code = 0x16D63 || code = 0x16D69 then (0, .plain)
    else if code = 0x16D67 then (0, .kiratAi)
    else if code = 0x16D68 then (1, .kiratE)
    else alone c
  | .kiratAi => if code = 0x16D63 then (0, .plain) else alone c
  | .emoji => if c = joiner then (0, .joinedEmoji) else alone c
  | .skinTone =>
    if isSkinToneBase c then (0, .emoji) else if c = joiner then (0, .joinedEmoji) else alone c
  | .flagLetter => if isFlagLetter c then (1, .flagLetters) else alone c
  | .flagLetters =>
    if isFlagLetter c then (1, .flagLetters)
    else if c = joiner then (0, .joinedEmoji)
    else alone c
  | .joinedEmoji => beforeJoinedEmoji c
  | .joinedKeycap => alone c
  | .joinedFlagLetter => if isFlagLetter c then (-1, .joinedEvenFlagLetters) else alone c
  | .joinedEvenFlagLetters =>
    if isFlagLetter c then (3, .joinedOddFlagLetters)
    else if c = joiner then (0, .joinedEmoji)
    else alone c
  | .joinedOddFlagLetters =>
    if isFlagLetter c then (-1, .joinedEvenFlagLetters)
    else if c = joiner then (0, .joinedEmoji)
    else alone c
  | .tagLetters letters => beforeTagLetters letters c
  | .tagDigits digits => beforeTagDigits digits c

/-- What still matters after a selector that the character before it has no shape for. -/
def withoutSelector (following : Following) : Following :=
  if following.staysOverSelector then following else .plain

/-- What still matters behind a selector. -/
def behind (following : Following) (selector : Selector) : Following :=
  if selector = .emoji && following.joinsEmoji then following else following.withoutSelector

end Following

end ArgumentGuards.Text
