import ArgumentGuards.Tree.Render
import Mathlib

/-!
# Words that are read back

What expressions are spelled with: names, numbers and quoted texts. Each of them is read back from
the front of a text, whatever follows it, as long as that does not go on with the word. Inside an
expression that is so, since a word is followed by the end or by a blank, a point, a comma or a
bracket (`Bounded`).

A quoted text needs no such care. It is read by a small machine that remembers where in an escape it
is, and what a character is written by ends where the next one begins (`unquote_quotedChar`), so the
quote that closes the text cannot be missed.
-/

namespace ArgumentGuards.Reader

/-! ## Quoted texts -/

/-- Where in a quoted text the next character stands. -/
inductive Unquoting where
  | between
  /-- After a backslash. -/
  | escaped
  /-- Before the brace that a number follows. -/
  | brace
  /-- In a number of base sixteen, of which so much is read. -/
  | number (soFar : Nat)

/-- The character that a short escape stands for. -/
def unescape (c : Char) : Char :=
  if c = 'n' then '\n'
  else if c = 'r' then '\r'
  else if c = 't' then '\t'
  else if c = '0' then '\x00'
  else c

/-- The value of a digit of base sixteen. -/
def hexValue (c : Char) : Nat := if c.isDigit then c.toNat - '0'.toNat else c.toNat - 'a'.toNat + 10

/-- Reads up to the closing quote and takes it. -/
def unquote : Unquoting → List Char → Option (List Char × List Char)
  | _, [] => none
  | .between, c :: rest =>
    if c = '"' then some ([], rest)
    else if c = '\\' then unquote .escaped rest
    else (unquote .between rest).map fun (text, rest) => (c :: text, rest)
  | .escaped, c :: rest =>
    if c = 'u' then unquote .brace rest
    else (unquote .between rest).map fun (text, rest) => (unescape c :: text, rest)
  | .brace, _ :: rest => unquote (.number 0) rest
  | .number soFar, c :: rest =>
    if c = '\x7d' then
      (unquote .between rest).map fun (text, rest) => (Char.ofNat soFar :: text, rest)
    else unquote (.number (16 * soFar + hexValue c)) rest

theorem digitChar_ne_brace {d : Nat} (small : d < 16) : Nat.digitChar d ≠ '\x7d' := by
  interval_cases d <;> decide

theorem hexValue_digitChar {d : Nat} (small : d < 16) : hexValue (Nat.digitChar d) = d := by
  interval_cases d <;> rfl

theorem unquote_digit {d : Nat} (small : d < 16) (soFar : Nat) (rest : List Char) :
    unquote (.number soFar) (Nat.digitChar d :: rest)
      = unquote (.number (16 * soFar + d)) rest := by
  rw [unquote, if_neg (digitChar_ne_brace small), hexValue_digitChar small]

/-- The digits of a number are read to its value. -/
theorem unquote_hexadecimal (n : Nat) (rest : List Char) :
    unquote (.number 0) (Text.hexadecimal n ++ rest) = unquote (.number n) rest := by
  unfold Text.hexadecimal
  induction n using Nat.strongRecOn generalizing rest with
  | ind n ih =>
      rw [Nat.toDigits_eq_if (by decide)]
      split
      · rename_i small
        rw [List.singleton_append, unquote_digit small, Nat.mul_zero, Nat.zero_add]
      · rw [List.append_assoc, List.singleton_append, ih (n / 16) (by omega),
          unquote_digit (Nat.mod_lt n (by decide)), Nat.div_add_mod]

/-- A character is written by a short escape, by its number or by itself. -/
theorem quotedChar_cases (c : Char) :
    (∃ e, Text.quotedChar c = ['\\', e] ∧ unescape e = c ∧ e ≠ 'u')
      ∨ Text.quotedChar c = Text.numbered c
      ∨ Text.quotedChar c = [c] ∧ c ≠ '"' ∧ c ≠ '\\' := by
  unfold Text.quotedChar
  split_ifs <;> grind [unescape]

/-- **What a character is written by is read as this character**, and nothing after it. -/
theorem unquote_quotedChar (c : Char) (rest : List Char) :
    unquote .between (Text.quotedChar c ++ rest)
      = (unquote .between rest).map fun (text, rest) => (c :: text, rest) := by
  rcases quotedChar_cases c with ⟨e, short, stands, notNumber⟩ | number | ⟨self, noQuote, noEscape⟩
  · rw [short, List.cons_append, List.singleton_append, unquote, if_neg (by decide), if_pos rfl,
      unquote, if_neg notNumber, stands]
  · rw [number, Text.numbered, List.append_assoc, List.append_assoc]
    change unquote (.number 0) (Text.hexadecimal c.toNat ++ ('\x7d' :: rest)) = _
    rw [unquote_hexadecimal, unquote, if_pos rfl, Char.ofNat_toNat]
  · rw [self, List.singleton_append, unquote, if_neg noQuote, if_neg noEscape]

/-- **A quoted text is read back.** -/
theorem unquote_quote (text : String) (rest : List Char) :
    ∃ inside, (Text.quote text).toList ++ rest = '"' :: inside
      ∧ unquote .between inside = some (text.toList, rest) := by
  refine ⟨text.toList.flatMap Text.quotedChar ++ ('"' :: rest), ?_, ?_⟩
  · rw [Text.quote, String.toList_ofList, List.cons_append, List.append_assoc,
      List.singleton_append]
  · induction text.toList with
    | nil => rfl
    | cons c more ih => rw [List.flatMap_cons, List.append_assoc, unquote_quotedChar, ih]; rfl

/-! ## Names -/

/-- Whether a name can begin with a character: letters are those of ASCII and, whatever they are,
all characters beyond it. -/
def isLetter (c : Char) : Bool := c.isAlpha || c = '_' || 0x80 ≤ c.toNat

/-- Whether a character can stand in a name. -/
def isNameChar (c : Char) : Bool := isLetter c || c.isDigit

/-- Whether a text has the form of a name. -/
def isWord (name : String) : Bool :=
  match name.toList with
  | [] => false
  | c :: more => isLetter c && more.all isNameChar

/-- The words that mean something by themselves. -/
def reserved : List String := ["null", "true", "false", "new", "hasValue"]

/-- Whether a text is the name of something. -/
def isIdentifier (name : String) : Bool := isWord name && !reserved.contains name

/-- Reads as far as the characters are of a kind. -/
def readWhile (kind : Char → Bool) (text : List Char) : String × List Char :=
  (String.ofList (text.takeWhile kind), text.dropWhile kind)

/-- The characters after which a word is at its end. -/
def boundaries : List Char := [' ', ')', ']', ',', '.', '[']

/-- Whether a text is at its end or goes on after a word. -/
def Bounded (rest : List Char) : Prop := ∀ c, rest.head? = some c → c ∈ boundaries

theorem bounded_nil : Bounded [] := fun _ same => nomatch same

theorem bounded_cons {c : Char} (h : c ∈ boundaries) (rest : List Char) : Bounded (c :: rest) :=
  fun _ same => Option.some.inj same ▸ h

/-- A text is split before the first character of another kind. -/
theorem split_append {kind : Char → Bool} {word rest : List Char}
    (all : ∀ c ∈ word, kind c = true) (ends : ∀ c, rest.head? = some c → kind c = false) :
    (word ++ rest).takeWhile kind = word ∧ (word ++ rest).dropWhile kind = rest := by
  rw [List.takeWhile_append_of_pos all, List.dropWhile_append_of_pos all]
  cases rest with
  | nil => exact ⟨List.append_nil word, rfl⟩
  | cons c more =>
      have other : ¬ kind c = true := Bool.eq_false_iff.mp (ends c rfl)
      rw [List.takeWhile_cons_of_neg other, List.dropWhile_cons_of_neg other]
      exact ⟨List.append_nil word, rfl⟩

theorem readWhile_append {kind : Char → Bool} {word : String} {rest : List Char}
    (all : ∀ c ∈ word.toList, kind c = true) (ends : ∀ c, rest.head? = some c → kind c = false) :
    readWhile kind (word.toList ++ rest) = (word, rest) := by
  obtain ⟨taken, left⟩ := split_append all ends
  rw [readWhile, taken, left, String.ofList_toList]

theorem isWord_cases {name : String} (h : isWord name = true) :
    ∃ c more, name.toList = c :: more ∧ isLetter c = true ∧ ∀ d ∈ more, isNameChar d = true := by
  unfold isWord at h
  split at h
  · cases h
  · rename_i c more chars
    rw [Bool.and_eq_true, List.all_eq_true] at h
    exact ⟨c, more, chars, h.1, h.2⟩

theorem isNameChar_of_isWord {name : String} (h : isWord name = true) :
    ∀ c ∈ name.toList, isNameChar c = true := by
  obtain ⟨c, more, chars, letter, others⟩ := isWord_cases h
  rw [chars, List.forall_mem_cons]
  exact ⟨by rw [isNameChar, letter, Bool.true_or], others⟩

/-- Letters come after the digits, the quotes and most brackets. -/
theorem lt_toNat_of_isLetter {c : Char} (h : isLetter c = true) : '9'.toNat < c.toNat := by
  have nine : '9'.toNat = 57 := rfl
  unfold isLetter at h
  simp only [Char.isAlpha, Char.isUpper, Char.isLower, Bool.or_eq_true, Bool.and_eq_true,
    decide_eq_true_eq, UInt32.le_iff_toNat_le, ge_iff_le] at h
  change ((((65 ≤ c.toNat ∧ c.toNat ≤ 90) ∨ (97 ≤ c.toNat ∧ c.toNat ≤ 122)) ∨ c = '_')
    ∨ 128 ≤ c.toNat) at h
  rcases h with (h | rfl) | h
  · omega
  · decide
  · omega

theorem not_isDigit_of_isLetter {c : Char} (h : isLetter c = true) : c.isDigit = false := by
  refine Bool.eq_false_iff.mpr fun digit => ?_
  have above := lt_toNat_of_isLetter h
  have below := (Char.isDigit_iff_toNat.mp digit).2
  omega

theorem not_isNameChar_of_bounded {rest : List Char} (h : Bounded rest) (c : Char)
    (first : rest.head? = some c) : isNameChar c = false := by
  have there := h c first
  unfold boundaries at there
  simp only [List.mem_cons, List.not_mem_nil, or_false] at there
  rcases there with rfl | rfl | rfl | rfl | rfl | rfl <;> rfl

/-! ## Literals -/

/-- Reads the digits of a natural number. -/
def readNatural (text : List Char) : Nat × List Char :=
  (Nat.ofDigitChars 10 (text.takeWhile Char.isDigit) 0, text.dropWhile Char.isDigit)

/-- Reads a constant, if one stands in front. -/
def readLiteral : List Char → Option (Literal × List Char)
  | [] => none
  | c :: rest =>
    if c = '"' then
      (unquote .between rest).map fun (text, rest) => (.text (String.ofList text), rest)
    else if c = '-' then
      let (n, rest) := readNatural rest
      some (.int (Int64.ofInt (-n)), rest)
    else if c.isDigit then
      match readNatural (c :: rest) with
      | (n, 'u' :: rest) => some (.uint (UInt32.ofNat n), rest)
      | (n, rest) => some (.int (Int64.ofInt n), rest)
    else
      let (word, rest) := readWhile isNameChar (c :: rest)
      if word = "null" then some (.null, rest)
      else if word = "true" then some (.bool true, rest)
      else if word = "false" then some (.bool false, rest)
      else none

theorem readNatural_toDigits (n : Nat) {rest : List Char}
    (ends : ∀ c, rest.head? = some c → c.isDigit = false) :
    readNatural (Nat.toDigits 10 n ++ rest) = (n, rest) := by
  have digits : ∀ c ∈ Nat.toDigits 10 n, c.isDigit = true := fun c there =>
    Nat.isDigit_of_mem_toDigits (by decide) (by decide) there
  obtain ⟨taken, left⟩ := split_append digits ends
  rw [readNatural, taken, left, Nat.ofDigitChars_toDigits (by decide) (by decide)]

theorem Bounded.not_isDigit {rest : List Char} (h : Bounded rest) (c : Char)
    (first : rest.head? = some c) : c.isDigit = false := by
  have noName := not_isNameChar_of_bounded h c first
  rw [isNameChar, Bool.or_eq_false_iff] at noName
  exact noName.2

/-- A number is read by its digits, and by the letter behind them if there is one. -/
theorem readLiteral_digits (n : Nat) (rest : List Char) :
    readLiteral (Nat.toDigits 10 n ++ rest)
      = match readNatural (Nat.toDigits 10 n ++ rest) with
        | (n, 'u' :: rest) => some (.uint (UInt32.ofNat n), rest)
        | (n, rest) => some (.int (Int64.ofInt n), rest) := by
  cases digits : Nat.toDigits 10 n with
  | nil => exact absurd digits Nat.toDigits_ne_nil
  | cons c more =>
      have isDigit : c.isDigit = true :=
        Nat.isDigit_of_mem_toDigits (by decide) (by decide) (digits ▸ List.mem_cons_self)
      have noQuote : c ≠ '"' := by rintro rfl; cases isDigit
      have noSign : c ≠ '-' := by rintro rfl; cases isDigit
      rw [List.cons_append, readLiteral, if_neg noQuote, if_neg noSign, if_pos isDigit]

theorem readLiteral_int (n : Int64) {rest : List Char} (bounded : Bounded rest) :
    readLiteral ((Int.repr n.toInt).toList ++ rest) = some (.int n, rest) := by
  have back := Int64.ofInt_toInt n
  cases value : n.toInt with
  | ofNat m =>
      rw [value] at back
      change readLiteral ((Nat.repr m).toList ++ rest) = _
      rw [Nat.toList_repr, readLiteral_digits, readNatural_toDigits m bounded.not_isDigit]
      split
      · rename_i same
        obtain ⟨-, rfl⟩ := Prod.mk.inj same
        exact absurd (bounded 'u' rfl) (by decide)
      · rename_i same
        obtain ⟨rfl, rfl⟩ := Prod.mk.inj same
        exact congrArg (fun n => some (Literal.int n, rest)) back
  | negSucc m =>
      rw [value] at back
      change readLiteral (("-" ++ Nat.repr m.succ).toList ++ rest) = _
      rw [String.toList_append, Nat.toList_repr]
      change readLiteral ('-' :: (Nat.toDigits 10 m.succ ++ rest)) = _
      rw [readLiteral, if_neg (by decide), if_pos rfl,
        readNatural_toDigits m.succ bounded.not_isDigit]
      exact congrArg (fun n => some (Literal.int n, rest)) back

theorem readLiteral_uint (n : UInt32) (rest : List Char) :
    readLiteral ((Nat.repr n.toNat ++ "u").toList ++ rest) = some (.uint n, rest) := by
  have unit : ∀ c, ('u' :: rest).head? = some c → c.isDigit = false := by
    rintro c ⟨⟩
    rfl
  rw [String.toList_append, Nat.toList_repr, List.append_assoc]
  change readLiteral (Nat.toDigits 10 n.toNat ++ ('u' :: rest)) = _
  rw [readLiteral_digits, readNatural_toDigits n.toNat unit]
  exact congrArg (fun n => some (Literal.uint n, rest)) UInt32.ofNat_toNat

/-- Of words only three are constants. -/
theorem readLiteral_word {word : String} (isWord : isWord word = true) {rest : List Char}
    (ends : ∀ c, rest.head? = some c → isNameChar c = false) :
    readLiteral (word.toList ++ rest)
      = if word = "null" then some (.null, rest)
        else if word = "true" then some (.bool true, rest)
        else if word = "false" then some (.bool false, rest)
        else none := by
  have read := readWhile_append (isNameChar_of_isWord isWord) ends
  obtain ⟨c, more, chars, letter, -⟩ := isWord_cases isWord
  have above := lt_toNat_of_isLetter letter
  rw [chars, List.cons_append] at read ⊢
  rw [readLiteral, if_neg (by rintro rfl; exact absurd above (by decide)),
    if_neg (by rintro rfl; exact absurd above (by decide)),
    if_neg (Bool.eq_false_iff.mp (not_isDigit_of_isLetter letter)), read]

/-- **A constant is read back.** -/
theorem readLiteral_render (literal : Literal) {rest : List Char} (bounded : Bounded rest) :
    readLiteral (literal.render.toList ++ rest) = some (literal, rest) := by
  have ends := not_isNameChar_of_bounded bounded
  cases literal with
  | null => exact readLiteral_word (by decide) ends
  | bool b =>
      cases b with
      | true => exact readLiteral_word (by decide) ends
      | false => exact readLiteral_word (by decide) ends
  | int n => exact readLiteral_int n bounded
  | uint n => exact readLiteral_uint n rest
  | text s =>
      obtain ⟨inside, quoted, unquoted⟩ := unquote_quote s rest
      change readLiteral ((Text.quote s).toList ++ rest) = _
      rw [quoted, readLiteral, if_pos rfl, unquoted]
      exact congrArg (fun s => some (Literal.text s, rest)) String.ofList_toList

end ArgumentGuards.Reader
