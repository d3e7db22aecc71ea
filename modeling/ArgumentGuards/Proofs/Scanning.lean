import ArgumentGuards.Proofs.Layouts
import ArgumentGuards.Proofs.Shown
import Mathlib

/-!
# Scanning what is written

The outline of a text in which a value is written shows the value. Each kind of token is scanned up
to its end and no further, which for a numeral depends on what follows it, so values are scanned in
front of a rest that cannot go on a numeral (`Ends`).

Where something ends is said by the characters that are left. The number of bytes up to there is
left open, since messages alone have a use for it.
-/

namespace ArgumentGuards.Json

/-! ## Blanks -/

theorem skipBlanks_append {blanks : List Char} (blank : ∀ c ∈ blanks, Cursor.isBlank c)
    (rest : List Char) (offset : Nat) : ∃ there,
      Cursor.skipBlanks ⟨offset, blanks ++ rest⟩ = Cursor.skipBlanks ⟨there, rest⟩ := by
  induction blanks generalizing offset with
  | nil => exact ⟨offset, rfl⟩
  | cons c more ih =>
      rw [List.forall_mem_cons] at blank
      obtain ⟨there, same⟩ := ih blank.2 (offset + 1)
      refine ⟨there, Eq.trans ?_ same⟩
      exact if_pos blank.1

theorem skipBlanks_cons {c : Char} (solid : Cursor.isBlank c = false) (rest : List Char)
    (offset : Nat) : Cursor.skipBlanks ⟨offset, c :: rest⟩ = ⟨offset, c :: rest⟩ :=
  if_neg (Bool.eq_false_iff.mp solid)

/-- Blanks are passed over up to a character that is none. -/
theorem exists_skipBlanks {blanks : List Char} (blank : ∀ c ∈ blanks, Cursor.isBlank c) {c : Char}
    (solid : Cursor.isBlank c = false) (rest : List Char) (offset : Nat) : ∃ there,
      Cursor.skipBlanks ⟨offset, blanks ++ c :: rest⟩ = ⟨there, c :: rest⟩ := by
  obtain ⟨there, same⟩ := skipBlanks_append blank (c :: rest) offset
  exact ⟨there, same.trans (skipBlanks_cons solid rest there)⟩

/-! ## Strings -/

section

variable {done letters more : List Char} {offset : Nat}

/-- The characters of an escape are passed over. -/
theorem scanString_skip (done letters more : List Char) (offset : Nat) : ∃ there,
    scanString letters.length done none offset (letters ++ more)
      = scanString 0 done none there more := by
  induction letters generalizing offset with
  | nil => exact ⟨offset, rfl⟩
  | cons c rest ih =>
      obtain ⟨there, same⟩ := ih (offset + c.utf8Size)
      exact ⟨there, same⟩

theorem scanString_escape {c : Char}
    (escape : scanEscape (offset + 1) (letters ++ more) = .char c letters.length) : ∃ there,
      scanString 0 done none offset ('\\' :: (letters ++ more))
        = scanString 0 (c :: done) none there more := by
  obtain ⟨there, same⟩ := scanString_skip (c :: done) letters more (offset + 1)
  refine ⟨there, Eq.trans ?_ same⟩
  rw [scanString]
  dsimp only
  rw [if_neg (by decide), if_pos rfl, escape]

theorem length_fourHexDigits {n : Nat} (control : n < 0x20) : (fourHexDigits n).length = 4 := by
  revert n
  decide

/-- The numbers of control characters are read back from their digits. -/
theorem hexUnit_control {n : Nat} (control : n < 0x20) (more : List Char) (offset : Nat) :
    hexUnit offset (fourHexDigits n ++ more) = .ok n := by
  have digits : (fourHexDigits n).mapM hexValue? = some [0, 0, n / 16, n % 16] := by
    revert n
    decide
  have first : (fourHexDigits n ++ more).take 4 = fourHexDigits n :=
    List.take_left' (length_fourHexDigits control)
  unfold hexUnit
  dsimp only
  rw [first, digits]
  dsimp only
  rw [show ((0 * 16 + 0) * 16 + n / 16) * 16 + n % 16 = n by omega]

theorem scanEscape_control {c : Char} (control : c.toNat < 0x20) (more : List Char) (offset : Nat) :
    scanEscape offset ('u' :: (fourHexDigits c.toNat ++ more)) = .char c 5 := by
  have unit := hexUnit_control control more (offset + 1)
  have trailing : isTrailing c.toNat = false := by
    unfold isTrailing
    rw [decide_eq_false (by omega), Bool.false_and]
  have leading : isLeading c.toNat = false := by
    unfold isLeading
    rw [decide_eq_false (by omega), Bool.false_and]
  change numberedEscape (offset + 1) (fourHexDigits c.toNat ++ more) = .char c 5
  unfold numberedEscape
  rw [unit]
  dsimp only
  rw [if_neg (Bool.eq_false_iff.mp trailing), if_neg (Bool.eq_false_iff.mp leading),
    Char.ofNat_toNat]

/-- **Every character of a string is scanned back.** -/
theorem scanString_escapedChar (c : Char) (offset : Nat) (done more : List Char) : ∃ there,
    scanString 0 done none offset (escapedChar c ++ more)
      = scanString 0 (c :: done) none there more := by
  unfold escapedChar
  split_ifs with quote backslash backspace formFeed lineFeed carriageReturn tab control
  · exact quote ▸ @scanString_escape done ['"'] more offset '"' rfl
  · exact backslash ▸ @scanString_escape done ['\\'] more offset '\\' rfl
  · exact backspace ▸ @scanString_escape done ['b'] more offset '\x08' rfl
  · exact formFeed ▸ @scanString_escape done ['f'] more offset '\x0c' rfl
  · exact lineFeed ▸ @scanString_escape done ['n'] more offset '\n' rfl
  · exact carriageReturn ▸ @scanString_escape done ['r'] more offset '\r' rfl
  · exact tab ▸ @scanString_escape done ['t'] more offset '\t' rfl
  · refine @scanString_escape done ('u' :: fourHexDigits c.toNat) more offset c ?_
    rw [List.length_cons, length_fourHexDigits control]
    exact scanEscape_control control more (offset + 1)
  · refine ⟨offset + c.utf8Size, ?_⟩
    change (if c = '"' then _ else if c = '\\' then _ else if c.toNat < 0x20 then _ else _) = _
    rw [if_neg quote, if_neg backslash, if_neg control]
    rfl

/-- The text of a string is scanned up to its closing quote. -/
theorem scanString_text (text done rest : List Char) (offset : Nat) : ∃ there,
    scanString 0 done none offset (text.flatMap escapedChar ++ '"' :: rest)
      = .ok (.ok (String.ofList (done.reverse ++ text)), ⟨there, rest⟩) := by
  induction text generalizing done offset with
  | nil =>
      rw [List.append_nil]
      exact ⟨offset + 1, rfl⟩
  | cons c text ih =>
      rw [List.flatMap_cons, List.append_assoc]
      obtain ⟨next, same⟩ := scanString_escapedChar c offset done
        (text.flatMap escapedChar ++ '"' :: rest)
      obtain ⟨there, ends⟩ := ih (c :: done) next
      refine ⟨there, same.trans (ends.trans ?_)⟩
      rw [List.reverse_cons, List.append_assoc, List.singleton_append]

end

theorem toList_quote (text : String) :
    (quote text).toList = '"' :: (text.toList.flatMap escapedChar ++ ['"']) :=
  String.toList_ofList

/-- The characters between the quotes of a string, and what follows. -/
def quotedIn (text : String) (rest : List Char) : List Char :=
  text.toList.flatMap escapedChar ++ '"' :: rest

theorem toList_quote_append (text : String) (rest : List Char) :
    (quote text).toList ++ rest = '"' :: quotedIn text rest := by
  rw [toList_quote, List.cons_append, List.append_assoc, List.singleton_append]
  rfl

/-- **A string that is written is scanned back.** -/
theorem scanString_quotedIn (text : String) (rest : List Char) (offset : Nat) : ∃ there,
    scanString 0 [] none offset (quotedIn text rest) = .ok (.ok text, ⟨there, rest⟩) := by
  obtain ⟨there, ends⟩ := scanString_text text.toList [] rest offset
  refine ⟨there, ends.trans ?_⟩
  rw [List.reverse_nil, List.nil_append, String.ofList_toList]

/-! ## Numerals -/

/-- Whether a character stands after a value. -/
def Delimits (c : Char) : Prop :=
  c = ',' ∨ c = ']' ∨ c = '\x7d' ∨ Cursor.isBlank c

/-- Whether a text ends or goes on with what stands after a value. -/
def Ends (rest : List Char) : Prop := ∀ c, rest.head? = some c → Delimits c

theorem Delimits.not_isDigit {c : Char} (h : Delimits c) : c.isDigit = false := by
  rcases h with rfl | rfl | rfl | blank
  · rfl
  · rfl
  · rfl
  · unfold Cursor.isBlank at blank
    simp only [Bool.or_eq_true, decide_eq_true_eq] at blank
    rcases blank with ((rfl | rfl) | rfl) | rfl <;> rfl

/-- What stands after a value goes on no numeral. -/
theorem Ends.head?_ne {rest : List Char} (h : Ends rest) {c : Char} (goesOn : ¬ Delimits c) :
    rest.head? ≠ some c :=
  fun same => goesOn (h c same)

theorem not_delimits {c : Char} (h : c = '.' ∨ c = 'e' ∨ c = 'E') : ¬ Delimits c := by
  unfold Delimits Cursor.isBlank
  rcases h with rfl | rfl | rfl <;> decide

theorem Ends.takeWhile {rest : List Char} (h : Ends rest) : rest.takeWhile Char.isDigit = [] := by
  cases rest with
  | nil => rfl
  | cons c rest => exact List.takeWhile_cons_of_neg (by rw [(h c rfl).not_isDigit]; decide)

theorem le_ofDigitChars (digits : List Char) (significand : Nat) :
    significand ≤ Nat.ofDigitChars 10 digits significand := by
  induction digits generalizing significand with
  | nil => exact Nat.le_refl _
  | cons d rest ih =>
      rw [Nat.ofDigitChars_cons]
      exact Nat.le_trans (by omega) (ih _)

/-- Digits that fit are accumulated to their value. -/
theorem accumulate_eq {digits : List Char} {significand : Nat}
    (fits : Nat.ofDigitChars 10 digits significand < Nat.pow 2 64) :
    accumulate significand digits = (Nat.ofDigitChars 10 digits significand, []) := by
  induction digits generalizing significand with
  | nil => rfl
  | cons d rest ih =>
      rw [Nat.ofDigitChars_cons] at fits ⊢
      have same : significand * 10 + digitValue d = 10 * significand + (d.toNat - '0'.toNat) := by
        rw [Nat.mul_comm]
        rfl
      have below : significand * 10 + digitValue d < Nat.pow 2 64 := by
        rw [same]
        exact Nat.lt_of_le_of_lt (le_ofDigitChars rest _) fits
      rw [accumulate, if_pos below, same]
      exact ih fits

/-- The digits of a number but zero do not begin with a zero. -/
theorem toDigits_ne_zero_cons {n : Nat} (positive : 0 < n) (more : List Char) :
    Nat.toDigits 10 n ≠ '0' :: more := by
  induction n using Nat.strongRecOn generalizing more with
  | ind n ih =>
      rw [Nat.toDigits_eq_if (by decide)]
      split
      · intro same
        have zero := Nat.digitChar_eq_zero.mp (List.cons.inj same).1
        omega
      · have shorter := ih (n / 10) (by omega) (by omega)
        cases digits : Nat.toDigits 10 (n / 10) with
        | nil => exact absurd digits Nat.toDigits_ne_nil
        | cons d rest =>
            intro same
            rw [List.cons_append, List.cons.injEq] at same
            exact shorter rest (same.1 ▸ digits)

theorem demandDigits_toDigits {rest : List Char} (ends : Ends rest) (n start offset : Nat) :
    demandDigits start ⟨offset, Nat.toDigits 10 n ++ rest⟩
      = .ok (Nat.toDigits 10 n, ⟨offset + (Nat.toDigits 10 n).length, rest⟩) := by
  have digits : (Nat.toDigits 10 n ++ rest).takeWhile Char.isDigit = Nat.toDigits 10 n := by
    rw [List.takeWhile_append_of_pos, ends.takeWhile, List.append_nil]
    exact fun c there => Nat.isDigit_of_mem_toDigits (by decide) (by decide) there
  unfold demandDigits takeDigits
  dsimp only
  rw [digits, List.drop_left]
  cases given : Nat.toDigits 10 n with
  | nil => exact absurd given Nat.toDigits_ne_nil
  | cons d more => rfl

/-- The digits of a number are scanned up to their end. -/
theorem scanWhole_toDigits {rest : List Char} (ends : Ends rest) (n start offset : Nat) : ∃ there,
    scanWhole start ⟨offset, Nat.toDigits 10 n ++ rest⟩
      = .ok (Nat.toDigits 10 n, ⟨there, rest⟩) := by
  have demanded := demandDigits_toDigits ends n start offset
  refine ⟨offset + (Nat.toDigits 10 n).length, ?_⟩
  unfold scanWhole
  split
  · rename_i c more zero
    -- a leading zero is all there is of the number, so what follows ends the numeral
    have isZero : n = 0 := by
      by_contra positive
      cases digits : Nat.toDigits 10 n with
      | nil => exact Nat.toDigits_ne_nil digits
      | cons d others =>
          rw [digits, List.cons_append, List.cons.injEq] at zero
          exact toDigits_ne_zero_cons (Nat.pos_of_ne_zero positive) others (zero.1 ▸ digits)
    subst isZero
    rw [Nat.toDigits_zero, List.cons_append, List.nil_append, List.cons.injEq] at zero
    have noDigit : c.isDigit = false := (ends c (by rw [zero.2]; rfl)).not_isDigit
    rw [if_neg (Bool.eq_false_iff.mp noDigit)]
    rfl
  · exact demanded

theorem scanFraction_of_ends {rest : List Char} (ends : Ends rest) (start offset : Nat) :
    scanFraction start ⟨offset, rest⟩ = .ok (none, ⟨offset, rest⟩) :=
  if_neg (ends.head?_ne (not_delimits (.inl rfl)))

theorem scanExponent_of_ends {rest : List Char} (ends : Ends rest) (start offset : Nat) :
    scanExponent start ⟨offset, rest⟩ = .ok (none, offset, ⟨offset, rest⟩) := by
  refine if_neg (not_or.mpr ⟨?_, ?_⟩)
  · exact ends.head?_ne (not_delimits (.inr (.inl rfl)))
  · exact ends.head?_ne (not_delimits (.inr (.inr rfl)))

theorem exists_toDigits (n : Nat) (rest : List Char) : ∃ c more,
    Nat.toDigits 10 n ++ rest = c :: more ∧ c.isDigit = true := by
  cases digits : Nat.toDigits 10 n with
  | nil => exact absurd digits Nat.toDigits_ne_nil
  | cons c more =>
      have there : c ∈ Nat.toDigits 10 n := digits ▸ List.mem_cons_self
      exact ⟨c, more ++ rest, rfl, Nat.isDigit_of_mem_toDigits (by decide) (by decide) there⟩

/-- A numeral without point and exponent. -/
structure Numeral.IsWhole (numeral : Numeral) (negative : Bool) (n : Nat) : Prop where
  negative : numeral.negative = negative
  whole : numeral.whole = Nat.toDigits 10 n
  fraction : numeral.fraction = none
  exponent : numeral.exponent = none

theorem scanNumeral_digits {rest : List Char} (ends : Ends rest) (negative : Bool) (n offset : Nat) :
    ∃ numeral there,
      scanNumeral ⟨offset, (if negative then ['-'] else []) ++ (Nat.toDigits 10 n ++ rest)⟩
          = .ok (numeral, ⟨there, rest⟩)
        ∧ numeral.IsWhole negative n := by
  have signed : decide (((if negative then ['-'] else []) ++ (Nat.toDigits 10 n ++ rest)).head?
      = some '-') = negative := by
    cases negative with
    | true => rfl
    | false =>
        obtain ⟨c, more, digits, isDigit⟩ := exists_toDigits n rest
        refine decide_eq_false fun minus => ?_
        rw [if_neg Bool.false_ne_true, List.nil_append, digits] at minus
        cases minus
        cases isDigit
  obtain ⟨there, scanned⟩ := scanWhole_toDigits ends n offset (if negative then offset + 1 else offset)
  refine ⟨⟨negative, Nat.toDigits 10 n, none, none, there, there⟩, there, ?_, rfl, rfl, rfl, rfl⟩
  have whole : scanWhole offset (if negative
        then Cursor.next ⟨offset, (if negative then ['-'] else []) ++ (Nat.toDigits 10 n ++ rest)⟩
        else ⟨offset, (if negative then ['-'] else []) ++ (Nat.toDigits 10 n ++ rest)⟩)
      = .ok (Nat.toDigits 10 n, ⟨there, rest⟩) := by
    cases negative <;> exact scanned
  unfold scanNumeral
  dsimp only
  rw [signed, whole]
  change (scanFraction offset ⟨there, rest⟩ >>= _) = _
  rw [scanFraction_of_ends ends]
  change (scanExponent offset ⟨there, rest⟩ >>= _) = _
  rw [scanExponent_of_ends ends]
  rfl

theorem toList_numberText (n : Int) :
    (numberText (.integer n)).toList
      = (if n < 0 then ['-'] else []) ++ Nat.toDigits 10 n.natAbs := by
  cases n with
  | ofNat m =>
      have sign : ¬ Int.ofNat m < 0 := Int.not_lt.mpr (Int.natCast_nonneg m)
      rw [if_neg sign]
      exact Nat.toList_repr
  | negSucc m =>
      rw [if_pos (Int.negSucc_lt_zero m)]
      change ("-" ++ (m + 1).repr).toList = _
      rw [String.toList_append, Nat.toList_repr]
      rfl

theorem Numeral.IsWhole.value {numeral : Numeral} {n : Int}
    (h : numeral.IsWhole (decide (n < 0)) n.natAbs) (fits : Fits n) :
    numeral.value = .ok (.integer n) := by
  have digits : Nat.ofDigitChars 10 (Nat.toDigits 10 n.natAbs) 0 = n.natAbs :=
    Nat.ofDigitChars_toDigits (by decide) (by decide)
  have below : n.natAbs < Nat.pow 2 64 := by
    unfold Fits at fits
    change n.natAbs < 2 ^ 64
    omega
  have accumulated : accumulate 0 numeral.whole = (n.natAbs, []) := by
    rw [h.whole, accumulate_eq (digits.symm ▸ below), digits]
  unfold Numeral.value
  rw [accumulated, h.negative]
  dsimp only
  rw [if_pos ⟨h.fraction, h.exponent, rfl⟩]
  by_cases sign : n < 0
  · have within : ¬ (n.natAbs = 0 ∨ Nat.pow 2 63 < n.natAbs) := by
      unfold Fits at fits
      change ¬ (n.natAbs = 0 ∨ 2 ^ 63 < n.natAbs)
      omega
    rw [decide_eq_true sign, if_neg within]
    have value : -(n.natAbs : Int) = n := by omega
    rw [value]
    rfl
  · rw [decide_eq_false sign]
    have value : (n.natAbs : Int) = n := by omega
    rw [value]
    rfl

/-- **An integer that is written is scanned back,** and has its value if that fits. -/
theorem scanNumeral_text {rest : List Char} (ends : Ends rest) (n : Int) (offset : Nat) :
    ∃ numeral there,
      scanNumeral ⟨offset, (numberText (.integer n)).toList ++ rest⟩
          = .ok (numeral, ⟨there, rest⟩)
        ∧ (Fits n → numeral.value = .ok (.integer n)) := by
  obtain ⟨numeral, there, scanned, whole⟩ :=
    scanNumeral_digits ends (decide (n < 0)) n.natAbs offset
  refine ⟨numeral, there, ?_, whole.value⟩
  rw [toList_numberText, List.append_assoc]
  simpa using scanned

/-! ## Values -/

/-- Whether a value can begin with a character. -/
structure Begins (c : Char) : Prop where
  solid : Cursor.isBlank c = false
  not_bracket : c ≠ ']'
  not_brace : c ≠ '\x7d'

theorem Begins.of_isDigit {c : Char} (h : c.isDigit) : Begins c := by
  refine ⟨?_, ?_, ?_⟩
  · by_contra blank
    have delimits : Delimits c := .inr (.inr (.inr (Bool.eq_true_of_not_eq_false blank)))
    exact Bool.false_ne_true (delimits.not_isDigit.symm.trans h)
  · rintro rfl
    cases h
  · rintro rfl
    cases h

/-- The text of an integer begins with its sign or a digit. -/
theorem exists_numberText (n : Int) : ∃ c more,
    (numberText (.integer n)).toList = c :: more ∧ (c = '-' ∨ c.isDigit) := by
  rw [toList_numberText]
  by_cases sign : n < 0
  · rw [if_pos sign]
    exact ⟨'-', _, rfl, .inl rfl⟩
  · obtain ⟨c, more, digits, isDigit⟩ := exists_toDigits n.natAbs []
    rw [if_neg sign, List.nil_append, ← List.append_nil (Nat.toDigits 10 _), digits]
    exact ⟨c, more, rfl, .inr isDigit⟩

section

variable {kind : Int → Prop} (l : Layout)

theorem exists_write {j : Json} (tidy : j.Tidy kind) (depth : Nat) : ∃ c more,
    l.write depth j = c :: more ∧ Begins c := by
  cases j with
  | null => exact ⟨'n', _, rfl, by decide, by decide, by decide⟩
  | bool b => cases b <;> exact ⟨_, _, rfl, by decide, by decide, by decide⟩
  | number n =>
      cases n with
      | real x => exact tidy.elim
      | integer n =>
          obtain ⟨c, more, text, first⟩ := exists_numberText n
          refine ⟨c, more, text, ?_⟩
          rcases first with rfl | isDigit
          · exact ⟨by decide, by decide, by decide⟩
          · exact .of_isDigit isDigit
  | string s => exact ⟨'"', _, toList_quote s, by decide, by decide, by decide⟩
  | array items => exact ⟨'[', _, rfl, by decide, by decide, by decide⟩
  | object members => exact ⟨'\x7b', _, rfl, by decide, by decide, by decide⟩

theorem length_write_pos {j : Json} (tidy : j.Tidy kind) (depth : Nat) :
    0 < (l.write depth j).length := by
  obtain ⟨c, more, text, -⟩ := exists_write l tidy depth
  rw [text]
  exact Nat.succ_pos _

/-- What stands after an item ends it. -/
theorem ends_more (depth : Nat) {closing : Char} (closes : Delimits closing)
    (texts : List (List Char)) (rest : List Char) : Ends (l.more depth closing texts ++ rest) := by
  intro c first
  cases texts with
  | cons text others =>
      cases first
      exact .inl rfl
  | nil =>
      cases line : l.line depth with
      | nil =>
          rw [Layout.more, line] at first
          cases first
          exact closes
      | cons d others =>
          rw [Layout.more, line] at first
          cases first
          exact .inr (.inr (.inr (l.line_blank depth c (line ▸ List.mem_cons_self))))

end

/-! ### Scalars -/

theorem scanValue_of_skipBlanks {here there : Cursor} (same : here.skipBlanks = there.skipBlanks)
    (bound : Nat) : scanValue (bound + 1) here = scanValue (bound + 1) there := by
  rw [scanValue, scanValue, same]

theorem scanValue_scalar {c : Char} {rest : List Char} (solid : Cursor.isBlank c = false)
    (scalar : c ≠ '[' ∧ c ≠ '\x7b') (bound offset : Nat) :
    scanValue (bound + 1) ⟨offset, c :: rest⟩ = scanScalar ⟨offset, c :: rest⟩ := by
  rw [scanValue]
  dsimp only
  rw [skipBlanks_cons solid]
  dsimp only
  split
  · rename_i same
    cases same
    exact absurd rfl scalar.1
  · rename_i same
    cases same
    exact absurd rfl scalar.2
  · rfl

theorem ne_of_numeral {c d : Char} (first : c = '-' ∨ c.isDigit) (notMinus : d ≠ '-')
    (noDigit : d.isDigit = false) : c ≠ d := by
  rintro rfl
  rcases first with rfl | isDigit
  · exact notMinus rfl
  · exact Bool.false_ne_true (noDigit.symm.trans isDigit)

theorem scanScalar_number {c : Char} {more rest : List Char} {offset there : Nat}
    {numeral : Numeral} (first : c = '-' ∨ c.isDigit)
    (scanned : scanNumeral ⟨offset, c :: more⟩ = .ok (numeral, ⟨there, rest⟩)) :
    scanScalar ⟨offset, c :: more⟩ = (.number numeral.value offset there, .ok ⟨there, rest⟩) := by
  have numeric : (decide (c = '-') || c.isDigit) = true := by
    rcases first with rfl | isDigit
    · rfl
    · rw [isDigit, Bool.or_true]
  unfold scanScalar
  dsimp only
  rw [if_neg (ne_of_numeral first (by decide) rfl), if_neg (ne_of_numeral first (by decide) rfl),
    if_neg (ne_of_numeral first (by decide) rfl), if_neg (ne_of_numeral first (by decide) rfl),
    if_pos numeric, scanned]

theorem scanScalar_string {text : String} {inside rest : List Char} {offset there : Nat}
    (scanned : scanString 0 [] none (offset + 1) inside = .ok (.ok text, ⟨there, rest⟩)) :
    scanScalar ⟨offset, '"' :: inside⟩
      = (.string (.ok text) offset there, .ok ⟨there, rest⟩) := by
  unfold scanScalar
  dsimp only
  rw [if_neg (by decide), if_neg (by decide), if_neg (by decide), if_pos rfl, scanned]

/-! ### Arrays and objects -/

section

variable {bound offset there start : Nat} {c : Char} {text more rest : List Char}
  {here after last : Cursor} {ending : Ending} {node : Node}

theorem andThen_eq {α : Type} {found : α} {others : List α}
    {rest : Cursor → List α × Ending × Except Break Cursor}
    (scanned : rest after = (others, ending, .ok last)) :
    andThen found (.ok after) rest = (found :: others, ending, .ok last) := by
  unfold andThen
  dsimp only
  rw [scanned]

theorem scanValue_array {nodes : Items}
    (scanned : scanItems bound true ⟨offset + 1, text⟩ = (nodes, ending, .ok last)) : ∃ opened,
      scanValue (bound + 1) ⟨offset, '[' :: text⟩
        = (.array offset opened nodes ending, .ok last) := by
  have opening : Cursor.skipBlanks ⟨offset, '[' :: text⟩ = ⟨offset, '[' :: text⟩ :=
    skipBlanks_cons (by decide) text offset
  have inside : Cursor.next ⟨offset, '[' :: text⟩ = ⟨offset + 1, text⟩ := rfl
  refine ⟨(leaveArray ⟨offset + 1, text⟩).place, ?_⟩
  rw [scanValue]
  dsimp only
  rw [opening]
  dsimp only
  rw [inside, scanned]
  rfl

theorem scanItems_close (reached : here.skipBlanks = ⟨there, ']' :: rest⟩) (isFirst : Bool) :
    scanItems (bound + 1) isFirst here = ([], .closed (there + 1), .ok ⟨there + 1, rest⟩) := by
  rw [scanItems]
  dsimp only
  rw [reached]
  rfl

theorem scanItems_first {nodes : Items} (reached : here.skipBlanks = ⟨there, c :: text⟩)
    (item : c ≠ ']') (scanned : scanValue bound ⟨there, c :: text⟩ = (node, .ok after))
    (others : scanItems bound false after = (nodes, ending, .ok last)) :
    scanItems (bound + 1) true here = ((node, leaveArray after) :: nodes, ending, .ok last) := by
  rw [scanItems]
  dsimp only
  rw [reached]
  dsimp only
  rw [if_neg item, if_pos rfl, scanned]
  exact andThen_eq others

theorem scanItems_next {nodes : Items} (reached : here.skipBlanks = ⟨start, ',' :: more⟩)
    (next : Cursor.skipBlanks ⟨start + 1, more⟩ = ⟨there, c :: text⟩) (item : c ≠ ']')
    (scanned : scanValue bound ⟨there, c :: text⟩ = (node, .ok after))
    (others : scanItems bound false after = (nodes, ending, .ok last)) :
    scanItems (bound + 1) false here = ((node, leaveArray after) :: nodes, ending, .ok last) := by
  have comma : (',' : Char) ≠ ']' := by decide
  have afterComma : Cursor.skipBlanks (Cursor.next ⟨start, ',' :: more⟩) = ⟨there, c :: text⟩ :=
    next
  have goesOn : (c :: text).head? ≠ some ']' := fun same => item (Option.some.inj same)
  rw [scanItems]
  dsimp only
  rw [reached]
  dsimp only
  rw [if_neg comma, if_neg Bool.false_ne_true, if_pos rfl, afterComma, if_neg goesOn, scanned]
  exact andThen_eq others

theorem scanValue_object {nodes : Members}
    (scanned : scanMembers bound true ⟨offset + 1, text⟩ = (nodes, ending, .ok last)) : ∃ opened,
      scanValue (bound + 1) ⟨offset, '\x7b' :: text⟩
        = (.object offset opened nodes ending, .ok last) := by
  have opening : Cursor.skipBlanks ⟨offset, '\x7b' :: text⟩ = ⟨offset, '\x7b' :: text⟩ :=
    skipBlanks_cons (by decide) text offset
  have inside : Cursor.next ⟨offset, '\x7b' :: text⟩ = ⟨offset + 1, text⟩ := rfl
  refine ⟨(leaveObject ⟨offset + 1, text⟩).place, ?_⟩
  rw [scanValue]
  dsimp only
  rw [opening]
  dsimp only
  rw [inside, scanned]
  rfl

theorem scanMembers_close (reached : here.skipBlanks = ⟨there, '\x7d' :: rest⟩) (isFirst : Bool) :
    scanMembers (bound + 1) isFirst here = ([], .closed (there + 1), .ok ⟨there + 1, rest⟩) := by
  rw [scanMembers]
  dsimp only
  rw [reached]
  rfl

theorem scanColon_colon (offset : Nat) (text : List Char) :
    scanColon ⟨offset, ':' :: text⟩ = .ok ⟨offset + 1, text⟩ := rfl

theorem scanMembers_first {nodes : Members} {name : String} {inside : List Char}
    (reached : here.skipBlanks = ⟨there, '"' :: inside⟩)
    (named : scanString 0 [] none (there + 1) inside = .ok (.ok name, ⟨offset, ':' :: text⟩))
    (scanned : scanValue bound ⟨offset + 1, text⟩ = (node, .ok after))
    (others : scanMembers bound false after = (nodes, ending, .ok last)) :
    ∃ stop left, scanMembers (bound + 1) true here
      = ((⟨.ok name, stop, left⟩, node, leaveObject after) :: nodes, ending, .ok last) := by
  refine ⟨offset, (leaveObject ⟨offset, ':' :: text⟩).place, ?_⟩
  rw [scanMembers]
  dsimp only
  rw [reached]
  dsimp only
  rw [if_neg (by decide), if_pos rfl]
  simp only [named, scanColon_colon, scanned]
  exact andThen_eq others

theorem scanMembers_next {nodes : Members} {name : String} {inside : List Char}
    (reached : here.skipBlanks = ⟨start, ',' :: more⟩)
    (next : Cursor.skipBlanks ⟨start + 1, more⟩ = ⟨there, '"' :: inside⟩)
    (named : scanString 0 [] none (there + 1) inside = .ok (.ok name, ⟨offset, ':' :: text⟩))
    (scanned : scanValue bound ⟨offset + 1, text⟩ = (node, .ok after))
    (others : scanMembers bound false after = (nodes, ending, .ok last)) :
    ∃ stop left, scanMembers (bound + 1) false here
      = ((⟨.ok name, stop, left⟩, node, leaveObject after) :: nodes, ending, .ok last) := by
  have afterComma : Cursor.skipBlanks (Cursor.next ⟨start, ',' :: more⟩) = ⟨there, '"' :: inside⟩ :=
    next
  refine ⟨offset, (leaveObject ⟨offset, ':' :: text⟩).place, ?_⟩
  rw [scanMembers]
  dsimp only
  rw [reached]
  dsimp only
  rw [if_neg (by decide), if_neg Bool.false_ne_true, if_pos rfl, afterComma]
  simp only [named, scanColon_colon, scanned]
  exact andThen_eq others

end

/-! ### Whole values -/

section

variable {kind : Int → Prop} (l : Layout)

theorem scan_number {n : Int} {bound : Nat} {rest : List Char} (offset : Nat) (ends : Ends rest) :
    ∃ node there, scanValue (bound + 1) ⟨offset, (numberText (.integer n)).toList ++ rest⟩
        = (node, .ok ⟨there, rest⟩)
      ∧ node.Shows (.number (.integer n)) := by
  obtain ⟨c, more, text, first⟩ := exists_numberText n
  obtain ⟨numeral, there, scanned, value⟩ := scanNumeral_text ends n offset
  have solid : Cursor.isBlank c = false := by
    rcases first with rfl | isDigit
    · decide
    · exact (Begins.of_isDigit isDigit).solid
  have scalar : c ≠ '[' ∧ c ≠ '\x7b' :=
    ⟨ne_of_numeral first (by decide) rfl, ne_of_numeral first (by decide) rfl⟩
  rw [text, List.cons_append] at scanned ⊢
  refine ⟨.number numeral.value offset there, there, ?_, .number value⟩
  rw [scanValue_scalar solid scalar, scanScalar_number first scanned]

theorem scan_string {text : String} {bound : Nat} {rest : List Char} (offset : Nat) :
    ∃ node there, scanValue (bound + 1) ⟨offset, (quote text).toList ++ rest⟩
        = (node, .ok ⟨there, rest⟩)
      ∧ node.Shows (.string text) := by
  obtain ⟨there, scanned⟩ := scanString_quotedIn text rest (offset + 1)
  refine ⟨.string (.ok text) offset there, there, ?_, .string⟩
  rw [toList_quote_append, scanValue_scalar (by decide) (by decide), scanScalar_string scanned]

/-- Whether a value is scanned back that is written at a depth in front of a rest. -/
def ScannedBack (j : Json) (depth bound : Nat) (rest : List Char) : Prop :=
  ∀ offset, ∃ node there,
    scanValue bound ⟨offset, l.write depth j ++ rest⟩ = (node, .ok ⟨there, rest⟩) ∧ node.Shows j

variable {l}

/-- An item on its line. -/
theorem ScannedBack.item {j : Json} {depth bound : Nat} {rest : List Char}
    (h : ScannedBack l j depth bound rest) (tidy : j.Tidy kind) (offset : Nat) :
    ∃ start c text node there,
      Cursor.skipBlanks ⟨offset, l.line depth ++ l.write depth j ++ rest⟩ = ⟨start, c :: text⟩
        ∧ c ≠ ']' ∧ scanValue bound ⟨start, c :: text⟩ = (node, .ok ⟨there, rest⟩)
        ∧ node.Shows j := by
  obtain ⟨c, text, written, begins⟩ := exists_write l tidy depth
  obtain ⟨start, reached⟩ :=
    exists_skipBlanks (l.line_blank depth) begins.solid (text ++ rest) offset
  obtain ⟨node, there, scanned, shows⟩ := h start
  rw [written, List.cons_append] at scanned
  refine ⟨start, c, text ++ rest, node, there, ?_, begins.not_bracket, scanned, shows⟩
  rw [List.append_assoc, written, List.cons_append, reached]

/-- A member on its line. -/
theorem ScannedBack.member {key : String} {value : Json} {depth bound : Nat} {rest : List Char}
    (h : ScannedBack l value depth bound rest) (offset : Nat) :
    ∃ start inside stop text node there,
      Cursor.skipBlanks ⟨offset, l.line depth
          ++ ((quote key).toList ++ ':' :: (l.gap ++ l.write depth value)) ++ rest⟩
          = ⟨start, '"' :: inside⟩
        ∧ scanString 0 [] none (start + 1) inside = .ok (.ok key, ⟨stop, ':' :: text⟩)
        ∧ scanValue bound ⟨stop + 1, text⟩ = (node, .ok ⟨there, rest⟩) ∧ node.Shows value := by
  cases bound with
  | zero =>
      obtain ⟨node, there, scanned, -⟩ := h offset
      cases scanned
  | succ bound =>
      let text := l.gap ++ (l.write depth value ++ rest)
      have member : l.line depth ++ ((quote key).toList ++ ':' :: (l.gap ++ l.write depth value)) ++ rest
          = l.line depth ++ '"' :: quotedIn key (':' :: text) := by
        rw [← toList_quote_append, List.append_assoc, List.append_assoc, List.cons_append,
          List.append_assoc]
      obtain ⟨start, reached⟩ :=
        exists_skipBlanks (l.line_blank depth) (c := '"') (by decide) (quotedIn key (':' :: text)) offset
      obtain ⟨stop, named⟩ := scanString_quotedIn key (':' :: text) (start + 1)
      obtain ⟨there, gap⟩ := skipBlanks_append l.gap_blank (l.write depth value ++ rest) (stop + 1)
      obtain ⟨node, after, scanned, shows⟩ := h there
      rw [← scanValue_of_skipBlanks gap] at scanned
      rw [member]
      exact ⟨start, quotedIn key (':' :: text), stop, text, node, after, reached, named, scanned,
        shows⟩

variable (l)

mutual

/-- **A value that is written is scanned back.** -/
theorem scan_write : ∀ {j : Json}, j.Tidy kind → ∀ {bound depth : Nat} {rest : List Char},
    Ends rest → 2 * (l.write depth j).length ≤ bound → ScannedBack l j depth bound rest
  | .null, _, bound + 1, _, _, _, _, offset =>
      ⟨.null offset (offset + 4), offset + 4, scanValue_scalar (by decide) (by decide) bound offset,
        .null⟩
  | .bool true, _, bound + 1, _, _, _, _, offset =>
      ⟨.bool true offset (offset + 4), offset + 4,
        scanValue_scalar (by decide) (by decide) bound offset, .bool⟩
  | .bool false, _, bound + 1, _, _, _, _, offset =>
      ⟨.bool false offset (offset + 5), offset + 5,
        scanValue_scalar (by decide) (by decide) bound offset, .bool⟩
  | .number (.integer n), _, bound + 1, _, _, ends, _, offset => scan_number offset ends
  | .string text, _, bound + 1, _, _, _, _, offset => scan_string offset
  | .array items, tidy, bound + 1, depth, rest, _, enough, offset => by
      rw [Layout.write, List.length_cons] at enough
      have inside : 2 * (l.enclosed depth ']' (l.writeItems (depth + 1) items)).length < bound := by
        omega
      obtain ⟨nodes, stop, there, scanned, shown⟩ :=
        scan_enclosed_items tidy inside (offset + 1) rest
      obtain ⟨opened, whole⟩ := scanValue_array scanned
      exact ⟨_, there, whole, .array shown⟩
  | .object members, tidy, bound + 1, depth, rest, _, enough, offset => by
      rw [Layout.write, List.length_cons] at enough
      have inside : 2 * (l.enclosed depth '\x7d' (l.writeMembers (depth + 1) members)).length
          < bound := by
        omega
      obtain ⟨nodes, stop, there, scanned, shown⟩ :=
        scan_enclosed_members tidy.2 inside (offset + 1) rest
      obtain ⟨opened, whole⟩ := scanValue_object scanned
      exact ⟨_, there, whole, .object shown (.refl _)⟩
  | j, tidy, 0, depth, _, _, enough, _ => by
      have positive := length_write_pos l tidy depth
      omega

/-- The items of an array after its opening bracket. -/
theorem scan_enclosed_items : ∀ {items : List Json}, TidyItems kind items →
    ∀ {bound depth : Nat},
      2 * (l.enclosed depth ']' (l.writeItems (depth + 1) items)).length < bound →
        ∀ offset rest, ∃ nodes stop there,
          scanItems bound true
              ⟨offset, l.enclosed depth ']' (l.writeItems (depth + 1) items) ++ rest⟩
            = (nodes, .closed stop, .ok ⟨there, rest⟩)
          ∧ ItemsShow nodes items
  | [], _, bound + 1, _, _, offset, rest =>
      ⟨_, _, _, scanItems_close (skipBlanks_cons (by decide) rest offset) true, .nil⟩
  | item :: others, tidy, bound + 1, depth, enough, offset, rest => by
      rw [Layout.writeItems, Layout.enclosed] at enough ⊢
      rw [List.length_append, List.length_append] at enough
      have positive := length_write_pos l tidy.1 (depth + 1)
      have own : 2 * (l.write (depth + 1) item).length ≤ bound := by omega
      have left : 2 * (l.more depth ']' (l.writeItems (depth + 1) others)).length < bound := by
        omega
      have ends := ends_more l depth (.inr (.inl rfl)) (l.writeItems (depth + 1) others) rest
      obtain ⟨start, c, text, node, after, reached, isItem, scanned, shows⟩ :=
        (scan_write tidy.1 ends own).item tidy.1 offset
      obtain ⟨nodes, stop, there, scannedOthers, shown⟩ := scan_more_items tidy.2 left after rest
      rw [← List.append_assoc] at reached
      exact ⟨_, stop, there, scanItems_first reached isItem scanned scannedOthers,
        .cons shows shown⟩

/-- The items of an array after an item. -/
theorem scan_more_items : ∀ {items : List Json}, TidyItems kind items →
    ∀ {bound depth : Nat},
      2 * (l.more depth ']' (l.writeItems (depth + 1) items)).length < bound →
        ∀ offset rest, ∃ nodes stop there,
          scanItems bound false
              ⟨offset, l.more depth ']' (l.writeItems (depth + 1) items) ++ rest⟩
            = (nodes, .closed stop, .ok ⟨there, rest⟩)
          ∧ ItemsShow nodes items
  | [], _, bound + 1, depth, _, offset, rest => by
      rw [Layout.writeItems, Layout.more, List.append_assoc]
      obtain ⟨there, reached⟩ :=
        exists_skipBlanks (l.line_blank depth) (c := ']') (by decide) rest offset
      exact ⟨_, _, _, scanItems_close reached false, .nil⟩
  | item :: others, tidy, bound + 1, depth, enough, offset, rest => by
      rw [Layout.writeItems, Layout.more] at enough ⊢
      rw [List.length_cons, List.length_append, List.length_append] at enough
      have own : 2 * (l.write (depth + 1) item).length ≤ bound := by omega
      have left : 2 * (l.more depth ']' (l.writeItems (depth + 1) others)).length < bound := by
        omega
      have ends := ends_more l depth (.inr (.inl rfl)) (l.writeItems (depth + 1) others) rest
      obtain ⟨start, c, text, node, after, next, isItem, scanned, shows⟩ :=
        (scan_write tidy.1 ends own).item tidy.1 (offset + 1)
      obtain ⟨nodes, stop, there, scannedOthers, shown⟩ := scan_more_items tidy.2 left after rest
      rw [← List.append_assoc] at next
      exact ⟨_, stop, there, scanItems_next (skipBlanks_cons (by decide) _ offset) next isItem scanned
        scannedOthers, .cons shows shown⟩

/-- The members of an object after its opening brace. -/
theorem scan_enclosed_members : ∀ {members : List (String × Json)}, TidyMembers kind members →
    ∀ {bound depth : Nat},
      2 * (l.enclosed depth '\x7d' (l.writeMembers (depth + 1) members)).length < bound →
        ∀ offset rest, ∃ nodes stop there,
          scanMembers bound true
              ⟨offset, l.enclosed depth '\x7d' (l.writeMembers (depth + 1) members) ++ rest⟩
            = (nodes, .closed stop, .ok ⟨there, rest⟩)
          ∧ MembersShow nodes members
  | [], _, bound + 1, _, _, offset, rest =>
      ⟨_, _, _, scanMembers_close (skipBlanks_cons (by decide) rest offset) true, .nil⟩
  | (key, value) :: others, tidy, bound + 1, depth, enough, offset, rest => by
      rw [Layout.writeMembers, Layout.enclosed] at enough ⊢
      simp only [List.length_append, List.length_cons] at enough
      have positive := length_write_pos l tidy.1 (depth + 1)
      have own : 2 * (l.write (depth + 1) value).length ≤ bound := by omega
      have left : 2 * (l.more depth '\x7d' (l.writeMembers (depth + 1) others)).length < bound := by
        omega
      have ends := ends_more l depth (.inr (.inr (.inl rfl))) (l.writeMembers (depth + 1) others) rest
      obtain ⟨start, inside, stop, text, node, after, reached, named, scanned, shows⟩ :=
        (scan_write tidy.1 ends own).member offset
      obtain ⟨nodes, stop, there, scannedOthers, shown⟩ := scan_more_members tidy.2 left after rest
      rw [← List.append_assoc] at reached
      obtain ⟨stop, left, whole⟩ := scanMembers_first reached named scanned scannedOthers
      exact ⟨_, _, there, whole, .cons rfl shows shown⟩

/-- The members of an object after a member. -/
theorem scan_more_members : ∀ {members : List (String × Json)}, TidyMembers kind members →
    ∀ {bound depth : Nat},
      2 * (l.more depth '\x7d' (l.writeMembers (depth + 1) members)).length < bound →
        ∀ offset rest, ∃ nodes stop there,
          scanMembers bound false
              ⟨offset, l.more depth '\x7d' (l.writeMembers (depth + 1) members) ++ rest⟩
            = (nodes, .closed stop, .ok ⟨there, rest⟩)
          ∧ MembersShow nodes members
  | [], _, bound + 1, depth, _, offset, rest => by
      rw [Layout.writeMembers, Layout.more, List.append_assoc]
      obtain ⟨there, reached⟩ :=
        exists_skipBlanks (l.line_blank depth) (c := '\x7d') (by decide) rest offset
      exact ⟨_, _, _, scanMembers_close reached false, .nil⟩
  | (key, value) :: others, tidy, bound + 1, depth, enough, offset, rest => by
      rw [Layout.writeMembers, Layout.more] at enough ⊢
      simp only [List.length_append, List.length_cons] at enough
      have own : 2 * (l.write (depth + 1) value).length ≤ bound := by omega
      have left : 2 * (l.more depth '\x7d' (l.writeMembers (depth + 1) others)).length < bound := by
        omega
      have ends := ends_more l depth (.inr (.inr (.inl rfl))) (l.writeMembers (depth + 1) others) rest
      obtain ⟨start, inside, stop, text, node, after, next, named, scanned, shows⟩ :=
        (scan_write tidy.1 ends own).member (offset + 1)
      obtain ⟨nodes, stop, there, scannedOthers, shown⟩ := scan_more_members tidy.2 left after rest
      rw [← List.append_assoc] at next
      obtain ⟨stop, left, whole⟩ := scanMembers_next (skipBlanks_cons (by decide) _ offset) next named
        scanned scannedOthers
      exact ⟨_, _, there, whole, .cons rfl shows shown⟩

end

end

theorem ends_of_blank {blanks : List Char} (blank : ∀ c ∈ blanks, Cursor.isBlank c) :
    Ends blanks := by
  intro c first
  cases blanks with
  | nil => cases first
  | cons d rest =>
      cases first
      exact .inr (.inr (.inr (blank c List.mem_cons_self)))

theorem trailingFault?_of_blank {blanks : List Char} (blank : ∀ c ∈ blanks, Cursor.isBlank c)
    (offset : Nat) : trailingFault? ⟨offset, blanks⟩ = none := by
  obtain ⟨there, same⟩ := skipBlanks_append blank [] offset
  rw [List.append_nil] at same
  unfold trailingFault?
  rw [same]
  rfl

/-- **The outline of a text in which a value is written shows the value,** and nothing follows. -/
theorem outline_write {kind : Int → Prop} (l : Layout) {j : Json} (tidy : j.Tidy kind)
    {depth : Nat} {blanks : List Char} (blank : ∀ c ∈ blanks, Cursor.isBlank c) {text : String}
    (written : text.toList = l.write depth j ++ blanks) : ∃ node,
      outline text = ⟨node, none⟩ ∧ node.Shows j := by
  have enough : 2 * (l.write depth j).length ≤ 2 * text.toList.length + 2 := by
    rw [written, List.length_append]
    omega
  obtain ⟨node, there, scanned, shows⟩ := scan_write l tidy (ends_of_blank blank) enough 0
  rw [← written] at scanned
  refine ⟨node, ?_, shows⟩
  unfold outline Cursor.start
  dsimp only
  rw [scanned]
  dsimp only
  rw [trailingFault?_of_blank blank]

end ArgumentGuards.Json
