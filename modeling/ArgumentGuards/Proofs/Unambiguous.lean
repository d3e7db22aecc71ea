import ArgumentGuards.Proofs.Layouts
import ArgumentGuards.Proofs.Words
import Mathlib

/-!
# The text of expressions is unambiguous

Operators have no precedence in the text of an expression: an operand in which an operator stands is
in parentheses, always. So the text is read from the front with nothing to decide later. An
expression is an operand, or two with an operator between; an operand is something that says what it
is by its first word, and then any number of suffixes.

Reading is a function here (`Reader.readExpr`), so a text has one reading at most. The theorem is
that the text of an expression has the right one, whatever follows it. For operands that is said of
the suffixes still to come: reading an operand's text and more is reading the suffixes of the
operand (`ReadsOperand`), because an operand with a suffix begins with the operand without it.

What a text does not show is not read back, of course. `Expr.shown` forgets it: where a name stands
for a parameter and where for a variable, and all of a method but the name that is written.
-/

namespace ArgumentGuards

/-! ## What a text shows -/

/-- A method of which only the name is known. -/
def Method.named (name : String) : Method := ⟨name, "", [], .void, .ordinary⟩

/-- A constructor of which only the type is known that holds it. -/
def Method.constructing (container : String) : Method := ⟨"", container, [], .void, .constructor⟩

namespace Expr

mutual

/-- The expression with all that its text does not show forgotten. -/
def shown : Expr → Expr
  | .literal value => .literal value
  | .parameter name _ => .localVar name
  | .localVar name => .localVar name
  | .unary op operand => .unary op operand.shown
  | .binary op left right => .binary op left.shown right.shown
  | .hasValue operand => .hasValue operand.shown
  | .call method args => .call (.named method.name) (shownAll args)
  | .construct constructor args => .construct (.constructing constructor.container) (shownAll args)
  | .length operand => .length operand.shown
  | .charAt operand index => .charAt operand.shown index.shown

/-- Expressions, each with what its text does not show forgotten. -/
def shownAll : List Expr → List Expr
  | [] => []
  | e :: rest => e.shown :: shownAll rest

end

/-- Whether a text is a list of names with points between them. -/
def IsPath (container : String) : Prop :=
  ∃ parts : List String, parts ≠ [] ∧ container = String.intercalate "." parts
    ∧ ∀ part ∈ parts, Reader.isIdentifier part = true

mutual

/-- Whether all names in an expression are identifiers. -/
def Named : Expr → Prop
  | .literal _ => True
  | .parameter name _ => Reader.isIdentifier name = true
  | .localVar name => Reader.isIdentifier name = true
  | .unary _ operand => operand.Named
  | .binary _ left right => left.Named ∧ right.Named
  | .hasValue operand => operand.Named
  | .call method args => Reader.isIdentifier method.name = true ∧ AllNamed args
  | .construct constructor args => IsPath constructor.container ∧ AllNamed args
  | .length operand => operand.Named
  | .charAt operand index => operand.Named ∧ index.Named

/-- Whether all names in some expressions are identifiers. -/
def AllNamed : List Expr → Prop
  | [] => True
  | e :: rest => e.Named ∧ AllNamed rest

end

theorem isCompound_shown (e : Expr) : e.shown.isCompound = e.isCompound := by
  cases e <;> rfl

theorem parenthesize_shown (e : Expr) (text : String) :
    parenthesize e.shown text = parenthesize e text := by
  unfold parenthesize
  rw [isCompound_shown]

mutual

/-- What is forgotten does not change the text. -/
theorem render_shown : ∀ e : Expr, e.shown.render = e.render
  | .literal _ => rfl
  | .parameter _ _ => rfl
  | .localVar _ => rfl
  | .unary .not operand => by
      rw [shown, render, render, parenthesize_shown, render_shown operand]
  | .binary op left right => by
      rw [shown, render, render, parenthesize_shown, parenthesize_shown, render_shown left,
        render_shown right]
  | .hasValue operand => by rw [shown, render, render, render_shown operand]
  | .call method args => by
      rw [shown, render, render, renderAll_shownAll args]
      rfl
  | .construct constructor args => by
      rw [shown, render, render, renderAll_shownAll args]
      rfl
  | .length operand => by rw [shown, render, render, parenthesize_shown, render_shown operand]
  | .charAt operand index => by
      rw [shown, render, render, parenthesize_shown, render_shown operand, render_shown index]

theorem renderAll_shownAll : ∀ es : List Expr, renderAll (shownAll es) = renderAll es
  | [] => rfl
  | e :: rest => by rw [shownAll, renderAll, renderAll, render_shown e, renderAll_shownAll rest]

end

end Expr

/-! ## What texts are made of -/

/-- An operator as it stands between its operands. -/
def BinaryOp.sign (op : BinaryOp) : List Char := ' ' :: (op.symbol.toList ++ [' '])

namespace Expr

/-- The characters of an expression's text. -/
def spelling (e : Expr) : List Char := e.render.toList

/-- The characters of an operand's text. -/
def operandSpelling (e : Expr) : List Char := (parenthesize e e.render).toList

/-- The characters of arguments after the first one. -/
def moreSpelling : List Expr → List Char
  | [] => []
  | e :: rest => ',' :: ' ' :: (e.spelling ++ moreSpelling rest)

/-- The characters of arguments. -/
def argsSpelling : List Expr → List Char
  | [] => []
  | e :: rest => e.spelling ++ moreSpelling rest

theorem operandSpelling_of_compound {e : Expr} (h : e.isCompound = true) :
    e.operandSpelling = '(' :: (e.spelling ++ [')']) := by
  rw [operandSpelling, parenthesize, if_pos h, String.toList_append, String.toList_append]
  rfl

theorem operandSpelling_of_not_compound {e : Expr} (h : e.isCompound = false) :
    e.operandSpelling = e.spelling := by
  rw [operandSpelling, parenthesize, if_neg (Bool.eq_false_iff.mp h), spelling]

theorem spelling_not (operand : Expr) :
    (Expr.unary .not operand).spelling = '!' :: operand.operandSpelling := by
  rw [spelling, render, String.toList_append]
  rfl

theorem spelling_binary (op : BinaryOp) (left right : Expr) :
    (Expr.binary op left right).spelling
      = left.operandSpelling ++ (op.sign ++ right.operandSpelling) := by
  rw [spelling, render]
  simp only [String.toList_append, List.append_assoc, BinaryOp.sign, List.cons_append]
  rfl

theorem spelling_hasValue (operand : Expr) :
    (Expr.hasValue operand).spelling = "hasValue".toList ++ '(' :: (operand.spelling ++ [')']) := by
  rw [spelling, render, String.toList_append, String.toList_append]
  rfl

theorem flatMap_renderAll (es : List Expr) :
    ((renderAll es).map String.toList).flatMap (", ".toList ++ ·) = moreSpelling es := by
  induction es with
  | nil => rfl
  | cons e rest ih =>
      rw [renderAll, List.map_cons, List.flatMap_cons, ih, List.append_assoc]
      rfl

theorem toList_intercalate_renderAll (es : List Expr) :
    (String.intercalate ", " (renderAll es)).toList = argsSpelling es := by
  cases es with
  | nil => rfl
  | cons e rest => rw [renderAll, Json.toList_intercalate_cons, flatMap_renderAll]; rfl

theorem spelling_call (method : Method) (args : List Expr) :
    (Expr.call method args).spelling
      = method.name.toList ++ '(' :: (argsSpelling args ++ [')']) := by
  rw [spelling, render, String.toList_append, String.toList_append, String.toList_append,
    toList_intercalate_renderAll, List.append_assoc, List.append_assoc]
  rfl

theorem spelling_construct (constructor : Method) (args : List Expr) :
    (Expr.construct constructor args).spelling
      = "new".toList ++ ' ' :: (constructor.container.toList
          ++ '(' :: (argsSpelling args ++ [')'])) := by
  rw [spelling, render]
  simp only [String.toList_append, toList_intercalate_renderAll, List.append_assoc]
  rfl

theorem spelling_length (operand : Expr) :
    (Expr.length operand).spelling = operand.operandSpelling ++ ".Length".toList := by
  rw [spelling, render, String.toList_append]
  rfl

theorem spelling_charAt (operand index : Expr) :
    (Expr.charAt operand index).spelling
      = operand.operandSpelling ++ '[' :: (index.spelling ++ [']']) := by
  rw [spelling, render]
  simp only [String.toList_append, List.append_assoc]
  rfl

end Expr

namespace Reader

/-! ## Reading expressions -/

/-- Takes a character that has to come next. -/
def take (c : Char) : List Char → Option (List Char)
  | [] => none
  | d :: rest => if d = c then some rest else none

theorem take_self (c : Char) (rest : List Char) : take c (c :: rest) = some rest := if_pos rfl

/-- Takes a character that has to come after what is read. -/
def closedBy {α : Type} (c : Char) (read : Option (α × List Char)) : Option (α × List Char) := do
  let (a, rest) ← read
  let rest ← take c rest
  return (a, rest)

/-- Reads an operator between blanks. -/
def readSign : List Char → Option (BinaryOp × List Char)
  | ' ' :: '=' :: '=' :: ' ' :: rest => some (.equal, rest)
  | ' ' :: '!' :: '=' :: ' ' :: rest => some (.notEqual, rest)
  | ' ' :: '<' :: ' ' :: rest => some (.lessThan, rest)
  | ' ' :: '+' :: ' ' :: rest => some (.add, rest)
  | ' ' :: '*' :: ' ' :: rest => some (.multiply, rest)
  | ' ' :: '^' :: ' ' :: rest => some (.xor, rest)
  | _ => none

/-- Whether a character can stand in a path. -/
def isPathChar (c : Char) : Bool := isNameChar c || c = '.'

mutual

/-- Reads an expression: an operand, or two with an operator between them. -/
def readExpr : Nat → List Char → Option (Expr × List Char)
  | 0, _ => none
  | fuel + 1, text => do
    let (left, rest) ← readOperand fuel text
    match readSign rest with
    | none => return (left, rest)
    | some (op, rest) =>
      let (right, rest) ← readOperand fuel rest
      return (.binary op left right, rest)

/-- Reads an operand: what stands first, and its suffixes. -/
def readOperand : Nat → List Char → Option (Expr × List Char)
  | 0, _ => none
  | fuel + 1, text => do
    let (first, rest) ← readFirst fuel text
    readSuffixes fuel first rest

/-- Reads what is told by its first word, without suffixes. -/
def readFirst : Nat → List Char → Option (Expr × List Char)
  | 0, _ => none
  | fuel + 1, text =>
    match readLiteral text with
    | some (literal, rest) => some (.literal literal, rest)
    | none =>
      match text with
      | '!' :: rest =>
        (readOperand fuel rest).map fun (operand, rest) => (.unary .not operand, rest)
      | '(' :: rest => closedBy ')' (readExpr fuel rest)
      | _ => readNamed fuel (readWhile isNameChar text).1 (readWhile isNameChar text).2

/-- Reads what follows a name: arguments if it is called. -/
def readNamed : Nat → String → List Char → Option (Expr × List Char)
  | 0, _, _ => none
  | fuel + 1, name, rest =>
    if name = "" then none
    else if name = "new" then do
      let (container, rest) := readWhile isPathChar (← take ' ' rest)
      let (args, rest) ← readArgs fuel (← take '(' rest)
      return (.construct (.constructing container) args, rest)
    else if name = "hasValue" then do
      let (operand, rest) ← closedBy ')' (readExpr fuel (← take '(' rest))
      return (.hasValue operand, rest)
    else
      match rest with
      | '(' :: rest =>
        (readArgs fuel rest).map fun (args, rest) => (.call (.named name) args, rest)
      | rest => some (.localVar name, rest)

/-- Reads the suffixes of an operand. -/
def readSuffixes : Nat → Expr → List Char → Option (Expr × List Char)
  | 0, _, _ => none
  | fuel + 1, e, text =>
    match text with
    | '.' :: 'L' :: 'e' :: 'n' :: 'g' :: 't' :: 'h' :: rest => readSuffixes fuel (.length e) rest
    | '[' :: rest => do
      let (index, rest) ← closedBy ']' (readExpr fuel rest)
      readSuffixes fuel (.charAt e index) rest
    | rest => some (e, rest)

/-- Reads arguments up to the closing parenthesis and takes it. -/
def readArgs : Nat → List Char → Option (List Expr × List Char)
  | 0, _ => none
  | fuel + 1, text =>
    match text with
    | ')' :: rest => some ([], rest)
    | text => do
      let (e, rest) ← readExpr fuel text
      let (more, rest) ← readMore fuel rest
      return (e :: more, rest)

/-- Reads further arguments, each after a comma. -/
def readMore : Nat → List Char → Option (List Expr × List Char)
  | 0, _ => none
  | fuel + 1, text =>
    match text with
    | ')' :: rest => some ([], rest)
    | ',' :: ' ' :: rest => do
      let (e, rest) ← readExpr fuel rest
      let (more, rest) ← readMore fuel rest
      return (e :: more, rest)
    | _ => none

end

/-! ### Where reading stops -/

/-- Whether a text is at its end or goes on after an expression. -/
def Ends (rest : List Char) : Prop := ∀ c, rest.head? = some c → c ∈ [')', ']', ',']

theorem ends_nil : Ends [] := fun _ same => nomatch same

theorem ends_cons {c : Char} (h : c ∈ [')', ']', ',']) (rest : List Char) : Ends (c :: rest) :=
  fun _ same => Option.some.inj same ▸ h

theorem Ends.cases {rest : List Char} (h : Ends rest) :
    rest = [] ∨ ∃ c more, rest = c :: more ∧ (c = ')' ∨ c = ']' ∨ c = ',') := by
  cases rest with
  | nil => exact .inl rfl
  | cons c more =>
      refine .inr ⟨c, more, rfl, ?_⟩
      simpa only [List.mem_cons, List.not_mem_nil, or_false] using h c rfl

theorem Ends.bounded {rest : List Char} (h : Ends rest) : Bounded rest := by
  rcases h.cases with rfl | ⟨c, more, rfl, rfl | rfl | rfl⟩
  · exact bounded_nil
  all_goals exact bounded_cons (by decide) more

theorem Ends.readSign {rest : List Char} (h : Ends rest) : readSign rest = none := by
  rcases h.cases with rfl | ⟨c, more, rfl, rfl | rfl | rfl⟩ <;> rfl

theorem Ends.readSuffixes {rest : List Char} (h : Ends rest) {fuel : Nat} (enough : 0 < fuel)
    (e : Expr) : readSuffixes fuel e rest = some (e, rest) := by
  obtain ⟨fuel, rfl⟩ := Nat.exists_eq_add_of_lt enough
  rcases h.cases with rfl | ⟨c, more, rfl, rfl | rfl | rfl⟩ <;> rw [Nat.zero_add] <;> rfl

/-- No expression begins with a closing parenthesis. -/
theorem readExpr_close (fuel : Nat) (rest : List Char) : readExpr fuel (')' :: rest) = none := by
  rcases fuel with _ | _ | _ | _ | fuel <;> rfl

theorem readSign_sign (op : BinaryOp) (rest : List Char) :
    readSign (op.sign ++ rest) = some (op, rest) := by
  cases op <;> rfl

theorem bounded_sign (op : BinaryOp) (rest : List Char) : Bounded (op.sign ++ rest) :=
  bounded_cons (by decide) _

theorem three_le_length_sign (op : BinaryOp) : 3 ≤ op.sign.length := by
  cases op <;> decide

theorem readSuffixes_sign {fuel : Nat} (enough : 0 < fuel) (e : Expr) (op : BinaryOp)
    (rest : List Char) : readSuffixes fuel e (op.sign ++ rest) = some (e, op.sign ++ rest) := by
  obtain ⟨fuel, rfl⟩ := Nat.exists_eq_add_of_lt enough
  cases op <;> rw [Nat.zero_add] <;> rfl

/-! ### Texts are read back -/

-- An expression, its operand and what this begins with are tried before a character is taken, which
-- is why the bounds below count three steps for each character.

/-- Whether the text of an expression is read back where an expression is expected. -/
def ReadsExpr (e : Expr) : Prop :=
  ∀ (fuel : Nat) (rest : List Char), 3 * e.spelling.length + 3 ≤ fuel → Ends rest →
    readExpr fuel (e.spelling ++ rest) = some (e.shown, rest)

/-- Whether an operand's text and more is read as the suffixes of the operand. -/
def ReadsOperand (e : Expr) : Prop :=
  ∀ (fuel : Nat) (rest : List Char), 3 * e.operandSpelling.length + 2 ≤ fuel → Bounded rest →
    ∃ left, fuel ≤ left + 3 * e.operandSpelling.length + 1
      ∧ readOperand fuel (e.operandSpelling ++ rest) = readSuffixes left e.shown rest

/-- Whether the text of arguments and the parenthesis after them is read back. -/
def ReadsArgs (args : List Expr) : Prop :=
  ∀ (fuel : Nat) (rest : List Char), 3 * (Expr.argsSpelling args).length + 4 ≤ fuel →
    readArgs fuel (Expr.argsSpelling args ++ ')' :: rest) = some (Expr.shownAll args, rest)

/-- Whether the text of arguments after the first one is read back. -/
def ReadsMore (args : List Expr) : Prop :=
  ∀ (fuel : Nat) (rest : List Char), 3 * (Expr.moreSpelling args).length + 1 ≤ fuel →
    readMore fuel (Expr.moreSpelling args ++ ')' :: rest) = some (Expr.shownAll args, rest)

/-- An operand is read as it is told by its first word. -/
theorem ReadsOperand.of_first {e : Expr}
    (first : ∀ (fuel : Nat) (rest : List Char), 3 * e.operandSpelling.length + 1 ≤ fuel →
      Bounded rest → readFirst fuel (e.operandSpelling ++ rest) = some (e.shown, rest)) :
    ReadsOperand e := by
  intro fuel rest enough bounded
  obtain ⟨fuel, rfl⟩ := Nat.exists_eq_add_of_le' (Nat.one_le_of_lt enough)
  refine ⟨fuel, by omega, ?_⟩
  rw [readOperand, first fuel rest (by omega) bounded]
  rfl

/-- An operand is an expression, if nothing goes on with it. -/
theorem readExpr_operand {fuel : Nat} {text rest : List Char} {e : Expr}
    (read : readOperand fuel text = some (e, rest)) (ends : Ends rest) :
    readExpr (fuel + 1) text = some (e, rest) := by
  rw [readExpr, read]
  change (match readSign rest with
    | none => some (e, rest)
    | some (op, rest) => _) = _
  rw [ends.readSign]

theorem enclosed_append (before : List Char) (opening : Char) (inside : List Char) (closing : Char)
    (rest : List Char) :
    before ++ opening :: (inside ++ [closing]) ++ rest
      = before ++ opening :: (inside ++ closing :: rest) := by
  rw [List.append_assoc, List.cons_append, List.append_assoc, List.singleton_append]

/-- What stands last is read without suffixes. -/
theorem ReadsOperand.last {e : Expr} (reads : ReadsOperand e) {fuel : Nat} {rest : List Char}
    (enough : 3 * e.operandSpelling.length + 2 ≤ fuel) (ends : Ends rest) :
    readOperand fuel (e.operandSpelling ++ rest) = some (e.shown, rest) := by
  obtain ⟨left, steps, read⟩ := reads fuel rest enough ends.bounded
  have someLeft : 0 < left := by omega
  rw [read, ends.readSuffixes someLeft]

/-- What stands between brackets is read, and the closing one is taken. -/
theorem ReadsExpr.closed {e : Expr} (reads : ReadsExpr e) {fuel : Nat}
    (enough : 3 * e.spelling.length + 3 ≤ fuel) {c : Char} (closing : c ∈ [')', ']', ','])
    (rest : List Char) :
    closedBy c (readExpr fuel (e.spelling ++ c :: rest)) = some (e.shown, rest) := by
  rw [reads fuel (c :: rest) enough (ends_cons closing rest)]
  change (take c (c :: rest)).bind _ = _
  rw [take_self]
  rfl

/-- Where no operator stands in it, an operand has the text of an expression. -/
theorem ReadsOperand.expr {e : Expr} (reads : ReadsOperand e) (simple : e.isCompound = false) :
    ReadsExpr e := by
  intro fuel rest enough ends
  obtain ⟨fuel, rfl⟩ := Nat.exists_eq_add_of_le' (Nat.one_le_of_lt enough)
  rw [← Expr.operandSpelling_of_not_compound simple] at enough ⊢
  exact readExpr_operand (reads.last (by omega) ends) ends

/-- Where an operator stands in it, an operand has this text in parentheses. -/
theorem ReadsExpr.operand {e : Expr} (reads : ReadsExpr e) (compound : e.isCompound = true) :
    ReadsOperand e := by
  refine ReadsOperand.of_first fun fuel rest enough _ => ?_
  rw [Expr.operandSpelling_of_compound compound] at enough ⊢
  simp only [List.length_cons, List.length_append, List.length_nil] at enough
  obtain ⟨fuel, rfl⟩ := Nat.exists_eq_add_of_le' (Nat.one_le_of_lt enough)
  rw [List.cons_append, List.append_assoc, List.singleton_append]
  exact reads.closed (by omega) (by decide) rest

theorem ReadsOperand.both {e : Expr} (reads : ReadsOperand e) (simple : e.isCompound = false) :
    ReadsExpr e ∧ ReadsOperand e :=
  ⟨reads.expr simple, reads⟩

theorem ReadsExpr.both {e : Expr} (reads : ReadsExpr e) (compound : e.isCompound = true) :
    ReadsExpr e ∧ ReadsOperand e :=
  ⟨reads, reads.operand compound⟩

/-! ### Each kind of expression -/

theorem readsOperand_literal (literal : Literal) : ReadsOperand (.literal literal) := by
  refine ReadsOperand.of_first fun fuel rest enough bounded => ?_
  obtain ⟨fuel, rfl⟩ := Nat.exists_eq_add_of_le' (Nat.one_le_of_lt enough)
  have read := readLiteral_render literal bounded
  change readFirst (fuel + 1) (literal.render.toList ++ rest) = _
  unfold readFirst
  rw [read]
  rfl

/-- What begins with a word, and is no constant, goes on by what this word is. -/
theorem readFirst_word {name : String} (word : isWord name = true)
    (other : name ∉ ["null", "true", "false"]) (fuel : Nat) {rest : List Char}
    (ends : ∀ c, rest.head? = some c → isNameChar c = false) :
    readFirst (fuel + 1) (name.toList ++ rest) = readNamed fuel name rest := by
  have noLiteral : readLiteral (name.toList ++ rest) = none := by
    simp only [List.mem_cons, List.not_mem_nil, or_false, not_or] at other
    rw [readLiteral_word word ends, if_neg other.1, if_neg other.2.1, if_neg other.2.2]
  have read := readWhile_append (isNameChar_of_isWord word) ends
  obtain ⟨c, more, chars, letter, -⟩ := isWord_cases word
  rw [chars, List.cons_append] at noLiteral read ⊢
  unfold readFirst
  rw [noLiteral]
  dsimp only
  -- A letter is neither of the two that begin an operand otherwise.
  have noSign : c ≠ '!' := by rintro rfl; cases letter
  have noOpening : c ≠ '(' := by rintro rfl; cases letter
  split
  · rename_i same
    exact absurd (List.cons.inj same).1 noSign
  · rename_i same
    exact absurd (List.cons.inj same).1 noOpening
  · rw [read]

theorem isIdentifier_iff {name : String} :
    isIdentifier name = true ↔ isWord name = true ∧ name ∉ reserved := by
  rw [isIdentifier, Bool.and_eq_true, Bool.not_eq_true', ← Bool.not_eq_true,
    List.contains_iff_mem]

/-- A name that means nothing by itself is read as a variable or as a method that is called. -/
theorem readNamed_identifier {name : String} (identifier : isIdentifier name = true) (fuel : Nat)
    (rest : List Char) :
    readNamed (fuel + 1) name rest
      = match rest with
        | '(' :: rest =>
          (readArgs fuel rest).map fun (args, rest) => (.call (.named name) args, rest)
        | rest => some (.localVar name, rest) := by
  obtain ⟨word, free⟩ := isIdentifier_iff.mp identifier
  have someName : name ≠ "" := by rintro rfl; cases word
  have notNew : name ≠ "new" := by rintro rfl; exact free (by decide)
  have notHasValue : name ≠ "hasValue" := by rintro rfl; exact free (by decide)
  unfold readNamed
  rw [if_neg someName, if_neg notNew, if_neg notHasValue]

theorem not_mem_constants {name : String} (identifier : isIdentifier name = true) :
    name ∉ ["null", "true", "false"] :=
  fun there => (isIdentifier_iff.mp identifier).2
    (List.mem_append_left ["new", "hasValue"] there)

theorem length_pos_of_isWord {name : String} (word : isWord name = true) :
    0 < name.toList.length := by
  obtain ⟨c, more, chars, -⟩ := isWord_cases word
  rw [chars]
  exact Nat.succ_pos more.length

theorem isNameChar_parenthesis {rest : List Char} (c : Char)
    (first : ('(' :: rest).head? = some c) : isNameChar c = false := by
  cases first
  rfl

/-- A name is read back, be it that of a parameter or of a variable. -/
theorem readsOperand_name {e : Expr} {name : String} (identifier : isIdentifier name = true)
    (spelled : e.operandSpelling = name.toList) (shown : e.shown = .localVar name) :
    ReadsOperand e := by
  refine ReadsOperand.of_first fun fuel rest enough bounded => ?_
  have word := (isIdentifier_iff.mp identifier).1
  have nonempty := length_pos_of_isWord word
  rw [spelled] at enough ⊢
  obtain ⟨fuel, rfl⟩ := Nat.exists_eq_add_of_le' (show 2 ≤ fuel by omega)
  rw [readFirst_word word (not_mem_constants identifier) (fuel + 1)
    (not_isNameChar_of_bounded bounded), readNamed_identifier identifier, shown]
  split
  · exact absurd (bounded '(' rfl) (by decide)
  · rfl

theorem readsOperand_call {method : Method} {args : List Expr}
    (identifier : isIdentifier method.name = true) (reads : ReadsArgs args) :
    ReadsOperand (.call method args) := by
  refine ReadsOperand.of_first fun fuel rest enough _ => ?_
  have word := (isIdentifier_iff.mp identifier).1
  have nonempty := length_pos_of_isWord word
  rw [Expr.operandSpelling_of_not_compound rfl, Expr.spelling_call] at enough ⊢
  simp only [List.length_cons, List.length_append, List.length_nil] at enough
  obtain ⟨fuel, rfl⟩ := Nat.exists_eq_add_of_le' (show 2 ≤ fuel by omega)
  rw [enclosed_append,
    readFirst_word word (not_mem_constants identifier) (fuel + 1) isNameChar_parenthesis,
    readNamed_identifier identifier]
  change (readArgs fuel (Expr.argsSpelling args ++ ')' :: rest)).map _ = _
  rw [reads fuel rest (by omega)]
  rfl

theorem readsOperand_hasValue {operand : Expr} (reads : ReadsExpr operand) :
    ReadsOperand (.hasValue operand) := by
  refine ReadsOperand.of_first fun fuel rest enough _ => ?_
  rw [Expr.operandSpelling_of_not_compound rfl, Expr.spelling_hasValue] at enough ⊢
  simp only [List.length_cons, List.length_append, List.length_nil] at enough
  obtain ⟨fuel, rfl⟩ := Nat.exists_eq_add_of_le' (show 2 ≤ fuel by omega)
  rw [enclosed_append, readFirst_word (by decide) (by decide) (fuel + 1) isNameChar_parenthesis]
  change (closedBy ')' (readExpr fuel (operand.spelling ++ ')' :: rest))).bind _ = _
  rw [reads.closed (by omega) (by decide)]
  rfl

theorem isPathChar_of_isIdentifier {name : String} (identifier : isIdentifier name = true) :
    ∀ c ∈ name.toList, isPathChar c = true := by
  intro c there
  rw [isPathChar, isNameChar_of_isWord (isIdentifier_iff.mp identifier).1 c there, Bool.true_or]

theorem isPathChar_of_isPath {container : String} (path : Expr.IsPath container) :
    ∀ c ∈ container.toList, isPathChar c = true := by
  obtain ⟨parts, nonempty, rfl, identifiers⟩ := path
  cases parts with
  | nil => exact absurd rfl nonempty
  | cons first more =>
      rw [List.forall_mem_cons] at identifiers
      intro c there
      rw [Json.toList_intercalate_cons, List.mem_append, List.mem_flatMap] at there
      rcases there with there | ⟨part, known, there⟩
      · exact isPathChar_of_isIdentifier identifiers.1 c there
      · obtain ⟨name, listed, rfl⟩ := List.mem_map.mp known
        rcases List.mem_append.mp there with point | there
        · rw [List.mem_singleton.mp point]
          rfl
        · exact isPathChar_of_isIdentifier (identifiers.2 name listed) c there

theorem readsOperand_construct {constructor : Method} {args : List Expr}
    (path : Expr.IsPath constructor.container) (reads : ReadsArgs args) :
    ReadsOperand (.construct constructor args) := by
  refine ReadsOperand.of_first fun fuel rest enough _ => ?_
  rw [Expr.operandSpelling_of_not_compound rfl, Expr.spelling_construct] at enough ⊢
  simp only [List.length_cons, List.length_append, List.length_nil] at enough
  obtain ⟨fuel, rfl⟩ := Nat.exists_eq_add_of_le' (show 2 ≤ fuel by omega)
  have container : readWhile isPathChar
      (constructor.container.toList ++ '(' :: (Expr.argsSpelling args ++ ')' :: rest))
        = (constructor.container, '(' :: (Expr.argsSpelling args ++ ')' :: rest)) :=
    readWhile_append (isPathChar_of_isPath path) (by rintro c ⟨⟩; rfl)
  rw [List.append_assoc, List.cons_append, enclosed_append,
    readFirst_word (by decide) (by decide) (fuel + 1) (by rintro c ⟨⟩; rfl)]
  unfold readNamed
  rw [if_neg (by decide), if_pos rfl, take_self]
  simp only [Option.bind_eq_bind, Option.bind_some, container, take_self]
  rw [reads fuel rest (by omega)]
  rfl

theorem readsExpr_not {operand : Expr} (reads : ReadsOperand operand) :
    ReadsExpr (.unary .not operand) := by
  intro fuel rest enough ends
  rw [Expr.spelling_not] at enough ⊢
  rw [List.length_cons] at enough
  obtain ⟨fuel, rfl⟩ := Nat.exists_eq_add_of_le' (show 3 ≤ fuel by omega)
  have first : readFirst (fuel + 1) ('!' :: (operand.operandSpelling ++ rest))
      = some (.unary .not operand.shown, rest) := by
    change (readOperand fuel (operand.operandSpelling ++ rest)).map _ = _
    rw [reads.last (by omega) ends]
    rfl
  refine readExpr_operand ?_ ends
  rw [List.cons_append, readOperand, first]
  exact ends.readSuffixes (by omega) _

theorem readsExpr_binary {op : BinaryOp} {left right : Expr} (readsLeft : ReadsOperand left)
    (readsRight : ReadsOperand right) : ReadsExpr (.binary op left right) := by
  intro fuel rest enough ends
  have signs := three_le_length_sign op
  rw [Expr.spelling_binary] at enough ⊢
  rw [List.length_append, List.length_append] at enough
  obtain ⟨fuel, rfl⟩ := Nat.exists_eq_add_of_le' (Nat.one_le_of_lt enough)
  obtain ⟨remaining, steps, read⟩ := readsLeft fuel
    (op.sign ++ (right.operandSpelling ++ rest)) (by omega) (bounded_sign op _)
  have someRemaining : 0 < remaining := by omega
  rw [List.append_assoc, List.append_assoc, readExpr, read, readSuffixes_sign someRemaining]
  change (match readSign (op.sign ++ (right.operandSpelling ++ rest)) with
    | none => _ | some (op, rest) => _) = _
  rw [readSign_sign]
  change (readOperand fuel (right.operandSpelling ++ rest)).bind _ = _
  rw [readsRight.last (by omega) ends]
  rfl

theorem readsOperand_length {operand : Expr} (reads : ReadsOperand operand) :
    ReadsOperand (.length operand) := by
  intro fuel rest enough bounded
  rw [Expr.operandSpelling_of_not_compound rfl, Expr.spelling_length] at enough ⊢
  rw [List.length_append, show ".Length".toList.length = 7 from rfl] at enough ⊢
  obtain ⟨left, steps, read⟩ := reads fuel (".Length".toList ++ rest) (by omega)
    (bounded_cons (by decide) _)
  obtain ⟨left, rfl⟩ := Nat.exists_eq_add_of_le' (show 1 ≤ left by omega)
  refine ⟨left, by omega, ?_⟩
  rw [List.append_assoc, read]
  rfl

theorem readsOperand_charAt {operand index : Expr} (reads : ReadsOperand operand)
    (readsIndex : ReadsExpr index) : ReadsOperand (.charAt operand index) := by
  intro fuel rest enough bounded
  rw [Expr.operandSpelling_of_not_compound rfl, Expr.spelling_charAt] at enough ⊢
  simp only [List.length_cons, List.length_append, List.length_nil] at enough ⊢
  obtain ⟨left, steps, read⟩ := reads fuel ('[' :: (index.spelling ++ ']' :: rest)) (by omega)
    (bounded_cons (by decide) _)
  obtain ⟨left, rfl⟩ := Nat.exists_eq_add_of_le' (show 1 ≤ left by omega)
  refine ⟨left, by omega, ?_⟩
  rw [enclosed_append, read]
  change (closedBy ']' (readExpr left (index.spelling ++ ']' :: rest))).bind _ = _
  rw [readsIndex.closed (by omega) (by decide)]
  rfl

theorem readsMore_nil : ReadsMore [] := by
  intro fuel rest enough
  obtain ⟨fuel, rfl⟩ := Nat.exists_eq_add_of_le' (Nat.one_le_of_lt enough)
  rfl

theorem ends_moreSpelling (es : List Expr) (rest : List Char) :
    Ends (Expr.moreSpelling es ++ ')' :: rest) := by
  cases es with
  | nil => exact ends_cons (by decide) rest
  | cons e more => exact ends_cons (by decide) _

theorem readsMore_cons {e : Expr} {more : List Expr} (reads : ReadsExpr e)
    (readsMore : ReadsMore more) : ReadsMore (e :: more) := by
  intro fuel rest enough
  rw [Expr.moreSpelling] at enough ⊢
  simp only [List.length_cons, List.length_append] at enough
  obtain ⟨fuel, rfl⟩ := Nat.exists_eq_add_of_le' (Nat.one_le_of_lt enough)
  have first := reads fuel _ (by omega) (ends_moreSpelling more rest)
  rw [List.cons_append, List.cons_append, List.append_assoc]
  change (readExpr fuel (e.spelling ++ (Expr.moreSpelling more ++ ')' :: rest))).bind _ = _
  rw [first]
  change (readMore fuel (Expr.moreSpelling more ++ ')' :: rest)).bind _ = _
  rw [readsMore fuel rest (by omega)]
  rfl

theorem readsArgs_nil : ReadsArgs [] := by
  intro fuel rest enough
  obtain ⟨fuel, rfl⟩ := Nat.exists_eq_add_of_le' (Nat.one_le_of_lt enough)
  rfl

theorem readsArgs_cons {e : Expr} {more : List Expr} (reads : ReadsExpr e)
    (readsMore : ReadsMore more) : ReadsArgs (e :: more) := by
  intro fuel rest enough
  rw [Expr.argsSpelling] at enough ⊢
  rw [List.length_append] at enough
  obtain ⟨fuel, rfl⟩ := Nat.exists_eq_add_of_le' (Nat.one_le_of_lt enough)
  have first := reads fuel _ (by omega) (ends_moreSpelling more rest)
  rw [List.append_assoc]
  unfold readArgs
  split
  -- There are no arguments only if the closing parenthesis comes first, and no argument begins so.
  · rename_i same
    rw [same, readExpr_close] at first
    cases first
  · rw [first]
    change (readMore fuel (Expr.moreSpelling more ++ ')' :: rest)).bind _ = _
    rw [readsMore fuel rest (by omega)]
    rfl

mutual

/-- **Each expression is read back**, as an expression and as an operand. -/
theorem readsBack : ∀ e : Expr, e.Named → ReadsExpr e ∧ ReadsOperand e
  | .literal value, _ => ReadsOperand.both (readsOperand_literal value) rfl
  | .parameter _ _, named => ReadsOperand.both (readsOperand_name named rfl rfl) rfl
  | .localVar _, named => ReadsOperand.both (readsOperand_name named rfl rfl) rfl
  | .unary .not operand, named => ReadsExpr.both (readsExpr_not (readsBack operand named).2) rfl
  | .binary _ left right, named =>
    ReadsExpr.both (readsExpr_binary (readsBack left named.1).2 (readsBack right named.2).2) rfl
  | .hasValue operand, named =>
    ReadsOperand.both (readsOperand_hasValue (readsBack operand named).1) rfl
  | .call _ args, named =>
    ReadsOperand.both (readsOperand_call named.1 (readsBackAll args named.2).1) rfl
  | .construct _ args, named =>
    ReadsOperand.both (readsOperand_construct named.1 (readsBackAll args named.2).1) rfl
  | .length operand, named =>
    ReadsOperand.both (readsOperand_length (readsBack operand named).2) rfl
  | .charAt operand index, named =>
    ReadsOperand.both
      (readsOperand_charAt (readsBack operand named.1).2 (readsBack index named.2).1) rfl

/-- Arguments are read back, all of them and those after the first one. -/
theorem readsBackAll : ∀ es : List Expr, Expr.AllNamed es → ReadsArgs es ∧ ReadsMore es
  | [], _ => ⟨readsArgs_nil, readsMore_nil⟩
  | e :: rest, named =>
    have first := (readsBack e named.1).1
    have more := (readsBackAll rest named.2).2
    ⟨readsArgs_cons first more, readsMore_cons first more⟩

end

end Reader

namespace Expr

/-- Reads a text as an expression. Three steps a character are enough, and some for the end. -/
def read? (text : String) : Option Expr :=
  match Reader.readExpr (3 * text.toList.length + 3) text.toList with
  | some (e, []) => some e
  | _ => none

/-- **The text of an expression is read as what it shows of the expression.** -/
theorem read?_render {e : Expr} (named : e.Named) : read? e.render = some e.shown := by
  have read := (Reader.readsBack e named).1 _ [] (Nat.le_refl _) Reader.ends_nil
  rw [List.append_nil] at read
  unfold read?
  rw [show e.render.toList = e.spelling from rfl, read]

/-- **The text of an expression is unambiguous**: it is read as what it shows of the expression, and
two expressions have one text only if they are the same but for what a text does not show. -/
theorem render_eq_iff {a b : Expr} (ha : a.Named) (hb : b.Named) :
    read? a.render = some a.shown ∧ (a.render = b.render ↔ a.shown = b.shown) := by
  refine ⟨read?_render ha, fun same => ?_, fun same => ?_⟩
  · have read := read?_render ha
    rw [same, read?_render hb] at read
    exact (Option.some.inj read).symm
  · rw [← render_shown a, ← render_shown b, same]

/-- An expression in which most kinds of expressions stand, with one to be filled in. -/
def nestedAround (x : Expr) : Expr :=
  .unary .not (.binary .equal (.call (.named "count") [x, .literal (.int (-1))])
    (.charAt (.length (.construct (.constructing "System.Text") [.literal (.text "\"\n")]))
      (.binary .add (.literal (.uint 3)) (.hasValue x))))

example : (nestedAround (.localVar "x")).render
    = "!(count(x, -1) == new System.Text(\"\\\"\\n\").Length[3u + hasValue(x)])" := by
  decide +kernel

theorem render_eq_iff_nestedAround :
    (nestedAround (.parameter "x" .int)).Named ∧ (nestedAround (.localVar "x")).Named
      ∧ read? (nestedAround (.parameter "x" .int)).render
          = some (nestedAround (.parameter "x" .int)).shown
      ∧ ((nestedAround (.parameter "x" .int)).render = (nestedAround (.localVar "x")).render
          ↔ (nestedAround (.parameter "x" .int)).shown = (nestedAround (.localVar "x")).shown) := by
  have path : IsPath "System.Text" := ⟨["System", "Text"], by decide, by decide, by decide⟩
  have asParameter : (nestedAround (.parameter "x" .int)).Named :=
    ⟨⟨by decide, rfl, trivial, trivial⟩, ⟨path, trivial, trivial⟩, trivial, rfl⟩
  have asLocal : (nestedAround (.localVar "x")).Named :=
    ⟨⟨by decide, rfl, trivial, trivial⟩, ⟨path, trivial, trivial⟩, trivial, rfl⟩
  exact ⟨asParameter, asLocal, render_eq_iff asParameter asLocal⟩

end Expr

end ArgumentGuards
