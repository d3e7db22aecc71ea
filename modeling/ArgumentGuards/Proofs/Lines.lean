import ArgumentGuards.Tree.Render
import Mathlib

/-!
# The lines of rendered code

A statement is shown on one line. What could break the line is a line feed, and none comes from the
tree: in a quoted text it is escaped, and in a number there are digits only. So it could come from a
name, and the names are taken to have none (`Stmt.FlatNames`).

A block is shown on lines, joined by line feeds. Since no line has one of its own, splitting the
text at its line feeds gives these lines back, and the text of a block can be said line by line: the
lines of its statements stand between its braces, one step further to the right. A hidden sequence
point puts a marker in front of a statement's lines and one behind them. No other line looks like a
marker, because all other lines end in a semicolon or a brace; so the markers of a text are
brackets that match, one pair for each hidden sequence point.
-/

namespace ArgumentGuards

/-! ## Texts on one line -/

/-- Whether a text has no line feed. -/
def OneLine (text : String) : Prop := '\n' ∉ text.toList

instance (text : String) : Decidable (OneLine text) :=
  inferInstanceAs (Decidable ('\n' ∉ text.toList))

theorem oneLine_append {first second : String} :
    OneLine (first ++ second) ↔ OneLine first ∧ OneLine second := by
  unfold OneLine
  rw [String.toList_append, List.mem_append, not_or]

theorem OneLine.append {first second : String} (h : OneLine first) (h' : OneLine second) :
    OneLine (first ++ second) := oneLine_append.mpr ⟨h, h'⟩

theorem OneLine.intercalate {between : String} {texts : List String} (h : OneLine between)
    (each : ∀ text ∈ texts, OneLine text) : OneLine (String.intercalate between texts) := by
  induction texts with
  | nil => simp [OneLine]
  | cons text rest ih =>
      obtain ⟨first, others⟩ := List.forall_mem_cons.mp each
      cases rest with
      | nil => simpa using first
      | cons next rest =>
          rw [String.intercalate_cons_cons]
          exact (first.append h).append (ih others)

theorem digitChar_ne_lineFeed {d : Nat} (small : d < 16) : Nat.digitChar d ≠ '\n' := by
  interval_cases d <;> decide

theorem lineFeed_notMem_toDigits {base : Nat} (several : 1 < base) (few : base ≤ 16) (n : Nat) :
    '\n' ∉ Nat.toDigits base n := by
  induction n using Nat.strongRecOn with
  | ind n ih =>
      rw [Nat.toDigits_eq_if several]
      intro there
      split at there
      · have small : n < 16 := by omega
        exact digitChar_ne_lineFeed small (List.mem_singleton.mp there).symm
      · rcases List.mem_append.mp there with there | there
        · exact ih (n / base) (Nat.div_lt_self (by omega) several) there
        · have small : n % base < 16 := Nat.lt_of_lt_of_le (Nat.mod_lt n (by omega)) few
          exact digitChar_ne_lineFeed small (List.mem_singleton.mp there).symm

theorem oneLine_repr (n : Nat) : OneLine (Nat.repr n) := by
  unfold OneLine
  rw [Nat.toList_repr]
  exact lineFeed_notMem_toDigits (by decide) (by decide) n

/-- Whatever a character is, it is not written by a line feed between quotes. -/
theorem lineFeed_notMem_quotedChar (c : Char) : '\n' ∉ Text.quotedChar c := by
  unfold Text.quotedChar
  split_ifs with h1 h2 h3 h4 h5 h6 h7
  case pos => decide
  case pos => decide
  case pos => decide
  case pos => decide
  case pos => decide
  case pos => decide
  case pos =>
    have digits : '\n' ∉ Text.hexadecimal c.toNat :=
      lineFeed_notMem_toDigits (by decide) (by decide) c.toNat
    simp [Text.numbered, digits]
  case neg =>
    intro there
    exact h3 (List.mem_singleton.mp there).symm

theorem oneLine_quote (text : String) : OneLine (Text.quote text) := by
  unfold OneLine Text.quote
  rw [String.toList_ofList]
  simp [lineFeed_notMem_quotedChar]

theorem oneLine_intRepr (n : Int) : OneLine (Int.repr n) := by
  rw [Int.repr_eq_if]
  split
  · exact oneLine_repr _
  · exact OneLine.append (by decide) (oneLine_repr _)

theorem Literal.oneLine_render (l : Literal) : OneLine l.render := by
  cases l with
  | null => exact (by decide : OneLine "null")
  | bool value =>
      cases value with
      | true => exact (by decide : OneLine "true")
      | false => exact (by decide : OneLine "false")
  | int value => exact oneLine_intRepr value.toInt
  | uint value => exact (oneLine_repr value.toNat).append (by decide)
  | text value => exact oneLine_quote value

/-! ## Names -/

namespace Expr

mutual

/-- Whether no name that an expression shows has a line feed. -/
def FlatNames : Expr → Prop
  | .literal _ => True
  | .parameter name _ => OneLine name
  | .localVar name => OneLine name
  | .unary _ operand => operand.FlatNames
  | .binary _ left right => left.FlatNames ∧ right.FlatNames
  | .hasValue operand => operand.FlatNames
  | .call method args => OneLine method.name ∧ AllFlatNames args
  | .construct constructor args => OneLine constructor.container ∧ AllFlatNames args
  | .length operand => operand.FlatNames
  | .charAt operand index => operand.FlatNames ∧ index.FlatNames

/-- Whether no name in some expressions has a line feed. -/
def AllFlatNames : List Expr → Prop
  | [] => True
  | e :: rest => e.FlatNames ∧ AllFlatNames rest

end

end Expr

namespace Stmt

mutual

/-- Whether no name in a statement has a line feed: of expressions, targets and declarations. -/
def FlatNames : Stmt → Prop
  | .expression expr => expr.FlatNames
  | .ret none => True
  | .ret (some value) => value.FlatNames
  | .conditional condition thenBranch none => condition.FlatNames ∧ thenBranch.FlatNames
  | .conditional condition thenBranch (some elseBranch) =>
    condition.FlatNames ∧ thenBranch.FlatNames ∧ elseBranch.FlatNames
  | .throw value => value.FlatNames
  | .assign target value => OneLine target ∧ value.FlatNames
  | .loop condition body => condition.FlatNames ∧ body.FlatNames
  | .block ⟨locals, statements⟩ =>
    (∀ l ∈ locals, OneLine l.type.name ∧ OneLine l.name) ∧ AllFlatNames statements
  | .sequencePoint _ statement => statement.FlatNames

/-- Whether no name in some statements has a line feed. -/
def AllFlatNames : List Stmt → Prop
  | [] => True
  | s :: rest => s.FlatNames ∧ AllFlatNames rest

end

end Stmt

/-- Whether no name in a block has a line feed. -/
def Block.FlatNames (b : Block) : Prop := (Stmt.block b).FlatNames

/-! ## Expressions and statements -/

namespace Expr

theorem oneLine_parenthesize (e : Expr) {text : String} (h : OneLine text) :
    OneLine (e.parenthesize text) := by
  unfold parenthesize
  split
  · exact (OneLine.append (by decide) h).append (by decide)
  · exact h

theorem oneLine_symbol (op : BinaryOp) : OneLine op.symbol := by
  cases op <;> decide

mutual

/-- **The text of an expression is on one line**, if its names are. -/
theorem oneLine_render : ∀ e : Expr, e.FlatNames → OneLine e.render
  | .literal value, _ => value.oneLine_render
  | .parameter _ _, flat => flat
  | .localVar _, flat => flat
  | .unary .not operand, flat => by
      have inside := oneLine_parenthesize operand (oneLine_render operand flat)
      exact OneLine.append (by decide) inside
  | .binary op left right, flat => by
      have before := oneLine_parenthesize left (oneLine_render left flat.1)
      have after := oneLine_parenthesize right (oneLine_render right flat.2)
      have sign := oneLine_symbol op
      simp only [render, oneLine_append]
      exact ⟨⟨⟨⟨before, by decide⟩, sign⟩, by decide⟩, after⟩
  | .hasValue operand, flat => by
      have inside := oneLine_render operand flat
      exact (OneLine.append (by decide) inside).append (by decide)
  | .call method args, flat => by
      have inside := OneLine.intercalate (by decide : OneLine ", ") (oneLine_renderAll args flat.2)
      exact ((flat.1.append (by decide)).append inside).append (by decide)
  | .construct constructor args, flat => by
      have inside := OneLine.intercalate (by decide : OneLine ", ") (oneLine_renderAll args flat.2)
      have front : OneLine ("new " ++ constructor.container) := OneLine.append (by decide) flat.1
      exact ((front.append (by decide)).append inside).append (by decide)
  | .length operand, flat => by
      have before := oneLine_parenthesize operand (oneLine_render operand flat)
      exact before.append (by decide)
  | .charAt operand index, flat => by
      have before := oneLine_parenthesize operand (oneLine_render operand flat.1)
      have inside := oneLine_render index flat.2
      exact ((before.append (by decide)).append inside).append (by decide)

theorem oneLine_renderAll : ∀ es : List Expr, AllFlatNames es →
    ∀ text ∈ renderAll es, OneLine text
  | [], _ => by
      intro text there
      cases there
  | e :: rest, flat => by
      intro text there
      rcases List.mem_cons.mp there with rfl | there
      · exact oneLine_render e flat.1
      · exact oneLine_renderAll rest flat.2 text there

end

end Expr

namespace Stmt

theorem oneLine_brace (s : Stmt) {text : String} (h : OneLine text) : OneLine (s.brace text) := by
  unfold brace
  split
  · exact h
  · exact (OneLine.append (by decide) h).append (by decide)

mutual

/-- **The text of a statement is on one line**, if its names are. -/
theorem oneLine_render : ∀ s : Stmt, s.FlatNames → OneLine s.render
  | .expression expr, flat => (expr.oneLine_render flat).append (by decide)
  | .ret none, _ => by decide
  | .ret (some value), flat =>
    (OneLine.append (by decide) (value.oneLine_render flat)).append (by decide)
  | .conditional condition thenBranch none, flat => by
      have test := condition.oneLine_render flat.1
      have branch := oneLine_brace thenBranch (oneLine_render thenBranch flat.2)
      exact ((OneLine.append (by decide) test).append (by decide)).append branch
  | .conditional condition thenBranch (some elseBranch), flat => by
      have test := condition.oneLine_render flat.1
      have branch := oneLine_brace thenBranch (oneLine_render thenBranch flat.2.1)
      have other := oneLine_brace elseBranch (oneLine_render elseBranch flat.2.2)
      have first : OneLine
          ("if (" ++ condition.render ++ ") " ++ brace thenBranch thenBranch.render) :=
        ((OneLine.append (by decide) test).append (by decide)).append branch
      exact (first.append (by decide)).append other
  | .throw value, flat =>
    (OneLine.append (by decide) (value.oneLine_render flat)).append (by decide)
  | .assign _ value, flat =>
    ((flat.1.append (by decide)).append (value.oneLine_render flat.2)).append (by decide)
  | .loop condition body, flat => by
      have test := condition.oneLine_render flat.1
      have round := oneLine_brace body (oneLine_render body flat.2)
      exact ((OneLine.append (by decide) test).append (by decide)).append round
  | .block ⟨_, statements⟩, flat => by
      have inside := oneLine_renderAll statements flat.2
      exact (OneLine.append (by decide) inside).append (by decide)
  | .sequencePoint _ statement, flat => oneLine_render statement flat

theorem oneLine_renderAll : ∀ statements : List Stmt, AllFlatNames statements →
    OneLine (renderAll statements)
  | [], _ => by decide
  | s :: rest, flat =>
    (OneLine.append (by decide) (oneLine_render s flat.1)).append (oneLine_renderAll rest flat.2)

end

end Stmt

/-! ## Lines -/

/-- The lines of a text. -/
def linesOf (text : String) : List String := (text.toList.splitOn '\n').map String.ofList

/-- Lines, each one step further to the right. -/
def indented (lines : List String) : List String := lines.map (Stmt.indentation 1 ++ ·)

/-- Lines joined by line feeds are found again. -/
theorem linesOf_intercalate {lines : List String} (each : ∀ line ∈ lines, OneLine line)
    (some : lines ≠ []) : linesOf (String.intercalate "\n" lines) = lines := by
  have apart : ∀ line ∈ lines.map String.toList, '\n' ∉ line := by
    intro line there
    obtain ⟨text, within, rfl⟩ := List.mem_map.mp there
    exact each text within
  have filled : lines.map String.toList ≠ [] := by simpa using some
  unfold linesOf
  rw [String.toList_intercalate]
  change (List.splitOn '\n' (List.intercalate ['\n'] _)).map String.ofList = lines
  rw [List.splitOn_intercalate '\n' apart filled, List.map_map]
  simp

theorem indented_append (lines more : List String) :
    indented (lines ++ more) = indented lines ++ indented more := List.map_append

theorem oneLine_indentation (depth : Nat) : OneLine (Stmt.indentation depth) := by
  simp [OneLine, Stmt.indentation]

theorem indentation_zero : Stmt.indentation 0 = "" := by decide

theorem indentation_succ (depth : Nat) :
    Stmt.indentation (depth + 1) = Stmt.indentation 1 ++ Stmt.indentation depth := by
  unfold Stmt.indentation
  rw [← String.ofList_append, ← List.replicate_add]
  congr 2
  omega

namespace Stmt

/-- Whether a statement is shown on one line wherever it stands. -/
def isSingle : Stmt → Bool
  | .sequencePoint none _ => false
  | .block _ => false
  | _ => true

mutual

/-- How lines are written is how to argue about them: a statement is a hidden sequence point, a
block, or has one line. -/
@[elab_as_elim]
theorem lineInduction {motive : Stmt → Prop}
    (hidden : ∀ s, motive s → motive (.sequencePoint none s))
    (block : ∀ locals statements, (∀ s ∈ statements, motive s) →
      motive (.block ⟨locals, statements⟩))
    (single : ∀ s, s.isSingle = true → motive s) : ∀ s : Stmt, motive s
  | .sequencePoint none s => hidden s (lineInduction hidden block single s)
  | .block ⟨locals, statements⟩ =>
    block locals statements (lineInductionAll hidden block single statements)
  | .sequencePoint (some _) _ => single _ rfl
  | .expression _ => single _ rfl
  | .ret _ => single _ rfl
  | .conditional _ _ _ => single _ rfl
  | .throw _ => single _ rfl
  | .assign _ _ => single _ rfl
  | .loop _ _ => single _ rfl

theorem lineInductionAll {motive : Stmt → Prop}
    (hidden : ∀ s, motive s → motive (.sequencePoint none s))
    (block : ∀ locals statements, (∀ s ∈ statements, motive s) →
      motive (.block ⟨locals, statements⟩))
    (single : ∀ s, s.isSingle = true → motive s) :
    ∀ statements : List Stmt, ∀ s ∈ statements, motive s
  | [] => List.forall_mem_nil _
  | s :: rest => List.forall_mem_cons.mpr
      ⟨lineInduction hidden block single s, lineInductionAll hidden block single rest⟩

end

theorem linesAll_eq_flatMap (depth : Nat) (statements : List Stmt) :
    linesAll depth statements = statements.flatMap (lines depth) := by
  induction statements with
  | nil => rfl
  | cons s rest ih => rw [linesAll, ih, List.flatMap_cons]

theorem lines_hidden (depth : Nat) (s : Stmt) :
    (sequencePoint none s).lines depth
      = (indentation depth ++ "#line hidden") :: s.lines depth
          ++ [indentation depth ++ "#line default"] := by
  rw [lines]

theorem lines_block (depth : Nat) (locals : List Local) (statements : List Stmt) :
    (block ⟨locals, statements⟩).lines depth
      = (indentation depth ++ "\x7b")
          :: (locals.map fun l => indentation (depth + 1) ++ declaration l)
          ++ statements.flatMap (lines (depth + 1)) ++ [indentation depth ++ "\x7d"] := by
  rw [lines, linesAll_eq_flatMap]

theorem lines_single {s : Stmt} (h : s.isSingle = true) (depth : Nat) :
    s.lines depth = [indentation depth ++ s.render] := by
  cases s with
  | sequencePoint span s =>
      cases span with
      | none => cases h
      | some span => rfl
  | block b => cases h
  | _ => rfl

/-- **One depth more shifts the lines of a statement**, and does nothing else to them. -/
theorem lines_succ (s : Stmt) : ∀ depth, s.lines (depth + 1) = indented (s.lines depth) := by
  induction s using lineInduction with
  | hidden s ih =>
      intro depth
      rw [lines_hidden, lines_hidden, ih depth]
      simp [indented, indentation_succ depth, String.append_assoc]
  | block locals statements ih =>
      intro depth
      have inside : statements.flatMap (lines (depth + 2))
          = indented (statements.flatMap (lines (depth + 1))) := by
        unfold indented
        rw [List.map_flatMap]
        exact List.flatMap_congr fun s there => ih s there (depth + 1)
      rw [lines_block, lines_block, inside]
      simp [indented, indentation_succ depth, indentation_succ (depth + 1), String.append_assoc]
  | single s h =>
      intro depth
      rw [lines_single h, lines_single h, indentation_succ]
      simp [indented, String.append_assoc]

theorem allFlatNames_iff {statements : List Stmt} :
    AllFlatNames statements ↔ ∀ s ∈ statements, s.FlatNames := by
  induction statements with
  | nil => simp [AllFlatNames]
  | cons s rest ih => rw [AllFlatNames, ih, List.forall_mem_cons]

/-- **No line of a statement has a line feed of its own.** -/
theorem oneLine_lines (s : Stmt) : ∀ depth, s.FlatNames →
    ∀ line ∈ s.lines depth, OneLine line := by
  induction s using lineInduction with
  | hidden s ih =>
      intro depth flat line there
      have inside := ih depth flat
      rw [lines_hidden] at there
      simp only [List.mem_append, List.mem_cons, List.not_mem_nil, or_false] at there
      rcases there with (rfl | there) | rfl
      · exact (oneLine_indentation depth).append (by decide)
      · exact inside line there
      · exact (oneLine_indentation depth).append (by decide)
  | block locals statements ih =>
      intro depth flat line there
      -- the declarations are lines by themselves, and those of the statements are by induction
      have declared := flat.1
      have inside := allFlatNames_iff.mp flat.2
      rw [lines_block] at there
      simp only [List.mem_append, List.mem_cons, List.mem_map, List.mem_flatMap, List.not_mem_nil,
        or_false] at there
      rcases there with ((rfl | ⟨l, hl, rfl⟩) | ⟨s, hs, there⟩) | rfl
      · exact (oneLine_indentation depth).append (by decide)
      · obtain ⟨type, name⟩ := declared l hl
        have text : OneLine (declaration l) :=
          ((type.append (by decide)).append name).append (by decide)
        exact (oneLine_indentation (depth + 1)).append text
      · exact ih s hs (depth + 1) (inside s hs) line there
      · exact (oneLine_indentation depth).append (by decide)
  | single s h =>
      intro depth flat line there
      rw [lines_single h, List.mem_singleton] at there
      subst there
      exact (oneLine_indentation depth).append (oneLine_render s flat)

/-- What a statement adds to the lines of a block it stands in: a block adds the lines of its own
text. -/
def contribution : Stmt → List String
  | .sequencePoint none statement =>
    "#line hidden" :: statement.contribution ++ ["#line default"]
  | .block b => linesOf b.render
  | s => [s.render]

theorem contribution_single {s : Stmt} (h : s.isSingle = true) : s.contribution = [s.render] := by
  unfold contribution
  split
  · cases h
  · cases h
  · rfl

/-- **The lines of a statement are what it contributes**, at no depth. -/
theorem lines_zero (s : Stmt) : s.FlatNames → s.lines 0 = s.contribution := by
  induction s using lineInduction with
  | hidden s ih =>
      intro flat
      rw [lines_hidden, contribution, ih flat, indentation_zero, String.empty_append,
        String.empty_append]
  | block locals statements _ =>
      intro flat
      have some : (block ⟨locals, statements⟩).lines 0 ≠ [] := by simp [lines_block]
      rw [contribution]
      exact (linesOf_intercalate (oneLine_lines _ 0 flat) some).symm
  | single s h =>
      intro _
      rw [lines_single h, contribution_single h, indentation_zero, String.empty_append]

end Stmt

namespace Block

/-- The text of a block is split into the lines that it was joined from. -/
theorem linesOf_render {b : Block} (flat : b.FlatNames) : linesOf b.render = b.lines 0 := by
  have some : b.lines 0 ≠ [] := by
    obtain ⟨locals, statements⟩ := b
    simp [lines, Stmt.lines_block]
  exact linesOf_intercalate (Stmt.oneLine_lines (.block b) 0 flat) some

/-- **The lines of a block** are its braces and, further to the right, its declarations and what its
statements contribute. -/
theorem lines_zero {b : Block} (flat : b.FlatNames) :
    b.lines 0
      = "\x7b" :: indented (b.locals.map Stmt.declaration ++ b.statements.flatMap Stmt.contribution)
          ++ ["\x7d"] := by
  obtain ⟨locals, statements⟩ := b
  have inside : statements.flatMap (Stmt.lines 1)
      = indented (statements.flatMap Stmt.contribution) := by
    unfold indented
    rw [List.map_flatMap]
    refine List.flatMap_congr fun s there => ?_
    rw [Stmt.lines_succ s 0, Stmt.lines_zero s (Stmt.allFlatNames_iff.mp flat.2 s there)]
    rfl
  rw [lines, Stmt.lines_block, inside, indented_append]
  simp [indented, indentation_zero]

end Block

/-! ## Markers -/

/-- The bracket that a line is, if it is a marker: an opening or a closing one. -/
def mark? (line : String) : Option DyckStep :=
  let text := line.toList.dropWhile (· = ' ')
  if text = "#line hidden".toList then some .U
  else if text = "#line default".toList then some .D
  else none

theorem mark?_indentation (depth : Nat) (text : String) :
    mark? (Stmt.indentation depth ++ text) = mark? text := by
  have blanks : ∀ c ∈ List.replicate (4 * depth) ' ', decide (c = ' ') = true := by
    intro c there
    exact decide_eq_true (List.eq_of_mem_replicate there)
  unfold mark? Stmt.indentation
  rw [String.toList_append, String.toList_ofList, List.dropWhile_append_of_pos blanks]

/-- The characters with which the other lines end. -/
def closers : List Char := [';', '\x7b', '\x7d']

/-- Whether a text ends with one of them. -/
def Closed (text : String) : Prop := ∃ c ∈ closers, text.toList.getLast? = some c

theorem Closed.after {text : String} (h : Closed text) (before : String) :
    Closed (before ++ text) := by
  obtain ⟨c, there, last⟩ := h
  refine ⟨c, there, ?_⟩
  rw [String.toList_append, List.getLast?_append, last, Option.some_or]

theorem getLast?_of_dropWhile {line marker : String} {c : Char}
    (same : line.toList.dropWhile (· = ' ') = marker.toList)
    (last : marker.toList.getLast? = some c) : line.toList.getLast? = some c := by
  have whole := List.takeWhile_append_dropWhile (p := (· = ' ')) (l := line.toList)
  rw [← whole, List.getLast?_append, same, last, Option.some_or]

/-- Markers end with a letter. -/
theorem Closed.mark? {line : String} (h : Closed line) : mark? line = none := by
  obtain ⟨c, there, last⟩ := h
  unfold ArgumentGuards.mark?
  rw [if_neg, if_neg]
  · intro same
    have letter := getLast?_of_dropWhile same (c := 't') (by decide)
    obtain rfl : c = 't' := Option.some.inj (last.symm.trans letter)
    exact absurd there (by decide)
  · intro same
    have letter := getLast?_of_dropWhile same (c := 'n') (by decide)
    obtain rfl : c = 'n' := Option.some.inj (last.symm.trans letter)
    exact absurd there (by decide)

theorem closed_semicolon (before : String) : Closed (before ++ ";") :=
  Closed.after ⟨';', by decide, by decide⟩ before

theorem closed_brace (before : String) : Closed (before ++ " \x7d") :=
  Closed.after ⟨'\x7d', by decide, by decide⟩ before

namespace Stmt

theorem closed_branch (s : Stmt) {text : String} (h : Closed text) : Closed (s.brace text) := by
  unfold brace
  split
  · exact h
  · exact closed_brace _

/-- **The text of a statement ends in a semicolon or a brace**, whatever its names are. -/
theorem closed_render : ∀ s : Stmt, Closed s.render
  | .expression _ => closed_semicolon _
  | .ret none => ⟨';', by decide, by decide⟩
  | .ret (some _) => closed_semicolon _
  | .conditional _ thenBranch none => (closed_branch thenBranch (closed_render thenBranch)).after _
  | .conditional _ _ (some elseBranch) =>
    (closed_branch elseBranch (closed_render elseBranch)).after _
  | .throw _ => closed_semicolon _
  | .assign _ _ => closed_semicolon _
  | .loop _ body => (closed_branch body (closed_render body)).after _
  | .block ⟨_, _⟩ => closed_brace _
  | .sequencePoint _ statement => closed_render statement

mutual

/-- The brackets of a statement's markers: a pair for every hidden sequence point that stands in the
lines, around those of the statement that it hides. -/
def fences : Stmt → DyckWord
  | .sequencePoint none statement => statement.fences.nest
  | .block ⟨_, statements⟩ => fencesAll statements
  | _ => 0

/-- The brackets of some statements, one after the other. -/
def fencesAll : List Stmt → DyckWord
  | [] => 0
  | s :: rest => s.fences + fencesAll rest

end

mutual

/-- The number of hidden sequence points that stand directly in a block, or in such a block. -/
def hiddenPoints : Stmt → Nat
  | .sequencePoint none statement => statement.hiddenPoints + 1
  | .block ⟨_, statements⟩ => hiddenPointsAll statements
  | _ => 0

/-- The number of hidden sequence points among some statements. -/
def hiddenPointsAll : List Stmt → Nat
  | [] => 0
  | s :: rest => s.hiddenPoints + hiddenPointsAll rest

end

theorem fences_single {s : Stmt} (h : s.isSingle = true) : s.fences = 0 := by
  unfold fences
  split
  · cases h
  · cases h
  · rfl

theorem hiddenPoints_single {s : Stmt} (h : s.isSingle = true) : s.hiddenPoints = 0 := by
  unfold hiddenPoints
  split
  · cases h
  · cases h
  · rfl

theorem toList_fencesAll (statements : List Stmt) :
    (fencesAll statements).toList = statements.flatMap fun s => s.fences.toList := by
  induction statements with
  | nil => rfl
  | cons s rest ih =>
      rw [List.flatMap_cons, ← ih]
      rfl

/-- **The markers in the lines of a statement are its brackets.** -/
theorem marks_lines (s : Stmt) : ∀ depth, (s.lines depth).filterMap mark? = s.fences.toList := by
  induction s using lineInduction with
  | hidden s ih =>
      intro depth
      have opening : mark? (indentation depth ++ "#line hidden") = some .U := by
        rw [mark?_indentation]
        decide
      have closing : mark? (indentation depth ++ "#line default") = some .D := by
        rw [mark?_indentation]
        decide
      rw [lines_hidden, List.filterMap_append, List.filterMap_cons_some opening, ih depth,
        List.filterMap_cons_some closing]
      rfl
  | block locals statements ih =>
      intro depth
      -- braces and declarations end as no marker does, so all markers are those of the statements
      have opening : mark? (indentation depth ++ "\x7b") = none :=
        Closed.mark? (Closed.after ⟨'\x7b', by decide, by decide⟩ _)
      have closing : mark? (indentation depth ++ "\x7d") = none :=
        Closed.mark? (Closed.after ⟨'\x7d', by decide, by decide⟩ _)
      have declared : (locals.map fun l => indentation (depth + 1) ++ declaration l).filterMap mark?
          = [] := by
        rw [List.filterMap_eq_nil_iff]
        intro line there
        obtain ⟨l, _, rfl⟩ := List.mem_map.mp there
        exact ((closed_semicolon _).after _).mark?
      have inside : (statements.flatMap (lines (depth + 1))).filterMap mark?
          = (fencesAll statements).toList := by
        rw [List.filterMap_flatMap, toList_fencesAll]
        exact List.flatMap_congr fun s there => ih s there (depth + 1)
      rw [lines_block, List.filterMap_append, List.filterMap_append,
        List.filterMap_cons_none opening, declared, inside, List.filterMap_cons_none closing]
      simp [fences]
  | single s h =>
      intro depth
      have none := ((closed_render s).after (indentation depth)).mark?
      rw [lines_single h, fences_single h, List.filterMap_cons_none none]
      rfl

theorem semilength_fences (s : Stmt) : s.fences.semilength = s.hiddenPoints := by
  induction s using lineInduction with
  | hidden s ih => rw [fences, hiddenPoints, DyckWord.semilength_nest, ih]
  | block locals statements ih =>
      rw [fences, hiddenPoints]
      induction statements with
      | nil => rfl
      | cons s rest more =>
          obtain ⟨first, others⟩ := List.forall_mem_cons.mp ih
          rw [fencesAll, hiddenPointsAll, DyckWord.semilength_add, first, more others]
  | single s h =>
      rw [fences_single h, hiddenPoints_single h]
      rfl

end Stmt

/-- The brackets of a block's markers. -/
def Block.fences (b : Block) : DyckWord := Stmt.fencesAll b.statements

/-- The number of hidden sequence points that the lines of a block show. -/
def Block.hiddenPoints (b : Block) : Nat := Stmt.hiddenPointsAll b.statements

/--
**Code is rendered in lines.**

The text of a statement is on one line, however deep the statement is nested, and is no marker. The
lines of a block's text are an opening brace, a line for each variable, what each statement
contributes, and a closing brace: a hidden sequence point contributes two markers with the lines of
its statement between them, a block the lines of its own text, and every other statement its own
line; all of it stands one step further to the right. The markers among the lines are brackets that
match, a pair for each hidden sequence point.
-/
theorem rendered_in_lines :
    (∀ s : Stmt, s.FlatNames → OneLine s.render ∧ mark? s.render = none)
      ∧ ∀ b : Block, b.FlatNames →
        linesOf b.render
            = "\x7b" :: indented
                (b.locals.map Stmt.declaration ++ b.statements.flatMap Stmt.contribution)
                ++ ["\x7d"]
          ∧ (linesOf b.render).filterMap mark? = b.fences.toList
          ∧ b.fences.semilength = b.hiddenPoints := by
  constructor
  · intro s flat
    exact ⟨s.oneLine_render flat, s.closed_render.mark?⟩
  · intro b flat
    rw [Block.linesOf_render flat]
    obtain ⟨locals, statements⟩ := b
    have brackets := Stmt.marks_lines (.block ⟨locals, statements⟩) 0
    have pairs := Stmt.semilength_fences (.block ⟨locals, statements⟩)
    exact ⟨Block.lines_zero flat, brackets, pairs⟩

/-- A block with a hidden guard, and a block in it that hides a loop with a text of two lines. -/
def layered : Block :=
  let text : Literal := .text "first\nsecond"
  let guard : Stmt := .conditional (.binary .equal (.localVar "s") (.literal .null))
    (.braced [.ret none]) none
  let scan : Stmt := .loop (.hasValue (.localVar "n"))
    (.block ⟨[⟨"t", .string⟩], [.assign "t" (.literal text), .hidden (.ret none)]⟩)
  let inner : Stmt := .block ⟨[⟨"n", .nullable "int"⟩], [.hidden scan]⟩
  ⟨[⟨"s", .string⟩], [.hidden guard, .hidden inner]⟩

theorem rendered_in_lines_layered :
    layered.FlatNames
      ∧ linesOf layered.render
        = ["\x7b",
            "    string s;",
            "    #line hidden",
            "    if (s == null) \x7b return; \x7d",
            "    #line default",
            "    #line hidden",
            "    \x7b",
            "        int? n;",
            "        #line hidden",
            "        while (hasValue(n)) \x7b t = \"first\\nsecond\"; return; \x7d",
            "        #line default",
            "    \x7d",
            "    #line default",
            "\x7d"]
      ∧ (linesOf layered.render).filterMap mark? = [.U, .D, .U, .U, .D, .D]
      ∧ layered.fences.semilength = 3 := by
  have flat : layered.FlatNames := by
    have s : OneLine "s" := by decide
    have n : OneLine "n" := by decide
    have t : OneLine "t" := by decide
    refine ⟨by decide, ⟨⟨s, trivial⟩, List.forall_mem_nil _, trivial, trivial⟩, ?_, trivial⟩
    exact ⟨by decide, ⟨n, by decide, ⟨t, trivial⟩, trivial, trivial⟩, trivial⟩
  obtain ⟨lines, marks, pairs⟩ := rendered_in_lines.2 layered flat
  refine ⟨flat, ?_, ?_, ?_⟩
  · rw [lines]
    decide +kernel
  · rw [marks]
    decide +kernel
  · rw [pairs]
    rfl

end ArgumentGuards
