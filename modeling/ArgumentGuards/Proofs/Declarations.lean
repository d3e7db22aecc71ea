import ArgumentGuards.Eval.Interpreter
import ArgumentGuards.Proofs.Lines
import Mathlib

/-!
# The declarations that rendered code shows

A block declares variables, and whether its text shows them depends on where the block stands. The
lines of a block show them, and so they do for a block that stands directly in a block or is only
hidden there (`Stmt.Lists`). On one line no block shows what it declares: a branch, the body of a
loop and everything under a sequence point with a span has only its statements between the braces.

Both is said by one function. `Stmt.listed` takes the declarations away that stand on one line, and
the text does not notice (`Stmt.lines_listed`); all that are left have a line of their own. So code
is not determined by its text, even if all names are simple: which of two branches declares a
variable decides what the code does, and the text of both is the same (`declarations_lost`).
-/

namespace ArgumentGuards

namespace Stmt

/-! ## Blocks in a statement -/

/-- A block stands somewhere in a statement. -/
inductive Holds : Stmt → Block → Prop where
  | self (b : Block) : Holds (.block b) b
  | thenBranch {condition : Expr} {s : Stmt} {other : Option Stmt} {b : Block} :
      Holds s b → Holds (.conditional condition s other) b
  | elseBranch {condition : Expr} {s first : Stmt} {b : Block} :
      Holds s b → Holds (.conditional condition first (some s)) b
  | body {condition : Expr} {s : Stmt} {b : Block} : Holds s b → Holds (.loop condition s) b
  | within {outer : Block} {s : Stmt} {b : Block} :
      s ∈ outer.statements → Holds s b → Holds (.block outer) b
  | point {span : Option Span} {s : Stmt} {b : Block} :
      Holds s b → Holds (.sequencePoint span s) b

/-- A block has lines of its own among those of a statement, so many steps further to the right. -/
inductive Lists : Stmt → Nat → Block → Prop where
  | self (b : Block) : Lists (.block b) 0 b
  | within {outer : Block} {s : Stmt} {depth : Nat} {b : Block} :
      s ∈ outer.statements → Lists s depth b → Lists (.block outer) (depth + 1) b
  | hidden {s : Stmt} {depth : Nat} {b : Block} :
      Lists s depth b → Lists (.sequencePoint none s) depth b

/-- **The lines of a block that is listed stand together** among those of the statement. -/
theorem Lists.lines_together {s : Stmt} {depth : Nat} {b : Block} (h : s.Lists depth b) :
    ∀ base, b.lines (base + depth) <:+: s.lines base := by
  induction h with
  | self b =>
      intro base
      exact List.infix_rfl
  | @within outer s depth b there _ ih =>
      intro base
      obtain ⟨locals, statements⟩ := outer
      have inside : b.lines (base + (depth + 1)) <:+: s.lines (base + 1) := by
        have deeper := ih (base + 1)
        rwa [Nat.add_assoc, Nat.add_comm 1 depth] at deeper
      have among : s.lines (base + 1) <:+: statements.flatMap (lines (base + 1)) :=
        List.infix_of_mem_flatten (List.mem_map_of_mem there)
      rw [lines_block]
      exact (inside.trans among).trans ⟨_, _, rfl⟩
  | @hidden s depth b _ ih =>
      intro base
      rw [lines_hidden]
      refine (ih base).trans ⟨[indentation base ++ "#line hidden"],
        [indentation base ++ "#line default"], ?_⟩
      simp

/-! ## Statements without declarations -/

mutual

/-- The statement in which no block declares anything. -/
def undeclared : Stmt → Stmt
  | .expression expr => .expression expr
  | .ret value => .ret value
  | .conditional condition thenBranch none => .conditional condition thenBranch.undeclared none
  | .conditional condition thenBranch (some elseBranch) =>
    .conditional condition thenBranch.undeclared (some elseBranch.undeclared)
  | .throw value => .throw value
  | .assign target value => .assign target value
  | .loop condition body => .loop condition body.undeclared
  | .block ⟨_, statements⟩ => .block ⟨[], undeclaredAll statements⟩
  | .sequencePoint span statement => .sequencePoint span statement.undeclared

/-- Statements in which no block declares anything. -/
def undeclaredAll : List Stmt → List Stmt
  | [] => []
  | s :: rest => s.undeclared :: undeclaredAll rest

end

/-- Blocks stay blocks, so branches keep their braces. -/
theorem isBlock_undeclared : ∀ s : Stmt, s.undeclared.isBlock = s.isBlock
  | .expression _ => rfl
  | .ret _ => rfl
  | .conditional _ _ none => rfl
  | .conditional _ _ (some _) => rfl
  | .throw _ => rfl
  | .assign _ _ => rfl
  | .loop _ _ => rfl
  | .block ⟨_, _⟩ => rfl
  | .sequencePoint _ statement => isBlock_undeclared statement

theorem brace_undeclared (s : Stmt) (text : String) : brace s.undeclared text = brace s text := by
  unfold brace
  rw [isBlock_undeclared]

mutual

/-- **No declaration shows on one line.** -/
theorem render_undeclared : ∀ s : Stmt, s.undeclared.render = s.render
  | .expression _ => rfl
  | .ret _ => rfl
  | .conditional _ thenBranch none => by
      unfold undeclared render
      rw [brace_undeclared, render_undeclared thenBranch]
  | .conditional _ thenBranch (some elseBranch) => by
      unfold undeclared render
      rw [brace_undeclared, brace_undeclared, render_undeclared thenBranch,
        render_undeclared elseBranch]
  | .throw _ => rfl
  | .assign _ _ => rfl
  | .loop _ body => by
      unfold undeclared render
      rw [brace_undeclared, render_undeclared body]
  | .block ⟨_, statements⟩ => by
      unfold undeclared render
      rw [renderAll_undeclaredAll statements]
  | .sequencePoint _ statement => by
      change statement.undeclared.render = statement.render
      exact render_undeclared statement

theorem renderAll_undeclaredAll : ∀ statements : List Stmt,
    renderAll (undeclaredAll statements) = renderAll statements
  | [] => rfl
  | s :: rest => by
      unfold undeclaredAll renderAll
      rw [render_undeclared s, renderAll_undeclaredAll rest]

end

mutual

theorem locals_of_undeclared_holds : ∀ (s : Stmt) {b : Block}, s.undeclared.Holds b → b.locals = []
  | .expression _, _, h => by cases h
  | .ret _, _, h => by cases h
  | .conditional _ thenBranch none, _, h => by
      cases h with
      | thenBranch h => exact locals_of_undeclared_holds thenBranch h
  | .conditional _ thenBranch (some elseBranch), _, h => by
      cases h with
      | thenBranch h => exact locals_of_undeclared_holds thenBranch h
      | elseBranch h => exact locals_of_undeclared_holds elseBranch h
  | .throw _, _, h => by cases h
  | .assign _ _, _, h => by cases h
  | .loop _ body, _, h => by
      cases h with
      | body h => exact locals_of_undeclared_holds body h
  | .block ⟨_, statements⟩, _, h => by
      cases h with
      | self => rfl
      | within there h => exact locals_of_undeclaredAll_holds statements there h
  | .sequencePoint _ statement, _, h => by
      cases h with
      | point h => exact locals_of_undeclared_holds statement h

theorem locals_of_undeclaredAll_holds : ∀ (statements : List Stmt) {s : Stmt} {b : Block},
    s ∈ undeclaredAll statements → s.Holds b → b.locals = []
  | [], _, _, there, _ => by cases there
  | first :: rest, s, b, there, h => by
      rcases List.mem_cons.mp there with rfl | there
      · exact locals_of_undeclared_holds first h
      · exact locals_of_undeclaredAll_holds rest there h

end

/-! ## What is left has a line -/

mutual

/-- The statement in which only those blocks declare anything that have lines of their own. -/
def listed : Stmt → Stmt
  | .sequencePoint none statement => .sequencePoint none statement.listed
  | .block ⟨locals, statements⟩ => .block ⟨locals, listedAll statements⟩
  | s => s.undeclared

/-- Statements in which only those blocks declare anything that have lines of their own. -/
def listedAll : List Stmt → List Stmt
  | [] => []
  | s :: rest => s.listed :: listedAll rest

end

theorem listedAll_eq_map (statements : List Stmt) :
    listedAll statements = statements.map listed := by
  induction statements with
  | nil => rfl
  | cons s rest ih => rw [listedAll, ih, List.map_cons]

theorem listed_single {s : Stmt} (h : s.isSingle = true) : s.listed = s.undeclared := by
  unfold listed
  split
  · cases h
  · cases h
  · rfl

theorem isSingle_undeclared {s : Stmt} (h : s.isSingle = true) : s.undeclared.isSingle = true := by
  cases s with
  | sequencePoint span s =>
      cases span with
      | none => cases h
      | some span => rfl
  | block b => cases h
  | conditional condition thenBranch elseBranch => cases elseBranch <;> rfl
  | _ => rfl

/-- **The lines do not notice that the other declarations are gone.** -/
theorem lines_listed (s : Stmt) : ∀ depth, s.listed.lines depth = s.lines depth := by
  induction s using lineInduction with
  | hidden s ih =>
      intro depth
      rw [listed, lines_hidden, lines_hidden, ih depth]
  | block locals statements ih =>
      intro depth
      have inside : (listedAll statements).flatMap (lines (depth + 1))
          = statements.flatMap (lines (depth + 1)) := by
        rw [listedAll_eq_map, List.flatMap_map]
        exact List.flatMap_congr fun s there => ih s there (depth + 1)
      rw [listed, lines_block, lines_block, inside]
  | single s h =>
      intro depth
      rw [listed_single h, lines_single (isSingle_undeclared h), lines_single h, render_undeclared]

/-- **A block that still declares something is listed.** -/
theorem lists_of_listed_holds (s : Stmt) : ∀ {b : Block}, s.listed.Holds b → b.locals ≠ [] →
    ∃ depth, s.listed.Lists depth b := by
  induction s using lineInduction with
  | hidden s ih =>
      intro b h declares
      rw [listed] at h ⊢
      cases h with
      | point h =>
          obtain ⟨depth, lists⟩ := ih h declares
          exact ⟨depth, .hidden lists⟩
  | block locals statements ih =>
      intro b h declares
      rw [listed] at h ⊢
      cases h with
      | self => exact ⟨0, .self _⟩
      | within there h =>
          -- the statement that the block stands in has lost its own declarations before
          have mapped := there
          rw [listedAll_eq_map] at mapped
          obtain ⟨s, original, rfl⟩ := List.mem_map.mp mapped
          obtain ⟨depth, lists⟩ := ih s original h declares
          exact ⟨depth + 1, .within there lists⟩
  | single s single =>
      intro b h declares
      rw [listed_single single] at h
      exact absurd (locals_of_undeclared_holds s h) declares

end Stmt

/-- The block in which only those blocks declare anything that have lines of their own. -/
def Block.listed (b : Block) : Block := ⟨b.locals, Stmt.listedAll b.statements⟩

/--
**A declaration is shown exactly where its block has lines of its own.**

A block that is listed has its declarations in its lines, right after its brace and before its
statements. The declarations of all other blocks can be taken away, and the text is the same; no
block is left then that declares something and is not listed. On one line no declaration is shown
at all.
-/
theorem declarations_in_lines (outer : Block) :
    (∀ depth inner, (Stmt.block outer).Lists depth inner →
        (Stmt.indentation depth ++ "\x7b")
            :: (inner.locals.map fun l => Stmt.indentation (depth + 1) ++ Stmt.declaration l)
            ++ inner.statements.flatMap (Stmt.lines (depth + 1))
            ++ [Stmt.indentation depth ++ "\x7d"]
          <:+: outer.lines 0)
      ∧ outer.listed.render = outer.render
      ∧ (∀ inner, (Stmt.block outer.listed).Holds inner → inner.locals ≠ [] →
          ∃ depth, (Stmt.block outer.listed).Lists depth inner)
      ∧ ∀ s : Stmt, s.undeclared.render = s.render := by
  obtain ⟨locals, statements⟩ := outer
  refine ⟨?lines, ?text, ?left, Stmt.render_undeclared⟩
  case lines =>
    intro depth inner lists
    have together := lists.lines_together 0
    rw [Nat.zero_add] at together
    obtain ⟨innerLocals, innerStatements⟩ := inner
    rw [Block.lines, Stmt.lines_block] at together
    exact together
  case text =>
    have lines := Stmt.lines_listed (.block ⟨locals, statements⟩) 0
    exact congrArg (String.intercalate "\n") lines
  case left =>
    intro inner holds declares
    exact Stmt.lists_of_listed_holds (.block ⟨locals, statements⟩) holds declares

/-! ## What the text does not tell -/

/-- A body that sets a variable in either branch, with what the two branches declare. -/
def branching (first second : List Local) : Block :=
  let set (locals : List Local) : Stmt := .block ⟨locals, [.assign "x" (.literal (.int 1))]⟩
  ⟨[⟨"x", .int⟩],
    [.conditional (.parameter "b" (.value "bool")) (set first) (some (set second)),
      .ret (some (.localVar "x"))]⟩

/-- A module with a function that has this body. -/
def branchingModule (first second : List Local) : LoweredModule :=
  ⟨{ id := "id", name := "m" },
    [⟨"f", [⟨"b", .value "bool", false, 0⟩], .int, branching first second, 0⟩]⟩

/-- A branch declares a variable of its own, which hides the one that is returned, and the text
shows it neither in the one branch nor in the other. -/
theorem declarations_lost :
    (¬ ∀ outer inner : Block, (Stmt.block outer).Holds inner →
        ∀ l ∈ inner.locals, (Stmt.declaration l).toList <:+: outer.render.toList)
      ∧ (branching [⟨"x", .uint⟩] []).render = (branching [] [⟨"x", .uint⟩]).render
      ∧ Interpreter.invoke ⟨branchingModule [⟨"x", .uint⟩] [], {}⟩ "f" [.bool true]
        = .ok (.returned (.int 0))
      ∧ Interpreter.invoke ⟨branchingModule [] [⟨"x", .uint⟩], {}⟩ "f" [.bool true]
        = .ok (.returned (.int 1)) := by
  refine ⟨?_, by rfl, by cbv, by cbv⟩
  intro shown
  have holds : (Stmt.block (branching [⟨"x", .uint⟩] [])).Holds
      ⟨[⟨"x", .uint⟩], [.assign "x" (.literal (.int 1))]⟩ :=
    .within List.mem_cons_self (.thenBranch (.self _))
  have declared := shown _ _ holds ⟨"x", .uint⟩ List.mem_cons_self
  revert declared
  decide +kernel

end ArgumentGuards
