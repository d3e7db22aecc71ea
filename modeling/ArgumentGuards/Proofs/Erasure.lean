import ArgumentGuards.Proofs.LoweredTwice
import ArgumentGuards.Tree.Render
import Mathlib

/-!
# Programs without their sequence points

A sequence point tells a debugger where it may stop, and it is a statement that wraps another one.
Erasing all of them, in every function and every member of a module, gives a smaller module that
does the same: what a sequence point adds to a run is one step, and to a text on one line it adds
nothing.

A run of the erased module is therefore never behind in steps. It goes in lockstep with the run of
the module itself, which is excused only when it is out of steps (`Stmt.exec_erased_simulates`):
both come to the same statement, the one through any number of wrappers.
-/

namespace ArgumentGuards

/-! ## Erasure -/

namespace Stmt

mutual

/-- The statement with every sequence point in it replaced by the statement that it wraps. -/
def erased : Stmt → Stmt
  | .expression expr => .expression expr
  | .ret value => .ret value
  | .conditional condition thenBranch none => .conditional condition thenBranch.erased none
  | .conditional condition thenBranch (some elseBranch) =>
    .conditional condition thenBranch.erased (some elseBranch.erased)
  | .throw value => .throw value
  | .assign target value => .assign target value
  | .loop condition body => .loop condition body.erased
  | .block ⟨locals, statements⟩ => .block ⟨locals, erasedAll statements⟩
  | .sequencePoint _ statement => statement.erased

/-- Statements, each without sequence points. -/
def erasedAll : List Stmt → List Stmt
  | [] => []
  | s :: rest => s.erased :: erasedAll rest

end

mutual

/-- The number of sequence points in a statement, at any depth. -/
def points : Stmt → Nat
  | .conditional _ thenBranch none => thenBranch.points
  | .conditional _ thenBranch (some elseBranch) => thenBranch.points + elseBranch.points
  | .loop _ body => body.points
  | .block ⟨_, statements⟩ => pointsAll statements
  | .sequencePoint _ statement => statement.points + 1
  | .expression _ => 0
  | .ret _ => 0
  | .throw _ => 0
  | .assign _ _ => 0

/-- The number of sequence points in some statements. -/
def pointsAll : List Stmt → Nat
  | [] => 0
  | s :: rest => s.points + pointsAll rest

end

end Stmt

/-- The block without sequence points. -/
def Block.erased (b : Block) : Block := ⟨b.locals, Stmt.erasedAll b.statements⟩

/-- The function without sequence points in its body. -/
def LoweredFunction.erased (f : LoweredFunction) : LoweredFunction :=
  { f with body := f.body.erased }

/-- The member without sequence points in its body. -/
def Member.erased (member : Member) : Member := { member with body := member.body.erased }

/-- The module without sequence points, be it in its functions or in its members. -/
def LoweredModule.erased (lowered : LoweredModule) : LoweredModule where
  module := { lowered.module with members := ⟨lowered.module.members.entries.map Member.erased⟩ }
  functions := lowered.functions.map LoweredFunction.erased

namespace Stmt

/-! ## What is left -/

mutual

/-- **An erased statement has no sequence point left.** -/
theorem points_erased : ∀ s : Stmt, s.erased.points = 0
  | .expression _ => rfl
  | .ret _ => rfl
  | .conditional _ thenBranch none => by
      unfold erased points
      exact points_erased thenBranch
  | .conditional _ thenBranch (some elseBranch) => by
      unfold erased points
      rw [points_erased thenBranch, points_erased elseBranch]
  | .throw _ => rfl
  | .assign _ _ => rfl
  | .loop _ body => by
      unfold erased points
      exact points_erased body
  | .block ⟨_, statements⟩ => by
      unfold erased points
      exact pointsAll_erasedAll statements
  | .sequencePoint _ statement => by
      unfold erased
      exact points_erased statement

theorem pointsAll_erasedAll : ∀ statements : List Stmt, pointsAll (erasedAll statements) = 0
  | [] => rfl
  | s :: rest => by
      unfold erasedAll pointsAll
      rw [points_erased s, pointsAll_erasedAll rest]

end

/-! ## Texts -/

theorem isBlock_sequencePoint (span : Option Span) (statement : Stmt) :
    (sequencePoint span statement).isBlock = statement.isBlock := by
  unfold isBlock
  rw [inner]

/-- Erasing keeps blocks blocks, so branches keep their braces. -/
theorem isBlock_erased : ∀ s : Stmt, s.erased.isBlock = s.isBlock
  | .expression _ => rfl
  | .ret _ => rfl
  | .conditional _ _ none => rfl
  | .conditional _ _ (some _) => rfl
  | .throw _ => rfl
  | .assign _ _ => rfl
  | .loop _ _ => rfl
  | .block ⟨_, _⟩ => rfl
  | .sequencePoint span statement => by
      rw [isBlock_sequencePoint, erased]
      exact isBlock_erased statement

theorem brace_erased (s : Stmt) (text : String) : brace s.erased text = brace s text := by
  unfold brace
  rw [isBlock_erased]

mutual

/-- **A statement and its erasure have the same text on one line.** -/
theorem render_erased : ∀ s : Stmt, s.erased.render = s.render
  | .expression _ => rfl
  | .ret _ => rfl
  | .conditional _ thenBranch none => by
      unfold erased render
      rw [brace_erased, render_erased thenBranch]
  | .conditional _ thenBranch (some elseBranch) => by
      unfold erased render
      rw [brace_erased, brace_erased, render_erased thenBranch, render_erased elseBranch]
  | .throw _ => rfl
  | .assign _ _ => rfl
  | .loop _ body => by
      unfold erased render
      rw [brace_erased, render_erased body]
  | .block ⟨_, statements⟩ => by
      unfold erased render
      rw [renderAll_erasedAll statements]
  | .sequencePoint _ statement => by
      change statement.erased.render = statement.render
      exact render_erased statement

theorem renderAll_erasedAll : ∀ statements : List Stmt,
    renderAll (erasedAll statements) = renderAll statements
  | [] => rfl
  | s :: rest => by
      unfold erasedAll renderAll
      rw [render_erased s, renderAll_erasedAll rest]

end

end Stmt

/-! ## Runs -/

section

variable {limits : Limits} {depth : Nat} {call call' : Caller}

/-- The run that is ahead in steps may stay where it is while the other one takes a step. -/
theorem takeStep_then_simulates {α : Type} {run other : Stepped α}
    (h : Simulates (Machine.Beside (fun m n => n ≤ m) depth) Interrupt.OutOfSteps run other) :
    Simulates (Machine.Beside (fun m n => n ≤ m) depth) Interrupt.OutOfSteps
      (takeStep limits >>= fun _ => run) other := by
  intro m n ⟨meters, frames⟩
  cases stepped : takeStep limits m with
  | ok done m' =>
      have after : m' = { m with meter.steps := m.meter.steps + 1 } := by
        dsimp only [takeStep] at stepped
        split at stepped
        · cases stepped
        · cases stepped
          rfl
      subst after
      rw [bind_of_ok stepped]
      exact h _ n ⟨⟨meters.left, meters.right, Nat.le_succ_of_le meters.steps⟩, frames⟩
  | error interrupt m' =>
      have out : interrupt.OutOfSteps := by
        dsimp only [takeStep] at stepped
        split at stepped
        · cases stepped
          trivial
        · cases stepped
      rw [bind_of_error stepped]
      exact .excuse out

namespace Stmt

mutual

/-- **A statement simulates its erasure**, never with fewer steps, if calls do. -/
theorem exec_erased_simulates
    (calls : call.Simulates (fun m n => n ≤ m) depth Interrupt.OutOfSteps call') : ∀ s : Stmt,
    Simulates (Machine.Beside (fun m n => n ≤ m) depth) Interrupt.OutOfSteps (s.exec limits call)
      (s.erased.exec limits call')
  | .expression expr => (expression expr).exec_simulates (Paced.slower limits) calls
  | .ret value => (ret value).exec_simulates (Paced.slower limits) calls
  | .conditional condition thenBranch none => by
      unfold erased exec
      exact (takeStep_simulates (Paced.slower limits)).bind fun _ =>
        (test_simulates calls condition).bind fun holds =>
          .ite holds (exec_erased_simulates calls thenBranch) (.pure _)
  | .conditional condition thenBranch (some elseBranch) => by
      unfold erased exec
      exact (takeStep_simulates (Paced.slower limits)).bind fun _ =>
        (test_simulates calls condition).bind fun holds =>
          .ite holds (exec_erased_simulates calls thenBranch)
            (exec_erased_simulates calls elseBranch)
  | .throw expr => (throw expr).exec_simulates (Paced.slower limits) calls
  | .assign target expr => (assign target expr).exec_simulates (Paced.slower limits) calls
  | .loop condition body => by
      unfold erased exec
      exact (takeStep_simulates (Paced.slower limits)).bind fun _ =>
        rounds_simulate (Paced.slower limits) (test_simulates calls condition)
          (exec_erased_simulates calls body)
  | .block ⟨locals, statements⟩ => by
      unfold erased exec
      exact (takeStep_simulates (Paced.slower limits)).bind fun _ =>
        withLocals_simulates locals (execAll_erasedAll_simulates calls statements)
  | .sequencePoint span statement => by
      unfold erased
      rw [exec]
      exact takeStep_then_simulates (exec_erased_simulates calls statement)

theorem execAll_erasedAll_simulates
    (calls : call.Simulates (fun m n => n ≤ m) depth Interrupt.OutOfSteps call') :
    ∀ statements : List Stmt,
    Simulates (Machine.Beside (fun m n => n ≤ m) depth) Interrupt.OutOfSteps
      (execAll limits call statements) (execAll limits call' (erasedAll statements))
  | [] => .pure _
  | s :: rest => by
      unfold erasedAll execAll
      refine (exec_erased_simulates calls s).bind fun completion => ?_
      cases completion with
      | normal => exact execAll_erasedAll_simulates calls rest
      | returned value => exact .pure _

end

end Stmt

theorem Block.exec_erased_simulates
    (calls : call.Simulates (fun m n => n ≤ m) depth Interrupt.OutOfSteps call') (b : Block) :
    Simulates (Machine.Beside (fun m n => n ≤ m) depth) Interrupt.OutOfSteps (b.exec limits call)
      (b.erased.exec limits call') :=
  withLocals_simulates b.locals (Stmt.execAll_erasedAll_simulates calls b.statements)

end

/-! ## Calls in an erased module -/

/-- The callee without sequence points in its body. -/
def Callee.erased (callee : Callee) : Callee := { callee with body := callee.body.erased }

/-- The interpreter of the erased module. -/
def Interpreter.erased (i : Interpreter) : Interpreter := { i with lowered := i.lowered.erased }

namespace Interpreter

variable (i : Interpreter)

theorem function?_erased (name : String) :
    i.erased.function? name = (i.function? name).map Callee.erased := by
  unfold function? erased LoweredModule.erased
  rw [← List.map_reverse, List.find?_map, Option.map_map, Option.map_map]
  rfl

theorem member?_erased (name : String) :
    i.erased.member? name = (i.member? name).map Callee.erased := by
  unfold member? Members.get? erased LoweredModule.erased
  rw [List.find?_map, Option.map_map, Option.map_map]
  rfl

theorem resolve_erased (method : Method) :
    i.erased.resolve method = (i.resolve method).map Callee.erased := by
  unfold resolve
  rw [function?_erased, member?_erased]
  cases method.kind with
  | synthesized => cases i.member? method.name <;> rfl
  | ordinary => cases i.function? method.name <;> rfl
  | constructor => rfl

/-- **Calls simulate the calls of the erased module**, at every depth. -/
theorem callWithin_erased_simulates (levels : Nat) {depth : Nat} (callee : Callee)
    (args : List Value) :
    Simulates (Meter.Beside (fun m n => n ≤ m) depth) Interrupt.OutOfSteps
      (i.callWithin levels callee args) (i.erased.callWithin levels callee.erased args) := by
  induction levels generalizing depth callee args with
  | zero => exact enter_simulates (.throw _) (.inl rfl)
  | succ levels ih =>
      have calls : (i.caller levels).Simulates (fun m n => n ≤ m) (depth + 1)
          Interrupt.OutOfSteps (i.erased.caller levels) := by
        intro method args
        dsimp only [caller]
        rw [resolve_erased]
        cases i.resolve method with
        | ok callee => exact ih callee args
        | error error => exact .throw _
      rw [callWithin_succ, callWithin_succ, runBody_eq, runBody_eq]
      exact enter_simulates (oneLevelDown_simulates (callee.body.exec_erased_simulates calls))
        (.inl rfl)

theorem run_erased_accords (name : String) (args : List Value) :
    Accords (Meter.Beside (fun m n => n ≤ m) 0) Interrupt.OutOfSteps (i.run name args)
      (i.erased.run name args) := by
  have start : Meter.zero.Beside (fun m n => n ≤ m) 0 .zero := ⟨rfl, rfl, Nat.le_refl _⟩
  unfold run
  rw [function?_erased]
  cases i.function? name with
  | none => exact .error start
  | some callee => exact i.callWithin_erased_simulates i.limits.depth callee args .zero .zero start

end Interpreter

/--
**Sequence points have no influence on a result.**

Whatever is invoked in a module within whatever limits, the value, the exception or the fault is the
one of the module without sequence points, unless the steps do not suffice. And the text of a
statement on one line is that of the statement without them.
-/
theorem invoke_erased :
    (∀ (lowered : LoweredModule) (limits : Limits) (name : String) (args : List Value),
        (∀ limit, Interpreter.invoke ⟨lowered, limits⟩ name args ≠ .error (.stepLimit limit)) →
          Interpreter.invoke ⟨lowered.erased, limits⟩ name args
            = Interpreter.invoke ⟨lowered, limits⟩ name args)
      ∧ ∀ s : Stmt, s.erased.points = 0 ∧ s.erased.render = s.render := by
  refine ⟨fun lowered limits name args enough => ?_, fun s => ⟨s.points_erased, s.render_erased⟩⟩
  have ends := Interpreter.run_erased_accords ⟨lowered, limits⟩ name args
  exact (invoke_eq_of_accords ends enough).symm

/-- A function that counts the code units of its argument, which it checks: its loop, the body of
the loop and a statement in that are wrapped, and so is the guard. -/
def countingUnits : SourceModule :=
  let s : Parameter := ⟨"s", .string, true, 0⟩
  let i : Expr := .localVar "i"
  let here : Span := .point ⟨"units.src", 2, 5⟩
  let next : Stmt := .sequencePoint (some here) (.assign "i" (.binary .add i (.literal (.int 1))))
  let scan : Stmt := .loop (.binary .lessThan i (.length (.ofParameter s)))
    (.sequencePoint none (.sequencePoint (some here) (.braced [next])))
  ⟨"units", none, [⟨"count", [s], .int,
    ⟨[⟨"i", .int⟩], [.sequencePoint (some here) scan, .ret (some i)]⟩⟩]⟩

/-- The same after lowering. -/
def countingUnitsLowered : LoweredModule :=
  ⟨⟨"id", "units", Members.empty.withHelper⟩,
    countingUnits.functions.map (SourceFunction.guarded throwHelper.symbol)⟩

/-- Fifteen steps come down to seven, and what is counted stays. -/
theorem invoke_erased_countingUnits :
    countingUnits.lower "id" {} = .ok countingUnitsLowered
      ∧ Interpreter.run ⟨countingUnitsLowered, {}⟩ "count" [.text "ab"] = .ok (.int 2) ⟨15, 0⟩
      ∧ Interpreter.run ⟨countingUnitsLowered.erased, {}⟩ "count" [.text "ab"]
        = .ok (.int 2) ⟨7, 0⟩
      ∧ Interpreter.invoke ⟨countingUnitsLowered.erased, {}⟩ "count" [.text "ab"]
        = Interpreter.invoke ⟨countingUnitsLowered, {}⟩ "count" [.text "ab"] := by
  have ends : Interpreter.invoke ⟨countingUnitsLowered, {}⟩ "count" [.text "ab"]
      = .ok (.returned (.int 2)) := by cbv
  refine ⟨rfl, by cbv, by cbv, invoke_erased.1 countingUnitsLowered {} "count" [.text "ab"] ?_⟩
  rw [ends]
  intro limit limited
  cases limited

end ArgumentGuards
