import ArgumentGuards.Proofs.Throughout
import Mathlib

/-!
# Evaluation one transition at a time

Evaluation is defined by recursion on the syntax. To make that a definition, loops get as many rounds
as there are steps left and calls as many levels as the limit leaves. Here is evaluation without any
recursion and without these two bounds: a configuration says what is to be done next and, in a stack,
what is pending until that is done, and every transition is one small move. A loop goes round as
often as its test holds, a call is entered unless the counter of calls is at its limit, and whether
this ever comes to an end is left open.

What holds at every point of a run is therefore said of configurations. Each of them is **sound**: the
counter of calls is the number of calls that are pending, which the limit bounds, and the counter of
steps is within its limit, or one beyond it if that is why the run is being interrupted
(`sound_next`).
-/

namespace ArgumentGuards

/-! ## Configurations -/

/-- What is done with the value of an operand. -/
inductive Operation where
  | unary (op : UnaryOp)
  | binary (op : BinaryOp) (left : Value)
  | hasValue
  | length
  | charAt (target : Value)

/-- The result of an operation on the operand that was evaluated last. -/
def Operation.apply : Operation → Value → Except Interrupt Value
  | .unary op, value => op.apply value
  | .binary op left, value => op.apply left value
  | .hasValue, value => value.holdsValue
  | .length, value => value.textLength
  | .charAt target, value => target.codeUnit value

/-- What values are passed to. -/
inductive Target where
  | method (method : Method)
  | constructor (constructor : Method)

/-- What waits for a value or for the end of a statement. -/
inductive Pending where
  /-- An operation on the value. -/
  | apply (op : Operation)
  /-- The second operand, and then an operation that the value is part of. -/
  | second (op : Value → Operation) (operand : Expr)
  /-- The arguments after the value. -/
  | pass (target : Target) (done : List Value) (rest : List Expr)
  /-- A statement that has no use for the value. -/
  | discard
  /-- A statement that returns the value. -/
  | giveBack
  /-- A statement that throws the value. -/
  | throw
  | assign (target : String)
  | branch (thenBranch : Stmt) (elseBranch : Option Stmt)
  /-- A loop that waits for its test. -/
  | round (condition : Expr) (body : Stmt)
  /-- A loop that waits for its body. -/
  | loop (condition : Expr) (body : Stmt)
  /-- The statements after one that is being executed. -/
  | rest (statements : List Stmt)
  /-- A block that is left with its variables. -/
  | leave (declared : List Local)
  /-- A call, with the frame of its caller and the number of calls that were open before it. -/
  | call (frame : Frame) (depth : Nat)

/-- What is to be done next. -/
inductive Control where
  | eval (e : Expr)
  /-- Pass the values that are there and those of some expressions. -/
  | pass (target : Target) (done : List Value) (rest : List Expr)
  | enter (callee : Callee) (args : List Value)
  | exec (s : Stmt)
  | execAll (statements : List Stmt)
  | loop (condition : Expr) (body : Stmt)
  /-- Execute the body of a loop and go round again. -/
  | goRound (condition : Expr) (body : Stmt)
  /-- An expression has been evaluated. -/
  | value (value : Value)
  /-- A statement has come to its end. -/
  | completed (completion : Completion)
  /-- The run is interrupted. -/
  | interrupted (interrupt : Interrupt)

/-- The point that a run has reached. -/
structure Config where
  control : Control
  machine : Machine
  stack : List Pending

/-! ## Transitions -/

/-- What is done after an operation: an interrupt is passed on. -/
def Control.after {α : Type} (next : α → Control) : Except Interrupt α → Control
  | .ok a => next a
  | .error interrupt => .interrupted interrupt

/-- The value of a name, or the fault of a name that is not bound. -/
def Control.fetch (bindings : Bindings) (name : String) : Control :=
  match bindings.lookup name with
  | some found => .value found
  | none => .interrupted (.fault (.unknownVariable name))

/-- The machine after what is pending has been given up: a block is left and so is a call. -/
def Pending.giveUp : Pending → Machine → Machine
  | .leave declared, machine => { machine with frame := machine.frame.leaveBlock declared }
  | .call frame depth, machine => ⟨{ machine.meter with depth }, frame⟩
  | _, machine => machine

/-- Begins the evaluation of an expression. -/
def Expr.begin (machine : Machine) (stack : List Pending) : Expr → Config
  | .literal value => ⟨.value (.ofLiteral value), machine, stack⟩
  | .parameter name _ => ⟨.fetch machine.frame.parameters name, machine, stack⟩
  | .localVar name => ⟨.fetch machine.frame.locals name, machine, stack⟩
  | .unary op operand => ⟨.eval operand, machine, .apply (.unary op) :: stack⟩
  | .binary op left right => ⟨.eval left, machine, .second (.binary op) right :: stack⟩
  | .hasValue operand => ⟨.eval operand, machine, .apply .hasValue :: stack⟩
  | .call method args => ⟨.pass (.method method) [] args, machine, stack⟩
  | .construct constructor args => ⟨.pass (.constructor constructor) [] args, machine, stack⟩
  | .length operand => ⟨.eval operand, machine, .apply .length :: stack⟩
  | .charAt operand index => ⟨.eval operand, machine, .second .charAt index :: stack⟩

/-- Begins a block: its variables are there until it is left. -/
def Block.begin (machine : Machine) (stack : List Pending) (b : Block) : Config :=
  ⟨.execAll b.statements, { machine with frame := machine.frame.enterBlock b.locals },
    .leave b.locals :: stack⟩

/-- Begins a statement whose step has been taken. -/
def Stmt.begin (machine : Machine) (stack : List Pending) : Stmt → Config
  | .expression expr => ⟨.eval expr, machine, .discard :: stack⟩
  | .ret none => ⟨.completed (.returned .null), machine, stack⟩
  | .ret (some expr) => ⟨.eval expr, machine, .giveBack :: stack⟩
  | .conditional condition thenBranch elseBranch =>
    ⟨.eval condition, machine, .branch thenBranch elseBranch :: stack⟩
  | .throw expr => ⟨.eval expr, machine, .throw :: stack⟩
  | .assign target expr => ⟨.eval expr, machine, .assign target :: stack⟩
  | .loop condition body => ⟨.loop condition body, machine, stack⟩
  | .block b => b.begin machine stack
  | .sequencePoint _ statement => ⟨.exec statement, machine, stack⟩

/-- Goes on with a value. Some things do not wait for values. -/
def Pending.resume (value : Value) (machine : Machine) (stack : List Pending) :
    Pending → Option Config
  | .apply op => some ⟨.after .value (op.apply value), machine, stack⟩
  | .second op operand => some ⟨.eval operand, machine, .apply (op value) :: stack⟩
  | .pass target done more => some ⟨.pass target (done ++ [value]) more, machine, stack⟩
  | .discard => some ⟨.completed .normal, machine, stack⟩
  | .giveBack => some ⟨.completed (.returned value), machine, stack⟩
  | .throw => some ⟨.interrupted (.thrown value), machine, stack⟩
  | .assign target =>
    match machine.frame.assign? target value with
    | some frame => some ⟨.completed .normal, { machine with frame }, stack⟩
    | none => some ⟨.interrupted (.fault (.unknownVariable target)), machine, stack⟩
  | .branch thenBranch elseBranch =>
    let choose (holds : Bool) : Control :=
      match holds, elseBranch with
      | true, _ => .exec thenBranch
      | false, some elseBranch => .exec elseBranch
      | false, none => .completed .normal
    some ⟨.after choose value.truth, machine, stack⟩
  | .round condition body =>
    let choose (holds : Bool) : Control :=
      if holds then .goRound condition body else .completed .normal
    some ⟨.after choose value.truth, machine, stack⟩
  | _ => none

/-- Goes on after a statement. Some things do not wait for statements. -/
def Pending.proceed (completion : Completion) (machine : Machine) (stack : List Pending) :
    Pending → Option Config
  | .loop condition body =>
    match completion with
    | .normal => some ⟨.loop condition body, machine, stack⟩
    | .returned value => some ⟨.completed (.returned value), machine, stack⟩
  | .rest statements =>
    match completion with
    | .normal => some ⟨.execAll statements, machine, stack⟩
    | .returned value => some ⟨.completed (.returned value), machine, stack⟩
  | .leave declared =>
    some ⟨.completed completion, (Pending.leave declared).giveUp machine, stack⟩
  | .call frame depth =>
    some ⟨.value completion.result, (Pending.call frame depth).giveUp machine, stack⟩
  | _ => none

namespace Interpreter

/-- Enters a call, if the arguments are as many as the parameters and the counter of calls is not at
its limit. -/
def enterCall (limits : Limits) (callee : Callee) (args : List Value) (machine : Machine)
    (stack : List Pending) : Config :=
  let depth := machine.meter.depth
  if callee.parameters.length ≠ args.length then
    ⟨.interrupted (.fault (.arity callee.name callee.parameters.length args.length)), machine, stack⟩
  else if limits.depth ≤ depth then
    ⟨.interrupted (.fault (.callDepth limits.depth callee.name)), machine, stack⟩
  else
    callee.body.begin
      ⟨{ machine.meter with depth := depth + 1 }, Frame.ofArguments callee.parameters args⟩
      (.call machine.frame depth :: stack)

/-- Takes the step of a statement and begins it, unless the step is one too many. -/
def beginStmt (limits : Limits) (s : Stmt) (machine : Machine) (stack : List Pending) : Config :=
  let machine := { machine with meter.steps := machine.meter.steps + 1 }
  if limits.steps < machine.meter.steps then
    ⟨.interrupted (.fault (.stepLimit limits.steps)), machine, stack⟩
  else s.begin machine stack

/-- One transition; there is none when nothing is pending any more. -/
def next (i : Interpreter) : Config → Option Config
  | ⟨.eval e, machine, stack⟩ => some (e.begin machine stack)
  | ⟨.pass target done (e :: rest), machine, stack⟩ =>
    some ⟨.eval e, machine, .pass target done rest :: stack⟩
  | ⟨.pass (.constructor constructor) done [], machine, stack⟩ =>
    some ⟨.value (.object constructor.container done), machine, stack⟩
  | ⟨.pass (.method method) done [], machine, stack⟩ =>
    match i.resolve method with
    | .ok callee => some ⟨.enter callee done, machine, stack⟩
    | .error error => some ⟨.interrupted (.fault error), machine, stack⟩
  | ⟨.enter callee args, machine, stack⟩ => some (enterCall i.limits callee args machine stack)
  | ⟨.exec s, machine, stack⟩ => some (beginStmt i.limits s machine stack)
  | ⟨.execAll [], machine, stack⟩ => some ⟨.completed .normal, machine, stack⟩
  | ⟨.execAll (s :: rest), machine, stack⟩ => some ⟨.exec s, machine, .rest rest :: stack⟩
  | ⟨.loop condition body, machine, stack⟩ =>
    some ⟨.eval condition, machine, .round condition body :: stack⟩
  | ⟨.goRound condition body, machine, stack⟩ =>
    some ⟨.exec body, machine, .loop condition body :: stack⟩
  | ⟨.value value, machine, pending :: stack⟩ => pending.resume value machine stack
  | ⟨.completed completion, machine, pending :: stack⟩ => pending.proceed completion machine stack
  | ⟨.interrupted interrupt, machine, pending :: stack⟩ =>
    some ⟨.interrupted interrupt, pending.giveUp machine, stack⟩
  | ⟨_, _, []⟩ => none

/-- Transitions lead from one configuration to another one. -/
def Reaches (i : Interpreter) : Config → Config → Prop :=
  Relation.ReflTransGen fun c d => i.next c = some d

/-- Where an invocation starts. -/
def start (i : Interpreter) (name : String) (args : List Value) : Config :=
  let control : Control :=
    match i.function? name with
    | some callee => .enter callee args
    | none => .interrupted (.fault (.unknownFunction name))
  ⟨control, ⟨.zero, ⟨[], []⟩⟩, []⟩

end Interpreter

/-- How a run ended whose last configuration this is. -/
def Config.result? : Config → Option (EStateM.Result Interrupt Meter Value)
  | ⟨.value value, machine, []⟩ => some (.ok value machine.meter)
  | ⟨.interrupted interrupt, machine, []⟩ => some (.error interrupt machine.meter)
  | _ => none

/-! ## Sound configurations -/

/-- The number of calls that are pending. -/
def openCalls : List Pending → Nat
  | [] => 0
  | .call _ _ :: stack => openCalls stack + 1
  | _ :: stack => openCalls stack

/-- Every call that is pending knows how many calls were open before it. -/
def Remembers : List Pending → Prop
  | [] => True
  | .call _ depth :: stack => depth = openCalls stack ∧ Remembers stack
  | _ :: stack => Remembers stack

/-- Whether the run goes on, or is interrupted for another reason than steps. -/
def Control.Calm : Control → Prop
  | .interrupted interrupt => ¬ interrupt.OutOfSteps
  | _ => True

/-- What holds at every point of a run. -/
structure Config.Sound (limits : Limits) (c : Config) : Prop where
  /-- The counter of calls is the number of calls that are pending. -/
  depth : c.machine.meter.depth = openCalls c.stack
  /-- Leaving a call makes the counter what it was before. -/
  remembers : Remembers c.stack
  /-- No more calls are pending than the limit allows. -/
  nested : c.machine.meter.depth ≤ limits.depth
  /-- Steps are within their limit as long as the run goes on. -/
  calm : c.control.Calm → c.machine.meter.steps ≤ limits.steps
  /-- A run that is out of steps has taken the one beyond the limit. -/
  beyond : ¬ c.control.Calm → c.machine.meter.steps = limits.steps + 1
  /-- The fault of a run that is out of steps names the limit. -/
  names : ∀ limit, c.control = .interrupted (.fault (.stepLimit limit)) → limit = limits.steps

namespace Config.Sound

variable {limits : Limits}

theorem steps_le {c : Config} (h : c.Sound limits) :
    c.machine.meter.steps ≤ limits.steps + 1 := by
  by_cases calm : c.control.Calm
  · exact Nat.le_succ_of_le (h.calm calm)
  · exact Nat.le_of_eq (h.beyond calm)

/-- A move that leaves the counters and the pending calls as they are. -/
theorem move {control control' : Control} {machine machine' : Machine} {stack stack' : List Pending}
    (h : Sound limits ⟨control, machine, stack⟩) (calm : control.Calm) (calm' : control'.Calm)
    (meter : machine'.meter = machine.meter) (opened : openCalls stack' = openCalls stack)
    (remembers : Remembers stack → Remembers stack') :
    Sound limits ⟨control', machine', stack'⟩ where
  depth := by
    have depth := h.depth
    dsimp only at depth ⊢
    rw [meter, opened, depth]
  remembers := remembers h.remembers
  nested := by
    dsimp only
    rw [meter]
    exact h.nested
  calm _ := by
    dsimp only
    rw [meter]
    exact h.calm calm
  beyond out := absurd calm' out
  names := by
    rintro limit rfl
    exact absurd trivial calm'

end Config.Sound

/-! ### Operations are never out of steps -/

theorem Operation.apply_ofOperation {op : Operation} {value : Value} {interrupt : Interrupt}
    (h : op.apply value = .error interrupt) : interrupt.OfOperation := by
  cases op with
  | unary op => exact UnaryOp.apply_ofOperation h
  | binary op left => exact BinaryOp.apply_ofOperation h
  | hasValue => exact Value.holdsValue_ofOperation h
  | length => exact Value.textLength_ofOperation h
  | charAt target => exact Value.codeUnit_ofOperation h

theorem Interpreter.resolve_calm {i : Interpreter} {method : Method} {error : EvalError}
    (h : i.resolve method = .error error) : ¬ (Interrupt.fault error).OutOfSteps := by
  unfold Interpreter.resolve at h
  split at h
  · split at h
    · cases h
    · cases h
      exact id
  · split at h
    · cases h
    · cases h
      exact id
  · cases h
    exact id

theorem Control.after_calm {α : Type} {next : α → Control} {outcome : Except Interrupt α}
    (ok : ∀ a, (next a).Calm)
    (error : ∀ interrupt, outcome = .error interrupt → interrupt.OfOperation) :
    (Control.after next outcome).Calm := by
  cases outcome with
  | ok a => exact ok a
  | error interrupt => exact (error interrupt rfl).not_outOfSteps

theorem Control.fetch_calm (bindings : Bindings) (name : String) :
    (Control.fetch bindings name).Calm := by
  unfold Control.fetch
  cases bindings.lookup name with
  | some found => trivial
  | none => exact id

/-! ### Transitions keep configurations sound -/

section

variable {limits : Limits} {machine : Machine} {stack : List Pending}

theorem sound_exprBegin {e : Expr} (h : Config.Sound limits ⟨.eval e, machine, stack⟩) :
    (e.begin machine stack).Sound limits := by
  cases e with
  | literal value => exact h.move trivial trivial rfl rfl id
  | parameter name type => exact h.move trivial (Control.fetch_calm _ name) rfl rfl id
  | localVar name => exact h.move trivial (Control.fetch_calm _ name) rfl rfl id
  | unary op operand => exact h.move trivial trivial rfl rfl id
  | binary op left right => exact h.move trivial trivial rfl rfl id
  | hasValue operand => exact h.move trivial trivial rfl rfl id
  | call method args => exact h.move trivial trivial rfl rfl id
  | construct constructor args => exact h.move trivial trivial rfl rfl id
  | length operand => exact h.move trivial trivial rfl rfl id
  | charAt operand index => exact h.move trivial trivial rfl rfl id

theorem sound_stmtBegin {s : Stmt} (h : Config.Sound limits ⟨.exec s, machine, stack⟩) :
    (s.begin machine stack).Sound limits := by
  cases s with
  | expression expr => exact h.move trivial trivial rfl rfl id
  | ret value => cases value <;> exact h.move trivial trivial rfl rfl id
  | conditional condition thenBranch elseBranch => exact h.move trivial trivial rfl rfl id
  | throw expr => exact h.move trivial trivial rfl rfl id
  | assign target expr => exact h.move trivial trivial rfl rfl id
  | loop condition body => exact h.move trivial trivial rfl rfl id
  | block b => exact h.move trivial trivial rfl rfl id
  | sequencePoint span statement => exact h.move trivial trivial rfl rfl id

/-- The one transition that counts a step. -/
theorem sound_beginStmt {s : Stmt} (h : Config.Sound limits ⟨.exec s, machine, stack⟩) :
    (Interpreter.beginStmt limits s machine stack).Sound limits := by
  have within : machine.meter.steps ≤ limits.steps := h.calm trivial
  unfold Interpreter.beginStmt
  dsimp only
  split
  · rename_i more
    have last : machine.meter.steps + 1 = limits.steps + 1 := by omega
    refine ⟨h.depth, h.remembers, h.nested, fun calm => absurd trivial calm, fun _ => last, ?_⟩
    rintro limit ⟨⟩
    rfl
  · rename_i enough
    have counted : Config.Sound limits
        ⟨.exec s, { machine with meter.steps := machine.meter.steps + 1 }, stack⟩ :=
      ⟨h.depth, h.remembers, h.nested, fun _ => Nat.le_of_not_lt enough,
        fun out => absurd trivial out, fun _ => Control.noConfusion⟩
    exact sound_stmtBegin counted

/-- The one transition that counts a call. -/
theorem sound_enterCall {callee : Callee} {args : List Value}
    (h : Config.Sound limits ⟨.enter callee args, machine, stack⟩) :
    (Interpreter.enterCall limits callee args machine stack).Sound limits := by
  have depth : machine.meter.depth = openCalls stack := h.depth
  unfold Interpreter.enterCall
  dsimp only
  split
  · exact h.move trivial id rfl rfl id
  · split
    · exact h.move trivial id rfl rfl id
    · rename_i free
      have nested : machine.meter.depth + 1 ≤ limits.depth := by omega
      exact ⟨congrArg (· + 1) depth, ⟨depth, h.remembers⟩, nested, fun _ => h.calm trivial,
        fun out => absurd trivial out, fun _ => Control.noConfusion⟩

/-- What is pending is given up with the counter of calls as it was before. -/
theorem sound_giveUp {control control' : Control} {pending : Pending}
    (h : Config.Sound limits ⟨control, machine, pending :: stack⟩)
    (same : control'.Calm ↔ control.Calm)
    (fault : ∀ limit, control' = .interrupted (.fault (.stepLimit limit)) → control = control') :
    Config.Sound limits ⟨control', pending.giveUp machine, stack⟩ := by
  have depth := h.depth
  have nested := h.nested
  have remembers := h.remembers
  dsimp only at depth nested
  cases pending with
  | call frame before =>
      obtain ⟨rfl, remembers⟩ := remembers
      have below : openCalls stack ≤ limits.depth := by
        simp only [openCalls] at depth
        omega
      exact ⟨rfl, remembers, below, fun calm => h.calm (same.mp calm),
        fun out => h.beyond fun calm => out (same.mpr calm),
        fun limit out => h.names limit ((fault limit out).trans out)⟩
  | _ =>
      exact ⟨depth, remembers, nested, fun calm => h.calm (same.mp calm),
        fun out => h.beyond fun calm => out (same.mpr calm),
        fun limit out => h.names limit ((fault limit out).trans out)⟩

theorem sound_resume {value : Value} {pending : Pending} {d : Config}
    (h : Config.Sound limits ⟨.value value, machine, pending :: stack⟩)
    (moves : pending.resume value machine stack = some d) : d.Sound limits := by
  cases pending with
  | apply op =>
      cases moves
      refine h.move trivial (Control.after_calm ?_ fun _ => Operation.apply_ofOperation) rfl rfl id
      exact fun _ => trivial
  | second op operand => cases moves; exact h.move trivial trivial rfl rfl id
  | pass target done more => cases moves; exact h.move trivial trivial rfl rfl id
  | discard => cases moves; exact h.move trivial trivial rfl rfl id
  | giveBack => cases moves; exact h.move trivial trivial rfl rfl id
  | throw => cases moves; exact h.move trivial id rfl rfl id
  | assign target =>
      unfold Pending.resume at moves
      dsimp only at moves
      split at moves
      · cases moves; exact h.move trivial trivial rfl rfl id
      · cases moves; exact h.move trivial id rfl rfl id
  | branch thenBranch elseBranch =>
      cases moves
      refine h.move trivial (Control.after_calm ?_ fun _ => Value.truth_ofOperation) rfl rfl id
      intro holds
      cases holds with
      | true => trivial
      | false => cases elseBranch <;> trivial
  | round condition body =>
      cases moves
      refine h.move trivial (Control.after_calm ?_ fun _ => Value.truth_ofOperation) rfl rfl id
      intro holds
      cases holds <;> trivial
  | loop condition body => cases moves
  | rest statements => cases moves
  | leave declared => cases moves
  | call frame depth => cases moves

theorem sound_proceed {completion : Completion} {pending : Pending} {d : Config}
    (h : Config.Sound limits ⟨.completed completion, machine, pending :: stack⟩)
    (moves : pending.proceed completion machine stack = some d) : d.Sound limits := by
  cases pending with
  | loop condition body =>
      cases completion <;> cases moves <;> exact h.move trivial trivial rfl rfl id
  | rest statements =>
      cases completion <;> cases moves <;> exact h.move trivial trivial rfl rfl id
  | leave declared => cases moves; exact sound_giveUp h Iff.rfl fun _ => Control.noConfusion
  | call frame depth => cases moves; exact sound_giveUp h Iff.rfl fun _ => Control.noConfusion
  | _ => cases moves

end

section

variable {i : Interpreter}

/-- **Every transition keeps a configuration sound.** -/
theorem sound_next {c d : Config} (h : c.Sound i.limits) (moves : i.next c = some d) :
    d.Sound i.limits := by
  obtain ⟨control, machine, stack⟩ := c
  cases control with
  | eval e => cases moves; exact sound_exprBegin h
  | pass target done more =>
      cases more with
      | cons e rest => cases moves; exact h.move trivial trivial rfl rfl id
      | nil =>
          cases target with
          | constructor constructor => cases moves; exact h.move trivial trivial rfl rfl id
          | method method =>
              unfold Interpreter.next at moves
              dsimp only at moves
              split at moves
              · cases moves; exact h.move trivial trivial rfl rfl id
              · rename_i unresolved
                cases moves
                exact h.move trivial (Interpreter.resolve_calm unresolved) rfl rfl id
  | enter callee args => cases moves; exact sound_enterCall h
  | exec s => cases moves; exact sound_beginStmt h
  | execAll statements => cases statements <;> cases moves <;> exact h.move trivial trivial rfl rfl id
  | loop condition body => cases moves; exact h.move trivial trivial rfl rfl id
  | goRound condition body => cases moves; exact h.move trivial trivial rfl rfl id
  | value value =>
      cases stack with
      | nil => cases moves
      | cons pending stack => exact sound_resume h moves
  | completed completion =>
      cases stack with
      | nil => cases moves
      | cons pending stack => exact sound_proceed h moves
  | interrupted interrupt =>
      cases stack with
      | nil => cases moves
      | cons pending stack => cases moves; exact sound_giveUp h Iff.rfl fun _ _ => rfl

/-- **Every configuration of a run is sound.** -/
theorem sound_reaches {c d : Config} (h : c.Sound i.limits) (run : i.Reaches c d) :
    d.Sound i.limits := by
  induction run with
  | refl => exact h
  | tail _ moves ih => exact sound_next ih moves

theorem sound_start (i : Interpreter) (name : String) (args : List Value) :
    (i.start name args).Sound i.limits where
  depth := rfl
  remembers := trivial
  nested := Nat.zero_le _
  calm _ := Nat.zero_le _
  beyond out := by
    refine absurd ?_ out
    unfold Interpreter.start
    cases i.function? name with
    | some callee => trivial
    | none => exact id
  names limit out := by
    unfold Interpreter.start at out
    cases found : i.function? name <;> rw [found] at out <;> cases out

end

/-! ### Steps are never given back -/

section

variable {limits : Limits} {i : Interpreter} {machine : Machine} {stack : List Pending}

theorem Pending.steps_giveUp (pending : Pending) (machine : Machine) :
    (pending.giveUp machine).meter.steps = machine.meter.steps := by
  cases pending <;> rfl

theorem Expr.steps_begin (e : Expr) :
    (e.begin machine stack).machine.meter.steps = machine.meter.steps := by
  cases e <;> rfl

theorem Stmt.steps_begin (s : Stmt) :
    (s.begin machine stack).machine.meter.steps = machine.meter.steps := by
  cases s with
  | ret value => cases value <;> rfl
  | _ => rfl

theorem steps_beginStmt (s : Stmt) :
    (Interpreter.beginStmt limits s machine stack).machine.meter.steps
      = machine.meter.steps + 1 := by
  unfold Interpreter.beginStmt
  dsimp only
  split
  · rfl
  · exact Stmt.steps_begin s

theorem steps_enterCall (callee : Callee) (args : List Value) :
    (Interpreter.enterCall limits callee args machine stack).machine.meter.steps
      = machine.meter.steps := by
  unfold Interpreter.enterCall
  dsimp only
  split
  · rfl
  · split <;> rfl

theorem steps_resume {value : Value} {pending : Pending} {d : Config}
    (moves : pending.resume value machine stack = some d) :
    d.machine.meter.steps = machine.meter.steps := by
  cases pending with
  | assign target =>
      unfold Pending.resume at moves
      dsimp only at moves
      split at moves <;> (cases moves; rfl)
  | loop condition body => cases moves
  | rest statements => cases moves
  | leave declared => cases moves
  | call frame depth => cases moves
  | _ => cases moves; rfl

theorem steps_proceed {completion : Completion} {pending : Pending} {d : Config}
    (moves : pending.proceed completion machine stack = some d) :
    d.machine.meter.steps = machine.meter.steps := by
  cases pending with
  | loop condition body => cases completion <;> cases moves <;> rfl
  | rest statements => cases completion <;> cases moves <;> rfl
  | leave declared => cases moves; rfl
  | call frame depth => cases moves; rfl
  | _ => cases moves

theorem steps_le_of_next {c d : Config} (moves : i.next c = some d) :
    c.machine.meter.steps ≤ d.machine.meter.steps := by
  obtain ⟨control, machine, stack⟩ := c
  cases control with
  | eval e => cases moves; exact Nat.le_of_eq (Expr.steps_begin e).symm
  | pass target done more =>
      cases more with
      | cons e rest => cases moves; exact Nat.le_refl _
      | nil =>
          cases target with
          | constructor constructor => cases moves; exact Nat.le_refl _
          | method method =>
              unfold Interpreter.next at moves
              dsimp only at moves
              split at moves <;> cases moves <;> exact Nat.le_refl _
  | enter callee args => cases moves; exact Nat.le_of_eq (steps_enterCall callee args).symm
  | exec s =>
      cases moves
      rw [steps_beginStmt]
      exact Nat.le_succ _
  | execAll statements => cases statements <;> cases moves <;> exact Nat.le_refl _
  | loop condition body => cases moves; exact Nat.le_refl _
  | goRound condition body => cases moves; exact Nat.le_refl _
  | value value =>
      cases stack with
      | nil => cases moves
      | cons pending stack => exact Nat.le_of_eq (steps_resume moves).symm
  | completed completion =>
      cases stack with
      | nil => cases moves
      | cons pending stack => exact Nat.le_of_eq (steps_proceed moves).symm
  | interrupted interrupt =>
      cases stack with
      | nil => cases moves
      | cons pending stack => cases moves; exact Nat.le_of_eq (pending.steps_giveUp machine).symm

theorem steps_le_of_reaches {c d : Config} (run : i.Reaches c d) :
    c.machine.meter.steps ≤ d.machine.meter.steps := by
  induction run with
  | refl => exact Nat.le_refl _
  | tail _ moves ih => exact Nat.le_trans ih (steps_le_of_next moves)

/-- A statement takes a step before anything else. -/
theorem steps_lt_of_exec {s : Stmt} {d : Config} (run : i.Reaches ⟨.exec s, machine, stack⟩ d)
    (ended : d.control ≠ .exec s) : machine.meter.steps < d.machine.meter.steps := by
  rcases Relation.ReflTransGen.cases_head run with rfl | ⟨c, moves, rest⟩
  · exact absurd rfl ended
  · cases moves
    have taken := steps_le_of_reaches rest
    rw [steps_beginStmt] at taken
    exact taken

end

end ArgumentGuards
