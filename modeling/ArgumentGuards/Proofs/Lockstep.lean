import ArgumentGuards.Eval.Interpreter

/-!
# Two runs in lockstep

Statements about evaluation often compare two runs: with two ways to call a method, or within two
limits. They all come down to one induction over the syntax, which is done here. One run
**simulates** another if it ends as the other one does, with states in a given relation, unless it
ends with an interrupt that excuses it. Everything that statements and expressions are made of keeps
such a relation, so whole bodies keep it as soon as calls do.

The relation is on the counters. Both runs are at one depth of calls, and their steps are related in
whatever way the comparison needs.
-/

namespace ArgumentGuards

/-! ## Simulation -/

section

variable {σ τ α β : Type}

theorem ok_of_bind {run : EStateM Interrupt σ α} {next : α → EStateM Interrupt σ β}
    {s s' : σ} {b : β} (h : (run >>= next) s = .ok b s') :
    ∃ a middle, run s = .ok a middle ∧ next a middle = .ok b s' := by
  change EStateM.bind run next s = _ at h
  unfold EStateM.bind at h
  cases hr : run s with
  | ok a middle =>
      rw [hr] at h
      exact ⟨a, middle, rfl, h⟩
  | error i middle =>
      rw [hr] at h
      cases h

theorem bind_of_ok {run : EStateM Interrupt σ α} {next : α → EStateM Interrupt σ β} {s s' : σ}
    {a : α} (h : run s = .ok a s') : (run >>= next) s = next a s' := by
  change EStateM.bind run next s = _
  unfold EStateM.bind
  rw [h]

theorem bind_of_error {run : EStateM Interrupt σ α} {next : α → EStateM Interrupt σ β}
    {s s' : σ} {i : Interrupt} (h : run s = .error i s') : (run >>= next) s = .error i s' := by
  change EStateM.bind run next s = _
  unfold EStateM.bind
  rw [h]

/-- Two ways to end: the same one in related states, unless the first one is excused. -/
inductive Accords (R : σ → τ → Prop) (excused : Interrupt → Prop) :
    EStateM.Result Interrupt σ α → EStateM.Result Interrupt τ α → Prop where
  | ok {a : α} {s : σ} {t : τ} : R s t → Accords R excused (.ok a s) (.ok a t)
  | error {i : Interrupt} {s : σ} {t : τ} : R s t → Accords R excused (.error i s) (.error i t)
  | excuse {i : Interrupt} {s : σ} {result : EStateM.Result Interrupt τ α} : excused i →
      Accords R excused (.error i s) result

/-- From related states, a run ends in accord with another one. -/
def Simulates (R : σ → τ → Prop) (excused : Interrupt → Prop) (run : EStateM Interrupt σ α)
    (other : EStateM Interrupt τ α) : Prop :=
  ∀ s t, R s t → Accords R excused (run s) (other t)

variable {R : σ → τ → Prop} {excused : Interrupt → Prop}

theorem Simulates.pure (a : α) : Simulates R excused (Pure.pure a) (Pure.pure a) :=
  fun _ _ related => .ok related

theorem Simulates.throw (i : Interrupt) :
    Simulates (α := α) R excused (MonadExcept.throw i) (MonadExcept.throw i) :=
  fun _ _ related => .error related

theorem Simulates.bind {run : EStateM Interrupt σ α} {other : EStateM Interrupt τ α}
    {next : α → EStateM Interrupt σ β} {otherNext : α → EStateM Interrupt τ β}
    (first : Simulates R excused run other)
    (second : ∀ a, Simulates R excused (next a) (otherNext a)) :
    Simulates R excused (run >>= next) (other >>= otherNext) := by
  intro s t related
  have ends := first s t related
  change Accords R excused (EStateM.bind run next s) (EStateM.bind other otherNext t)
  unfold EStateM.bind
  cases hr : run s with
  | ok a s' =>
      rw [hr] at ends
      generalize other t = result at ends ⊢
      cases ends with
      | ok after => exact second a _ _ after
  | error i s' =>
      rw [hr] at ends
      generalize other t = result at ends ⊢
      cases ends with
      | error after => exact .error after
      | excuse isExcused => exact .excuse isExcused

theorem Simulates.settle (outcome : Except Interrupt α) :
    Simulates R excused (ArgumentGuards.settle outcome) (ArgumentGuards.settle outcome) := by
  cases outcome with
  | ok a => exact .pure a
  | error i => exact .throw i

theorem Simulates.ite {run run' : EStateM Interrupt σ α} {other other' : EStateM Interrupt τ α}
    (holds : Bool) (yes : Simulates R excused run other) (no : Simulates R excused run' other') :
    Simulates R excused (if holds then run else run') (if holds then other else other') := by
  cases holds with
  | true => exact yes
  | false => exact no

end

/-! ## Counters side by side -/

/-- Two counters at one depth with related steps. -/
structure Meter.Beside (steps : Nat → Nat → Prop) (depth : Nat) (m n : Meter) : Prop where
  left : m.depth = depth
  right : n.depth = depth
  steps : steps m.steps n.steps

/-- Two machines with such counters and the same frame. -/
structure Machine.Beside (steps : Nat → Nat → Prop) (depth : Nat) (m n : Machine) : Prop where
  meter : m.meter.Beside steps depth n.meter
  frame : m.frame = n.frame

/-- What it takes to step together within two limits: either the steps are the same and so are the
limits, or the first run never has more steps left and may be excused for having none. -/
structure Paced (steps : Nat → Nat → Prop) (excused : Interrupt → Prop) (limits other : Limits) :
    Prop where
  succ : ∀ {m n}, steps m n → steps (m + 1) (n + 1)
  bound : (limits.steps = other.steps ∧ ∀ {m n}, steps m n → m = n)
    ∨ (excused (.fault (.stepLimit limits.steps))
      ∧ ∀ {m n}, steps m n → limits.steps + n ≤ other.steps + m)

/-- No interrupt is an excuse. -/
def unexcused (_ : Interrupt) : Prop := False

/-- Whether an interrupt is that of the limit of steps. -/
def Interrupt.OutOfSteps : Interrupt → Prop
  | .fault (.stepLimit _) => True
  | _ => False

theorem Paced.same {excused : Interrupt → Prop} (limits : Limits) :
    Paced Eq excused limits limits where
  succ := congrArg (· + 1)
  bound := .inl ⟨rfl, id⟩

theorem Meter.Beside.eq {depth : Nat} {m n : Meter} (h : m.Beside Eq depth n) : m = n := by
  obtain ⟨_, _⟩ := m
  obtain ⟨_, _⟩ := n
  exact congr (congrArg Meter.mk h.steps) (h.left.trans h.right.symm)

/-- Without an excuse, and with the same steps, accord is equality. -/
theorem Accords.eq {α : Type} {depth : Nat} {result other : EStateM.Result Interrupt Meter α}
    (h : Accords (Meter.Beside Eq depth) unexcused result other) : result = other := by
  cases h with
  | ok after => rw [after.eq]
  | error after => rw [after.eq]
  | excuse isExcused => exact isExcused.elim

section

variable {steps : Nat → Nat → Prop} {excused : Interrupt → Prop} {limits other : Limits}
  {depth : Nat}

theorem fetch_simulates {R : Meter → Meter → Prop} (bindings : Bindings) (name : String) :
    Simulates R excused (fetch bindings name) (fetch bindings name) := by
  unfold fetch
  cases bindings.lookup name with
  | some value => exact .pure value
  | none => exact .throw _

theorem inFrame_simulates {α : Type} {run run' : Frame → Metered α}
    (h : ∀ frame, Simulates (Meter.Beside steps depth) excused (run frame) (run' frame)) :
    Simulates (Machine.Beside steps depth) excused (inFrame run) (inFrame run') := by
  rintro ⟨m, frame⟩ ⟨n, _⟩ ⟨meters, rfl⟩
  have ends := h frame m n meters
  dsimp only [inFrame]
  generalize run frame m = result, run' frame n = result' at ends
  cases ends with
  | ok after => exact .ok ⟨after, rfl⟩
  | error after => exact .error ⟨after, rfl⟩
  | excuse isExcused => exact .excuse isExcused

theorem takeStep_simulates (pace : Paced steps excused limits other) :
    Simulates (Machine.Beside steps depth) excused (takeStep limits) (takeStep other) := by
  rintro ⟨m, frame⟩ ⟨n, _⟩ ⟨meters, rfl⟩
  have after : Machine.Beside steps depth ⟨{ m with steps := m.steps + 1 }, frame⟩
      ⟨{ n with steps := n.steps + 1 }, frame⟩ :=
    ⟨⟨meters.left, meters.right, pace.succ meters.steps⟩, rfl⟩
  dsimp only [takeStep]
  rcases pace.bound with ⟨same, equal⟩ | ⟨isExcused, slack⟩
  · rw [same, equal meters.steps] at *
    split
    · exact .error after
    · exact .ok after
  · have := slack meters.steps
    dsimp only at this
    split
    · exact .excuse isExcused
    · rw [if_neg (by omega)]
      exact .ok after

theorem withLocals_simulates {α : Type} {run run' : Stepped α} (declared : List Local)
    (h : Simulates (Machine.Beside steps depth) excused run run') :
    Simulates (Machine.Beside steps depth) excused (withLocals declared run)
      (withLocals declared run') := by
  rintro ⟨m, frame⟩ ⟨n, _⟩ ⟨meters, rfl⟩
  have ends := h ⟨m, frame.enterBlock declared⟩ ⟨n, frame.enterBlock declared⟩ ⟨meters, rfl⟩
  dsimp only [withLocals]
  generalize run ⟨m, frame.enterBlock declared⟩ = result,
    run' ⟨n, frame.enterBlock declared⟩ = result' at ends
  cases ends with
  | ok after => exact .ok ⟨after.meter, by rw [after.frame]⟩
  | error after => exact .error ⟨after.meter, by rw [after.frame]⟩
  | excuse isExcused => exact .excuse isExcused

theorem assign_simulates (name : String) (value : Value) :
    Simulates (Machine.Beside steps depth) excused (assign name value) (assign name value) := by
  rintro ⟨m, frame⟩ ⟨n, _⟩ ⟨meters, rfl⟩
  dsimp only [assign]
  cases frame.assign? name value with
  | some after => exact .ok ⟨meters, rfl⟩
  | none => exact .error ⟨meters, rfl⟩

theorem repeatWhile_simulates {test test' : Stepped Bool} {body body' : Stepped Completion}
    (htest : Simulates (Machine.Beside steps depth) excused test test')
    (hbody : Simulates (Machine.Beside steps depth) excused body body') {rounds rounds' : Nat}
    (h : (limits.steps = other.steps ∧ rounds = rounds')
      ∨ (excused (.fault (.stepLimit limits.steps)) ∧ rounds ≤ rounds')) :
    Simulates (Machine.Beside steps depth) excused (repeatWhile limits test body rounds)
      (repeatWhile other test' body' rounds') := by
  -- on the rounds of the first run, since the other one may have rounds to spare
  induction rounds generalizing rounds' with
  | zero =>
      rcases h with ⟨same, rfl⟩ | ⟨isExcused, _⟩
      · rw [repeatWhile, repeatWhile, same]
        exact .throw _
      · exact fun _ _ _ => .excuse isExcused
  | succ rounds ih =>
      obtain ⟨left, rfl, hleft⟩ : ∃ left, rounds' = left + 1
          ∧ ((limits.steps = other.steps ∧ rounds = left)
            ∨ (excused (.fault (.stepLimit limits.steps)) ∧ rounds ≤ left)) := by
        rcases h with ⟨same, rfl⟩ | ⟨isExcused, le⟩
        · exact ⟨rounds, rfl, .inl ⟨same, rfl⟩⟩
        · exact ⟨rounds' - 1, by omega, .inr ⟨isExcused, by omega⟩⟩
      rw [repeatWhile, repeatWhile]
      refine htest.bind fun holds => .ite holds (hbody.bind fun completion => ?_) (.pure _)
      cases completion with
      | normal => exact ih hleft
      | returned value => exact .pure _

/-- A loop makes as many rounds as its machine has steps left. -/
theorem rounds_simulate (pace : Paced steps excused limits other) {test test' : Stepped Bool}
    {body body' : Stepped Completion}
    (htest : Simulates (Machine.Beside steps depth) excused test test')
    (hbody : Simulates (Machine.Beside steps depth) excused body body') :
    Simulates (Machine.Beside steps depth) excused
      (do let machine ← get; repeatWhile limits test body (roundsLeft limits machine))
      (do let machine ← get; repeatWhile other test' body' (roundsLeft other machine)) := by
  intro m n related
  refine repeatWhile_simulates htest hbody ?_ m n related
  unfold roundsLeft
  rcases pace.bound with ⟨same, equal⟩ | ⟨isExcused, slack⟩
  · exact .inl ⟨same, by rw [same, equal related.meter.steps]⟩
  · have := slack related.meter.steps
    exact .inr ⟨isExcused, by omega⟩

end

/-! ## Expressions and statements -/

/-- One way to call that simulates another one, at a depth. -/
def Caller.Simulates (steps : Nat → Nat → Prop) (depth : Nat) (excused : Interrupt → Prop)
    (call other : Caller) : Prop :=
  ∀ method args,
    ArgumentGuards.Simulates (Meter.Beside steps depth) excused (call method args)
      (other method args)

section

variable {steps : Nat → Nat → Prop} {excused : Interrupt → Prop} {limits other : Limits}
  {depth : Nat} {call call' : Caller}

namespace Expr

mutual

/-- **Expressions simulate each other if calls do.** -/
theorem eval_simulates (calls : call.Simulates steps depth excused call') (frame : Frame) :
    ∀ e : Expr,
    Simulates (Meter.Beside steps depth) excused (e.eval call frame) (e.eval call' frame)
  | .literal value => .pure _
  | .parameter name _ => fetch_simulates _ name
  | .localVar name => fetch_simulates _ name
  | .unary op operand => by
      unfold eval
      exact (eval_simulates calls frame operand).bind fun _ => .settle _
  | .binary op left right => by
      unfold eval
      exact (eval_simulates calls frame left).bind fun a =>
        (eval_simulates calls frame right).bind fun b => .settle _
  | .hasValue operand => by
      unfold eval
      exact (eval_simulates calls frame operand).bind fun _ => .settle _
  | .call method args => by
      unfold eval
      exact (evalAll_simulates calls frame args).bind fun values => calls method values
  | .construct constructor args => by
      unfold eval
      exact (evalAll_simulates calls frame args).bind fun _ => .pure _
  | .length operand => by
      unfold eval
      exact (eval_simulates calls frame operand).bind fun _ => .settle _
  | .charAt operand index => by
      unfold eval
      exact (eval_simulates calls frame operand).bind fun target =>
        (eval_simulates calls frame index).bind fun position => .settle _

theorem evalAll_simulates (calls : call.Simulates steps depth excused call') (frame : Frame) :
    ∀ es : List Expr,
    Simulates (Meter.Beside steps depth) excused (evalAll call frame es) (evalAll call' frame es)
  | [] => .pure _
  | e :: rest => by
      unfold evalAll
      exact (eval_simulates calls frame e).bind fun value =>
        (evalAll_simulates calls frame rest).bind fun more => .pure _

end

end Expr

namespace Stmt

theorem test_simulates (calls : call.Simulates steps depth excused call') (condition : Expr) :
    Simulates (Machine.Beside steps depth) excused (test call condition) (test call' condition) :=
  inFrame_simulates fun frame =>
    (condition.eval_simulates calls frame).bind fun _ => .settle _

theorem value_simulates (calls : call.Simulates steps depth excused call') (expr : Expr) :
    Simulates (Machine.Beside steps depth) excused (inFrame (expr.eval call))
      (inFrame (expr.eval call')) :=
  inFrame_simulates fun frame => expr.eval_simulates calls frame

mutual

/-- **Statements simulate each other if calls do.** -/
theorem exec_simulates (pace : Paced steps excused limits other)
    (calls : call.Simulates steps depth excused call') : ∀ s : Stmt,
    Simulates (Machine.Beside steps depth) excused (s.exec limits call) (s.exec other call')
  | .expression expr => by
      unfold exec
      exact (takeStep_simulates pace).bind fun _ =>
        (value_simulates calls expr).bind fun _ => .pure _
  | .ret none => by
      unfold exec
      exact (takeStep_simulates pace).bind fun _ => .pure _
  | .ret (some expr) => by
      unfold exec
      exact (takeStep_simulates pace).bind fun _ =>
        (value_simulates calls expr).bind fun value => .pure _
  | .conditional condition thenBranch none => by
      unfold exec
      exact (takeStep_simulates pace).bind fun _ => (test_simulates calls condition).bind
        fun holds => .ite holds (exec_simulates pace calls thenBranch) (.pure _)
  | .conditional condition thenBranch (some elseBranch) => by
      unfold exec
      exact (takeStep_simulates pace).bind fun _ => (test_simulates calls condition).bind
        fun holds => .ite holds (exec_simulates pace calls thenBranch)
          (exec_simulates pace calls elseBranch)
  | .throw expr => by
      unfold exec
      exact (takeStep_simulates pace).bind fun _ =>
        (value_simulates calls expr).bind fun exception => .throw _
  | .assign target expr => by
      unfold exec
      exact (takeStep_simulates pace).bind fun _ => (value_simulates calls expr).bind
        fun value => (assign_simulates target value).bind fun _ => .pure _
  | .loop condition body => by
      unfold exec
      exact (takeStep_simulates pace).bind fun _ =>
        rounds_simulate pace (test_simulates calls condition) (exec_simulates pace calls body)
  | .block ⟨locals, statements⟩ => by
      unfold exec
      exact (takeStep_simulates pace).bind fun _ =>
        withLocals_simulates locals (execAll_simulates pace calls statements)
  | .sequencePoint _ statement => by
      unfold exec
      exact (takeStep_simulates pace).bind fun _ => exec_simulates pace calls statement

theorem execAll_simulates (pace : Paced steps excused limits other)
    (calls : call.Simulates steps depth excused call') : ∀ statements : List Stmt,
    Simulates (Machine.Beside steps depth) excused (execAll limits call statements)
      (execAll other call' statements)
  | [] => .pure _
  | s :: rest => by
      unfold execAll
      refine (exec_simulates pace calls s).bind fun completion => ?_
      cases completion with
      | normal => exact execAll_simulates pace calls rest
      | returned value => exact .pure _

end

end Stmt

theorem Block.exec_simulates (pace : Paced steps excused limits other)
    (calls : call.Simulates steps depth excused call') (b : Block) :
    Simulates (Machine.Beside steps depth) excused (b.exec limits call) (b.exec other call') :=
  withLocals_simulates b.locals (Stmt.execAll_simulates pace calls b.statements)

end

/-! ## Calls -/

/-- Runs in a new frame, one level down. However that ends, the level is left. -/
def oneLevelDown (frame : Frame) (run : Stepped Completion) : Metered Value := fun meter =>
  match run ⟨{ meter with depth := meter.depth + 1 }, frame⟩ with
  | .ok completion machine => .ok completion.result { machine.meter with depth := meter.depth }
  | .error interrupt machine => .error interrupt { machine.meter with depth := meter.depth }

theorem Interpreter.runBody_eq (limits : Limits) (call : Caller) (callee : Callee)
    (args : List Value) :
    runBody limits call callee args
      = oneLevelDown (Frame.ofArguments callee.parameters args) (callee.body.exec limits call) :=
  rfl

/-- How bodies call when so many levels are left below them. -/
def Interpreter.caller (i : Interpreter) (levels : Nat) : Caller := fun method args =>
  match i.resolve method with
  | .ok callee => i.callWithin levels callee args
  | .error error => throw (.fault error)

theorem Interpreter.callWithin_succ (i : Interpreter) (levels : Nat) (callee : Callee)
    (args : List Value) :
    i.callWithin (levels + 1) callee args
      = enter i.limits callee args (runBody i.limits (i.caller levels) callee args) :=
  rfl

/-- A call with as many arguments as parameters runs the body if the limit leaves a level for it. -/
theorem Interpreter.callWithin_of_fits {i : Interpreter} {callee : Callee} {args : List Value}
    {meter : Meter} (fits : callee.parameters.length = args.length)
    (free : meter.depth < i.limits.depth) (levels : Nat) :
    i.callWithin (levels + 1) callee args meter
      = runBody i.limits (i.caller levels) callee args meter := by
  rw [callWithin_succ, enter, if_neg (not_not_intro fits), if_neg (Nat.not_le_of_lt free)]

section

variable {steps : Nat → Nat → Prop} {excused : Interrupt → Prop} {depth : Nat}

theorem oneLevelDown_simulates {frame : Frame} {run run' : Stepped Completion}
    (h : Simulates (Machine.Beside steps (depth + 1)) excused run run') :
    Simulates (Meter.Beside steps depth) excused (oneLevelDown frame run)
      (oneLevelDown frame run') := by
  intro m n meters
  have ends := h ⟨{ m with depth := m.depth + 1 }, frame⟩ ⟨{ n with depth := n.depth + 1 }, frame⟩
    ⟨⟨congrArg (· + 1) meters.left, congrArg (· + 1) meters.right, meters.steps⟩, rfl⟩
  dsimp only [oneLevelDown]
  generalize run ⟨{ m with depth := m.depth + 1 }, frame⟩ = result,
    run' ⟨{ n with depth := n.depth + 1 }, frame⟩ = result' at ends
  cases ends with
  | ok after => exact .ok ⟨meters.left, meters.right, after.meter.steps⟩
  | error after => exact .error ⟨meters.left, meters.right, after.meter.steps⟩
  | excuse isExcused => exact .excuse isExcused

/-- Calls are entered alike if the second limit of depth is the same or is excused to be greater. -/
theorem enter_simulates {limits other : Limits} {callee : Callee} {args : List Value}
    {run run' : Metered Value}
    (h : Simulates (Meter.Beside steps depth) excused run run')
    (levels : limits.depth = other.depth ∨ limits.depth ≤ other.depth
      ∧ excused (.fault (.callDepth limits.depth callee.name))) :
    Simulates (Meter.Beside steps depth) excused (Interpreter.enter limits callee args run)
      (Interpreter.enter other callee args run') := by
  intro m n meters
  have sameDepth : m.depth = n.depth := meters.left.trans meters.right.symm
  dsimp only [Interpreter.enter]
  split
  · exact .error meters
  · rcases levels with same | ⟨more, isExcused⟩
    · rw [← same, ← sameDepth]
      split
      · unfold Interpreter.tooDeep
        rw [← same]
        exact .error meters
      · exact h m n meters
    · split
      · exact .excuse isExcused
      · rw [if_neg (by omega)]
        exact h m n meters

end

end ArgumentGuards
