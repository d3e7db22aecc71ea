import ArgumentGuards.Proofs.CheckedEntry
import ArgumentGuards.Proofs.Transitions
import Mathlib

/-!
# Evaluation comes to an end

Transitions know nothing of rounds and levels. Still the two ways to evaluate are one: from every
sound configuration, transitions lead to where the evaluator says that the run ends, on the stack on
which it began. This is proved along the recursion of the evaluator, which is on the levels of calls,
the syntax and the rounds of loops, so it says at the same time that runs end and that neither bound
of the evaluator ever cuts one short.

A loop has rounds enough because its body takes a step: after as many rounds as there were steps left
the counter would be beyond its limit, and a configuration that goes on is not (`loop_performs`).
-/

namespace ArgumentGuards

/-- Where a run ends: it goes on with its result, or it is interrupted. -/
def Config.ended {α : Type} (stack : List Pending) (done : α → Control) :
    EStateM.Result Interrupt Machine α → Config
  | .ok a machine => ⟨done a, machine, stack⟩
  | .error interrupt machine => ⟨.interrupted interrupt, machine, stack⟩

/-- Something to be done, with something pending on top of any stack. -/
def Control.above (control : Control) (top : List Pending) (machine : Machine)
    (stack : List Pending) : Config :=
  ⟨control, machine, top ++ stack⟩

/-- Transitions do what a run does, at a depth of calls and after at least so many steps. -/
def Performs {α : Type} (i : Interpreter) (depth least : Nat)
    (start : Machine → List Pending → Config) (run : Stepped α) (done : α → Control) : Prop :=
  ∀ machine stack, machine.meter.depth = depth → least ≤ machine.meter.steps →
    (start machine stack).Sound i.limits →
      i.Reaches (start machine stack) (.ended stack done (run machine))

section

variable {α β : Type} {i : Interpreter} {depth least : Nat}

theorem Performs.pure {done : α → Control} (a : α) :
    Performs i depth least ((done a).above []) (Pure.pure a) done :=
  fun _ _ _ _ _ => Relation.ReflTransGen.refl

theorem Performs.throw {done : α → Control} (interrupt : Interrupt) :
    Performs i depth least ((Control.interrupted interrupt).above [])
      (MonadExcept.throw interrupt) done :=
  fun _ _ _ _ _ => Relation.ReflTransGen.refl

theorem Performs.settle {done : α → Control} (outcome : Except Interrupt α) :
    Performs i depth least ((Control.after done outcome).above []) (ArgumentGuards.settle outcome)
      done := by
  cases outcome with
  | ok a => exact .pure a
  | error interrupt => exact .throw interrupt

/-- One transition that leaves the machine as it is. -/
theorem Performs.of_next {control control' : Control} {top top' : List Pending} {run : Stepped α}
    {done : α → Control}
    (moves : ∀ machine stack,
      i.next (control.above top machine stack) = some (control'.above top' machine stack))
    (h : Performs i depth least (control'.above top') run done) :
    Performs i depth least (control.above top) run done := by
  intro machine stack atDepth taken sound
  have moved := moves machine stack
  exact .head moved (h machine stack atDepth taken (sound_next sound moved))

/-- Whether nothing is left behind when something pending is given up. -/
def Pending.Plain (pending : Pending) : Prop := ∀ machine, pending.giveUp machine = machine

/--
**One run after another.** The second one begins with what the first one leaves on the stack, at the
same depth. If the first one is interrupted, nothing that is pending is looked at.
-/
theorem Performs.bind_le {later : Nat} {control : Control} {pending : Pending} {run : Stepped α}
    {next : α → Stepped β} {mid : α → Control} {done : β → Control} (plain : pending.Plain)
    (grows : ∀ machine stack a after, least ≤ machine.meter.steps →
      i.Reaches ⟨control, machine, stack⟩ ⟨mid a, after, stack⟩ → later ≤ after.meter.steps)
    (first : Performs i depth least (control.above []) run mid)
    (second : ∀ a, Performs i depth later ((mid a).above [pending]) (next a) done) :
    Performs i depth least (control.above [pending]) (run >>= next) done := by
  intro machine stack atDepth taken sound
  have reached := first machine (pending :: stack) atDepth taken sound
  have soundThere := sound_reaches sound reached
  change i.Reaches _ (Config.ended stack done (EStateM.bind run next machine))
  unfold EStateM.bind
  cases ends : run machine with
  | ok a after =>
      rw [ends] at reached soundThere
      have sameDepth : after.meter.depth = depth :=
        soundThere.depth.trans (sound.depth.symm.trans atDepth)
      have enough := grows machine (pending :: stack) a after taken reached
      exact .trans reached (second a after stack sameDepth enough soundThere)
  | error interrupt after =>
      rw [ends] at reached
      have moved : i.next ⟨.interrupted interrupt, after, pending :: stack⟩
          = some ⟨.interrupted interrupt, after, stack⟩ := by
        rw [Interpreter.next, plain after]
      exact .tail reached moved

theorem Performs.bind {control : Control} {pending : Pending} {run : Stepped α}
    {next : α → Stepped β} {mid : α → Control} {done : β → Control} (plain : pending.Plain)
    (first : Performs i depth least (control.above []) run mid)
    (second : ∀ a, Performs i depth least ((mid a).above [pending]) (next a) done) :
    Performs i depth least (control.above [pending]) (run >>= next) done :=
  .bind_le plain (fun _ _ _ _ taken reached => Nat.le_trans taken (steps_le_of_reaches reached))
    first second

end

/-! ## Expressions -/

theorem inFrame_settle {α : Type} (outcome : Except Interrupt α) :
    (inFrame fun _ => settle outcome) = settle outcome := by
  cases outcome <;> rfl

theorem inFrame_pure {α : Type} (a : α) : (inFrame fun _ => pure a) = (pure a : Stepped α) := rfl

section

variable {i : Interpreter} {depth least : Nat} {call : Caller}

theorem Performs.mono {α : Type} {start : Machine → List Pending → Config} {run : Stepped α}
    {done : α → Control} (h : Performs i depth 0 start run done) :
    Performs i depth least start run done :=
  fun machine stack atDepth _ => h machine stack atDepth (Nat.zero_le _)

theorem Performs.after {α β : Type} {choose : α → Control} {next : α → Stepped β}
    {done : β → Control} (outcome : Except Interrupt α)
    (h : ∀ a, Performs i depth least ((choose a).above []) (next a) done) :
    Performs i depth least ((Control.after choose outcome).above [])
      (ArgumentGuards.settle outcome >>= next) done := by
  cases outcome with
  | ok a => exact h a
  | error interrupt => exact .throw interrupt

theorem fetch_performs {control : Control} {name : String} {read : Frame → Bindings}
    (moves : ∀ machine stack, i.next (control.above [] machine stack)
      = some ⟨.fetch (read machine.frame) name, machine, stack⟩) :
    Performs i depth least (control.above []) (inFrame fun frame => fetch (read frame) name)
      .value := by
  intro machine stack _ _ _
  refine .single ((moves machine stack).trans (congrArg some ?_))
  dsimp only [inFrame, fetch, Control.fetch]
  cases (read machine.frame).lookup name <;> rfl

theorem apply_performs (op : Operation) (value : Value) :
    Performs i depth least ((Control.value value).above [.apply op]) (settle (op.apply value))
      .value :=
  .of_next (fun _ _ => rfl) (.settle _)

/-- An expression with one operand. -/
theorem operand_performs {whole operand : Expr} {op : Operation}
    (begins : ∀ machine stack,
      whole.begin machine stack = (Control.eval operand).above [.apply op] machine stack)
    (evals : ∀ frame, whole.eval call frame
      = operand.eval call frame >>= fun value => settle (op.apply value))
    (h : Performs i depth 0 ((Control.eval operand).above []) (inFrame (operand.eval call)) .value) :
    Performs i depth 0 ((Control.eval whole).above []) (inFrame (whole.eval call)) .value := by
  rw [funext evals, inFrame_bind]
  simp only [inFrame_settle]
  exact .of_next (fun machine stack => congrArg some (begins machine stack))
    (.bind (fun _ => rfl) h fun value => apply_performs op value)

/-- An expression with two operands. -/
theorem operands_performs {whole first second : Expr} {op : Value → Operation}
    (begins : ∀ machine stack,
      whole.begin machine stack = (Control.eval first).above [.second op second] machine stack)
    (evals : ∀ frame, whole.eval call frame
      = first.eval call frame >>= fun a => second.eval call frame >>= fun b =>
          settle ((op a).apply b))
    (hfirst : Performs i depth 0 ((Control.eval first).above []) (inFrame (first.eval call)) .value)
    (hsecond : Performs i depth 0 ((Control.eval second).above []) (inFrame (second.eval call))
      .value) :
    Performs i depth 0 ((Control.eval whole).above []) (inFrame (whole.eval call)) .value := by
  rw [funext evals, inFrame_bind]
  simp only [inFrame_bind, inFrame_settle]
  exact .of_next (fun machine stack => congrArg some (begins machine stack))
    (.bind (fun _ => rfl) hfirst fun a =>
      .of_next (fun _ _ => rfl) (.bind (fun _ => rfl) hsecond fun b => apply_performs (op a) b))

/-- Whether transitions do what a caller does, at a depth of calls. -/
def Calls (i : Interpreter) (depth : Nat) (call : Caller) : Prop :=
  ∀ method args, Performs i depth 0 ((Control.pass (.method method) args []).above [])
    (inFrame fun _ => call method args) .value

namespace Expr

mutual

/-- **Transitions evaluate expressions** if they do what calls do. -/
theorem eval_performs (calls : Calls i depth call) : ∀ e : Expr,
    Performs i depth 0 ((Control.eval e).above []) (inFrame (e.eval call)) .value
  | .literal value => .of_next (fun _ _ => rfl) (.pure _)
  | .parameter name type => fetch_performs fun _ _ => rfl
  | .localVar name => fetch_performs fun _ _ => rfl
  | .unary op operand =>
      operand_performs (fun _ _ => rfl) (fun _ => by rw [eval]; rfl) (eval_performs calls operand)
  | .binary op left right =>
      operands_performs (fun _ _ => rfl) (fun _ => by rw [eval]; rfl) (eval_performs calls left)
        (eval_performs calls right)
  | .hasValue operand =>
      operand_performs (fun _ _ => rfl) (fun _ => by rw [eval]; rfl) (eval_performs calls operand)
  | .length operand =>
      operand_performs (fun _ _ => rfl) (fun _ => by rw [eval]; rfl) (eval_performs calls operand)
  | .charAt operand index =>
      operands_performs (fun _ _ => rfl) (fun _ => by rw [eval]; rfl) (eval_performs calls operand)
        (eval_performs calls index)
  | .call method args => by
      have run : inFrame ((Expr.call method args).eval call)
          = inFrame (evalAll call · args) >>= fun values =>
              inFrame fun _ => call method ([] ++ values) := by
        simp only [eval, inFrame_bind, List.nil_append]
      rw [run]
      exact .of_next (fun _ _ => rfl) (evalAll_performs calls (calls method) args [])
  | .construct constructor args => by
      have run : inFrame ((Expr.construct constructor args).eval call)
          = inFrame (evalAll call · args) >>= fun values =>
              pure (.object constructor.container ([] ++ values)) := by
        simp only [eval, inFrame_bind, inFrame_pure, List.nil_append]
      rw [run]
      exact .of_next (fun _ _ => rfl) (evalAll_performs calls
        (fun _ => .of_next (fun _ _ => rfl) (.pure _)) args [])

/-- The values of arguments are passed on together. -/
theorem evalAll_performs (calls : Calls i depth call) {target : Target}
    {finish : List Value → Stepped Value}
    (passed : ∀ values, Performs i depth 0 ((Control.pass target values []).above [])
      (finish values) .value) : ∀ (es : List Expr) (done : List Value),
    Performs i depth 0 ((Control.pass target done es).above [])
      (inFrame (evalAll call · es) >>= fun values => finish (done ++ values)) .value
  | [], done => by
      have run : (inFrame (evalAll call · []) >>= fun values =>
          finish (done ++ values)) = finish done := by
        simp only [evalAll, inFrame_pure, pure_bind, List.append_nil]
      rw [run]
      exact passed done
  | e :: rest, done => by
      have run : (inFrame (evalAll call · (e :: rest)) >>= fun values =>
            finish (done ++ values))
          = inFrame (e.eval call) >>= fun value =>
              inFrame (evalAll call · rest) >>= fun values =>
                finish (done ++ [value] ++ values) := by
        simp only [evalAll, inFrame_bind, inFrame_pure, bind_assoc, pure_bind, List.append_assoc,
          List.singleton_append]
      rw [run]
      exact .of_next (fun _ _ => rfl) (.bind (fun _ => rfl) (eval_performs calls e) fun value =>
        .of_next (fun _ _ => rfl) (evalAll_performs calls passed rest (done ++ [value])))

end

end Expr

/-! ## Statements -/

/-- A statement takes its step, and is begun if that is within the limit. -/
theorem Performs.step {α : Type} {s : Stmt} {start : Machine → List Pending → Config}
    {run : Stepped α} {done : α → Control}
    (begins : ∀ machine stack, s.begin machine stack = start machine stack)
    (h : Performs i depth 0 start run done) :
    Performs i depth 0 ((Control.exec s).above []) (takeStep i.limits >>= fun _ => run) done := by
  intro machine stack atDepth _ sound
  have moved : i.next ⟨.exec s, machine, stack⟩ = some (Interpreter.beginStmt i.limits s machine stack) :=
    rfl
  have soundThere := sound_next sound moved
  refine .head moved ?_
  change i.Reaches _ (Config.ended stack done (EStateM.bind (takeStep i.limits) _ machine))
  unfold EStateM.bind takeStep
  unfold Interpreter.beginStmt at soundThere ⊢
  dsimp only at soundThere ⊢
  by_cases beyond : i.limits.steps < machine.meter.steps + 1
  · rw [if_pos beyond]
    simp only [if_pos beyond]
    exact .refl
  · rw [if_neg beyond] at soundThere ⊢
    simp only [if_neg beyond]
    rw [begins] at soundThere ⊢
    exact h { machine with meter.steps := machine.meter.steps + 1 } stack atDepth (Nat.zero_le _)
      soundThere

theorem assign_performs (target : String) (value : Value) :
    Performs i depth least ((Control.value value).above [.assign target])
      (assign target value >>= fun _ => pure .normal) .completed := by
  intro machine stack _ _ _
  refine .single ?_
  change Pending.resume value machine stack (.assign target)
    = some (Config.ended stack .completed (EStateM.bind (assign target value) _ machine))
  unfold EStateM.bind assign
  simp only [Pending.resume]
  cases machine.frame.assign? target value <;> rfl

theorem test_eq_bind (condition : Expr) :
    Stmt.test call condition = inFrame (condition.eval call) >>= fun value => settle value.truth := by
  simp only [Stmt.test, inFrame_bind, inFrame_settle]

/--
**A loop makes as many rounds as its test allows.** With the rounds that the evaluator gives it, the
steps of the loop would be beyond their limit before it is out of rounds.
-/
theorem loop_performs {condition : Expr} {body : Stmt}
    (htest : Performs i depth 0 ((Control.eval condition).above []) (inFrame (condition.eval call))
      .value)
    (hbody : Performs i depth 0 ((Control.exec body).above []) (body.exec i.limits call) .completed)
    {rounds : Nat} (enough : i.limits.steps + 1 ≤ rounds + least) :
    Performs i depth least ((Control.loop condition body).above [])
      (repeatWhile i.limits (Stmt.test call condition) (body.exec i.limits call) rounds)
      .completed := by
  induction rounds generalizing least with
  | zero =>
      intro machine stack _ taken sound
      have within : machine.meter.steps ≤ i.limits.steps := sound.calm trivial
      omega
  | succ rounds ih =>
      have tested : ∀ next : Bool → Stepped Completion, Stmt.test call condition >>= next
          = inFrame (condition.eval call) >>= fun value => settle value.truth >>= next := by
        intro next
        rw [test_eq_bind, bind_assoc]
      rw [repeatWhile, tested]
      refine .of_next (fun _ _ => rfl) (.bind (fun _ => rfl) htest.mono fun value => ?_)
      refine .of_next (fun _ _ => rfl) (.after value.truth fun holds => ?_)
      cases holds with
      | false => exact .pure _
      | true =>
          -- the body takes a step, so one round less is enough after it
          have grows : ∀ machine stack completion after, least ≤ machine.meter.steps →
              i.Reaches ⟨.exec body, machine, stack⟩ ⟨.completed completion, after, stack⟩ →
                least + 1 ≤ after.meter.steps := by
            intro machine stack completion after taken reached
            have step := steps_lt_of_exec reached Control.noConfusion
            exact Nat.lt_of_le_of_lt taken step
          have later : i.limits.steps + 1 ≤ rounds + (least + 1) := by omega
          refine .of_next (fun _ _ => rfl) (.bind_le (fun _ => rfl) grows hbody.mono fun completion => ?_)
          cases completion with
          | normal => exact .of_next (fun _ _ => rfl) (ih later)
          | returned value => exact .of_next (fun _ _ => rfl) (.pure _)

/-- A block is left however its statements end. -/
theorem block_performs {declared : List Local} {statements : List Stmt} {run : Stepped Completion}
    (h : Performs i depth 0 ((Control.execAll statements).above []) run .completed) :
    Performs i depth 0 (fun machine stack => Block.begin machine stack ⟨declared, statements⟩)
      (withLocals declared run) .completed := by
  intro machine stack atDepth taken sound
  have reached := h { machine with frame := machine.frame.enterBlock declared }
    (.leave declared :: stack) atDepth taken sound
  refine .tail reached ?_
  unfold withLocals
  cases run { machine with frame := machine.frame.enterBlock declared } <;> rfl

namespace Stmt

mutual

/-- **Transitions execute statements** if they do what calls do. -/
theorem exec_performs (calls : Calls i depth call) : ∀ s : Stmt,
    Performs i depth 0 ((Control.exec s).above []) (s.exec i.limits call) .completed
  | .expression expr => by
      rw [exec]
      refine .step (fun _ _ => rfl) (.bind (fun _ => rfl) (expr.eval_performs calls) fun _ => ?_)
      exact .of_next (fun _ _ => rfl) (.pure _)
  | .ret none => by
      rw [exec]
      exact .step (fun _ _ => rfl) (.pure _)
  | .ret (some expr) => by
      rw [exec]
      refine .step (fun _ _ => rfl)
        (.bind (fun _ => rfl) (expr.eval_performs calls) fun value => ?_)
      exact .of_next (fun _ _ => rfl) (.pure _)
  | .conditional condition thenBranch none => by
      rw [exec, test_eq_bind]
      simp only [bind_assoc]
      refine .step (fun _ _ => rfl)
        (.bind (fun _ => rfl) (condition.eval_performs calls) fun value => ?_)
      refine .of_next (fun _ _ => rfl) (.after value.truth fun holds => ?_)
      cases holds with
      | true => exact exec_performs calls thenBranch
      | false => exact .pure _
  | .conditional condition thenBranch (some elseBranch) => by
      rw [exec, test_eq_bind]
      simp only [bind_assoc]
      refine .step (fun _ _ => rfl)
        (.bind (fun _ => rfl) (condition.eval_performs calls) fun value => ?_)
      refine .of_next (fun _ _ => rfl) (.after value.truth fun holds => ?_)
      cases holds with
      | true => exact exec_performs calls thenBranch
      | false => exact exec_performs calls elseBranch
  | .throw expr => by
      rw [exec]
      refine .step (fun _ _ => rfl)
        (.bind (fun _ => rfl) (expr.eval_performs calls) fun exception => ?_)
      exact .of_next (fun _ _ => rfl) (.throw _)
  | .assign target expr => by
      rw [exec]
      exact .step (fun _ _ => rfl) (.bind (fun _ => rfl) (expr.eval_performs calls)
        fun value => assign_performs target value)
  | .loop condition body => by
      rw [exec]
      refine .step (fun _ _ => rfl) fun machine stack atDepth _ sound => ?_
      -- the rounds are counted from the steps that the machine has taken here
      have enough : i.limits.steps + 1 ≤ roundsLeft i.limits machine + machine.meter.steps := by
        unfold roundsLeft
        omega
      exact loop_performs (condition.eval_performs calls) (exec_performs calls body) enough machine
        stack atDepth (Nat.le_refl _) sound
  | .block ⟨declared, statements⟩ => by
      rw [exec]
      exact .step (fun _ _ => rfl) (block_performs (execAll_performs calls statements))
  | .sequencePoint span statement => by
      rw [exec]
      exact .step (fun _ _ => rfl) (exec_performs calls statement)

theorem execAll_performs (calls : Calls i depth call) : ∀ statements : List Stmt,
    Performs i depth 0 ((Control.execAll statements).above [])
      (execAll i.limits call statements) .completed
  | [] => .of_next (fun _ _ => rfl) (.pure _)
  | s :: rest => by
      rw [execAll]
      refine .of_next (fun _ _ => rfl)
        (.bind (fun _ => rfl) (exec_performs calls s) fun completion => ?_)
      cases completion with
      | normal => exact .of_next (fun _ _ => rfl) (execAll_performs calls rest)
      | returned value => exact .of_next (fun _ _ => rfl) (.pure _)

end

end Stmt

end

/-! ## Calls -/

section

variable {i : Interpreter} {depth : Nat}

/-- A call that is entered is left on the level on which it was made. -/
theorem runBody_performs {call : Caller} (calls : Calls i (depth + 1) call) (callee : Callee)
    (args : List Value) :
    Performs i depth 0
      (fun machine stack => callee.body.begin
        ⟨{ machine.meter with depth := machine.meter.depth + 1 },
          Frame.ofArguments callee.parameters args⟩
        (.call machine.frame machine.meter.depth :: stack))
      (inFrame fun _ => Interpreter.runBody i.limits call callee args) .value := by
  intro machine stack atDepth taken sound
  let inside : Machine :=
    ⟨{ machine.meter with depth := machine.meter.depth + 1 },
      Frame.ofArguments callee.parameters args⟩
  have body : Performs i (depth + 1) 0 (fun machine stack => callee.body.begin machine stack)
      (callee.body.exec i.limits call) .completed :=
    block_performs (Stmt.execAll_performs calls callee.body.statements)
  have reached := body inside _ (congrArg (· + 1) atDepth) taken sound
  refine .tail reached ?_
  dsimp only [inFrame, Interpreter.runBody]
  generalize callee.body.exec i.limits call inside = result
  cases result <;> rfl

/-- A call is entered or refused alike. -/
theorem enter_performs_of {callee : Callee} {args : List Value} {run : Metered Value}
    (entered : depth < i.limits.depth → Performs i depth 0
      (fun machine stack => callee.body.begin
        ⟨{ machine.meter with depth := machine.meter.depth + 1 },
          Frame.ofArguments callee.parameters args⟩
        (.call machine.frame machine.meter.depth :: stack))
      (inFrame fun _ => run) .value) :
    Performs i depth 0 ((Control.enter callee args).above [])
      (inFrame fun _ => Interpreter.enter i.limits callee args run) .value := by
  intro machine stack atDepth taken sound
  have moved : i.next ⟨.enter callee args, machine, stack⟩
      = some (Interpreter.enterCall i.limits callee args machine stack) := rfl
  have soundThere := sound_next sound moved
  refine .head moved ?_
  unfold inFrame Interpreter.enter
  unfold Interpreter.enterCall at soundThere ⊢
  dsimp only at soundThere ⊢
  by_cases arity : callee.parameters.length ≠ args.length
  · rw [if_pos arity, if_pos arity]
    exact .refl
  · rw [if_neg arity] at soundThere ⊢
    rw [if_neg arity]
    by_cases full : i.limits.depth ≤ machine.meter.depth
    · rw [if_pos full, if_pos full]
      exact .refl
    · rw [if_neg full] at soundThere ⊢
      rw [if_neg full]
      exact entered (by omega) machine stack atDepth taken soundThere

/-- **Transitions do what calls do** with as many levels as the limit leaves. -/
theorem enter_performs {levels : Nat} (left : depth + levels = i.limits.depth) (callee : Callee)
    (args : List Value) :
    Performs i depth 0 ((Control.enter callee args).above [])
      (inFrame fun _ => i.callWithin levels callee args) .value := by
  induction levels generalizing depth callee args with
  | zero => exact enter_performs_of fun below => by omega
  | succ levels ih =>
      have further : depth + 1 + levels = i.limits.depth := by omega
      have calls : Calls i (depth + 1) (i.caller levels) := by
        intro method args
        unfold Interpreter.caller
        cases resolved : i.resolve method with
        | ok callee =>
            refine .of_next (fun machine stack => ?_) (ih further callee args)
            change i.next ⟨.pass (.method method) args [], machine, stack⟩ = _
            rw [Interpreter.next, resolved]
            rfl
        | error error =>
            refine .of_next (fun machine stack => ?_) (.throw (.fault error))
            change i.next ⟨.pass (.method method) args [], machine, stack⟩ = _
            rw [Interpreter.next, resolved]
            rfl
      rw [Interpreter.callWithin_succ]
      exact enter_performs_of fun _ => runBody_performs calls callee args

end

/-! ## Invocations -/

/-- Whether a call that was to be entered is over. -/
def Control.EndsCall : Control → Prop
  | .value _ => True
  | .interrupted _ => True
  | _ => False

section

variable {i : Interpreter} {name : String} {args : List Value}

/-- **A call that a sound run makes is over at some point,** on the stack on which it was made. -/
theorem exists_endsCall {callee : Callee} {values : List Value} {machine : Machine}
    {stack : List Pending} (sound : Config.Sound i.limits ⟨.enter callee values, machine, stack⟩) :
    ∃ control after, i.Reaches ⟨.enter callee values, machine, stack⟩ ⟨control, after, stack⟩
      ∧ control.EndsCall ∧ after.meter.depth = machine.meter.depth
      ∧ after.frame = machine.frame := by
  have left : machine.meter.depth + (i.limits.depth - machine.meter.depth) = i.limits.depth :=
    Nat.add_sub_cancel' sound.nested
  have reached := enter_performs left callee values machine stack rfl (Nat.zero_le _) sound
  have soundThere := sound_reaches sound reached
  dsimp only [inFrame] at reached soundThere
  cases called : i.callWithin (i.limits.depth - machine.meter.depth) callee values machine.meter with
  | ok value meter =>
      rw [called] at reached soundThere
      have back : meter.depth = machine.meter.depth := soundThere.depth.trans sound.depth.symm
      exact ⟨_, _, reached, trivial, back, rfl⟩
  | error interrupt meter =>
      rw [called] at reached soundThere
      have back : meter.depth = machine.meter.depth := soundThere.depth.trans sound.depth.symm
      exact ⟨_, _, reached, trivial, back, rfl⟩

/-- A call is refused for its depth if as many calls are pending as the limit allows. -/
theorem next_enter_eq_callDepth {callee : Callee} {values : List Value} {machine : Machine}
    {stack : List Pending} (sound : Config.Sound i.limits ⟨.enter callee values, machine, stack⟩) :
    i.next ⟨.enter callee values, machine, stack⟩
        = some ⟨.interrupted (.fault (.callDepth i.limits.depth callee.name)), machine, stack⟩
      ↔ callee.parameters.length = values.length ∧ openCalls stack = i.limits.depth := by
  have depth : machine.meter.depth = openCalls stack := sound.depth
  have nested : machine.meter.depth ≤ i.limits.depth := sound.nested
  unfold Interpreter.next Interpreter.enterCall
  dsimp only
  by_cases arity : callee.parameters.length = values.length
  · rw [if_neg (not_not_intro arity)]
    by_cases full : i.limits.depth ≤ machine.meter.depth
    · rw [if_pos full]
      exact ⟨fun _ => ⟨arity, by omega⟩, fun _ => rfl⟩
    · rw [if_neg full]
      refine ⟨fun entered => ?_, fun ⟨_, more⟩ => absurd more (by omega)⟩
      cases entered
  · rw [if_pos arity]
    refine ⟨fun refused => ?_, fun ⟨same, _⟩ => absurd same arity⟩
    cases refused

/-- A run ends with the fault for steps if and only if it takes one step beyond the limit. -/
theorem invoke_eq_stepLimit {last : Config} (sound : last.Sound i.limits)
    (ends : last.result? = some (i.run name args)) (limit : Nat) :
    i.invoke name args = .error (.stepLimit limit)
      ↔ limit = i.limits.steps ∧ last.machine.meter.steps = i.limits.steps + 1 := by
  unfold Config.result? at ends
  unfold Interpreter.invoke
  split at ends
  · rename_i value machine
    have within := sound.calm trivial
    rw [← Option.some.inj ends]
    constructor
    · rintro ⟨⟩
    · rintro ⟨-, beyond⟩
      omega
  · rename_i interrupt machine
    rw [← Option.some.inj ends]
    cases interrupt with
    | thrown exception =>
        have within := sound.calm id
        constructor
        · rintro ⟨⟩
        · rintro ⟨-, beyond⟩
          omega
    | fault error =>
        constructor
        · rintro ⟨⟩
          exact ⟨sound.names limit rfl, sound.beyond fun calm => calm trivial⟩
        · rintro ⟨rfl, beyond⟩
          by_cases out : (Interrupt.fault error).OutOfSteps
          · cases error with
            | stepLimit limit => rw [sound.names limit rfl]
            | _ => exact out.elim
          · have within := sound.calm out
            omega
  · cases ends

/-- Transitions from a configuration come to an end if they do so in one way, since there is one. -/
theorem acc_of_reaches {c last : Config} (run : i.Reaches c last) (ended : i.next last = none) :
    Acc (fun d c => i.next c = some d) c := by
  induction run using Relation.ReflTransGen.head_induction_on with
  | refl => exact ⟨_, fun d moves => nomatch ended.symm.trans moves⟩
  | head moved _ ih =>
      refine ⟨_, fun d moves => ?_⟩
      obtain rfl := Option.some.inj (moved.symm.trans moves)
      exact ih

/-- Transitions lead from the start of an invocation to its end, with the result that it has. -/
theorem exists_result (i : Interpreter) (name : String) (args : List Value) :
    ∃ last, i.Reaches (i.start name args) last ∧ i.next last = none
      ∧ last.result? = some (i.run name args) := by
  have sound := sound_start i name args
  unfold Interpreter.start at sound ⊢
  unfold Interpreter.run
  cases found : i.function? name with
  | none => exact ⟨_, .refl, rfl, rfl⟩
  | some callee =>
      rw [found] at sound
      refine ⟨_, enter_performs (Nat.zero_add _) callee args _ [] rfl (Nat.zero_le _) sound, ?_⟩
      unfold inFrame
      dsimp only
      cases i.callWithin i.limits.depth callee args .zero <;> exact ⟨rfl, rfl⟩

/--
**Every invocation ends within its limits.**

Transitions, which are bounded by nothing, come to an end, and this is the end of the run that the
evaluator computes, which is out of steps if and only if it has counted one step beyond the limit. At
every point on the way the counter of calls is the number of calls that are pending, so every call
that is made leaves it as it was, however the call ends, and is refused only if as many calls are
pending as the limit allows.
-/
theorem run_by_transitions (i : Interpreter) (name : String) (args : List Value) :
    (∃ last, i.Reaches (i.start name args) last ∧ i.next last = none
        ∧ last.result? = some (i.run name args)
        ∧ ∀ limit, i.invoke name args = .error (.stepLimit limit)
            ↔ limit = i.limits.steps ∧ last.machine.meter.steps = i.limits.steps + 1)
      ∧ Acc (fun d c => i.next c = some d) (i.start name args)
      ∧ (∀ c, i.Reaches (i.start name args) c →
          c.machine.meter.depth = openCalls c.stack ∧ c.machine.meter.depth ≤ i.limits.depth
            ∧ c.machine.meter.steps ≤ i.limits.steps + 1)
      ∧ ∀ callee values machine stack,
          i.Reaches (i.start name args) ⟨.enter callee values, machine, stack⟩ →
            (i.next ⟨.enter callee values, machine, stack⟩
                = some ⟨.interrupted (.fault (.callDepth i.limits.depth callee.name)), machine, stack⟩
              ↔ callee.parameters.length = values.length ∧ openCalls stack = i.limits.depth)
            ∧ ∃ control after,
                i.Reaches ⟨.enter callee values, machine, stack⟩ ⟨control, after, stack⟩
                  ∧ control.EndsCall ∧ after.meter.depth = machine.meter.depth
                  ∧ after.frame = machine.frame := by
  have sound := sound_start i name args
  obtain ⟨last, reached, ended, result⟩ := exists_result i name args
  have outOfSteps := invoke_eq_stepLimit (sound_reaches sound reached) result
  refine ⟨⟨last, reached, ended, result, outOfSteps⟩, acc_of_reaches reached ended,
    fun c there => ?_, fun callee values machine stack there => ?_⟩
  · have soundThere := sound_reaches sound there
    exact ⟨soundThere.depth, soundThere.nested, soundThere.steps_le⟩
  · have soundThere := sound_reaches sound there
    exact ⟨next_enter_eq_callDepth soundThere, exists_endsCall soundThere⟩

end

end ArgumentGuards
