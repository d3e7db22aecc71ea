import ArgumentGuards.Proofs.Guarded
import ArgumentGuards.Proofs.Lockstep
import Mathlib

/-!
# Lowered modules check their arguments

Guards are statements. They stand inside the block of their function, among the names that it
declares, and call a member of the module. What they are for can be said without any of this, by an
interpreter of modules that have **not** been lowered: when it enters the frame of a function, it
looks at the arguments that are bound to the checked parameters, before it goes on to the body. This
module is about the two being the same in every run of every module.

* A guard that finds its argument takes two steps, and one that does not takes five and a level of
  calls: `checkArgument` says in which order they are taken, so both limits are met at the same
  point.
* Guards read parameters and never variables. So the variables of a body can hide no argument from
  them, and checking before the block is opened is the same (`withLocals_inFrame`).
* In a module that has just been lowered, the helper that the guards call is the standard one,
  whatever the functions of the module are called.

The levels of calls that are left and the depth of the calls that are open add up to the limit. That
is what the induction in `callWithin_simulates` carries along.
-/

namespace ArgumentGuards

/-! ## An interpreter that checks arguments -/

/-- Whether an argument for a parameter is absent. One for a nullable value has to be one. -/
def Parameter.absent (p : Parameter) (value : Value) : Except Interrupt Bool :=
  match p.type.kind, value with
  | .nullableValue, .nullable inner => .ok inner.isNone
  | .nullableValue, _ => .error (mismatch "hasValue")
  | _, .null => .ok true
  | _, .nullable none => .ok true
  | _, _ => .ok false

/-- A callee with the parameters whose arguments are checked when it is entered. -/
structure CheckedCallee extends Callee where
  checked : List Parameter

/-- Functions as they are before lowering, with the members of a module and the bounds of runs. -/
structure CheckedInterpreter where
  functions : List SourceFunction
  members : Members
  limits : Limits

namespace CheckedInterpreter

/-- Counts a step. The step beyond the limit is a fault. -/
def tick (limits : Limits) : Metered Unit := fun meter =>
  let meter := { meter with steps := meter.steps + 1 }
  if limits.steps < meter.steps then .error (.fault (.stepLimit limits.steps)) meter
  else .ok () meter

/-- Faults if no level of calls is left. -/
def needLevel (limits : Limits) : Metered Unit := fun meter =>
  if limits.depth ≤ meter.depth then
    .error (.fault (.callDepth limits.depth "ThrowIfNull")) meter
  else .ok () meter

/-- Throws for an absent argument, which takes a step one level down. -/
def throwAbsent {α : Type} (limits : Limits) (name : String) : Metered α := do
  needLevel limits
  tick limits
  throw (exceptionOf "System.ArgumentNullException" name)

/-- Checks the argument that is bound to a parameter's name. -/
def checkArgument (limits : Limits) (bound : Bindings) (p : Parameter) : Metered Unit := do
  tick limits
  tick limits
  let value ← fetch bound p.name
  if ← settle (p.absent value) then
    tick limits
    tick limits
    throwAbsent limits p.name

/-- Checks the arguments of some parameters, in order. -/
def checkArguments (limits : Limits) (bound : Bindings) : List Parameter → Metered Unit
  | [] => return ()
  | p :: rest => do
    checkArgument limits bound p
    checkArguments limits bound rest

/-- The function that a name calls: of several the last one. -/
def function? (i : CheckedInterpreter) (name : String) : Option CheckedCallee :=
  (i.functions.reverse.find? (·.name = name)).map fun f =>
    ⟨⟨f.name, f.parameters, f.body⟩, f.checked⟩

/-- The member that a name calls. Nothing is checked for members. -/
def member? (i : CheckedInterpreter) (name : String) : Option CheckedCallee :=
  (i.members.get? name).map fun m => ⟨⟨m.name, m.symbol.parameters, m.body⟩, []⟩

/-- What a method calls: members by a synthesized method, functions by an ordinary one. -/
def resolve (i : CheckedInterpreter) (method : Method) : Except EvalError CheckedCallee :=
  match method.kind with
  | .synthesized =>
    match i.member? method.name with
    | some callee => .ok callee
    | none => .error (.unknownFunction method.qualifiedName)
  | .ordinary =>
    match i.function? method.name with
    | some callee => .ok callee
    | none => .error (.unknownFunction method.name)
  | .constructor => .error (.typeMismatch "direct constructor call")

/-- Checks the arguments of a call and runs its body, one level down. -/
def runBody (limits : Limits) (call : Caller) (callee : CheckedCallee) (args : List Value) :
    Metered Value :=
  oneLevelDown (Frame.ofArguments callee.parameters args) do
    inFrame fun frame => checkArguments limits frame.parameters callee.checked
    callee.body.exec limits call

/-- Calls with so many levels left, which are as many as the limit leaves. -/
def callWithin (i : CheckedInterpreter) : Nat → CheckedCallee → List Value → Metered Value
  | 0, callee, args =>
    Interpreter.enter i.limits callee.toCallee args
      (Interpreter.tooDeep i.limits callee.toCallee)
  | levels + 1, callee, args =>
    let call : Caller := fun method args =>
      match i.resolve method with
      | .ok callee => i.callWithin levels callee args
      | .error error => throw (.fault error)
    Interpreter.enter i.limits callee.toCallee args (runBody i.limits call callee args)

/-- How an invocation ends, and its counters then. -/
def run (i : CheckedInterpreter) (name : String) (args : List Value) :
    EStateM.Result Interrupt Meter Value :=
  match i.function? name with
  | some callee => i.callWithin i.limits.depth callee args .zero
  | none => .error (.fault (.unknownFunction name)) .zero

/-- Invokes a function. -/
def invoke (i : CheckedInterpreter) (name : String) (args : List Value) :
    Except EvalError Outcome :=
  match i.run name args with
  | .ok value _ => .ok (.returned value)
  | .error (.thrown exception) _ => .ok (.threw exception)
  | .error (.fault error) _ => .error error

end CheckedInterpreter

/-! ## Reading parameters -/

theorem inFrame_of_ok {α : Type} {run : Frame → Metered α} {frame : Frame} {meter after : Meter}
    {a : α} (h : run frame meter = .ok a after) :
    inFrame run ⟨meter, frame⟩ = .ok a ⟨after, frame⟩ := by
  unfold inFrame
  rw [h]

theorem inFrame_of_error {α : Type} {run : Frame → Metered α} {frame : Frame}
    {meter after : Meter} {i : Interrupt} (h : run frame meter = .error i after) :
    inFrame run ⟨meter, frame⟩ = .error i ⟨after, frame⟩ := by
  unfold inFrame
  rw [h]

theorem inFrame_bind {α β : Type} (run : Frame → Metered α) (next : α → Frame → Metered β) :
    (inFrame fun frame => run frame >>= fun a => next a frame)
      = inFrame run >>= fun a => inFrame (next a) := by
  funext machine
  change _ = EStateM.bind (inFrame run) (fun a => inFrame (next a)) machine
  dsimp only [inFrame, EStateM.bind, bind]
  cases run machine.frame machine.meter with
  | ok a meter => rfl
  | error interrupt meter => rfl

/-- **What reads parameters only can be done before a block is opened.** -/
theorem withLocals_inFrame {α β : Type} (declared : List Local) (read : Bindings → Metered α)
    (next : α → Stepped β) :
    withLocals declared ((inFrame fun frame => read frame.parameters) >>= next)
      = (inFrame fun frame => read frame.parameters) >>= fun a =>
          withLocals declared (next a) := by
  funext machine
  change withLocals declared (EStateM.bind _ next) machine = EStateM.bind _ _ machine
  dsimp only [withLocals, inFrame, EStateM.bind]
  have same : (machine.frame.enterBlock declared).parameters = machine.frame.parameters := rfl
  rw [same]
  cases read machine.frame.parameters machine.meter with
  | ok a meter => rfl
  | error interrupt meter => simp only [Frame.leaveBlock_enterBlock]

theorem takeStep_eq (limits : Limits) :
    takeStep limits = inFrame fun _ => CheckedInterpreter.tick limits := by
  funext machine
  dsimp only [takeStep, inFrame, CheckedInterpreter.tick]
  split <;> rfl

theorem withLocals_nil {α : Type} (run : Stepped α) : withLocals [] run = run := by
  funext ⟨meter, frame⟩
  have same : frame.enterBlock [] = frame := rfl
  dsimp only [withLocals]
  rw [same]
  cases run ⟨meter, frame⟩ <;> rfl

/-- The test of a guard asks whether the argument is absent. -/
theorem test_eq (call : Caller) (p : Parameter) :
    Stmt.test call p.test
      = inFrame fun frame =>
          fetch frame.parameters p.name >>= fun value => settle (p.absent value) := by
  refine congrArg inFrame (funext fun frame => ?_)
  unfold Parameter.test Parameter.absent
  cases p.type.kind with
  | nullableValue =>
      change (((fetch frame.parameters p.name >>= fun value => settle value.holdsValue)
        >>= fun value => settle (UnaryOp.not.apply value)) >>= fun value => settle value.truth) = _
      rw [bind_assoc, bind_assoc]
      refine congrArg _ (funext fun value => ?_)
      cases value with
      | nullable inner => cases inner <;> rfl
      | _ => rfl
  | _ =>
      change ((fetch frame.parameters p.name >>= fun value =>
        settle (BinaryOp.equal.apply value .null)) >>= fun value => settle value.truth) = _
      rw [bind_assoc]
      refine congrArg _ (funext fun value => ?_)
      cases value with
      | nullable inner => cases inner <;> rfl
      | _ => rfl

/-! ## Calling the helper -/

/-- The standard helper as it is called. -/
def helperCallee : Callee :=
  ⟨throwHelper.name, throwHelper.symbol.parameters, throwHelper.body⟩

theorem runBody_helper (limits : Limits) (call : Caller) (name : String) (meter : Meter) :
    Interpreter.runBody limits call helperCallee [.text name] meter
      = (CheckedInterpreter.tick limits >>= fun _ =>
          throw (exceptionOf "System.ArgumentNullException" name)) meter := by
  have body : helperCallee.body.exec limits call
      = Stmt.execAll limits call helperCallee.body.statements :=
    withLocals_nil _
  rw [Interpreter.runBody, body]
  change _ = EStateM.bind _ _ meter
  dsimp only [EStateM.bind, CheckedInterpreter.tick]
  by_cases h : limits.steps < meter.steps + 1
  · simp only [helperCallee, throwHelper, Stmt.execAll, Stmt.exec, bind, EStateM.bind, takeStep,
      if_pos h]
  · simp only [helperCallee, throwHelper, Stmt.execAll, Stmt.exec, bind, EStateM.bind, takeStep,
      if_neg h]
    rfl

/-- The symbol of a member calls that member. -/
theorem resolve_member {i : Interpreter} {member : Member}
    (h : i.lowered.module.members.get? member.name = some member)
    (synthesized : member.symbol.kind = .synthesized) :
    i.resolve member.symbol = .ok ⟨member.name, member.symbol.parameters, member.body⟩ := by
  have found : i.member? member.symbol.name
      = some ⟨member.name, member.symbol.parameters, member.body⟩ :=
    congrArg (Option.map fun m : Member => (⟨m.name, m.symbol.parameters, m.body⟩ : Callee)) h
  simp only [Interpreter.resolve, synthesized, found]

theorem resolve_helper {i : Interpreter}
    (h : i.lowered.module.members.get? throwHelperName = some throwHelper) :
    i.resolve throwHelper.symbol = .ok helperCallee :=
  resolve_member h rfl

theorem caller_member {i : Interpreter} {member : Member}
    (h : i.lowered.module.members.get? member.name = some member)
    (synthesized : member.symbol.kind = .synthesized) (levels : Nat) (args : List Value) :
    i.caller levels member.symbol args
      = i.callWithin levels ⟨member.name, member.symbol.parameters, member.body⟩ args := by
  rw [Interpreter.caller, resolve_member h synthesized]

/-- **A call of the helper throws, if a level of calls is left for it.** -/
theorem caller_helper {i : Interpreter}
    (h : i.lowered.module.members.get? throwHelperName = some throwHelper) {levels : Nat}
    {meter : Meter} (left : meter.depth + levels = i.limits.depth) (name : String) :
    i.caller levels throwHelper.symbol [.text name] meter
      = CheckedInterpreter.throwAbsent i.limits name meter := by
  have called : i.caller levels throwHelper.symbol [.text name]
      = i.callWithin levels helperCallee [.text name] := caller_member h rfl levels _
  rw [called]
  change _ = EStateM.bind _ _ meter
  dsimp only [EStateM.bind, CheckedInterpreter.needLevel]
  cases levels with
  | zero =>
      have full : i.limits.depth ≤ meter.depth := Nat.le_of_eq left.symm
      rw [if_pos full, Interpreter.callWithin, Interpreter.enter]
      exact (if_neg (not_not_intro rfl)).trans (if_pos full)
  | succ levels =>
      have free : meter.depth < i.limits.depth := by omega
      rw [if_neg (Nat.not_le_of_lt free), Interpreter.callWithin_of_fits rfl free]
      exact runBody_helper i.limits _ name meter

/-! ## Guards in front of a body -/

section

open CheckedInterpreter (checkArgument checkArguments throwAbsent)

variable {limits : Limits} {depth : Nat} {call call' : Caller}

/-- Whether calls of the standard helper throw at a depth. -/
def Throws (call : Caller) (limits : Limits) (depth : Nat) : Prop :=
  ∀ name meter, meter.depth = depth →
    call throwHelper.symbol [.text name] meter = throwAbsent limits name meter

/-- However a throw ends, it ends in an error, and nothing but the steps has changed. -/
theorem throwAbsent_run (limits : Limits) (name : String) (meter : Meter) :
    ∃ interrupt steps, ∀ α : Type,
      (throwAbsent limits name : Metered α) meter = .error interrupt { meter with steps } := by
  dsimp only [throwAbsent, bind, EStateM.bind, CheckedInterpreter.needLevel,
    CheckedInterpreter.tick]
  by_cases full : limits.depth ≤ meter.depth
  · simp only [if_pos full]
    exact ⟨_, meter.steps, fun _ => rfl⟩
  · by_cases beyond : limits.steps < meter.steps + 1
    · simp only [if_neg full, if_pos beyond]
      exact ⟨_, meter.steps + 1, fun _ => rfl⟩
    · simp only [if_neg full, if_neg beyond]
      exact ⟨_, meter.steps + 1, fun _ => rfl⟩

theorem inFrame_throwAbsent_bind {α β : Type} (name : String) (next : α → Stepped β) :
    (inFrame fun _ => throwAbsent limits name) >>= next
      = inFrame fun _ => throwAbsent limits name := by
  funext machine
  obtain ⟨interrupt, steps, ends⟩ := throwAbsent_run limits name machine.meter
  rw [bind_of_error (inFrame_of_error (ends α))]
  exact (inFrame_of_error (ends β)).symm

theorem throwAbsent_simulates {α : Type} (name : String) :
    Simulates (α := α) (Meter.Beside Eq depth) unexcused (throwAbsent limits name)
      (throwAbsent limits name) := by
  intro m n meters
  obtain rfl := meters.eq
  obtain ⟨interrupt, steps, ends⟩ := throwAbsent_run limits name m
  rw [ends α]
  exact .error ⟨meters.left, meters.left, rfl⟩

theorem helperCall_simulates (throws : Throws call limits depth) (name : String) :
    Simulates (Machine.Beside Eq depth) unexcused
      (inFrame fun frame =>
        (Expr.call throwHelper.symbol [.literal (.text name)]).eval call frame)
      (inFrame fun _ => throwAbsent limits name) := by
  refine inFrame_simulates fun frame m n meters => ?_
  have called : (Expr.call throwHelper.symbol [.literal (.text name)]).eval call frame m
      = throwAbsent limits name m :=
    throws name m meters.left
  rw [called]
  exact throwAbsent_simulates name m n meters

/-- **A guard does what a check does.** -/
theorem guard_simulates (throws : Throws call limits depth) (p : Parameter) :
    Simulates (Machine.Beside Eq depth) unexcused
      ((p.guardWith throwHelper.symbol).exec limits call)
      ((inFrame fun frame => checkArgument limits frame.parameters p) >>= fun _ =>
        pure .normal) := by
  have step : Simulates (Machine.Beside Eq depth) unexcused (takeStep limits) (takeStep limits) :=
    takeStep_simulates (Paced.same limits)
  simp only [Parameter.guardWith, Stmt.exec, checkArgument, test_eq, inFrame_bind, ← takeStep_eq,
    bind_assoc]
  refine step.bind fun _ => step.bind fun _ =>
    (inFrame_simulates fun frame => fetch_simulates _ _).bind fun value =>
    (inFrame_simulates fun _ => .settle _).bind fun absent => ?_
  cases absent with
  | false => exact .pure Completion.normal
  | true =>
      -- the branch and the statement in it take a step each, and the call does not come back
      simp only [Stmt.execAll, Stmt.exec, withLocals_nil, if_true, inFrame_bind, ← takeStep_eq,
        bind_assoc, pure_bind]
      refine step.bind fun _ => step.bind fun _ => ?_
      rw [inFrame_throwAbsent_bind]
      have returns := (helperCall_simulates throws p.name).bind fun _ =>
        step.bind fun _ => Simulates.pure (Completion.returned .null)
      rwa [inFrame_throwAbsent_bind] at returns

theorem guards_simulate {checked : List Parameter}
    (throws : checked ≠ [] → Throws call limits depth)
    (calls : call.Simulates Eq depth unexcused call') (statements : List Stmt) :
    Simulates (Machine.Beside Eq depth) unexcused
      (Stmt.execAll limits call
        (checked.map (Parameter.guardWith throwHelper.symbol) ++ statements))
      ((inFrame fun frame => checkArguments limits frame.parameters checked) >>= fun _ =>
        Stmt.execAll limits call' statements) := by
  induction checked with
  | nil => exact Stmt.execAll_simulates (Paced.same limits) calls statements
  | cons p rest ih =>
      have checks : ((inFrame fun frame => checkArguments limits frame.parameters (p :: rest))
            >>= fun _ => Stmt.execAll limits call' statements)
          = ((inFrame fun frame => checkArgument limits frame.parameters p) >>= fun _ =>
              pure Completion.normal) >>= fun completion =>
                completion.casesOn
                  ((inFrame fun frame => checkArguments limits frame.parameters rest) >>= fun _ =>
                    Stmt.execAll limits call' statements)
                  fun value => pure (.returned value) := by
        -- a check that ends without a fault is one that goes on
        simp only [checkArguments, inFrame_bind, bind_assoc, pure_bind]
      rw [List.map_cons, List.cons_append, Stmt.execAll, checks]
      have throwing := throws (List.cons_ne_nil p rest)
      refine (guard_simulates throwing p).bind fun completion => ?_
      cases completion with
      | normal => exact ih fun _ => throwing
      | returned value => exact .pure _

/-- **A guarded body does what its checks and then the body do.** The checks can be done outside of
the block, where its variables are not there yet. -/
theorem body_simulates {checked : List Parameter}
    (throws : checked ≠ [] → Throws call limits depth)
    (calls : call.Simulates Eq depth unexcused call') (b : Block) :
    Simulates (Machine.Beside Eq depth) unexcused
      (Block.exec limits call
        ⟨b.locals, checked.map (Parameter.guardWith throwHelper.symbol) ++ b.statements⟩)
      ((inFrame fun frame => checkArguments limits frame.parameters checked) >>= fun _ =>
        b.exec limits call') := by
  have inside := withLocals_simulates b.locals (guards_simulate throws calls b.statements)
  rwa [withLocals_inFrame b.locals fun bound => checkArguments limits bound checked] at inside

end

/-! ## Calls of guarded functions -/

/-- What lowering makes of a callee. -/
def CheckedCallee.guarded (callee : CheckedCallee) : Callee :=
  ⟨callee.name, callee.parameters, ⟨callee.body.locals,
    callee.checked.map (Parameter.guardWith throwHelper.symbol) ++ callee.body.statements⟩⟩

/-- What holds of a module that has been lowered, against the functions as they were. -/
structure Guarding (i : Interpreter) (j : CheckedInterpreter) : Prop where
  functions : i.lowered.functions = j.functions.map (SourceFunction.guarded throwHelper.symbol)
  members : i.lowered.module.members = j.members
  limits : i.limits = j.limits
  /-- With a parameter to check, the helper that guards call is there: the standard one. -/
  helper : ∀ f ∈ j.functions, f.checked ≠ [] →
    j.members.get? throwHelperName = some throwHelper

namespace Guarding

variable {i : Interpreter} {j : CheckedInterpreter}

theorem function?_eq (h : Guarding i j) (name : String) :
    i.function? name = (j.function? name).map CheckedCallee.guarded := by
  unfold Interpreter.function? CheckedInterpreter.function?
  rw [h.functions, ← List.map_reverse, List.find?_map, Option.map_map, Option.map_map]
  rfl

theorem member?_eq (h : Guarding i j) (name : String) :
    i.member? name = (j.member? name).map CheckedCallee.guarded := by
  unfold Interpreter.member? CheckedInterpreter.member?
  rw [h.members, Option.map_map]
  refine congrArg (Option.map · _) (funext fun member => ?_)
  obtain ⟨symbol, ⟨locals, statements⟩⟩ := member
  rfl

theorem resolve_eq (h : Guarding i j) (method : Method) :
    i.resolve method = (j.resolve method).map CheckedCallee.guarded := by
  unfold Interpreter.resolve CheckedInterpreter.resolve
  rw [h.function?_eq, h.member?_eq]
  cases method.kind with
  | synthesized => cases j.member? method.name <;> rfl
  | ordinary => cases j.function? method.name <;> rfl
  | constructor => rfl

theorem helper_of_function? (h : Guarding i j) {name : String} {callee : CheckedCallee}
    (found : j.function? name = some callee) (checks : callee.checked ≠ []) :
    j.members.get? throwHelperName = some throwHelper := by
  obtain ⟨f, hf, rfl⟩ := Option.map_eq_some_iff.mp found
  exact h.helper f (List.mem_reverse.mp (List.mem_of_find?_eq_some hf)) checks

theorem helper_of_resolve (h : Guarding i j) {method : Method} {callee : CheckedCallee}
    (found : j.resolve method = .ok callee) (checks : callee.checked ≠ []) :
    j.members.get? throwHelperName = some throwHelper := by
  unfold CheckedInterpreter.resolve at found
  cases hk : method.kind with
  | synthesized =>
      rw [hk] at found
      cases hm : j.member? method.name with
      | none => rw [hm] at found; cases found
      | some member =>
          rw [hm] at found
          injection found with same
          subst same
          obtain ⟨m, -, rfl⟩ := Option.map_eq_some_iff.mp hm
          exact absurd rfl checks
  | ordinary =>
      rw [hk] at found
      cases hf : j.function? method.name with
      | none => rw [hf] at found; cases found
      | some callee' =>
          rw [hf] at found
          injection found with same
          subst same
          exact h.helper_of_function? hf checks
  | constructor => rw [hk] at found; cases found

/-- **Calls of guarded functions simulate calls that check their arguments**, if the levels that are
left are those that the limit leaves at this depth. -/
theorem callWithin_simulates (h : Guarding i j) {levels depth : Nat}
    (left : depth + levels = i.limits.depth) {callee : CheckedCallee}
    (helper : callee.checked ≠ [] → j.members.get? throwHelperName = some throwHelper)
    (args : List Value) :
    Simulates (Meter.Beside Eq depth) unexcused (i.callWithin levels callee.guarded args)
      (j.callWithin levels callee args) := by
  induction levels generalizing depth callee args with
  | zero =>
      rw [Interpreter.callWithin, CheckedInterpreter.callWithin, h.limits]
      exact enter_simulates (.throw _) (.inl rfl)
  | succ levels ih =>
      -- bodies run one level further down, with one level less below them
      have below : depth + 1 + levels = i.limits.depth := by omega
      rw [Interpreter.callWithin_succ, Interpreter.runBody_eq, CheckedInterpreter.callWithin,
        ← h.limits]
      refine enter_simulates (oneLevelDown_simulates (body_simulates ?_ ?_ callee.body)) (.inl rfl)
      · intro checks name meter atDepth
        exact caller_helper (h.members ▸ helper checks) (atDepth ▸ below) name
      · intro method args
        dsimp only [Interpreter.caller]
        rw [h.resolve_eq]
        cases found : j.resolve method with
        | ok callee => exact ih below (h.helper_of_resolve found) args
        | error error => exact .throw _

theorem run_eq (h : Guarding i j) (name : String) (args : List Value) :
    i.run name args = j.run name args := by
  unfold Interpreter.run CheckedInterpreter.run
  rw [h.function?_eq]
  cases found : j.function? name with
  | none => rfl
  | some callee =>
      have left : 0 + i.limits.depth = i.limits.depth := Nat.zero_add _
      have ends := h.callWithin_simulates left (h.helper_of_function? found) args .zero .zero
        ⟨rfl, rfl, rfl⟩
      rw [h.limits] at ends
      rw [h.limits]
      exact ends.eq

theorem invoke_eq (h : Guarding i j) (name : String) (args : List Value) :
    i.invoke name args = j.invoke name args := by
  unfold Interpreter.invoke CheckedInterpreter.invoke
  cases ends : j.run name args with
  | ok value meter => simp only [h.run_eq, ends]
  | error interrupt meter => cases interrupt <;> simp only [h.run_eq, ends]

end Guarding

/-! ## Modules that have been lowered -/

theorem lower_eq_ok {source : SourceModule} {id : String} {options : LoweringOptions}
    {lowered : LoweredModule} (h : source.lower id options = .ok lowered) :
    lowered.functions = source.functions.map (SourceFunction.guarded throwHelper.symbol)
      ∧ lowered.module.members = Members.empty.afterGuards (checkedOf source.functions) := by
  have runs := lowerAll_checks source.functions Members.empty
  unfold Checks at runs
  unfold SourceModule.lower CompiledModule.lower lowerIn at h
  dsimp only at h
  by_cases stopped : (options.cancelled && !source.functions.isEmpty) = true
  · rw [if_pos stopped] at h
    cases h
  · rw [if_neg stopped, runs] at h
    cases hv : verdict (checkedOf source.functions)
        (source.functions.map (SourceFunction.guarded Members.empty.helper)) with
    | error error => rw [hv] at h; cases h
    | ok functions =>
        obtain ⟨rfl, clean⟩ := verdict_eq_ok hv
        rw [hv, guardedPart_of_forall clean] at h
        injection h with h
        subst h
        exact ⟨rfl, rfl⟩

theorem guarding_of_lower {source : SourceModule} {id : String} {options : LoweringOptions}
    {lowered : LoweredModule} (h : source.lower id options = .ok lowered) (limits : Limits) :
    Guarding ⟨lowered, limits⟩ ⟨source.functions, lowered.module.members, limits⟩ := by
  obtain ⟨functions, members⟩ := lower_eq_ok h
  refine ⟨functions, rfl, rfl, fun f hf checks => ?_⟩
  have some : checkedOf source.functions ≠ [] := fun none =>
    checks (List.flatMap_eq_nil_iff.mp none f hf)
  dsimp only
  rw [members, Members.afterGuards, if_neg (by rwa [List.isEmpty_iff])]
  rfl

/-- What is called by the name of a function once that has been lowered. -/
def SourceFunction.callee (f : SourceFunction) : Callee :=
  ⟨f.name, f.parameters, (f.guarded throwHelper.symbol).body⟩

/-- Of things with different names each one is found by its own. -/
theorem find?_name {α : Type} {name : α → String} {xs : List α} (distinct : (xs.map name).Nodup)
    {x : α} (hx : x ∈ xs) : xs.find? (fun y => name y = name x) = some x := by
  induction xs with
  | nil => cases hx
  | cons y rest ih =>
      obtain ⟨fresh, others⟩ := List.nodup_cons.mp distinct
      rcases List.mem_cons.mp hx with rfl | below
      · exact List.find?_cons_of_pos (decide_eq_true rfl)
      · have differs : name y ≠ name x := fun same =>
          fresh (same ▸ List.mem_map_of_mem below)
        rw [List.find?_cons_of_neg (by rwa [decide_eq_true_eq])]
        exact ih others below

/-- Among functions with different names each one is found by its own. -/
theorem function?_guarded {source : SourceModule} {id : String} {options : LoweringOptions}
    {lowered : LoweredModule} (h : source.lower id options = .ok lowered)
    (distinct : (source.functions.map SourceFunction.name).Nodup) {f : SourceFunction}
    (hf : f ∈ source.functions) :
    lowered.function? f.name = some (f.guarded throwHelper.symbol) := by
  have found : source.functions.find?
      ((fun g => decide (g.name = f.name)) ∘ SourceFunction.guarded throwHelper.symbol) = some f :=
    find?_name distinct hf
  unfold LoweredModule.function?
  rw [(lower_eq_ok h).1, List.find?_map, found]
  rfl

/-- Each one is called by its own name, too. -/
theorem function?_of_mem {source : SourceModule} {id : String} {options : LoweringOptions}
    {lowered : LoweredModule} (h : source.lower id options = .ok lowered)
    (distinct : (source.functions.map SourceFunction.name).Nodup) (limits : Limits)
    {f : SourceFunction} (hf : f ∈ source.functions) :
    Interpreter.function? ⟨lowered, limits⟩ f.name = some f.callee := by
  have backwards : (source.functions.reverse.map SourceFunction.name).Nodup := by
    rw [List.map_reverse]
    exact List.nodup_reverse.mpr distinct
  have found : source.functions.reverse.find?
      ((fun g => decide (g.name = f.name)) ∘ SourceFunction.guarded throwHelper.symbol) = some f :=
    find?_name backwards (List.mem_reverse.mpr hf)
  unfold Interpreter.function?
  rw [(lower_eq_ok h).1, ← List.map_reverse, List.find?_map, found]
  rfl

/--
**A lowered module runs as its source does when arguments are checked on entry.**

Whatever the functions of the source are, within whatever limits and for whatever arguments: the
value, the exception or the fault is the same, and so are the counters.
-/
theorem run_lowered {source : SourceModule} {id : String} {options : LoweringOptions}
    {lowered : LoweredModule} (h : source.lower id options = .ok lowered) (limits : Limits)
    (name : String) (args : List Value) :
    Interpreter.run ⟨lowered, limits⟩ name args
        = CheckedInterpreter.run ⟨source.functions, lowered.module.members, limits⟩ name args
      ∧ Interpreter.invoke ⟨lowered, limits⟩ name args
        = CheckedInterpreter.invoke ⟨source.functions, lowered.module.members, limits⟩ name args :=
  have guarding := guarding_of_lower h limits
  ⟨guarding.run_eq name args, guarding.invoke_eq name args⟩

/-- Two functions that check their argument, the first of which calls the second one with null. -/
def nestedChecks : SourceModule :=
  let checked (name : String) : List Parameter := [⟨name, .string, true, 0⟩]
  let inner : Method := ⟨"inner", "", checked "t", .void, .ordinary⟩
  ⟨"nested", none,
    [⟨"outer", checked "s", .void, ⟨[], [.expression (.call inner [.literal .null])]⟩⟩,
      ⟨"inner", checked "t", .void, .empty⟩]⟩

/-- The outer argument passes. The exception is the inner one, with the steps of both checks. -/
theorem run_lowered_nested :
    ∃ lowered, nestedChecks.lower "id" {} = .ok lowered
      ∧ Interpreter.run ⟨lowered, {}⟩ "outer" [.text "x"]
        = CheckedInterpreter.run ⟨nestedChecks.functions, lowered.module.members, {}⟩ "outer"
            [.text "x"]
      ∧ Interpreter.run ⟨lowered, {}⟩ "outer" [.text "x"]
        = .error (exceptionOf "System.ArgumentNullException" "t") ⟨8, 0⟩ := by
  have lowers : nestedChecks.lower "id" {}
      = .ok ⟨⟨"id", "nested", Members.empty.withHelper⟩,
          nestedChecks.functions.map (SourceFunction.guarded throwHelper.symbol)⟩ := rfl
  exact ⟨_, lowers, (run_lowered lowers {} "outer" [.text "x"]).1, by cbv⟩

end ArgumentGuards
