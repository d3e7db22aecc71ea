import ArgumentGuards.Proofs.CheckedEntry
import ArgumentGuards.Proofs.HigherLimits
import Mathlib

/-!
# Lowering what has been lowered

The functions of a lowered module can be taken as a module source again: they have the same
parameters, still marked as checked, and bodies that begin with guards. Lowering them once more puts
the same guards in front of the guards.

The second guards are never of use. Nothing is assigned between a guard and its copy, so an argument
that has passed the first one passes the other (`recheck`), and all that it costs is two steps. So
the module that was lowered twice simulates the one that was lowered once, never with fewer steps
taken, and excused only when it is out of steps. The guards of both are met as checks on entry,
which can be done before a block is opened (`body_simulates`).
-/

namespace ArgumentGuards

open CheckedInterpreter (tick needLevel throwAbsent checkArgument checkArguments)

/-! ## The functions of a lowered module as a source -/

/-- A lowered function as it would be declared. -/
def LoweredFunction.toSource (f : LoweredFunction) : SourceFunction :=
  ⟨f.name, f.parameters, f.returnType, f.body⟩

/-- The functions of a lowered module as a new module source. -/
def LoweredModule.toSource (lowered : LoweredModule) : SourceModule :=
  ⟨lowered.module.name, none, lowered.functions.map LoweredFunction.toSource⟩

/-- The function with its guards once more in front of those it has. -/
def LoweredFunction.guardedAgain (f : LoweredFunction) : LoweredFunction :=
  { f with body := ⟨f.body.locals, f.body.statements.take f.guards ++ f.body.statements⟩ }

theorem take_guards (f : SourceFunction) (helper : Method) :
    (f.guarded helper).body.statements.take (f.guarded helper).guards
      = f.checked.map (Parameter.guardWith helper) :=
  List.take_left' (List.length_map _)

theorem guarded_toSource_guarded (f : SourceFunction) (helper : Method) :
    (f.guarded helper).toSource.guarded helper = (f.guarded helper).guardedAgain := by
  unfold LoweredFunction.guardedAgain
  rw [take_guards]
  rfl

theorem length_guardedAgain (f : SourceFunction) (helper : Method) :
    (f.guarded helper).guardedAgain.body.statements.length
      = (f.guarded helper).guards + (f.guarded helper).body.statements.length := by
  unfold LoweredFunction.guardedAgain
  rw [take_guards, List.length_append, List.length_map]
  rfl

theorem checkedOf_toSource (fs : List SourceFunction) (helper : Method) :
    checkedOf ((fs.map (SourceFunction.guarded helper)).map LoweredFunction.toSource)
      = checkedOf fs := by
  unfold checkedOf
  rw [List.map_map, List.flatMap_map]
  rfl

/-- Whether a run over some functions is cancelled before it takes the first one. -/
def LoweringOptions.stop (options : LoweringOptions) (fs : List SourceFunction) : Bool :=
  options.cancelled && !fs.isEmpty

theorem lower_eq (source : SourceModule) (id : String) {options : LoweringOptions}
    (runs : options.stop source.functions = false) :
    source.lower id options
      = verdict (checkedOf source.functions)
          ⟨⟨id, source.name, Members.empty.afterGuards (checkedOf source.functions)⟩,
            source.functions.map (SourceFunction.guarded throwHelper.symbol)⟩ := by
  have run := lowerAll_checks source.functions Members.empty
  unfold Checks at run
  unfold SourceModule.lower CompiledModule.lower lowerIn
  dsimp only
  rw [← LoweringOptions.stop, runs, if_neg Bool.false_ne_true, run]
  rcases all_or_first_plain (checkedOf source.functions)
    with clean | ⟨before, p, rest, split, hp, clean⟩
  · rw [verdict_of_forall clean, verdict_of_forall clean, guardedPart_of_forall clean]
    rfl
  · rw [split, verdict_append_plain clean hp, verdict_append_plain clean hp]
    rfl

theorem stop_eq_false_of_lower {source : SourceModule} {id : String} {options : LoweringOptions}
    {lowered : LoweredModule} (h : source.lower id options = .ok lowered) :
    options.stop source.functions = false := by
  by_contra stopped
  unfold SourceModule.lower CompiledModule.lower lowerIn at h
  dsimp only at h
  rw [← LoweringOptions.stop, if_pos (Bool.eq_true_of_not_eq_false stopped)] at h
  cases h

/-- **What has been lowered can be lowered again**, and its functions get their guards once more. -/
theorem lower_toSource {source : SourceModule} {id : String} {options : LoweringOptions}
    {lowered : LoweredModule} (h : source.lower id options = .ok lowered) (newId : String)
    {again : LoweringOptions} (runs : again.cancelled = true → options.cancelled = true) :
    lowered.toSource.lower newId again
      = .ok ⟨⟨newId, lowered.module.name, lowered.module.members⟩,
          lowered.functions.map LoweredFunction.guardedAgain⟩ := by
  have began := stop_eq_false_of_lower h
  rw [lower_eq source id began] at h
  obtain ⟨rfl, clean⟩ := verdict_eq_ok h
  have begins : again.stop ((source.functions.map (SourceFunction.guarded throwHelper.symbol)).map
      LoweredFunction.toSource) = false := by
    unfold LoweringOptions.stop at began ⊢
    cases hc : again.cancelled with
    | false => rfl
    | true =>
        rw [runs hc] at began
        simpa using began
  rw [lower_eq _ newId begins]
  dsimp only [LoweredModule.toSource]
  have functions :
      ((source.functions.map (SourceFunction.guarded throwHelper.symbol)).map
          LoweredFunction.toSource).map (SourceFunction.guarded throwHelper.symbol)
        = (source.functions.map (SourceFunction.guarded throwHelper.symbol)).map
            LoweredFunction.guardedAgain := by
    rw [List.map_map, List.map_map, List.map_map]
    exact List.map_congr_left fun f _ => guarded_toSource_guarded f throwHelper.symbol
  rw [checkedOf_toSource, verdict_of_forall clean, functions]

/-! ## Checks that are made twice -/

/-- A run that is never ahead of the other one in steps left. -/
theorem Paced.slower (limits : Limits) :
    Paced (fun m n => n ≤ m) Interrupt.OutOfSteps limits limits where
  succ := Nat.succ_le_succ
  bound := .inr ⟨trivial, fun fewer => Nat.add_le_add_left fewer limits.steps⟩

section

variable {steps : Nat → Nat → Prop} {excused : Interrupt → Prop} {limits : Limits} {depth : Nat}

theorem simulates_of_inFrame {α : Type} {run run' : Metered α}
    (h : Simulates (Machine.Beside steps depth) excused (inFrame fun _ => run)
      (inFrame fun _ => run')) :
    Simulates (Meter.Beside steps depth) excused run run' := by
  intro m n meters
  have ends := h ⟨m, ⟨[], []⟩⟩ ⟨n, ⟨[], []⟩⟩ ⟨meters, rfl⟩
  dsimp only [inFrame] at ends
  generalize run m = result, run' n = result' at ends ⊢
  cases result with
  | ok a m =>
      cases result' with
      | ok b n => cases ends with | ok after => exact .ok after.meter
      | error j n => cases ends
  | error i m =>
      cases result' with
      | ok b n => cases ends with | excuse isExcused => exact .excuse isExcused
      | error j n =>
          cases ends with
          | error after => exact .error after.meter
          | excuse isExcused => exact .excuse isExcused

theorem tick_simulates (pace : Paced steps excused limits limits) :
    Simulates (Meter.Beside steps depth) excused (tick limits) (tick limits) := by
  refine simulates_of_inFrame ?_
  rw [← takeStep_eq]
  exact takeStep_simulates pace

theorem needLevel_simulates :
    Simulates (Meter.Beside steps depth) excused (needLevel limits) (needLevel limits) := by
  intro m n meters
  dsimp only [needLevel]
  rw [meters.left, meters.right]
  split
  · exact .error meters
  · exact .ok meters

theorem checkArgument_simulates (pace : Paced steps excused limits limits) (bound : Bindings)
    (p : Parameter) :
    Simulates (Meter.Beside steps depth) excused (checkArgument limits bound p)
      (checkArgument limits bound p) := by
  have step : Simulates (Meter.Beside steps depth) excused (tick limits) (tick limits) :=
    tick_simulates pace
  unfold checkArgument
  refine step.bind fun _ => step.bind fun _ => (fetch_simulates bound p.name).bind fun value =>
    (Simulates.settle _).bind fun absent => .ite absent ?_ (.pure _)
  exact step.bind fun _ => step.bind fun _ => needLevel_simulates.bind fun _ =>
    step.bind fun _ => .throw _

theorem checkArguments_simulates (pace : Paced steps excused limits limits) (bound : Bindings)
    (ps : List Parameter) :
    Simulates (Meter.Beside steps depth) excused (checkArguments limits bound ps)
      (checkArguments limits bound ps) := by
  induction ps with
  | nil => exact .pure _
  | cons p rest ih => exact (checkArgument_simulates pace bound p).bind fun _ => ih

/-! ### What passes a check passes it again -/

/-- The name of a parameter is bound to an argument that is there. -/
def Passes (bound : Bindings) (p : Parameter) : Prop :=
  ∃ value, bound.lookup p.name = some value ∧ p.absent value = .ok false

/-- A run that does nothing but take steps, as long as there are any. -/
def Idles (limits : Limits) (run : Metered Unit) : Prop :=
  ∀ meter, (∃ steps, meter.steps ≤ steps ∧ run meter = .ok () { meter with steps })
    ∨ ∃ after, run meter = .error (.fault (.stepLimit limits.steps)) after

theorem Idles.tick (limits : Limits) : Idles limits (tick limits) := by
  intro meter
  dsimp only [CheckedInterpreter.tick]
  split
  · exact .inr ⟨_, rfl⟩
  · exact .inl ⟨meter.steps + 1, Nat.le_succ _, rfl⟩

theorem Idles.bind {first second : Metered Unit} (hfirst : Idles limits first)
    (hsecond : Idles limits second) : Idles limits (first >>= fun _ => second) := by
  intro meter
  rcases hfirst meter with ⟨steps, le, ends⟩ | ⟨after, ends⟩
  · rw [bind_of_ok ends]
    rcases hsecond { meter with steps } with ⟨more, le', ends'⟩ | ⟨after, ends'⟩
    · exact .inl ⟨more, Nat.le_trans le le', ends'⟩
    · exact .inr ⟨after, ends'⟩
  · exact .inr ⟨after, bind_of_error ends⟩

theorem passes_of_checkArgument {bound : Bindings} {p : Parameter} {meter after : Meter}
    (h : checkArgument limits bound p meter = .ok () after) : Passes bound p := by
  unfold checkArgument at h
  obtain ⟨-, m₁, -, h⟩ := ok_of_bind h
  obtain ⟨-, m₂, -, h⟩ := ok_of_bind h
  obtain ⟨value, m₃, fetched, h⟩ := ok_of_bind h
  obtain ⟨absent, m₄, settled, h⟩ := ok_of_bind h
  have found : bound.lookup p.name = some value := by
    unfold fetch at fetched
    cases hl : bound.lookup p.name with
    | some other => rw [hl] at fetched; cases fetched; rfl
    | none => rw [hl] at fetched; cases fetched
  have answered : p.absent value = .ok absent := by
    unfold settle at settled
    cases ha : p.absent value with
    | ok answer => rw [ha] at settled; cases settled; rfl
    | error i => rw [ha] at settled; cases settled
  cases absent with
  | false => exact ⟨value, found, answered⟩
  | true =>
      -- an absent argument throws, so the check does not come to its end
      obtain ⟨-, m₅, -, h⟩ := ok_of_bind h
      obtain ⟨-, m₆, -, h⟩ := ok_of_bind h
      obtain ⟨interrupt, steps, throws⟩ := throwAbsent_run limits p.name m₆
      rw [throws Unit] at h
      cases h

/-- An argument that passes costs two steps. -/
theorem Passes.checkArgument_eq {bound : Bindings} {p : Parameter} (h : Passes bound p) :
    checkArgument limits bound p = tick limits >>= fun _ => tick limits := by
  obtain ⟨value, found, there⟩ := h
  unfold checkArgument fetch
  rw [found]
  simp only [pure_bind, there, settle, Bool.false_eq_true, if_false]
  exact congrArg (tick limits >>= ·) (funext fun _ => bind_pure _)

theorem Passes.idles {bound : Bindings} {p : Parameter} (h : Passes bound p) :
    Idles limits (checkArgument limits bound p) := by
  rw [h.checkArgument_eq]
  exact (Idles.tick limits).bind (Idles.tick limits)

/-- **Arguments that pass their checks pass them again**, and nothing but steps is lost. -/
theorem recheck {bound : Bindings} {ps : List Parameter} {meter after : Meter}
    (h : checkArguments limits bound ps meter = .ok () after) :
    Idles limits (checkArguments limits bound ps) := by
  induction ps generalizing meter with
  | nil => exact fun meter => .inl ⟨meter.steps, Nat.le_refl _, rfl⟩
  | cons p rest ih =>
      obtain ⟨⟨⟩, middle, first, others⟩ := ok_of_bind h
      exact (passes_of_checkArgument first).idles.bind (ih others)

theorem recheck_simulates (bound : Bindings) (ps : List Parameter) :
    Simulates (Meter.Beside (fun m n => n ≤ m) depth) Interrupt.OutOfSteps
      (checkArguments limits bound ps >>= fun _ => checkArguments limits bound ps)
      (checkArguments limits bound ps) := by
  intro m n meters
  have first := checkArguments_simulates (Paced.slower limits) bound ps m n meters
  cases ends : checkArguments limits bound ps m with
  | error i m' =>
      rw [ends] at first
      rw [bind_of_error ends]
      generalize checkArguments limits bound ps n = result at first ⊢
      cases first with
      | error after => exact .error after
      | excuse isExcused => exact .excuse isExcused
  | ok a m' =>
      rw [ends] at first
      rw [bind_of_ok ends]
      generalize checkArguments limits bound ps n = result at first ⊢
      cases first with
      | ok after =>
          rcases recheck ends m' with ⟨more, le, ends'⟩ | ⟨last, ends'⟩
          · rw [ends']
            exact .ok ⟨after.left, after.right, Nat.le_trans after.steps le⟩
          · rw [ends']
            exact .excuse trivial

end

/-! ## Bodies that are guarded twice -/

theorem Simulates.agree {α : Type} {depth : Nat} {run other : Stepped α}
    (h : Simulates (Machine.Beside Eq depth) unexcused run other) {machine : Machine}
    (atDepth : machine.meter.depth = depth) : run machine = other machine := by
  have ends := h machine machine ⟨⟨atDepth, atDepth, rfl⟩, rfl⟩
  generalize run machine = result, other machine = result' at ends ⊢
  have same {m n : Machine} (beside : m.Beside Eq depth n) : m = n := by
    obtain ⟨meter, frame⟩ := m
    obtain ⟨meter', frame'⟩ := n
    exact congr (congrArg Machine.mk beside.meter.eq) beside.frame
  cases ends with
  | ok after => rw [same after]
  | error after => rw [same after]
  | excuse isExcused => exact isExcused.elim

section

variable {limits : Limits} {depth : Nat} {call call' : Caller}

/-- The block with guards for some parameters in front of its statements. -/
def Block.guardedBy (b : Block) (checked : List Parameter) : Block :=
  ⟨b.locals, checked.map (Parameter.guardWith throwHelper.symbol) ++ b.statements⟩

/-- A guarded body is its checks and then the body, if its calls lead back to their depth. -/
theorem guardedBy_exec {checked : List Parameter} (throws : checked ≠ [] → Throws call limits depth)
    (level : call.Simulates Eq depth unexcused call) (b : Block) {machine : Machine}
    (atDepth : machine.meter.depth = depth) :
    (b.guardedBy checked).exec limits call machine
      = ((inFrame fun frame => checkArguments limits frame.parameters checked) >>= fun _ =>
          b.exec limits call) machine :=
  (body_simulates throws level b).agree atDepth

theorem guardedBy_guardedBy_exec {checked : List Parameter}
    (throws : checked ≠ [] → Throws call limits depth)
    (level : call.Simulates Eq depth unexcused call) (b : Block) {machine : Machine}
    (atDepth : machine.meter.depth = depth) :
    ((b.guardedBy checked).guardedBy checked).exec limits call machine
      = ((inFrame fun frame => checkArguments limits frame.parameters checked >>= fun _ =>
            checkArguments limits frame.parameters checked) >>= fun _ =>
          b.exec limits call) machine := by
  rw [guardedBy_exec throws level (b.guardedBy checked) atDepth, inFrame_bind, bind_assoc]
  have checks : Simulates (Machine.Beside Eq depth) unexcused
      (inFrame fun frame => checkArguments limits frame.parameters checked)
      (inFrame fun frame => checkArguments limits frame.parameters checked) :=
    inFrame_simulates fun frame => checkArguments_simulates (Paced.same limits) _ checked
  exact (checks.bind fun _ => body_simulates throws level b).agree atDepth

/-- **A body that is guarded twice simulates the body that is guarded once.** -/
theorem guardedBy_guardedBy_simulates {checked : List Parameter}
    (throws : checked ≠ [] → Throws call limits depth ∧ Throws call' limits depth)
    (level : call.Simulates Eq depth unexcused call)
    (level' : call'.Simulates Eq depth unexcused call')
    (calls : call.Simulates (fun m n => n ≤ m) depth Interrupt.OutOfSteps call') (b : Block) :
    Simulates (Machine.Beside (fun m n => n ≤ m) depth) Interrupt.OutOfSteps
      (((b.guardedBy checked).guardedBy checked).exec limits call)
      ((b.guardedBy checked).exec limits call') := by
  intro m n machines
  rw [guardedBy_guardedBy_exec (fun some => (throws some).1) level b machines.meter.left,
    guardedBy_exec (fun some => (throws some).2) level' b machines.meter.right]
  have checks : Simulates (Machine.Beside (fun m n => n ≤ m) depth) Interrupt.OutOfSteps
      (inFrame fun frame => checkArguments limits frame.parameters checked >>= fun _ =>
        checkArguments limits frame.parameters checked)
      (inFrame fun frame => checkArguments limits frame.parameters checked) :=
    inFrame_simulates fun frame => recheck_simulates frame.parameters checked
  exact (checks.bind fun _ => b.exec_simulates (Paced.slower limits) calls) m n machines

end

/-! ## Calls of functions that are guarded twice -/

/-- A callee whose body is guarded already, and whose parameters are still to be checked. -/
def CheckedCallee.again (callee : CheckedCallee) : CheckedCallee := ⟨callee.guarded, callee.checked⟩

/-- The functions with guards, as they are before they are lowered again. -/
def CheckedInterpreter.again (c : CheckedInterpreter) : CheckedInterpreter where
  functions :=
    (c.functions.map (SourceFunction.guarded throwHelper.symbol)).map LoweredFunction.toSource
  members := c.members
  limits := c.limits

theorem again_function?_eq (c : CheckedInterpreter) (name : String) :
    c.again.function? name = (c.function? name).map CheckedCallee.again := by
  unfold CheckedInterpreter.function? CheckedInterpreter.again
  rw [List.map_map, ← List.map_reverse, List.find?_map, Option.map_map, Option.map_map]
  rfl

theorem again_member?_eq (c : CheckedInterpreter) (name : String) :
    c.again.member? name = (c.member? name).map CheckedCallee.again := by
  unfold CheckedInterpreter.member?
  rw [Option.map_map]
  refine congrArg (Option.map · _) (funext fun member => ?_)
  obtain ⟨symbol, ⟨locals, statements⟩⟩ := member
  rfl

theorem again_resolve_eq (c : CheckedInterpreter) (method : Method) :
    c.again.resolve method = (c.resolve method).map CheckedCallee.again := by
  unfold CheckedInterpreter.resolve
  rw [again_function?_eq, again_member?_eq]
  cases method.kind with
  | synthesized => cases c.member? method.name <;> rfl
  | ordinary => cases c.function? method.name <;> rfl
  | constructor => rfl

section

variable {i j : Interpreter} {c : CheckedInterpreter}

/-- Calls of an interpreter lead back to the depth they come from. -/
theorem caller_level (i : Interpreter) {levels depth : Nat}
    (left : depth + levels = i.limits.depth) :
    (i.caller levels).Simulates Eq depth unexcused (i.caller levels) :=
  Interpreter.caller_simulates (.of_same rfl)
    (Interpreter.callWithin_simulates (.of_same rfl) (Paced.same i.limits) (.inl rfl) left left)

theorem caller_throws (h : Guarding i c) {levels depth : Nat}
    (left : depth + levels = i.limits.depth)
    (helper : c.members.get? throwHelperName = some throwHelper) :
    Throws (i.caller levels) i.limits depth := by
  intro name meter atDepth
  subst atDepth
  exact caller_helper (h.members ▸ helper) left name

/-- **Calls of functions that are guarded twice simulate calls of those that are guarded once.** -/
theorem callWithin_again_simulates (once : Guarding i c) (twice : Guarding j c.again)
    {levels depth : Nat} (left : depth + levels = c.limits.depth) {callee : CheckedCallee}
    (helper : callee.checked ≠ [] → c.members.get? throwHelperName = some throwHelper)
    (args : List Value) :
    Simulates (Meter.Beside (fun m n => n ≤ m) depth) Interrupt.OutOfSteps
      (j.callWithin levels callee.again.guarded args)
      (i.callWithin levels callee.guarded args) := by
  have limits : j.limits = i.limits := by
    rw [once.limits, twice.limits]
    rfl
  induction levels generalizing depth callee args with
  | zero =>
      rw [Interpreter.callWithin, Interpreter.callWithin, limits]
      exact enter_simulates (.throw _) (.inl rfl)
  | succ levels ih =>
      -- bodies run one level further down, with one level less below them
      have below : depth + 1 + levels = c.limits.depth := by omega
      have belowI : depth + 1 + levels = i.limits.depth := once.limits ▸ below
      have belowJ : depth + 1 + levels = j.limits.depth := limits ▸ belowI
      have calls : (j.caller levels).Simulates (fun m n => n ≤ m) (depth + 1)
          Interrupt.OutOfSteps (i.caller levels) := by
        intro method args
        dsimp only [Interpreter.caller]
        rw [once.resolve_eq, twice.resolve_eq, again_resolve_eq]
        cases found : c.resolve method with
        | ok callee => exact ih below (once.helper_of_resolve found) args
        | error error => exact .throw _
      have throws (some : callee.checked ≠ []) : Throws (j.caller levels) i.limits (depth + 1)
          ∧ Throws (i.caller levels) i.limits (depth + 1) :=
        ⟨limits ▸ caller_throws twice belowJ (helper some), caller_throws once belowI (helper some)⟩
      have bodies := guardedBy_guardedBy_simulates throws (caller_level j belowJ)
        (caller_level i belowI) calls callee.body
      rw [Interpreter.callWithin_succ, Interpreter.callWithin_succ, Interpreter.runBody_eq,
        Interpreter.runBody_eq, limits]
      exact enter_simulates (oneLevelDown_simulates bodies) (.inl rfl)

end

/-! ## Modules that are lowered twice -/

theorem run_again_accords {i j : Interpreter} {c : CheckedInterpreter} (once : Guarding i c)
    (twice : Guarding j c.again) (name : String) (args : List Value) :
    Accords (Meter.Beside (fun m n => n ≤ m) 0) Interrupt.OutOfSteps (j.run name args)
      (i.run name args) := by
  have start : Meter.zero.Beside (fun m n => n ≤ m) 0 .zero := ⟨rfl, rfl, Nat.le_refl _⟩
  unfold Interpreter.run
  rw [once.function?_eq, twice.function?_eq, again_function?_eq, twice.limits, once.limits]
  cases found : c.function? name with
  | none => exact .error start
  | some callee =>
      exact callWithin_again_simulates once twice (Nat.zero_add _)
        (once.helper_of_function? found) args .zero .zero start

theorem invoke_eq_of_accords {R : Meter → Meter → Prop} {i j : Interpreter} {name : String}
    {args : List Value} (h : Accords R Interrupt.OutOfSteps (j.run name args) (i.run name args))
    (enough : ∀ limit, j.invoke name args ≠ .error (.stepLimit limit)) :
    j.invoke name args = i.invoke name args := by
  unfold Interpreter.invoke at *
  generalize j.run name args = result, i.run name args = result' at *
  cases h with
  | ok after => rfl
  | @error interrupt _ _ after => cases interrupt <;> rfl
  | @excuse interrupt _ _ isExcused =>
      match interrupt, isExcused with
      | .fault (.stepLimit limit), _ => exact absurd rfl (enough limit)

/-- A source that is read from the lowered functions numbers their parameters anew. -/
theorem ofFunctions_toSource {source : SourceModule} {id : String} {options : LoweringOptions}
    {lowered : LoweredModule} (h : source.lower id options = .ok lowered)
    (numbered : ∀ f ∈ source.functions, f.numbered = f) :
    SourceModule.ofFunctions lowered.module.name (lowered.functions.map LoweredFunction.toSource)
      = lowered.toSource := by
  unfold SourceModule.ofFunctions LoweredModule.toSource
  refine congrArg (SourceModule.mk _ _) ?_
  rw [(lower_eq_ok h).1, List.map_map, List.map_map, List.map_map]
  refine List.map_congr_left fun f hf => ?_
  have same := congrArg SourceFunction.parameters (numbered f hf)
  dsimp only [SourceFunction.numbered] at same
  dsimp only [Function.comp, LoweredFunction.toSource, SourceFunction.guarded,
    SourceFunction.numbered]
  rw [same]

/--
**Lowering a lowered module changes nothing but the steps.**

The functions of a module that has been lowered can be lowered again into a new module. Each of them
has the same number of guards in front of those it had, and whatever is invoked within whatever
limits, the value, the exception or the fault is the one of the module that was lowered once, unless
the steps do not suffice. If the parameters of the source are numbered by their position, as those
of a document are, the new source is the one that is read from the lowered functions.
-/
theorem lower_lowered {source : SourceModule} {id : String} {options : LoweringOptions}
    {lowered : LoweredModule} (h : source.lower id options = .ok lowered) (newId : String)
    {newOptions : LoweringOptions} (runs : newOptions.cancelled = true → options.cancelled = true) :
    ∃ again, lowered.toSource.lower newId newOptions = .ok again
      ∧ again.functions = lowered.functions.map LoweredFunction.guardedAgain
      ∧ (∀ f ∈ lowered.functions,
          f.guardedAgain.body.statements.length = f.guards + f.body.statements.length)
      ∧ (∀ limits name args,
          (∀ limit, Interpreter.invoke ⟨again, limits⟩ name args ≠ .error (.stepLimit limit)) →
            Interpreter.invoke ⟨again, limits⟩ name args
              = Interpreter.invoke ⟨lowered, limits⟩ name args)
      ∧ ((∀ f ∈ source.functions, f.numbered = f) →
          SourceModule.ofFunctions lowered.module.name
            (lowered.functions.map LoweredFunction.toSource) = lowered.toSource) := by
  have relowered := lower_toSource h newId runs
  refine ⟨_, relowered, rfl, fun f hf => ?_, fun limits name args enough => ?_, fun numbered => ?_⟩
  · rw [(lower_eq_ok h).1] at hf
    obtain ⟨g, -, rfl⟩ := List.mem_map.mp hf
    exact length_guardedAgain g throwHelper.symbol
  · have once := guarding_of_lower h limits
    have twice := guarding_of_lower relowered limits
    have functions : lowered.toSource.functions
        = (CheckedInterpreter.mk source.functions lowered.module.members limits).again.functions :=
      congrArg (List.map LoweredFunction.toSource) (lower_eq_ok h).1
    rw [functions] at twice
    exact invoke_eq_of_accords (run_again_accords once twice name args) enough
  · exact ofFunctions_toSource h numbered

/-- The functions that check their argument, lowered once and lowered again. -/
def nestedOnce : LoweredModule :=
  ⟨⟨"id", "nested", Members.empty.withHelper⟩,
    nestedChecks.functions.map (SourceFunction.guarded throwHelper.symbol)⟩

/-- The module that is made of the functions of the first one. -/
def nestedTwice : LoweredModule :=
  ⟨⟨"new", "nested", Members.empty.withHelper⟩,
    nestedOnce.functions.map LoweredFunction.guardedAgain⟩

/-- The exception of the inner call is the same, after checks that are all made twice. -/
theorem lower_lowered_nested :
    nestedChecks.lower "id" {} = .ok nestedOnce
      ∧ nestedOnce.toSource.lower "new" {} = .ok nestedTwice
      ∧ Interpreter.run ⟨nestedTwice, {}⟩ "outer" [.text "x"]
        = .error (exceptionOf "System.ArgumentNullException" "t") ⟨10, 0⟩
      ∧ Interpreter.invoke ⟨nestedTwice, {}⟩ "outer" [.text "x"]
        = Interpreter.invoke ⟨nestedOnce, {}⟩ "outer" [.text "x"] := by
  have lowers : nestedChecks.lower "id" {} = .ok nestedOnce := rfl
  have known : nestedOnce.toSource.lower "new" {} = .ok nestedTwice := rfl
  obtain ⟨again, relowers, -, -, same, -⟩ := lower_lowered lowers "new" (fun stop => stop)
  obtain rfl : nestedTwice = again := Except.ok.inj (known.symm.trans relowers)
  have ends : Interpreter.invoke ⟨nestedTwice, {}⟩ "outer" [.text "x"]
      = .ok (.threw (.object "System.ArgumentNullException" [.text "t"])) := by cbv
  refine ⟨lowers, known, by cbv, same {} "outer" [.text "x"] fun limit => ?_⟩
  rw [ends]
  intro limited
  cases limited

end ArgumentGuards
