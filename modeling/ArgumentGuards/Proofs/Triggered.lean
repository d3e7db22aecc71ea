import ArgumentGuards.Proofs.Extensions
import Mathlib

/-!
# Guards that are triggered

A guard that finds its argument absent calls the helper of the module that throws, and returns. With
the standard helper the return is never reached. But a module may have another member under that
name, and that one may do anything: come back, throw something else, run out of steps, or call the
very function again whose guard has called it. In none of these cases does the body of the function
run.

* What a guard does depends on the parameters that are bound and on nothing else (`guardRun`), so
  guards in a row are one run before the body (`execAll_guards`).
* A guard that is triggered never ends normally: either the helper's call ends the run, or the
  return does (`guardsRun_triggered`). Statements behind it are not executed, whatever they are.
* The call ends as the helper's call does, or with null if that comes back, and takes the steps of
  the guards and of the return besides (`decidedBy`).
-/

namespace ArgumentGuards

open CheckedInterpreter (tick)

/-! ## Steps in a row -/

/-- Takes some steps. -/
def ticks (limits : Limits) : Nat → Metered Unit
  | 0 => return ()
  | n + 1 => do
    tick limits
    ticks limits n

theorem ticks_add (limits : Limits) (m n : Nat) :
    ticks limits (m + n) = ticks limits m >>= fun _ => ticks limits n := by
  induction m with
  | zero => rw [Nat.zero_add, ticks, pure_bind]
  | succ m ih => rw [Nat.succ_add, ticks, ticks, ih, bind_assoc]

/-- Steps are counted up to the first one beyond the limit. -/
theorem ticks_run (limits : Limits) (n : Nat) (meter : Meter) :
    ticks limits (n + 1) meter
      = if limits.steps < meter.steps + (n + 1) then
          .error (.fault (.stepLimit limits.steps))
            { meter with steps := max meter.steps limits.steps + 1 }
        else .ok () { meter with steps := meter.steps + (n + 1) } := by
  induction n generalizing meter with
  | zero =>
      rw [ticks, ticks]
      change (tick limits >>= fun _ => pure ()) meter = _
      rw [bind_pure_unit]
      dsimp only [tick]
      split
      · rw [max_eq_left (by omega)]
      · rfl
  | succ n ih =>
      rw [ticks]
      by_cases beyond : limits.steps < meter.steps + 1
      · have first : tick limits meter = .error (.fault (.stepLimit limits.steps))
            { meter with steps := meter.steps + 1 } := if_pos beyond
        rw [bind_of_error first, if_pos (by omega), max_eq_left (by omega)]
      · have first : tick limits meter = .ok () { meter with steps := meter.steps + 1 } :=
          if_neg beyond
        rw [bind_of_ok first, ih]
        dsimp only
        rw [max_eq_right (by omega), max_eq_right (by omega), Nat.add_assoc, Nat.add_comm 1]

/-! ## Guards in a row -/

section

variable {limits : Limits} {call : Caller} {helper : Method} {bound : Bindings} {p : Parameter}

/--
What a guard does with the parameters that are bound. It takes two steps and makes its test. If the
argument is absent, the branch and the statement in it take a step each, the helper is called, and
the return takes a step.
-/
def guardRun (limits : Limits) (call : Caller) (helper : Method) (bound : Bindings)
    (p : Parameter) : Metered Completion := do
  ticks limits 2
  let value ← fetch bound p.name
  if ← settle (p.absent value) then
    ticks limits 2
    let _ ← call helper [.text p.name]
    tick limits
    return .returned .null
  else return .normal

theorem guardWith_exec (limits : Limits) (call : Caller) (helper : Method) (p : Parameter) :
    (p.guardWith helper).exec limits call
      = inFrame fun frame => guardRun limits call helper frame.parameters p := by
  have argument (frame : Frame) : (Expr.call helper [.literal (.text p.name)]).eval call frame
      = call helper [.text p.name] := rfl
  simp only [Parameter.guardWith, Stmt.exec, guardRun, ticks, test_eq, inFrame_bind, ← takeStep_eq,
    bind_assoc, pure_bind]
  refine bind_congr fun _ => bind_congr fun _ => bind_congr fun value => bind_congr fun absent => ?_
  cases absent with
  | false => rfl
  | true =>
      simp only [Stmt.execAll, Stmt.exec, withLocals_nil, if_true, inFrame_bind, ← takeStep_eq,
        bind_assoc, pure_bind, argument]
      rfl

/-- An argument that is there costs two steps. -/
theorem Passes.guardRun_eq (h : Passes bound p) :
    guardRun limits call helper bound p = ticks limits 2 >>= fun _ => pure .normal := by
  obtain ⟨value, found, there⟩ := h
  unfold guardRun fetch
  rw [found]
  simp only [pure_bind, there, settle, Bool.false_eq_true, if_false]

/-- What guards in a row do, up to the first one that returns. -/
def guardsRun (limits : Limits) (call : Caller) (helper : Method) (bound : Bindings) :
    List Parameter → Metered Completion
  | [] => return .normal
  | p :: rest => do
    match ← guardRun limits call helper bound p with
    | .normal => guardsRun limits call helper bound rest
    | .returned value => return .returned value

/-- **Guards in a row read the parameters that are bound, and leave the frame as it is.** -/
theorem execAll_guards (limits : Limits) (call : Caller) (helper : Method) (ps : List Parameter) :
    Stmt.execAll limits call (ps.map (Parameter.guardWith helper))
      = inFrame fun frame => guardsRun limits call helper frame.parameters ps := by
  induction ps with
  | nil => rfl
  | cons p rest ih =>
      rw [List.map_cons, Stmt.execAll, guardWith_exec, ih]
      simp only [guardsRun, inFrame_bind]
      refine bind_congr fun completion => ?_
      cases completion <;> rfl

/-- The arguments of some parameters are there, and that of the next one is absent. -/
structure Triggers (bound : Bindings) (passed : List Parameter) (p : Parameter) : Prop where
  passes : ∀ q ∈ passed, Passes bound q
  absent : ∃ value, bound.lookup p.name = some value ∧ p.absent value = .ok true

/-- What a triggered guard does before it returns, with the guards in front of it. -/
def triggered (limits : Limits) (passed : Nat) (helperCall : Metered Value) : Metered Unit := do
  ticks limits (2 * passed + 4)
  let _ ← helperCall
  tick limits

/-- **A guard that is triggered returns null, unless the call of the helper does not come back.** The
guards behind it are not executed. -/
theorem guardsRun_triggered {passed : List Parameter} (h : Triggers bound passed p)
    (rest : List Parameter) :
    guardsRun limits call helper bound (passed ++ p :: rest)
      = triggered limits passed.length (call helper [.text p.name]) >>= fun _ =>
          pure (.returned .null) := by
  induction passed with
  | nil =>
      -- the guard that is triggered: two steps and the test, then the branch
      obtain ⟨value, found, isAbsent⟩ := h.absent
      have four : ticks limits (2 * 0 + 4) = ticks limits 2 >>= fun _ => ticks limits 2 :=
        ticks_add limits 2 2
      rw [List.nil_append, guardsRun, guardRun, List.length_nil, triggered, four, fetch, found]
      simp only [pure_bind, isAbsent, settle, if_true, bind_assoc]
  | cons q others ih =>
      obtain ⟨here, there⟩ := List.forall_mem_cons.mp h.passes
      have more : ticks limits (2 * (others.length + 1) + 4)
          = ticks limits 2 >>= fun _ => ticks limits (2 * others.length + 4) := by
        rw [← ticks_add]
        congr 1
        omega
      rw [List.cons_append, guardsRun, here.guardRun_eq, List.length_cons, triggered, more]
      simp only [bind_assoc, pure_bind, ih ⟨there, h.absent⟩, triggered]

/-! ## Statements behind guards -/

theorem execAll_append (limits : Limits) (call : Caller) (first more : List Stmt) :
    Stmt.execAll limits call (first ++ more)
      = Stmt.execAll limits call first >>= fun completion =>
          match completion with
          | .normal => Stmt.execAll limits call more
          | .returned value => pure (.returned value) := by
  induction first with
  | nil => exact (pure_bind _ _).symm
  | cons s rest ih =>
      rw [List.cons_append, Stmt.execAll, Stmt.execAll, bind_assoc]
      refine bind_congr fun completion => ?_
      cases completion with
      | normal => exact ih
      | returned value => exact (pure_bind _ _).symm

theorem guards_triggered {passed : List Parameter} {frame : Frame}
    (h : Triggers frame.parameters passed p) (rest : List Parameter) (meter : Meter) :
    Stmt.execAll limits call ((passed ++ p :: rest).map (Parameter.guardWith helper))
        ⟨meter, frame⟩
      = inFrame (fun _ => triggered limits passed.length (call helper [.text p.name]) >>= fun _ =>
          pure (.returned .null)) ⟨meter, frame⟩ := by
  rw [execAll_guards]
  dsimp only [inFrame]
  rw [guardsRun_triggered h]

/-- If the guards end without an interrupt, they return null. -/
theorem completion_of_triggered {passed rest : List Parameter} {frame : Frame}
    (h : Triggers frame.parameters passed p) {meter : Meter} {completion : Completion}
    {finish : Machine}
    (ends : Stmt.execAll limits call ((passed ++ p :: rest).map (Parameter.guardWith helper))
      ⟨meter, frame⟩ = .ok completion finish) : completion = .returned .null := by
  rw [guards_triggered h, inFrame_bind] at ends
  obtain ⟨-, middle, -, returns⟩ := ok_of_bind ends
  cases returns
  rfl

/-- **Nothing behind a triggered guard is executed**, whatever it is. -/
theorem execAll_triggered {passed : List Parameter} {frame : Frame}
    (h : Triggers frame.parameters passed p) (rest : List Parameter) (statements : List Stmt)
    (meter : Meter) :
    Stmt.execAll limits call
        ((passed ++ p :: rest).map (Parameter.guardWith helper) ++ statements) ⟨meter, frame⟩
      = Stmt.execAll limits call ((passed ++ p :: rest).map (Parameter.guardWith helper))
          ⟨meter, frame⟩ := by
  rw [execAll_append]
  cases ends : Stmt.execAll limits call ((passed ++ p :: rest).map (Parameter.guardWith helper))
      ⟨meter, frame⟩ with
  | ok completion finish =>
      -- the guards have returned, and that ends the statements
      obtain rfl := completion_of_triggered h ends
      exact bind_of_ok ends
  | error interrupt finish => exact bind_of_error ends

end

/-! ## Calls of guarded functions -/

/--
How a call ends that is decided by the call of a helper after some guards have passed: with the
exception or the fault of that call, or with null if it comes back. The steps may run out before it,
or after it at the return.
-/
def decidedBy (limits : Limits) (passed : Nat) (helperCall : Metered Value) : Metered Value :=
  fun meter =>
    let begun := meter.steps + (2 * passed + 4)
    if limits.steps < begun then
      .error (.fault (.stepLimit limits.steps))
        { meter with steps := max meter.steps limits.steps + 1 }
    else
      match helperCall ⟨begun, meter.depth + 1⟩ with
      | .error interrupt after => .error interrupt { after with depth := meter.depth }
      | .ok _ after =>
        let ended : Meter := ⟨after.steps + 1, meter.depth⟩
        if limits.steps < ended.steps then .error (.fault (.stepLimit limits.steps)) ended
        else .ok .null ended

section

variable {limits : Limits} {call : Caller} {helper : Method} {p : Parameter}

theorem triggered_run (limits : Limits) (passed : Nat) (helperCall : Metered Value)
    (meter : Meter) :
    triggered limits passed helperCall meter
      = if limits.steps < meter.steps + (2 * passed + 4) then
          .error (.fault (.stepLimit limits.steps))
            { meter with steps := max meter.steps limits.steps + 1 }
        else
          match helperCall { meter with steps := meter.steps + (2 * passed + 4) } with
          | .error interrupt after => .error interrupt after
          | .ok _ after => tick limits after := by
  have steps := ticks_run limits (2 * passed + 3) meter
  rw [triggered]
  by_cases beyond : limits.steps < meter.steps + (2 * passed + 4)
  · rw [if_pos beyond] at steps ⊢
    rw [bind_of_error steps]
  · rw [if_neg beyond] at steps ⊢
    rw [bind_of_ok steps]
    cases ends : helperCall { meter with steps := meter.steps + (2 * passed + 4) } with
    | error interrupt after => rw [bind_of_error ends]
    | ok value after => rw [bind_of_ok ends]

theorem runBody_triggered {passed : List Parameter} {callee : Callee} {args : List Value}
    (h : Triggers (Frame.ofArguments callee.parameters args).parameters passed p)
    (rest : List Parameter) (statements : List Stmt)
    (guarded : callee.body.statements
      = (passed ++ p :: rest).map (Parameter.guardWith helper) ++ statements) :
    Interpreter.runBody limits call callee args
      = decidedBy limits passed.length (call helper [.text p.name]) := by
  funext meter
  -- guards are inside of the block, where the parameters are the same
  have inside : Triggers ((Frame.ofArguments callee.parameters args).enterBlock
      callee.body.locals).parameters passed p := h
  have run := triggered_run limits passed.length (call helper [.text p.name])
    ⟨meter.steps, meter.depth + 1⟩
  rw [Interpreter.runBody_eq]
  unfold oneLevelDown Block.exec withLocals
  dsimp only
  rw [guarded, execAll_triggered inside rest statements, guards_triggered inside rest]
  unfold inFrame decidedBy
  dsimp only at run ⊢
  by_cases beyond : limits.steps < meter.steps + (2 * passed.length + 4)
  · rw [if_pos beyond] at run ⊢
    rw [bind_of_error run]
  · rw [if_neg beyond] at run ⊢
    cases ends : call helper [.text p.name]
        ⟨meter.steps + (2 * passed.length + 4), meter.depth + 1⟩ with
    | error interrupt after =>
        rw [ends] at run
        rw [bind_of_error run]
    | ok value after =>
        rw [ends] at run
        dsimp only [tick] at run ⊢
        by_cases last : limits.steps < after.steps + 1
        · rw [if_pos last] at run ⊢
          rw [bind_of_error run]
        · rw [if_neg last] at run ⊢
          rw [bind_of_ok run]
          rfl

end

/-! ## Functions that are lowered into a module -/

section

variable {module after : CompiledModule} {options : LoweringOptions} {fs : List SourceFunction}
  {gs : List LoweredFunction} {k : Nat} {f : SourceFunction} {g : LoweredFunction}

/-- A function that is lowered into a module gets guards that call the helper of the module. -/
theorem guarded_of_lower (lowers : module.lower options fs = (.ok gs, after))
    (declared : fs[k]? = some f) (lowered : gs[k]? = some g) :
    g = f.guarded module.members.helper := by
  obtain ⟨rfl, -⟩ := CompiledModule.lower_ok lowers
  rw [List.getElem?_map, declared] at lowered
  cases lowered
  rfl

/-- With a parameter to check, the helper is there afterwards, under the symbol that guards call. -/
theorem helper_of_lower (lowers : module.lower options fs = (.ok gs, after))
    (declared : fs[k]? = some f) (checks : f.checked ≠ []) :
    ∃ helper, after.members.get? throwHelperName = some helper
      ∧ helper.symbol = module.members.helper := by
  obtain ⟨-, members⟩ := CompiledModule.lower_ok lowers
  have some : checkedOf fs ≠ [] := fun none =>
    checks (List.flatMap_eq_nil_iff.mp none f (List.mem_of_getElem? declared))
  refine ⟨(module.members.get? throwHelperName).getD throwHelper, ?_, ?_⟩
  · rw [members, Members.afterGuards, if_neg (by rwa [List.isEmpty_iff]), Members.get?_withHelper]
  · rw [Members.helper]
    cases module.members.get? throwHelperName <;> rfl

/--
**A triggered guard never lets the body of its function run, whatever the helper does.**

A function is lowered into a module, and the module that runs has the members that this leaves, with
any others. A member of any body is held under the name of the helper that throws. The function is
called with as many arguments as it has parameters; those of the first checked parameters are there,
and that of the next one is absent. Then

* the call ends as `decidedBy` says: with the interrupt of the helper's call or, if that comes back,
  with null, unless the steps run out;
* it ends so whatever statements stand in the place of the function's own;
* if the guards end without an interrupt at all, they return null, so no statement behind them is
  executed;
* the call of the helper is a call of the member that is held, if its symbol is that of a member.
-/
theorem triggered_guard_decides (lowers : module.lower options fs = (.ok gs, after))
    (declared : fs[k]? = some f) (lowered : gs[k]? = some g) {i : Interpreter}
    (later : i.lowered.module.members.Extends after.members) {helper : Member}
    (held : i.lowered.module.members.get? throwHelperName = some helper) {args : List Value}
    (fits : args.length = f.parameters.length) {passed rest : List Parameter} {p : Parameter}
    (checks : f.checked = passed ++ p :: rest)
    (triggers : Triggers (Frame.ofArguments f.parameters args).parameters passed p)
    {meter : Meter} (level : meter.depth < i.limits.depth) (levels : Nat) :
    g = f.guarded helper.symbol
      ∧ i.callWithin (levels + 1) ⟨g.name, g.parameters, g.body⟩ args meter
        = decidedBy i.limits passed.length (i.caller levels helper.symbol [.text p.name]) meter
      ∧ (∀ statements,
        i.callWithin (levels + 1) ⟨g.name, g.parameters, ⟨g.body.locals,
            f.checked.map (Parameter.guardWith helper.symbol) ++ statements⟩⟩ args meter
          = decidedBy i.limits passed.length (i.caller levels helper.symbol [.text p.name]) meter)
      ∧ (∀ start completion finish,
        Stmt.execAll i.limits (i.caller levels)
            (f.checked.map (Parameter.guardWith helper.symbol))
            ⟨start, (Frame.ofArguments f.parameters args).enterBlock f.body.locals⟩
          = .ok completion finish → completion = .returned .null)
      ∧ (helper.symbol.kind = .synthesized → i.caller levels helper.symbol
          = i.callWithin levels ⟨throwHelperName, helper.symbol.parameters, helper.body⟩) := by
  have some : f.checked ≠ [] := by
    rw [checks]
    exact List.append_ne_nil_of_right_ne_nil passed (List.cons_ne_nil p rest)
  -- the member that is held is the one that was there when the function was lowered
  have symbol : helper.symbol = module.members.helper := by
    obtain ⟨first, there, same⟩ := helper_of_lower lowers declared some
    have stays := later.get? there
    rw [held] at stays
    cases stays
    exact same
  have isGuarded : g = f.guarded helper.symbol := by
    rw [symbol]
    exact guarded_of_lower lowers declared lowered
  have decided (statements : List Stmt) :
      i.callWithin (levels + 1) ⟨f.name, f.parameters, ⟨f.body.locals,
          f.checked.map (Parameter.guardWith helper.symbol) ++ statements⟩⟩ args meter
        = decidedBy i.limits passed.length (i.caller levels helper.symbol [.text p.name]) meter := by
    rw [Interpreter.callWithin_of_fits fits.symm level, checks,
      runBody_triggered triggers rest statements rfl]
  subst isGuarded
  refine ⟨rfl, decided f.body.statements, decided, ?_, fun synthesized => ?_⟩
  · intro start completion finish ends
    have inside : Triggers ((Frame.ofArguments f.parameters args).enterBlock
        f.body.locals).parameters passed p := triggers
    rw [checks] at ends
    exact completion_of_triggered inside ends
  · have name : helper.name = throwHelperName := Members.name_of_get? held
    funext args
    rw [caller_member (name ▸ held) synthesized, name]

end

/-- A function of two texts that are checked. Its body tells that it has run. -/
def pairOfTexts : SourceFunction :=
  ⟨"pair", [⟨"s", .string, true, 0⟩, ⟨"t", .string, true, 1⟩], .string,
    ⟨[], [.ret (some (.literal (.text "body")))]⟩⟩

/-- A member under the name of the helper that throws. It calls the function again, with texts that
are there, and comes back. -/
def callingBack : Member :=
  let name : Parameter := ⟨"name", .string, false, 0⟩
  let pair : Method := ⟨"pair", "", pairOfTexts.parameters, .string, .ordinary⟩
  { symbol := ⟨throwHelperName, Members.container, [name], .void, .synthesized⟩
    body := ⟨[], [.expression (.call pair [.ofParameter name, .ofParameter name])]⟩ }

/-- The function lowered into a module that has this member. -/
def pairCallingBack : LoweredModule :=
  ⟨⟨"id", "m", ⟨[callingBack]⟩⟩, [pairOfTexts.guarded callingBack.symbol]⟩

/-- The second argument is absent. The helper runs the body in a call of its own and comes back, and
then the result is null and not that of the body. -/
theorem triggered_guard_decides_calling_back :
    CompiledModule.lower ⟨"id", "m", ⟨[callingBack]⟩⟩ {} [pairOfTexts]
        = (.ok pairCallingBack.functions, pairCallingBack.module)
      ∧ Interpreter.run ⟨pairCallingBack, {}⟩ "pair" [.text "a", .text "b"]
        = .ok (.text "body") ⟨5, 0⟩
      ∧ Interpreter.run ⟨pairCallingBack, {}⟩ "pair" [.text "a", .null]
        = decidedBy {} 1 (Interpreter.caller ⟨pairCallingBack, {}⟩ 63 callingBack.symbol [.text "t"])
            .zero
      ∧ Interpreter.run ⟨pairCallingBack, {}⟩ "pair" [.text "a", .null] = .ok .null ⟨13, 0⟩ := by
  have lowers : CompiledModule.lower ⟨"id", "m", ⟨[callingBack]⟩⟩ {} [pairOfTexts]
      = (.ok pairCallingBack.functions, pairCallingBack.module) := rfl
  let args : List Value := [.text "a", .null]
  let s : Parameter := ⟨"s", .string, true, 0⟩
  let t : Parameter := ⟨"t", .string, true, 1⟩
  have checks : pairOfTexts.checked = [s] ++ t :: [] := rfl
  have first : Passes (Frame.ofArguments pairOfTexts.parameters args).parameters s :=
    ⟨.text "a", rfl, rfl⟩
  have triggers : Triggers (Frame.ofArguments pairOfTexts.parameters args).parameters [s] t :=
    ⟨List.forall_mem_singleton.mpr first, .null, rfl, rfl⟩
  have level : Meter.zero.depth < ({} : Limits).depth := by decide
  have decides := triggered_guard_decides (k := 0) lowers rfl rfl (i := ⟨pairCallingBack, {}⟩)
    (.refl pairCallingBack.module.members) rfl rfl checks triggers level 63
  exact ⟨lowers, by cbv, decides.2.1, by cbv⟩

end ArgumentGuards
