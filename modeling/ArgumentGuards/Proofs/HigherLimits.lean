import ArgumentGuards.Proofs.Lockstep
import Mathlib

/-!
# Higher limits

A program cannot tell within which limits it runs. Steps and levels of calls are counted, and a
count is only ever compared with its limit; the comparison ends the run or has no effect. So a run
that ends otherwise than by a limit is the same run within higher limits, up to the last step.

Two interpreters of one module go in lockstep here, the first one within the lower limits and
excused when it meets one of them. Loops and calls are bounded by what the limits leave, and the
second interpreter may have rounds and levels to spare, so both bounds are free in the induction of
`Interpreter.callWithin_simulates`.
-/

namespace ArgumentGuards

/-- Limits below others: fewer steps and fewer levels of calls, or as many. -/
instance : LE Limits := ⟨fun low high => low.steps ≤ high.steps ∧ low.depth ≤ high.depth⟩

/-- Whether an evaluation has no result because of a limit. -/
def EvalError.isLimit : EvalError → Bool
  | .stepLimit _ => true
  | .callDepth _ _ => true
  | _ => false

/-- Whether an invocation ended by a limit. -/
def endsByLimit : Except EvalError Outcome → Bool
  | .error error => error.isLimit
  | .ok _ => false

/-- Whether an interrupt is that of a limit. -/
def Interrupt.OfLimit : Interrupt → Prop
  | .fault error => error.isLimit = true
  | .thrown _ => False

/-! ## One module within two limits -/

section

variable {steps : Nat → Nat → Prop} {excused : Interrupt → Prop} {i j : Interpreter}

/-- Methods stand for the same callees, but for those that have none for an excused reason. -/
def Interpreter.ResolvesAs (i : Interpreter) (excused : Interrupt → Prop) (j : Interpreter) :
    Prop :=
  ∀ method, i.resolve method = j.resolve method
    ∨ ∃ error, i.resolve method = .error error ∧ excused (.fault error)

theorem Interpreter.ResolvesAs.of_same (same : i.lowered = j.lowered) :
    i.ResolvesAs excused j := by
  intro method
  unfold Interpreter.resolve Interpreter.function? Interpreter.member?
  rw [same]
  exact .inl rfl

/-- What it takes to nest calls together: as many levels, or an excuse for having fewer. -/
def Nested (excused : Interrupt → Prop) (limits other : Limits) : Prop :=
  limits.depth = other.depth
    ∨ limits.depth ≤ other.depth ∧ ∀ name, excused (.fault (.callDepth limits.depth name))

theorem Nested.at {limits other : Limits} (h : Nested excused limits other) (name : String) :
    limits.depth = other.depth
      ∨ limits.depth ≤ other.depth ∧ excused (.fault (.callDepth limits.depth name)) :=
  h.imp_right fun ⟨le, isExcused⟩ => ⟨le, isExcused name⟩

/-- A call that finds no level left is excused, or it finds none in the other run either. -/
theorem enter_tooDeep_simulates {depth levels : Nat} {limits other : Limits}
    (nested : Nested excused limits other) (none : depth = limits.depth)
    (left : depth + levels = other.depth) (callee : Callee) (args : List Value)
    {run : Metered Value} (ends : levels = 0 → run = Interpreter.tooDeep other callee) :
    Simulates (Meter.Beside steps depth) excused
      (Interpreter.enter limits callee args (Interpreter.tooDeep limits callee))
      (Interpreter.enter other callee args run) := by
  refine enter_simulates ?_ (nested.at callee.name)
  rcases nested with same | ⟨-, isExcused⟩
  · have noneLeft : levels = 0 := by omega
    rw [ends noneLeft, Interpreter.tooDeep, Interpreter.tooDeep, same]
    exact .throw _
  · exact fun _ _ _ => .excuse (isExcused callee.name)

/-- Bodies call alike as soon as callees do. -/
theorem Interpreter.caller_simulates (alike : i.ResolvesAs excused j) {levels others depth : Nat}
    (h : ∀ callee args, Simulates (Meter.Beside steps depth) excused
      (i.callWithin levels callee args) (j.callWithin others callee args)) :
    (i.caller levels).Simulates steps depth excused (j.caller others) := by
  intro method args
  dsimp only [caller]
  rcases alike method with same | ⟨error, unresolved, isExcused⟩
  · rw [same]
    cases j.resolve method with
    | ok callee => exact h callee args
    | error error => exact .throw _
  · rw [unresolved]
    exact fun _ _ _ => .excuse isExcused

/--
**A call within lower limits simulates the call within higher ones.** In both runs the levels that
are left are those that the limit leaves at this depth.
-/
theorem Interpreter.callWithin_simulates (alike : i.ResolvesAs excused j)
    (pace : Paced steps excused i.limits j.limits) (nested : Nested excused i.limits j.limits)
    {levels others depth : Nat} (left : depth + levels = i.limits.depth)
    (right : depth + others = j.limits.depth) (callee : Callee) (args : List Value) :
    Simulates (Meter.Beside steps depth) excused (i.callWithin levels callee args)
      (j.callWithin others callee args) := by
  induction levels generalizing others depth callee args with
  | zero =>
      rw [callWithin]
      cases others with
      | zero => exact enter_tooDeep_simulates nested left right callee args fun _ => rfl
      | succ others =>
          exact enter_tooDeep_simulates nested left right callee args fun none =>
            absurd none (Nat.succ_ne_zero others)
  | succ levels ih =>
      obtain ⟨fewer, rfl⟩ : ∃ fewer, others = fewer + 1 := by
        refine ⟨others - 1, ?_⟩
        rcases nested with equal | ⟨le, -⟩ <;> omega
      -- bodies run one level further down, with one level less below them
      have below : depth + 1 + levels = i.limits.depth := by omega
      have below' : depth + 1 + fewer = j.limits.depth := by omega
      have calls := caller_simulates alike (ih below below')
      rw [callWithin_succ, callWithin_succ, runBody_eq, runBody_eq]
      exact enter_simulates (oneLevelDown_simulates (callee.body.exec_simulates pace calls))
        (nested.at callee.name)

end

/-! ## Runs within higher limits -/

/-- The same steps within higher limits: being out of them is excused. -/
theorem Paced.of_le {low high : Limits} (h : low ≤ high) :
    Paced Eq Interrupt.OfLimit low high where
  succ := congrArg (· + 1)
  bound := .inr ⟨rfl, fun same => by have := h.1; omega⟩

theorem Nested.of_le {low high : Limits} (h : low ≤ high) :
    Nested Interrupt.OfLimit low high :=
  .inr ⟨h.2, fun _ => rfl⟩

/-- With the same steps, a run that is not excused is the other run. -/
theorem Accords.eq_or_excused {α : Type} {excused : Interrupt → Prop} {depth : Nat}
    {result other : EStateM.Result Interrupt Meter α}
    (h : Accords (Meter.Beside Eq depth) excused result other) :
    other = result ∨ ∃ interrupt meter, result = .error interrupt meter ∧ excused interrupt := by
  cases h with
  | ok after => exact .inl (by rw [after.eq])
  | error after => exact .inl (by rw [after.eq])
  | excuse isExcused => exact .inr ⟨_, _, rfl, isExcused⟩

theorem run_eq_or_limit (lowered : LoweredModule) {low high : Limits} (h : low ≤ high)
    (name : String) (args : List Value) :
    Interpreter.run ⟨lowered, high⟩ name args = Interpreter.run ⟨lowered, low⟩ name args
      ∨ ∃ interrupt meter,
          Interpreter.run ⟨lowered, low⟩ name args = .error interrupt meter
            ∧ interrupt.OfLimit := by
  have functions : Interpreter.function? ⟨lowered, high⟩ name
      = Interpreter.function? ⟨lowered, low⟩ name := rfl
  unfold Interpreter.run
  rw [functions]
  cases Interpreter.function? ⟨lowered, low⟩ name with
  | none => exact .inl rfl
  | some callee =>
      have ends := Interpreter.callWithin_simulates (i := ⟨lowered, low⟩) (j := ⟨lowered, high⟩)
        (.of_same rfl) (Paced.of_le h) (Nested.of_le h) (Nat.zero_add _) (Nat.zero_add _) callee args
      exact (ends .zero .zero ⟨rfl, rfl, rfl⟩).eq_or_excused

theorem endsByLimit_of_run {i : Interpreter} {name : String} {args : List Value}
    {interrupt : Interrupt} {meter : Meter} (ends : i.run name args = .error interrupt meter)
    (limit : interrupt.OfLimit) : endsByLimit (i.invoke name args) = true := by
  unfold Interpreter.invoke
  rw [ends]
  cases interrupt with
  | thrown exception => exact limit.elim
  | fault error => exact limit

theorem invoke_congr {i j : Interpreter} {name : String} {args : List Value}
    (h : i.run name args = j.run name args) : i.invoke name args = j.invoke name args := by
  unfold Interpreter.invoke
  rw [h]

/--
**Raising the limits never changes a finished run.**

A run that does not end by a limit is the same run within higher limits: the value, the exception or
the fault is the same, and so are the counters. So a run that does not end by a limit is, within any
lower limits, either the same run or one that ends by a limit.
-/
theorem run_within_higher_limits (lowered : LoweredModule) {low high : Limits} (h : low ≤ high)
    (name : String) (args : List Value) :
    (endsByLimit (Interpreter.invoke ⟨lowered, low⟩ name args) = false →
        Interpreter.invoke ⟨lowered, high⟩ name args = Interpreter.invoke ⟨lowered, low⟩ name args
          ∧ Interpreter.run ⟨lowered, high⟩ name args = Interpreter.run ⟨lowered, low⟩ name args)
      ∧ (endsByLimit (Interpreter.invoke ⟨lowered, high⟩ name args) = false →
        Interpreter.invoke ⟨lowered, low⟩ name args = Interpreter.invoke ⟨lowered, high⟩ name args
          ∨ endsByLimit (Interpreter.invoke ⟨lowered, low⟩ name args) = true) := by
  rcases run_eq_or_limit lowered h name args with same | ⟨interrupt, meter, ends, limit⟩
  · exact ⟨fun _ => ⟨invoke_congr same, same⟩, fun _ => .inl (invoke_congr same).symm⟩
  · have limited := endsByLimit_of_run ends limit
    exact ⟨fun finished => absurd (limited.symm.trans finished) Bool.noConfusion,
      fun _ => .inr limited⟩

/-- A function that calls itself with one less until that is less than one. -/
def countdown : LoweredModule :=
  let n : Expr := .parameter "n" .int
  let down : Method := ⟨"down", "", [⟨"n", .int, false, 0⟩], .int, .ordinary⟩
  ⟨{ id := "id", name := "countdown" },
    [⟨"down", down.parameters, .int,
      ⟨[], [
        .conditional (.binary .lessThan n (.literal (.int 1))) (.ret (some n)) none,
        .ret (some (.call down [.binary .add n (.literal (.int (-1)))]))]⟩, 0⟩]⟩

/-- From two it takes six steps on three levels of calls, and with just these it is finished. -/
theorem run_within_higher_limits_countdown :
    (⟨6, 3⟩ : Limits) ≤ {}
      ∧ Interpreter.run ⟨countdown, ⟨6, 3⟩⟩ "down" [.int 2] = .ok (.int 0) ⟨6, 0⟩
      ∧ Interpreter.run ⟨countdown, {}⟩ "down" [.int 2]
          = Interpreter.run ⟨countdown, ⟨6, 3⟩⟩ "down" [.int 2]
      ∧ endsByLimit (Interpreter.invoke ⟨countdown, ⟨6, 2⟩⟩ "down" [.int 2]) = true := by
  have below : (⟨6, 3⟩ : Limits) ≤ {} := ⟨by decide, by decide⟩
  have finished : endsByLimit (Interpreter.invoke ⟨countdown, ⟨6, 3⟩⟩ "down" [.int 2]) = false := by
    cbv
  have raised := run_within_higher_limits countdown below "down" [.int 2]
  exact ⟨below, by cbv, (raised.1 finished).2, by cbv⟩

end ArgumentGuards
