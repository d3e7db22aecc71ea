import ArgumentGuards.Proofs.FirstAbsent

/-!
# The first and the last function of a name

Nothing keeps a module from declaring several functions of one name. Then there are two ways to look
the name up, and they differ. `LoweredModule.function?` finds the **first** function: the command
that runs a function takes the number and the types of the arguments from there. An interpreter
calls the **last** one, be it in an invocation or in a body.

Both find a function for the same names. They mean the same callee exactly if the first and the last
function of the name have the same parameters and the same body. If they take different numbers of
arguments, the command lets pass what the interpreter refuses.
-/

namespace ArgumentGuards

/-- What is called when a lowered function is called. -/
def LoweredFunction.callee (f : LoweredFunction) : Callee := ⟨f.name, f.parameters, f.body⟩

namespace LoweredModule

/-- The functions of a name, in the order of their declaration. -/
def named (lowered : LoweredModule) (name : String) : List LoweredFunction :=
  lowered.functions.filter (·.name = name)

variable {lowered : LoweredModule} {name : String} {f : LoweredFunction}

theorem name_of_mem_named (h : f ∈ lowered.named name) : f.name = name :=
  of_decide_eq_true (List.mem_filter.mp h).2

theorem function?_eq_head? : lowered.function? name = (lowered.named name).head? :=
  List.head?_filter.symm

theorem called_eq_getLast? (limits : Limits) :
    Interpreter.function? ⟨lowered, limits⟩ name
      = (lowered.named name).getLast?.map LoweredFunction.callee := by
  rw [named, List.getLast?_filter]
  rfl

/-- A name that is looked up is called, too. -/
theorem exists_last {first : LoweredFunction} (h : lowered.function? name = some first) :
    ∃ last, (lowered.named name).getLast? = some last ∧ last.name = first.name := by
  rw [function?_eq_head?] at h
  obtain ⟨rest, split⟩ := List.head?_eq_some_iff.mp h
  have some : (lowered.named name).getLast? = some ((first :: rest).getLast (by simp)) := by
    rw [split, List.getLast?_eq_some_getLast]
  have firstNamed := name_of_mem_named (List.mem_of_head? h)
  have lastNamed := name_of_mem_named (List.mem_of_getLast? some)
  exact ⟨_, some, lastNamed.trans firstNamed.symm⟩

theorem callee_inj {f g : LoweredFunction} (named : f.name = g.name) :
    f.callee = g.callee ↔ f.parameters = g.parameters ∧ f.body = g.body := by
  unfold LoweredFunction.callee
  rw [Callee.mk.injEq]
  exact ⟨fun ⟨_, parameters, body⟩ => ⟨parameters, body⟩,
    fun ⟨parameters, body⟩ => ⟨named, parameters, body⟩⟩

/-- A call with as many arguments as parameters is made as soon as there is a level for it. -/
theorem run_of_fits {limits : Limits} {callee : Callee} {args : List Value}
    (called : Interpreter.function? ⟨lowered, limits⟩ name = some callee)
    (fits : callee.parameters.length = args.length) {levels : Nat}
    (left : limits.depth = levels + 1) :
    Interpreter.run ⟨lowered, limits⟩ name args
      = Interpreter.runBody limits (Interpreter.caller ⟨lowered, limits⟩ levels) callee args
          .zero := by
  have free : Meter.zero.depth < limits.depth := by
    rw [left]
    exact Nat.succ_pos levels
  unfold Interpreter.run
  rw [called]
  dsimp only
  rw [left, Interpreter.callWithin_of_fits fits free]

/-- Any other number of arguments is refused before anything else is looked at. -/
theorem invoke_of_not_fits {limits : Limits} {callee : Callee} {args : List Value}
    (called : Interpreter.function? ⟨lowered, limits⟩ name = some callee)
    (differs : callee.parameters.length ≠ args.length) :
    Interpreter.invoke ⟨lowered, limits⟩ name args
      = .error (.arity callee.name callee.parameters.length args.length) := by
  have refused : ∀ levels, Interpreter.callWithin ⟨lowered, limits⟩ levels callee args .zero
      = .error (.fault (.arity callee.name callee.parameters.length args.length)) .zero := by
    intro levels
    cases levels <;> exact if_pos differs
  unfold Interpreter.invoke Interpreter.run
  rw [called]
  dsimp only
  rw [refused]

/--
**A name is looked up as the first of its functions and called as the last one.**

Both are there for the same names. They are the same callee exactly if the parameters and the body
are the same. An invocation with as many arguments as the first one takes is refused if the last one
takes more or fewer, and otherwise runs the body of the last one, if there is a level for it.
-/
theorem lookup_first_call_last (lowered : LoweredModule) (limits : Limits) (name : String) :
    (lowered.function? name = none ↔ Interpreter.function? ⟨lowered, limits⟩ name = none)
      ∧ ∀ first, lowered.function? name = some first → ∃ last : LoweredFunction,
          (lowered.named name).getLast? = some last
            ∧ (Interpreter.function? ⟨lowered, limits⟩ name = some first.callee
                ↔ last.parameters = first.parameters ∧ last.body = first.body)
            ∧ ∀ args : List Value, args.length = first.parameters.length →
                (last.parameters.length ≠ first.parameters.length →
                  Interpreter.invoke ⟨lowered, limits⟩ name args
                    = .error (.arity name last.parameters.length first.parameters.length))
                ∧ (last.parameters.length = first.parameters.length →
                  ∀ levels, limits.depth = levels + 1 →
                    Interpreter.run ⟨lowered, limits⟩ name args
                      = Interpreter.runBody limits (Interpreter.caller ⟨lowered, limits⟩ levels)
                          last.callee args .zero) := by
  refine ⟨?_, fun first found => ?_⟩
  · rw [function?_eq_head?, called_eq_getLast?, Option.map_eq_none_iff, List.head?_eq_none_iff,
      List.getLast?_eq_none_iff]
  · obtain ⟨last, isLast, named⟩ := exists_last found
    have called : Interpreter.function? ⟨lowered, limits⟩ name = some last.callee := by
      rw [called_eq_getLast?, isLast, Option.map_some]
    have ownName : last.name = name := name_of_mem_named (List.mem_of_getLast? isLast)
    refine ⟨last, isLast, ?_, fun args fits => ⟨fun differs => ?_, fun same levels left => ?_⟩⟩
    · rw [called, Option.some.injEq]
      exact callee_inj named
    · rw [← fits] at differs ⊢
      rw [invoke_of_not_fits called differs]
      dsimp only [LoweredFunction.callee]
      rw [ownName]
    · exact run_of_fits called (same.trans fits.symm) left

/-- Two functions of one name. The first one takes nothing, the last one takes an integer. -/
def twoOfOneName : SourceModule :=
  let x : Parameter := ⟨"x", .int, false, 0⟩
  ⟨"m", none,
    [⟨"f", [], .int, ⟨[], [.ret (some (.literal (.int 1)))]⟩⟩,
      ⟨"f", [x], .int, ⟨[], [.ret (some (.ofParameter x))]⟩⟩]⟩

/-- What lowering makes of them: nothing is checked, so nothing is added. -/
def twoOfOneNameLowered : LoweredModule :=
  ⟨{ id := "id", name := "m" },
    twoOfOneName.functions.map fun f => ⟨f.name, f.parameters, f.returnType, f.body, 0⟩⟩

/-- The command finds a function without parameters, accepts that there is no argument, and then the
call asks for one. -/
theorem lookup_ne_call :
    twoOfOneName.lower "id" {} = .ok twoOfOneNameLowered
      ∧ (twoOfOneNameLowered.function? "f").map (fun f => f.parameters.length) = some 0
      ∧ Interpreter.function? ⟨twoOfOneNameLowered, {}⟩ "f"
          ≠ (twoOfOneNameLowered.function? "f").map LoweredFunction.callee
      ∧ Interpreter.invoke ⟨twoOfOneNameLowered, {}⟩ "f" [] = .error (.arity "f" 1 0)
      ∧ Command.invoke twoOfOneNameLowered "f" "[]"
          = .error (EvalError.arity "f" 1 0).report := by
  refine ⟨rfl, rfl, fun same => ?_, rfl, ?_⟩
  · have parameters := congrArg (Option.map fun callee => callee.parameters.length) same
    revert parameters
    decide
  · have decodes : Json.decodeText Json.Decoder.json "[]" = .ok (.array []) := by cbv
    have found : ∃ first, twoOfOneNameLowered.function? "f" = some first
        ∧ Command.readArguments first "[]" = .ok [] :=
      ⟨_, rfl, Command.readArguments_eq_ok decodes rfl rfl⟩
    obtain ⟨first, looksUp, read⟩ := found
    unfold Command.invoke
    rw [looksUp]
    dsimp only
    rw [read]
    rfl

end LoweredModule

end ArgumentGuards
