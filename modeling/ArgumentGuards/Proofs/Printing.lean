import ArgumentGuards.Command.Run
import Mathlib

/-!
# Nothing is printed before all else is done

A command first finds out what it has to do, which may fail in many ways: that is its plan. If the
plan is to write a file, the file is written. Then nothing can fail any more, and only now something
is printed: what was asked for, or the report of what went wrong.

This is an equation between programs (`main_eq`), for every kind of effect that files and a console
may have. The left side is the program as it runs, where printing stands among the other steps; on
the right side everything that can fail comes first, in a kind of effect that has no console. What
can be seen of a run follows from it (`execute_eq`).
-/

namespace ArgumentGuards.Command

/-! ## Plans and endings -/

/-- What a command does when everything has succeeded. -/
inductive Deed where
  /-- Prints some texts, one after the other, and exits. -/
  | print (exit : UInt8) (texts : List String)
  /-- Writes a text to a file. -/
  | write (path text : String)

/-- How a command ends, when nothing is left to be done but to print. -/
inductive Ending where
  /-- The texts of a success, of which there may be none, and its exit code. -/
  | success (exit : UInt8) (texts : List String)
  /-- An error. -/
  | failure (report : Report)

/-- The lines of a summary. -/
def summaryTexts (modules : List LoweredModule) : List String :=
  ["Null guards\n", (Summary.table modules).render ++ "\n", Summary.footer modules ++ "\n"]

section

variable {m : Type → Type} [Monad m]

/-- What a request comes to, or what is wrong. -/
def Request.plan (env : Environment m) : Request → m (Except Report Deed)
  | .lower file format workers output => do
    let lowered ← env.lower (loweringOptions workers) file
    return lowered.map fun lowered =>
      match output with
      | none => .print 0 [format.render lowered]
      | some path => .write path (format.render lowered)
  | .summary pattern workers => do
    match ← SourceModule.discover env.files pattern with
    | .error error => return .error error.report
    | .ok [] => return .error (Fault.noMatch pattern).report
    | .ok paths =>
      let modules ← env.lowerAll (loweringOptions workers) paths
      return modules.map fun modules => .print 0 (summaryTexts modules)
  | .run file name args => do
    let lowered ← env.lower {} file
    return lowered.bind fun lowered => (invoke lowered name args).map fun outcome =>
      .print (if outcome.isThrow then 1 else 0) [outcome.render name ++ "\n"]

/-- Does what has been planned, up to where only printing is left. -/
def carryOut (env : Environment m) : Except Report Deed → m Ending
  | .error report => return .failure report
  | .ok (.print exit texts) => return .success exit texts
  | .ok (.write path text) => do
    match ← env.files.write path text with
    | none => return .success 0 []
    | some failure => return .failure (Fault.unwritable path failure).report

/-- All of a command but what it prints. -/
def Request.settle (env : Environment m) (request : Request) : m Ending :=
  request.plan env >>= carryOut env

end

namespace Ending

/-- What a command still has to print, and what it leaves to be reported. -/
def perform {n : Type → Type} [Monad n] (console : Console n) : Ending → n (Except Report UInt8)
  | .success exit texts => do
    forM texts console.out
    return .ok exit
  | .failure report => return .error report

/-- What is printed in the end, and the exit code. -/
def tell {n : Type → Type} [Monad n] (console : Console n) : Ending → n UInt8
  | .success exit texts => do
    forM texts console.out
    return exit
  | .failure report => do
    console.err (report.short ++ "\n")
    return 2

/-- What is printed before an error is reported, and how the command has ended then. -/
def recorded : Ending → Except Report UInt8 × Printed
  | .success exit texts => (.ok exit, { stdout := String.join texts })
  | .failure report => (.error report, {})

/-- What can be seen in the end. -/
def result : Ending → Result
  | .success exit texts => { exit, stdout := String.join texts }
  | .failure report => { exit := 2, stderr := report.short ++ "\n" }

end Ending

/-! ## The order of a run -/

section

variable {m n : Type → Type} [Monad m] [Monad n] [LawfulMonad n] [MonadLiftT m n]
  [LawfulMonadLiftT m n] (env : Environment m) (console : Console n)

theorem runLower_eq (file : String) (format : Format) (workers : Option Nat)
    (output : Option String) :
    runLower env console file format (loweringOptions workers) output
      = (liftM ((Request.lower file format workers output).settle env) : n Ending)
          >>= Ending.perform console := by
  unfold runLower Request.settle Request.plan
  simp only [liftM_bind, liftM_pure, bind_assoc, pure_bind]
  refine bind_congr fun answer => ?_
  cases answer with
  | error report => simp [Except.map, carryOut, Ending.perform]
  | ok lowered =>
      cases output with
      | none => simp [Except.map, carryOut, Ending.perform]
      | some path =>
          simp only [Except.map, carryOut, liftM_bind, bind_assoc]
          refine bind_congr fun failure => ?_
          cases failure <;> simp [Ending.perform]

theorem runSummary_eq (pattern : String) (workers : Option Nat) :
    runSummary env console pattern (loweringOptions workers)
      = (liftM ((Request.summary pattern workers).settle env) : n Ending)
          >>= Ending.perform console := by
  unfold runSummary Request.settle Request.plan
  simp only [liftM_bind, bind_assoc]
  refine bind_congr fun found => ?_
  cases found with
  | error error => simp [carryOut, Ending.perform]
  | ok paths =>
      cases paths with
      | nil => simp [carryOut, Ending.perform]
      | cons path rest =>
          simp only [liftM_bind, liftM_pure, bind_assoc, pure_bind]
          refine bind_congr fun modules => ?_
          cases modules with
          | error report => simp [Except.map, carryOut, Ending.perform]
          | ok modules => simp [Except.map, carryOut, Ending.perform, Console.line, summaryTexts]

theorem runFunction_eq (file name args : String) :
    runFunction env console file name args
      = (liftM ((Request.run file name args).settle env) : n Ending)
          >>= Ending.perform console := by
  unfold runFunction Request.settle Request.plan
  simp only [liftM_bind, liftM_pure, bind_assoc, pure_bind]
  refine bind_congr fun answer => ?_
  cases answer with
  | error report => simp [Except.bind, carryOut, Ending.perform]
  | ok lowered =>
      dsimp only [Except.bind]
      cases invoke lowered name args with
      | error report => simp [Except.map, carryOut, Ending.perform]
      | ok outcome => simp [Except.map, carryOut, Ending.perform, Console.line]

/-- A command prints when all else is done, and leaves its error to be reported. -/
theorem Request.perform_eq (request : Request) :
    request.perform env console
      = (liftM (request.settle env) : n Ending) >>= Ending.perform console := by
  cases request with
  | lower file format workers output => exact runLower_eq env console file format workers output
  | summary pattern workers => exact runSummary_eq env console pattern workers
  | run file name args => exact runFunction_eq env console file name args

/--
**Nothing is printed before all else is done.**

Whatever kind of effect files have, and whatever a console does: a command line that is accepted
runs as all that can fail, where there is no console, and then the printing of what that came to.
-/
theorem main_eq {words : List String} {request : Request}
    (accepted : Request.ofWords words = .ok request) :
    main env console words
      = (liftM (request.settle env) : n Ending) >>= Ending.tell console := by
  unfold main
  rw [accepted]
  dsimp only
  rw [Request.perform_eq, bind_assoc]
  refine bind_congr fun ending => ?_
  cases ending <;> simp [Ending.perform, Ending.tell]

end

/-! ## What can be seen of a run -/

section

variable {m : Type → Type} [Monad m]

/-- Does what a request asks for and keeps what it prints. -/
def Request.recorded (env : Environment m) (request : Request) :
    m (Except Report UInt8 × Printed) :=
  (request.perform env Console.recording).run {}

variable [LawfulMonad m]

theorem run_forM_recording (texts : List String) (printed : Printed) :
    (forM texts (Console.recording (m := m)).out).run printed
      = pure ((), { printed with stdout := printed.stdout ++ String.join texts }) := by
  induction texts generalizing printed with
  | nil => simp
  | cons text rest ih =>
      have first : ((Console.recording (m := m)).out text).run printed
          = pure ((), { printed with stdout := printed.stdout ++ text }) := rfl
      rw [List.forM_cons, StateT.run_bind, first, pure_bind, ih, String.join_cons,
        String.append_assoc]

theorem run_perform_recording (ending : Ending) :
    (ending.perform (Console.recording (m := m))).run {} = pure ending.recorded := by
  cases ending with
  | success exit texts =>
      unfold Ending.perform Ending.recorded
      rw [StateT.run_bind, run_forM_recording, pure_bind, String.empty_append]
      rfl
  | failure report => rfl

theorem Request.recorded_eq (env : Environment m) (request : Request) :
    request.recorded env = Ending.recorded <$> request.settle env := by
  unfold Request.recorded
  rw [Request.perform_eq, StateT.run_bind, StateT.run_monadLift]
  simp [run_perform_recording]

theorem run_tell_recording (ending : Ending) :
    (ending.tell (Console.recording (m := m))).run {}
      = pure (ending.result.exit, ending.result.toPrinted) := by
  cases ending with
  | success exit texts =>
      unfold Ending.tell Ending.result
      rw [StateT.run_bind, run_forM_recording, pure_bind, String.empty_append]
      rfl
  | failure report =>
      have reported : ((Console.recording (m := m)).err (report.short ++ "\n")).run {}
          = pure ((), { stderr := "" ++ (report.short ++ "\n") }) := rfl
      unfold Ending.tell Ending.result
      rw [StateT.run_bind, reported, pure_bind, String.empty_append]
      rfl

/-- **What is seen of a run is how it ends.** -/
theorem execute_eq (env : Environment m) {words : List String} {request : Request}
    (accepted : Request.ofWords words = .ok request) :
    execute env words = Ending.result <$> request.settle env := by
  unfold execute
  rw [main_eq env Console.recording accepted, StateT.run_bind, StateT.run_monadLift]
  simp [run_tell_recording]

end

end ArgumentGuards.Command
