import ArgumentGuards.Proofs.Effects
import Mathlib

/-!
# What a command leaves behind

A command makes a plan, carries it out and then prints (`main_eq`). So whatever fails on the way has
printed nothing but its report, and without a plan to write a file the files are what they were,
since a plan is made by reading only (`quiet_plan`).

What a plan can be is said once, by the ways in which it comes about (`Planned`). That a command
which fails leaves no trace, what its exit code means and which file it changes are read off there.
-/

namespace ArgumentGuards.Command

variable {σ : Type} {files : σ → FileTree} {cwd : List String}

/-! ## Where plans come from -/

section

variable {env : Environment (StateM σ)}

/-- The ways to a plan, from a state. -/
inductive Planned (env : Environment (StateM σ)) (s : σ) : Request → Deed → Prop where
  /-- A lowered module is printed. -/
  | lowered {file : String} {format : Format} {workers : Option Nat} {lowered : LoweredModule} :
      ((env.lower (loweringOptions workers) file).run s).1 = .ok lowered →
      Planned env s (.lower file format workers none) (.print 0 [format.render lowered])
  /-- A lowered module is written to a file. -/
  | written {file : String} {format : Format} {workers : Option Nat} {path : String}
      {lowered : LoweredModule} :
      ((env.lower (loweringOptions workers) file).run s).1 = .ok lowered →
      Planned env s (.lower file format workers (some path)) (.write path (format.render lowered))
  /-- A summary of all modules is printed. -/
  | summarized {pattern : String} {workers : Option Nat} {paths : List String} {s' : σ}
      {modules : List LoweredModule} :
      (SourceModule.discover env.files pattern).run s = (.ok paths, s') →
      ((env.lowerAll (loweringOptions workers) paths).run s').1 = .ok modules →
      Planned env s (.summary pattern workers) (.print 0 (summaryTexts modules))
  /-- The value of an invocation is printed. -/
  | returned {file name args : String} {lowered : LoweredModule} {value : Value} :
      ((env.lower {} file).run s).1 = .ok lowered →
      invoke lowered name args = .ok (.returned value) →
      Planned env s (.run file name args)
        (.print 0 [(Outcome.returned value).render name ++ "\n"])
  /-- The exception of an invocation is printed. -/
  | threw {file name args : String} {lowered : LoweredModule} {exception : Value} :
      ((env.lower {} file).run s).1 = .ok lowered →
      invoke lowered name args = .ok (.threw exception) →
      Planned env s (.run file name args)
        (.print 1 [(Outcome.threw exception).render name ++ "\n"])

theorem planned_of_plan {request : Request} {s : σ} {deed : Deed}
    (planned : ((request.plan env).run s).1 = .ok deed) : Planned env s request deed := by
  cases request with
  | lower file format workers output =>
      unfold Request.plan at planned
      rw [run_bind_fst] at planned
      cases done : ((env.lower (loweringOptions workers) file).run s).1 with
      | error report =>
          rw [done] at planned
          cases planned
      | ok lowered =>
          rw [done] at planned
          cases output with
          | none =>
              cases planned
              exact .lowered done
          | some path =>
              cases planned
              exact .written done
  | summary pattern workers =>
      unfold Request.plan at planned
      rw [run_bind_fst] at planned
      cases found : ((SourceModule.discover env.files pattern).run s).1 with
      | error error =>
          rw [found] at planned
          cases planned
      | ok paths =>
          rw [found] at planned
          cases paths with
          | nil => cases planned
          | cons path rest =>
              dsimp only at planned
              rw [run_bind_fst] at planned
              cases done : ((env.lowerAll (loweringOptions workers) (path :: rest)).run
                  ((SourceModule.discover env.files pattern).run s).2).1 with
              | error report =>
                  rw [done] at planned
                  cases planned
              | ok modules =>
                  rw [done] at planned
                  cases planned
                  exact .summarized (Prod.ext found rfl) done
  | run file name args =>
      unfold Request.plan at planned
      rw [run_bind_fst] at planned
      cases done : ((env.lower {} file).run s).1 with
      | error report =>
          rw [done] at planned
          cases planned
      | ok lowered =>
          rw [done] at planned
          change Except.map _ (invoke lowered name args) = _ at planned
          cases ends : invoke lowered name args with
          | error report =>
              rw [ends] at planned
              cases planned
          | ok outcome =>
              rw [ends] at planned
              cases outcome with
              | returned value =>
                  cases planned
                  exact .returned done ends
              | threw exception =>
                  cases planned
                  exact .threw done ends

/-- **Nothing is done to the files until there is a plan.** -/
theorem quiet_plan (serves : env.Serves files cwd) (request : Request) :
    Quiet files (request.plan env) := by
  cases request with
  | lower file format workers output => exact (quiet_lower serves _ file).bind fun _ => .pure _
  | summary pattern workers =>
      refine (quiet_discover serves pattern).bind fun found => ?_
      cases found with
      | error error => exact .pure _
      | ok paths =>
          cases paths with
          | nil => exact .pure _
          | cons path rest => exact (quiet_lowerAll serves _ _).bind fun _ => .pure _
  | run file name args => exact (quiet_lower serves _ file).bind fun _ => .pure _

end

/-! ## What is left behind -/

/-- A request invokes a function, and that throws an exception. -/
def Throws (env : Environment (StateM σ)) (s : σ) (request : Request) : Prop :=
  ∃ file name args lowered exception, request = .run file name args
    ∧ ((env.lower {} file).run s).1 = .ok lowered
    ∧ invoke lowered name args = .ok (.threw exception)

/-- What is wrong with a request: it comes to no plan, or what it is to write cannot be written. -/
inductive Fails (env : Environment (StateM σ)) (s : σ) (request : Request) : Report → Prop where
  | unplanned {report : Report} :
      ((request.plan env).run s).1 = .error report → Fails env s request report
  | unwritten {path text : String} {failure : WriteFailure} :
      ((request.plan env).run s).1 = .ok (.write path text) →
      ((env.files.write path text).run ((request.plan env).run s).2).1 = some failure →
      Fails env s request (Fault.unwritable path failure).report

/-- What a request leaves behind: its result and the files, from those that it has found. -/
structure Leaves (env : Environment (StateM σ)) (files : σ → FileTree) (cwd : List String)
    (request : Request) (s : σ) (result : Result) (after : σ) : Prop where
  /-- There are three exit codes. -/
  exit : result.exit = 0 ∨ result.exit = 1 ∨ result.exit = 2
  /-- An error leaves no trace but its report. -/
  failed : result.exit = 2 → result.stdout = "" ∧ files after = files s
    ∧ ∃ report, Fails env s request report ∧ result.stderr = report.short ++ "\n"
  /-- Nothing is reported unless there is an error. -/
  silent : result.exit ≠ 2 → result.stderr = ""
  /-- A thrown exception is no error and has an exit code of its own. -/
  threw : result.exit = 1 ↔ Throws env s request
  /-- What is written is what would be printed. -/
  written : result.exit ≠ 2 → ∀ file format workers path,
    request = .lower file format workers (some path) → result.stdout = ""
      ∧ ∃ text s', ((Request.lower file format workers none).recorded env).run s
          = ((.ok 0, { stdout := text }), s')
        ∧ (files s).Rewritten path text cwd (files after)
  /-- Nothing else is written. -/
  kept : result.exit ≠ 2 →
    (∀ file format workers path, request ≠ .lower file format workers (some path)) →
    files after = files s
  /-- One module that cannot be had is enough for a summary to fail. -/
  summary : ∀ pattern workers paths s', request = .summary pattern workers →
    (SourceModule.discover env.files pattern).run s = (.ok paths, s') →
    (∃ path ∈ paths, ¬ Lowers env s (loweringOptions workers) path) →
    result.exit = 2 ∧ result.stdout = ""

section

variable {env : Environment (StateM σ)} {request : Request} {s : σ}

theorem settle_run (env : Environment (StateM σ)) (request : Request) (s : σ) :
    (request.settle env).run s
      = (carryOut env ((request.plan env).run s).1).run ((request.plan env).run s).2 :=
  rfl

theorem plan_of_throws (throws : Throws env s request) :
    ∃ texts, ((request.plan env).run s).1 = .ok (.print 1 texts) := by
  obtain ⟨file, name, args, lowered, exception, rfl, done, ends⟩ := throws
  refine ⟨[(Outcome.threw exception).render name ++ "\n"], ?_⟩
  unfold Request.plan
  rw [run_bind_fst, done]
  change Except.map _ (invoke lowered name args) = _
  rw [ends]
  rfl

theorem plan_lower {file : String} {format : Format} {workers : Option Nat}
    {lowered : LoweredModule} (output : Option String)
    (done : ((env.lower (loweringOptions workers) file).run s).1 = .ok lowered) :
    (((Request.lower file format workers output).plan env).run s).1
      = .ok (match output with
        | none => .print 0 [format.render lowered]
        | some path => .write path (format.render lowered)) := by
  unfold Request.plan
  rw [run_bind_fst, done]
  cases output <;> rfl

/-- What is written with an output is printed without one. -/
theorem recorded_printing {file : String} {format : Format} {workers : Option Nat}
    {lowered : LoweredModule}
    (done : ((env.lower (loweringOptions workers) file).run s).1 = .ok lowered) :
    ∃ s', ((Request.lower file format workers none).recorded env).run s
      = ((.ok 0, { stdout := format.render lowered }), s') := by
  rw [Request.recorded_eq, StateT.run_map, settle_run, plan_lower none done]
  exact ⟨_, rfl⟩

/-- What a request prints is what its command line prints, unless there is an error to report. -/
theorem execute_of_recorded {words : List String} {exit : UInt8} {printed : Printed} {s' : σ}
    (accepted : Request.ofWords words = .ok request)
    (done : (request.recorded env).run s = ((.ok exit, printed), s')) :
    (execute env words).run s = ({ printed with exit }, s') := by
  unfold Request.recorded at done
  unfold execute main
  rw [accepted]
  simp only [StateT.run_bind, done]
  rfl

/-- A summary has no plan if one of its modules cannot be had. -/
theorem not_planned_summary (serves : env.Serves files cwd) {pattern : String}
    {workers : Option Nat} {paths : List String} {s' : σ} {deed : Deed}
    (found : (SourceModule.discover env.files pattern).run s = (.ok paths, s'))
    (fails : ∃ path ∈ paths, ¬ Lowers env s (loweringOptions workers) path) :
    ¬ Planned env s (.summary pattern workers) deed := by
  intro planned
  obtain ⟨path, there, fails⟩ := fails
  cases planned with
  | summarized again done =>
      cases found.symm.trans again
      have lowers := lowers_of_lowerAll serves paths done path there
      have quiet := quiet_discover serves pattern s
      rw [found] at quiet
      exact fails (lowers.congr serves quiet)

/-- A report is all that a failure leaves behind. -/
theorem leaves_failure {report : Report} (fails : Fails env s request report) {after : σ}
    (same : files after = files s) (noThrow : ¬ Throws env s request) :
    Leaves env files cwd request s (Ending.failure report).result after where
  exit := .inr (.inr rfl)
  failed _ := ⟨rfl, same, report, fails, rfl⟩
  silent fine := absurd rfl fine
  threw := by
    constructor
    · intro one
      exact absurd (show (2 : UInt8) = 1 from one) (by decide)
    · intro throws
      exact absurd throws noThrow
  written fine := absurd rfl fine
  kept fine := absurd rfl fine
  summary _ _ _ _ _ _ _ := ⟨rfl, rfl⟩

variable (serves : env.Serves files cwd)

include serves

theorem leaves_of_error {report : Report} (planned : ((request.plan env).run s).1 = .error report) :
    Leaves env files cwd request s (Ending.failure report).result ((request.plan env).run s).2 := by
  refine leaves_failure (.unplanned planned) (quiet_plan serves request s) ?_
  intro throws
  obtain ⟨texts, other⟩ := plan_of_throws throws
  cases planned.symm.trans other

/-- What is printed is all that is left behind. -/
theorem leaves_of_print {exit : UInt8} {texts : List String}
    (planned : ((request.plan env).run s).1 = .ok (.print exit texts)) :
    Leaves env files cwd request s (Ending.success exit texts).result
      ((request.plan env).run s).2 := by
  have came := planned_of_plan planned
  -- no plan is made to print something and to fail all the same
  have success : exit = 0 ∨ exit = 1 := by
    cases came with
    | lowered done => exact .inl rfl
    | summarized found done => exact .inl rfl
    | returned done ends => exact .inl rfl
    | threw done ends => exact .inr rfl
  have noError : exit ≠ 2 := by
    rintro rfl
    revert success
    decide
  constructor
  case exit => exact success.imp_right .inl
  case failed =>
    intro error
    exact absurd error noError
  case silent =>
    intro _
    rfl
  case threw =>
    constructor
    · intro one
      change exit = 1 at one
      subst one
      cases came with
      | threw done ends => exact ⟨_, _, _, _, _, rfl, done, ends⟩
    · intro throws
      obtain ⟨other, same⟩ := plan_of_throws throws
      cases planned.symm.trans same
      rfl
  case written =>
    rintro _ file format workers path rfl
    cases came
  case kept =>
    intro _ _
    exact quiet_plan serves request s
  case summary =>
    rintro pattern workers paths s' rfl found fails
    exact absurd came (not_planned_summary serves found fails)

omit serves in
theorem carryOut_write (path text : String) (s : σ) :
    (carryOut env (.ok (.write path text))).run s
      = (match ((env.files.write path text).run s).1 with
          | none => .success 0 []
          | some failure => .failure (Fault.unwritable path failure).report,
        ((env.files.write path text).run s).2) := by
  change ((match ((env.files.write path text).run s).1 with
    | none => (pure (.success 0 []) : StateM σ Ending)
    | some failure => pure (.failure (Fault.unwritable path failure).report)).run
      ((env.files.write path text).run s).2) = _
  cases ((env.files.write path text).run s).1 <;> rfl

/-- What is written is all that is left behind, if it can be. -/
theorem leaves_of_write {path text : String}
    (planned : ((request.plan env).run s).1 = .ok (.write path text)) :
    Leaves env files cwd request s
      ((carryOut env (.ok (.write path text))).run ((request.plan env).run s).2).1.result
      ((carryOut env (.ok (.write path text))).run ((request.plan env).run s).2).2 := by
  have quiet := quiet_plan serves request s
  have came := planned_of_plan planned
  -- who invokes a function has nothing to write
  have noThrow : ¬ Throws env s request := by
    intro throws
    obtain ⟨other, same⟩ := plan_of_throws throws
    cases planned.symm.trans same
  have write := serves.write path text ((request.plan env).run s).2
  rw [carryOut_write]
  cases answer : ((env.files.write path text).run ((request.plan env).run s).2).1 with
  | some failure =>
      rw [answer] at write
      obtain ⟨done, _⟩ | ⟨_, same⟩ := write
      · cases done
      · exact leaves_failure (.unwritten planned answer) (same.trans quiet) noThrow
  | none =>
      rw [answer, quiet] at write
      obtain ⟨_, changed⟩ | ⟨failed, _⟩ := write
      · constructor
        case exit => exact .inl rfl
        case failed =>
          intro error
          exact absurd (show (0 : UInt8) = 2 from error) (by decide)
        case silent =>
          intro _
          rfl
        case threw =>
          constructor
          · intro one
            exact absurd (show (0 : UInt8) = 1 from one) (by decide)
          · intro throws
            exact absurd throws noThrow
        case written =>
          rintro _ file format workers target rfl
          cases came with
          | written done =>
              obtain ⟨s', printed⟩ := recorded_printing done
              exact ⟨rfl, _, s', printed, FileTree.rewritten_of_write changed⟩
        case kept =>
          intro _ others
          cases came with
          | written done => exact absurd rfl (others _ _ _ _)
        case summary =>
          rintro pattern workers _ _ rfl
          cases came
      · exact absurd rfl failed

end

/--
**A command that fails leaves no trace, and one that succeeds leaves what it is for.**

Whatever a command line asks for, and whatever the files hold: with exit code two nothing has been
printed, all files are as they were, and there is one report of what went wrong. Otherwise nothing
is reported. Exit code one means that the function which was run threw an exception. A module that
is lowered into a file changes this file only, to the text that would be printed without it, and
nothing is printed; all other commands change no file. A summary fails if one of its modules cannot
be loaded or lowered.

On any console all that is printed is printed in the end, when nothing can fail any more.
-/
theorem execute_leaves {env : Environment (StateM σ)} (serves : env.Serves files cwd)
    {words : List String} {request : Request} (accepted : Request.ofWords words = .ok request)
    (s : σ) :
    Leaves env files cwd request s ((execute env words).run s).1 ((execute env words).run s).2
      ∧ ∀ {n : Type → Type} [Monad n] [LawfulMonad n] [MonadLiftT (StateM σ) n]
          [LawfulMonadLiftT (StateM σ) n] (console : Console n),
          main env console words
            = (liftM (request.settle env) : n Ending) >>= Ending.tell console := by
  refine ⟨?_, fun console => main_eq env console accepted⟩
  rw [execute_eq env accepted, StateT.run_map, settle_run]
  cases planned : ((request.plan env).run s).1 with
  | error report => exact leaves_of_error serves planned
  | ok deed =>
      cases deed with
      | print exit texts => exact leaves_of_print serves planned
      | write path text => exact leaves_of_write serves planned

/-- A text is written to the empty directory of a root, from the other one. -/
theorem write_rootWith (name content text : String) :
    (rootWith name content).write "/tmp/out" text ["work"]
      = .ok (.directory [("tmp", .directory [("out", .file text.toUTF8)]),
          ("work", .directory [(name, .file content.toUTF8)])]) := by
  rfl

/-- A module of the working directory is written to a file of another one that was not there. -/
theorem execute_leaves_greeting :
    ∃ text after,
      (execute (.ofTree "id" ["work"]) ["lower", "m.json", "--output", "/tmp/out"]).run
          (rootWith "m.json" greeting) = ({ exit := 0 }, after)
        ∧ (rootWith "m.json" greeting).Rewritten "/tmp/out" text ["work"] after
        ∧ ∃ s', (execute (.ofTree "id" ["work"]) ["lower", "m.json"]).run
            (rootWith "m.json" greeting) = ({ exit := 0, stdout := text }, s') := by
  have accepted : Request.ofWords ["lower", "m.json", "--output", "/tmp/out"]
      = .ok (.lower "m.json" .text none (some "/tmp/out")) := by decide +kernel
  have printing : Request.ofWords ["lower", "m.json"]
      = .ok (.lower "m.json" .text none none) := by decide +kernel
  have reached : (rootWith "m.json" greeting).resolve "m.json" ["work"]
      = .ok ["work", "m.json"] := by decide +kernel
  have loads := load_greeting reached (by decide +kernel)
  obtain ⟨lowered, lowers⟩ : ∃ lowered, SourceModule.lower ⟨"m", some "m.json", [greet]⟩ "id"
      (loweringOptions none) = .ok lowered := ⟨_, rfl⟩
  have run : (Environment.lower (.ofTree "id" ["work"]) (loweringOptions none) "m.json").run
      (rootWith "m.json" greeting) = (.ok lowered, rootWith "m.json" greeting) :=
    lower_run loads lowers
  have done := congrArg Prod.fst run
  have there := write_rootWith "m.json" greeting (Format.text.render lowered)
  generalize rootWith "m.json" greeting = tree at done there ⊢
  have serves := Environment.serves_ofTree "id" ["work"]
  have leaves := (execute_leaves serves accepted tree).1
  have success : ((execute (.ofTree "id" ["work"]) ["lower", "m.json", "--output", "/tmp/out"]).run
      tree).1 = { exit := 0 } := by
    have same := quiet_plan serves (.lower "m.json" .text none (some "/tmp/out")) tree
    rw [execute_eq _ accepted, StateT.run_map, settle_run, plan_lower (some "/tmp/out") done,
      carryOut_write, same]
    dsimp only [Environment.ofTree]
    rw [write_run, there]
    rfl
  generalize (execute (.ofTree "id" ["work"]) ["lower", "m.json", "--output", "/tmp/out"]).run tree
    = ends at success leaves ⊢
  obtain ⟨result, after⟩ := ends
  obtain rfl : result = { exit := 0 } := success
  have noError : (0 : UInt8) ≠ 2 := by decide
  obtain ⟨_, text, s', printed, rewritten⟩ := leaves.written noError _ _ _ _ rfl
  exact ⟨text, after, rfl, rewritten, s', execute_of_recorded printing printed⟩

end ArgumentGuards.Command
