import ArgumentGuards.Proofs.Lockstep

/-!
# What holds throughout a run

Statements about single runs say two things: what holds of every state, however the run ends, and
which interrupts can end it. A run **keeps** a property if from every state that has it the run ends
in one, by a value or by an interrupt that is possible. Everything that statements and expressions
are made of does so under conditions that are read off here, so that a statement about all programs
is one induction over the syntax that says why these conditions are met.

Properties are properties of frames. Counters come and go with them, and which of the interrupts of
the two limits are possible is left open.
-/

namespace ArgumentGuards

/-! ## Keeping a property -/

section

variable {σ α β : Type}

/-- An end in a state with a property, by a value or by an interrupt that is possible. -/
inductive Ends (holds : σ → Prop) (possible : Interrupt → Prop) :
    EStateM.Result Interrupt σ α → Prop where
  | ok {a : α} {s : σ} : holds s → Ends holds possible (.ok a s)
  | error {i : Interrupt} {s : σ} : holds s → possible i → Ends holds possible (.error i s)

/-- From every state with a property a run ends in such a state. -/
def Keeps (holds : σ → Prop) (possible : Interrupt → Prop) (run : EStateM Interrupt σ α) : Prop :=
  ∀ s, holds s → Ends holds possible (run s)

variable {holds : σ → Prop} {possible : Interrupt → Prop}

theorem Ends.imp {more : σ → Prop} {result : EStateM.Result Interrupt σ α}
    (h : Ends holds possible result) (le : ∀ s, holds s → more s) :
    Ends more possible result := by
  cases h with
  | ok after => exact .ok (le _ after)
  | error after isPossible => exact .error (le _ after) isPossible

theorem Keeps.pure (a : α) : Keeps holds possible (Pure.pure a : EStateM Interrupt σ α) :=
  fun _ kept => .ok kept

theorem Keeps.throw {i : Interrupt} (isPossible : possible i) :
    Keeps holds possible (MonadExcept.throw i : EStateM Interrupt σ α) :=
  fun _ kept => .error kept isPossible

/-- What comes after a run may count on its value being one that the run can have. -/
theorem Keeps.bind {run : EStateM Interrupt σ α} {next : α → EStateM Interrupt σ β}
    (first : Keeps holds possible run)
    (second : ∀ a, (∃ s s', run s = .ok a s') → Keeps holds possible (next a)) :
    Keeps holds possible (run >>= next) := by
  intro s kept
  have ends := first s kept
  cases hr : run s with
  | ok a s' =>
      rw [hr] at ends
      rw [bind_of_ok hr]
      cases ends with
      | ok after => exact second a ⟨s, s', hr⟩ s' after
  | error i s' =>
      rw [hr] at ends
      rw [bind_of_error hr]
      cases ends with
      | error after isPossible => exact .error after isPossible

theorem Keeps.settle {outcome : Except Interrupt α}
    (h : ∀ i, outcome = .error i → possible i) :
    Keeps holds possible (ArgumentGuards.settle outcome : EStateM Interrupt σ α) := by
  cases outcome with
  | ok a => exact .pure a
  | error i => exact .throw (h i rfl)

theorem Keeps.ite {run run' : EStateM Interrupt σ α} (decision : Bool)
    (yes : Keeps holds possible run) (no : Keeps holds possible run') :
    Keeps holds possible (if decision then run else run') := by
  cases decision with
  | true => exact yes
  | false => exact no

end

/-! ## Interrupts of operations -/

/-- Whether an operation on values can raise an interrupt: an exception, or a fault of types. -/
def Interrupt.OfOperation : Interrupt → Prop
  | .thrown _ => True
  | .fault (.typeMismatch _) => True
  | .fault _ => False

theorem Interrupt.OfOperation.not_outOfSteps {interrupt : Interrupt} (h : interrupt.OfOperation) :
    ¬ interrupt.OutOfSteps := by
  cases interrupt with
  | thrown exception => exact id
  | fault error =>
      cases error with
      | typeMismatch operation => exact id
      | _ => exact h.elim

theorem UnaryOp.apply_ofOperation {op : UnaryOp} {value : Value} {interrupt : Interrupt}
    (h : op.apply value = .error interrupt) : interrupt.OfOperation := by
  cases op
  cases value with
  | bool b => cases h
  | _ => cases h; trivial

theorem BinaryOp.apply_ofOperation {op : BinaryOp} {left right : Value} {interrupt : Interrupt}
    (h : op.apply left right = .error interrupt) : interrupt.OfOperation := by
  unfold BinaryOp.apply at h
  split at h <;> cases h
  trivial

theorem Value.codeUnit_ofOperation {target index : Value} {interrupt : Interrupt}
    (h : target.codeUnit index = .error interrupt) : interrupt.OfOperation := by
  unfold Value.codeUnit at h
  split at h
  · cases h
    trivial
  · split at h
    · cases h
      trivial
    · split at h
      · cases h
      · cases h
        trivial
  · cases h
    trivial

theorem Value.holdsValue_ofOperation {value : Value} {interrupt : Interrupt}
    (h : value.holdsValue = .error interrupt) : interrupt.OfOperation := by
  cases value <;> cases h <;> trivial

theorem Value.textLength_ofOperation {value : Value} {interrupt : Interrupt}
    (h : value.textLength = .error interrupt) : interrupt.OfOperation := by
  cases value <;> cases h <;> trivial

theorem Value.truth_ofOperation {value : Value} {interrupt : Interrupt}
    (h : value.truth = .error interrupt) : interrupt.OfOperation := by
  cases value <;> cases h <;> trivial

/-! ## Properties of frames -/

section

variable {α : Type} {possible : Interrupt → Prop} {limits : Limits}

/-- Whatever the counters are: runs of expressions have no other state. -/
abbrev KeepsMeter (possible : Interrupt → Prop) (run : Metered α) : Prop :=
  Keeps (fun _ => True) possible run

/-- A property of the frame is kept. -/
abbrev KeepsFrame (holds : Frame → Prop) (possible : Interrupt → Prop) (run : Stepped α) : Prop :=
  Keeps (fun machine => holds machine.frame) possible run

variable {holds : Frame → Prop}

theorem inFrame_keeps {run : Frame → Metered α}
    (h : ∀ frame, holds frame → KeepsMeter possible (run frame)) :
    KeepsFrame holds possible (inFrame run) := by
  rintro ⟨meter, frame⟩ kept
  have ends := h frame kept meter trivial
  dsimp only [inFrame]
  generalize run frame meter = result at ends ⊢
  cases ends with
  | ok _ => exact .ok kept
  | error _ isPossible => exact .error kept isPossible

theorem takeStep_keeps (outOfSteps : possible (.fault (.stepLimit limits.steps))) :
    KeepsFrame holds possible (takeStep limits) := by
  rintro ⟨meter, frame⟩ kept
  dsimp only [takeStep]
  split
  · exact .error kept outOfSteps
  · exact .ok kept

/-- What is kept inside of a block is there when it is entered, and is enough when it is left. -/
theorem withLocals_keeps {inside : Frame → Prop} {declared : List Local} {run : Stepped α}
    (enter : ∀ frame, holds frame → inside (frame.enterBlock declared))
    (leave : ∀ frame, inside frame → holds (frame.leaveBlock declared))
    (h : KeepsFrame inside possible run) :
    KeepsFrame holds possible (withLocals declared run) := by
  rintro ⟨meter, frame⟩ kept
  have ends := h ⟨meter, frame.enterBlock declared⟩ (enter frame kept)
  dsimp only [withLocals]
  generalize run ⟨meter, frame.enterBlock declared⟩ = result at ends ⊢
  cases ends with
  | ok after => exact .ok (leave _ after)
  | error after isPossible => exact .error (leave _ after) isPossible

theorem assign_keeps {name : String} {value : Value}
    (assigned : ∀ frame after, holds frame → frame.assign? name value = some after → holds after)
    (unbound : ∀ frame, holds frame → frame.assign? name value = none →
      possible (.fault (.unknownVariable name))) :
    KeepsFrame holds possible (assign name value) := by
  rintro ⟨meter, frame⟩ kept
  dsimp only [assign]
  cases h : frame.assign? name value with
  | some after => exact .ok (assigned frame after kept h)
  | none => exact .error kept (unbound frame kept h)

theorem repeatWhile_keeps (outOfSteps : possible (.fault (.stepLimit limits.steps)))
    {test : Stepped Bool} {body : Stepped Completion} (htest : KeepsFrame holds possible test)
    (hbody : KeepsFrame holds possible body) (rounds : Nat) :
    KeepsFrame holds possible (repeatWhile limits test body rounds) := by
  induction rounds with
  | zero => exact .throw outOfSteps
  | succ rounds ih =>
      rw [repeatWhile]
      refine htest.bind fun goesOn _ => .ite goesOn (hbody.bind fun completion _ => ?_) (.pure _)
      cases completion with
      | normal => exact ih
      | returned value => exact .pure _

theorem rounds_keep (outOfSteps : possible (.fault (.stepLimit limits.steps)))
    {test : Stepped Bool} {body : Stepped Completion} (htest : KeepsFrame holds possible test)
    (hbody : KeepsFrame holds possible body) :
    KeepsFrame holds possible
      (do let machine ← get; repeatWhile limits test body (roundsLeft limits machine)) :=
  fun machine kept =>
    repeatWhile_keeps outOfSteps htest hbody (roundsLeft limits machine) machine kept

/-! ## Calls -/

theorem oneLevelDown_keeps {frame : Frame} {run : Stepped Completion} (start : holds frame)
    (h : KeepsFrame holds possible run) : KeepsMeter possible (oneLevelDown frame run) := by
  intro meter _
  have ends := h ⟨{ meter with depth := meter.depth + 1 }, frame⟩ start
  dsimp only [oneLevelDown]
  generalize run ⟨{ meter with depth := meter.depth + 1 }, frame⟩ = result at ends ⊢
  cases ends with
  | ok _ => exact .ok trivial
  | error _ isPossible => exact .error trivial isPossible

/-- A call with as many arguments as parameters is made, or finds no level left. -/
theorem enter_keeps {callee : Callee} {args : List Value} {run : Metered Value}
    (fits : callee.parameters.length = args.length)
    (tooDeep : possible (.fault (.callDepth limits.depth callee.name)))
    (h : KeepsMeter possible run) :
    KeepsMeter possible (Interpreter.enter limits callee args run) := by
  intro meter _
  dsimp only [Interpreter.enter]
  rw [if_neg (not_not_intro fits)]
  split
  · exact .error trivial tooDeep
  · exact h meter trivial

end

end ArgumentGuards
