import ArgumentGuards.Proofs.Throughout
import Mathlib

/-!
# Blocks restore the names around them

A block declares variables, which may hide those of the blocks around it and parameters, and some
of which may have the same name. When the block is left, by whatever way, the names mean again what
they meant before.

The frame keeps hidden variables below those that hide them. What statements do to it is therefore
said of whole lists of bindings, hidden ones included: the names stay as they are, in their order,
and a value changes only if its binding is the first one of its name and a statement assigns to that
name (`Bindings.Kept`). Dropping the variables of a block from both sides of this relation leaves
the relation of the block itself, to which an assignment to one of its own variables is none
(`Frame.Kept.leaveBlock`). Whatever way a block is left, its names are restored (`Block.Restores`).
-/

namespace ArgumentGuards

/-! ## Assignments to the names around -/

namespace Stmt

mutual

/-- Whether a statement assigns to a name around it. An assignment to a variable of a block inside
is none. -/
def Assigns (name : String) : Stmt → Prop
  | .expression _ => False
  | .ret _ => False
  | .conditional _ thenBranch none => thenBranch.Assigns name
  | .conditional _ thenBranch (some elseBranch) =>
    thenBranch.Assigns name ∨ elseBranch.Assigns name
  | .throw _ => False
  | .assign target _ => target = name
  | .loop _ body => body.Assigns name
  | .block ⟨locals, statements⟩ => name ∉ locals.map Local.name ∧ AnyAssigns name statements
  | .sequencePoint _ statement => statement.Assigns name

/-- Whether one of some statements does. -/
def AnyAssigns (name : String) : List Stmt → Prop
  | [] => False
  | s :: rest => s.Assigns name ∨ AnyAssigns name rest

end

end Stmt

/-- Whether the statements of a block assign to a name around it. -/
def Block.Assigns (name : String) (b : Block) : Prop :=
  name ∉ b.locals.map Local.name ∧ Stmt.AnyAssigns name b.statements

/-! ## Bindings that are kept -/

namespace Bindings

/-- The same names in the same order with the same values, but for the first bindings of names that
may be assigned. -/
inductive Kept : (String → Prop) → Bindings → Bindings → Prop where
  | nil {assigned : String → Prop} : Kept assigned [] []
  | cons {assigned : String → Prop} {name : String} {before after : Value} {rest rest' : Bindings} :
      (after = before ∨ assigned name) → Kept (fun n => n ≠ name ∧ assigned n) rest rest' →
      Kept assigned ((name, before) :: rest) ((name, after) :: rest')

namespace Kept

variable {assigned more : String → Prop} {before middle after : Bindings} {name : String}

theorem refl (assigned : String → Prop) (before : Bindings) : Kept assigned before before := by
  induction before generalizing assigned with
  | nil => exact .nil
  | cons binding rest ih => exact .cons (.inl rfl) (ih _)

theorem mono (h : Kept assigned before after) (le : ∀ n, assigned n → more n) :
    Kept more before after := by
  induction h generalizing more with
  | nil => exact .nil
  | cons value _ ih => exact .cons (value.imp_right (le _)) (ih fun n ⟨ne, is⟩ => ⟨ne, le n is⟩)

theorem trans (first : Kept assigned before middle) (second : Kept assigned middle after) :
    Kept assigned before after := by
  induction first generalizing after with
  | nil => exact second
  | cons value _ ih =>
      cases second with
      | cons value' rest =>
          -- the value may have changed twice, but never if the name is not assigned
          refine .cons ?_ (ih rest)
          rcases value' with rfl | isAssigned
          · exact value
          · exact .inr isAssigned

theorem keys (h : Kept assigned before after) : after.map Prod.fst = before.map Prod.fst := by
  induction h with
  | nil => rfl
  | cons _ _ ih => rw [List.map_cons, List.map_cons, ih]

/-- A name that is not assigned has its value. -/
theorem lookup (h : Kept assigned before after) (spared : ¬ assigned name) :
    after.lookup name = before.lookup name := by
  induction h with
  | nil => rfl
  | @cons assigned n value value' rest rest' same _ ih =>
      rw [List.lookup_cons, List.lookup_cons]
      split
      · rename_i first
        obtain rfl : name = n := beq_iff_eq.mp first
        rw [same.resolve_right spared]
      · exact ih fun ⟨_, is⟩ => spared is

theorem assign? {value : Value} (h : before.assign? name value = some after) :
    Kept (· = name) before after := by
  induction before generalizing after with
  | nil => cases h
  | cons binding rest ih =>
      unfold Bindings.assign? at h
      split at h
      · rename_i first
        cases h
        exact .cons (.inr first) (.refl _ _)
      · rename_i differs
        obtain ⟨others, hothers, rfl⟩ := Option.map_eq_some_iff.mp h
        refine .cons (.inl rfl) ((ih hothers).mono ?_)
        rintro n rfl
        exact ⟨Ne.symm differs, rfl⟩

/-- What is below some bindings changes only at names that these do not have. -/
theorem drop {top : Bindings} (h : Kept assigned (top ++ before) after) :
    Kept (fun n => n ∉ top.map Prod.fst ∧ assigned n) before (after.drop top.length) := by
  induction top generalizing assigned after with
  | nil => exact h.mono fun n is => ⟨List.not_mem_nil, is⟩
  | cons binding rest ih =>
      cases h with
      | cons _ others =>
          -- the name of the dropped binding is hidden from those below it
          refine (ih others).mono fun n ⟨notBelow, ne, is⟩ => ⟨fun here => ?_, is⟩
          exact (List.mem_cons.mp here).elim ne notBelow

end Kept

end Bindings

/-! ## Frames that are kept -/

/-- A frame of the same names, with the same values but for those that may be assigned. A parameter
can only be assigned if no variable hides it. -/
structure Frame.Kept (assigned : String → Prop) (before after : Frame) : Prop where
  locals : Bindings.Kept assigned before.locals after.locals
  parameters : Bindings.Kept (fun n => n ∉ before.locals.map Prod.fst ∧ assigned n)
    before.parameters after.parameters

namespace Frame.Kept

variable {assigned more : String → Prop} {before middle after : Frame} {name : String}

theorem refl (assigned : String → Prop) (frame : Frame) : Kept assigned frame frame :=
  ⟨.refl _ _, .refl _ _⟩

theorem mono (h : Kept assigned before after) (le : ∀ n, assigned n → more n) :
    Kept more before after :=
  ⟨h.locals.mono le, h.parameters.mono fun n ⟨free, is⟩ => ⟨free, le n is⟩⟩

theorem trans (first : Kept assigned before middle) (second : Kept assigned middle after) :
    Kept assigned before after := by
  have parameters := second.parameters
  rw [first.locals.keys] at parameters
  exact ⟨first.locals.trans second.locals, first.parameters.trans parameters⟩

theorem assign? {value : Value} (h : before.assign? name value = some after) :
    Kept (· = name) before after := by
  unfold Frame.assign? at h
  split at h
  · rename_i locals hlocals
    cases h
    exact ⟨.assign? hlocals, .refl _ _⟩
  · -- no variable has the name, so a parameter that has it is not hidden
    rename_i unbound
    obtain ⟨parameters, hparameters, rfl⟩ := Option.map_eq_some_iff.mp h
    refine ⟨.refl _ _, (Bindings.Kept.assign? hparameters).mono ?_⟩
    rintro n rfl
    refine ⟨fun bound => ?_, rfl⟩
    obtain ⟨locals, hlocals⟩ := Bindings.exists_assign? value bound
    rw [unbound] at hlocals
    cases hlocals

/-- When a block is left, what was assigned to its own variables is gone. -/
theorem leaveBlock {inside : String → Prop} {declared : List Local}
    (h : Kept inside (before.enterBlock declared) after)
    (le : ∀ n, n ∉ declared.map Local.name → inside n → assigned n) :
    Kept assigned before (after.leaveBlock declared) := by
  have keys : ((declared.map fun l => (l.name, Value.initial l.type)).reverse).map Prod.fst
      = (declared.map Local.name).reverse := by
    rw [List.map_reverse, List.map_map]
    rfl
  have size : ((declared.map fun l => (l.name, Value.initial l.type)).reverse).length
      = declared.length := by
    rw [List.length_reverse, List.length_map]
  refine ⟨?_, ?_⟩
  · have below := Bindings.Kept.drop h.locals
    rw [keys, size] at below
    exact below.mono fun n ⟨free, is⟩ => le n (fun here => free (List.mem_reverse.mpr here)) is
  · refine h.parameters.mono fun n ⟨free, is⟩ => ?_
    unfold Frame.enterBlock at free
    rw [List.map_append, keys, List.mem_append, List.mem_reverse, not_or] at free
    exact ⟨free.2, le n free.1 is⟩

end Frame.Kept

/-! ## Runs that assign to some names only -/

/-- A run after which a frame is kept but for some names, however it ends. -/
def AssignsOnly {α : Type} (assigned : String → Prop) (run : Stepped α) : Prop :=
  ∀ start : Frame, KeepsFrame (start.Kept assigned) (fun _ => True) run

section

variable {α : Type} {assigned more : String → Prop} {limits : Limits} {call : Caller}

theorem AssignsOnly.ends {run : Stepped α} (h : AssignsOnly assigned run) (machine : Machine) :
    Ends (fun after => machine.frame.Kept assigned after.frame) (fun _ => True) (run machine) :=
  h machine.frame machine (.refl _ _)

theorem AssignsOnly.mono {run : Stepped α} (h : AssignsOnly assigned run)
    (le : ∀ n, assigned n → more n) : AssignsOnly more run := by
  intro start machine kept
  exact (h.ends machine).imp fun _ after => kept.trans (after.mono le)

theorem withLocals_assignsOnly {inside : String → Prop} {declared : List Local} {run : Stepped α}
    (h : AssignsOnly inside run) (le : ∀ n, n ∉ declared.map Local.name → inside n → assigned n) :
    AssignsOnly assigned (withLocals declared run) := by
  rintro start ⟨meter, frame⟩ kept
  have ends := h.ends ⟨meter, frame.enterBlock declared⟩
  dsimp only [withLocals]
  generalize run ⟨meter, frame.enterBlock declared⟩ = result at ends ⊢
  cases ends with
  | ok after => exact .ok (kept.trans (after.leaveBlock le))
  | error after _ => exact .error (kept.trans (after.leaveBlock le)) trivial

namespace Stmt

theorem step_keeps {holds : Frame → Prop} : KeepsFrame holds (fun _ => True) (takeStep limits) :=
  takeStep_keeps trivial

theorem value_keeps {holds : Frame → Prop} (run : Frame → Metered α) :
    KeepsFrame holds (fun _ => True) (inFrame run) := by
  refine inFrame_keeps fun frame _ meter _ => ?_
  cases run frame meter with
  | ok a after => exact .ok trivial
  | error interrupt after => exact .error trivial trivial

mutual

/-- **A statement changes nothing of the frame but the names that it assigns to.** -/
theorem exec_assignsOnly (limits : Limits) (call : Caller) :
    ∀ s : Stmt, AssignsOnly (fun name => s.Assigns name) (s.exec limits call)
  | .expression expr => fun start => by
      unfold exec
      exact step_keeps.bind fun _ _ => (value_keeps _).bind fun _ _ => .pure _
  | .ret none => fun start => by
      unfold exec
      exact step_keeps.bind fun _ _ => .pure _
  | .ret (some expr) => fun start => by
      unfold exec
      exact step_keeps.bind fun _ _ => (value_keeps _).bind fun _ _ => .pure _
  | .conditional condition thenBranch none => fun start => by
      have taken := exec_assignsOnly limits call thenBranch
      unfold exec
      exact step_keeps.bind fun _ _ => (value_keeps _).bind fun holds _ =>
        .ite holds (taken start) (.pure _)
  | .conditional condition thenBranch (some elseBranch) => fun start => by
      let either (name : String) : Prop := thenBranch.Assigns name ∨ elseBranch.Assigns name
      have taken : AssignsOnly either (thenBranch.exec limits call) :=
        (exec_assignsOnly limits call thenBranch).mono fun _ => .inl
      have other : AssignsOnly either (elseBranch.exec limits call) :=
        (exec_assignsOnly limits call elseBranch).mono fun _ => .inr
      unfold exec
      exact step_keeps.bind fun _ _ => (value_keeps _).bind fun holds _ =>
        .ite holds (taken start) (other start)
  | .throw expr => fun start => by
      unfold exec
      exact step_keeps.bind fun _ _ => (value_keeps _).bind fun _ _ => .throw trivial
  | .assign target expr => fun start => by
      unfold exec
      refine step_keeps.bind fun _ _ => (value_keeps _).bind fun value _ =>
        (assign_keeps (fun frame after kept assigned => ?_) fun _ _ _ => trivial).bind
          fun _ _ => .pure _
      refine kept.trans ((Frame.Kept.assign? assigned).mono ?_)
      rintro name rfl
      rfl
  | .loop condition body => fun start => by
      unfold exec
      exact step_keeps.bind fun _ _ =>
        rounds_keep trivial (value_keeps _) (exec_assignsOnly limits call body start)
  | .block ⟨locals, statements⟩ => fun start => by
      unfold exec
      -- what the statements assign to the block's own variables is gone when it is left
      exact step_keeps.bind fun _ _ =>
        withLocals_assignsOnly (execAll_assignsOnly limits call statements)
          (fun _ outside inside => ⟨outside, inside⟩) start
  | .sequencePoint _ statement => fun start => by
      unfold exec
      exact step_keeps.bind fun _ _ => exec_assignsOnly limits call statement start

theorem execAll_assignsOnly (limits : Limits) (call : Caller) : ∀ statements : List Stmt,
    AssignsOnly (fun name => AnyAssigns name statements) (execAll limits call statements)
  | [] => fun _ => .pure _
  | s :: rest => fun start => by
      let either (name : String) : Prop := s.Assigns name ∨ AnyAssigns name rest
      have first : AssignsOnly either (s.exec limits call) :=
        (exec_assignsOnly limits call s).mono fun _ => .inl
      have others : AssignsOnly either (execAll limits call rest) :=
        (execAll_assignsOnly limits call rest).mono fun _ => .inr
      unfold execAll
      refine (first start).bind fun completion _ => ?_
      cases completion with
      | normal => exact others start
      | returned value => exact .pure _

end

end Stmt

theorem Block.exec_assignsOnly (b : Block) :
    AssignsOnly (fun name => b.Assigns name) (b.exec limits call) :=
  withLocals_assignsOnly (Stmt.execAll_assignsOnly limits call b.statements)
    fun _ outside inside => ⟨outside, inside⟩

end

/-! ## Blocks -/

/-- What a block leaves behind. -/
structure Block.Restores (b : Block) (before after : Frame) : Prop where
  /-- The same variables are there, with those that are hidden. -/
  locals : after.locals.map Prod.fst = before.locals.map Prod.fst
  /-- The same parameters are there. -/
  parameters : after.parameters.map Prod.fst = before.parameters.map Prod.fst
  /-- A name that the block declares has the variable that it had before, or none. -/
  declared : ∀ l ∈ b.locals, after.locals.lookup l.name = before.locals.lookup l.name
  /-- A name that the block does not assign to has its value, as a variable and as a parameter. -/
  others : ∀ name, ¬ b.Assigns name →
    after.locals.lookup name = before.locals.lookup name
      ∧ after.parameters.lookup name = before.parameters.lookup name

theorem Frame.Kept.restores {b : Block} {before after : Frame}
    (h : before.Kept (fun name => b.Assigns name) after) : b.Restores before after where
  locals := h.locals.keys
  parameters := h.parameters.keys
  declared _ hl := h.locals.lookup fun ⟨outside, _⟩ => outside (List.mem_map_of_mem hl)
  others _ spared := ⟨h.locals.lookup spared, h.parameters.lookup fun ⟨_, is⟩ => spared is⟩

/-- A block in a block takes a step and is then executed like a body. -/
theorem Stmt.exec_block (limits : Limits) (call : Caller) (b : Block) :
    (Stmt.block b).exec limits call = (do takeStep limits; b.exec limits call) := by
  obtain ⟨locals, statements⟩ := b
  unfold Stmt.exec
  rfl

end ArgumentGuards
