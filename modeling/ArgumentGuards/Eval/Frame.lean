import ArgumentGuards.Eval.Operation

/-!
# Frames

A frame holds the parameters of one call and the variables of the blocks that are open in it. The
variables of an inner block stand in front of those of the blocks around it, so an inner variable
hides an outer one of its name, and leaving a block is dropping as many variables as it declared.
-/

namespace ArgumentGuards

/-- Names with values; the first binding of a name counts. -/
abbrev Bindings := List (String × Value)

namespace Bindings

/-- The bindings with another value for a name, if the name is bound. -/
def assign? (name : String) (value : Value) : Bindings → Option Bindings
  | [] => none
  | (n, v) :: rest =>
    if n = name then some ((n, value) :: rest)
    else (assign? name value rest).map ((n, v) :: ·)

/-- A name has a value if it is bound. -/
theorem lookup_isSome_iff {bindings : Bindings} {name : String} :
    (bindings.lookup name).isSome ↔ name ∈ bindings.map Prod.fst := by
  simp only [List.lookup_isSome_iff, List.mem_map, beq_iff_eq]
  exact exists_congr fun _ => and_congr_right fun _ => eq_comm

/-- A name that is bound can be assigned. -/
theorem exists_assign? {bindings : Bindings} {name : String} (value : Value)
    (h : name ∈ bindings.map Prod.fst) : ∃ after, bindings.assign? name value = some after := by
  induction bindings with
  | nil => cases h
  | cons binding rest ih =>
      unfold assign?
      split
      · exact ⟨_, rfl⟩
      · rename_i differs
        have below : name ∈ rest.map Prod.fst :=
          (List.mem_cons.mp h).resolve_left fun same => differs same.symm
        obtain ⟨after, hafter⟩ := ih below
        exact ⟨_, by rw [hafter]; rfl⟩

/-- An assignment binds no name and unbinds none. -/
theorem keys_assign? {name : String} {value : Value} {bindings after : Bindings}
    (h : bindings.assign? name value = some after) :
    after.map Prod.fst = bindings.map Prod.fst := by
  induction bindings generalizing after with
  | nil => cases h
  | cons binding rest ih =>
    unfold assign? at h
    split at h
    · cases h
      rfl
    · obtain ⟨more, hmore, rfl⟩ := Option.map_eq_some_iff.mp h
      rw [List.map_cons, ih hmore]
      rfl

/-- An assigned name has its new value. -/
theorem lookup_assign?_self {name : String} {value : Value} {bindings after : Bindings}
    (h : bindings.assign? name value = some after) : after.lookup name = some value := by
  induction bindings generalizing after with
  | nil => cases h
  | cons binding rest ih =>
    unfold assign? at h
    split at h
    · rename_i same
      cases h
      rw [same, List.lookup_cons_self]
    · rename_i differs
      obtain ⟨more, hmore, rfl⟩ := Option.map_eq_some_iff.mp h
      rw [List.lookup_cons, beq_eq_false_iff_ne.mpr (Ne.symm differs)]
      exact ih hmore

/-- Every other name keeps its value. -/
theorem lookup_assign?_of_ne {name other : String} {value : Value} {bindings after : Bindings}
    (h : bindings.assign? name value = some after) (differs : other ≠ name) :
    after.lookup other = bindings.lookup other := by
  induction bindings generalizing after with
  | nil => cases h
  | cons binding rest ih =>
    unfold assign? at h
    split at h
    · rename_i same
      cases h
      rw [List.lookup_cons, List.lookup_cons, same, beq_eq_false_iff_ne.mpr differs]
    · obtain ⟨more, hmore, rfl⟩ := Option.map_eq_some_iff.mp h
      rw [List.lookup_cons, List.lookup_cons, ih hmore]

end Bindings

/-- The parameters and variables of one call. -/
structure Frame where
  parameters : Bindings
  locals : Bindings

namespace Frame

/-- The frame of a call: of two parameters of one name the later one counts. -/
def ofArguments (parameters : List Parameter) (args : List Value) : Frame :=
  ⟨((parameters.map Parameter.name).zip args).reverse, []⟩

/-- The frame in a block: of two variables of one name the later one counts. -/
def enterBlock (frame : Frame) (declared : List Local) : Frame :=
  { frame with
    locals := (declared.map fun l => (l.name, Value.initial l.type)).reverse ++ frame.locals }

/-- The frame after a block. -/
def leaveBlock (frame : Frame) (declared : List Local) : Frame :=
  { frame with locals := frame.locals.drop declared.length }

/-- The frame with another value for a name: a variable hides a parameter. -/
def assign? (frame : Frame) (name : String) (value : Value) : Option Frame :=
  match frame.locals.assign? name value with
  | some locals => some { frame with locals }
  | none => (frame.parameters.assign? name value).map fun parameters => { frame with parameters }

/-- A block that is entered and left again leaves no trace. -/
theorem leaveBlock_enterBlock (frame : Frame) (declared : List Local) :
    (frame.enterBlock declared).leaveBlock declared = frame := by
  unfold enterBlock leaveBlock
  have length :
      declared.length
        = (declared.map fun l => (l.name, Value.initial l.type)).reverse.length := by
    rw [List.length_reverse, List.length_map]
  rw [length, List.drop_left]

end Frame

end ArgumentGuards
