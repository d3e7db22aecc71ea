import ArgumentGuards.Tree.Json
import ArgumentGuards.Tree.Render

/-!
# Generated members of a module

Helpers that lowering generates are members of one private type of their module, each under a name
of its own. A member is written once: who asks for a name that is taken gets the member that is
there.
-/

namespace ArgumentGuards

/-- A generated method with its body. -/
structure Member where
  symbol : Method
  body : Block

namespace Member

/-- The name that a member is kept under. -/
def name (member : Member) : String := member.symbol.name

/-- The text of a member: its signature, then its body. -/
def render (member : Member) : String := member.symbol.render ++ "\n" ++ member.body.render ++ "\n"

/-- Writes a member. -/
def toJson (member : Member) : Json :=
  .object [("symbol", member.symbol.toJson), ("body", member.body.toJson)]

end Member

/-- The members of a module, in the order in which they were added. -/
structure Members where
  entries : List Member

namespace Members

/-- The name of the private type that holds the members. -/
def container : String := "<PrivateImplementationDetails>"

/-- No members. -/
def empty : Members := ⟨[]⟩

/-- The member under a name. -/
def get? (members : Members) (name : String) : Option Member :=
  members.entries.find? (·.name = name)

/-- Whether a name is taken. -/
def contains (members : Members) (name : String) : Bool := (members.get? name).isSome

/-- The number of members. -/
def size (members : Members) : Nat := members.entries.length

/-- One more member, whose name is free. -/
def insert (members : Members) (member : Member) : Members := ⟨members.entries ++ [member]⟩

/-- Adds a member under its name, and tells whether the name was free. -/
def insertIfNew (members : Members) (member : Member) : Bool × Members :=
  if members.contains member.name then (false, members) else (true, members.insert member)

/--
The symbol under a name, and whether a member had to be built for it. To build is an action, and
what is built has the name that it was asked for by.
-/
def getOrBuildM {m : Type → Type} [Monad m] (members : Members) (name : String)
    (build : Unit → m { member : Member // member.name = name }) :
    m ((Method × Bool) × Members) := do
  match members.get? name with
  | some member => return ((member.symbol, false), members)
  | none =>
    let built ← build ()
    return ((built.val.symbol, true), members.insert built.val)

/-- The same for a member that can be built by a function. -/
def getOrBuild (members : Members) (name : String)
    (build : Unit → { member : Member // member.name = name }) : (Method × Bool) × Members :=
  Id.run (members.getOrBuildM name fun asked => pure (build asked))

/-! ## What is under a name -/

/-- A member is under its own name. -/
theorem name_of_get? {members : Members} {name : String} {member : Member}
    (h : members.get? name = some member) : member.name = name := by
  have found := List.find?_some h
  exact of_decide_eq_true found

/-- What is there stays there. -/
theorem get?_insert_of_some {members : Members} {name : String} {old new : Member}
    (h : members.get? name = some old) : (members.insert new).get? name = some old := by
  unfold get? at h
  unfold get? insert
  rw [List.find?_append, h, Option.some_or]

/-- A new member is under its name if that was free, and nowhere else. -/
theorem get?_insert_of_none {members : Members} {name : String} {new : Member}
    (h : members.get? name = none) :
    (members.insert new).get? name = if new.name = name then some new else none := by
  unfold get? at h
  unfold get? insert
  rw [List.find?_append, h, Option.none_or, List.find?_singleton]
  simp only [decide_eq_true_eq]

section

variable {members : Members} {name : String}

/-- Nothing is built for a name that is taken. -/
theorem getOrBuildM_of_some {m : Type → Type} [Monad m] {member : Member}
    (h : members.get? name = some member)
    (build : Unit → m { member : Member // member.name = name }) :
    members.getOrBuildM name build = return ((member.symbol, false), members) := by
  unfold getOrBuildM
  rw [h]

/-- For a name that is free a member is built, and added. -/
theorem getOrBuildM_of_none {m : Type → Type} [Monad m] (h : members.get? name = none)
    (build : Unit → m { member : Member // member.name = name }) :
    members.getOrBuildM name build
      = do let built ← build (); return ((built.val.symbol, true), members.insert built.val) := by
  unfold getOrBuildM
  rw [h]

variable {build : Unit → { member : Member // member.name = name }}

theorem getOrBuild_of_some {member : Member} (h : members.get? name = some member) :
    members.getOrBuild name build = ((member.symbol, false), members) := by
  unfold getOrBuild
  rw [getOrBuildM_of_some h]
  rfl

theorem getOrBuild_of_none (h : members.get? name = none) :
    members.getOrBuild name build
      = (((build ()).val.symbol, true), members.insert (build ()).val) := by
  unfold getOrBuild
  rw [getOrBuildM_of_none h]
  rfl

/-- Who asks for a name finds it taken afterwards, by the symbol that was answered. -/
theorem get?_getOrBuild :
    ((members.getOrBuild name build).2.get? name).map Member.symbol
      = some (members.getOrBuild name build).1.1 := by
  cases h : members.get? name with
  | some member =>
    rw [getOrBuild_of_some h, h]
    rfl
  | none =>
    rw [getOrBuild_of_none h, get?_insert_of_none h, if_pos (build ()).property]
    rfl

end

/-- All members, in the order of their names. -/
def toList (members : Members) : List Member :=
  members.entries.mergeSort fun a b => a.name ≤ b.name

end Members

end ArgumentGuards
