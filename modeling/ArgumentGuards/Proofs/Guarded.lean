import ArgumentGuards.Lowering.Module
import Mathlib.Data.List.TakeWhile

/-!
# What lowering makes of its functions, exactly

Lowering threads a growing table of members through two nested lists and stops at the first
parameter that can never be absent. Everything it does can be said without the threading, from two
lists: the **checked** parameters of the functions, in the order of their declaration, and the part
of that list that is **guarded**, which is all of it up to the first plain value type.

* A plain value type among the checked parameters is the error, and the first one is the one
  reported. Without one, every function becomes its `SourceFunction.guarded` form.
* Every guard calls the same helper, `Members.helper`: the symbol that the table has under the
  helper's name, or the standard one. Asking for it never changes which symbol that is
  (`helper_withHelper`), and this is why the order of the requests does not matter.
* The table gains the standard helper if some parameter is guarded and the name is free, also in a
  run that fails later. It gains nothing else and loses nothing.

Guards are written out here by the constructors of trees, so nothing below depends on how lowering
puts them together.
-/

namespace ArgumentGuards

/-! ## The helper that the guards call -/

/-- The helper that throws: the one that the table has, or the one that it would get. -/
def Members.helper (members : Members) : Method :=
  match members.get? throwHelperName with
  | some member => member.symbol
  | none => throwHelper.symbol

/-- The table after a request for the helper. -/
def Members.withHelper (members : Members) : Members :=
  match members.get? throwHelperName with
  | some _ => members
  | none => members.insert throwHelper

/-- The table after guards for some parameters: without a guard the helper is not asked for. -/
def Members.afterGuards (members : Members) (guarded : List Parameter) : Members :=
  if guarded.isEmpty then members else members.withHelper

theorem getThrowHelper_run (members : Members) :
    getThrowHelper.run members = .ok members.helper members.withHelper := by
  have answer : getThrowHelper.run members
      = .ok (members.getOrBuild throwHelperName fun _ => ⟨throwHelper, rfl⟩).1.1
          (members.getOrBuild throwHelperName fun _ => ⟨throwHelper, rfl⟩).2 := rfl
  rw [answer, Members.helper, Members.withHelper]
  cases taken : members.get? throwHelperName with
  | some member => rw [Members.getOrBuild_of_some taken]
  | none => rw [Members.getOrBuild_of_none taken]

theorem Members.get?_withHelper (members : Members) :
    members.withHelper.get? throwHelperName
      = some ((members.get? throwHelperName).getD throwHelper) := by
  unfold Members.withHelper
  cases h : members.get? throwHelperName with
  | some member => rw [h]; rfl
  | none => rw [Members.get?_insert_of_none h]; rfl

/-- **The symbol that guards call is settled before the first request.** -/
theorem Members.helper_withHelper (members : Members) :
    members.withHelper.helper = members.helper := by
  rw [Members.helper, Members.get?_withHelper, Members.helper]
  cases members.get? throwHelperName with
  | some member => rfl
  | none => rfl

theorem Members.withHelper_withHelper (members : Members) :
    members.withHelper.withHelper = members.withHelper := by
  rw [Members.withHelper.eq_1 members.withHelper, Members.get?_withHelper]

theorem Members.helper_afterGuards (members : Members) (guarded : List Parameter) :
    (members.afterGuards guarded).helper = members.helper := by
  unfold Members.afterGuards
  split
  · rfl
  · exact members.helper_withHelper

theorem Members.afterGuards_append (members : Members) (first more : List Parameter) :
    (members.afterGuards first).afterGuards more = members.afterGuards (first ++ more) := by
  unfold Members.afterGuards
  cases first with
  | nil => rfl
  | cons p rest =>
      cases more with
      | nil => simp
      | cons q others => simp [members.withHelper_withHelper]

/-! ## One guard -/

/-- Whether arguments for the parameter can never be absent. -/
def Parameter.isPlain (p : Parameter) : Bool := p.type.kind = .plainValue

/-- The test of a parameter by the kind of its type: a nullable value is asked whether it holds one,
a reference is compared with null. -/
def Parameter.test (p : Parameter) : Expr :=
  match p.type.kind with
  | .nullableValue => .unary .not (.hasValue (.parameter p.name p.type))
  | _ => .binary .equal (.parameter p.name p.type) (.literal .null)

/-- The guard of a parameter: one hidden statement without an else branch, which calls the helper
with the parameter's name and returns. -/
def Parameter.guardWith (helper : Method) (p : Parameter) : Stmt :=
  .sequencePoint none
    (.conditional p.test
      (.block ⟨[], [.expression (.call helper [.literal (.text p.name)]), .ret none]⟩)
      none)

/-- The error for a parameter that can never be absent. -/
def Parameter.unguardable (p : Parameter) : LoweringError := .neverAbsent p.name p.type.name

theorem Parameter.admitsNull_eq (p : Parameter) : p.type.admitsNull = !p.isPlain := by
  unfold Ty.admitsNull Ty.isValueType Ty.isNullable Parameter.isPlain
  cases p.type.kind <;> rfl

theorem absenceTest_of_plain {p : Parameter} (h : p.isPlain = true) :
    absenceTest p = .error p.unguardable := by
  rw [absenceTest, Parameter.admitsNull_eq, h]
  rfl

theorem absenceTest_of_not_plain {p : Parameter} (h : p.isPlain = false) :
    absenceTest p = .ok p.test := by
  rw [absenceTest, Parameter.admitsNull_eq, h, Parameter.test, Ty.isNullable]
  unfold Parameter.isPlain at h
  cases hk : p.type.kind with
  | reference => rfl
  | nullableValue => rfl
  | plainValue => rw [hk] at h; cases h

theorem guard_run_of_plain {p : Parameter} (h : p.isPlain = true) (members : Members) :
    (guard p).run members = .error p.unguardable members := by
  rw [guard, absenceTest_of_plain h]
  rfl

theorem guard_run_of_not_plain {p : Parameter} (h : p.isPlain = false) (members : Members) :
    (guard p).run members = .ok (p.guardWith members.helper) members.withHelper := by
  rw [guard, absenceTest_of_not_plain h]
  show (getThrowHelper >>= fun helper => pure (guardOf p.test helper p)).run members = _
  rw [EStateM.run_bind, getThrowHelper_run]
  rfl

/-! ## Runs that check parameters in order -/

/-- The parameters in front of the first plain one: those that get a guard. -/
def guardedPart (checked : List Parameter) : List Parameter :=
  checked.takeWhile fun p => !p.isPlain

/-- What a list of parameters to check comes to: the first plain one is an error. -/
def verdict {α : Type} (checked : List Parameter) (value : α) : Except LoweringError α :=
  match checked.find? Parameter.isPlain with
  | none => .ok value
  | some p => .error p.unguardable

/-- The end of a run with a table. -/
def endedWith {α : Type} (outcome : Except LoweringError α) (members : Members) :
    EStateM.Result LoweringError Members α :=
  match outcome with
  | .ok value => .ok value members
  | .error error => .error error members

/-- A run that checks some parameters in order, has a value if none of them is plain, and leaves the
table with the helper if it made a guard. -/
def Checks {α : Type} (run : Lowering α) (members : Members) (checked : List Parameter)
    (value : α) : Prop :=
  run.run members = endedWith (verdict checked value) (members.afterGuards (guardedPart checked))

theorem guardedPart_of_forall {checked : List Parameter}
    (h : ∀ p ∈ checked, p.isPlain = false) : guardedPart checked = checked :=
  List.takeWhile_eq_self_iff.mpr fun p hp => by rw [h p hp]; rfl

theorem guardedPart_append {checked : List Parameter} (h : ∀ p ∈ checked, p.isPlain = false)
    (more : List Parameter) : guardedPart (checked ++ more) = checked ++ guardedPart more :=
  List.takeWhile_append_of_pos fun p hp => by rw [h p hp]; rfl

theorem guardedPart_append_plain {before : List Parameter} {p : Parameter}
    (h : ∀ q ∈ before, q.isPlain = false) (hp : p.isPlain = true) (rest : List Parameter) :
    guardedPart (before ++ p :: rest) = before := by
  unfold guardedPart
  rw [List.takeWhile_append_of_pos fun q hq => by rw [h q hq]; rfl,
    List.takeWhile_cons_of_neg (by rw [hp]; exact Bool.false_ne_true), List.append_nil]

theorem verdict_of_forall {α : Type} {checked : List Parameter}
    (h : ∀ p ∈ checked, p.isPlain = false) (value : α) : verdict checked value = .ok value := by
  have none : checked.find? Parameter.isPlain = none :=
    List.find?_eq_none.mpr fun p hp => by rw [h p hp]; exact Bool.false_ne_true
  rw [verdict, none]

theorem verdict_append_plain {α : Type} {before : List Parameter} {p : Parameter}
    (h : ∀ q ∈ before, q.isPlain = false) (hp : p.isPlain = true) (rest : List Parameter)
    (value : α) : verdict (before ++ p :: rest) value = .error p.unguardable := by
  have found : (before ++ p :: rest).find? Parameter.isPlain = some p :=
    List.find?_eq_some_iff_append.mpr ⟨hp, before, rest, rfl, fun q hq => by rw [h q hq]; rfl⟩
  rw [verdict, found]

theorem verdict_eq_ok {α : Type} {checked : List Parameter} {value a : α}
    (h : verdict checked value = .ok a) : a = value ∧ ∀ p ∈ checked, p.isPlain = false := by
  unfold verdict at h
  cases hf : checked.find? Parameter.isPlain with
  | none =>
      rw [hf] at h
      injection h with h
      exact ⟨h.symm, fun p hp => Bool.eq_false_iff.mpr (List.find?_eq_none.mp hf p hp)⟩
  | some p => rw [hf] at h; cases h

/-- Of two lists the first one's plain parameter is the error, if it has one. -/
theorem verdict_append {α β γ : Type} (combine : α → β → γ) (ps qs : List Parameter) (a : α)
    (b : β) : verdict (ps ++ qs) (combine a b)
      = do let x ← verdict ps a; let y ← verdict qs b; return combine x y := by
  unfold verdict
  rw [List.find?_append]
  cases ps.find? Parameter.isPlain with
  | some p => rfl
  | none => cases qs.find? Parameter.isPlain <;> rfl

theorem all_or_first_plain (checked : List Parameter) :
    (∀ p ∈ checked, p.isPlain = false)
      ∨ ∃ before p rest, checked = before ++ p :: rest ∧ p.isPlain = true
          ∧ ∀ q ∈ before, q.isPlain = false := by
  cases h : checked.find? Parameter.isPlain with
  | none =>
      left
      intro p hp
      exact Bool.eq_false_iff.mpr (List.find?_eq_none.mp h p hp)
  | some p =>
      right
      obtain ⟨hp, before, rest, split, clean⟩ := List.find?_eq_some_iff_append.mp h
      refine ⟨before, p, rest, split, hp, fun q hq => ?_⟩
      have := clean q hq
      rwa [Bool.not_eq_true'] at this

/--
**Two runs in a row check the parameters of the first and then those of the second.** The second one
starts with whatever table the first one leaves, and finds the same helper in it.
-/
theorem Checks.seq {α β γ : Type} {first : Lowering α} {more : Lowering β} {members : Members}
    {ps qs : List Parameter} {a : α} {b : β} (combine : α → β → γ)
    (hfirst : Checks first members ps a)
    (hmore : ∀ guarded, Checks more (members.afterGuards guarded) qs b) :
    Checks (do let x ← first; let y ← more; return combine x y) members (ps ++ qs)
      (combine a b) := by
  unfold Checks at *
  rw [EStateM.run_bind, hfirst, verdict_append combine]
  rcases all_or_first_plain ps with clean | ⟨before, p, rest, split, hp, clean⟩
  · rw [verdict_of_forall clean, guardedPart_of_forall clean, guardedPart_append clean]
    show (more >>= fun y => pure (combine a y)).run (members.afterGuards ps)
      = endedWith (verdict qs b >>= fun y => pure (combine a y)) _
    rw [EStateM.run_bind, hmore, Members.afterGuards_append]
    cases verdict qs b <;> rfl
  · -- the second run does not begin
    rw [split, List.append_assoc, List.cons_append, verdict_append_plain clean hp,
      guardedPart_append_plain clean hp, guardedPart_append_plain clean hp]
    rfl

/-! ## Guards, bodies and functions -/

theorem guard_checks (p : Parameter) (members : Members) :
    Checks (guard p) members [p] (p.guardWith members.helper) := by
  unfold Checks
  cases h : p.isPlain with
  | true =>
      have clean : ∀ q ∈ ([] : List Parameter), q.isPlain = false := fun q hq => by cases hq
      rw [guard_run_of_plain h, ← List.nil_append [p], verdict_append_plain clean h,
        guardedPart_append_plain clean h]
      rfl
  | false =>
      have clean : ∀ q ∈ [p], q.isPlain = false := fun q hq => by
        rw [List.mem_singleton.mp hq]; exact h
      rw [guard_run_of_not_plain h, verdict_of_forall clean, guardedPart_of_forall clean]
      rfl

theorem guards_checks (ps : List Parameter) (members : Members) :
    Checks (guards ps) members ps (ps.map (Parameter.guardWith members.helper)) := by
  induction ps generalizing members with
  | nil => rfl
  | cons p rest ih =>
      refine Checks.seq List.cons (guard_checks p members) fun guarded => ?_
      have := ih (members.afterGuards guarded)
      rwa [members.helper_afterGuards] at this

theorem guardStatements_of_none {ps : List Parameter}
    (h : ps.filter Parameter.nullChecked = []) (statements : List Stmt) (members : Members) :
    (guardStatements ps statements).run members = .ok none members := by
  rw [guardStatements, h]
  rfl

theorem guardStatements_checks {ps : List Parameter}
    (h : ps.filter Parameter.nullChecked ≠ []) (statements : List Stmt) (members : Members) :
    Checks (guardStatements ps statements) members (ps.filter Parameter.nullChecked)
      (some ((ps.filter Parameter.nullChecked).map (Parameter.guardWith members.helper)
        ++ statements)) := by
  unfold guardStatements
  cases hc : ps.filter Parameter.nullChecked with
  | nil => exact absurd hc h
  | cons p rest =>
      have made := guards_checks (p :: rest) members
      unfold Checks at *
      dsimp only
      rw [EStateM.run_bind, made]
      unfold verdict
      cases (p :: rest).find? Parameter.isPlain <;> rfl

/-- The parameters of a function that are checked for null, in order. -/
def SourceFunction.checked (f : SourceFunction) : List Parameter :=
  f.parameters.filter Parameter.nullChecked

/-- The function with one guard for each checked parameter in front of its statements. -/
def SourceFunction.guarded (helper : Method) (f : SourceFunction) : LoweredFunction where
  name := f.name
  parameters := f.parameters
  returnType := f.returnType
  body := ⟨f.body.locals, f.checked.map (Parameter.guardWith helper) ++ f.body.statements⟩
  guards := f.checked.length

theorem lower_checks (f : SourceFunction) (members : Members) :
    Checks f.lower members f.checked (f.guarded members.helper) := by
  by_cases h : f.parameters.filter Parameter.nullChecked = []
  · obtain ⟨name, parameters, returnType, ⟨locals, statements⟩⟩ := f
    unfold Checks SourceFunction.guarded SourceFunction.checked
    rw [SourceFunction.lower, guardBlock, EStateM.run_bind, EStateM.run_bind,
      guardStatements_of_none h, h]
    rfl
  · have made := guardStatements_checks h f.body.statements members
    unfold Checks SourceFunction.guarded SourceFunction.checked at *
    rw [SourceFunction.lower, guardBlock, EStateM.run_bind, EStateM.run_bind, made]
    unfold verdict
    cases (f.parameters.filter Parameter.nullChecked).find? Parameter.isPlain with
    | none =>
        -- the count of guards is a difference of two lengths
        simp [endedWith, pure, EStateM.pure, EStateM.run]
    | some p => rfl

/-- The checked parameters of some functions, in the order of their declaration. -/
def checkedOf (fs : List SourceFunction) : List Parameter := fs.flatMap SourceFunction.checked

theorem lowerAll_checks (fs : List SourceFunction) (members : Members) :
    Checks (lowerAll fs) members (checkedOf fs)
      (fs.map (SourceFunction.guarded members.helper)) := by
  induction fs generalizing members with
  | nil => rfl
  | cons f rest ih =>
      refine Checks.seq List.cons (lower_checks f members) fun guarded => ?_
      have := ih (members.afterGuards guarded)
      rwa [members.helper_afterGuards] at this

/-- The driver's run over functions that is not cancelled. -/
theorem compiled_lower (module : CompiledModule) {options : LoweringOptions}
    (uncancelled : options.cancelled = false) (fs : List SourceFunction) :
    module.lower options fs
      = (verdict (checkedOf fs) (fs.map (SourceFunction.guarded module.members.helper)),
          { module with members := module.members.afterGuards (guardedPart (checkedOf fs)) }) := by
  have run := lowerAll_checks fs module.members
  unfold Checks at run
  unfold CompiledModule.lower lowerIn
  rw [uncancelled, Bool.false_and, if_neg Bool.false_ne_true, run]
  cases verdict (checkedOf fs) (fs.map (SourceFunction.guarded module.members.helper)) <;> rfl

/-! ## The main statements -/

theorem Members.entries_afterGuards (members : Members) (guarded : List Parameter) :
    (members.afterGuards guarded).entries
      = if guarded ≠ [] ∧ members.get? throwHelperName = none then members.entries ++ [throwHelper]
        else members.entries := by
  unfold Members.afterGuards Members.withHelper
  cases guarded with
  | nil => rfl
  | cons p rest =>
      cases members.get? throwHelperName with
      | some member => simp
      | none => simp [Members.insert]

theorem guardStatements_none_iff (ps : List Parameter) (statements : List Stmt)
    (members : Members) :
    (∃ after, (guardStatements ps statements).run members = .ok none after)
      ↔ ∀ p ∈ ps, p.nullChecked = false := by
  have empty : ps.filter Parameter.nullChecked = [] ↔ ∀ p ∈ ps, p.nullChecked = false := by
    simp [List.filter_eq_nil_iff]
  rw [← empty]
  constructor
  · rintro ⟨after, run⟩
    by_contra h
    have made := guardStatements_checks h statements members
    unfold Checks verdict at made
    rw [run] at made
    cases hf : (ps.filter Parameter.nullChecked).find? Parameter.isPlain with
    | none => rw [hf] at made; cases made
    | some p => rw [hf] at made; cases made
  · intro h
    exact ⟨members, guardStatements_of_none h statements members⟩

/--
**Lowering functions one after the other, exactly.**

If no checked parameter is of a plain value type, every function becomes its `guarded` form, whose
guards call the helper that the table had or would get. Otherwise the first such parameter is the
error. Either way the table has gained the standard helper if a guard was made and the name was
free, and nothing else. A body is left alone exactly if no parameter of its function is checked.
-/
theorem lowerAll_exact (members : Members) (fs : List SourceFunction) :
    (lowerAll fs).run members
        = (match (checkedOf fs).find? fun p => p.type.kind = .plainValue with
          | none =>
              .ok (fs.map (SourceFunction.guarded members.helper))
                (members.afterGuards (checkedOf fs))
          | some p =>
              .error (.neverAbsent p.name p.type.name)
                (members.afterGuards
                  ((checkedOf fs).takeWhile fun p => p.type.kind ≠ .plainValue)))
      ∧ (∀ guarded, (members.afterGuards guarded).entries
          = if guarded ≠ [] ∧ members.get? throwHelperName = none then
              members.entries ++ [throwHelper]
            else members.entries)
      ∧ ∀ (parameters : List Parameter) (statements : List Stmt) (before : Members),
          (∃ after, (guardStatements parameters statements).run before = .ok none after)
            ↔ ∀ p ∈ parameters, p.nullChecked = false := by
  refine ⟨?_, members.entries_afterGuards, guardStatements_none_iff⟩
  have run := lowerAll_checks fs members
  have part : guardedPart (checkedOf fs)
      = (checkedOf fs).takeWhile fun p => p.type.kind ≠ .plainValue := by
    unfold guardedPart Parameter.isPlain
    simp only [ne_eq, decide_not]
  unfold Checks verdict at run
  rw [run, ← part]
  show endedWith (match (checkedOf fs).find? Parameter.isPlain with
    | none => _
    | some p => _) _ = (match (checkedOf fs).find? Parameter.isPlain with
    | none => _
    | some p => _)
  cases h : (checkedOf fs).find? Parameter.isPlain with
  | none =>
      have clean : ∀ p ∈ checkedOf fs, p.isPlain = false := fun p hp =>
        Bool.eq_false_iff.mpr (List.find?_eq_none.mp h p hp)
      rw [guardedPart_of_forall clean]
      rfl
  | some p => rfl

end ArgumentGuards
