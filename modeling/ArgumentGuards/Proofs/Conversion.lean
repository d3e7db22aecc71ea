import ArgumentGuards.Eval.Argument
import Mathlib

/-!
# Arguments and the JSON values they come from

A JSON value that converts to an argument is not lost: the argument shows it again, is absent
exactly for null, and is in a nullable wrapper exactly if its type is one (`Value.Keeps`). So no two
JSON values convert to the same argument of a type. Which values convert is a matter of three
things: null must be admitted by the kind of the type, a number must be an integer in the range of
the type, and everything with parts is refused (`Json.Admitted`).

Nothing else about the type is looked at. A truth value or a text is taken for every type, and a
number for every type that is not `uint` is an integer. So an argument need not be of the type that
it was converted to: for the types that the evaluator has values of, it is exactly if the JSON value
is of the form that the type is written in (`converted_owned_iff`).
-/

namespace ArgumentGuards

/-! ## Names of types -/

namespace Ty

/-- The name that numbers are taken by and that an error shows: under a nullable wrapper's question
marks, and any other type's own. -/
def takenBy (type : Ty) : String :=
  if type.kind = .nullableValue then Value.underlyingName type.name else type.name

/-- Whether a type is `uint`, or a nullable wrapper of it with any number of question marks. -/
def IsUint (type : Ty) : Prop :=
  if type.kind = .nullableValue then
    ∃ marks, type.name = "uint" ++ String.ofList (List.replicate marks '?')
  else type.name = "uint"

end Ty

namespace Value

theorem toList_underlyingName (name : String) :
    (underlyingName name).toList = name.toList.rdropWhile (· = '?') :=
  String.toList_ofList

/-- All that is dropped from a name is question marks. -/
theorem exists_underlyingName (name : String) :
    ∃ marks, name = underlyingName name ++ String.ofList (List.replicate marks '?') := by
  have dropped : name.toList.rtakeWhile (· = '?')
      = List.replicate (name.toList.rtakeWhile (· = '?')).length '?' :=
    List.eq_replicate_of_mem fun c there => by simpa using List.mem_rtakeWhile_imp there
  refine ⟨(name.toList.rtakeWhile (· = '?')).length, String.toList_inj.mp ?_⟩
  rw [String.toList_append, String.toList_ofList, toList_underlyingName, ← dropped,
    List.rdropWhile_append_rtakeWhile]

/-- All question marks at the end of a name are dropped. -/
theorem underlyingName_append (name : String) (marks : Nat) :
    underlyingName (name ++ String.ofList (List.replicate marks '?')) = underlyingName name := by
  refine String.toList_inj.mp ?_
  rw [toList_underlyingName, toList_underlyingName, String.toList_append, String.toList_ofList]
  induction marks with
  | zero => rw [List.replicate_zero, List.append_nil]
  | succ marks ih =>
      rw [List.replicate_succ', ← List.append_assoc, List.rdropWhile_concat_pos _ _ _ (by rfl), ih]

end Value

theorem Ty.takenBy_eq_uint_iff (type : Ty) : type.takenBy = "uint" ↔ type.IsUint := by
  unfold takenBy IsUint
  split
  · constructor
    · intro isUint
      obtain ⟨marks, name⟩ := Value.exists_underlyingName type.name
      exact ⟨marks, isUint ▸ name⟩
    · rintro ⟨marks, name⟩
      rw [name, Value.underlyingName_append]
      rfl
  · exact Iff.rfl

/-! ## Scalars -/

/-- A JSON value without parts, and the value that shows it under the name of a type: the name tells
natural numbers from integers and nothing else. -/
inductive Value.Scalar (name : String) : Json → Value → Prop where
  | bool (b : Bool) : Scalar name (.bool b) (.bool b)
  | text (s : String) : Scalar name (.string s) (.text s)
  | int (n : Int64) : name ≠ "uint" → Scalar name (.int n.toInt) (.int n)
  | uint (n : UInt32) : name = "uint" → Scalar name (.nat n.toNat) (.uint n)

namespace Value

variable {json other : Json} {value : Value} {name : String}

theorem Scalar.toJson (h : Scalar name json value) : value.toJson = json := by
  cases h <;> rfl

theorem Scalar.isNull (h : Scalar name json value) : value.isNull = false := by
  cases h <;> rfl

theorem Scalar.ne_null (h : Scalar name json value) : json ≠ .null := by
  cases h <;> exact Json.noConfusion

theorem Scalar.ne_nullable (h : Scalar name json value) (held : Option Value) :
    value ≠ .nullable held := by
  cases h <;> exact Value.noConfusion

/-- The integers that are taken by a name. -/
def InRange (name : String) (n : Int) : Prop :=
  (name = "uint" ∧ 0 ≤ n ∧ n < 2 ^ 32) ∨ (name ≠ "uint" ∧ -2 ^ 63 ≤ n ∧ n < 2 ^ 63)

theorem ofNumber_of_inRange {n : Int} (h : InRange name n) :
    ∃ value, ofNumber name (.integer n) = some value ∧ Scalar name (.int n) value := by
  rcases h with ⟨isUint, least, most⟩ | ⟨isOther, least, most⟩
  · have toNat : (UInt32.ofNat n.toNat).toNat = n.toNat := by
      rw [UInt32.toNat_ofNat', Nat.mod_eq_of_lt (by omega)]
    have shown := Scalar.uint (UInt32.ofNat n.toNat) isUint
    rw [Json.nat, toNat, Int.toNat_of_nonneg least] at shown
    refine ⟨_, ?_, shown⟩
    rw [ofNumber, if_pos isUint, if_pos ⟨least, most⟩]
  · have toInt : (Int64.ofInt n).toInt = n := Int64.toInt_ofInt_of_le least most
    have shown := Scalar.int (Int64.ofInt n) isOther
    rw [toInt] at shown
    refine ⟨_, ?_, shown⟩
    rw [ofNumber, if_neg isOther, if_pos ⟨least, most⟩]

theorem ofNumber_of_not_inRange {n : Int} (h : ¬ InRange name n) :
    ofNumber name (.integer n) = none := by
  rw [ofNumber]
  split
  · rename_i isUint
    exact if_neg fun within => h (.inl ⟨isUint, within⟩)
  · rename_i isOther
    exact if_neg fun within => h (.inr ⟨isOther, within⟩)

/-- The JSON values that are taken by a name, null apart. -/
def TakenBy (name : String) : Json → Prop
  | .bool _ => True
  | .string _ => True
  | .number (.integer n) => InRange name n
  | _ => False

/-- **A scalar converts to the value that shows it, if it is taken.** -/
theorem ofScalar_of_takenBy (h : TakenBy name json) :
    ∃ value, ofScalar name json = .ok value ∧ Scalar name json value := by
  match json, h with
  | .bool b, _ => exact ⟨_, rfl, .bool b⟩
  | .string s, _ => exact ⟨_, rfl, .text s⟩
  | .number (.integer n), inRange =>
      obtain ⟨value, number, scalar⟩ := ofNumber_of_inRange inRange
      refine ⟨value, ?_, scalar⟩
      rw [ofScalar, number]

theorem ofScalar_of_not_takenBy (h : ¬ TakenBy name json) :
    ofScalar name json = .error (.invalidArgument json name) := by
  match json, h with
  | .null, _ => rfl
  | .bool b, refused => exact absurd trivial refused
  | .string s, refused => exact absurd trivial refused
  | .number (.integer n), outside =>
      rw [ofScalar, ofNumber_of_not_inRange outside]
  | .number (.real x), _ => rfl
  | .array items, _ => rfl
  | .object members, _ => rfl

end Value

/-! ## Arguments -/

/-- The JSON values that are arguments of a type. -/
def Json.Admitted (type : Ty) : Json → Prop
  | .null => type.kind ≠ .plainValue
  | .bool _ => True
  | .string _ => True
  | .number (.integer n) =>
    (type.IsUint ∧ 0 ≤ n ∧ n < 2 ^ 32) ∨ (¬ type.IsUint ∧ -2 ^ 63 ≤ n ∧ n < 2 ^ 63)
  | .number (.real _) => False
  | .array _ => False
  | .object _ => False

/-- An argument of a type that keeps the JSON value it comes from. -/
structure Value.Keeps (value : Value) (json : Json) (type : Ty) : Prop where
  toJson : value.toJson = json
  /-- An argument is absent for null only. -/
  isNull : value.isNull = true ↔ json = .null
  /-- It is in a nullable wrapper for such a type only. -/
  wrapped : (∃ held, value = .nullable held) ↔ type.kind = .nullableValue
  /-- There is one layer, and what it holds is no wrapper again. -/
  layer : ∀ held, value = .nullable held →
    (json = .null ∧ held = none) ∨ ∃ inner, held = some inner ∧ Value.Scalar type.takenBy json inner

namespace Value

variable {json other : Json} {type : Ty} {value : Value}

/-- The layers that an argument of a type has around what it holds. -/
def inLayers (type : Ty) (value : Value) : Value :=
  if type.kind = .nullableValue then .nullable (some value) else value

theorem admitted_iff_takenBy (there : json ≠ .null) :
    json.Admitted type ↔ TakenBy type.takenBy json := by
  match json, there with
  | .null, isNull => exact absurd rfl isNull
  | .bool _, _ => exact Iff.rfl
  | .string _, _ => exact Iff.rfl
  | .number (.integer n), _ =>
      rw [Json.Admitted, TakenBy, InRange, Ne, type.takenBy_eq_uint_iff]
  | .number (.real _), _ => exact Iff.rfl
  | .array _, _ => exact Iff.rfl
  | .object _, _ => exact Iff.rfl

theorem ofJson_of_wrapper (there : json ≠ .null) (wrapper : type.kind = .nullableValue) :
    ofJson json type = (ofScalar (underlyingName type.name) json).map (nullable ∘ some) := by
  unfold ofJson
  rw [wrapper]
  cases json with
  | null => exact absurd rfl there
  | _ =>
      dsimp only
      split
      · rename_i converted
        rw [converted]
        rfl
      · rename_i refused
        rw [refused]
        rfl

theorem ofJson_of_bare (there : json ≠ .null) (bare : type.kind ≠ .nullableValue) :
    ofJson json type = ofScalar type.name json := by
  unfold ofJson
  cases h : type.kind with
  | nullableValue => exact absurd h bare
  | reference =>
      cases json with
      | null => exact absurd rfl there
      | _ => rfl
  | plainValue =>
      cases json with
      | null => exact absurd rfl there
      | _ => rfl

/-- Anything but null is converted by the name of its type and put into the layers of it. -/
theorem ofJson_of_ne_null (there : json ≠ .null) :
    ofJson json type = (ofScalar type.takenBy json).map (inLayers type) := by
  unfold Ty.takenBy
  by_cases wrapper : type.kind = .nullableValue
  · have layers : inLayers type = nullable ∘ some := funext fun _ => if_pos wrapper
    rw [ofJson_of_wrapper there wrapper, if_pos wrapper, layers]
  · have layers : inLayers type = id := funext fun _ => if_neg wrapper
    rw [ofJson_of_bare there wrapper, if_neg wrapper, layers]
    cases ofScalar type.name json <;> rfl

theorem Scalar.keeps (h : Scalar type.takenBy json value) :
    (inLayers type value).Keeps json type := by
  unfold inLayers
  split
  · rename_i nullable
    refine ⟨h.toJson, ⟨Bool.noConfusion, fun isNull => absurd isNull h.ne_null⟩,
      ⟨fun _ => nullable, fun _ => ⟨_, rfl⟩⟩, fun held same => .inr ⟨value, ?_, h⟩⟩
    exact (Value.nullable.inj same).symm
  · rename_i bare
    refine ⟨h.toJson, ⟨fun absent => ?_, fun isNull => absurd isNull h.ne_null⟩,
      ⟨fun ⟨held, same⟩ => absurd same (h.ne_nullable held), fun nullable => absurd nullable bare⟩,
      fun held same => absurd same (h.ne_nullable held)⟩
    exact absurd (h.isNull.symm.trans absent) Bool.noConfusion

theorem scalar_of_ofJson (there : json ≠ .null) (h : ofJson json type = .ok value) :
    ∃ inner, value = inLayers type inner ∧ Scalar type.takenBy json inner := by
  rw [ofJson_of_ne_null there] at h
  by_cases taken : TakenBy type.takenBy json
  · obtain ⟨inner, converted, scalar⟩ := ofScalar_of_takenBy taken
    rw [converted] at h
    exact ⟨inner, (Except.ok.inj h).symm, scalar⟩
  · rw [ofScalar_of_not_takenBy taken] at h
    cases h

/-- **What converts is kept.** -/
theorem keeps_of_ofJson (h : ofJson json type = .ok value) : value.Keeps json type := by
  by_cases there : json = .null
  · subst there
    obtain ⟨name, kind⟩ := type
    cases kind with
    | nullableValue =>
        cases h
        exact ⟨rfl, ⟨fun _ => rfl, fun _ => rfl⟩, ⟨fun _ => rfl, fun _ => ⟨_, rfl⟩⟩,
          fun held same => .inl ⟨rfl, (Value.nullable.inj same).symm⟩⟩
    | reference =>
        cases h
        exact ⟨rfl, ⟨fun _ => rfl, fun _ => rfl⟩,
          ⟨fun ⟨_, same⟩ => Value.noConfusion same, TypeKind.noConfusion⟩,
          fun _ same => Value.noConfusion same⟩
    | plainValue => cases h
  · obtain ⟨inner, rfl, scalar⟩ := scalar_of_ofJson there h
    exact scalar.keeps

/-- **What is admitted converts.** -/
theorem ofJson_of_admitted (h : json.Admitted type) : ∃ value, ofJson json type = .ok value := by
  by_cases there : json = .null
  · subst there
    obtain ⟨name, kind⟩ := type
    cases kind with
    | nullableValue => exact ⟨_, rfl⟩
    | reference => exact ⟨_, rfl⟩
    | plainValue => exact absurd rfl h
  · obtain ⟨inner, converted, -⟩ := ofScalar_of_takenBy ((admitted_iff_takenBy there).mp h)
    exact ⟨inLayers type inner, by rw [ofJson_of_ne_null there, converted]; rfl⟩

theorem ofJson_of_not_admitted (h : ¬ json.Admitted type) :
    ofJson json type = .error (.invalidArgument json type.takenBy) := by
  by_cases there : json = .null
  · subst there
    obtain ⟨name, kind⟩ := type
    have plain : kind = .plainValue := by_contra h
    subst plain
    rfl
  · rw [ofJson_of_ne_null there,
      ofScalar_of_not_takenBy fun taken => h ((admitted_iff_takenBy there).mpr taken)]
    rfl

/--
**JSON arguments convert without loss.**

A JSON value converts to an argument of a type exactly if it is admitted: null unless the type is
plain, a truth value or a text always, and an integer in the range of the type. Everything else is
an invalid argument. What is converted keeps the JSON value, and no other JSON value converts to the
same argument.
-/
theorem ofJson_lossless (json : Json) (type : Ty) :
    (json.Admitted type → ∃ value, ofJson json type = .ok value)
      ∧ (¬ json.Admitted type → ofJson json type = .error (.invalidArgument json type.takenBy))
      ∧ (∀ value, ofJson json type = .ok value → value.Keeps json type)
      ∧ ∀ other value, ofJson json type = .ok value → ofJson other type = .ok value →
          other = json := by
  refine ⟨ofJson_of_admitted, ofJson_of_not_admitted, fun _ => keeps_of_ofJson,
    fun other value h h' => ?_⟩
  rw [← (keeps_of_ofJson h).toJson, ← (keeps_of_ofJson h').toJson]

/-- The largest number of 32 bits, for a wrapper with two question marks; one more is refused. -/
theorem ofJson_lossless_uint :
    (Json.nat 4294967295).Admitted ⟨"uint??", .nullableValue⟩
      ∧ ofJson (.nat 4294967295) ⟨"uint??", .nullableValue⟩
        = .ok (.nullable (some (.uint 4294967295)))
      ∧ (nullable (some (.uint 4294967295))).Keeps (.nat 4294967295) ⟨"uint??", .nullableValue⟩
      ∧ ofJson (.nat 4294967296) ⟨"uint??", .nullableValue⟩
        = .error (.invalidArgument (.nat 4294967296) "uint") := by
  have isUint : (⟨"uint??", .nullableValue⟩ : Ty).IsUint := ⟨2, by decide⟩
  have converted : ofJson (.nat 4294967295) ⟨"uint??", .nullableValue⟩
      = .ok (.nullable (some (.uint 4294967295))) := by rfl
  have refused : ¬ (Json.nat 4294967296).Admitted ⟨"uint??", .nullableValue⟩ := by
    rintro (⟨-, -, most⟩ | ⟨isOther, -⟩)
    · exact absurd most (by decide)
    · exact isOther isUint
  exact ⟨.inl ⟨isUint, by decide, by decide⟩, converted,
    (ofJson_lossless _ _).2.2.1 _ converted, (ofJson_lossless _ _).2.1 refused⟩

end Value

/-! ## Arguments of another type -/

/-- The plain types that the evaluator has values of. -/
inductive PlainType where
  | int
  | uint
  | bool
  deriving DecidableEq, Repr

/-- These types, texts, and the nullable wrappers of plain types. -/
inductive BasicType where
  | plain (held : PlainType)
  | string
  | nullable (held : PlainType)
  deriving DecidableEq, Repr

namespace PlainType

/-- The name of a plain type. -/
def name : PlainType → String
  | .int => "int"
  | .uint => "uint"
  | .bool => "bool"

/-- Whether a value is one of a plain type. -/
def Owns : PlainType → Value → Prop
  | .int, .int _ => True
  | .uint, .uint _ => True
  | .bool, .bool _ => True
  | _, _ => False

/-- Whether a JSON value is of the form in which values of a plain type are written. -/
def Writes : PlainType → Json → Prop
  | .int, .number _ => True
  | .uint, .number _ => True
  | .bool, .bool _ => True
  | _, _ => False

end PlainType

namespace BasicType

/-- The type itself. -/
def type : BasicType → Ty
  | .plain held => .value held.name
  | .string => .string
  | .nullable held => .nullable held.name

/-- Whether a value is one of a type. -/
def Owns : BasicType → Value → Prop
  | .plain held, value => held.Owns value
  | .string, .null => True
  | .string, .text _ => True
  | .nullable _, .nullable none => True
  | .nullable held, .nullable (some value) => held.Owns value
  | _, _ => False

/-- Whether a JSON value is of the form in which values of a type are written. -/
def Writes : BasicType → Json → Prop
  | .plain held, json => held.Writes json
  | .string, .null => True
  | .string, .string _ => True
  | .nullable _, .null => True
  | .nullable held, json => held.Writes json
  | _, _ => False

end BasicType

namespace PlainType

variable {held : PlainType} {json : Json} {value : Value}

/-- Of a plain type is what is written in its form. -/
theorem owns_iff_writes (h : Value.Scalar held.name json value) :
    held.Owns value ↔ held.Writes json := by
  cases h with
  | bool b => cases held <;> exact Iff.rfl
  | text s => cases held <;> exact Iff.rfl
  | int n isOther =>
      cases held with
      | uint => exact absurd rfl isOther
      | _ => exact Iff.rfl
  | uint n isUint =>
      cases held with
      | uint => exact Iff.rfl
      | _ => exact absurd isUint (by decide)

/-- The name of a plain type has no question marks to be dropped. -/
theorem takenBy_nullable (held : PlainType) : (Ty.nullable held.name).takenBy = held.name := by
  cases held <;> rfl

end PlainType

namespace BasicType

variable {t : BasicType} {json : Json} {value : Value}

/-- **Of a type is what is written in its form**, among the arguments that convert to it. -/
theorem owns_iff_writes (h : Value.ofJson json t.type = .ok value) :
    t.Owns value ↔ t.Writes json := by
  by_cases there : json = .null
  · subst there
    cases t with
    | plain held => cases h
    | string =>
        cases h
        exact Iff.rfl
    | nullable held =>
        cases h
        exact Iff.rfl
  · obtain ⟨inner, rfl, scalar⟩ := Value.scalar_of_ofJson there h
    cases t with
    | plain held => exact PlainType.owns_iff_writes scalar
    | string => cases scalar <;> exact Iff.rfl
    | nullable held =>
        have scalar : Value.Scalar held.name json inner := held.takenBy_nullable ▸ scalar
        have writes : (BasicType.nullable held).Writes json ↔ held.Writes json := by
          cases json with
          | null => exact absurd rfl there
          | _ => exact Iff.rfl
        exact (PlainType.owns_iff_writes scalar).trans writes.symm

/--
**An argument is of its type exactly if it is written in the form of the type.**

For a type that the evaluator has values of, a JSON value is an invalid argument or it converts to a
value; and that value is of the type if the JSON value is a number, a truth value, a text or null as
the type asks. A scalar of another form is not refused for that, but for its range only, and what it
converts to is of another type.
-/
theorem converted_owned_iff (t : BasicType) (json : Json) :
    (json.Admitted t.type
        ∧ ∃ value, Value.ofJson json t.type = .ok value ∧ (t.Owns value ↔ t.Writes json))
      ∨ (¬ json.Admitted t.type
        ∧ Value.ofJson json t.type = .error (.invalidArgument json t.type.takenBy)) := by
  by_cases admitted : json.Admitted t.type
  · obtain ⟨value, converted⟩ := Value.ofJson_of_admitted admitted
    exact .inl ⟨admitted, value, converted, owns_iff_writes converted⟩
  · exact .inr ⟨admitted, Value.ofJson_of_not_admitted admitted⟩

/-- A text is taken for an `int`, and stays a text. -/
theorem converted_not_owned :
    ¬ ∀ (t : BasicType) (json : Json),
      (∃ shown, Value.ofJson json t.type = .error (.invalidArgument json shown))
        ∨ ∃ value, Value.ofJson json t.type = .ok value ∧ t.Owns value := by
  intro owned
  rcases owned (.plain .int) (.string "x") with ⟨shown, refused⟩ | ⟨value, converted, isInt⟩
  · cases refused
  · cases converted
    exact isInt

end BasicType

end ArgumentGuards
