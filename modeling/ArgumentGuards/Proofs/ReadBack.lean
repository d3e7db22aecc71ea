import ArgumentGuards.Proofs.LoweredTwice
import ArgumentGuards.Proofs.Reading
import ArgumentGuards.Proofs.Scanning
import ArgumentGuards.Command.Run
import Mathlib

/-!
# Trees are read back

What is written of a tree is read as this tree, and the document of a lowered module as the module
of its functions.

Of every kind of thing two facts are shown. What is written of it is tidy: the keys of an object
differ, and integers have at most 64 bits (`tidy_toJson`). And its decoder reads what is written as
the thing itself (`reads_toJson`), for which every field of a record finds the member that has its
key, or finds none and has the value that makes writers leave the member out. Expressions and
statements are read by decoders that go down so many levels, so there the induction is on the tree,
and the levels are bounded by those of what is written.

All this is about values. That a text holds the value it was printed from is known from its outline
(`outline_write`), and the two meet at the end.
-/

namespace ArgumentGuards

open Json

/-! ## Symbols and spans -/

theorem TypeKind.lookup_nameIn (kind : TypeKind) :
    TypeKind.variants.lookup (nameIn variants kind) = some kind := by
  cases kind <;> rfl

theorem MethodKind.lookup_nameIn (kind : MethodKind) :
    MethodKind.variants.lookup (nameIn variants kind) = some kind := by
  cases kind <;> rfl

theorem UnaryOp.lookup_nameIn (op : UnaryOp) :
    UnaryOp.variants.lookup (nameIn variants op) = some op := by
  cases op; rfl

theorem BinaryOp.lookup_nameIn (op : BinaryOp) :
    BinaryOp.variants.lookup (nameIn variants op) = some op := by
  cases op <;> rfl

theorem fits_uint32 (n : UInt32) : Fits n.toNat := by
  have below := n.toNat_lt
  unfold Fits
  omega

theorem fits_uint64 (n : UInt64) : Fits n.toNat := by
  have below := n.toNat_lt
  unfold Fits
  omega

theorem tidyItems_map {α : Type} {kind : Int → Prop} {write : α → Json} {as : List α}
    (tidy : ∀ a ∈ as, (write a).Tidy kind) : TidyItems kind (as.map write) := by
  refine tidyItems_iff.mpr fun item there => ?_
  obtain ⟨a, isGiven, rfl⟩ := List.mem_map.mp there
  exact tidy a isGiven

theorem Ty.tidy_toJson (type : Ty) : type.toJson.Tidy Fits := by
  simp [toJson, TypeKind.toJson, Tidy, TidyMembers]

theorem Ty.reads_toJson (type : Ty) : Ty.decode.Reads type.toJson type :=
  Record.reads (by decide) type.tidy_toJson
    (.cons (.given rfl (Decoder.reads_string type.name)) <|
      .cons (.given rfl (Decoder.reads_enum type.kind.lookup_nameIn)) .nil)
    rfl

theorem Parameter.tidy_toJson (p : Parameter) : p.toJson.Tidy Fits := by
  simp [toJson, Tidy, TidyMembers, Json.nat, Json.int, p.type.tidy_toJson, fits_uint64]

theorem Parameter.reads_toJson (p : Parameter) : Parameter.decode.Reads p.toJson p :=
  Record.reads (by decide) p.tidy_toJson
    (.cons (.given rfl (Decoder.reads_string p.name)) <|
      .cons (.given rfl p.type.reads_toJson) <|
      .cons (.given rfl (Decoder.reads_bool p.nullChecked)) <|
      .cons (.given rfl (Decoder.reads_count p.ordinal)) .nil)
    rfl

theorem Method.tidy_toJson (m : Method) : m.toJson.Tidy Fits := by
  have parameters : TidyItems Fits (m.parameters.map Parameter.toJson) :=
    tidyItems_map fun p _ => p.tidy_toJson
  simp [toJson, MethodKind.toJson, Tidy, TidyMembers, parameters, m.returnType.tidy_toJson]

theorem Method.reads_toJson (m : Method) : Method.decode.Reads m.toJson m :=
  Record.reads (by decide) m.tidy_toJson
    (.cons (.given rfl (Decoder.reads_string m.name)) <|
      .cons (.given rfl (Decoder.reads_string m.container)) <|
      .cons (.given rfl (Decoder.reads_list fun p _ => p.reads_toJson)) <|
      .cons (.given rfl m.returnType.reads_toJson) <|
      .cons (.given rfl (Decoder.reads_enum m.kind.lookup_nameIn)) .nil)
    rfl

theorem Local.tidy_toJson (l : Local) : l.toJson.Tidy Fits := by
  simp [toJson, Tidy, TidyMembers, l.type.tidy_toJson]

theorem Local.reads_toJson (l : Local) : Local.decode.Reads l.toJson l :=
  Record.reads (by decide) l.tidy_toJson
    (.cons (.given rfl (Decoder.reads_string l.name)) <|
      .cons (.given rfl l.type.reads_toJson) .nil)
    rfl

theorem Location.tidy_toJson (here : Location) : here.toJson.Tidy Fits := by
  simp [toJson, Tidy, TidyMembers, Json.nat, Json.int, fits_uint64]

theorem Location.reads_toJson (here : Location) : Location.decode.Reads here.toJson here :=
  Record.reads (by decide) here.tidy_toJson
    (.cons (.given rfl (Decoder.reads_string here.file)) <|
      .cons (.given rfl (Decoder.reads_count here.line)) <|
      .cons (.given rfl (Decoder.reads_count here.column)) .nil)
    rfl

theorem Span.tidy_toJson (span : Span) : span.toJson.Tidy Fits := by
  simp [toJson, Tidy, TidyMembers, span.start.tidy_toJson, span.stop.tidy_toJson]

theorem Span.reads_toJson (span : Span) : Span.decode.Reads span.toJson span :=
  Record.reads (by decide) span.tidy_toJson
    (.cons (.given rfl span.start.reads_toJson) <|
      .cons (.given rfl span.stop.reads_toJson) .nil)
    rfl

/-! ## Expressions -/

theorem Literal.tidy_toJson (value : Literal) : value.toJson.Tidy Fits := by
  cases value <;>
    simp [toJson, Tidy, TidyMembers, Json.nat, Json.int, fits_uint32, Decoder.fits_int64]

theorem Literal.reads_toJson (value : Literal) : Literal.decode.Reads value.toJson value := by
  cases value with
  | null => exact sum.reads_absent rfl rfl
  | bool b => exact sum.reads (by decide) rfl trivial ((Decoder.reads_bool b).map _)
  | int n => exact sum.reads (by decide) rfl (Decoder.fits_int64 n) ((Decoder.reads_int64 n).map _)
  | uint n => exact sum.reads (by decide) rfl (fits_uint32 n) ((Decoder.reads_uint32 n).map _)
  | text s => exact sum.reads (by decide) rfl trivial ((Decoder.reads_string s).map _)

namespace Expr

mutual

theorem tidy_toJson : ∀ e : Expr, e.toJson.Tidy Fits
  | .literal value => by simp [toJson, Tidy, TidyMembers, value.tidy_toJson]
  | .parameter name type => by simp [toJson, Tidy, TidyMembers, type.tidy_toJson]
  | .localVar name => by simp [toJson, Tidy, TidyMembers]
  | .unary op operand => by
      simp [toJson, UnaryOp.toJson, Tidy, TidyMembers, operand.tidy_toJson]
  | .binary op left right => by
      simp [toJson, BinaryOp.toJson, Tidy, TidyMembers, left.tidy_toJson, right.tidy_toJson]
  | .hasValue operand => by simp [toJson, Tidy, TidyMembers, operand.tidy_toJson]
  | .call method args => by
      simp [toJson, Tidy, TidyMembers, method.tidy_toJson, tidy_allToJson args]
  | .construct constructor args => by
      simp [toJson, Tidy, TidyMembers, constructor.tidy_toJson, tidy_allToJson args]
  | .length operand => by simp [toJson, Tidy, TidyMembers, operand.tidy_toJson]
  | .charAt operand index => by
      simp [toJson, Tidy, TidyMembers, operand.tidy_toJson, index.tidy_toJson]

theorem tidy_allToJson : ∀ es : List Expr, TidyItems Fits (allToJson es)
  | [] => trivial
  | e :: rest => ⟨e.tidy_toJson, tidy_allToJson rest⟩

end

theorem toJson_ne_null (e : Expr) : e.toJson ≠ .null := by
  cases e <;> nofun

theorem allToJson_eq_map : ∀ es : List Expr, allToJson es = es.map toJson
  | [] => rfl
  | e :: rest => by rw [allToJson, allToJson_eq_map rest, List.map_cons]

theorem reads_allToJson {decode : Decoder Expr} {es : List Expr}
    (reads : ∀ e ∈ es, decode.Reads e.toJson e) :
    (Decoder.list decode).Reads (.array (allToJson es)) es := by
  rw [allToJson_eq_map]
  exact Decoder.reads_list reads

mutual

/-- **Expressions are read back** by a reader of expressions that are nested so deep. -/
theorem readsWithin_toJson : ∀ (e : Expr) {nesting : Nat}, e.toJson.depth < nesting →
    (decodeWithin nesting).Reads e.toJson e
  | .literal value, nesting + 1, _ =>
      TaggedSum.reads_record rfl (by simp [Fields.keys]) (tidy_toJson (.literal value))
        (.cons (.given rfl value.reads_toJson) .nil) rfl
  | .parameter name type, nesting + 1, _ =>
      TaggedSum.reads_record rfl (by simp [Fields.keys]) (tidy_toJson (.parameter name type))
        (.cons (.given rfl (Decoder.reads_string name)) <|
          .cons (.given rfl type.reads_toJson) .nil)
        rfl
  | .localVar name, nesting + 1, _ =>
      TaggedSum.reads_record rfl (by simp [Fields.keys]) (tidy_toJson (.localVar name))
        (.cons (.given rfl (Decoder.reads_string name)) .nil) rfl
  | .unary op operand, nesting + 1, deep => by
      simp only [toJson, depth, depthMembers] at deep
      exact TaggedSum.reads_record rfl (by simp [Fields.keys]) (tidy_toJson (.unary op operand))
        (.cons (.given rfl (Decoder.reads_enum op.lookup_nameIn)) <|
          .cons (.given rfl (operand.readsWithin_toJson (by omega))) .nil)
        rfl
  | .binary op left right, nesting + 1, deep => by
      simp only [toJson, depth, depthMembers] at deep
      exact TaggedSum.reads_record rfl (by simp [Fields.keys]) (tidy_toJson (.binary op left right))
        (.cons (.given rfl (Decoder.reads_enum op.lookup_nameIn)) <|
          .cons (.given rfl (left.readsWithin_toJson (by omega))) <|
          .cons (.given rfl (right.readsWithin_toJson (by omega))) .nil)
        rfl
  | .hasValue operand, nesting + 1, deep => by
      simp only [toJson, depth, depthMembers] at deep
      exact TaggedSum.reads_record rfl (by simp [Fields.keys]) (tidy_toJson (.hasValue operand))
        (.cons (.given rfl (operand.readsWithin_toJson (by omega))) .nil) rfl
  | .call method args, nesting + 1, deep => by
      simp only [toJson, depth, depthMembers] at deep
      exact TaggedSum.reads_record rfl (by simp [Fields.keys]) (tidy_toJson (.call method args))
        (.cons (.given rfl method.reads_toJson) <|
          .cons (.given rfl (reads_allToJson (reads_each args (by omega)))) .nil)
        rfl
  | .construct constructor args, nesting + 1, deep => by
      simp only [toJson, depth, depthMembers] at deep
      exact TaggedSum.reads_record rfl (by simp [Fields.keys])
        (tidy_toJson (.construct constructor args))
        (.cons (.given rfl constructor.reads_toJson) <|
          .cons (.given rfl (reads_allToJson (reads_each args (by omega)))) .nil)
        rfl
  | .length operand, nesting + 1, deep => by
      simp only [toJson, depth, depthMembers] at deep
      exact TaggedSum.reads_record rfl (by simp [Fields.keys]) (tidy_toJson (.length operand))
        (.cons (.given rfl (operand.readsWithin_toJson (by omega))) .nil) rfl
  | .charAt operand index, nesting + 1, deep => by
      simp only [toJson, depth, depthMembers] at deep
      exact TaggedSum.reads_record rfl (by simp [Fields.keys]) (tidy_toJson (.charAt operand index))
        (.cons (.given rfl (operand.readsWithin_toJson (by omega))) <|
          .cons (.given rfl (index.readsWithin_toJson (by omega))) .nil)
        rfl

theorem reads_each : ∀ (es : List Expr) {nesting : Nat}, depthItems (allToJson es) < nesting →
    ∀ e ∈ es, (decodeWithin nesting).Reads e.toJson e
  | [], _, _ => List.forall_mem_nil _
  | e :: rest, nesting, deep => by
      rw [allToJson, depthItems, Nat.max_lt] at deep
      exact List.forall_mem_cons.mpr ⟨e.readsWithin_toJson deep.1, reads_each rest deep.2⟩

end

theorem reads_toJson (e : Expr) : decode.Reads e.toJson e := fun origin room node shows deep =>
  e.readsWithin_toJson (Nat.lt_succ_of_le deep) origin room node shows deep

end Expr

/-! ## Statements -/

/-- What is written of a block, with statements that are written so. -/
def blockJson (locals : List Local) (statements : List Json) : Json :=
  .object (memberUnlessEmpty "locals" (locals.map Local.toJson)
    ++ [("statements", .array statements)])

theorem tidy_blockJson (locals : List Local) {statements : List Json}
    (tidy : TidyItems Fits statements) : (blockJson locals statements).Tidy Fits := by
  have declared : TidyItems Fits (locals.map Local.toJson) := tidyItems_map fun l _ => l.tidy_toJson
  unfold blockJson memberUnlessEmpty
  split <;> simp [Tidy, TidyMembers, tidy, declared]

theorem depth_lt_blockJson (locals : List Local) (statements : List Json) :
    depthItems statements + 1 < (blockJson locals statements).depth := by
  have there : ("statements", Json.array statements) ∈
      memberUnlessEmpty "locals" (locals.map Local.toJson) ++ [("statements", .array statements)] :=
    List.mem_append_right _ List.mem_cons_self
  have deep := depthMembers_le.mp (Nat.le_refl _) _ there
  rw [depth] at deep
  exact Nat.lt_succ_of_le deep

/-- A block is read back if its statements are. -/
theorem reads_blockJson {statement : Decoder Stmt} (locals : List Local) {statements : List Stmt}
    {written : List Json} (tidy : TidyItems Fits written)
    (reads : (Decoder.list statement).Reads (.array written) statements) :
    (Block.recordOf statement).decoder.Reads (blockJson locals written) ⟨locals, statements⟩ := by
  have tidyBlock := tidy_blockJson locals tidy
  cases locals with
  | nil =>
      exact Record.reads (by simp [Block.recordOf, Fields.keys]) tidyBlock
        (.cons (.absent rfl rfl) <| .cons (.given rfl reads) .nil) rfl
  | cons l rest =>
      exact Record.reads (by simp [Block.recordOf, Fields.keys]) tidyBlock
        (.cons (.given rfl (Decoder.reads_list fun l _ => l.reads_toJson)) <|
          .cons (.given rfl reads) .nil)
        rfl

namespace Stmt

mutual

theorem tidy_toJson : ∀ s : Stmt, s.toJson.Tidy Fits
  | .expression expr => by simp [toJson, Tidy, TidyMembers, expr.tidy_toJson]
  | .ret none => by simp [toJson, memberIfSome, Tidy, TidyMembers]
  | .ret (some value) => by simp [toJson, memberIfSome, Tidy, TidyMembers, value.tidy_toJson]
  | .conditional condition thenBranch none => by
      simp [toJson, Tidy, TidyMembers, condition.tidy_toJson, thenBranch.tidy_toJson]
  | .conditional condition thenBranch (some elseBranch) => by
      simp [toJson, Tidy, TidyMembers, condition.tidy_toJson, thenBranch.tidy_toJson,
        elseBranch.tidy_toJson]
  | .throw value => by simp [toJson, Tidy, TidyMembers, value.tidy_toJson]
  | .assign target value => by simp [toJson, Tidy, TidyMembers, value.tidy_toJson]
  | .loop condition body => by
      simp [toJson, Tidy, TidyMembers, condition.tidy_toJson, body.tidy_toJson]
  | .block ⟨locals, statements⟩ => by
      have tidy : (blockJson locals (allToJson statements)).Tidy Fits :=
        tidy_blockJson locals (tidy_allToJson statements)
      exact ⟨by simp, trivial, tidy, trivial⟩
  | .sequencePoint none statement => by
      simp [toJson, memberIfSome, Tidy, TidyMembers, statement.tidy_toJson]
  | .sequencePoint (some span) statement => by
      simp [toJson, memberIfSome, Tidy, TidyMembers, span.tidy_toJson, statement.tidy_toJson]

theorem tidy_allToJson : ∀ statements : List Stmt, TidyItems Fits (allToJson statements)
  | [] => trivial
  | s :: rest => ⟨s.tidy_toJson, tidy_allToJson rest⟩

end

theorem toJson_ne_null (s : Stmt) : s.toJson ≠ .null := by
  cases s with
  | conditional condition thenBranch elseBranch => cases elseBranch <;> nofun
  | block b => cases b; nofun
  | _ => nofun

theorem allToJson_eq_map : ∀ statements : List Stmt, allToJson statements = statements.map toJson
  | [] => rfl
  | s :: rest => by rw [allToJson, allToJson_eq_map rest, List.map_cons]

theorem reads_allToJson {decode : Decoder Stmt} {statements : List Stmt}
    (reads : ∀ s ∈ statements, decode.Reads s.toJson s) :
    (Decoder.list decode).Reads (.array (allToJson statements)) statements := by
  rw [allToJson_eq_map]
  exact Decoder.reads_list reads

mutual

/-- **Statements are read back** by a reader of statements that are nested so deep. -/
theorem readsWithin_toJson : ∀ (s : Stmt) {nesting : Nat}, s.toJson.depth < nesting →
    (decodeWithin nesting).Reads s.toJson s
  | .expression expr, nesting + 1, deep => by
      simp only [toJson, depth, depthMembers] at deep
      exact TaggedSum.reads_record rfl (by simp [Fields.keys]) (tidy_toJson (.expression expr))
        (.cons (.given rfl (expr.readsWithin_toJson (by omega))) .nil) rfl
  | .ret none, nesting + 1, _ =>
      TaggedSum.reads_record rfl (by simp [Fields.keys]) (tidy_toJson (.ret none))
        (.cons (.absent rfl rfl) .nil) rfl
  | .ret (some value), nesting + 1, deep => by
      simp only [toJson, Option.map_some, memberIfSome, depth, depthMembers] at deep
      exact TaggedSum.reads_record rfl (by simp [Fields.keys]) (tidy_toJson (.ret (some value)))
        (.cons (.given rfl ((value.readsWithin_toJson (by omega)).option value.toJson_ne_null)) .nil) rfl
  | .conditional condition thenBranch none, nesting + 1, deep => by
      simp only [toJson, depth, depthMembers] at deep
      exact TaggedSum.reads_record rfl (by simp [Fields.keys])
        (tidy_toJson (.conditional condition thenBranch none))
        (.cons (.given rfl (condition.readsWithin_toJson (by omega))) <|
          .cons (.given rfl (thenBranch.readsWithin_toJson (by omega))) <|
          .cons (.absent rfl rfl) .nil)
        rfl
  | .conditional condition thenBranch (some elseBranch), nesting + 1, deep => by
      simp only [toJson, depth, depthMembers] at deep
      exact TaggedSum.reads_record rfl (by simp [Fields.keys])
        (tidy_toJson (.conditional condition thenBranch (some elseBranch)))
        (.cons (.given rfl (condition.readsWithin_toJson (by omega))) <|
          .cons (.given rfl (thenBranch.readsWithin_toJson (by omega))) <|
          .cons (.given rfl ((elseBranch.readsWithin_toJson (by omega)).option
            elseBranch.toJson_ne_null)) .nil)
        rfl
  | .throw value, nesting + 1, deep => by
      simp only [toJson, depth, depthMembers] at deep
      exact TaggedSum.reads_record rfl (by simp [Fields.keys]) (tidy_toJson (.throw value))
        (.cons (.given rfl (value.readsWithin_toJson (by omega))) .nil) rfl
  | .assign target value, nesting + 1, deep => by
      simp only [toJson, depth, depthMembers] at deep
      exact TaggedSum.reads_record rfl (by simp [Fields.keys]) (tidy_toJson (.assign target value))
        (.cons (.given rfl (Decoder.reads_string target)) <|
          .cons (.given rfl (value.readsWithin_toJson (by omega))) .nil)
        rfl
  | .loop condition body, nesting + 1, deep => by
      simp only [toJson, depth, depthMembers] at deep
      exact TaggedSum.reads_record rfl (by simp [Fields.keys]) (tidy_toJson (.loop condition body))
        (.cons (.given rfl (condition.readsWithin_toJson (by omega))) <|
          .cons (.given rfl (body.readsWithin_toJson (by omega))) .nil)
        rfl
  | .block ⟨locals, statements⟩, nesting + 1, deep => by
      have inside := depth_lt_blockJson locals (allToJson statements)
      have whole : (blockJson locals (allToJson statements)).depth < nesting := by
        simp only [toJson, depth, depthMembers] at deep
        rw [blockJson, depth]
        omega
      exact TaggedSum.reads_record rfl (by simp [Fields.keys])
        (tidy_toJson (.block ⟨locals, statements⟩))
        (.cons (.given rfl (reads_blockJson locals (tidy_allToJson statements)
          (reads_allToJson (reads_each statements (by omega))))) .nil)
        rfl
  | .sequencePoint none statement, nesting + 1, deep => by
      simp only [toJson, Option.map_none, memberIfSome, List.cons_append, List.nil_append, depth,
        depthMembers] at deep
      exact TaggedSum.reads_record rfl (by simp [Fields.keys])
        (tidy_toJson (.sequencePoint none statement))
        (.cons (.absent rfl rfl) <|
          .cons (.given rfl (statement.readsWithin_toJson (by omega))) .nil)
        rfl
  | .sequencePoint (some span) statement, nesting + 1, deep => by
      simp only [toJson, Option.map_some, memberIfSome, List.cons_append, List.nil_append, depth,
        depthMembers] at deep
      exact TaggedSum.reads_record rfl (by simp [Fields.keys])
        (tidy_toJson (.sequencePoint (some span) statement))
        (.cons (.given rfl (span.reads_toJson.option nofun)) <|
          .cons (.given rfl (statement.readsWithin_toJson (by omega))) .nil)
        rfl

theorem reads_each : ∀ (statements : List Stmt) {nesting : Nat},
    depthItems (allToJson statements) < nesting →
      ∀ s ∈ statements, (decodeWithin nesting).Reads s.toJson s
  | [], _, _ => List.forall_mem_nil _
  | s :: rest, nesting, deep => by
      rw [allToJson, depthItems, Nat.max_lt] at deep
      exact List.forall_mem_cons.mpr ⟨s.readsWithin_toJson deep.1, reads_each rest deep.2⟩

end

theorem reads_toJson (s : Stmt) : decode.Reads s.toJson s := fun origin room node shows deep =>
  s.readsWithin_toJson (Nat.lt_succ_of_le deep) origin room node shows deep

end Stmt

theorem Block.tidy_toJson (b : Block) : b.toJson.Tidy Fits :=
  tidy_blockJson b.locals (Stmt.tidy_allToJson b.statements)

theorem Block.reads_toJson (b : Block) : Block.decode.Reads b.toJson b := by
  obtain ⟨locals, statements⟩ := b
  have reads : (Decoder.list Stmt.decode).Reads (.array (Stmt.allToJson statements)) statements :=
    Stmt.reads_allToJson fun s _ => s.reads_toJson
  exact reads_blockJson locals (Stmt.tidy_allToJson statements) reads

/-! ## Functions and modules -/

theorem tidy_parameters (parameters : List Parameter) :
    TidyItems Fits (parameters.map Parameter.toJson) :=
  tidyItems_map fun p _ => p.tidy_toJson

theorem SourceFunction.tidy_toJson (f : SourceFunction) : f.toJson.Tidy Fits := by
  simp [toJson, Tidy, TidyMembers, tidy_parameters, f.returnType.tidy_toJson, f.body.tidy_toJson]

/-- The fields of a function find their members, whatever comes behind these. -/
theorem SourceFunction.reads_members (f : SourceFunction) (more : List (String × Json)) :
    SourceFunction.record.fields.Reads
      (("name", .string f.name) :: ("parameters", .array (f.parameters.map Parameter.toJson))
        :: ("return_type", f.returnType.toJson) :: ("body", f.body.toJson) :: more)
      (f.name, f.parameters, f.returnType, f.body, ()) :=
  .cons (.given rfl (Decoder.reads_string f.name)) <|
    .cons (.given rfl (Decoder.reads_list fun p _ => p.reads_toJson)) <|
    .cons (.given rfl f.returnType.reads_toJson) <|
    .cons (.given rfl f.body.reads_toJson) .nil

theorem SourceFunction.reads_toJson (f : SourceFunction) :
    SourceFunction.decode.Reads f.toJson f :=
  Record.reads (by decide) f.tidy_toJson (f.reads_members []) rfl

/-- Any integer. -/
def AnyInteger (_ : Int) : Prop := True

theorem tidy_any {j : Json} (tidy : j.Tidy Fits) : j.Tidy AnyInteger :=
  tidy.mono fun _ _ => trivial

/-- The number of guards may be of any length, since it is passed over. -/
theorem LoweredFunction.tidy_toJson (f : LoweredFunction) : f.toJson.Tidy AnyInteger := by
  have parameters : TidyItems AnyInteger (f.parameters.map Parameter.toJson) :=
    tidyItems_map fun p _ => tidy_any p.tidy_toJson
  have guards : (Json.nat f.guards).Tidy AnyInteger := trivial
  simp [toJson, Tidy, TidyMembers, parameters, guards, tidy_any f.returnType.tidy_toJson,
    tidy_any f.body.tidy_toJson]

/-- What is written of a function after lowering is read as the function with its guards. -/
theorem LoweredFunction.reads_toJson (f : LoweredFunction) :
    SourceFunction.decode.Reads f.toJson f.toSource :=
  Record.reads (by decide) f.tidy_toJson (f.toSource.reads_members [("guards", .nat f.guards)]) rfl

theorem Member.tidy_toJson (member : Member) : member.toJson.Tidy Fits := by
  simp [toJson, Tidy, TidyMembers, member.symbol.tidy_toJson, member.body.tidy_toJson]

theorem LoweredModule.tidy_toJson (lowered : LoweredModule) : lowered.toJson.Tidy AnyInteger := by
  have functions : TidyItems AnyInteger (lowered.functions.map LoweredFunction.toJson) :=
    tidyItems_map fun f _ => f.tidy_toJson
  have members : TidyItems AnyInteger (lowered.module.members.toList.map Member.toJson) :=
    tidyItems_map fun member _ => tidy_any member.tidy_toJson
  simp [toJson, Tidy, TidyMembers, functions, members]

/-- A module is read from what is written of it after lowering, without a name. -/
theorem LoweredModule.reads_toJson (lowered : LoweredModule) :
    SourceModule.record.decoder.Reads lowered.toJson
      (none, lowered.functions.map LoweredFunction.toSource) :=
  Record.reads (by decide) lowered.tidy_toJson
    (.cons (.absent rfl rfl) <|
      .cons (.given rfl (Decoder.reads_list_map fun f _ => f.reads_toJson)) .nil)
    rfl

/-! ## Texts -/

section

variable {α : Type} {decode : Decoder α} {j : Json} {a : α} {kind : Int → Prop} {text : String}
  {blanks : List Char}

theorem decodeText_of_shows (reads : decode.Reads j a) (shallow : j.depth ≤ nestingLimit)
    {node : Node} (outlined : outline text = ⟨node, none⟩) (shows : node.Shows j) :
    decodeText decode text = .ok a := by
  have read : decode .text nestingLimit node = .ok a := reads .text nestingLimit node shows shallow
  unfold decodeText Outline.decode
  rw [outlined]
  dsimp only
  rw [read]

/-- A value is read from its text in either layout. -/
theorem decodeText_write (l : Layout) (reads : decode.Reads j a) (tidy : j.Tidy kind)
    (shallow : j.depth ≤ nestingLimit) (blank : ∀ c ∈ blanks, Cursor.isBlank c)
    (written : text.toList = l.write 0 j ++ blanks) : decodeText decode text = .ok a := by
  obtain ⟨node, outlined, shows⟩ := outline_write l tidy blank written
  exact decodeText_of_shows reads shallow outlined shows

/-- A value is read from the text of its canonical form, which shows the value just as well. -/
theorem decodeText_write_canonical (l : Layout) (reads : decode.Reads j a) (tidy : j.Tidy kind)
    (shallow : j.depth ≤ nestingLimit) (blank : ∀ c ∈ blanks, Cursor.isBlank c)
    (written : text.toList = l.write 0 j.canonical ++ blanks) :
    decodeText decode text = .ok a := by
  obtain ⟨node, outlined, shows⟩ := outline_write l tidy.canonical blank written
  exact decodeText_of_shows reads shallow outlined (shows.of_canonical tidy)

end

/-- Whether every text of a value is read as one thing: on a line or on many, with its members in the
order in which they are declared or in that of their keys. -/
structure ReadBack {α : Type} (decode : Decoder α) (j : Json) (a : α) : Prop where
  compact : decodeText decode j.compact = .ok a
  pretty : decodeText decode j.pretty = .ok a
  compact_canonical : decodeText decode j.canonical.compact = .ok a
  pretty_canonical : decodeText decode j.canonical.pretty = .ok a

theorem ReadBack.of_reads {α : Type} {decode : Decoder α} {j : Json} {a : α} {kind : Int → Prop}
    (reads : decode.Reads j a) (tidy : j.Tidy kind) (shallow : j.depth ≤ nestingLimit) :
    ReadBack decode j a := by
  have nothing : ∀ c ∈ ([] : List Char), Cursor.isBlank c := List.forall_mem_nil _
  constructor
  · refine decodeText_write .compact reads tidy shallow nothing ?_
    rw [List.append_nil, toList_compact]
  · refine decodeText_write .pretty reads tidy shallow nothing ?_
    rw [List.append_nil]
    exact toList_prettyAt 0 j
  · refine decodeText_write_canonical .compact reads tidy shallow nothing ?_
    rw [List.append_nil, toList_compact]
  · refine decodeText_write_canonical .pretty reads tidy shallow nothing ?_
    rw [List.append_nil]
    exact toList_prettyAt 0 j.canonical

theorem Method.depth_toJson_le (m : Method) : m.toJson.depth ≤ 4 := by
  have parameters : depthItems (m.parameters.map Parameter.toJson) ≤ 2 := by
    refine depthItems_le.mpr fun item there => ?_
    obtain ⟨p, -, rfl⟩ := List.mem_map.mp there
    exact Nat.le_refl 2
  have returnType : m.returnType.toJson.depth = 1 := rfl
  simp only [toJson, MethodKind.toJson, depth, depthMembers, returnType]
  omega

theorem Literal.depth_toJson_le (value : Literal) : value.toJson.depth ≤ 1 := by
  cases value <;> exact Nat.le_refl 1

/-- The document of a lowered module, read as a module that is given a name, has the functions with
their guards. -/
theorem ofText_render (name : String) (lowered : LoweredModule)
    (shallow : lowered.toJson.depth ≤ nestingLimit) :
    SourceModule.ofText name (Command.Format.json.render lowered)
      = .ok (SourceModule.ofFunctions name (lowered.functions.map LoweredFunction.toSource)) := by
  have newline : ∀ c ∈ ['\n'], Cursor.isBlank c := List.forall_mem_singleton.mpr rfl
  have written : (Command.Format.json.render lowered).toList
      = Layout.pretty.write 0 lowered.toJson.canonical ++ ['\n'] := by
    rw [← toList_prettyAt]
    exact String.toList_append
  have read := decodeText_write_canonical .pretty lowered.reads_toJson lowered.tidy_toJson shallow
    newline written
  unfold SourceModule.ofText
  rw [read]
  rfl

/-- **What is written of a tree is read as this tree,** from each of its texts, if it is nested no
deeper than a reader follows; symbols of methods and constants never are. Likewise the document of a
lowered module is read as the module of the same functions, with their guards, in the same order,
where only the numbers of parameters are made anew. -/
theorem readBack_toJson :
    (∀ f : SourceFunction, f.toJson.depth ≤ nestingLimit →
        ReadBack SourceFunction.decode f.toJson f)
      ∧ (∀ b : Block, b.toJson.depth ≤ nestingLimit → ReadBack Block.decode b.toJson b)
      ∧ (∀ s : Stmt, s.toJson.depth ≤ nestingLimit → ReadBack Stmt.decode s.toJson s)
      ∧ (∀ e : Expr, e.toJson.depth ≤ nestingLimit → ReadBack Expr.decode e.toJson e)
      ∧ (∀ m : Method, ReadBack Method.decode m.toJson m)
      ∧ (∀ value : Literal, ReadBack Literal.decode value.toJson value)
      ∧ ∀ (name : String) (lowered : LoweredModule), lowered.toJson.depth ≤ nestingLimit →
          SourceModule.ofText name (Command.Format.json.render lowered)
            = .ok ⟨name, none, lowered.functions.map fun f =>
                ⟨f.name, f.parameters.mapIdx fun i p => { p with ordinal := UInt64.ofNat i },
                  f.returnType, f.body⟩⟩ := by
  refine ⟨fun f => .of_reads f.reads_toJson f.tidy_toJson,
    fun b => .of_reads b.reads_toJson b.tidy_toJson,
    fun s => .of_reads s.reads_toJson s.tidy_toJson,
    fun e => .of_reads e.reads_toJson e.tidy_toJson,
    fun m => .of_reads m.reads_toJson m.tidy_toJson ?method,
    fun value => .of_reads value.reads_toJson value.tidy_toJson ?literal,
    fun name lowered shallow => ?module⟩
  case method => exact m.depth_toJson_le.trans (by decide)
  case literal => exact value.depth_toJson_le.trans (by decide)
  case module =>
    rw [ofText_render name lowered shallow, SourceModule.ofFunctions, List.map_map]
    rfl

/-- A value that is asked whether it is there, and the answer again, so many times. -/
def asked (times : Nat) : Expr := Expr.hasValue^[times] (.literal .null)

/-- A function that returns the last answer. -/
def asking (times : Nat) : SourceFunction :=
  ⟨"asking", [], ⟨"bool", .plainValue⟩, ⟨[], [.ret (some (asked times))]⟩⟩

/-- An expression, a statement and a function as deep as can be, with a module that has guards. -/
theorem readBack_toJson_deepest :
    ((asked 125).toJson.depth = nestingLimit
        ∧ ReadBack Expr.decode (asked 125).toJson (asked 125))
      ∧ ((Stmt.throw (asked 124)).toJson.depth = nestingLimit
        ∧ ReadBack Stmt.decode (Stmt.throw (asked 124)).toJson (.throw (asked 124)))
      ∧ ((asking 121).toJson.depth = nestingLimit
        ∧ ReadBack SourceFunction.decode (asking 121).toJson (asking 121)
        ∧ ReadBack Block.decode (asking 121).body.toJson (asking 121).body)
      ∧ SourceModule.ofText "again" (Command.Format.json.render nestedOnce)
        = .ok { nestedOnce.toSource with name := "again" } := by
  have expression : (asked 125).toJson.depth = nestingLimit := by decide +kernel
  have statement : (Stmt.throw (asked 124)).toJson.depth = nestingLimit := by decide +kernel
  have function : (asking 121).toJson.depth = nestingLimit := by decide +kernel
  have body : (asking 121).body.toJson.depth ≤ nestingLimit := by decide +kernel
  have lowered : nestedOnce.toJson.depth ≤ nestingLimit := by decide +kernel
  obtain ⟨functions, blocks, statements, expressions, -, -, modules⟩ := readBack_toJson
  exact ⟨⟨expression, expressions _ expression.le⟩, ⟨statement, statements _ statement.le⟩,
    ⟨function, functions _ function.le, blocks _ body⟩, modules "again" nestedOnce lowered⟩

end ArgumentGuards
