import ArgumentGuards.Json.Decoder.Tagged
import ArgumentGuards.Proofs.Shown
import Mathlib

/-!
# What decoders read

A decoder reads a value as something if it makes that of every outline which shows the value, be it
read from the text or from a buffer, with room for the levels of the value. So whether a decoder
reads a value is a question about the value alone, in which places and the order of members have no
part.

A record asks every field for its member. While its members are gone through in the order of the
text, the fields that have not had theirs yet await it from the members that are left
(`Fields.Awaits`), and each member is due to at most one of them.
-/

namespace ArgumentGuards.Json

/-- Whether a decoder reads every outline of a value as one thing. -/
def Decoder.Reads {α : Type} (decode : Decoder α) (j : Json) (a : α) : Prop :=
  ∀ origin room node, node.Shows j → j.depth ≤ room → decode origin room node = .ok a

section

variable {α β : Type}

theorem ok_bind (a : α) (next : α → Except Fault β) :
    ((.ok a : Except Fault α) >>= next) = next a := rfl

theorem placedAt_ok (place : Nat) (a : α) : placedAt place (.ok a) = .ok a := rfl

theorem unplaced_ok (a : α) : unplaced (.ok a) = .ok a := rfl

end

theorem enter_eq_ok {origin : Origin} {room start : Nat} (space : 0 < room) :
    origin.enter room start = .ok (room - 1) := by
  cases origin with
  | text =>
      cases room with
      | zero => exact absurd space (Nat.lt_irrefl 0)
      | succ room => rfl
  | buffer => rfl

namespace Decoder

/-! ## Scalars -/

section

variable {α β : Type}

theorem reads_bool (b : Bool) : bool.Reads (.bool b) b := by
  intro _ _ _ shows _
  cases shows
  rfl

theorem reads_string (text : String) : string.Reads (.string text) text := by
  intro _ _ _ shows _
  cases shows
  rfl

theorem Reads.map {decode : Decoder α} {j : Json} {a : α} (h : decode.Reads j a) (f : α → β) :
    (Decoder.map f decode).Reads j (f a) := by
  intro origin room node shows deep
  unfold Decoder.map
  rw [h origin room node shows deep]
  rfl

theorem reads_integer (name : String) {low high n : Int} (fits : Fits n) (least : low ≤ n)
    (most : n ≤ high) : (integer name low high).Reads (.int n) n := by
  intro _ _ _ shows _
  cases shows with
  | number exact =>
      rw [exact fits]
      exact if_pos ⟨least, most⟩

theorem fits_int64 (n : Int64) : Fits n.toInt := by
  have least := n.le_toInt
  have most := n.toInt_lt
  unfold Fits
  omega

theorem reads_int64 (n : Int64) : int64.Reads (.int n.toInt) n := by
  have most : n.toInt ≤ Int.pow 2 63 - 1 := Int.le_sub_one_of_lt n.toInt_lt
  have reads := (reads_integer "i64" (fits_int64 n) n.le_toInt most).map Int64.ofInt
  rwa [Int64.ofInt_toInt] at reads

/-- Natural numbers of a type with so many values. -/
theorem reads_nat (name : String) {n : Nat} {bound : Int} (below : n ≤ bound)
    (fits : bound < 2 ^ 64) : (integer name 0 bound).Reads (.nat n) n :=
  reads_integer name ⟨by omega, by omega⟩ (Int.natCast_nonneg n) below

theorem reads_uint32 (n : UInt32) : uint32.Reads (.nat n.toNat) n := by
  have below : (n.toNat : Int) ≤ Int.pow 2 32 - 1 :=
    Int.le_sub_one_of_lt (Int.ofNat_lt.mpr n.toNat_lt)
  have reads := (reads_nat "u32" below (by decide)).map (UInt32.ofNat ·.toNat)
  rwa [Int.toNat_natCast, UInt32.ofNat_toNat] at reads

theorem reads_count (n : UInt64) : count.Reads (.nat n.toNat) n := by
  have below : (n.toNat : Int) ≤ Int.pow 2 64 - 1 :=
    Int.le_sub_one_of_lt (Int.ofNat_lt.mpr n.toNat_lt)
  have reads := (reads_nat "usize" below (by decide)).map (UInt64.ofNat ·.toNat)
  rwa [Int.toNat_natCast, UInt64.ofNat_toNat] at reads

theorem Reads.option {decode : Decoder α} {j : Json} {a : α} (h : decode.Reads j a)
    (there : j ≠ .null) : (Decoder.option decode).Reads j (some a) := by
  intro origin room node shows deep
  have reads := h origin room node shows deep
  cases shows with
  | null => exact absurd rfl there
  | _ =>
      change (decode origin room _).map some = .ok (some a)
      rw [reads]
      rfl

/-! ## Variants -/

theorem variant_eq_ok {variants : List (String × α)} {name : String} {a : α}
    (known : variants.lookup name = some a) : variant variants name = .ok a := by
  unfold variant
  rw [known]

theorem reads_enum {variants : List (String × α)} {name : String} {a : α}
    (known : variants.lookup name = some a) : (enum variants).Reads (.string name) a := by
  intro origin room node shows _
  cases shows
  cases origin with
  | text =>
      change placedAt _ (variant variants name) = .ok a
      rw [variant_eq_ok known]
      rfl
  | buffer => exact variant_eq_ok known

theorem reads_tag {variants : List (String × α)} {name : String} {a : α}
    (known : variants.lookup name = some a) : (tag variants).Reads (.string name) a := by
  intro origin room node shows _
  cases shows
  cases origin with
  | text =>
      change placedAt _ (variant variants name) = .ok a
      rw [variant_eq_ok known]
      rfl
  | buffer =>
      change placedAt _ (variant variants name) = .ok a
      rw [variant_eq_ok known]
      rfl

/-! ## Lists -/

theorem items_eq_ok {decode : Node → Except Fault α} {write : β → Json} {read : β → α} {stop : Nat} :
    ∀ {bs : List β} {nodes : Items}, ItemsShow nodes (bs.map write) →
      (∀ b ∈ bs, ∀ node, node.Shows (write b) → decode node = .ok (read b)) →
        items decode (.closed stop) nodes = .ok (bs.map read)
  | [], _, .nil, _ => rfl
  | _ :: _, _, .cons first more, reads => by
      rw [List.forall_mem_cons] at reads
      rw [items, reads.1 _ first, items_eq_ok more reads.2]
      rfl

/-- **A list is read** if each of its items is, be it as something else than what was written. -/
theorem reads_list_map {decode : Decoder α} {write : β → Json} {read : β → α} {bs : List β}
    (reads : ∀ b ∈ bs, decode.Reads (write b) (read b)) :
    (list decode).Reads (.array (bs.map write)) (bs.map read) := by
  intro origin room node shows deep
  cases shows with
  | array shown =>
      rw [depth] at deep
      have below := depthItems_le.mp (Nat.le_sub_one_of_lt deep)
      rw [list, enter_eq_ok (Nat.lt_of_lt_of_le (Nat.succ_pos _) deep)]
      refine items_eq_ok shown fun b there node shows => ?_
      exact reads b there origin (room - 1) node shows (below _ (List.mem_map_of_mem there))

theorem reads_list {decode : Decoder α} {write : α → Json} {as : List α}
    (reads : ∀ a ∈ as, decode.Reads (write a) a) :
    (list decode).Reads (.array (as.map write)) as := by
  have given : (list decode).Reads (.array (as.map write)) (as.map id) := reads_list_map reads
  rwa [List.map_id] at given

end

end Decoder

/-! ## Records -/

section

variable {α : Type} {types : List Type} {members listed : List (String × Json)}

/-- What a field is when it is not given, if it need not be. -/
def Absent.value? : Absent α → Option α
  | .required => none
  | .optional a => some a
  | .defaulted a => some a

/-- Whether a field is read as something from an object's members. -/
def Field.Reads (members : List (String × Json)) (field : Field α) (a : α) : Prop :=
  match members.lookup field.key with
  | some value => field.decode.Reads value a
  | none => field.absent.value? = some a

theorem Field.Reads.given {field : Field α} {value : Json} {a : α}
    (found : members.lookup field.key = some value) (reads : field.decode.Reads value a) :
    field.Reads members a := by
  unfold Field.Reads
  rwa [found]

theorem Field.Reads.absent {field : Field α} {a : α} (none' : members.lookup field.key = none)
    (value : field.absent.value? = some a) : field.Reads members a := by
  unfold Field.Reads
  rwa [none']

namespace Fields

/-- The keys of fields. -/
def keys {types : List Type} : Fields types → List String
  | nil => []
  | cons field rest => field.key :: rest.keys

/-- Whether fields are read as some values from an object's members. -/
def Reads (members : List (String × Json)) {types : List Type} :
    Fields types → Values types → Prop
  | nil, _ => True
  | cons field rest, (a, values) => field.Reads members a ∧ rest.Reads members values

theorem Reads.nil : Fields.nil.Reads members () := trivial

theorem Reads.cons {field : Field α} {rest : Fields types} {a : α} {values : Values types}
    (own : field.Reads members a) (others : rest.Reads members values) :
    (Fields.cons field rest).Reads members (a, values) :=
  ⟨own, others⟩

/-- Whether a field that has its value already has no other member, and else awaits its value. -/
def AwaitsOne (members : List (String × Json)) (field : Field α) (a : α) : Option α → Prop
  | some found => found = a ∧ members.lookup field.key = none
  | none => field.Reads members a

/-- Whether fields that have not had their values await them from the members that are left. -/
def Awaits (members : List (String × Json)) {types : List Type} :
    Fields types → Slots types → Values types → Prop
  | nil, _, _ => True
  | cons field rest, (slot, slots), (a, values) =>
    AwaitsOne members field a slot ∧ rest.Awaits members slots values

theorem Reads.awaits : ∀ {types : List Type} {fields : Fields types} {values : Values types},
    fields.Reads members values → fields.Awaits members (.empty types) values
  | _, .nil, _, _ => trivial
  | _, .cons _ _, (_, _), reads => ⟨reads.1, Reads.awaits reads.2⟩

/-- When all members have been gone through, every field has its value or another one. -/
theorem settle_awaits : ∀ {types : List Type} {fields : Fields types} {slots : Slots types}
    {values : Values types}, fields.Awaits [] slots values → fields.settle slots = .ok values
  | _, .nil, _, _, _ => rfl
  | _, .cons field rest, (some found, slots), (a, values), awaits => by
      obtain ⟨⟨rfl, -⟩, others⟩ := awaits
      rw [settle, settle_awaits others]
      rfl
  | _, .cons ⟨_, _, .required⟩ _, (none, _), (_, _), awaits => nomatch awaits.1
  | _, .cons ⟨_, _, .optional a⟩ rest, (none, slots), (_, _), awaits => by
      obtain ⟨⟨⟩, others⟩ := awaits
      change (rest.settle slots >>= fun more => .ok (a, more)) = _
      rw [settle_awaits others]
      rfl
  | _, .cons ⟨_, _, .defaulted a⟩ rest, (none, slots), (_, _), awaits => by
      obtain ⟨⟨⟩, others⟩ := awaits
      change (rest.settle slots >>= fun more => .ok (a, more)) = _
      rw [settle_awaits others]
      rfl

theorem lookup_cons_of_ne {name key : String} {value : Json} (differs : key ≠ name) :
    ((name, value) :: members).lookup key = members.lookup key := by
  rw [List.lookup_cons, beq_eq_false_iff_ne.mpr differs]

/-- A member is nothing to a field of another key. -/
theorem awaitsOne_of_ne {field : Field α} {a : α} {slot : Option α} {name : String} {value : Json}
    (differs : field.key ≠ name) (awaits : AwaitsOne ((name, value) :: members) field a slot) :
    AwaitsOne members field a slot := by
  cases slot with
  | some found => exact ⟨awaits.1, lookup_cons_of_ne differs ▸ awaits.2⟩
  | none =>
      unfold AwaitsOne Field.Reads at awaits ⊢
      rwa [lookup_cons_of_ne differs] at awaits

/-- A member is nothing to fields of other keys. -/
theorem Awaits.of_not_mem {name : String} {value : Json} : ∀ {types : List Type}
    {fields : Fields types} {slots : Slots types} {values : Values types}, name ∉ fields.keys →
      fields.Awaits ((name, value) :: members) slots values → fields.Awaits members slots values
  | _, .nil, _, _, _, _ => trivial
  | _, .cons _ _, (_, _), (_, _), other, awaits => by
      rw [keys, List.mem_cons, not_or] at other
      exact ⟨awaitsOne_of_ne (Ne.symm other.1) awaits.1, Awaits.of_not_mem other.2 awaits.2⟩

/-- **A member goes to the field that awaits it,** or is passed over if its key names no field. -/
theorem Awaits.put? {origin : Origin} {room : Nat} {key : Key} {node : Node} {leaving : Leaving}
    {name : String} {value : Json} (shows : node.Shows value) (deep : value.depth ≤ room)
    (fresh : members.lookup name = none) : ∀ {types : List Type} {fields : Fields types}
    {slots : Slots types} {values : Values types}, fields.keys.Nodup →
      fields.Awaits ((name, value) :: members) slots values →
        (fields.put? origin room name key node leaving slots = none
            ∧ fields.Awaits members slots values)
          ∨ ∃ after, fields.put? origin room name key node leaving slots = some (.ok after)
            ∧ fields.Awaits members after values
  | _, .nil, _, _, _, _ => .inl ⟨rfl, trivial⟩
  | _, .cons field rest, (slot, slots), (a, values), distinct, awaits => by
      obtain ⟨own, others⟩ := awaits
      rw [keys, List.nodup_cons] at distinct
      by_cases same : field.key = name
      · have left : rest.Awaits members slots values := others.of_not_mem (same ▸ distinct.1)
        subst same
        cases slot with
        | some found =>
            have absent := own.2
            rw [List.lookup_cons_self] at absent
            cases absent
        | none =>
            have reads : field.decode.Reads value a := by
              unfold AwaitsOne Field.Reads at own
              rwa [List.lookup_cons_self] at own
            refine .inr ⟨(some a, slots), ?_, ⟨rfl, fresh⟩, left⟩
            rw [Fields.put?, if_pos rfl, reads origin room node shows deep]
            rfl
      · have ownLeft := awaitsOne_of_ne same own
        have later : (cons field rest).put? origin room name key node leaving (slot, slots)
            = (rest.put? origin room name key node leaving slots).map
              (·.map fun more => (slot, more)) := if_neg same
        rcases Awaits.put? shows deep fresh distinct.2 others with ⟨passed, left⟩ | ⟨after, found, left⟩
        · refine .inl ⟨?_, ownLeft, left⟩
          rw [later, passed]
          rfl
        · refine .inr ⟨(slot, after), ?_, ownLeft, left⟩
          rw [later, found]
          rfl

theorem lookup_eq_none_of_not_mem {name : String} (absent : name ∉ members.map Prod.fst) :
    members.lookup name = none := by
  rw [List.lookup_eq_none_iff]
  intro member there
  refine bne_iff_ne.mpr fun same => absent ?_
  exact List.mem_map.mpr ⟨member, there, same.symm⟩

/-- **Members give the values that the fields await from them.** -/
theorem fromMembers_awaits {fields : Fields types} (keysDistinct : fields.keys.Nodup)
    {origin : Origin} {room stop : Nat} : ∀ {nodes : Members} {listed : List (String × Json)},
      MembersShow nodes listed → (listed.map Prod.fst).Nodup →
        (∀ member ∈ listed, member.2.depth ≤ room) →
          ∀ {slots : Slots types} {values : Values types}, fields.Awaits listed slots values →
            fields.fromMembers origin room (.closed stop) nodes slots = .ok values
  | _, _, .nil, _, _, _, _, awaits => by
      rw [fromMembers, settle_awaits awaits]
  | _, _, .cons named first more, distinct, deep, slots, _, awaits => by
      rw [List.map_cons, List.nodup_cons] at distinct
      rw [List.forall_mem_cons] at deep
      have fresh := lookup_eq_none_of_not_mem distinct.1
      rw [fromMembers, named, ok_bind]
      rcases awaits.put? first deep.1 fresh keysDistinct with ⟨passed, left⟩ | ⟨after, found, left⟩
      · rw [passed]
        dsimp only
        rw [first.skipFault]
        exact fromMembers_awaits keysDistinct more distinct.2 deep.2 left
      · rw [found]
        dsimp only
        rw [ok_bind]
        exact fromMembers_awaits keysDistinct more distinct.2 deep.2 left

theorem lookup_eq_of_perm (h : listed.Perm members) (distinct : (listed.map Prod.fst).Nodup)
    (key : String) : listed.lookup key = members.lookup key := by
  induction h with
  | nil => rfl
  | cons member _ ih =>
      obtain ⟨name, value⟩ := member
      rw [List.map_cons, List.nodup_cons] at distinct
      rw [List.lookup_cons, List.lookup_cons, ih distinct.2]
  | swap first second rest =>
      obtain ⟨name, value⟩ := first
      obtain ⟨other, value'⟩ := second
      have differs : other ≠ name := by
        rw [List.map_cons, List.nodup_cons, List.map_cons, List.mem_cons, not_or] at distinct
        exact distinct.1.1
      by_cases same : key = name
      · subst same
        rw [lookup_cons_of_ne differs.symm, List.lookup_cons_self, List.lookup_cons_self]
      · rw [lookup_cons_of_ne same]
        by_cases same' : key = other
        · subst same'
          rw [List.lookup_cons_self, List.lookup_cons_self]
        · rw [lookup_cons_of_ne same', lookup_cons_of_ne same', lookup_cons_of_ne same]
  | trans before _ ih ih' =>
      exact (ih distinct).trans (ih' ((before.map Prod.fst).nodup_iff.mp distinct))

theorem Reads.of_perm (h : listed.Perm members) (distinct : (listed.map Prod.fst).Nodup) :
    ∀ {types : List Type} {fields : Fields types} {values : Values types},
      fields.Reads members values → fields.Reads listed values
  | _, .nil, _, _ => trivial
  | _, .cons _ _, (_, _), reads => by
      refine ⟨?_, Reads.of_perm h distinct reads.2⟩
      unfold Field.Reads
      rw [lookup_eq_of_perm h distinct]
      exact reads.1

end Fields

/-- Whether a shape is read as one thing from an object's members in any order. -/
def Shape.Reads (shape : Shape α) (members : List (String × Json)) (a : α) : Prop :=
  ∀ origin room stop nodes listed, MembersShow nodes listed → listed.Perm members →
    (∀ member ∈ members, member.2.depth ≤ room) →
      shape.ofMembers origin room nodes (.closed stop) = .ok a

section

variable {kind : Int → Prop} {record : Record α} {values : Values record.types} {a : α}

theorem Record.shape_reads (keysDistinct : record.fields.keys.Nodup)
    (distinct : (members.map Prod.fst).Nodup) (reads : record.fields.Reads members values)
    (built : record.build values = a) : record.shape.Reads members a := by
  intro origin room stop nodes listed shown order deep
  have listedDistinct := (order.map Prod.fst).nodup_iff.mpr distinct
  have listedDeep : ∀ member ∈ listed, member.2.depth ≤ room := fun member there =>
    deep member (order.mem_iff.mp there)
  have awaits := (reads.of_perm order listedDistinct).awaits
  change (record.fields.fromMembers origin room (.closed stop) nodes _).map record.build = _
  rw [Fields.fromMembers_awaits keysDistinct shown listedDistinct listedDeep awaits, ← built]
  rfl

/-- **A record is read from an object** if its fields are read from the members. -/
theorem Record.reads (keysDistinct : record.fields.keys.Nodup)
    (tidy : (Json.object members).Tidy kind) (reads : record.fields.Reads members values)
    (built : record.build values = a) : record.decoder.Reads (.object members) a := by
  intro origin room node shows deep
  cases shows with
  | object shown order =>
      rw [depth] at deep
      have below := depthMembers_le.mp (Nat.le_sub_one_of_lt deep)
      rw [decoder, enter_eq_ok (Nat.lt_of_lt_of_le (Nat.succ_pos _) deep)]
      exact shape_reads keysDistinct tidy.1 reads built origin (room - 1) _ _ _ shown order below

end

end

/-! ## Tagged values -/

section

variable {α : Type} {members listed : List (String × Json)}

theorem buffer_eq_ok {origin : Origin} {room : Nat} {node : Node} {value : Json}
    (shows : node.Shows value) (tidy : value.Tidy Fits) (deep : value.depth ≤ room) :
    buffer origin room node = .ok () := by
  cases origin with
  | text =>
      unfold buffer
      dsimp only
      rw [shows.readFault tidy deep]
  | buffer => rfl

namespace TaggedSum

variable {sum : TaggedSum α} {name : String} {shape : Shape α}

/-- After the tag all else is buffered. -/
theorem findTag_some {origin : Origin} {room stop : Nat} : ∀ {nodes : Members}
    {listed : List (String × Json)}, MembersShow nodes listed → sum.tag ∉ listed.map Prod.fst →
      (∀ member ∈ listed, member.2.Tidy Fits ∧ member.2.depth ≤ room) →
        sum.findTag origin room (.closed stop) nodes (some shape) = .ok shape
  | _, _, .nil, _, _ => rfl
  | _, _, .cons named first more, absent, whole => by
      rw [List.map_cons, List.mem_cons, not_or] at absent
      rw [List.forall_mem_cons] at whole
      rw [findTag, named, ok_bind, if_neg (Ne.symm absent.1),
        buffer_eq_ok first whole.1.1 whole.1.2, ok_bind]
      exact findTag_some more absent.2 whole.2

/-- The tag is found wherever it stands. -/
theorem findTag_none {origin : Origin} {room stop : Nat}
    (known : sum.variants.lookup name = some shape) : ∀ {nodes : Members}
    {listed : List (String × Json)}, MembersShow nodes listed → (listed.map Prod.fst).Nodup →
      (sum.tag, .string name) ∈ listed →
      (∀ member ∈ listed, member.2.Tidy Fits ∧ member.2.depth ≤ room) →
        sum.findTag origin room (.closed stop) nodes none = .ok shape
  | _, (given, _) :: _, .cons named first more, distinct, there, whole => by
      rw [List.map_cons, List.nodup_cons] at distinct
      rw [List.forall_mem_cons] at whole
      rw [findTag, named, ok_bind]
      rcases List.mem_cons.mp there with same | later
      · cases same
        have chosen := Decoder.reads_tag known origin room _ first whole.1.2
        rw [if_pos rfl, Option.isSome_none, if_neg Bool.false_ne_true, chosen, ok_bind]
        exact findTag_some more distinct.1 whole.2
      · have differs : given ≠ sum.tag := fun same =>
          distinct.1 (List.mem_map.mpr ⟨_, later, same.symm⟩)
        rw [if_neg differs, buffer_eq_ok first whole.1.1 whole.1.2, ok_bind]
        exact findTag_none known more distinct.2 later whole.2

/-- The members beside the tag. -/
theorem show_filter : ∀ {nodes : Members} {listed : List (String × Json)}, MembersShow nodes listed →
    MembersShow (nodes.filter (!sum.isTag ·)) (listed.filter (·.1 ≠ sum.tag))
  | _, _, .nil => .nil
  | (key, node, leaving) :: nodes, (given, value) :: rest, .cons named first more => by
      have others := show_filter more
      have isTag : sum.isTag (key, node, leaving) = decide (given = sum.tag) := by
        unfold isTag
        dsimp only
        rw [named]
      by_cases same : given = sum.tag
      · rw [List.filter_cons_of_neg (by rw [isTag, decide_eq_true same]; decide),
          List.filter_cons_of_neg (by rw [decide_eq_true_eq]; exact not_not_intro same)]
        exact others
      · rw [List.filter_cons_of_pos (by rw [isTag, decide_eq_false same]; rfl),
          List.filter_cons_of_pos (by rw [decide_eq_true_eq]; exact same)]
        exact .cons named first others

/-- **A tagged value is read from an object** if its shape is read from the members beside the
tag. -/
theorem reads {a : α} (known : sum.variants.lookup name = some shape)
    (tidy : (Json.object ((sum.tag, .string name) :: members)).Tidy Fits)
    (reads : shape.Reads members a) :
    sum.decoder.Reads (.object ((sum.tag, .string name) :: members)) a := by
  intro origin room node shows deep
  obtain ⟨distinct, tidy⟩ := tidy
  cases shows with
  | @object start opened stop nodes listed _ shown order =>
      rw [depth] at deep
      have below := depthMembers_le.mp (Nat.le_sub_one_of_lt deep)
      have whole : ∀ member ∈ listed, member.2.Tidy Fits ∧ member.2.depth ≤ room - 1 := by
        intro member there
        have given := order.mem_iff.mp there
        exact ⟨tidyMembers_iff.mp tidy member given, below member given⟩
      have found : sum.findTag origin (room - 1) (.closed stop) nodes none = .ok shape :=
        findTag_none known shown ((order.map Prod.fst).nodup_iff.mpr distinct)
          (order.mem_iff.mpr List.mem_cons_self) whole
      have beside : (listed.filter (·.1 ≠ sum.tag)).Perm members := by
        have kept := order.filter (·.1 ≠ sum.tag)
        rw [List.map_cons, List.nodup_cons] at distinct
        have others : members.filter (·.1 ≠ sum.tag) = members := by
          refine List.filter_eq_self.mpr fun member there => ?_
          rw [decide_eq_true_eq]
          exact fun same => distinct.1 (List.mem_map.mpr ⟨member, there, same⟩)
        rwa [List.filter_cons_of_neg (by simp), others] at kept
      rw [List.forall_mem_cons] at below
      have read := reads .buffer (room - 1) stop _ _ (show_filter shown) beside below.2
      rw [decoder, enter_eq_ok (Nat.lt_of_lt_of_le (Nat.succ_pos _) deep), ok_bind, found, ok_bind,
        read, unplaced_ok]

/-- A tagged record is read from an object if its fields are read from the members. -/
theorem reads_record {record : Record α} {values : Values record.types} {a : α}
    (known : sum.variants.lookup name = some record.shape)
    (keysDistinct : record.fields.keys.Nodup)
    (tidy : (Json.object ((sum.tag, .string name) :: members)).Tidy Fits)
    (reads : record.fields.Reads members values) (built : record.build values = a) :
    sum.decoder.Reads (.object ((sum.tag, .string name) :: members)) a :=
  sum.reads known tidy (Record.shape_reads keysDistinct (List.nodup_cons.mp tidy.1).2 reads built)

end TaggedSum

namespace ContentSum

variable {sum : ContentSum α} {name : String} {variant : Content α} {a : α}

section

variable {ending : Ending} {key : Key} {node : Node} {leaving : Leaving} {rest : Members}

theorem nextMember_tag (named : key.value = .ok sum.tag) :
    sum.nextMember ending ((key, node, leaving) :: rest)
      = .ok (some (.tag, key, node, leaving, rest)) := by
  rw [nextMember, named]
  exact if_pos rfl

theorem nextMember_content (roles : sum.content ≠ sum.tag) (named : key.value = .ok sum.content) :
    sum.nextMember ending ((key, node, leaving) :: rest)
      = .ok (some (.content, key, node, leaving, rest)) := by
  rw [nextMember, named]
  exact (if_neg roles).trans (if_pos rfl)

variable {origin : Origin} {room stop : Nat}

theorem ofMembers_tag (named : key.value = .ok sum.tag)
    (chosen : Decoder.enum sum.variants origin room node = .ok variant) :
    sum.ofMembers origin room ending ((key, node, leaving) :: rest)
      = sum.tagFirst origin room ending variant rest := by
  unfold ofMembers
  rw [nextMember_tag named, ok_bind]
  dsimp only
  rw [chosen, placedAt_ok, ok_bind]

theorem unrepeated_nil : sum.unrepeated (.closed stop) [] a = .ok a := rfl

theorem tagFirst_nil (absent : variant.absent = some a) :
    sum.tagFirst origin room (.closed stop) variant [] = .ok a := by
  have none' : sum.nextMember (.closed stop) [] = .ok none := rfl
  unfold tagFirst
  rw [none', ok_bind]
  dsimp only
  rw [absent]
  rfl

theorem tagFirst_eq_ok (roles : sum.content ≠ sum.tag) (named : key.value = .ok sum.content)
    (read : variant.decode origin room node = .ok a) :
    sum.tagFirst origin room (.closed stop) variant [(key, node, leaving)] = .ok a := by
  unfold tagFirst
  rw [nextMember_content roles named, ok_bind]
  dsimp only
  rw [read, placedAt_ok, ok_bind, unrepeated_nil]

theorem contentFirst_eq_ok {content : Node} (buffered : buffer origin room content = .ok ())
    (named : key.value = .ok sum.tag)
    (chosen : Decoder.enum sum.variants origin room node = .ok variant)
    (read : variant.decode .buffer room content = .ok a) :
    sum.contentFirst origin room (.closed stop) content [(key, node, leaving)] = .ok a := by
  unfold contentFirst
  rw [buffered, ok_bind, nextMember_tag named, ok_bind]
  dsimp only
  rw [chosen, placedAt_ok, ok_bind, read, unplaced_ok, placedAt_ok, ok_bind, unrepeated_nil]

end

/-- **A value with a tag and a content is read** if its content is. -/
theorem reads {value : Json} (roles : sum.content ≠ sum.tag)
    (known : sum.variants.lookup name = some variant)
    (tidy : value.Tidy Fits) (reads : variant.decode.Reads value a) :
    sum.decoder.Reads (.object [(sum.tag, .string name), (sum.content, value)]) a := by
  intro origin room node shows deep
  cases shows with
  | @object start opened stop nodes listed _ shown order =>
      rw [depth] at deep
      have below := depthMembers_le.mp (Nat.le_sub_one_of_lt deep)
      have contentDeep : value.depth ≤ room - 1 :=
        below (sum.content, value) (List.mem_cons_of_mem _ List.mem_cons_self)
      rw [decoder, enter_eq_ok (Nat.lt_of_lt_of_le (Nat.succ_pos _) deep), ok_bind]
      rcases List.perm_pair.mp order with rfl | rfl
      · obtain _ | ⟨tagNamed, tagShows, _ | ⟨contentNamed, contentShows, ⟨⟩⟩⟩ := shown
        have chosen := Decoder.reads_enum known origin (room - 1) _ tagShows (Nat.zero_le _)
        have read := reads origin (room - 1) _ contentShows contentDeep
        rw [ofMembers_tag tagNamed chosen]
        exact tagFirst_eq_ok roles contentNamed read
      · obtain _ | ⟨contentNamed, contentShows, _ | ⟨tagNamed, tagShows, ⟨⟩⟩⟩ := shown
        have buffered := @buffer_eq_ok origin _ _ _ contentShows tidy contentDeep
        have chosen := Decoder.reads_enum known origin (room - 1) _ tagShows (Nat.zero_le _)
        have read := reads .buffer (room - 1) _ contentShows contentDeep
        unfold ofMembers
        rw [nextMember_content roles contentNamed, ok_bind]
        exact contentFirst_eq_ok buffered tagNamed chosen read

/-- A variant without content is read from its tag. -/
theorem reads_absent (known : sum.variants.lookup name = some variant)
    (absent : variant.absent = some a) :
    sum.decoder.Reads (.object [(sum.tag, .string name)]) a := by
  intro origin room node shows deep
  cases shows with
  | @object start opened stop nodes listed _ shown order =>
      rw [depth] at deep
      rw [decoder, enter_eq_ok (Nat.lt_of_lt_of_le (Nat.succ_pos _) deep), ok_bind]
      obtain rfl := order.eq_singleton
      obtain _ | ⟨tagNamed, tagShows, ⟨⟩⟩ := shown
      have chosen := Decoder.reads_enum known origin (room - 1) _ tagShows (Nat.zero_le _)
      rw [ofMembers_tag tagNamed chosen]
      exact tagFirst_nil absent

end ContentSum

end

end ArgumentGuards.Json
