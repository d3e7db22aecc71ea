import ArgumentGuards.Json.Outline.Scanner
import Mathlib

/-!
# What an outline shows

An outline shows a value if it has nothing wrong and its values are those of the value, where the
order of an object's members does not count. That is all that a reader with keys to look for can
see, and so it does not tell a value from its canonical form (`Shows.of_canonical`).

Two things are asked of values. A value that is read whole may be nested only so deep, and has only
integers that fit 64 bits. An outline shows longer integers too: whoever passes over a numeral does
not mind its length.
-/

namespace ArgumentGuards.Json

/-! ## Values -/

mutual

/-- The levels of arrays and objects inside one another. -/
def depth : Json → Nat
  | .array items => depthItems items + 1
  | .object members => depthMembers members + 1
  | .null => 0
  | .bool _ => 0
  | .number _ => 0
  | .string _ => 0

/-- The levels in the items of an array. -/
def depthItems : List Json → Nat
  | [] => 0
  | item :: rest => max item.depth (depthItems rest)

/-- The levels in the members of an object. -/
def depthMembers : List (String × Json) → Nat
  | [] => 0
  | (_, value) :: rest => max value.depth (depthMembers rest)

end

theorem depthItems_le {items : List Json} {room : Nat} :
    depthItems items ≤ room ↔ ∀ item ∈ items, item.depth ≤ room := by
  induction items with
  | nil => simp [depthItems]
  | cons item rest ih => simp only [depthItems, Nat.max_le, ih, List.forall_mem_cons]

theorem depthMembers_le {members : List (String × Json)} {room : Nat} :
    depthMembers members ≤ room ↔ ∀ member ∈ members, member.2.depth ≤ room := by
  induction members with
  | nil => simp [depthMembers]
  | cons member rest ih =>
      obtain ⟨key, value⟩ := member
      simp only [depthMembers, Nat.max_le, ih, List.forall_mem_cons]

/-- Whether an integer is of at most 64 bits. -/
def Fits (n : Int) : Prop := -2 ^ 63 ≤ n ∧ n < 2 ^ 64

mutual

/-- Whether numbers are integers of some kind, and every key of an object is there once. -/
def Tidy (kind : Int → Prop) : Json → Prop
  | .number (.integer n) => kind n
  | .number (.real _) => False
  | .array items => TidyItems kind items
  | .object members => (members.map Prod.fst).Nodup ∧ TidyMembers kind members
  | .null => True
  | .bool _ => True
  | .string _ => True

/-- Whether the items of an array are tidy. -/
def TidyItems (kind : Int → Prop) : List Json → Prop
  | [] => True
  | item :: rest => item.Tidy kind ∧ TidyItems kind rest

/-- Whether the values of an object are tidy. -/
def TidyMembers (kind : Int → Prop) : List (String × Json) → Prop
  | [] => True
  | (_, value) :: rest => value.Tidy kind ∧ TidyMembers kind rest

end

section

variable {kind : Int → Prop}

theorem tidyItems_iff {items : List Json} :
    TidyItems kind items ↔ ∀ item ∈ items, item.Tidy kind := by
  induction items with
  | nil => simp [TidyItems]
  | cons item rest ih => simp only [TidyItems, ih, List.forall_mem_cons]

theorem tidyMembers_iff {members : List (String × Json)} :
    TidyMembers kind members ↔ ∀ member ∈ members, member.2.Tidy kind := by
  induction members with
  | nil => simp [TidyMembers]
  | cons member rest ih =>
      obtain ⟨key, value⟩ := member
      simp only [TidyMembers, ih, List.forall_mem_cons]

mutual

theorem Tidy.mono {other : Int → Prop} (h : ∀ n, kind n → other n) :
    ∀ {j : Json}, j.Tidy kind → j.Tidy other
  | .number (.integer n), tidy => h n tidy
  | .array _, tidy => TidyItems.mono h tidy
  | .object _, tidy => ⟨tidy.1, TidyMembers.mono h tidy.2⟩
  | .null, _ => trivial
  | .bool _, _ => trivial
  | .string _, _ => trivial

theorem TidyItems.mono {other : Int → Prop} (h : ∀ n, kind n → other n) :
    ∀ {items : List Json}, TidyItems kind items → TidyItems other items
  | [], _ => trivial
  | _ :: _, tidy => ⟨Tidy.mono h tidy.1, TidyItems.mono h tidy.2⟩

theorem TidyMembers.mono {other : Int → Prop} (h : ∀ n, kind n → other n) :
    ∀ {members : List (String × Json)}, TidyMembers kind members → TidyMembers other members
  | [], _ => trivial
  | _ :: _, tidy => ⟨Tidy.mono h tidy.1, TidyMembers.mono h tidy.2⟩

end

end

/-! ## Canonical forms -/

theorem insertMember_perm {key : String} {value : Json} {done : List (String × Json)}
    (fresh : key ∉ done.map Prod.fst) :
    (insertMember key value done).Perm ((key, value) :: done) := by
  induction done with
  | nil => exact .refl _
  | cons member rest ih =>
      obtain ⟨k, v⟩ := member
      rw [List.map_cons, List.mem_cons, not_or] at fresh
      rw [insertMember, if_neg fresh.1]
      split
      · exact .refl _
      · exact ((ih fresh.2).cons (k, v)).trans (.swap (key, value) (k, v) rest)

/-- A member with the canonical form of its value. -/
def canonicalMember (member : String × Json) : String × Json := (member.1, member.2.canonical)

theorem canonicalMembers_perm_append {members done : List (String × Json)}
    (distinct : ((members ++ done).map Prod.fst).Nodup) :
    (canonicalMembers members done).Perm (members.map canonicalMember ++ done) := by
  induction members generalizing done with
  | nil =>
      rw [canonicalMembers]
      exact .refl _
  | cons member rest ih =>
      obtain ⟨key, value⟩ := member
      rw [canonicalMembers]
      rw [List.cons_append, List.map_cons, List.nodup_cons] at distinct
      obtain ⟨fresh, others⟩ := distinct
      have inserted : (insertMember key value.canonical done).Perm
          ((key, value.canonical) :: done) := by
        refine insertMember_perm fun there => fresh ?_
        rw [List.map_append]
        exact List.mem_append_right _ there
      have moved : (rest ++ insertMember key value.canonical done).Perm
          ((key, value.canonical) :: (rest ++ done)) :=
        (inserted.append_left rest).trans List.perm_middle
      have keys : ((rest ++ insertMember key value.canonical done).map Prod.fst).Nodup := by
        refine (moved.map Prod.fst).nodup_iff.mpr ?_
        exact List.nodup_cons.mpr ⟨fresh, others⟩
      exact (ih keys).trans ((inserted.append_left _).trans List.perm_middle)

/-- **The canonical form of an object has the canonical forms of its members,** in some order. -/
theorem canonicalMembers_perm {members : List (String × Json)}
    (distinct : (members.map Prod.fst).Nodup) :
    (canonicalMembers members []).Perm (members.map canonicalMember) := by
  have h := @canonicalMembers_perm_append members []
  rw [List.append_nil, List.append_nil] at h
  exact h distinct

/-- Canonical forms have no other numbers, and keys stay distinct. -/
theorem tidy_canonicalMembers {kind : Int → Prop} {members : List (String × Json)}
    (distinct : (members.map Prod.fst).Nodup)
    (values : ∀ member ∈ members, member.2.canonical.Tidy kind) :
    (Json.object (canonicalMembers members [])).Tidy kind := by
  have order := canonicalMembers_perm distinct
  have keys : (members.map canonicalMember).map Prod.fst = members.map Prod.fst := by
    rw [List.map_map]
    rfl
  refine ⟨(order.map Prod.fst).nodup_iff.mpr (keys ▸ distinct), tidyMembers_iff.mpr ?_⟩
  intro member there
  obtain ⟨given, isGiven, rfl⟩ := List.mem_map.mp (order.mem_iff.mp there)
  exact values given isGiven

mutual

theorem Tidy.canonical {kind : Int → Prop} : ∀ {j : Json}, j.Tidy kind → j.canonical.Tidy kind
  | .number (.integer _), tidy => tidy
  | .array _, tidy => TidyItems.canonical tidy
  | .object _, tidy => tidy_canonicalMembers tidy.1 (TidyMembers.canonical tidy.2)
  | .null, _ => trivial
  | .bool _, _ => trivial
  | .string _, _ => trivial

theorem TidyItems.canonical {kind : Int → Prop} :
    ∀ {items : List Json}, TidyItems kind items → TidyItems kind (canonicalItems items)
  | [], _ => trivial
  | _ :: _, tidy => ⟨tidy.1.canonical, TidyItems.canonical tidy.2⟩

theorem TidyMembers.canonical {kind : Int → Prop} :
    ∀ {members : List (String × Json)}, TidyMembers kind members →
      ∀ member ∈ members, member.2.canonical.Tidy kind
  | [], _ => List.forall_mem_nil _
  | (_, _) :: _, tidy => List.forall_mem_cons.mpr ⟨tidy.1.canonical, TidyMembers.canonical tidy.2⟩

end

/-! ## Outlines -/

mutual

/-- The outline shows the value. -/
inductive Node.Shows : Node → Json → Prop where
  | null {start stop : Nat} : Node.Shows (.null start stop) .null
  | bool {b : Bool} {start stop : Nat} : Node.Shows (.bool b start stop) (.bool b)
  /-- An integer that does not fit shows as some other number, or not at all. -/
  | number {value : Except Fault Number} {start stop : Nat} {n : Int}
      (exact : Fits n → value = .ok (.integer n)) : Node.Shows (.number value start stop) (.int n)
  | string {text : String} {start stop : Nat} :
      Node.Shows (.string (.ok text) start stop) (.string text)
  | array {start opened stop : Nat} {nodes : Items} {items : List Json}
      (shown : ItemsShow nodes items) :
      Node.Shows (.array start opened nodes (.closed stop)) (.array items)
  /-- The members stand in any order. -/
  | object {start opened stop : Nat} {nodes : Members} {listed members : List (String × Json)}
      (shown : MembersShow nodes listed) (order : listed.Perm members) :
      Node.Shows (.object start opened nodes (.closed stop)) (.object members)

/-- The outlines show the values one by one. -/
inductive ItemsShow : Items → List Json → Prop where
  | nil : ItemsShow [] []
  | cons {node : Node} {leaving : Leaving} {nodes : Items} {item : Json} {rest : List Json}
      (first : node.Shows item) (more : ItemsShow nodes rest) :
      ItemsShow ((node, leaving) :: nodes) (item :: rest)

/-- The outlines show the keys and values one by one. -/
inductive MembersShow : Members → List (String × Json) → Prop where
  | nil : MembersShow [] []
  | cons {key : Key} {node : Node} {leaving : Leaving} {nodes : Members} {name : String}
      {value : Json} {rest : List (String × Json)} (named : key.value = .ok name)
      (first : node.Shows value) (more : MembersShow nodes rest) :
      MembersShow ((key, node, leaving) :: nodes) ((name, value) :: rest)

end

mutual

/-- Nothing is wrong with the outline for a reader that passes over it. -/
theorem Node.Shows.skipFault : ∀ {node : Node} {j : Json}, node.Shows j → node.skipFault? = none
  | _, _, .null => rfl
  | _, _, .bool => rfl
  | _, _, .number _ => rfl
  | _, _, .string => rfl
  | _, _, .array items => by
      rw [Node.skipFault?, items.skipFault]
      rfl
  | _, _, .object members _ => by
      rw [Node.skipFault?, members.skipFault]
      rfl

theorem ItemsShow.skipFault : ∀ {nodes : Items} {items : List Json}, ItemsShow nodes items →
    skipItemsFault? nodes = none
  | _, _, .nil => rfl
  | _, _, .cons first more => by
      rw [skipItemsFault?, first.skipFault, more.skipFault]
      rfl

theorem MembersShow.skipFault : ∀ {nodes : Members} {members : List (String × Json)},
    MembersShow nodes members → skipMembersFault? nodes = none
  | _, _, .nil => rfl
  | _, _, .cons _ first more => by
      rw [skipMembersFault?, first.skipFault, more.skipFault]
      rfl

end

mutual

/-- **Nothing is wrong with the outline for a reader that reads it whole,** if the value is nested no
deeper than there is room. -/
theorem Node.Shows.readFault : ∀ {node : Node} {j : Json} {room : Nat}, node.Shows j →
    j.Tidy Fits → j.depth ≤ room → node.readFault? room = none
  | _, _, _, .null, _, _ => rfl
  | _, _, _, .bool, _, _ => rfl
  | _, _, _, .number exact, tidy, _ => by
      rw [exact tidy]
      rfl
  | _, _, _, .string, _, _ => rfl
  | _, _, _, .array items, tidy, fits => by
      rw [depth] at fits
      have left : depthItems _ ≤ _ - 1 := Nat.le_sub_one_of_lt fits
      rw [Node.readFault?, if_neg (Nat.ne_of_gt (Nat.lt_of_lt_of_le (Nat.succ_pos _) fits)),
        items.readFault (tidyItems_iff.mp tidy) (depthItems_le.mp left)]
      rfl
  | _, _, _, .object members order, tidy, fits => by
      rw [depth] at fits
      have left : depthMembers _ ≤ _ - 1 := Nat.le_sub_one_of_lt fits
      have values := tidyMembers_iff.mp tidy.2
      have depths := depthMembers_le.mp left
      rw [Node.readFault?, if_neg (Nat.ne_of_gt (Nat.lt_of_lt_of_le (Nat.succ_pos _) fits)),
        members.readFault (fun member there => values member (order.mem_iff.mp there))
          fun member there => depths member (order.mem_iff.mp there)]
      rfl

theorem ItemsShow.readFault : ∀ {nodes : Items} {items : List Json} {room : Nat},
    ItemsShow nodes items → (∀ item ∈ items, item.Tidy Fits) →
    (∀ item ∈ items, item.depth ≤ room) → readItemsFault? room nodes = none
  | _, _, _, .nil, _, _ => rfl
  | _, _, _, .cons first more, tidy, depths => by
      rw [List.forall_mem_cons] at tidy depths
      rw [readItemsFault?, first.readFault tidy.1 depths.1, more.readFault tidy.2 depths.2]
      rfl

theorem MembersShow.readFault : ∀ {nodes : Members} {members : List (String × Json)} {room : Nat},
    MembersShow nodes members → (∀ member ∈ members, member.2.Tidy Fits) →
    (∀ member ∈ members, member.2.depth ≤ room) → readMembersFault? room nodes = none
  | _, _, _, .nil, _, _ => rfl
  | _, _, _, .cons named first more, tidy, depths => by
      rw [List.forall_mem_cons] at tidy depths
      rw [readMembersFault?, named, first.readFault tidy.1 depths.1,
        more.readFault tidy.2 depths.2]
      rfl

end

theorem exists_map_of_perm {α β : Type} {f : α → β} {listed : List β} {given : List α}
    (h : listed.Perm (given.map f)) : ∃ before : List α, listed = before.map f ∧ before.Perm given :=
  (congrFun (congrFun (List.eq_map_comp_perm f) listed) given).mpr h

mutual

theorem Node.Shows.of_eq_canonical {kind : Int → Prop} : ∀ {node : Node} {shown : Json},
    node.Shows shown → ∀ {j : Json}, shown = j.canonical → j.Tidy kind → node.Shows j
  | _, _, .null, .null, _, _ => .null
  | _, _, .bool, .bool _, rfl, _ => .bool
  | _, _, .number exact, .number _, same, _ => by
      cases same
      exact .number exact
  | _, _, .string, .string _, rfl, _ => .string
  | _, _, .array items, .array given, same, tidy => by
      rw [canonical, Json.array.injEq] at same
      exact .array (items.of_eq_canonical same tidy)
  | _, _, .object members order, .object given, same, tidy => by
      rw [canonical, Json.object.injEq] at same
      -- what is listed are canonical members, and these of the given ones in the same order
      have listed : List.Perm _ (given.map canonicalMember) :=
        (same ▸ order).trans (canonicalMembers_perm tidy.1)
      obtain ⟨before, rfl, reordered⟩ := exists_map_of_perm listed
      have values := tidyMembers_iff.mp tidy.2
      exact .object (members.of_eq_canonical rfl fun member there =>
        values member (reordered.mem_iff.mp there)) reordered

theorem ItemsShow.of_eq_canonical {kind : Int → Prop} : ∀ {nodes : Items} {shown : List Json},
    ItemsShow nodes shown → ∀ {items : List Json}, shown = canonicalItems items →
      TidyItems kind items → ItemsShow nodes items
  | _, _, .nil, [], _, _ => .nil
  | _, _, .cons first more, _ :: _, same, tidy => by
      rw [canonicalItems, List.cons.injEq] at same
      exact .cons (first.of_eq_canonical same.1 tidy.1) (more.of_eq_canonical same.2 tidy.2)

theorem MembersShow.of_eq_canonical {kind : Int → Prop} :
    ∀ {nodes : Members} {shown : List (String × Json)}, MembersShow nodes shown →
      ∀ {members : List (String × Json)}, shown = members.map canonicalMember →
        (∀ member ∈ members, member.2.Tidy kind) → MembersShow nodes members
  | _, _, .nil, [], _, _ => .nil
  | _, _, .cons named first more, (_, _) :: _, same, tidy => by
      rw [List.map_cons, List.cons.injEq, canonicalMember, Prod.mk.injEq] at same
      rw [List.forall_mem_cons] at tidy
      obtain ⟨⟨rfl, value⟩, rest⟩ := same
      exact .cons named (first.of_eq_canonical value tidy.1) (more.of_eq_canonical rest tidy.2)

end

/-- **An outline of the canonical form shows the value.** -/
theorem Node.Shows.of_canonical {kind : Int → Prop} {node : Node} {j : Json}
    (shows : node.Shows j.canonical) (tidy : j.Tidy kind) : node.Shows j :=
  shows.of_eq_canonical rfl tidy

end ArgumentGuards.Json
