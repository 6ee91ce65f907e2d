import Mathlib.Data.String.Basic
import QueryGrading.Json.Printer
import QueryGrading.Json.Source

/-!
# JSON values

What is used of JSON values in general: a text of a value is never empty, and a value is a primitive
or else a list or an object of smaller values, by which properties of all values are proved
(`Json.induction`). `primitives` lists the primitives in the order of the text. For the members of
an object that is the order of their keys, in every value that was read from a text
(`ascending_of_parse`).

In the program an object is a map that keeps its keys in order, and that a key occurs once there is
a property of the type. Here an object is a list of members, which `Members.put` keeps in order, so
what the order is has to be proved for the values that reading gives.
-/

namespace QueryGrading

/-! ## 1. The text of a value is not empty

A leaf is told from a node by its text, so a primitive must not be written as nothing. -/

/-- However a number is laid out, there is a digit. -/
theorem RealLayout.plain_ne_nil (s : Decimal.Scientific) : RealLayout.plain s ≠ [] := by
  unfold RealLayout.plain
  split_ifs <;> simp

/-- With an exponent as well. -/
theorem RealLayout.scientific_ne_nil (s : Decimal.Scientific) (lead : Int) :
    RealLayout.scientific s lead ≠ [] := by
  unfold RealLayout.scientific
  dsimp only
  split <;> simp

/-- So the text of a number is not empty. -/
theorem JsonNumber.text_ne_empty (n : JsonNumber) : n.text ≠ "" := by
  intro h
  have hnil : n.text.toList = [] := by rw [h]; rfl
  cases n with
  | integer n =>
    simp only [JsonNumber.text, Int.toString_eq_repr, Int.repr_eq_if] at hnil
    split at hnil
    · exact Nat.toDigits_ne_nil (Nat.toList_repr.symm.trans hnil)
    · simp at hnil
  | real x =>
    simp only [JsonNumber.text, RealLayout.write, String.toList_ofList] at hnil
    split_ifs at hnil
    · exact RealLayout.plain_ne_nil _ hnil
    · exact RealLayout.scientific_ne_nil _ _ hnil

/-- Nor is that of any value. -/
theorem Json.compact_ne_empty (v : Json) : v.compact ≠ "" := by
  cases v with
  | number n => exact n.text_ne_empty
  | null => decide
  | bool b => cases b <;> decide
  | string s => simp [compact, quote]
  | array items => simp [compact]
  | object members => simp [compact]

/-! ## 2. The primitives of a value

What a tree can show of a value is said of the value itself, without a look at how the tree is
built. -/

namespace Json

/-- A value without parts. -/
def isPrimitive : Json → Bool
  | .array _ => false
  | .object _ => false
  | _ => true

/-- What holds of every primitive, and of a list and an object if it holds of all that is in them,
holds of every value. -/
theorem induction {P : Json → Prop} (primitive : ∀ v : Json, v.isPrimitive = true → P v)
    (array : ∀ items : List Json, (∀ v ∈ items, P v) → P (.array items))
    (object : ∀ members : Members, (∀ m ∈ members, P m.2) → P (.object members)) : ∀ v, P v
  | .null => primitive .null rfl
  | .bool b => primitive (.bool b) rfl
  | .number n => primitive (.number n) rfl
  | .string s => primitive (.string s) rfl
  | .array items => array items fun v _ => induction primitive array object v
  | .object members => object members fun m _ => induction primitive array object m.2
termination_by v => sizeOf v
decreasing_by
  · next hv =>
    have := List.sizeOf_lt_of_mem hv
    simp only [Json.array.sizeOf_spec]
    omega
  · next hm =>
    have := List.sizeOf_lt_of_mem hm
    cases m
    simp only [Json.object.sizeOf_spec, Prod.mk.sizeOf_spec] at *
    omega

mutual
/-- The primitives of a value in the order of its text, each with the key of the member that it is
the value of; an item of a list and a whole value have no key. -/
def primitives (key : Option String) : Json → List (Option String × Json)
  | .array items => itemPrimitives items
  | .object members => memberPrimitives members
  | .null => [(key, .null)]
  | .bool b => [(key, .bool b)]
  | .number n => [(key, .number n)]
  | .string s => [(key, .string s)]

/-- The primitives of some items. -/
def itemPrimitives : List Json → List (Option String × Json)
  | [] => []
  | item :: rest => item.primitives none ++ itemPrimitives rest

/-- The primitives of some members. -/
def memberPrimitives : List (String × Json) → List (Option String × Json)
  | [] => []
  | (key, value) :: rest => value.primitives (some key) ++ memberPrimitives rest
end

variable {v : Json}

/-- A primitive is its only one. -/
theorem primitives_of_isPrimitive (hv : v.isPrimitive = true) (key : Option String) :
    v.primitives key = [(key, v)] := by
  cases v <;> first | rfl | cases hv

/-- What is in an object or a list has keys of its own or none. -/
theorem primitives_of_not_isPrimitive (hv : v.isPrimitive = false) (key : Option String) :
    v.primitives key = v.primitives none := by
  cases v <;> first | rfl | cases hv

end Json

/-! ## 3. The order of members

Members are kept in a map that is ordered by key. The reader sets one key after another, and the
order is kept at each step. -/

namespace Members

variable {key : String} {v : Json} {members : Members}

/-- A member of an object in which a key was set is the new one or an old one. -/
theorem mem_put {m : String × Json} (h : m ∈ put key v members) : m = (key, v) ∨ m ∈ members := by
  induction members with
  | nil => exact Or.inl (List.mem_singleton.mp h)
  | cons n members ih =>
    rw [put] at h
    split_ifs at h with hlt heq
    · exact List.mem_cons.mp h
    · exact (List.mem_cons.mp h).imp_right (List.mem_cons_of_mem n)
    · rcases List.mem_cons.mp h with rfl | h
      · exact Or.inr List.mem_cons_self
      · exact (ih h).imp_right (List.mem_cons_of_mem n)

/-- A key that is set comes before the greater ones and behind the smaller ones. -/
theorem pairwise_put (key : String) (v : Json) (h : members.Pairwise fun m n => m.1 < n.1) :
    (put key v members).Pairwise fun m n => m.1 < n.1 := by
  induction members with
  | nil => exact List.pairwise_singleton _ _
  | cons n members ih =>
    obtain ⟨hn, hmembers⟩ := List.pairwise_cons.mp h
    rw [put]
    split_ifs with hlt heq
    · refine List.pairwise_cons.mpr ⟨fun m hm => ?_, h⟩
      rcases List.mem_cons.mp hm with rfl | hm
      · exact hlt
      · exact lt_trans hlt (hn m hm)
    · subst heq
      exact List.pairwise_cons.mpr ⟨hn, hmembers⟩
    · refine List.pairwise_cons.mpr ⟨fun m hm => ?_, ih hmembers⟩
      rcases mem_put hm with rfl | hm
      · exact lt_of_le_of_ne (not_lt.mp hlt) (Ne.symm heq)
      · exact hn m hm

end Members

namespace Json

/-- In every object of a value the keys ascend. -/
inductive Ascending : Json → Prop
  | primitive {v : Json} (hv : v.isPrimitive = true) : Ascending v
  | array {items : List Json} (hitems : ∀ v ∈ items, Ascending v) : Ascending (.array items)
  | object {members : Members} (hkeys : members.Pairwise fun m n => m.1 < n.1)
      (hmembers : ∀ m ∈ members, Ascending m.2) : Ascending (.object members)

/-- A member that is set keeps the order. -/
theorem Ascending.put {key : String} {v : Json} {members : Members} (hv : v.Ascending)
    (h : (Json.object members).Ascending) : (Json.object (members.put key v)).Ascending := by
  cases h with
  | primitive h => cases h
  | object hkeys hmembers =>
    refine .object (Members.pairwise_put key v hkeys) fun m hm => ?_
    rcases Members.mem_put hm with rfl | hm
    · exact hv
    · exact hmembers m hm

theorem ascending_foldl_put {pairs : List (String × Json)} (hpairs : ∀ p ∈ pairs, p.2.Ascending)
    {members : Members} (h : (Json.object members).Ascending) :
    (Json.object (pairs.foldl (fun ms p => Members.put p.1 p.2 ms) members)).Ascending := by
  induction pairs generalizing members with
  | nil => exact h
  | cons p pairs ih =>
    have hp : p.2.Ascending := hpairs p List.mem_cons_self
    exact ih (fun q hq => hpairs q (List.mem_cons_of_mem p hq)) (hp.put h)

theorem ascending_ofMembers {pairs : List (String × Json)} (h : ∀ p ∈ pairs, p.2.Ascending) :
    (Json.ofMembers pairs).Ascending :=
  ascending_foldl_put h (.object List.Pairwise.nil nofun)

/-- What a computation gives is what its last step gives. -/
theorem exists_of_bind_eq_ok {ε α β : Type} {x : Except ε α} {f : α → Except ε β} {b : β}
    (h : (x >>= f) = .ok b) : ∃ a, x = .ok a ∧ f a = .ok b := by
  cases x with
  | error e => cases h
  | ok a => exact ⟨a, rfl, h⟩

mutual
/-- A value that is read from a text is in order, by recursion on what was read. -/
theorem ascending_of_toJson : ∀ (s : Source) {depth : Nat} {v : Json},
    s.toJson depth = .ok v → v.Ascending
  | .null, _, _, h => by cases h; exact .primitive rfl
  | .bool b, _, _, h => by cases h; exact .primitive rfl
  | .number n, _, _, h => by cases h; exact .primitive rfl
  | .string s, _, _, h => by cases h; exact .primitive rfl
  | .unreadable fault, _, _, h => by cases h
  | .broken stop, _, _, h => by cases h
  | .array items ending, 0, _, h => by cases h
  -- the items are read first, and a list that breaks off is a fault
  | .array items ending, depth + 1, v, h => by
    obtain ⟨vs, hitems, h⟩ := exists_of_bind_eq_ok h
    cases ending with
    | some stop => cases h
    | none =>
      cases h
      exact .array (ascending_of_itemsToJson items hitems)
  | .object members ending, 0, _, h => by cases h
  | .object members ending, depth + 1, v, h => by
    obtain ⟨pairs, hmembers, h⟩ := exists_of_bind_eq_ok h
    cases ending with
    | some stop => cases h
    | none =>
      cases h
      exact ascending_ofMembers (ascending_of_membersToJson members hmembers)

theorem ascending_of_itemsToJson : ∀ (items : List Source) {depth : Nat} {vs : List Json},
    itemsToJson depth items = .ok vs → ∀ v ∈ vs, v.Ascending
  | [], _, _, h => by cases h; nofun
  | s :: items, depth, vs, h => by
    obtain ⟨v, hv, h⟩ := exists_of_bind_eq_ok h
    obtain ⟨rest, hrest, h⟩ := exists_of_bind_eq_ok h
    cases h
    exact List.forall_mem_cons.mpr
      ⟨ascending_of_toJson s hv, ascending_of_itemsToJson items hrest⟩

theorem ascending_of_membersToJson : ∀ (members : List (Except JsonFault String × Source))
    {depth : Nat} {pairs : List (String × Json)},
    membersToJson depth members = .ok pairs → ∀ p ∈ pairs, p.2.Ascending
  | [], _, _, h => by cases h; nofun
  | (key, s) :: members, depth, pairs, h => by
    obtain ⟨key, -, h⟩ := exists_of_bind_eq_ok h
    obtain ⟨v, hv, h⟩ := exists_of_bind_eq_ok h
    obtain ⟨rest, hrest, h⟩ := exists_of_bind_eq_ok h
    cases h
    exact List.forall_mem_cons.mpr
      ⟨ascending_of_toJson s hv, ascending_of_membersToJson members hrest⟩
end

/-- The members of every object of a text are in the order of their keys. -/
theorem ascending_of_parse {text : String} {v : Json} (h : Json.parse text = .ok v) :
    v.Ascending := by
  rw [Json.parse, Json.parseWithin] at h
  generalize Source.read text = read at h
  obtain ⟨source, rest⟩ := read
  obtain ⟨w, hw, h⟩ := exists_of_bind_eq_ok h
  split at h
  · cases h
    exact ascending_of_toJson source hw
  · cases h

end Json

end QueryGrading
