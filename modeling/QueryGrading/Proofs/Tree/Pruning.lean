import Mathlib.Logic.Relation
import QueryGrading.Proofs.Json.Value
import QueryGrading.Proofs.Tree.Nodes
import QueryGrading.Tree.OfJson

/-!
# What pruning leaves of a JSON value

A primitive becomes a leaf with its text (`build_children`), and a member of an object a node with
its key (`build_member`). Pruning (`prune`) takes the node of a member with a pruned key away and
puts its children there: of a primitive nothing is left then, and of an object or a list everything
below it (`prune_ofMember`). So what a tree shows is the primitives of its value in their order, but
for those that are the value of a member with such a key themselves (`shown_ofValue`).

The children of a node are pruned before the node is, so those that move up need no second look, and
no node keeps a pruned key (`sound_ofValue`). Both facts go by induction over the value, with a step
for one member and one for an item of a list. A member that leaves nothing may as well be absent:
`Json.Marked` puts one more of them anywhere into a value, and the tree stays the same
(`sameNodes_of_marked`).

`from_json` puts a root above the nodes of the value, which is not pruned and has no key. Numbers
are texts here as in the tree; that a value which was read has its members in the order of their
keys is a property of the reader, and stated beside the rest.
-/

namespace QueryGrading

namespace Tree

open Json (primitives itemPrimitives memberPrimitives)

variable {v w : Json} {key : String} {f g : List Tree}

/-! ## 1. One member and one item

The nodes of a value are built member by member and pruned afterwards. The lemmas give the pruned
nodes of a member and of an item directly. -/

/-- A primitive is one leaf without a key. -/
theorem ofValue_of_isPrimitive (hv : v.isPrimitive = true) : ofValue v = [leaf "" v.compact] := by
  cases v <;> first | rfl | cases hv

/-- A member with a primitive is one leaf under its key. -/
theorem ofMember_of_isPrimitive (hv : v.isPrimitive = true) (key : String) :
    ofMember key v = leaf key v.compact := by
  cases v <;> first | rfl | cases hv

/-- Any other member is a node with what is in its value. -/
theorem ofMember_of_not_isPrimitive (hv : v.isPrimitive = false) (key : String) :
    ofMember key v = node key "" (ofValue v) := by
  cases v <;> first | rfl | cases hv

/-- An item of a list stands before the others. -/
theorem ofItems_cons (i : Nat) (v : Json) (items : List Json) :
    ofItems i (v :: items) = ofItems i [v] ++ ofItems (i + 1) items := by
  cases v <;> simp [ofItems]

/-- An item adds what is in it; around a list there is one more node. -/
theorem ofItems_singleton (i : Nat) (v : Json) :
    ofItems i [v] = ofValue v ∨ ofItems i [v] = [node (toString i) "" (ofValue v)] := by
  cases v with
  | array items => exact Or.inr rfl
  | null => exact Or.inl rfl
  | bool b => exact Or.inl rfl
  | number n => exact Or.inl rfl
  | string s => exact Or.inl rfl
  | object members => exact Or.inl (List.append_nil _)

/-- Pruning goes node by node. -/
theorem prune_append (f g : List Tree) : prune (f ++ g) = prune f ++ prune g :=
  List.flatMap_append

/-- A member with a pruned key leaves what is in its value; of a primitive nothing is left. -/
theorem prune_ofMember (key : String) (v : Json) :
    prune [ofMember key v] =
      if key ∈ prunedKeys then (if v.isPrimitive = true then [] else ofValue v)
      else [ofMember key v] := by
  cases hv : v.isPrimitive with
  | true =>
    rw [ofMember_of_isPrimitive hv, if_pos rfl]
    by_cases hkey : key ∈ prunedKeys <;> simp [prune, leaf, hkey]
  | false =>
    rw [ofMember_of_not_isPrimitive hv, if_neg Bool.false_ne_true]
    by_cases hkey : key ∈ prunedKeys <;> simp [prune, hkey]

theorem prune_ofMembers_cons (key : String) (v : Json) (members : Members) :
    prune (ofMembers ((key, v) :: members)) = prune [ofMember key v] ++ prune (ofMembers members) :=
  prune_append [ofMember key v] (ofMembers members)

/-! ## 2. No pruned key is left

Pruning one node lifts its children, which may be pruned again. The induction is over the value, and
says that what comes out needs no more pruning. -/

/-- No node of a forest has a pruned key, and those with a value have no children. -/
def Sound (f : List Tree) : Prop :=
  ∀ t ∈ forestNodes f, t.key ∉ prunedKeys ∧ (t.value ≠ "" → t.isLeaf = true)

theorem Sound.nil : Sound [] := by
  simp [Sound, forestNodes]

/-- Nodes side by side are sound if all are. -/
theorem Sound.append (hf : Sound f) (hg : Sound g) : Sound (f ++ g) := by
  intro t ht
  rw [forestNodes_append, List.mem_append] at ht
  exact ht.elim (hf t) (hg t)

theorem sound_leaf (hkey : key ∉ prunedKeys) (value : String) : Sound [leaf key value] := by
  intro t ht
  obtain rfl : t = leaf key value := by simpa [forestNodes, nodes, leaf] using ht
  exact ⟨hkey, fun _ => rfl⟩

/-- A node over sound nodes is sound if its key is not pruned. -/
theorem Sound.node (hkey : key ∉ prunedKeys) (hf : Sound f) : Sound [node key "" f] := by
  intro t ht
  rw [forestNodes_singleton, nodes, List.mem_append, List.mem_singleton] at ht
  rcases ht with ht | rfl
  · exact hf t ht
  · exact ⟨hkey, fun hvalue => absurd rfl hvalue⟩

theorem mem_forestNodes_of_mem {t : Tree} (h : t ∈ f) : t ∈ forestNodes f := by
  obtain ⟨pre, post, rfl⟩ := List.append_of_mem h
  simp [forestNodes_append, forestNodes, nodes_eq t]

/-- Where no key is pruned there is nothing to prune. -/
theorem Sound.prune_eq (h : Sound f) : prune f = f := by
  have hkept : ∀ t ∈ f, (if prunedKeys.contains t.key then t.children else [t]) = [t] := by
    intro t ht
    have hkey : t.key ∉ prunedKeys := (h t (mem_forestNodes_of_mem ht)).1
    rw [if_neg (by simpa using hkey)]
  rw [prune, List.flatMap_congr hkept, List.flatMap_singleton']

/-- A number is no pruned key. -/
theorem toString_not_mem_prunedKeys (i : Nat) : toString i ∉ prunedKeys := by
  intro h
  have hletters : (prunedKeys.any fun key => key.toList.all Char.isDigit) = false := by decide
  have hdigits : (toString i).toList.all Char.isDigit = true := by
    rw [List.all_eq_true]
    intro c hc
    have htext : (toString i).toList = Nat.toDigits 10 i := Nat.toList_repr
    exact Nat.isDigit_of_mem_toDigits (by decide) (Nat.le_refl 10) (htext ▸ hc)
  exact Bool.false_ne_true (hletters.symm.trans (List.any_eq_true.mpr ⟨_, h, hdigits⟩))

/-- The items of a list are sound if their values are. -/
theorem sound_ofItems {items : List Json} (h : ∀ v ∈ items, Sound (ofValue v)) (i : Nat) :
    Sound (ofItems i items) := by
  induction items generalizing i with
  | nil => exact Sound.nil
  | cons v items ih =>
    have hv : Sound (ofValue v) := h v List.mem_cons_self
    rw [ofItems_cons]
    refine Sound.append ?_ (ih (fun w hw => h w (List.mem_cons_of_mem v hw)) (i + 1))
    rcases ofItems_singleton i v with heq | heq <;> rw [heq]
    · exact hv
    · exact hv.node (toString_not_mem_prunedKeys i)

/-- A member whose key is not pruned is sound if its value is. -/
theorem sound_ofMember (hkey : key ∉ prunedKeys) (hv : Sound (ofValue v)) :
    Sound [ofMember key v] := by
  cases hprimitive : v.isPrimitive with
  | true =>
    rw [ofMember_of_isPrimitive hprimitive]
    exact sound_leaf hkey v.compact
  | false =>
    rw [ofMember_of_not_isPrimitive hprimitive]
    exact hv.node hkey

/-- Pruned members are sound if their values are. -/
theorem sound_prune_ofMembers {members : Members} (h : ∀ m ∈ members, Sound (ofValue m.2)) :
    Sound (prune (ofMembers members)) := by
  induction members with
  | nil => exact Sound.nil
  | cons m members ih =>
    obtain ⟨key, v⟩ := m
    have hv : Sound (ofValue v) := h (key, v) List.mem_cons_self
    rw [prune_ofMembers_cons, prune_ofMember]
    refine Sound.append ?_ (ih fun w hw => h w (List.mem_cons_of_mem _ hw))
    split_ifs with hkey hprimitive
    · exact Sound.nil
    · -- the children that move up are pruned already
      exact hv
    · exact sound_ofMember hkey hv

/-- **The nodes of every value are sound.** -/
theorem sound_ofValue (v : Json) : Sound (ofValue v) := by
  induction v using Json.induction with
  | primitive v hv =>
    rw [ofValue_of_isPrimitive hv]
    exact sound_leaf (by decide) v.compact
  | array items ih =>
    have h : Sound (ofItems 0 items) := sound_ofItems ih 0
    rw [ofValue, h.prune_eq]
    exact h
  | object members ih =>
    rw [ofValue]
    exact sound_prune_ofMembers ih

/-! ## 3. What a tree shows

The texts in a tree from left to right are those of the primitives in a value, in their order. -/

/-- The texts of primitives, without those that are the value of a member with a pruned key. -/
def shownTexts (ps : List (Option String × Json)) : List String :=
  (ps.filter fun p => !p.1.any prunedKeys.contains).map (·.2.compact)

theorem shownTexts_append (ps qs : List (Option String × Json)) :
    shownTexts (ps ++ qs) = shownTexts ps ++ shownTexts qs := by
  simp [shownTexts]

/-- The values of the nodes that have one. -/
def shown (ts : List Tree) : List String := (ts.filter (·.value != "")).map value

theorem shown_append (ts us : List Tree) : shown (ts ++ us) = shown ts ++ shown us := by
  simp [shown]

/-- A node without a value shows what is below it. -/
theorem shown_node (key : String) (f : List Tree) :
    shown (node key "" f).nodes = shown (forestNodes f) := by
  rw [nodes, shown_append]
  exact List.append_nil _

/-- A leaf shows its text. -/
theorem shown_leaf (key : String) (v : Json) : shown (leaf key v.compact).nodes = [v.compact] := by
  have hvalue : (v.compact != "") = true := by simpa using v.compact_ne_empty
  simp [shown, leaf, nodes, forestNodes, hvalue]

/-- A list shows what its items show. -/
theorem shown_ofItems {items : List Json}
    (h : ∀ v ∈ items, shown (forestNodes (ofValue v)) = shownTexts (v.primitives none)) (i : Nat) :
    shown (forestNodes (ofItems i items)) = shownTexts (itemPrimitives items) := by
  induction items generalizing i with
  | nil => rfl
  | cons v items ih =>
    have hitem : shown (forestNodes (ofItems i [v])) = shown (forestNodes (ofValue v)) := by
      rcases ofItems_singleton i v with heq | heq <;> rw [heq]
      rw [forestNodes_singleton, shown_node]
    rw [ofItems_cons, forestNodes_append, shown_append, hitem, h v List.mem_cons_self,
      ih (fun w hw => h w (List.mem_cons_of_mem v hw)) (i + 1), itemPrimitives, shownTexts_append]

/-- A member shows its value, but for a primitive with a pruned key. -/
theorem shown_prune_ofMember (key : String)
    (hv : shown (forestNodes (ofValue v)) = shownTexts (v.primitives none)) :
    shown (forestNodes (prune [ofMember key v])) = shownTexts (v.primitives (some key)) := by
  rw [prune_ofMember]
  cases hprimitive : v.isPrimitive with
  | true =>
    rw [Json.primitives_of_isPrimitive hprimitive, ofMember_of_isPrimitive hprimitive, if_pos rfl]
    by_cases hkey : key ∈ prunedKeys
    · simp [shown, forestNodes, shownTexts, hkey]
    · rw [if_neg hkey, forestNodes_singleton, shown_leaf]
      simp [shownTexts, hkey]
  | false =>
    rw [Json.primitives_of_not_isPrimitive hprimitive, ofMember_of_not_isPrimitive hprimitive, ← hv,
      if_neg Bool.false_ne_true]
    split
    · rfl
    · rw [forestNodes_singleton, shown_node]

/-- An object shows what its members show. -/
theorem shown_prune_ofMembers {members : Members}
    (h : ∀ m ∈ members, shown (forestNodes (ofValue m.2)) = shownTexts (m.2.primitives none)) :
    shown (forestNodes (prune (ofMembers members))) = shownTexts (memberPrimitives members) := by
  induction members with
  | nil => rfl
  | cons m members ih =>
    obtain ⟨key, v⟩ := m
    rw [prune_ofMembers_cons, forestNodes_append, shown_append,
      shown_prune_ofMember key (h (key, v) List.mem_cons_self),
      ih (fun w hw => h w (List.mem_cons_of_mem _ hw)), memberPrimitives, shownTexts_append]

/-- The nodes of a value show its primitives in their order, without those that pruning drops. -/
theorem shown_ofValue (v : Json) :
    shown (forestNodes (ofValue v)) = shownTexts (v.primitives none) := by
  induction v using Json.induction with
  | primitive v hv =>
    rw [ofValue_of_isPrimitive hv, forestNodes_singleton, shown_leaf,
      Json.primitives_of_isPrimitive hv]
    rfl
  | array items ih =>
    have h : Sound (ofItems 0 items) := sound_ofItems (fun v _ => sound_ofValue v) 0
    rw [ofValue, h.prune_eq, shown_ofItems ih 0, primitives]
  | object members ih => rw [ofValue, shown_prune_ofMembers ih, primitives]

/-! ## 4. Members that leave nothing

Primitives under a pruned key leave no node. Values that differ in such members are related step by
step, and each step leaves the nodes as they are. -/

end Tree

/-- One more member with a pruned key and a primitive as its value, somewhere in a value. -/
inductive Json.Marked : Json → Json → Prop
  | here {key : String} {p : Json} (hkey : key ∈ Tree.prunedKeys) (hp : p.isPrimitive = true)
      (before after : Members) :
      Marked (.object (before ++ after)) (.object (before ++ (key, p) :: after))
  | inMember {v w : Json} (h : Marked v w) (key : String) (before after : Members) :
      Marked (.object (before ++ (key, v) :: after)) (.object (before ++ (key, w) :: after))
  | inItem {v w : Json} (h : Marked v w) (before after : List Json) :
      Marked (.array (before ++ v :: after)) (.array (before ++ w :: after))

namespace Tree

variable {v w : Json} {members members' : Members} {items items' : List Json}

/-- Two values give the same nodes wherever they stand. -/
structure SameNodes (v w : Json) : Prop where
  ofValue : ofValue v = ofValue w
  ofMember : ∀ key, ofMember key v = ofMember key w
  ofItem : ∀ i, ofItems i [v] = ofItems i [w]

/-- Objects with the same pruned members give the same nodes. -/
theorem sameNodes_of_members (h : prune (ofMembers members) = prune (ofMembers members')) :
    SameNodes (.object members) (.object members') where
  ofValue := by rw [ofValue, ofValue, h]
  ofMember key := by rw [ofMember, ofMember, h]
  ofItem i := by simp only [ofItems, ofValue, h]

/-- Lists with the same items give the same nodes. -/
theorem sameNodes_of_items (h : ofItems 0 items = ofItems 0 items') :
    SameNodes (.array items) (.array items') where
  ofValue := by rw [ofValue, ofValue, h]
  ofMember key := by rw [ofMember, ofMember, h]
  ofItem i := by simp only [ofItems, ofMember, h]

theorem ofMembers_append (xs ys : Members) :
    ofMembers (xs ++ ys) = ofMembers xs ++ ofMembers ys := by
  induction xs with
  | nil => rfl
  | cons m xs ih => simp [ofMembers, ih]

theorem ofItems_append (i : Nat) (xs ys : List Json) :
    ofItems i (xs ++ ys) = ofItems i xs ++ ofItems (i + xs.length) ys := by
  induction xs generalizing i with
  | nil => rfl
  | cons v xs ih =>
    rw [List.cons_append, ofItems_cons, ih, ofItems_cons i v xs, List.append_assoc,
      List.length_cons, Nat.add_right_comm, Nat.add_assoc]

/-- A member that leaves nothing is not seen, wherever it stands. -/
theorem sameNodes_of_marked (h : Json.Marked v w) : SameNodes v w := by
  induction h with
  | here hkey hp before after =>
    -- nothing is left of the member that is added
    apply sameNodes_of_members
    rw [ofMembers_append, ofMembers_append, prune_append, prune_append, prune_ofMembers_cons,
      prune_ofMember, if_pos hkey, if_pos hp, List.nil_append]
  | inMember _ key before after ih =>
    apply sameNodes_of_members
    rw [ofMembers_append, ofMembers_append, ofMembers, ofMembers, ih.ofMember key]
  | inItem _ before after ih =>
    apply sameNodes_of_items
    rw [ofItems_append, ofItems_append, ofItems_cons, ofItems_cons _ _ after, ih.ofItem]

/-- Nor are several, put in and taken out. -/
theorem ofJson_eq_of_marked (h : Relation.EqvGen Json.Marked v w) : ofJson v = ofJson w := by
  induction h with
  | rel v w h => rw [ofJson, ofJson, (sameNodes_of_marked h).ofValue]
  | refl v => rfl
  | symm v w _ ih => exact ih.symm
  | trans u v w _ _ ihu ihv => exact ihu.trans ihv

/-- The tree of a JSON value has no pruned key below its root. The nodes with a value are leaves,
and from left to right they show every primitive once, in the order of the text, but for the direct
values of members with a pruned key; in a value that was read the order of members is that of their
keys. Primitives with a pruned key may be added, removed and altered anywhere in the value, and the
tree stays the same. -/
theorem ofJson_pruned (v : Json) :
    (∀ t ∈ forestNodes (ofJson v).children, t.key ∉ prunedKeys) ∧
      (∀ t ∈ (ofJson v).nodes, t.value ≠ "" → t.isLeaf = true) ∧
      shown (ofJson v).nodes = shownTexts (v.primitives none) ∧
      (∀ text, Json.parse text = .ok v → v.Ascending) ∧
      ∀ w, Relation.EqvGen Json.Marked v w → ofJson w = ofJson v := by
  have hsound : Sound (ofValue v) := sound_ofValue v
  have hvalued : ∀ t ∈ (ofJson v).nodes, t.value ≠ "" → t.isLeaf = true := by
    intro t ht hvalue
    rw [ofJson, nodes, List.mem_append, List.mem_singleton] at ht
    rcases ht with ht | rfl
    · exact (hsound t ht).2 hvalue
    · exact absurd rfl hvalue
  have hshown : shown (ofJson v).nodes = shownTexts (v.primitives none) := by
    rw [ofJson, shown_node, shown_ofValue]
  exact ⟨fun t ht => (hsound t ht).1, hvalued, hshown, fun _ h => Json.ascending_of_parse h,
    fun w hw => (ofJson_eq_of_marked hw).symm⟩

/-- A list in a list, and a pruned key below a pruned key. -/
def spliced (p : Json) : Json :=
  .array [.array [.bool true], .object [("inh", .object [("version", p), ("x", .string "s")])]]

/-- The primitive with the inner key is altered, and neither of its texts is seen. -/
theorem ofJson_pruned_spliced :
    ofJson (spliced (.bool false)) = ofJson (spliced .null) ∧
      shown (ofJson (spliced .null)).nodes = ["true", "\"s\""] := by
  have hmark : ∀ p : Json, p.isPrimitive = true → Json.Marked
      (.array [.array [.bool true], .object [("inh", .object [("x", .string "s")])]])
      (spliced p) := by
    intro p hp
    have hkey : "version" ∈ prunedKeys := by decide
    exact .inItem (.inMember (.here hkey hp [] [("x", .string "s")]) "inh" [] [])
      [.array [.bool true]] []
  obtain ⟨-, -, hshown, -, hsame⟩ := ofJson_pruned (spliced .null)
  refine ⟨hsame _ ?_, hshown.trans (by decide)⟩
  exact .trans _ _ _ (.symm _ _ (.rel _ _ (hmark .null rfl))) (.rel _ _ (hmark (.bool false) rfl))

end Tree

end QueryGrading
