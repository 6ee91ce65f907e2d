import QueryGrading.Proofs.Query.Renaming

/-!
# Giving a tree other names

The relation `Tree.Renamed` says of two trees that they differ in aliases and qualifiers only. Here
is how to get the second tree from the first: `Tree.renamed` writes new names into a tree, and the
result is related to the tree (`renamed_renamed`).

A source has its alias as the `aliasname` of its `alias`, and a column has its name as `fields`. The
qualifier is the last but one of the fields that `column_name` reads, so the fields are gone through
from the last one. A field without a name, and one that is neither a name nor a star, is passed over
as it is there.

A new name must survive being written and read: the reader takes the quotes off a value, so a name
has none (`IsWritable`). A missing alias is read as the empty name, and the star of a column stands
where a name may stand, so both keep their meaning. Constants are left alone. They are compared as a
whole, and the one thing the relation asks below a constant is a list of items, which a parser never
puts there (`hasBareConstants`).
-/

namespace QueryGrading

namespace Tree

variable {f : String → String}

/-! ## 1. Renaming a tree -/

/-- Another name in the place of the one that a node holds. -/
def renameValue (f : String → String) (t : Tree) : Tree :=
  node t.key ("\"" ++ f (Text.withoutQuotes t.value) ++ "\"") t.children

/-- The node with all its children of a key changed. -/
def mapChild (k : String) (g : Tree → Tree) (t : Tree) : Tree :=
  node t.key t.value (t.children.map fun c => if c.key = k then g c else c)

/-- The part of the name of a column that a field stands for. -/
def fieldPart? (t : Tree) : Option String :=
  if t.key = "String" then (t.child? "sval").map fun s => Text.withoutQuotes s.value
  else if t.key = "A_Star" then some "*"
  else none

/-- The fields of a column, from the last one, with another qualifier; `column` says that the
column itself was passed already. -/
def renameFields (f : String → String) (column : Bool) : List Tree → List Tree
  | [] => []
  | c :: rest =>
    if c.fieldPart?.isNone then c :: renameFields f column rest
    else if column then c.mapChild "sval" (renameValue f) :: rest
    else c :: renameFields f true rest

/-- The fields of a column with another qualifier. -/
def renameQualifier (f : String → String) (t : Tree) : Tree :=
  node t.key t.value (renameFields f false t.children.reverse).reverse

mutual
/-- The tree with the aliases of its sources and the qualifiers of its columns renamed. Constants
stay as they are, and of parts that have names of their own all but lists of items. -/
def renamed (f : String → String) : Tree → Tree
  | node key value children => node key value (renamedBelow f key children)

/-- The children of a node with this key, renamed. -/
def renamedBelow (f : String → String) (key : String) : List Tree → List Tree
  | [] => []
  | c :: rest =>
    (if key ∉ sealedKeys ∨ key ≠ "A_Const" ∧ c.key = "items" then c.renamed f
      else if key = "ColumnRef" ∧ c.key = "fields" then c.renameQualifier f
      else if key ∈ sourceKeys ∧ c.key = "alias" then c.mapChild "aliasname" (renameValue f)
      else c) :: renamedBelow f key rest
end

mutual
/-- No constant in the tree holds a list of items. -/
def hasBareConstants : Tree → Bool
  | node key _ children =>
    (key != "A_Const" || children.all (·.key != "items")) && allBareConstants children

/-- The same of several trees. -/
def allBareConstants : List Tree → Bool
  | [] => true
  | t :: rest => t.hasBareConstants && allBareConstants rest
end

/-- A renaming that can be written into a tree: what stands for no name and for all columns stays,
and no quote comes into a name. -/
structure IsWritable (f : String → String) : Prop where
  empty : f "" = ""
  star : f "*" = "*"
  plain : ∀ name, '"' ∉ name.toList → '"' ∉ (f name).toList

/-! ## 2. Names that are written and read again

A name is written between quotes and read without them, and the fields of a column are read from the
last one. The lemmas say what is read of a name, of a field and of all fields of a column. -/

/-- No quote is left in a name that was read. -/
theorem not_mem_withoutQuotes (s : String) : '"' ∉ (Text.withoutQuotes s).toList := by
  simp [Text.withoutQuotes]

/-- A name that was written is read as it was meant. -/
theorem withoutQuotes_value_renameValue (hf : IsWritable f) (t : Tree) :
    Text.withoutQuotes (t.renameValue f).value = f (Text.withoutQuotes t.value) := by
  have hplain := hf.plain _ (not_mem_withoutQuotes t.value)
  have hkept : (f (Text.withoutQuotes t.value)).toList.filter (· ≠ '"') =
      (f (Text.withoutQuotes t.value)).toList :=
    List.filter_eq_self.mpr fun c hc => by
      simpa using fun heq : c = '"' => hplain (heq ▸ hc)
  rw [renameValue, value_node, Text.withoutQuotes, String.toList_append, String.toList_append,
    List.filter_append, List.filter_append, hkept]
  simp

/-- A change that keeps keys does not change which child is found. -/
theorem find?_map_of_key {g : Tree → Tree} (hg : ∀ c, (g c).key = c.key) (k : String)
    (cs : List Tree) : (cs.map g).find? (·.key == k) = (cs.find? (·.key == k)).map g := by
  rw [List.find?_map]
  have hcomp : ((·.key == k) ∘ g : Tree → Bool) = (·.key == k) := funext fun c => by
    rw [Function.comp_apply, hg]
  rw [hcomp]

/-- A changed child is found under its key. -/
theorem child?_mapChild (k : String) {g : Tree → Tree} (hg : ∀ c, (g c).key = c.key) (t : Tree) :
    (t.mapChild k g).child? k = (t.child? k).map g := by
  have hkey (c : Tree) : (if c.key = k then g c else c).key = c.key := by
    split
    · exact hg c
    · rfl
  rw [child?, mapChild, children_node, find?_map_of_key hkey, child?]
  refine Option.map_congr fun c hc => ?_
  exact if_pos (by simpa using List.find?_some hc)

/-- A field with another name stands for the other name. -/
theorem fieldPart?_mapChild (hf : IsWritable f) (t : Tree) :
    (t.mapChild "sval" (renameValue f)).fieldPart? = t.fieldPart?.map f := by
  have hkey : (t.mapChild "sval" (renameValue f)).key = t.key := rfl
  have hvalue : ((t.child? "sval").map (renameValue f)).map
        (fun s => Text.withoutQuotes s.value) =
      ((t.child? "sval").map fun s => Text.withoutQuotes s.value).map f := by
    cases t.child? "sval" with
    | none => rfl
    | some s => exact congrArg some (withoutQuotes_value_renameValue hf s)
  unfold fieldPart?
  rw [hkey, child?_mapChild "sval" (g := renameValue f) fun _ => rfl, hvalue]
  split
  · rfl
  · split
    · rw [Option.map_some, hf.star]
    · rfl

/-- The second of some names, the qualifier of a column read from behind, is another. -/
def mapSecond (f : String → String) : List String → List String
  | column :: qualifier :: rest => column :: f qualifier :: rest
  | parts => parts

/-- The qualifier is the second name from behind. -/
theorem mapQualifier_eq (f : String → String) (parts : List String) :
    mapQualifier f parts = (mapSecond f parts.reverse).reverse := by
  unfold mapQualifier mapSecond
  match hrev : parts.reverse with
  | [] | [_] =>
    dsimp only
    rw [← hrev, List.reverse_reverse]
  | _ :: _ :: _ => rfl

/-- Behind the column, the next part is renamed. -/
theorem filterMap_renameFields_true (hf : IsWritable f) (cs : List Tree) :
    (renameFields f true cs).filterMap fieldPart? = (cs.filterMap fieldPart?).modifyHead f := by
  induction cs with
  | nil => rfl
  | cons c rest ih =>
    rw [renameFields]
    cases hpart : c.fieldPart? with
    | none =>
      rw [if_pos Option.isNone_none, List.filterMap_cons_none hpart,
        List.filterMap_cons_none hpart, ih]
    | some part =>
      have hnew : (c.mapChild "sval" (renameValue f)).fieldPart? = some (f part) := by
        rw [fieldPart?_mapChild hf, hpart, Option.map_some]
      rw [if_neg (by simp), if_pos rfl, List.filterMap_cons_some hpart,
        List.filterMap_cons_some hnew]
      rfl

/-- In front of the column, the name after it is renamed. -/
theorem filterMap_renameFields_false (hf : IsWritable f) (cs : List Tree) :
    (renameFields f false cs).filterMap fieldPart? = mapSecond f (cs.filterMap fieldPart?) := by
  induction cs with
  | nil => rfl
  | cons c rest ih =>
    rw [renameFields]
    cases hpart : c.fieldPart? with
    | none =>
      rw [if_pos Option.isNone_none, List.filterMap_cons_none hpart,
        List.filterMap_cons_none hpart, ih]
    | some part =>
      rw [if_neg (by simp), if_neg Bool.false_ne_true, List.filterMap_cons_some hpart,
        List.filterMap_cons_some hpart, filterMap_renameFields_true hf]
      cases rest.filterMap fieldPart? <;> rfl

/-! ## 3. Columns and sources

Every node keeps its key, so the parts of a renamed column or source are found under the same
keys. -/

/-- A child of a node with this key, renamed. -/
def renamedChild (f : String → String) (key : String) (c : Tree) : Tree :=
  if key ∉ sealedKeys ∨ key ≠ "A_Const" ∧ c.key = "items" then c.renamed f
  else if key = "ColumnRef" ∧ c.key = "fields" then c.renameQualifier f
  else if key ∈ sourceKeys ∧ c.key = "alias" then c.mapChild "aliasname" (renameValue f)
  else c

/-- The children are renamed one by one. -/
theorem renamedBelow_eq_map (f : String → String) (key : String) (cs : List Tree) :
    renamedBelow f key cs = cs.map (renamedChild f key) := by
  induction cs with
  | nil => rfl
  | cons c rest ih => rw [renamedBelow, ih]; rfl

/-- A tree keeps its key. -/
theorem key_renamed (f : String → String) (t : Tree) : (t.renamed f).key = t.key := by
  cases t
  rfl

/-- So does every child. -/
theorem key_renamedChild (f : String → String) (key : String) (c : Tree) :
    (renamedChild f key c).key = c.key := by
  unfold renamedChild
  split
  · exact key_renamed f c
  · split
    · rfl
    · split <;> rfl

/-- A renamed child is found under its key. -/
theorem child?_renamed (f : String → String) (t : Tree) (k : String) :
    (t.renamed f).child? k = (t.child? k).map (renamedChild f t.key) := by
  cases t with
  | node key value children =>
    rw [renamed, child?, children_node, renamedBelow_eq_map,
      find?_map_of_key (key_renamedChild f key)]
    rfl

/-- A constant without items is left as it is. -/
theorem renamed_constant {t : Tree} (hkey : t.key = "A_Const") : t.renamed f = t := by
  have hstays (c : Tree) : renamedChild f "A_Const" c = c := by
    simp [renamedChild, sealedKeys, sourceKeys]
  cases t with
  | node key value children =>
    obtain rfl : key = "A_Const" := hkey
    rw [renamed, renamedBelow_eq_map, funext hstays, List.map_id']

/-- Of a column the qualifier is renamed. -/
theorem columnParts_renamed (hf : IsWritable f) {t : Tree} (hkey : t.key = "ColumnRef") :
    (t.renamed f).columnParts = mapQualifier f t.columnParts := by
  have hfields (c : Tree) (hc : c.key = "fields") :
      renamedChild f t.key c = c.renameQualifier f := by
    rw [renamedChild, hkey, if_neg (by rw [hc]; decide), if_pos ⟨rfl, hc⟩]
  have hparts (t : Tree) : t.columnParts = (t.under "fields").filterMap fieldPart? := rfl
  rw [hparts, hparts, under, under, child?_renamed]
  cases hchild : t.child? "fields" with
  | none => rfl
  | some c =>
    rw [Option.map_some, hfields c (by simpa using List.find?_some hchild), mapQualifier_eq]
    dsimp only
    rw [renameQualifier, children_node, List.filterMap_reverse, filterMap_renameFields_false hf,
      List.filterMap_reverse]

/-- Of a source the alias is renamed. -/
theorem sourceAlias_renamed (hf : IsWritable f) {t : Tree} (hkey : t.key ∈ sourceKeys) :
    (t.renamed f).sourceAlias = f t.sourceAlias := by
  have hsealed : t.key ∈ sealedKeys := List.mem_append_right _ hkey
  have halias (c : Tree) (hc : c.key = "alias") :
      renamedChild f t.key c = c.mapChild "aliasname" (renameValue f) := by
    rw [renamedChild, if_neg (by simp [hsealed, hc]), if_neg (by simp [hc]), if_pos ⟨hkey, hc⟩]
  have hpath (t : Tree) : t.path? ["alias", "aliasname"] =
      (t.child? "alias").bind (·.child? "aliasname") := Parallel.path?_cons_cons t _ _ _
  unfold sourceAlias nameAt
  rw [hpath, hpath, child?_renamed]
  cases hchild : t.child? "alias" with
  | none => exact hf.empty.symm
  | some c =>
    rw [Option.map_some, Option.bind_some, Option.bind_some,
      halias c (by simpa using List.find?_some hchild),
      child?_mapChild "aliasname" (g := renameValue f) fun _ => rfl]
    cases c.child? "aliasname" with
    | none => exact hf.empty.symm
    | some name => exact withoutQuotes_value_renameValue hf name

/-- A source keeps its table. -/
theorem nameOf_renamed {t : Tree} (hkey : t.key ∈ sourceKeys) :
    (t.renamed f).nameOf "relname" = t.nameOf "relname" := by
  have hstays (c : Tree) (hc : c.key = "relname") : renamedChild f t.key c = c := by
    rw [renamedChild, if_neg (by simp [List.mem_append_right _ hkey, sealedKeys, hc]),
      if_neg (by simp [hc]), if_neg (by simp [hc])]
  unfold nameOf valueOf
  rw [child?_renamed]
  cases hchild : t.child? "relname" with
  | none => rfl
  | some c => rw [Option.map_some, hstays c (by simpa using List.find?_some hchild)]

/-- What is read of a constant, a column or a source is the same but for the names. -/
theorem restated_renamed (hf : IsWritable f) (t : Tree) : Restated f t (t.renamed f) where
  key := key_renamed f t
  constant hkey := by rw [renamed_constant hkey]
  column := columnParts_renamed hf
  source hkey := ⟨nameOf_renamed hkey, sourceAlias_renamed hf hkey⟩

/-! ## 4. The whole tree

The relation `Renamed` has two cases, and the key of a node decides between them. -/

/-- What holds of several trees holds of each. -/
theorem hasBareConstants_of_mem : ∀ {ts : List Tree}, allBareConstants ts = true →
    ∀ t ∈ ts, t.hasBareConstants = true := by
  intro ts h t ht
  induction ts with
  | nil => cases ht
  | cons s rest ih =>
    rw [allBareConstants, Bool.and_eq_true] at h
    obtain rfl | ht := List.mem_cons.mp ht
    · exact h.1
    · exact ih h.2 ht

/-- **The renamed tree is a renaming of the tree**, if new names can be written and no constant
holds a list of items. -/
theorem renamed_renamed (hf : IsWritable f) : ∀ t : Tree, t.hasBareConstants = true →
    Renamed f t (t.renamed f)
  | node key value children, h => by
    rw [hasBareConstants, Bool.and_eq_true] at h
    obtain ⟨hbare, hall⟩ := h
    have hbelow : ∀ c ∈ children, Renamed f c (c.renamed f) := fun c hc =>
      renamed_renamed hf c (hasBareConstants_of_mem hall c hc)
    by_cases hsealed : key ∈ sealedKeys
    · -- a constant, a column, a source or a part with names of its own: what is read of it is
      -- restated, and a list of items is followed
      refine .whole hsealed (restated_renamed hf _) ?_
      rw [under, under, child?_renamed]
      cases hchild : (node key value children).child? "items" with
      | none => exact .nil
      | some c =>
        have hc : c ∈ children := List.mem_of_find?_eq_some hchild
        have hckey : c.key = "items" := by simpa using List.find?_some hchild
        have hconstant : key ≠ "A_Const" := by
          rintro rfl
          have hnone : ∀ x ∈ children, x.key ≠ "items" := by simpa using hbare
          exact hnone c hc hckey
        have hitems : renamedChild f key c = c.renamed f := if_pos (.inr ⟨hconstant, hckey⟩)
        rw [Option.map_some, key_node, hitems]
        exact ((hbelow c hc).parallel (by rw [hckey]; decide)).children
    · -- any other node is followed child by child
      have hopen (c : Tree) : renamedChild f key c = c.renamed f := if_pos (.inl hsealed)
      rw [renamed, renamedBelow_eq_map, funext hopen]
      exact .parts hsealed
        (List.forall₂_map_right_iff.mpr (List.forall₂_same.mpr hbelow))
termination_by t => sizeOf t
decreasing_by exact sizeOf_children (t := node key value children) hc

end Tree

end QueryGrading
