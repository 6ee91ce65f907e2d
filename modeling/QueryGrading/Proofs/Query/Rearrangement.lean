import QueryGrading.Proofs.Collection
import QueryGrading.Query.Condition

/-!
# Rearranged conditions

A condition says the same when the parts of a conjunction or disjunction stand in another order,
when the operands of an equation are exchanged, and when a comparison with a literal on the left is
turned round. `Step` is one such rearrangement at any depth, and `Equivalent` is the equivalence
that the steps generate. What each step does is one branch of `ConditionNode::signature`: the sorted
signatures of the parts, the sorted operands of `COMMUTATIVE_OPERATORS`, and `literal_on_left` with
`flipped_operator`.

No rearrangement is seen in the signature (`signature_eq_of_steps`). What a rearrangement keeps are
the simple conditions, each in its settled form and as often as it occurs
(`perm_settled_of_equivalent`).

A literal is recognized by its first character, so the steps are about texts and not about parse
trees. What the first character tells of a literal in a tree is said with the literals.
-/

namespace QueryGrading

open Text (concat)

/-! ## 1. Simple conditions and their settled form

`signature` writes an ordering comparison with its literal on the right and the operands of an
equation in order. What it writes is the settled form, as three parts. -/

/-- The parts of a simple condition. -/
structure Comparison where
  left : String
  operator : String
  right : String
  deriving DecidableEq, Repr

namespace Comparison

/-- The parts as the signature has them: a literal stands last, and the operands of an equation are
in ascending order. -/
def settled (x : Comparison) : Comparison :=
  let (left, operator, right) := Condition.literalLast x.left x.operator x.right
  let (left, operator, right) := Condition.operandsSorted left operator right
  ⟨left, operator, right⟩

/-- The settled parts in one text, with nothing between them. -/
def text (x : Comparison) : String :=
  x.settled.left ++ x.settled.operator ++ x.settled.right

end Comparison

namespace Condition

/-- The signature of a simple condition is the text of its settled parts. -/
theorem simpleSignature_eq (l o r : String) :
    simpleSignature l o r = "SIMPLE:" ++ Comparison.text ⟨l, o, r⟩ := by
  simp only [simpleSignature, Comparison.text, Comparison.settled, String.append_assoc]

/-- An operator and the one it is flipped to differ, are flipped to each other, and neither is that
of an equation. -/
theorem flipped?_eq_some {o o' : String} (h : flipped? o = some o') :
    o ≠ o' ∧ o ∉ commutative ∧ o' ∉ commutative := by
  unfold flipped? at h
  split at h <;> simp only [Option.some.injEq, reduceCtorEq] at h <;> subst h <;> decide

/-- No operator of an equation is flipped. -/
theorem flipped?_of_mem_commutative {o : String} (h : o ∈ commutative) : flipped? o = none := by
  cases hf : flipped? o with
  | none => rfl
  | some o' => exact absurd h (flipped?_eq_some hf).2.1

/-- Digits and apostrophes come before `A`. -/
theorem toNat_lt_of_literal {c : Char} (h : c.isDigit = true ∨ c = '\'') : c.toNat < 65 := by
  rcases h with hdigit | rfl
  · have hle : c.toNat ≤ '9'.toNat := (Char.isDigit_iff_toNat.mp hdigit).2
    exact lt_of_le_of_lt hle (by decide)
  · decide

/-- No letter comes before `A`. -/
theorem le_toNat_of_name {c : Char} (h : Text.isLetter c = true ∨ c = '_') : 65 ≤ c.toNat := by
  rcases h with hletter | rfl
  · by_contra hlt
    rw [Text.isLetter, Text.alphabeticRanges, Text.inRanges, if_pos (not_le.mp hlt)] at hletter
    exact Bool.false_ne_true hletter
  · decide

/-- A name does not look like a literal, so a comparison that was turned round is not turned
back. -/
theorem literalOnLeft_asymm {l r : String} (h : literalOnLeft l r = true) :
    literalOnLeft r l = false := by
  by_contra hback
  rw [Bool.not_eq_false] at hback
  unfold literalOnLeft at h hback
  cases hl : l.toList with
  | nil => simp [hl] at h
  | cons a as =>
    cases hr : r.toList with
    | nil => simp [hl, hr] at h
    | cons b bs =>
      simp only [hl, hr, Bool.and_eq_true, Bool.or_eq_true, beq_iff_eq] at h hback
      have hlt : b.toNat < 65 := toNat_lt_of_literal hback.1
      exact absurd (le_toNat_of_name h.2) (not_le.mpr hlt)

end Condition

namespace Comparison

open Condition (commutative flipped? literalOnLeft literalLast operandsSorted)

variable {l o o' r : String}

/-- The operands keep their order unless the operator is that of an equation. -/
theorem operandsSorted_of_not_mem (h : o ∉ commutative) : operandsSorted l o r = (l, o, r) := by
  simp [operandsSorted, h]

/-- The operands of an equation are put in order. -/
theorem settled_of_mem (h : o ∈ commutative) :
    settled ⟨l, o, r⟩ = if r < l then ⟨r, o, l⟩ else ⟨l, o, r⟩ := by
  have hflip : flipped? o = none := Condition.flipped?_of_mem_commutative h
  have hlast : literalLast l o r = (l, o, r) := by
    cases hl : literalOnLeft l r <;> simp [literalLast, hflip, hl]
  have hcontains : commutative.contains o = true := by simpa using h
  simp only [settled, hlast, operandsSorted, hcontains, true_and]
  split <;> rfl

/-- A comparison with a literal on the left is turned round. -/
theorem settled_of_turned (hl : literalOnLeft l r = true) (ho : flipped? o = some o') :
    settled ⟨l, o, r⟩ = ⟨r, o', l⟩ := by
  have hlast : literalLast l o r = (r, o', l) := by simp [literalLast, hl, ho]
  have hnot : o' ∉ commutative := (Condition.flipped?_eq_some ho).2.2
  simp only [settled, hlast, operandsSorted_of_not_mem hnot]

/-- Anything else stays as it is. -/
theorem settled_of_neither (hl : literalOnLeft l r = false ∨ flipped? o = none)
    (ho : o ∉ commutative) : settled ⟨l, o, r⟩ = ⟨l, o, r⟩ := by
  have hlast : literalLast l o r = (l, o, r) := by
    rcases hl with h | h
    · simp [literalLast, h]
    · cases hl : literalOnLeft l r <;> simp [literalLast, h, hl]
  simp only [settled, hlast, operandsSorted_of_not_mem ho]

/-- The operands of an equation may be exchanged. -/
theorem settled_swap (h : o ∈ commutative) : settled ⟨l, o, r⟩ = settled ⟨r, o, l⟩ := by
  rw [settled_of_mem h, settled_of_mem h]
  rcases lt_trichotomy l r with hlt | rfl | hlt
  · rw [if_neg (not_lt.mpr hlt.le), if_pos hlt]
  · rfl
  · rw [if_pos hlt, if_neg (not_lt.mpr hlt.le)]

/-- A comparison with a literal on the left and its mirror image settle alike. -/
theorem settled_turn (hl : literalOnLeft l r = true) (ho : flipped? o = some o') :
    settled ⟨l, o, r⟩ = settled ⟨r, o', l⟩ := by
  rw [settled_of_turned hl ho, settled_of_neither (.inl (Condition.literalOnLeft_asymm hl))
    (Condition.flipped?_eq_some ho).2.2]

/-- The operands of an equation count without their order. -/
theorem settled_eq_iff_of_mem {l₁ r₁ l₂ r₂ : String} (h : o ∈ commutative) :
    settled ⟨l₁, o, r₁⟩ = settled ⟨l₂, o, r₂⟩ ↔ (l₁ = l₂ ∧ r₁ = r₂) ∨ (l₁ = r₂ ∧ r₁ = l₂) := by
  constructor
  · intro heq
    rw [settled_of_mem h, settled_of_mem h] at heq
    split at heq <;> split at heq <;> simp only [mk.injEq, true_and] at heq <;> tauto
  · rintro (⟨rfl, rfl⟩ | ⟨rfl, rfl⟩)
    · rfl
    · exact settled_swap h

/-- With one operator that is not that of an equation, both comparisons are turned round or neither
is: the operators would not be the same otherwise. -/
theorem settled_eq_iff_of_not_mem {l₁ r₁ l₂ r₂ : String} (h : o ∉ commutative) :
    settled ⟨l₁, o, r₁⟩ = settled ⟨l₂, o, r₂⟩ ↔ l₁ = l₂ ∧ r₁ = r₂ := by
  refine ⟨fun heq => ?_, fun heq => by rw [heq.1, heq.2]⟩
  cases ho : flipped? o with
  | none =>
    rw [settled_of_neither (.inr ho) h, settled_of_neither (.inr ho) h] at heq
    simpa using heq
  | some o' =>
    have hne : o ≠ o' := (Condition.flipped?_eq_some ho).1
    cases h₁ : literalOnLeft l₁ r₁ with
    | false =>
      rw [settled_of_neither (.inl h₁) h] at heq
      cases h₂ : literalOnLeft l₂ r₂ with
      | false =>
        rw [settled_of_neither (.inl h₂) h] at heq
        simpa using heq
      | true =>
        rw [settled_of_turned h₂ ho] at heq
        exact absurd (mk.inj heq).2.1 hne
    | true =>
      rw [settled_of_turned h₁ ho] at heq
      cases h₂ : literalOnLeft l₂ r₂ with
      | false =>
        rw [settled_of_neither (.inl h₂) h] at heq
        exact absurd (mk.inj heq).2.1.symm hne
      | true =>
        rw [settled_of_turned h₂ ho] at heq
        exact ⟨(mk.inj heq).2.2, (mk.inj heq).1⟩

end Comparison

/-! ## 2. Rearrangements

The steps are the rearrangements by which SQL means the same: a comparison turned round, an equation
swapped, parts in another order, and any of these at any depth. -/

namespace Condition

/-- One rearrangement, at any depth. -/
inductive Step : Condition → Condition → Prop
  | permuteAnd {ps qs : List Condition} (h : ps.Perm qs) : Step (and ps) (and qs)
  | permuteOr {ps qs : List Condition} (h : ps.Perm qs) : Step (or ps) (or qs)
  | swap {l o r : String} (h : o ∈ commutative) : Step (simple l o r) (simple r o l)
  | turn {l o o' r : String} (hl : literalOnLeft l r = true) (ho : flipped? o = some o') :
    Step (simple l o r) (simple r o' l)
  | insideAnd {p q : Condition} (before after : List Condition) (h : Step p q) :
    Step (and (before ++ p :: after)) (and (before ++ q :: after))
  | insideOr {p q : Condition} (before after : List Condition) (h : Step p q) :
    Step (or (before ++ p :: after)) (or (before ++ q :: after))
  | insideNot {p q : Condition} (h : Step p q) : Step (not p) (not q)

/-- Each is a rearrangement of the other, by finitely many steps to and fro. -/
def Equivalent : Condition → Condition → Prop := Relation.EqvGen Step

namespace Equivalent

variable {a b c p q : Condition} {ps qs : List Condition}

theorem refl (a : Condition) : Equivalent a a := Relation.EqvGen.refl a

theorem symm (h : Equivalent a b) : Equivalent b a := Relation.EqvGen.symm _ _ h

theorem trans (hab : Equivalent a b) (hbc : Equivalent b c) : Equivalent a c :=
  Relation.EqvGen.trans _ _ _ hab hbc

theorem of_step (h : Step a b) : Equivalent a b := Relation.EqvGen.rel _ _ h

theorem equivalence : Equivalence Equivalent := ⟨refl, symm, trans⟩

/-- What is the same after every step is the same for equivalent conditions. -/
theorem lift {r : Condition → Condition → Prop} (hr : Equivalence r)
    (hstep : ∀ p q, Step p q → r p q) (h : Equivalent a b) : r a b :=
  hr.eqvGen_iff.mp (Relation.EqvGen.mono hstep a b h)

/-- What respects every step respects the equivalence. -/
theorem congr {f : Condition → Condition} (hf : ∀ {p q}, Step p q → Step (f p) (f q))
    (h : Equivalent p q) : Equivalent (f p) (f q) :=
  lift (r := fun x y => Equivalent (f x) (f y)) (equivalence.comap f)
    (fun _ _ hstep => of_step (hf hstep)) h

theorem not (h : Equivalent p q) : Equivalent (.not p) (.not q) := h.congr .insideNot

/-- A connective that respects every step of one part respects steps of all parts. -/
theorem forall₂ {k : List Condition → Condition}
    (hk : ∀ {p q} before after, Step p q →
      Step (k (before ++ p :: after)) (k (before ++ q :: after)))
    (h : List.Forall₂ Equivalent ps qs) : Equivalent (k ps) (k qs) := by
  -- the parts in front are rearranged already
  have hprefix : ∀ done, Equivalent (k (done ++ ps)) (k (done ++ qs)) := by
    induction h with
    | nil => exact fun done => refl _
    | @cons p q ps qs hpq _ ih =>
      intro done
      have hhead : Equivalent (k (done ++ p :: ps)) (k (done ++ q :: ps)) :=
        hpq.congr (f := fun x => k (done ++ x :: ps)) (hk done ps)
      have htail := ih (done ++ [q])
      rw [List.append_assoc, List.append_assoc] at htail
      exact hhead.trans htail
  exact hprefix []

end Equivalent

/-- A simple condition is equivalent to its settled form. -/
theorem equivalent_settled (x : Comparison) :
    Equivalent (simple x.left x.operator x.right)
      (simple x.settled.left x.settled.operator x.settled.right) := by
  obtain ⟨l, o, r⟩ := x
  by_cases hmem : o ∈ commutative
  · rw [Comparison.settled_of_mem hmem]
    split
    · exact .of_step (.swap hmem)
    · exact .refl _
  · cases hl : literalOnLeft l r with
    | false => rw [Comparison.settled_of_neither (.inl hl) hmem]; exact .refl _
    | true =>
      cases ho : flipped? o with
      | none => rw [Comparison.settled_of_neither (.inr ho) hmem]; exact .refl _
      | some o' => rw [Comparison.settled_of_turned hl ho]; exact .of_step (.turn hl ho)

/-- Simple conditions that settle alike are equivalent. -/
theorem equivalent_of_settled_eq {l o r l' o' r' : String}
    (h : Comparison.settled ⟨l, o, r⟩ = Comparison.settled ⟨l', o', r'⟩) :
    Equivalent (simple l o r) (simple l' o' r') := by
  have hleft := equivalent_settled ⟨l, o, r⟩
  rw [h] at hleft
  exact hleft.trans (equivalent_settled ⟨l', o', r'⟩).symm

/-! ## 3. Signatures do not see a rearrangement

A signature is built from the signatures of the parts, sorted. So each step is checked at the place
where it happens, and the places above only see a signature that is the same. -/

/-- The signatures of some parts, one by one. -/
theorem signatures_eq_map : ∀ parts : List Condition, signatures parts = parts.map signature
  | [] => rfl
  | part :: rest => by rw [signatures, signatures_eq_map rest, List.map_cons]

/-- Sorted signatures are equal just where the parts have the same ones in any order. -/
theorem sortedSignatures_eq_iff (ps qs : List Condition) :
    sortedSignatures ps = sortedSignatures qs ↔ (ps.map signature).Perm (qs.map signature) := by
  rw [sortedSignatures, sortedSignatures, sorted_eq_iff, signatures_eq_map, signatures_eq_map]

/-- The signatures of some parts in ascending order, each with a semicolon behind it. -/
def listing (parts : List Condition) : String :=
  concat ((sortedSignatures parts).map (· ++ ";"))

@[simp] theorem signature_simple (l o r : String) :
    (simple l o r).signature = "SIMPLE:" ++ Comparison.text ⟨l, o, r⟩ := by
  rw [signature, simpleSignature_eq]

@[simp] theorem signature_and (parts : List Condition) :
    (and parts).signature = "AND:" ++ listing parts := by
  rw [signature, listing, sortedSignatures]

@[simp] theorem signature_or (parts : List Condition) :
    (or parts).signature = "OR:" ++ listing parts := by
  rw [signature, listing, sortedSignatures]

@[simp] theorem signature_not (part : Condition) :
    (not part).signature = "NOT:" ++ part.signature := by
  rw [signature]

/-- A listing depends on the signatures alone, and not on their order. -/
theorem listing_congr {ps qs : List Condition} (h : (ps.map signature).Perm (qs.map signature)) :
    listing ps = listing qs := by
  rw [listing, (sortedSignatures_eq_iff ps qs).mpr h, listing]

/-- A part may be put for another one of the same signature. -/
theorem listing_inside {p q : Condition} (before after : List Condition)
    (h : p.signature = q.signature) :
    listing (before ++ p :: after) = listing (before ++ q :: after) :=
  listing_congr (by simp [h])

/-- One step is not seen in the signature. -/
theorem signature_eq_of_step {a b : Condition} (h : Step a b) : a.signature = b.signature := by
  induction h with
  | permuteAnd h => rw [signature_and, signature_and, listing_congr (h.map signature)]
  | permuteOr h => rw [signature_or, signature_or, listing_congr (h.map signature)]
  | swap h => simp [Comparison.text, Comparison.settled_swap h]
  | turn hl ho => simp [Comparison.text, Comparison.settled_turn hl ho]
  | insideAnd before after _ ih => rw [signature_and, signature_and, listing_inside before after ih]
  | insideOr before after _ ih => rw [signature_or, signature_or, listing_inside before after ih]
  | insideNot _ ih => rw [signature_not, signature_not, ih]

/-- Steps to and fro are not seen either. -/
theorem signature_eq_of_equivalent {a b : Condition} (h : Equivalent a b) :
    a.signature = b.signature :=
  h.lift (eq_equivalence.comap signature) fun _ _ => signature_eq_of_step

/-- **No rearrangement is seen in the signature**, however many steps it takes and however deep they
go. -/
theorem signature_eq_of_steps {c d : Condition} (h : Relation.ReflTransGen Step c d) :
    c.signature = d.signature :=
  signature_eq_of_equivalent (Relation.EqvGen.reflTransGen_le_eqvGen Step c d h)

/-- A comparison is turned round, an equation under a negation is swapped, and the two change
places. -/
theorem signature_eq_of_steps_nested :
    let c := and [simple "5" "<" "salary", not (simple "dept" "=" "1")]
    let d := and [not (simple "1" "=" "dept"), simple "salary" ">" "5"]
    Relation.ReflTransGen Step c d ∧ c.signature = d.signature := by
  intro c d
  have hturn : Step c (and [simple "salary" ">" "5", not (simple "dept" "=" "1")]) :=
    .insideAnd [] [not (simple "dept" "=" "1")] (.turn (by decide +kernel) rfl)
  have hswap : Step (and [simple "salary" ">" "5", not (simple "dept" "=" "1")])
      (and [simple "salary" ">" "5", not (simple "1" "=" "dept")]) :=
    .insideAnd [simple "salary" ">" "5"] [] (.insideNot (.swap (by decide)))
  have hpermute : Step (and [simple "salary" ">" "5", not (simple "1" "=" "dept")]) d :=
    .permuteAnd (.swap _ _ _)
  have hsteps : Relation.ReflTransGen Step c d := .head hturn (.head hswap (.single hpermute))
  exact ⟨hsteps, signature_eq_of_steps hsteps⟩

/-! ## 4. What every rearrangement keeps

The converse is limited: what all rearrangements keep is the list of simple conditions. -/

mutual
/-- The simple conditions of a condition, in their order. -/
def comparisons : Condition → List Comparison
  | simple left operator right => [⟨left, operator, right⟩]
  | and parts => comparisonsOf parts
  | or parts => comparisonsOf parts
  | not part => part.comparisons

/-- The simple conditions of some conditions. -/
def comparisonsOf : List Condition → List Comparison
  | [] => []
  | part :: rest => part.comparisons ++ comparisonsOf rest
end

/-- The simple conditions of some conditions, one condition after another. -/
theorem comparisonsOf_eq_flatMap : ∀ parts : List Condition,
    comparisonsOf parts = parts.flatMap comparisons
  | [] => rfl
  | part :: rest => by rw [comparisonsOf, comparisonsOf_eq_flatMap rest, List.flatMap_cons]

/-- A step moves simple conditions and settles none of them otherwise. -/
theorem perm_settled_of_step {a b : Condition} (h : Step a b) :
    (a.comparisons.map Comparison.settled).Perm (b.comparisons.map Comparison.settled) := by
  induction h with
  | permuteAnd h | permuteOr h =>
    simp only [comparisons, comparisonsOf_eq_flatMap]
    exact (h.flatMap_right comparisons).map Comparison.settled
  | swap h => simp [comparisons, Comparison.settled_swap h]
  | turn hl ho => simp [comparisons, Comparison.settled_turn hl ho]
  | insideAnd before after _ ih | insideOr before after _ ih =>
    simp only [comparisons, comparisonsOf_eq_flatMap, List.flatMap_append, List.flatMap_cons,
      List.map_append]
    exact (ih.append_right _).append_left _
  | insideNot _ ih => exact ih

/-- Equivalent conditions are built of the same simple conditions, up to their settled form. -/
theorem perm_settled_of_equivalent {a b : Condition} (h : Equivalent a b) :
    (a.comparisons.map Comparison.settled).Perm (b.comparisons.map Comparison.settled) :=
  h.lift ((List.Perm.eqv Comparison).comap fun c => c.comparisons.map Comparison.settled)
    fun _ _ => perm_settled_of_step

end Condition

end QueryGrading
