import QueryGrading.Proofs.Query.Rearrangement

/-!
# What a signature says

A signature writes the operands and the operator of a simple condition one after another, and the
parts of a conjunction with a semicolon behind each. So it can be read back, up to a rearrangement,
where no text holds a semicolon and no two simple conditions that differ run together to one text
(`Legible`): there equal signatures mean equivalent conditions (`signature_eq_iff`).

`compare_nodes` compares two conditions by their structure down to the first conjunction or
disjunction, and by `sorted_signatures` of the parts from there on. The two ways agree up to the
operator of a simple condition that stands alone (`matching_iff_signature`): the signature turns a
comparison round before it is written, and the comparison by structure wants the operators as they
stand. What it accepts is equivalent just where texts that differ do not run together
(`matching_sound_iff`).

A signature is read back by recursion on the condition. A text without a semicolon ends where a
semicolon or nothing follows (`Stops`), and no signature starts there, so the end of a listing is
seen as well.
-/

namespace QueryGrading

open Text (concat)

/-! ## 1. Texts in front of a semicolon

The signatures of the parts of a connective are joined by semicolons and nothing else. Where no part
has a semicolon of its own, they can be separated again. -/

/-- Nothing follows, or a semicolon. -/
def Stops (rest : List Char) : Prop := ∀ c ∈ rest.head?, c = ';'

@[simp] theorem stops_nil : Stops [] := by simp [Stops]

@[simp] theorem stops_cons_iff (c : Char) (rest : List Char) : Stops (c :: rest) ↔ c = ';' := by
  simp [Stops]

/-- Texts without a semicolon are read back from what stands in front of a stop. -/
theorem eq_of_append_eq : ∀ {xs ys rest rest' : List Char}, ';' ∉ xs → ';' ∉ ys →
    Stops rest → Stops rest' → xs ++ rest = ys ++ rest' → xs = ys ∧ rest = rest'
  | [], [], _, _, _, _, _, _, h => ⟨rfl, h⟩
  | [], y :: ys, _, _, _, hy, hr, _, h => by
    rw [List.nil_append, List.cons_append] at h
    subst h
    exact absurd (List.mem_cons.mpr (.inl ((stops_cons_iff y _).mp hr).symm)) hy
  | x :: xs, [], _, _, hx, _, _, hr', h => by
    rw [List.nil_append, List.cons_append] at h
    subst h
    exact absurd (List.mem_cons.mpr (.inl ((stops_cons_iff x _).mp hr').symm)) hx
  | x :: xs, y :: ys, _, _, hx, hy, hr, hr', h => by
    rw [List.cons_append, List.cons_append] at h
    obtain ⟨rfl, htail⟩ := List.cons.inj h
    obtain ⟨rfl, rfl⟩ := eq_of_append_eq (fun hmem => hx (List.mem_cons_of_mem x hmem))
      (fun hmem => hy (List.mem_cons_of_mem x hmem)) hr hr' htail
    exact ⟨rfl, rfl⟩

namespace Condition

/-! ## 2. Conditions that can be told apart

What can be told apart is a property of the simple conditions that two conditions are made of. -/

/-- The texts of two conditions can be told apart: none holds a semicolon, and a simple condition
of one and a simple condition of the other that run together to one text have the same parts. -/
structure Legible (a b : Condition) : Prop where
  unbroken : ∀ x ∈ a.comparisons, ';' ∉ x.text.toList
  unbroken' : ∀ y ∈ b.comparisons, ';' ∉ y.text.toList
  separate : ∀ x ∈ a.comparisons, ∀ y ∈ b.comparisons, x.text = y.text → x.settled = y.settled

instance decidableLegible (a b : Condition) : Decidable (Legible a b) :=
  decidable_of_iff
    ((∀ x ∈ a.comparisons, ';' ∉ x.text.toList) ∧ (∀ y ∈ b.comparisons, ';' ∉ y.text.toList) ∧
      ∀ x ∈ a.comparisons, ∀ y ∈ b.comparisons, x.text = y.text → x.settled = y.settled)
    ⟨fun ⟨h₁, h₂, h₃⟩ => ⟨h₁, h₂, h₃⟩, fun ⟨h₁, h₂, h₃⟩ => ⟨h₁, h₂, h₃⟩⟩

/-- Conditions built of fewer simple conditions are legible as well. -/
theorem Legible.of_subset {a b p q : Condition} (h : Legible a b)
    (hp : p.comparisons ⊆ a.comparisons) (hq : q.comparisons ⊆ b.comparisons) : Legible p q where
  unbroken x hx := h.unbroken x (hp hx)
  unbroken' y hy := h.unbroken' y (hq hy)
  separate x hx y hy := h.separate x (hp hx) y (hq hy)

/-- A part has no simple condition that the whole has not. -/
theorem comparisons_subset_of_mem {p : Condition} {parts : List Condition} (h : p ∈ parts) :
    p.comparisons ⊆ comparisonsOf parts := by
  rw [comparisonsOf_eq_flatMap]
  exact fun x hx => List.mem_flatMap.mpr ⟨p, h, hx⟩

section Parts

variable {p q : Condition} {ps qs : List Condition}

/-- The parts of legible conjunctions are legible. -/
theorem Legible.parts_and (h : Legible (and ps) (and qs)) : ∀ p ∈ ps, ∀ q ∈ qs, Legible p q :=
  fun _ hp _ hq => h.of_subset (comparisons_subset_of_mem hp) (comparisons_subset_of_mem hq)

/-- The parts of legible disjunctions are legible. -/
theorem Legible.parts_or (h : Legible (or ps) (or qs)) : ∀ p ∈ ps, ∀ q ∈ qs, Legible p q :=
  fun _ hp _ hq => h.of_subset (comparisons_subset_of_mem hp) (comparisons_subset_of_mem hq)

/-- What legible negations negate is legible. -/
theorem Legible.part (h : Legible (not p) (not q)) : Legible p q :=
  h.of_subset (List.Subset.refl _) (List.Subset.refl _)

end Parts

/-! ## 3. Reading a signature back

The form of a condition is read back from its signature, first the kind, then the parts. Each lemma
removes one layer. -/

/-- Where the signatures of two conditions stand in front of stops in one text, the conditions are
equivalent, and so the signatures end at the same place. -/
def ReadAlike (a b : Condition) : Prop :=
  ∀ {rest rest' : List Char}, Stops rest → Stops rest' →
    a.signature.toList ++ rest = b.signature.toList ++ rest' → Equivalent a b ∧ rest = rest'

/-- The parts of one list are those of the other, rearranged and in another order. -/
def Rearranged (ps qs : List Condition) : Prop :=
  ∃ qs', List.Forall₂ Equivalent ps qs' ∧ qs'.Perm qs

variable {a b p q : Condition} {ps qs : List Condition} {rest rest' : List Char}

/-- The signatures of some parts, each with a semicolon behind it, in the order of the parts. -/
def listed (ps : List Condition) : List Char := ps.flatMap fun p => p.signature.toList ++ [';']

/-- A signature starts with a letter. -/
theorem not_stops_signature (a : Condition) (rest : List Char) :
    ¬ Stops (a.signature.toList ++ rest) := by
  cases a <;> simp

/-- Listings in the order of their parts are read back part by part. -/
theorem readAlike_listed : ∀ {ps qs : List Condition} {rest rest' : List Char},
    (∀ p ∈ ps, ∀ q ∈ qs, ReadAlike p q) → Stops rest → Stops rest' →
    listed ps ++ rest = listed qs ++ rest' → List.Forall₂ Equivalent ps qs ∧ rest = rest'
  | [], [], _, _, _, _, _, h => ⟨.nil, h⟩
  | [], q :: qs, rest, rest', _, hr, _, h => by
    simp only [listed, List.flatMap_nil, List.nil_append, List.flatMap_cons, List.append_assoc] at h
    exact absurd (h ▸ hr) (not_stops_signature q _)
  | p :: ps, [], rest, rest', _, _, hr', h => by
    simp only [listed, List.flatMap_nil, List.nil_append, List.flatMap_cons, List.append_assoc] at h
    exact absurd (h ▸ hr') (not_stops_signature p _)
  | p :: ps, q :: qs, rest, rest', hread, hr, hr', h => by
    simp only [listed, List.flatMap_cons, List.append_assoc, List.cons_append,
      List.nil_append] at h
    obtain ⟨hpq, h⟩ := hread p List.mem_cons_self q List.mem_cons_self (by simp) (by simp) h
    obtain ⟨hrest, rfl⟩ := readAlike_listed
      (fun p' hp' q' hq' => hread p' (List.mem_cons_of_mem p hp') q' (List.mem_cons_of_mem q hq'))
      hr hr' (List.cons.inj h).2
    exact ⟨.cons hpq hrest, rfl⟩

/-- A listing is that of the parts in some order. -/
theorem exists_listed (ps : List Condition) :
    ∃ ps', ps'.Perm ps ∧ (listing ps).toList = listed ps' := by
  have hperm : (sortedSignatures ps).Perm (ps.map signature) := by
    rw [sortedSignatures, signatures_eq_map]
    exact sorted_perm _
  obtain ⟨ps', hps, hsorted⟩ := exists_perm_map_eq hperm
  refine ⟨ps', hps, ?_⟩
  rw [listing, hsorted, concat, String.toList_join, listed, List.map_map, List.flatMap_map]
  simp

/-- Listings are read back up to the order of the parts. -/
theorem readAlike_listing (hread : ∀ p ∈ ps, ∀ q ∈ qs, ReadAlike p q) (hr : Stops rest)
    (hr' : Stops rest') (h : (listing ps).toList ++ rest = (listing qs).toList ++ rest') :
    Rearranged ps qs ∧ rest = rest' := by
  obtain ⟨ps', hps, hlp⟩ := exists_listed ps
  obtain ⟨qs', hqs, hlq⟩ := exists_listed qs
  rw [hlp, hlq] at h
  obtain ⟨hforall, rfl⟩ := readAlike_listed
    (fun p hp q hq => hread p (hps.subset hp) q (hqs.subset hq)) hr hr' h
  obtain ⟨qs'', hforall', hperm⟩ := List.perm_comp_forall₂ hps.symm hforall
  exact ⟨⟨qs'', hforall', hperm.trans hqs⟩, rfl⟩

theorem Rearranged.symm (h : Rearranged ps qs) : Rearranged qs ps := by
  obtain ⟨qs', hforall, hperm⟩ := h
  have hback : List.Forall₂ Equivalent qs' ps := hforall.flip.imp fun _ _ => Equivalent.symm
  obtain ⟨ps', hforall', hperm'⟩ := List.perm_comp_forall₂ hperm.symm hback
  exact ⟨ps', hforall', hperm'⟩

theorem Rearranged.equivalent_and (h : Rearranged ps qs) : Equivalent (and ps) (and qs) := by
  obtain ⟨qs', hforall, hperm⟩ := h
  exact (Equivalent.forall₂ .insideAnd hforall).trans (.of_step (.permuteAnd hperm))

theorem Rearranged.equivalent_or (h : Rearranged ps qs) : Equivalent (or ps) (or qs) := by
  obtain ⟨qs', hforall, hperm⟩ := h
  exact (Equivalent.forall₂ .insideOr hforall).trans (.of_step (.permuteOr hperm))

/-- Rearranged parts have the same sorted signatures. -/
theorem Rearranged.sortedSignatures_eq (h : Rearranged ps qs) :
    sortedSignatures ps = sortedSignatures qs := by
  obtain ⟨qs', hforall, hperm⟩ := h
  have hmap : ps.map signature = qs'.map signature :=
    List.forall₂_eq_eq_eq ▸ (List.forall₂_map_left_iff.mpr (List.forall₂_map_right_iff.mpr
      (hforall.imp fun _ _ => signature_eq_of_equivalent)))
  rw [sortedSignatures_eq_iff, hmap]
  exact hperm.map signature

/-- **A signature is read back** by recursion on the condition: its first word says of which kind
it is, and the parts of a listing end where no further one begins. -/
theorem readAlike_of_legible : ∀ a b : Condition, Legible a b → ReadAlike a b
  | simple l o r, b, hlegible, rest, rest', hr, hr', h => by
    cases b with
    | simple l' o' r' =>
      simp only [signature_simple, String.toList_append, List.append_assoc] at h
      have hx : (⟨l, o, r⟩ : Comparison) ∈ (simple l o r).comparisons := by simp [comparisons]
      have hy : (⟨l', o', r'⟩ : Comparison) ∈ (simple l' o' r').comparisons := by
        simp [comparisons]
      obtain ⟨htext, rfl⟩ := eq_of_append_eq (hlegible.unbroken _ hx) (hlegible.unbroken' _ hy)
        hr hr' (List.append_cancel_left h)
      -- one text means one settled form, because no two run together
      have hsettled := hlegible.separate _ hx _ hy (String.toList_inj.mp htext)
      exact ⟨equivalent_of_settled_eq hsettled, rfl⟩
    | _ => simp at h
  | and ps, b, hlegible, rest, rest', hr, hr', h => by
    cases b with
    | and qs =>
      simp only [signature_and, String.toList_append, List.append_assoc] at h
      obtain ⟨hparts, rfl⟩ := readAlike_listing
        (fun p hp q hq => readAlike_of_legible p q (hlegible.parts_and p hp q hq))
        hr hr' (List.append_cancel_left h)
      exact ⟨hparts.equivalent_and, rfl⟩
    | _ => simp at h
  | or ps, b, hlegible, rest, rest', hr, hr', h => by
    cases b with
    | or qs =>
      simp only [signature_or, String.toList_append, List.append_assoc] at h
      obtain ⟨hparts, rfl⟩ := readAlike_listing
        (fun p hp q hq => readAlike_of_legible p q (hlegible.parts_or p hp q hq))
        hr hr' (List.append_cancel_left h)
      exact ⟨hparts.equivalent_or, rfl⟩
    | _ => simp at h
  | not p, b, hlegible, rest, rest', hr, hr', h => by
    cases b with
    | not q =>
      simp only [signature_not, String.toList_append, List.append_assoc] at h
      obtain ⟨hpart, rfl⟩ :=
        readAlike_of_legible p q hlegible.part hr hr' (List.append_cancel_left h)
      exact ⟨hpart.not, rfl⟩
    | _ => simp at h
termination_by a => sizeOf a
decreasing_by
  · have := List.sizeOf_lt_of_mem hp
    simp only [and.sizeOf_spec]
    omega
  · have := List.sizeOf_lt_of_mem hp
    simp only [or.sizeOf_spec]
    omega
  · simp only [not.sizeOf_spec]
    omega

/-- Equal listings of legible parts are those of rearranged parts. -/
theorem rearranged_of_listing_eq (hlegible : ∀ p ∈ ps, ∀ q ∈ qs, Legible p q)
    (h : listing ps = listing qs) : Rearranged ps qs :=
  (readAlike_listing (fun p hp q hq => readAlike_of_legible p q (hlegible p hp q hq))
    stops_nil stops_nil (by rw [h])).1

/-- **Signatures of legible conditions are equal just where the conditions are equivalent.** -/
theorem signature_eq_iff (h : Legible a b) : a.signature = b.signature ↔ Equivalent a b := by
  refine ⟨fun heq => ?_, signature_eq_of_equivalent⟩
  exact (readAlike_of_legible a b h stops_nil stops_nil (by rw [heq])).1

/-! ## 4. Comparison by structure

`compare_nodes` does not use the signature of a simple condition that stands alone. It compares the
operators as they stand, and so it tells a comparison from its mirror image. -/

/-- Operands are compared without their order. -/
theorem sameOperands_iff (l₁ r₁ l₂ r₂ : String) :
    sameOperands l₁ r₁ l₂ r₂ = true ↔ (l₁ = l₂ ∧ r₁ = r₂) ∨ (l₁ = r₂ ∧ r₁ = l₂) := by
  simp only [sameOperands, List.contains_eq_mem, Bool.and_eq_true, decide_eq_true_eq, List.mem_cons,
    List.not_mem_nil, or_false]
  grind

/-- Simple conditions that stand alone match just where the operators are the same and so are the
settled forms. -/
theorem simpleMismatch?_eq_none_iff (l₁ o₁ r₁ l₂ o₂ r₂ : String) :
    simpleMismatch? l₁ o₁ r₁ l₂ o₂ r₂ = none ↔
      o₁ = o₂ ∧ Comparison.settled ⟨l₁, o₁, r₁⟩ = Comparison.settled ⟨l₂, o₂, r₂⟩ := by
  unfold simpleMismatch?
  split
  · next hne => simp [hne]
  · next heq =>
    obtain rfl := not_not.mp heq
    have hsame : (if commutative.contains o₁ then sameOperands l₁ r₁ l₂ r₂
          else l₁ == l₂ && r₁ == r₂) = true ↔
        Comparison.settled ⟨l₁, o₁, r₁⟩ = Comparison.settled ⟨l₂, o₁, r₂⟩ := by
      by_cases hmem : o₁ ∈ commutative
      · simp [hmem, sameOperands_iff, Comparison.settled_eq_iff_of_mem hmem]
      · simp [hmem, Comparison.settled_eq_iff_of_not_mem hmem]
    simp only [true_and, ← hsame, ite_eq_left_iff, reduceCtorEq, imp_false, not_not]

/-- Lists of parts match just where their sorted signatures are equal. -/
theorem partsMismatch?_eq_none_iff (kind : String) (ps qs : List Condition) :
    partsMismatch? kind ps qs = none ↔ sortedSignatures ps = sortedSignatures qs := by
  unfold partsMismatch?
  split
  · next hlength =>
    simp only [reduceCtorEq, false_iff]
    intro heq
    have hperm := (sortedSignatures_eq_iff ps qs).mp heq
    exact hlength (by simpa using hperm.length_eq)
  · simp

/-- The operator of a condition that is simple under its negations. -/
def operator? : Condition → Option String
  | simple _ operator _ => some operator
  | not part => part.operator?
  | _ => none

/-- Conditions match where no mismatch is found. -/
theorem matching_iff (a b : Condition) : matching a b = true ↔ mismatch? a b = none :=
  Option.isNone_iff_eq_none

/-- Conjunctions match just where their parts have the same signatures, in any order. -/
theorem matching_and_iff (ps qs : List Condition) :
    matching (and ps) (and qs) = true ↔ (ps.map signature).Perm (qs.map signature) := by
  rw [matching_iff, mismatch?, partsMismatch?_eq_none_iff, sortedSignatures_eq_iff]

/-- Conditions that match have one signature, and alone under their negations also one operator. -/
theorem eq_of_matching (a b : Condition) (h : matching a b = true) :
    a.signature = b.signature ∧ a.operator? = b.operator? := by
  rw [matching_iff] at h
  fun_induction mismatch? a b with
  | case1 l₁ o₁ r₁ l₂ o₂ r₂ =>
    obtain ⟨rfl, hsettled⟩ := (simpleMismatch?_eq_none_iff ..).mp h
    exact ⟨by simp [Comparison.text, hsettled], rfl⟩
  | case2 ps qs =>
    rw [signature_and, signature_and, listing, (partsMismatch?_eq_none_iff ..).mp h, listing]
    exact ⟨rfl, rfl⟩
  | case3 ps qs =>
    rw [signature_or, signature_or, listing, (partsMismatch?_eq_none_iff ..).mp h, listing]
    exact ⟨rfl, rfl⟩
  | case4 p q ih =>
    rw [signature_not, signature_not, (ih h).1]
    exact ⟨rfl, (ih h).2⟩
  | case5 a b => exact absurd h (by simp)

/-- Where legible conditions have one signature, only the operators of simple conditions that stand
alone may keep them from matching. -/
theorem mismatch?_eq_none_of_signature_eq : ∀ a b : Condition, Legible a b →
    a.signature = b.signature → a.operator? = b.operator? → mismatch? a b = none
  | simple l o r, b, hlegible, hsig, hop => by
    cases b with
    | simple l' o' r' =>
      rw [signature_simple, signature_simple, String.append_right_inj] at hsig
      have hsettled := hlegible.separate _ (by simp [comparisons]) _ (by simp [comparisons]) hsig
      exact (simpleMismatch?_eq_none_iff ..).mpr ⟨by simpa [operator?] using hop, hsettled⟩
    | _ => exact absurd (congrArg String.toList hsig) (by simp)
  | and ps, b, hlegible, hsig, _ => by
    cases b with
    | and qs =>
      rw [signature_and, signature_and, String.append_right_inj] at hsig
      exact (partsMismatch?_eq_none_iff ..).mpr
        (rearranged_of_listing_eq hlegible.parts_and hsig).sortedSignatures_eq
    | _ => exact absurd (congrArg String.toList hsig) (by simp)
  | or ps, b, hlegible, hsig, _ => by
    cases b with
    | or qs =>
      rw [signature_or, signature_or, String.append_right_inj] at hsig
      exact (partsMismatch?_eq_none_iff ..).mpr
        (rearranged_of_listing_eq hlegible.parts_or hsig).sortedSignatures_eq
    | _ => exact absurd (congrArg String.toList hsig) (by simp)
  | not p, b, hlegible, hsig, hop => by
    cases b with
    | not q =>
      rw [signature_not, signature_not, String.append_right_inj] at hsig
      exact mismatch?_eq_none_of_signature_eq p q hlegible.part hsig hop
    | _ => exact absurd (congrArg String.toList hsig) (by simp)

/-- **The two ways to compare conditions agree but for one operator.**  Conditions that match have
one signature. Legible conditions of one signature match unless each is simple under the same
negations and the operators differ, as they do where one is turned round. -/
theorem matching_iff_signature (a b : Condition) :
    (matching a b = true → a.signature = b.signature) ∧
      (Legible a b →
        (matching a b = true ↔ a.signature = b.signature ∧ a.operator? = b.operator?)) := by
  refine ⟨fun h => (eq_of_matching a b h).1, fun hlegible => ⟨eq_of_matching a b, ?_⟩⟩
  rintro ⟨hsig, hop⟩
  rw [matching_iff]
  exact mismatch?_eq_none_of_signature_eq a b hlegible hsig hop

/-- A comparison that is turned round inside a conjunction. -/
theorem matching_iff_signature_turned :
    let a := and [simple "5" "<" "salary", simple "dept" "=" "1"]
    let b := and [simple "1" "=" "dept", simple "salary" ">" "5"]
    Legible a b ∧ matching a b = true ∧ a.signature = b.signature := by
  intro a b
  have hlegible : Legible a b := by decide +kernel
  have hmatch : matching a b = true := (matching_and_iff _ _).mpr (by decide +kernel)
  exact ⟨hlegible, hmatch, ((matching_iff_signature a b).2 hlegible).mp hmatch |>.1⟩

/-- The same comparison matches inside a conjunction and does not match alone. -/
theorem turned_differs_alone :
    let a := simple "5" "<" "salary"
    let b := simple "salary" ">" "5"
    let c := simple "dept" "=" "1"
    a.signature = b.signature ∧ matching a b = false ∧ matching (and [a, c]) (and [b, c]) = true :=
  ⟨by decide +kernel, by decide +kernel, (matching_and_iff _ _).mpr (by decide +kernel)⟩

/-! ## 5. Soundness of the comparison

The conditions are any that are made from a given stock of simple ones, so the condition for
soundness can be put on the stock. -/

/-- The simple conditions are taken from a stock. -/
def DrawnFrom (stock : Set Comparison) (c : Condition) : Prop := ∀ x ∈ c.comparisons, x ∈ stock

/-- **No two inequivalent conditions match, just where simple conditions that differ do not run
together to one text.**  The stock is any set of simple conditions without a semicolon; the
conditions are of any shape and depth. -/
theorem matching_sound_iff (stock : Set Comparison)
    (hstock : ∀ x ∈ stock, ';' ∉ x.text.toList) :
    (∀ a b, DrawnFrom stock a → DrawnFrom stock b → matching a b = true → Equivalent a b) ↔
      ∀ x ∈ stock, ∀ y ∈ stock, x.text = y.text → x.settled = y.settled := by
  constructor
  · intro hsound x hx y hy htext
    -- the text is all that is seen of a simple condition inside a conjunction
    have hmatch : matching (and [simple x.left x.operator x.right])
        (and [simple y.left y.operator y.right]) = true := by
      rw [matching_and_iff, List.map_singleton, List.map_singleton, signature_simple,
        signature_simple, htext]
    have hequiv := hsound _ _ (by simpa [DrawnFrom, comparisons, comparisonsOf] using hx)
      (by simpa [DrawnFrom, comparisons, comparisonsOf] using hy) hmatch
    simpa [comparisons, comparisonsOf] using perm_settled_of_equivalent hequiv
  · intro hseparate a b ha hb hmatch
    have hlegible : Legible a b :=
      ⟨fun x hx => hstock x (ha x hx), fun y hy => hstock y (hb y hy),
        fun x hx y hy => hseparate x (ha x hx) y (hb y hy)⟩
    exact (signature_eq_iff hlegible).mp (eq_of_matching a b hmatch).1

/-- A literal on either side and the operands of an equation do no harm. -/
theorem matching_sound_iff_salaries :
    let salaries : List Comparison :=
      [⟨"salary", ">", "5"⟩, ⟨"5", "<", "salary"⟩, ⟨"1", "=", "dept"⟩]
    (∀ x ∈ {x | x ∈ salaries}, ';' ∉ x.text.toList) ∧
      ∀ a b, DrawnFrom {x | x ∈ salaries} a → DrawnFrom {x | x ∈ salaries} b →
        matching a b = true → Equivalent a b := by
  intro salaries
  have hstock : ∀ x ∈ salaries, ';' ∉ x.text.toList := by decide +kernel +revert
  have hseparate : ∀ x ∈ salaries, ∀ y ∈ salaries, x.text = y.text → x.settled = y.settled := by
    decide +kernel +revert
  exact ⟨hstock, (matching_sound_iff {x | x ∈ salaries} hstock).mpr hseparate⟩

/-- `a < '=5'` and `a <= '5'` run together to one text, so conjunctions match in which one stands
for the other. -/
theorem matching_not_equivalent :
    let a := and [simple "a" "<" "=5", simple "b" "=" "1"]
    let b := and [simple "a" "<=" "5", simple "b" "=" "1"]
    matching a b = true ∧ ¬ Equivalent a b := by
  refine ⟨(matching_and_iff _ _).mpr (by decide +kernel), fun h => ?_⟩
  have hmem := (perm_settled_of_equivalent h).mem_iff (a := ⟨"a", "<", "=5"⟩)
  exact absurd (hmem.mp (by decide +kernel)) (by decide +kernel)

end Condition

end QueryGrading
