import QueryGrading.Proofs.Query.Pairing
import QueryGrading.Proofs.Query.Signature

/-!
# What a report says about constraints

Foreign keys and checks are compared in one way, and the report on them is made of the pairs that
differ (`reported`): a foreign key by its columns in ascending order, the table and the referenced
columns, a check by its signature. So the report is without a complaint just where the forms are the
same under each key (`isClean_compareForeignKeys_iff`), and for checks just where the signatures are
the same up to order (`isClean_compareChecks_iff`).

What is reported otherwise is not exact. A constraint without one of its key takes the first that is
left, and that may be the one that a later constraint needs, which is then reported as well
(`reports_exact_iff`).

The loops are those of `compare_foreign_keys` and `compare_checks`, where `unused` holds what is
left of the constraints of the submission: `position` finds one of the key, and if there is none the
first is removed (`unused.remove(0)`). Which partner each constraint gets in this way is in
`Proofs.Query.Pairing`, without regard to what is compared afterwards.
-/

namespace QueryGrading

open Text (concat)

/-- What is compared of a foreign key: its columns in ascending order, and the rest as it is. -/
def ForeignKey.form (k : ForeignKey) : ForeignKey := { k with columns := k.columnSet }

/-- Two foreign keys have one form where the columns are the same up to order and all else is equal.
-/
theorem ForeignKey.form_eq_iff (a b : ForeignKey) :
    a.form = b.form ↔
      a.columnSet = b.columnSet ∧ a.table = b.table ∧ a.referenced = b.referenced := by
  rw [form, form, mk.injEq]

theorem ForeignKey.columnSet_eq_of_form (a b : ForeignKey) (h : a.form = b.form) :
    a.columnSet = b.columnSet :=
  ((form_eq_iff a b).mp h).1

namespace CreateTable

variable {r s : CreateTable} {report : Report}

/-! ## 1. Lists of constraints

The three kinds of constraints are compared by one scheme: the numbers are compared first, and only
lists of one length are looked into. -/

section Lists

variable {α : Type} {part noun message : String} {hints : List String} {xs ys : List α}

/-- Lists of one length that are not empty are compared item by item. -/
theorem compareConstraints_of_length {compareItems : Report → Report} (hne : xs ≠ [])
    (hlength : xs.length = ys.length) :
    compareConstraints part noun xs ys compareItems report = compareItems report := by
  rw [compareConstraints, if_neg (by simpa using hne), if_neg (not_not.mpr hlength)]

/-- A part is closed without a fault if nothing is to be said of it. -/
theorem isClean_closePart_iff :
    (closePart part message hints report).IsClean ↔ report.IsClean ∧ message = "" := by
  unfold closePart
  split <;> simp [*]

/-- What is to be said is added to the message. -/
theorem message_closePart :
    (closePart part message hints report).message = report.message ++ message := by
  unfold closePart
  split
  · next h => simp [h, Report.pass]
  · rfl

/-- Constraints agree under a condition that holds of empty lists, asks for lists of one length, and
says of such lists that there is nothing to be said. -/
theorem isClean_compareConstraints_iff {P : List α → List α → Prop} (hnil : P [] [])
    (hlength : P xs ys → xs.length = ys.length)
    (hmessage : xs.length = ys.length → (message = "" ↔ P xs ys)) :
    (compareConstraints part noun xs ys (closePart part message hints) report).IsClean ↔
      report.IsClean ∧ P xs ys := by
  by_cases hsame : xs.length = ys.length
  · by_cases hxs : xs = []
    · subst hxs
      obtain rfl := List.eq_nil_of_length_eq_zero hsame.symm
      simp [compareConstraints, hnil]
    · rw [compareConstraints_of_length hxs hsame, isClean_closePart_iff, hmessage hsame]
  · have hnot : ¬ P xs ys := fun h => hsame (hlength h)
    simp only [compareConstraints, hnot, and_false, iff_false]
    cases xs with
    | nil => cases ys with
      | nil => exact absurd rfl hsame
      | cons y rest => exact Report.not_isClean_failWith _ _ _
    | cons x rest =>
      rw [if_neg (by simp), if_pos hsame]
      exact Report.not_isClean_failWith _ _ _

/-- A part is correct where the lists are of one length, not empty, and nothing is to be said. -/
theorem mem_correct_compareConstraints_iff {name : String} :
    name ∈ (compareConstraints part noun xs ys (closePart part message hints) report).correct ↔
      name ∈ report.correct ∨ name = part ∧ xs ≠ [] ∧ xs.length = ys.length ∧ message = "" := by
  cases xs with
  | nil => cases ys <;> simp [compareConstraints]
  | cons x rest =>
    by_cases hlength : (x :: rest).length = ys.length
    · rw [compareConstraints_of_length (List.cons_ne_nil x rest) hlength, closePart]
      split <;> simp [*]
    · have hempty : ¬ (x :: rest).isEmpty = true := by simp
      rw [compareConstraints, if_neg hempty, if_pos hlength]
      simp only [Report.correct_failWith, hlength, false_and, and_false, or_false]

end Lists

/-! ## 2. Foreign keys

Foreign keys look for a partner by the set of their columns and are then compared in full. The
partners are those of the general pairing, with the sorted columns as the key. -/

/-- Nothing is said of a pair of foreign keys just where they have one form. -/
theorem foreignKeyMismatch_eq_empty_iff (n : Nat) (a b : ForeignKey) :
    foreignKeyMismatch n a b = "" ↔ b.form = a.form := by
  simp only [foreignKeyMismatch, String.append_eq_empty_iff, ForeignKey.form_eq_iff, and_assoc]
  refine and_congr ?_ (and_congr ?_ ?_) <;> split <;> simp [*]

/-- Two lists of one length give a foreign key and what it is compared with, one pair after
another. -/
theorem foreignKeysMismatch_eq : ∀ (first : Nat) {xs ys : List ForeignKey},
    xs.length = ys.length → foreignKeysMismatch (numbered first xs) ys =
      concat ((numbered first (xs.zip (partners ForeignKey.columnSet xs ys))).map
        fun p => foreignKeyMismatch p.1 p.2.1 p.2.2)
  | _, [], _, _ => rfl
  | first, x :: rest, ys, h => by
    obtain ⟨y, others, hpartner, hlength, -⟩ := exists_partner?_of_length ForeignKey.columnSet h
    rw [partners_cons hpartner, List.zip_cons_cons, numbered, numbered, List.map_cons, concat,
      String.join_cons, ← concat, ← foreignKeysMismatch_eq (first + 1) hlength,
      foreignKeysMismatch.eq_def]
    -- found by its key, or the first that is left: the loop and `partner?` take the same one
    rw [partner?] at hpartner
    dsimp only
    cases htake : takeFirst (fun k => k.columnSet == x.columnSet) ys with
    | some taken =>
      rw [htake, Option.some_or] at hpartner
      cases hpartner
      rfl
    | none =>
      rw [htake, Option.none_or] at hpartner
      cases ys with
      | nil => cases hpartner
      | cons k others =>
        cases hpartner
        rfl

/-- The text on foreign keys is made of the pairs that differ. -/
theorem foreignKeysMismatch_eq_reported {xs ys : List ForeignKey} (h : xs.length = ys.length) :
    foreignKeysMismatch (numbered 1 xs) ys =
      concat ((reported ForeignKey.columnSet ForeignKey.form xs ys).map
        fun p => foreignKeyMismatch p.1 p.2.1 p.2.2) := by
  rw [foreignKeysMismatch_eq 1 h, reported, concat_map_filter]
  intro p _ hp
  have hform : p.2.1.form = p.2.2.form := by simpa using hp
  exact (foreignKeyMismatch_eq_empty_iff _ _ _).mpr hform.symm

/-- Nothing is to be said of foreign keys with the same forms under each list of columns. -/
theorem foreignKeysMismatch_eq_empty_iff {xs ys : List ForeignKey} (h : xs.length = ys.length) :
    foreignKeysMismatch (numbered 1 xs) ys = "" ↔
      SameUnderKeys ForeignKey.columnSet ForeignKey.form xs ys := by
  rw [foreignKeysMismatch_eq_reported h, concat_map_eq_empty_iff_nil,
    reported_eq_nil_iff ForeignKey.columnSet_eq_of_form h]
  intro p hp
  have hdiffer : p.2.1.form ≠ p.2.2.form := by simpa using (List.mem_filter.mp hp).2
  rw [ne_eq, foreignKeyMismatch_eq_empty_iff]
  exact hdiffer.symm

/-- **Foreign keys agree just where the forms are the same under each list of columns.** -/
theorem isClean_compareForeignKeys_iff (r s : CreateTable) :
    (compareForeignKeys r s report).IsClean ↔ report.IsClean ∧
      SameUnderKeys ForeignKey.columnSet ForeignKey.form r.foreignKeys s.foreignKeys :=
  isClean_compareConstraints_iff (SameUnderKeys.refl _ _ []) SameUnderKeys.length_eq
    foreignKeysMismatch_eq_empty_iff

/-! ## 3. Checks

Checks look for a partner by their signature, and the signature is all that is compared. -/

/-- The checks that are reported are the pairs that differ. -/
theorem checksMismatch_eq : ∀ (first : Nat) {xs ys : List Condition}, xs.length = ys.length →
    checksMismatch (numbered first xs) ys =
      ((numbered first (xs.zip (partners Condition.signature xs ys))).filter
        fun p => p.2.1.signature ≠ p.2.2.signature).map fun p => (p.1, p.2.1, some p.2.2)
  | _, [], _, _ => rfl
  | first, x :: rest, ys, h => by
    obtain ⟨y, others, hpartner, hlength, -⟩ := exists_partner?_of_length Condition.signature h
    have ih := checksMismatch_eq (first + 1) hlength
    rw [partners_cons hpartner, List.zip_cons_cons, numbered, numbered, checksMismatch.eq_def]
    rw [partner?] at hpartner
    dsimp only
    rcases takeFirst_cases (fun c => c.signature == x.signature) ys with
      ⟨hnone, hys⟩ | ⟨before, z, after, rfl, hz, -, hsome⟩
    · rw [hnone, Option.none_or] at hpartner
      cases ys with
      | nil => cases hpartner
      | cons k others =>
        cases hpartner
        -- none has the signature, so the first that is left differs and is reported
        have hne : y.signature ≠ x.signature := by simpa using hys y List.mem_cons_self
        rw [hnone, List.filter_cons_of_pos (by simpa using hne.symm), List.map_cons, ← ih]
        rfl
    · rw [hsome, Option.some_or] at hpartner
      cases hpartner
      -- it was found by its signature, so nothing is reported
      have heq : y.signature = x.signature := by simpa using hz
      rw [hsome, List.filter_cons_of_neg (by simp [heq]), ← ih]

/-- What is said of a check that is reported. -/
def checkLine (p : Nat × Condition × Condition) : String :=
  s!"● For CHECK constraint {p.1}, expected: " ++ p.2.1.text ++ " but found: " ++ p.2.2.text ++
    ".\n"

/-- The hint on a check that is reported. -/
def checkHint (p : Nat × Condition × Condition) : String :=
  s!"💡 Adjust the CHECK constraint definition {p.1}."

/-- The checks of two tables that are reported. -/
def reportedChecks (r s : CreateTable) : List (Nat × Condition × Condition) :=
  reported Condition.signature Condition.signature r.checks s.checks

/-- Where the lists are of one length, the report on checks is made of the pairs that differ. -/
theorem compareChecks_eq (hne : r.checks ≠ []) (hlength : r.checks.length = s.checks.length) :
    compareChecks r s report = closePart "Check constraints"
      (concat ((reportedChecks r s).map checkLine)) ((reportedChecks r s).map checkHint)
      report := by
  rw [compareChecks, checksMismatch_eq 1 hlength, ← reported, ← reportedChecks]
  dsimp only
  rw [compareConstraints_of_length hne hlength, List.map_map, List.map_map]
  rfl

/-- There is something to say of every check that is reported. -/
theorem checkLine_ne_empty (p : Nat × Condition × Condition) : checkLine p ≠ "" := by
  unfold checkLine
  intro h
  exact absurd (String.append_eq_empty_iff.mp h).2 (by decide)

theorem concat_checkLine_eq_empty_iff (ps : List (Nat × Condition × Condition)) :
    concat (ps.map checkLine) = "" ↔ ps = [] :=
  concat_map_eq_empty_iff_nil fun p _ => checkLine_ne_empty p

/-- There is one hint for each check that is reported. -/
theorem hints_compareChecks (hne : r.checks ≠ []) (hlength : r.checks.length = s.checks.length) :
    (compareChecks r s report).hints = report.hints ++ (reportedChecks r s).map checkHint := by
  rw [compareChecks_eq hne hlength, closePart]
  split
  · next h =>
    rw [concat_checkLine_eq_empty_iff] at h
    rw [h, List.map_nil, List.append_nil]
    rfl
  · rfl

/-- **Checks agree just where the signatures are the same up to order.** -/
theorem isClean_compareChecks_iff (r s : CreateTable) :
    (compareChecks r s report).IsClean ↔ report.IsClean ∧
      (r.checks.map Condition.signature).Perm (s.checks.map Condition.signature) := by
  rw [← sameUnderKeys_self_iff]
  refine isClean_compareConstraints_iff (SameUnderKeys.refl _ _ []) SameUnderKeys.length_eq
    fun hlength => ?_
  rw [← reported_eq_nil_iff (fun _ _ => id) hlength, checksMismatch_eq 1 hlength, ← reported,
    List.map_map]
  exact concat_checkLine_eq_empty_iff _

/-! ## 4. Whether what is reported is exact

What a report says of constraints that differ is exact if each of them is missing from the other
side. A partner that is taken for want of a better one can spoil this for a later constraint. -/

/-- The foreign keys of two tables that are reported. -/
def reportedKeys (r s : CreateTable) : List (Nat × ForeignKey × ForeignKey) :=
  reported ForeignKey.columnSet ForeignKey.form r.foreignKeys s.foreignKeys

/-- What is said of a foreign key that is reported. -/
def keyLine (p : Nat × ForeignKey × ForeignKey) : String := foreignKeyMismatch p.1 p.2.1 p.2.2

theorem message_compareForeignKeys (hne : r.foreignKeys ≠ [])
    (hlength : r.foreignKeys.length = s.foreignKeys.length) :
    (compareForeignKeys r s report).message =
      report.message ++ concat ((reportedKeys r s).map keyLine) := by
  rw [compareForeignKeys, compareConstraints_of_length hne hlength, message_closePart,
    foreignKeysMismatch_eq_reported hlength]
  rfl

/-- **When the reports on checks and foreign keys are exact.**  There is a hint for each pair of
checks that differ and a text for each pair of foreign keys. The number of checks that are reported
is the size of the difference of the signatures as multisets, and a foreign key is reported as often
as the reference has more of its form than the submission, just where no constraint that is reported
is found beside another one: there it was taken although it was needed. -/
theorem reports_exact_iff (r s : CreateTable) (report : Report) :
    (r.checks ≠ [] → r.checks.length = s.checks.length →
      (compareChecks r s report).hints = report.hints ++ (reportedChecks r s).map checkHint ∧
      ((reportedChecks r s).length = (leftover (r.checks.map Condition.signature)
          (s.checks.map Condition.signature)).length ↔
        ∀ p ∈ reportedChecks r s, ∀ q ∈ reportedChecks r s,
          p.2.1.signature ≠ q.2.2.signature)) ∧
    (r.foreignKeys ≠ [] → r.foreignKeys.length = s.foreignKeys.length →
      (compareForeignKeys r s report).message =
        report.message ++ concat ((reportedKeys r s).map keyLine) ∧
      ((∀ f, ((reportedKeys r s).map fun p => p.2.1.form).count f =
          (r.foreignKeys.map ForeignKey.form).count f -
            (s.foreignKeys.map ForeignKey.form).count f) ↔
        ∀ p ∈ reportedKeys r s, ∀ q ∈ reportedKeys r s, p.2.1.form ≠ q.2.2.form)) := by
  constructor
  · intro hne hlength
    exact ⟨hints_compareChecks hne hlength, length_reported_eq_iff _ _ hlength⟩
  · intro hne hlength
    refine ⟨message_compareForeignKeys hne hlength, ?_⟩
    have hexact := leftover_perm_iff ForeignKey.columnSet ForeignKey.form hlength
    rw [List.perm_iff_count] at hexact
    simp only [count_leftover] at hexact
    exact (forall_congr' fun f => eq_comm).trans hexact

/-- Of two checks and of two foreign keys, one differs, and it takes the one that differs. -/
theorem reports_exact_iff_other :
    let a : Condition := .simple "a" ">" "1"
    let b : Condition := .simple "b" ">" "2"
    let c : Condition := .simple "c" ">" "3"
    let r : CreateTable :=
      { blank "t" with checks := [a, b], foreignKeys := [⟨["a"], "u", []⟩, ⟨["b"], "v", []⟩] }
    let s : CreateTable :=
      { blank "t" with checks := [c, b], foreignKeys := [⟨["c"], "u", []⟩, ⟨["b"], "v", []⟩] }
    r.checks ≠ [] ∧ r.checks.length = s.checks.length ∧
      (compareChecks r s .empty).hints = ["💡 Adjust the CHECK constraint definition 1."] ∧
      (leftover (r.checks.map Condition.signature) (s.checks.map Condition.signature)).length = 1 ∧
    r.foreignKeys ≠ [] ∧ r.foreignKeys.length = s.foreignKeys.length ∧
      ∀ f, ((reportedKeys r s).map fun p => p.2.1.form).count f =
        (r.foreignKeys.map ForeignKey.form).count f -
          (s.foreignKeys.map ForeignKey.form).count f := by
  intro a b c r s
  have hchecks : reportedChecks r s = [(1, a, c)] := by cbv
  have hkeys : reportedKeys r s = [(1, ⟨["a"], "u", []⟩, ⟨["c"], "u", []⟩)] := by decide +kernel
  obtain ⟨hhints, hcount⟩ := (reports_exact_iff r s .empty).1 (by simp [r]) rfl
  obtain ⟨-, hexact⟩ := (reports_exact_iff r s .empty).2 (by simp [r]) rfl
  rw [hchecks] at hhints hcount
  rw [hkeys] at hexact
  refine ⟨by simp [r], rfl, hhints.trans (by decide +kernel), ?_, by simp [r], rfl, ?_⟩
  · exact (hcount.mpr (by decide +kernel)).symm
  · rw [hkeys]
    exact hexact.mpr (by decide +kernel)

/-- A constraint takes the one that the next one needs: two are reported where one differs, and one
of the two is there. -/
theorem reports_not_exact :
    let a : Condition := .simple "a" ">" "1"
    let b : Condition := .simple "b" ">" "2"
    let c : Condition := .simple "c" ">" "3"
    let j : ForeignKey := ⟨["a"], "u", []⟩
    let k : ForeignKey := ⟨["b"], "v", []⟩
    let l : ForeignKey := ⟨["c"], "w", []⟩
    let r : CreateTable := { blank "t" with checks := [a, b], foreignKeys := [j, k] }
    let s : CreateTable := { blank "t" with checks := [b, c], foreignKeys := [k, l] }
    (compareChecks r s .empty).hints.length = 2 ∧
      (leftover (r.checks.map Condition.signature) (s.checks.map Condition.signature)).length = 1 ∧
      k ∈ s.foreignKeys ∧ reportedKeys r s = [(1, j, k), (2, k, l)] ∧
      (compareForeignKeys r s .empty).message = keyLine (1, j, k) ++ keyLine (2, k, l) := by
  decide +kernel

end CreateTable

end QueryGrading
