import Mathlib
import QueryGrading.Query.Report
import QueryGrading.Text.Ascii

/-!
# Reports without a complaint

A report is clean if it says that all is equal and names no incorrect part, as a `ComparisonResult`
does when it is made by `new`. Every way to add to a report has a law here that says when the result
is clean: `correct`, `incorrect`, `hint` and `record_clause`. So a comparator is followed step by
step and the report itself is not opened again. Beside it stand the laws on the names of the correct
and of the incorrect parts.

A list that is compared with itself, item by item, gives pairs of an item with itself
(`forall_numbered_zip_self`). Two lists of one length that are compared item by item give no message
just where the items have the same keys (`concat_numbered_zip_eq_empty_iff`).

The laws are tagged for `simp` where the left side is a report that a comparator builds; laws with a
condition on the step are used by name.
-/

namespace QueryGrading

open Text (concat)

/-! ## 1. Items compared with themselves

Items are numbered for their messages only. A comparison item by item is therefore one of the items
themselves. -/

/-- Numbers do not matter to a function of the items. -/
theorem map_numbered {α β : Type} (f : α → β) : ∀ (first : Nat) (xs : List α),
    (numbered first xs).map (fun p => f p.2) = xs.map f
  | _, [] => rfl
  | first, x :: rest => by rw [numbered, List.map_cons, List.map_cons, map_numbered f]

/-- Nor to a property of the items. -/
theorem forall_numbered_iff {α : Type} {P : α → Prop} {first : Nat} {xs : List α} :
    (∀ p ∈ numbered first xs, P p.2) ↔ ∀ x ∈ xs, P x := by
  conv_rhs => rw [← List.map_id xs, ← map_numbered id first xs]
  rw [List.forall_mem_map]
  rfl

/-- A numbered item is one of the items. -/
theorem mem_of_mem_numbered {α : Type} {p : Nat × α} {first : Nat} {xs : List α}
    (h : p ∈ numbered first xs) : p.2 ∈ xs :=
  forall_numbered_iff.mpr (fun _ hx => hx) p h

/-- Lists of one length are related item by item if the numbered pairs are. -/
theorem forall_numbered_zip_iff {α β : Type} {R : α → β → Prop} {xs : List α} {ys : List β}
    (h : xs.length = ys.length) (first : Nat) :
    (∀ p ∈ numbered first (xs.zip ys), R p.2.1 p.2.2) ↔ List.Forall₂ R xs ys := by
  rw [List.forall₂_iff_zip, and_iff_right h]
  exact (forall_numbered_iff (P := fun p : α × β => R p.1 p.2)).trans Prod.forall

theorem forall_numbered_zip_self {α : Type} {P : Nat × α × α → Prop} {xs : List α}
    (h : ∀ n, ∀ x ∈ xs, P (n, x, x)) (first : Nat) : ∀ p ∈ numbered first (xs.zip xs), P p := by
  rintro ⟨n, a, b⟩ hp
  have hmem : (a, b) ∈ xs.zip xs := mem_of_mem_numbered hp
  rw [List.zip_eq_zipWith, List.zipWith_self] at hmem
  obtain ⟨x, hx, heq⟩ := List.mem_map.mp hmem
  cases heq
  exact h n a hx

@[simp] theorem Text.sameName_self (name : String) : Text.sameName name name = true :=
  beq_self_eq_true (Text.asciiLower name)

/-- Nothing is said of a list just where nothing is said of any item. -/
theorem concat_map_eq_empty_iff {α : Type} {f : α → String} : ∀ {xs : List α},
    concat (xs.map f) = "" ↔ ∀ x ∈ xs, f x = ""
  | [] => by simp [concat]
  | x :: rest => by
    rw [List.forall_mem_cons, ← concat_map_eq_empty_iff, List.map_cons, concat, String.join_cons,
      String.append_eq_empty_iff, concat]

/-- Where each item has something to say, only the empty list says nothing. -/
theorem concat_map_eq_empty_iff_nil {α : Type} {f : α → String} {xs : List α}
    (h : ∀ x ∈ xs, f x ≠ "") : concat (xs.map f) = "" ↔ xs = [] := by
  rw [concat_map_eq_empty_iff, List.eq_nil_iff_forall_not_mem]
  exact forall_congr' fun x => ⟨fun hx hmem => h x hmem (hx hmem), fun hx hmem => absurd hmem hx⟩

/-- Items of which nothing is said may be left out. -/
theorem concat_map_filter {α : Type} {f : α → String} {p : α → Bool} :
    ∀ {xs : List α}, (∀ x ∈ xs, p x = false → f x = "") →
      concat ((xs.filter p).map f) = concat (xs.map f)
  | [], _ => rfl
  | x :: rest, h => by
    have ih := concat_map_filter fun y hy => h y (List.mem_cons_of_mem x hy)
    rw [concat, concat] at ih
    cases hx : p x with
    | true => rw [List.filter_cons_of_pos hx, List.map_cons, List.map_cons, concat, concat,
        String.join_cons, String.join_cons, ih]
    | false => rw [List.filter_cons_of_neg (by simp [hx]), List.map_cons, concat, concat,
        String.join_cons, h x List.mem_cons_self hx, String.empty_append, ih]

/-- Items that are compared one by one, each by its key, do not differ just where all keys are
equal. -/
theorem concat_numbered_zip_eq_empty_iff {α κ : Type} {mismatch : Nat → α → α → String}
    {key : α → κ} (h : ∀ n a b, mismatch n a b = "" ↔ key a = key b) :
    ∀ {xs ys : List α} (_ : xs.length = ys.length) (first : Nat),
      concat ((numbered first (xs.zip ys)).map fun (n, a, b) => mismatch n a b) = "" ↔
        xs.map key = ys.map key
  | [], [], _, _ => by simp [numbered, concat]
  | x :: xs, y :: ys, hlength, first => by
    rw [List.zip_cons_cons, numbered, List.map_cons, concat, String.join_cons,
      String.append_eq_empty_iff, h, List.map_cons, List.map_cons, List.cons.injEq,
      ← concat_numbered_zip_eq_empty_iff h (Nat.succ.inj hlength) (first + 1), concat]

/-! ## 2. One clause

A verdict on a clause has three outcomes, and only one of them is a difference. -/

namespace ClauseVerdict

/-- The verdict names no difference. -/
def Agrees (v : ClauseVerdict) : Prop := v.outcome ≠ .incorrect

@[simp] theorem agrees_absent (message : String) : (absent message).Agrees := by
  simp [Agrees, absent]

theorem Agrees.of_absent {v : ClauseVerdict} (h : v.outcome = .absent) : v.Agrees := by
  simp [Agrees, h]

@[simp] theorem agrees_ofMessage_iff (message : String) (hints : List String) :
    (ofMessage message hints).Agrees ↔ message = "" := by
  simp [Agrees, ofMessage]

end ClauseVerdict

/-! ## 3. The whole report

What a step does to a report is seen in three fields: whether all is equal, and which parts are
correct or incorrect. The lemmas give each of them for each step, to be used by `simp`. -/

namespace Report

variable {r : Report}

/-- All is equal, and no part is incorrect. -/
def IsClean (r : Report) : Prop := r.equal = true ∧ r.incorrect = []

@[simp] theorem isClean_empty : empty.IsClean := ⟨rfl, rfl⟩

@[simp] theorem isClean_pass_iff (part : String) : (r.pass part).IsClean ↔ r.IsClean := Iff.rfl

@[simp] theorem isClean_advise_iff (hints : List String) : (r.advise hints).IsClean ↔ r.IsClean :=
  Iff.rfl

@[simp] theorem not_isClean_fail (part message : String) : ¬ (r.fail part message).IsClean :=
  fun h => Bool.false_ne_true h.1

@[simp] theorem not_isClean_failWith (part message hint : String) :
    ¬ (r.failWith part message hint).IsClean :=
  not_isClean_fail part message

/-- A clause spoils a report only if it differs. -/
@[simp] theorem isClean_addClause_iff (part : String) (v : ClauseVerdict) :
    (r.addClause part v).IsClean ↔ r.IsClean ∧ v.Agrees := by
  unfold addClause ClauseVerdict.Agrees
  cases v.outcome <;> simp

section Naming

variable {name part message hint : String} {v : ClauseVerdict}

@[simp] theorem incorrect_empty : empty.incorrect = [] := rfl

@[simp] theorem incorrect_pass (r : Report) (part : String) :
    (r.pass part).incorrect = r.incorrect :=
  rfl

@[simp] theorem mem_correct_pass_iff :
    name ∈ (r.pass part).correct ↔ name ∈ r.correct ∨ name = part := by
  simp [pass]

@[simp] theorem correct_advise (r : Report) (hints : List String) :
    (r.advise hints).correct = r.correct :=
  rfl

@[simp] theorem correct_fail (r : Report) (part message : String) :
    (r.fail part message).correct = r.correct :=
  rfl

@[simp] theorem correct_failWith (r : Report) (part message hint : String) :
    (r.failWith part message hint).correct = r.correct :=
  rfl

@[simp] theorem mem_incorrect_failWith_iff :
    name ∈ (r.failWith part message hint).incorrect ↔ name ∈ r.incorrect ∨ name = part := by
  simp [failWith, fail, advise]

@[simp] theorem mem_incorrect_addClause_iff :
    name ∈ (r.addClause part v).incorrect ↔ name ∈ r.incorrect ∨ name = part ∧ ¬ v.Agrees := by
  unfold addClause ClauseVerdict.Agrees
  cases v.outcome <;> simp [pass, fail, advise]

@[simp] theorem mem_correct_addClause_iff :
    name ∈ (r.addClause part v).correct ↔
      name ∈ r.correct ∨ name = part ∧ v.outcome = .correct := by
  unfold addClause
  cases v.outcome <;> simp

/-- The report names a part as incorrect just where the verdict on it is a difference, and then says
that not all is equal. -/
structure Tells (r : Report) (part : String) (v : ClauseVerdict) : Prop where
  mem_incorrect_iff : part ∈ r.incorrect ↔ ¬ v.Agrees
  not_equal : ¬ v.Agrees → r.equal = false

/-- A report that is not told of a clause that agrees says nothing of it. -/
theorem tells_of_agrees (hpart : part ∉ r.incorrect) (hv : v.Agrees) : r.Tells part v where
  mem_incorrect_iff := iff_of_false hpart (not_not.mpr hv)
  not_equal h := absurd hv h

/-- A report that is told of a clause tells of it. -/
theorem tells_addClause (hpart : part ∉ r.incorrect) : (r.addClause part v).Tells part v where
  mem_incorrect_iff := by simp [hpart]
  not_equal h := by
    rw [ClauseVerdict.Agrees, not_not] at h
    simp [addClause, h, fail, advise]

/-- A part that no step names is not named at the end. -/
theorem not_mem_incorrect_foldl {α : Type} {step : Report → α → Report}
    (h : ∀ r x, name ∉ r.incorrect → name ∉ (step r x).incorrect) (xs : List α)
    (hr : name ∉ r.incorrect) : name ∉ (xs.foldl step r).incorrect :=
  List.foldlRecOn (motive := fun report : Report => name ∉ report.incorrect) xs step hr
    fun report hreport x _ => h report x hreport

/-- Nor is a part correct that no step names. -/
theorem mem_correct_foldl_iff {α : Type} {step : Report → α → Report}
    (h : ∀ r x, name ∈ (step r x).correct ↔ name ∈ r.correct) (xs : List α) (r : Report) :
    name ∈ (xs.foldl step r).correct ↔ name ∈ r.correct :=
  List.foldlRecOn (motive := fun report : Report => name ∈ report.correct ↔ name ∈ r.correct) xs
    step Iff.rfl fun report hreport x _ => (h report x).trans hreport

end Naming

/-- Where each step keeps a report clean under a condition on its item, all steps do so under the
condition on all items. -/
theorem isClean_foldl_iff {α : Type} {step : Report → α → Report} {P : α → Prop}
    (h : ∀ r x, (step r x).IsClean ↔ r.IsClean ∧ P x) : ∀ (xs : List α) (r : Report),
    (xs.foldl step r).IsClean ↔ r.IsClean ∧ ∀ x ∈ xs, P x
  | [], r => by simp
  | x :: rest, r => by
    rw [List.foldl_cons, isClean_foldl_iff h rest, h, List.forall_mem_cons, and_assoc]

end Report

end QueryGrading
