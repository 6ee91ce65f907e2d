import QueryGrading.Proofs.Query.Consistency

/-!
# Which statements are compared with each other

In `compare_queries` each statement of a reference takes the first statement of the submission that
is left and has its kind, which is the key of its node. `matching` says which one that is and what
is left at the end, and the report on all statements is put together from it: a comparison for each
pair, a missing statement for each one without a partner, an extra one for each that is left
(`compareEach_eq_reports`). Which statements are used is a list of marks in the source; here those
that are left are passed on.

Statements of different keys stand in any order, but they do not disturb each other. Under each key
those of both sides are paired in the order in which they stand, as far as both have some
(`Matching.InOrder`). One step of the search keeps this, because what it takes is the first one of
its key and what it passes over has other keys (`InOrder.take`, `InOrder.skip`). How many are
paired, missing and extra is then a matter of counting (`compareAll_in_order`).

What is said of a pair is left to the comparator of its kind (`compareTrees`), and the goals that
stand between the reports are part of their messages.
-/

namespace QueryGrading

namespace Statement

open CreateTable (takeFirst)

variable {key : String} {r s : Tree} {rs ss others : List Tree}

/-! ## 1. Partners

`compare_statements` goes through the reference and takes for each statement the first one of its
key that is not used yet. The definition keeps what the loop forgets: the pairs, the statements
without a partner and those that are left. -/

/-- The statements of a reference, each with the one that it is compared with, if there is one, and
the statements of the submission that are left. -/
structure Matching where
  partners : List (Tree × Option Tree)
  unused : List Tree

namespace Matching

/-- One more statement of the reference, in front of the others. -/
def cons (p : Tree × Option Tree) (m : Matching) : Matching := ⟨p :: m.partners, m.unused⟩

/-- The statements that are compared with each other. -/
def pairs (m : Matching) : List (Tree × Tree) :=
  m.partners.filterMap fun p => p.2.map fun s => (p.1, s)

/-- The statements of the reference that have no partner. -/
def lacking (m : Matching) : List Tree :=
  m.partners.filterMap fun p => if p.2.isSome then none else some p.1

variable {m : Matching}

@[simp] theorem unused_cons (p : Tree × Option Tree) : (m.cons p).unused = m.unused := rfl

@[simp] theorem pairs_cons_some : (m.cons (r, some s)).pairs = (r, s) :: m.pairs := rfl

@[simp] theorem pairs_cons_none : (m.cons (r, none)).pairs = m.pairs := rfl

@[simp] theorem lacking_cons_some : (m.cons (r, some s)).lacking = m.lacking := rfl

@[simp] theorem lacking_cons_none : (m.cons (r, none)).lacking = r :: m.lacking := rfl

end Matching

/-- What each statement of the reference takes, one after another: the first one left with its
key. -/
def matching : List Tree → List Tree → Matching
  | [], found => ⟨[], found⟩
  | r :: rest, found =>
    match takeFirst (fun s => s.key == r.key) found with
    | some (s, others) => (matching rest others).cons (r, some s)
    | none => (matching rest found).cons (r, none)

/-- A statement of which the key is left takes the first with that key. -/
theorem matching_cons_some (h : takeFirst (fun s => s.key == r.key) ss = some (s, others)) :
    matching (r :: rs) ss = (matching rs others).cons (r, some s) := by
  rw [matching, h]

/-- A statement of which no key is left goes without a partner. -/
theorem matching_cons_none (h : takeFirst (fun s => s.key == r.key) ss = none) :
    matching (r :: rs) ss = (matching rs ss).cons (r, none) := by
  rw [matching, h]

/-- **No statement of the submission is used twice, and none is lost**: those that are paired and
those that are left are all there are, in another order. -/
theorem matching_perm : ∀ rs ss : List Tree,
    ((matching rs ss).pairs.map Prod.snd ++ (matching rs ss).unused).Perm ss
  | [], ss => .refl ss
  | r :: rest, ss => by
    cases hfirst : takeFirst (fun s => s.key == r.key) ss with
    | none =>
      rw [matching_cons_none hfirst]
      exact matching_perm rest ss
    | some taken =>
      obtain ⟨s, others⟩ := taken
      rw [matching_cons_some hfirst]
      exact ((matching_perm rest others).cons s).trans (CreateTable.perm_of_takeFirst hfirst).symm

/-! ## 2. In order under each key

Statements of one key are not mixed up with others, so the matching is looked at key by key. There
the two lists are paired from the front until one of them ends. -/

/-- The statements with a key. -/
def withKey (key : String) (ts : List Tree) : List Tree := ts.filter (·.key == key)

/-- A statement with the key stands in front of the others with it. -/
theorem withKey_cons_of_eq (h : r.key = key) : withKey key (r :: rs) = r :: withKey key rs :=
  List.filter_cons_of_pos (by simpa using h)

/-- A statement of another key is passed over. -/
theorem withKey_cons_of_ne (h : r.key ≠ key) : withKey key (r :: rs) = withKey key rs :=
  List.filter_cons_of_neg (by simpa using h)

/-- Under a key the statements of both sides are paired in the order in which they stand, as far as
both have some; the others are those without a partner and those that are left. -/
structure Matching.InOrder (m : Matching) (rs ss : List Tree) (key : String) : Prop where
  pairs : m.pairs.filter (·.1.key == key) = (withKey key rs).zip (withKey key ss)
  lacking : withKey key m.lacking = (withKey key rs).drop (withKey key ss).length
  unused : withKey key m.unused = (withKey key ss).drop (withKey key rs).length

namespace Matching

variable {m : Matching}

/-- A statement takes the first one of its key. -/
theorem InOrder.take (h : m.InOrder rs others key) (hsame : s.key = r.key)
    (hfirst : withKey key ss = withKey key (s :: others)) :
    (m.cons (r, some s)).InOrder (r :: rs) ss key := by
  by_cases hkey : r.key = key
  · rw [withKey_cons_of_eq (hsame.trans hkey)] at hfirst
    refine ⟨?_, ?_, ?_⟩
    · rw [pairs_cons_some, List.filter_cons_of_pos (by simpa using hkey), h.pairs, hfirst,
        withKey_cons_of_eq hkey, List.zip_cons_cons]
    · rw [lacking_cons_some, h.lacking, hfirst, withKey_cons_of_eq hkey, List.length_cons,
        List.drop_succ_cons]
    · rw [unused_cons, h.unused, hfirst, withKey_cons_of_eq hkey, List.length_cons,
        List.drop_succ_cons]
  · rw [withKey_cons_of_ne (hsame.trans_ne hkey)] at hfirst
    refine ⟨?_, ?_, ?_⟩
    · rw [pairs_cons_some, List.filter_cons_of_neg (by simpa using hkey), h.pairs, hfirst,
        withKey_cons_of_ne hkey]
    · rw [lacking_cons_some, h.lacking, hfirst, withKey_cons_of_ne hkey]
    · rw [unused_cons, h.unused, hfirst, withKey_cons_of_ne hkey]

/-- A statement finds none of its key. -/
theorem InOrder.skip (h : m.InOrder rs ss key) (hnone : withKey r.key ss = []) :
    (m.cons (r, none)).InOrder (r :: rs) ss key := by
  obtain ⟨hpairs, hlacking, hunused⟩ := h
  by_cases hkey : r.key = key
  · subst hkey
    rw [hnone] at hpairs hlacking hunused
    refine ⟨?_, ?_, ?_⟩
    · -- nothing is left of the key, so neither the shorter nor the longer list is paired
      rw [pairs_cons_none, hpairs, hnone, List.zip_nil_right, List.zip_nil_right]
    · rw [lacking_cons_none, withKey_cons_of_eq rfl, withKey_cons_of_eq rfl, hlacking, hnone]
      rfl
    · rw [unused_cons, hunused, hnone, List.drop_nil, List.drop_nil]
  · refine ⟨?_, ?_, ?_⟩
    · rw [pairs_cons_none, hpairs, withKey_cons_of_ne hkey]
    · rw [lacking_cons_none, withKey_cons_of_ne hkey, withKey_cons_of_ne hkey, hlacking]
    · rw [unused_cons, hunused, withKey_cons_of_ne hkey]

end Matching

/-- **Statements are matched in order under each key**, whatever stands between them. -/
theorem inOrder_matching (key : String) : ∀ rs ss : List Tree,
    (matching rs ss).InOrder rs ss key
  | [], _ => ⟨rfl, List.drop_nil.symm, rfl⟩
  | r :: rest, ss => by
    cases hfirst : takeFirst (fun s => s.key == r.key) ss with
    | none =>
      rw [matching_cons_none hfirst]
      -- none is left with the key of `r`
      refine (inOrder_matching key rest ss).skip ?_
      rw [withKey, List.filter_eq_nil_iff]
      intro s hs
      rw [CreateTable.takeFirst_eq_none hfirst s hs]
      exact Bool.false_ne_true
    | some taken =>
      obtain ⟨s, others⟩ := taken
      rw [matching_cons_some hfirst]
      -- what is taken has the key of `r`, and stands first among its like
      refine (inOrder_matching key rest others).take ?_ ?_
      · have htaken := CreateTable.of_takeFirst_eq_some hfirst
        exact beq_iff_eq.mp htaken
      · exact CreateTable.filter_takeFirst Tree.key hfirst key

namespace Matching

variable {m : Matching}

/-- As many pairs as both sides have statements of the key. -/
theorem InOrder.length_pairs (h : m.InOrder rs ss key) :
    (m.pairs.filter (·.1.key == key)).length =
      min (withKey key rs).length (withKey key ss).length := by
  rw [h.pairs, List.length_zip]

/-- What the reference has more of the key is without a partner. -/
theorem InOrder.length_lacking (h : m.InOrder rs ss key) :
    (withKey key m.lacking).length =
      (withKey key rs).length - min (withKey key rs).length (withKey key ss).length := by
  rw [h.lacking, List.length_drop]
  omega

/-- What the submission has more of the key is left. -/
theorem InOrder.length_unused (h : m.InOrder rs ss key) :
    (withKey key m.unused).length =
      (withKey key ss).length - min (withKey key rs).length (withKey key ss).length := by
  rw [h.unused, List.length_drop]
  omega

/-- Every statement has a partner on the other side just where both sides have as many of each
key. -/
theorem complete_iff (h : ∀ key, m.InOrder rs ss key) :
    (m.lacking = [] ∧ m.unused = []) ↔
      ∀ key, (withKey key rs).length = (withKey key ss).length := by
  -- a list is empty if it has no statement of any key
  have hnil : ∀ ts : List Tree, ts = [] ↔ ∀ key, (withKey key ts).length = 0 := by
    intro ts
    constructor
    · rintro rfl key
      rfl
    · intro hzero
      rw [List.eq_nil_iff_forall_not_mem]
      intro t ht
      have hmem : t ∈ withKey t.key ts := List.mem_filter.mpr ⟨ht, beq_self_eq_true t.key⟩
      rw [List.eq_nil_of_length_eq_zero (hzero t.key)] at hmem
      cases hmem
  rw [hnil, hnil, ← forall_and]
  refine forall_congr' fun key => ?_
  rw [(h key).length_lacking, (h key).length_unused]
  omega

end Matching

/-! ## 3. The report on a matching

The messages are read off the matching. A label names its key, so the number of labels of a kind is
the number of statements that it stands for. -/

/-- The part that names a missing statement. -/
def missingLabel (key : String) : String := key ++ " statement"

/-- The part that names an extra statement. -/
def extraLabel (key : String) : String := "Extra " ++ key

/-- The label of a missing statement tells its key. -/
theorem missingLabel_injective : Function.Injective missingLabel := by
  intro a b hab
  exact (String.append_left_inj _).mp hab

/-- The label of an extra statement tells its key. -/
theorem extraLabel_injective : Function.Injective extraLabel := by
  intro a b hab
  exact (String.append_right_inj _).mp hab

/-- The report on a statement of the reference and its partner. -/
def reportOn : Tree × Option Tree → Report
  | (r, some s) => compareGoal r s
  | (r, none) => missing r.key

/-- The incorrect parts of a statement of the reference and its partner. -/
def partsOn : Tree × Option Tree → List String
  | (r, some s) => (compareTrees r s).incorrect
  | (r, none) => [missingLabel r.key]

/-- The goal that is put in front of a comparison adds no incorrect part. -/
theorem incorrect_reportOn : ∀ p : Tree × Option Tree, (reportOn p).incorrect = partsOn p
  | (_, some _) => rfl
  | (_, none) => rfl

namespace Matching

/-- The reports on all statements of the reference, and on those that are left. -/
def reports (m : Matching) : List Report :=
  m.partners.map reportOn ++ m.unused.map fun s => extra s.key

/-- The labels of the statements of the reference that have no partner. -/
def missingLabels (m : Matching) : List String := m.lacking.map fun r => missingLabel r.key

/-- The labels of the statements of the submission that are left. -/
def extraLabels (m : Matching) : List String := m.unused.map fun s => extraLabel s.key

/-- One more statement, and the report on it in front of the others. -/
theorem reports_cons (p : Tree × Option Tree) (m : Matching) :
    (m.cons p).reports = reportOn p :: m.reports :=
  rfl

/-- The incorrect parts of all reports, those on what is left at the end. -/
theorem incorrect_reports (m : Matching) :
    m.reports.flatMap Report.incorrect = m.partners.flatMap partsOn ++ m.extraLabels := by
  rw [reports, List.flatMap_append, List.flatMap_map, List.flatMap_map]
  congr 1
  · exact congrArg (m.partners.flatMap ·) (funext incorrect_reportOn)
  · exact List.flatMap_pure_eq_map _ _

/-- All reports are equal just where every statement has a partner and every pair compares equal. -/
theorem forall_reports_equal_iff (m : Matching) :
    (∀ report ∈ m.reports, report.equal = true) ↔
      (m.lacking = [] ∧ m.unused = []) ∧ ∀ p ∈ m.pairs, (compareTrees p.1 p.2).equal = true := by
  have hunused : (∀ s ∈ m.unused, (extra s.key).equal = true) ↔ m.unused = [] := by
    rw [List.eq_nil_iff_forall_not_mem]
    exact forall₂_congr fun s _ => by simp [extra, Report.fail]
  have hpartners : (∀ p ∈ m.partners, (reportOn p).equal = true) ↔
      m.lacking = [] ∧ ∀ p ∈ m.pairs, (compareTrees p.1 p.2).equal = true := by
    unfold lacking pairs
    induction m.partners with
    | nil => simp
    | cons p ps ih =>
      obtain ⟨r, _ | s⟩ := p
      · simp [reportOn, missing, Report.fail]
      · change _ ↔ _ ∧ ∀ p ∈ (r, s) :: List.filterMap _ ps, (compareTrees p.1 p.2).equal = true
        rw [List.forall_mem_cons, ih, List.forall_mem_cons]
        exact and_left_comm
  rw [reports, List.forall_mem_append, List.forall_mem_map, List.forall_mem_map, hpartners,
    hunused]
  tauto

end Matching

/-- A label that tells the key occurs as often as there are statements with the key. -/
theorem count_map_label {label : String → String} (h : Function.Injective label) (key : String)
    (ts : List Tree) :
    (ts.map fun t => label t.key).count (label key) = (withKey key ts).length := by
  have hmap : (ts.map fun t => label t.key) = (ts.map Tree.key).map label := by
    rw [List.map_map]
    rfl
  rw [hmap, List.count_map_of_injective _ _ h, List.count_eq_countP, List.countP_map,
    List.countP_eq_length_filter]
  rfl

/-- The reports of the comparison are those on the matching. -/
theorem compareEach_eq_reports : ∀ rs ss : List Tree, compareEach rs ss = (matching rs ss).reports
  | [], _ => rfl
  | r :: rest, ss => by
    rw [compareEach]
    cases hfirst : takeFirst (fun s => s.key == r.key) ss with
    | none =>
      rw [matching_cons_none hfirst, Matching.reports_cons, ← compareEach_eq_reports rest ss]
      rfl
    | some taken =>
      obtain ⟨s, others⟩ := taken
      rw [matching_cons_some hfirst, Matching.reports_cons, ← compareEach_eq_reports rest others]
      rfl

/-! ## 4. All statements of two parse trees -/

/-- **How the statements of two parse trees are compared.**  The report is put together from a
matching of the statements, and its incorrect parts are those of the pairs, a label for every
statement without a partner and one for every statement that is left. Of the submission each
statement is in one pair at most. Under each key, those of both sides are paired in order, and the
numbers of pairs and of labels follow from how many there are. So the report says that all is equal
just where both sides have as many statements of each key and every pair compares equal. -/
theorem compareAll_in_order (r s : Tree) :
    let m := matching r.allStatements s.allStatements
    compareAll r s = m.reports.foldl Report.append .empty ∧
      (compareAll r s).incorrect = m.partners.flatMap partsOn ++ m.extraLabels ∧
      (m.pairs.map Prod.snd ++ m.unused).Perm s.allStatements ∧
      (∀ key,
        let mine := withKey key r.allStatements
        let theirs := withKey key s.allStatements
        let paired := m.pairs.filter (·.1.key == key)
        paired = mine.zip theirs ∧ paired.length = min mine.length theirs.length ∧
          m.missingLabels.count (missingLabel key) =
            mine.length - min mine.length theirs.length ∧
          m.extraLabels.count (extraLabel key) =
            theirs.length - min mine.length theirs.length) ∧
      ((compareAll r s).equal = true ↔
        (∀ key, (withKey key r.allStatements).length = (withKey key s.allStatements).length) ∧
          ∀ p ∈ m.pairs, (compareTrees p.1 p.2).equal = true) := by
  intro m
  have horder : ∀ key, m.InOrder r.allStatements s.allStatements key :=
    fun key => inOrder_matching key _ _
  have hreport : compareAll r s = m.reports.foldl Report.append .empty := by
    rw [compareAll, compareEach_eq_reports]
  -- the parts follow from the report on the matching, the numbers from its order under each key
  refine ⟨hreport, ?_, matching_perm _ _, ?_, ?_⟩
  · rw [hreport, Report.incorrect_foldl_append, Matching.incorrect_reports]
    rfl
  · intro key mine theirs paired
    refine ⟨(horder key).pairs, (horder key).length_pairs, ?_, ?_⟩
    · rw [Matching.missingLabels, count_map_label missingLabel_injective]
      exact (horder key).length_lacking
    · rw [Matching.extraLabels, count_map_label extraLabel_injective]
      exact (horder key).length_unused
  · rw [hreport, Report.equal_foldl_append_iff, Matching.forall_reports_equal_iff,
      Matching.complete_iff horder]
    exact and_iff_right rfl

end Statement

end QueryGrading
