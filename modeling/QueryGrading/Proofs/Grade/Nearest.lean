import QueryGrading.Proofs.Collection
import QueryGrading.Proofs.Grade.Feedback
import QueryGrading.Proofs.Grade.Permutation

/-!
# The search for a right statement

The search goes through the candidates once, with a bound that each near one lowers. What it has
seen is all in the candidates themselves: the bound is the least distance of the eligible ones
(`lt_bound_iff`), and the neighbour the earliest of these (`nearest?`), as long as no candidate
decides the search (`resume_append`). So it ends at the first candidate that decides it
(`search_of_decides`), and else with the nearest eligible one (`search_of_undecided`); that is what
the verdict on meaning and the distances are taken from (`judgeMeaning_nearest`).

This is the loop of `semantics` over the models and the peers with right results. Its bound begins
at `INITIAL_TREE_BOUND`, a candidate is eligible where the trees differ by
`semantics_minor_threshold` and the texts by `syntax_minor_threshold` at most, and decides the
search where `edit_distance` of the prepared texts is zero and it has an output. The invariant of
the loop is `resume`: what it still does depends on the candidates behind, and on those before by
`nearest?` only.
-/

namespace QueryGrading

/-! ## 1. Distances

Of a submission only its two distances are looked at here, so the lemmas say which functions leave
them as they were and which one writes them. -/

namespace Submission

/-- The distances that are written down, of the texts and of the trees. -/
def distances (s : Submission) : Option Nat × Option Nat := (s.textDistance, s.treeDistance)

@[simp] theorem distances_note (s : Submission) (text : String) :
    (s.note text).distances = s.distances := rfl

@[simp] theorem distances_judge (s : Submission) (axis : Axis) (v : Verdict) :
    (s.judge axis v).distances = s.distances := rfl

@[simp] theorem distances_explain (s : Submission) (axis : Axis) (text : String) :
    (s.explain axis text).distances = s.distances := rfl

end Submission

namespace Grader

/-- The distances of a neighbour, of the texts and of the trees. -/
def Neighbour.distances (n : Neighbour) : Option Nat × Option Nat :=
  (some n.textDistance, some n.treeDistance)

@[simp] theorem distances_keepDistances (n : Neighbour) (s : Submission) :
    (keepDistances (some n) s).distances = n.distances := rfl

section Search

variable (session : Session) (text : String) (tree : Tree)

/-! ## 2. Candidates -/

/-- A candidate may be chosen: its tree is nearer than the bound of any search, and it is within
the tolerances. -/
def Eligible (c : Candidate) : Prop :=
  tree.distance c.tree < treeBound ∧ WithinTolerance session text tree c

instance decidableEligible (c : Candidate) : Decidable (Eligible session text tree c) :=
  inferInstanceAs (Decidable (_ ∧ _))

/-- An eligible candidate with its distances. -/
def eligible? (c : Candidate) : Option Neighbour :=
  if Eligible session text tree c then some (neighbour text tree c) else none

/-- A candidate ends the search if it comes behind these: it has the same text up to blanks and
case, and an output, and its tree is nearer than the bound and than all eligible ones before it. -/
structure Decides (before : List Candidate) (c : Candidate) : Prop where
  agrees : Agrees text c
  bound : tree.distance c.tree < treeBound
  nearer : ∀ b ∈ before, Eligible session text tree b → tree.distance c.tree < tree.distance b.tree

/-- None of these candidates ends the search. -/
def Undecided (cs : List Candidate) : Prop :=
  ∀ before c after, cs = before ++ c :: after → ¬ Decides session text tree before c

variable {session text tree} {c : Candidate} {cs before rest after : List Candidate}

theorem eligible?_eq_some_iff {n : Neighbour} :
    eligible? session text tree c = some n ↔
      Eligible session text tree c ∧ neighbour text tree c = n := by
  simp [eligible?]

theorem eligible?_eq_none_iff :
    eligible? session text tree c = none ↔ ¬ Eligible session text tree c := by
  simp [eligible?]

/-- One more candidate that does not decide. -/
theorem Undecided.concat (h : Undecided session text tree before)
    (hc : ¬ Decides session text tree before c) : Undecided session text tree (before ++ [c]) := by
  intro xs d ys heq
  rcases List.eq_nil_or_concat ys with rfl | ⟨ys, z, rfl⟩
  · obtain ⟨rfl, hd⟩ := List.append_inj' heq rfl
    cases hd
    exact hc
  · have hsplit : before ++ [c] = (xs ++ d :: ys) ++ [z] := by simpa using heq
    exact h xs d ys (List.append_inj' hsplit rfl).1

theorem undecided_of_forall (h : ∀ c ∈ cs, ¬ Agrees text c) : Undecided session text tree cs := by
  rintro before c after rfl hc
  exact h c (by simp) hc.agrees

/-- Some candidate ends the search first, or none does. -/
theorem undecided_or_exists (session : Session) (text : String) (tree : Tree)
    (cs : List Candidate) :
    Undecided session text tree cs ∨ ∃ before c after, cs = before ++ c :: after ∧
      Undecided session text tree before ∧ Decides session text tree before c := by
  induction cs using List.reverseRecOn with
  | nil => exact .inl fun before c after h => by simp at h
  | append_singleton cs c ih =>
    rcases ih with hnone | ⟨before, d, after, rfl, hnone, hd⟩
    · by_cases hc : Decides session text tree cs c
      · exact .inr ⟨cs, c, [], rfl, hnone, hc⟩
      · exact .inl (hnone.concat hc)
    · exact .inr ⟨before, d, after ++ [c], by simp, hnone, hd⟩

/-! ## 3. What a search has seen

What a search has seen is a list of candidates, and all that it carries on is a function of that
list: the nearest of those that are eligible. -/

/-- The earliest of the eligible candidates with the nearest trees. -/
def nearest? (session : Session) (text : String) (tree : Tree) (cs : List Candidate) :
    Option Neighbour :=
  (cs.filterMap (eligible? session text tree)).argmin (·.treeDistance)

/-- The distance of the nearest neighbour so far. -/
def boundOf : Option Neighbour → Nat
  | none => treeBound
  | some n => n.treeDistance

/-- **The bound of a search** is the least distance of the eligible candidates so far. -/
theorem lt_bound_iff (d : Nat) :
    d < boundOf (nearest? session text tree before) ↔
      d < treeBound ∧ ∀ b ∈ before, Eligible session text tree b → d < tree.distance b.tree := by
  cases hnear : nearest? session text tree before with
  | none =>
    rw [nearest?, argmin_filterMap_eq_none_iff] at hnear
    have hnot : ∀ b ∈ before, ¬ Eligible session text tree b := fun b hb =>
      eligible?_eq_none_iff.mp (hnear b hb)
    exact ⟨fun h => ⟨h, fun b hb he => absurd he (hnot b hb)⟩, And.left⟩
  | some n =>
    obtain ⟨b, hb, he⟩ := List.mem_filterMap.mp (List.argmin_mem hnear)
    obtain ⟨helig, rfl⟩ := eligible?_eq_some_iff.mp he
    constructor
    · intro h
      refine ⟨h.trans helig.1, fun b' hb' he' => h.trans_le ?_⟩
      exact List.le_of_mem_argmin
        (List.mem_filterMap.mpr ⟨b', hb', eligible?_eq_some_iff.mpr ⟨he', rfl⟩⟩) hnear
    · rintro ⟨-, h⟩
      exact h b hb helig

/-- To decide the search is to be below its bound and the same text. -/
theorem decides_iff :
    Decides session text tree before c ↔
      Agrees text c ∧ tree.distance c.tree < boundOf (nearest? session text tree before) := by
  rw [lt_bound_iff]
  exact ⟨fun h => ⟨h.agrees, h.bound, h.nearer⟩, fun h => ⟨h.1, h.2.1, h.2.2⟩⟩

/-- Another candidate takes the place of the nearest one if it is within the tolerances and below
the bound. -/
theorem nearest?_concat :
    nearest? session text tree (before ++ [c]) =
      if WithinTolerance session text tree c ∧
          tree.distance c.tree < boundOf (nearest? session text tree before) then
        some (neighbour text tree c)
      else nearest? session text tree before := by
  by_cases helig : Eligible session text tree c
  · -- an eligible candidate wins only if it is strictly nearer
    have hc : [c].filterMap (eligible? session text tree) = [neighbour text tree c] := by
      simp [eligible?, helig]
    rw [nearest?, List.filterMap_append, hc, List.argmin_concat, ← nearest?]
    cases nearest? session text tree before with
    | none => exact (if_pos ⟨helig.2, helig.1⟩).symm
    | some n =>
      refine if_congr ?_ rfl rfl
      exact (and_iff_right helig.2).symm
  · have hc : [c].filterMap (eligible? session text tree) = [] := by
      simp [eligible?, helig]
    have hfar : ¬ (WithinTolerance session text tree c ∧
        tree.distance c.tree < boundOf (nearest? session text tree before)) := by
      -- what is below the bound is below the first bound too
      rintro ⟨hwithin, hlt⟩
      exact helig ⟨((lt_bound_iff _).mp hlt).1, hwithin⟩
    rw [if_neg hfar, nearest?, List.filterMap_append, hc, List.append_nil, ← nearest?]

/-- A search of which this much is done. -/
def resume (session : Session) (text : String) (tree : Tree) (before rest : List Candidate) :
    Nearest :=
  search session text tree (boundOf (nearest? session text tree before))
    (nearest? session text tree before) rest

/-! ## 4. The whole search

A search of which a part is done is a search again, from the bound that has been reached. So one
step and many steps are stated alike. -/

theorem resume_of_decides (h : Decides session text tree before c) :
    resume session text tree before (c :: rest) =
      ⟨nearest? session text tree before, some (neighbour text tree c)⟩ := by
  obtain ⟨hagrees, hlt⟩ := decides_iff.mp h
  rw [resume, search_cons, if_neg (Nat.not_le.mpr hlt), if_pos hagrees]

/-- **One step.**  A candidate that does not decide the search is seen, and the search goes on. -/
theorem resume_cons (h : ¬ Decides session text tree before c) :
    resume session text tree before (c :: rest) =
      resume session text tree (before ++ [c]) rest := by
  rw [decides_iff, not_and] at h
  rw [resume, resume, nearest?_concat, search_cons]
  split
  · next hfar =>
    rw [if_neg fun hnear => absurd hnear.2 (Nat.not_lt.mpr hfar)]
  · next hbound =>
    have hlt := Nat.lt_of_not_le hbound
    rw [if_neg fun hagrees => h hagrees hlt]
    split
    · next hwithin =>
      rw [if_pos ⟨hwithin, hlt⟩]
      rfl
    · next hwithin =>
      rw [if_neg fun hnear => hwithin hnear.1]

/-- **Many steps.**  Candidates that do not decide the search are all seen. -/
theorem resume_append (h : Undecided session text tree (before ++ cs)) :
    resume session text tree before (cs ++ rest) =
      resume session text tree (before ++ cs) rest := by
  induction cs generalizing before with
  | nil => rw [List.nil_append, List.append_nil]
  | cons c cs ih =>
    have hc : ¬ Decides session text tree before c := h before c cs rfl
    rw [List.append_cons] at h ⊢
    rw [List.cons_append, resume_cons hc, ih h]

/-- **The search ends at the first candidate that decides it**, with the nearest of the eligible
ones before it. -/
theorem search_of_decides (hfirst : Undecided session text tree before)
    (h : Decides session text tree before c) :
    search session text tree treeBound none (before ++ c :: after) =
      ⟨nearest? session text tree before, some (neighbour text tree c)⟩ := by
  have hseen : resume session text tree [] (before ++ c :: after) =
      resume session text tree before (c :: after) := resume_append hfirst
  exact hseen.trans (resume_of_decides h)

/-- **A search that no candidate decides gives the nearest eligible one.** -/
theorem search_of_undecided (h : Undecided session text tree cs) :
    search session text tree treeBound none cs = ⟨nearest? session text tree cs, none⟩ := by
  have hseen : resume session text tree [] (cs ++ []) = resume session text tree cs [] :=
    resume_append h
  rw [List.append_nil] at hseen
  exact hseen

end Search

/-! ## 5. The verdict on meaning

The outcome of the search decides which of three functions gives the verdict: the same text, a near
one, or the comparison of clauses. -/

/-- Meaning is judged by the models and the peers: the statement parses and has not the right
results. -/
structure Searched (g : Grader) (s : Submission) (tree : Tree) : Prop where
  graded : g.session.levels.meaning ≠ .absent
  wrong : s.isRight = false
  parseable : s.parseable = true
  tree : s.tree = some tree

variable {g : Grader} {peers : List Peer} {s : Submission} {tree : Tree}

theorem Searched.judgeMeaning_eq (h : Searched g s tree) (peers : List Peer) :
    g.judgeMeaning peers s = g.judgeByOthers peers tree s := by
  have hwrong : ¬ s.isRight = true := by simp [h.wrong]
  simp only [judgeMeaning, if_neg h.graded, if_neg hwrong, h.parseable, h.tree]

/-- A statement that no candidate decides and to which none is eligible is judged by its clauses. -/
structure LeftToClauses (g : Grader) (peers : List Peer) (s : Submission) (tree : Tree) : Prop where
  undecided : Undecided g.session (Text.normalize s.text) tree
    (g.candidates (rightPeers s.id peers))
  ineligible : ∀ c ∈ g.candidates (rightPeers s.id peers),
    ¬ Eligible g.session (Text.normalize s.text) tree c

theorem LeftToClauses.judgeByOthers_eq (h : LeftToClauses g peers s tree) :
    g.judgeByOthers peers tree s =
      judgeClauses g.session.levels (g.bestReport tree (rightPeers s.id peers)) s := by
  have hnear : nearest? g.session (Text.normalize s.text) tree
      (g.candidates (rightPeers s.id peers)) = none :=
    argmin_filterMap_eq_none_iff.mpr fun c hc => eligible?_eq_none_iff.mpr (h.ineligible c hc)
  have hsearch := search_of_undecided h.undecided
  rw [hnear] at hsearch
  simp only [judgeByOthers, hsearch]

theorem distances_judgeClauses (levels : PerAxis Sensitivity) (r : Report) (s : Submission) :
    (judgeClauses levels r s).distances = s.distances := by
  simp only [judgeClauses]
  split
  · split <;> simp
  · simp

theorem judgeByOthers_of_decides {before after : List Candidate} {c : Candidate}
    (hcs : g.candidates (rightPeers s.id peers) = before ++ c :: after)
    (hfirst : Undecided g.session (Text.normalize s.text) tree before)
    (hc : Decides g.session (Text.normalize s.text) tree before c) :
    g.judgeByOthers peers tree s =
      if g.session.levels.results = .absent then
        ((keepDistances (nearest? g.session (Text.normalize s.text) tree before) s).explain
          .meaning rightMeaning).judge .meaning .correct
      else judgeSame (neighbour (Text.normalize s.text) tree c) s := by
  simp only [judgeByOthers, hcs, search_of_decides hfirst hc]

theorem judgeByOthers_of_nearest {n : Neighbour}
    (hnone : Undecided g.session (Text.normalize s.text) tree
      (g.candidates (rightPeers s.id peers)))
    (hn : EarliestLeast (eligible? g.session (Text.normalize s.text) tree) (·.treeDistance)
      (g.candidates (rightPeers s.id peers)) n) :
    g.judgeByOthers peers tree s = judgeNear g.session.levels n s := by
  have hnear : nearest? g.session (Text.normalize s.text) tree
      (g.candidates (rightPeers s.id peers)) = some n := argmin_filterMap_eq_some_iff.mpr hn
  have hsearch := search_of_undecided hnone
  rw [hnear] at hsearch
  simp only [judgeByOthers, hsearch]

/-- A candidate with the same text: both axes become right, and the candidate is quoted. -/
theorem judgeSame_spec (n : Neighbour) (s : Submission) :
    (judgeSame n s).distances = n.distances ∧
      (judgeSame n s).verdicts = (s.verdicts.set .results .correct).set .meaning .correct ∧
      (judgeSame n s).explanations = s.explanations.set .meaning (suggestion n.text) := by
  simp only [judgeSame]
  refine ⟨by simp, by simp, ?_⟩
  rw [Submission.explanations_judge, Submission.explanations_note, Submission.explanations_judge,
    Submission.explanations_explain, explanations_keepDistances]

/-- A near candidate: results become right, and meaning nearly right if there is such a verdict. -/
theorem judgeNear_spec (levels : PerAxis Sensitivity) (n : Neighbour) (s : Submission) :
    (judgeNear levels n s).distances = n.distances ∧
      (judgeNear levels n s).verdicts = (s.verdicts.set .results .correct).set .meaning
        (if levels.meaning.hasMinor then .minorIncorrect else .incorrect) ∧
      (judgeNear levels n s).explanations = s.explanations.set .meaning
        (if levels.meaning.hasMinor then suggestion n.text else "") := by
  simp only [judgeNear]
  split <;> simp [explanations_keepDistances]

/-- **The search for a right statement.**  Of the candidates, the first that decides the search ends
it, and the statement differs in blanks and case only; if none does, the earliest eligible one with
the nearest tree is chosen, and if none is eligible the clauses are compared.  Where results are
judged, the distances that are written down are those of the candidate. -/
theorem judgeMeaning_nearest (h : Searched g s tree) :
    let text := Text.normalize s.text
    let others := rightPeers s.id peers
    let cs := g.candidates others
    let s' := g.judgeMeaning peers s
    let levels := g.session.levels
    (Undecided g.session text tree cs ∨ ∃ before c after, cs = before ++ c :: after ∧
      Undecided g.session text tree before ∧ Decides g.session text tree before c) ∧
    (∀ before c after, cs = before ++ c :: after →
      Undecided g.session text tree before → Decides g.session text tree before c →
      (levels.results ≠ .absent → s'.distances = (neighbour text tree c).distances ∧
        s'.verdicts = (s.verdicts.set .results .correct).set .meaning .correct ∧
        s'.explanations = s.explanations.set .meaning (suggestion c.text)) ∧
      (levels.results = .absent →
        s'.verdicts = s.verdicts.set .meaning .correct ∧
        s'.explanations = s.explanations.set .meaning rightMeaning)) ∧
    (Undecided g.session text tree cs →
      (∀ n, EarliestLeast (eligible? g.session text tree) (·.treeDistance) cs n →
        s'.distances = n.distances ∧
        s'.verdicts = (s.verdicts.set .results .correct).set .meaning
          (if levels.meaning.hasMinor then .minorIncorrect else .incorrect) ∧
        s'.explanations = s.explanations.set .meaning
          (if levels.meaning.hasMinor then suggestion n.text else "")) ∧
      ((∀ c ∈ cs, ¬ Eligible g.session text tree c) →
        s' = judgeClauses levels (g.bestReport tree others) s ∧ s'.distances = s.distances)) := by
  intro text others cs s' levels
  have hs' : s' = g.judgeByOthers peers tree s := h.judgeMeaning_eq peers
  refine ⟨undecided_or_exists g.session text tree cs, ?_, fun hnone => ⟨?_, ?_⟩⟩
  · intro before c after hcs hfirst hc
    rw [hs', judgeByOthers_of_decides hcs hfirst hc]
    constructor
    · intro hres
      rw [if_neg hres]
      exact judgeSame_spec _ s
    · intro hres
      rw [if_pos hres]
      simp [explanations_keepDistances]
  · intro n hn
    rw [hs', judgeByOthers_of_nearest hnone hn]
    exact judgeNear_spec levels n s
  · intro hineligible
    rw [hs', LeftToClauses.judgeByOthers_eq ⟨hnone, hineligible⟩]
    exact ⟨rfl, distances_judgeClauses levels _ s⟩

/-- A query for another table, which is one letter away from the model. -/
def oneLetterOff : Submission :=
  { Submission.ofHandIn ⟨"s1", 1, "", "TABLE stuff"⟩ with
    parseable := true
    tree := some (valueTree "RangeVar" "\"stuff\"") }

/-- It does not decide the search, but it is chosen, and its distances are written down. -/
theorem judgeMeaning_nearest_oneLetterOff :
    let tree := valueTree "RangeVar" "\"stuff\""
    let n : Neighbour := ⟨"TABLE staff", 1, 1⟩
    let s' := truthGrader.judgeMeaning [] oneLetterOff
    Searched truthGrader oneLetterOff tree ∧
      Undecided .standard (Text.normalize oneLetterOff.text) tree (truthGrader.candidates []) ∧
      EarliestLeast (eligible? .standard (Text.normalize oneLetterOff.text) tree) (·.treeDistance)
        (truthGrader.candidates []) n ∧
      s'.distances = n.distances ∧
      s'.verdicts = (oneLetterOff.verdicts.set .results .correct).set .meaning .minorIncorrect := by
  intro tree n s'
  have hsearched : Searched truthGrader oneLetterOff tree := ⟨by decide, rfl, rfl, rfl⟩
  have hdiffers : ∀ c ∈ truthGrader.candidates [],
      ¬ Agrees (Text.normalize oneLetterOff.text) c := by
    decide +kernel
  have hnone : Undecided .standard (Text.normalize oneLetterOff.text) tree
      (truthGrader.candidates []) := undecided_of_forall hdiffers
  have hn : EarliestLeast (eligible? .standard (Text.normalize oneLetterOff.text) tree)
      (·.treeDistance) (truthGrader.candidates []) n :=
    argmin_filterMap_eq_some_iff.mp (by decide +kernel)
  obtain ⟨-, -, hundecided⟩ := @judgeMeaning_nearest truthGrader [] oneLetterOff tree hsearched
  obtain ⟨hdistances, hverdicts, -⟩ := (hundecided hnone).1 n hn
  exact ⟨hsearched, hnone, hn, hdistances, hverdicts⟩

end Grader

end QueryGrading
