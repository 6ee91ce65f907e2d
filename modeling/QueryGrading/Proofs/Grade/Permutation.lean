import QueryGrading.Proofs.Grade.Choice
import QueryGrading.Proofs.Grade.Noninterference

/-!
# The order of a batch

A permutation of a batch moves the peers of each statement, and a grader looks through these in
order. In two runs without faults over a batch and a permutation of it, a statement ends with the
same verdicts, level and grade if nothing turns on that order (`run_perm`): the best repairs by its
peers have one text (`OneRepair`), and its search for a right statement is undisputed
(`OneReading`). All states are then the same until meaning is judged, and what the peers tell later
is how near they are and how much a report says, not which of them says it.

The order is that of the submissions of a bundle, in which `run_stage` takes the peers and
`repair_from`, `semantics` and `best_clause_comparison` go through them; of equally good ones each
keeps the first. So ties are settled by the order, on purpose, and section 4 has two batches in
which a tie decides a grade. Messages may differ in any case, since they quote the peer that was
found.
-/

namespace QueryGrading

namespace Grader

variable {g : Grader} {peers peers' : List Peer} {s : Submission}

/-! ## 1. Repairs

Of the repairs by peers one is taken, and it is the same in any order where the best ones have one
text. -/

/-- Neither a model nor the reserved words repair the statement. -/
def leftToPeers (g : Grader) (s : Submission) : Bool :=
  match g.mend? [] s with
  | .ok none => true
  | _ => false

/-- If it is left to the peers to repair a statement, their best repairs have one text. -/
def OneRepair (g : Grader) (peers : List Peer) (s : Submission) : Prop :=
  g.session.levels.grammar ≠ .absent → s.parseable = false → g.leftToPeers s = true →
    OneText ((parsingPeers s.id peers).filterMap (g.mendBy? (Text.normalize s.text)))

instance decidableOneRepair (g : Grader) (peers : List Peer) (s : Submission) :
    Decidable (g.OneRepair peers s) :=
  inferInstanceAs (Decidable (_ → _ → _ → OneText _))

/-- Of two searches for a remedy that come to an end, over peers in another order, both find the
same. -/
theorem mend?_perm (hperm : peers.Perm peers')
    (hone : g.leftToPeers s = true →
      OneText ((parsingPeers s.id peers).filterMap (g.mendBy? (Text.normalize s.text))))
    {found found' : Option (Mended × Option Nat)} (h : g.mend? peers s = .ok found)
    (h' : g.mend? peers' s = .ok found') : found' = found := by
  simp only [mend?] at h h'
  split at h
  · cases h
  · next hmodels =>
    simp only [hmodels] at h'
    cases h
    cases h'
    rfl
  · next hmodels =>
    simp only [hmodels] at h'
    split at h
    · cases h
    · next hwords =>
      simp only [hwords] at h'
      cases h
      cases h'
      rfl
    · next hwords =>
      simp only [hwords] at h'
      -- models and words do not depend on the peers, so only now the order could matter
      have hleft : g.leftToPeers s = true := by
        simp [leftToPeers, mend?, hmodels, hwords, parsingPeers, repairFrom]
      have htexts : (parsingPeers s.id peers).Perm (parsingPeers s.id peers') :=
        (hperm.filter _).map _
      split at h
      · cases h
      · next found hfound =>
        split at h'
        · cases h'
        · next found' hfound' =>
          cases h
          cases h'
          rw [repairFrom_eq_argmin hfound, repairFrom_eq_argmin hfound',
            argmin_mendBy?_perm htexts (hone hleft)]

theorem mend?_note (g : Grader) (peers : List Peer) (s : Submission) (text : String) :
    g.mend? peers (s.note text) = g.mend? peers s := rfl

/-- **The stage on grammar makes the same of a statement in any order of its peers.** -/
theorem judgeGrammar_perm (hperm : peers.Perm peers') (hone : g.OneRepair peers s)
    (h : (g.judgeGrammar peers s).2 = none) (h' : (g.judgeGrammar peers' s).2 = none) :
    g.judgeGrammar peers' s = g.judgeGrammar peers s := by
  unfold judgeGrammar at h h' ⊢
  split
  · rfl
  · next hl =>
    split
    · rfl
    · next hp =>
      rw [if_neg hl, if_neg hp] at h h'
      simp only [noteUnparseable, mend?_note] at h h' ⊢
      have hmend : ∀ found found', g.mend? peers s = .ok found → g.mend? peers' s = .ok found' →
          found' = found :=
        fun _ _ => mend?_perm hperm (hone hl (Bool.eq_false_iff.mpr hp))
      cases hfound : g.mend? peers s with
      | error fault =>
        rw [hfound] at h
        cases h
      | ok found =>
        cases hfound' : g.mend? peers' s with
        | error fault =>
          rw [hfound'] at h'
          cases h'
        | ok found' => rw [hmend _ _ hfound hfound']

/-! ## 2. Meaning

The search for a right statement and the best report are the two places where the stage on meaning
looks at the peers in order. -/

/-- If meaning is judged by others, the search for a right statement is undisputed. -/
def OneReading (g : Grader) (peers : List Peer) (s : Submission) : Prop :=
  g.session.levels.meaning ≠ .absent → s.isRight = false → s.parseable = true →
    ∀ tree ∈ s.tree, Undisputed g.session (Text.normalize s.text) tree (g.candidates [])
      ((rightPeers s.id peers).filterMap candidate?)

instance decidableOneReading (g : Grader) (peers : List Peer) (s : Submission) :
    Decidable (g.OneReading peers s) :=
  inferInstanceAs (Decidable (_ → _ → _ → ∀ tree ∈ s.tree, Undisputed _ _ tree _ _))

/-- The verdict by clauses depends on how many parts match and do not, which is the rank of the
report. -/
theorem verdicts_judgeClauses {levels : PerAxis Sensitivity} {r r' : Report}
    (h : rank r' = rank r) (s : Submission) :
    (judgeClauses levels r' s).verdicts = (judgeClauses levels r s).verdicts := by
  obtain ⟨hcorrect, hincorrect⟩ := Prod.mk.inj (toLex.injective h)
  simp only [judgeClauses, hcorrect, hincorrect]
  split
  · split <;> rfl
  · rfl

theorem verdicts_judgeNear (levels : PerAxis Sensitivity) (n n' : Neighbour) (s : Submission) :
    (judgeNear levels n' s).verdicts = (judgeNear levels n s).verdicts := by
  simp only [judgeNear]
  split <;> rfl

/-- Judged by others in another order: the search ends in both or in neither, and if in neither, a
near candidate is found in both or in neither. -/
theorem verdicts_judgeByOthers_perm {tree : Tree} (hperm : peers.Perm peers')
    (h : Undisputed g.session (Text.normalize s.text) tree (g.candidates [])
      ((rightPeers s.id peers).filterMap candidate?)) :
    (g.judgeByOthers peers' tree s).verdicts = (g.judgeByOthers peers tree s).verdicts := by
  have hright : (rightPeers s.id peers).Perm (rightPeers s.id peers') := hperm.filter _
  have hcandidates : ∀ others : List Peer,
      g.candidates others = g.candidates [] ++ others.filterMap candidate? := by
    simp [candidates]
  obtain ⟨hsame, hnear⟩ := h.search_perm (hright.filterMap candidate?)
  simp only [judgeByOthers]
  rw [hcandidates (rightPeers s.id peers), hcandidates (rightPeers s.id peers')]
  -- from here on only `hsame` and `hnear` are known of the two searches
  generalize search g.session (Text.normalize s.text) tree treeBound none
    (g.candidates [] ++ (rightPeers s.id peers).filterMap candidate?) = found at hsame hnear ⊢
  generalize search g.session (Text.normalize s.text) tree treeBound none
    (g.candidates [] ++ (rightPeers s.id peers').filterMap candidate?) = found' at hsame hnear ⊢
  rcases found with ⟨near, _ | same⟩
  · rcases found' with ⟨near', _ | same'⟩
    · have hnear := hnear rfl
      rcases near with _ | near <;> rcases near' with _ | near'
      · exact verdicts_judgeClauses (rank_bestReport_perm g tree hright) s
      · cases hnear
      · cases hnear
      · exact verdicts_judgeNear _ _ _ s
    · cases hsame
  · rcases found' with ⟨near', _ | same'⟩
    · cases hsame
    · dsimp only
      split
      · rw [Submission.verdicts_judge, Submission.verdicts_judge, Submission.verdicts_explain,
          Submission.verdicts_explain, verdicts_keepDistances, verdicts_keepDistances]
      · rfl

/-- **The stage on meaning gives a statement the same verdicts in any order of its peers.** -/
theorem verdicts_judgeMeaning_perm (hperm : peers.Perm peers') (hone : g.OneReading peers s) :
    (g.judgeMeaning peers' s).verdicts = (g.judgeMeaning peers s).verdicts := by
  unfold judgeMeaning
  split
  · rfl
  · next hl =>
    split
    · rfl
    · next hr =>
      split
      · next hp ht =>
        exact verdicts_judgeByOthers_perm hperm (hone hl (Bool.eq_false_iff.mpr hr) hp _ ht)
      · rfl

/-! ## 3. The whole run

One stage after another is shown to commute with a rearrangement of the batch, for verdicts, level
and grade. -/

variable {handIns handIns' : List HandIn}

/-- **One stage.**  If it makes the same of each statement in any order of the peers, the states of
two batches in another order stay the same ones. -/
theorem exists_states_stepAll (g : Grader) (stage : Stage) (hperm : handIns.Perm handIns')
    (f : HandIn → Submission)
    (hstep : ∀ h ∈ handIns, g.step stage ((handIns'.map f).map (·.toPeer)) (f h) =
      g.step stage ((handIns.map f).map (·.toPeer)) (f h)) :
    ∃ f', g.stepAll (handIns.map f) stage = handIns.map f' ∧
      g.stepAll (handIns'.map f) stage = handIns'.map f' := by
  refine ⟨fun h => g.step stage ((handIns.map f).map (·.toPeer)) (f h), ?_, ?_⟩
  · rw [stepAll, List.map_map]
    rfl
  · rw [stepAll, List.map_map]
    exact List.map_congr_left fun h hh => hstep h (hperm.mem_iff.mpr hh)

/-- A stage that sees no peers makes the same of a statement whatever they are. -/
theorem step_unseeing {stage : Stage} (h : ∀ p, stage.sees p = false) (peers peers' : List Peer)
    (s : Submission) : g.step stage peers' s = g.step stage peers s := by
  have hnone : ∀ peers : List Peer, peers.filter stage.sees = [] := by simp [h]
  rw [step, step, ← runStage_filter g stage peers, ← runStage_filter g stage peers', hnone, hnone]

/-- **The states before meaning is judged are the same in any order of the batch**, if the best
repairs of each statement have one text. -/
theorem exists_states_before_meaning (hperm : handIns.Perm handIns')
    (hquiet : g.Undisturbed Stage.all (handIns.map .ofHandIn))
    (hquiet' : g.Undisturbed Stage.all (handIns'.map .ofHandIn))
    (hrepair : ∀ s ∈ g.after [.preprocess] handIns,
      g.OneRepair ((g.after [.preprocess] handIns).map (·.toPeer)) s) :
    ∃ f, g.after [.preprocess, .grammar, .results] handIns = handIns.map f ∧
      g.after [.preprocess, .grammar, .results] handIns' = handIns'.map f := by
  obtain ⟨f₁, h₁, h₁'⟩ := exists_states_stepAll g .preprocess hperm .ofHandIn
    fun _ _ => step_unseeing (fun _ => rfl) _ _ _
  have hgrammar := hquiet.2.1
  have hgrammar' := hquiet'.2.1
  rw [h₁] at hgrammar
  rw [h₁'] at hgrammar'
  have hrepair : ∀ s ∈ handIns.map f₁, g.OneRepair ((handIns.map f₁).map (·.toPeer)) s := by
    rw [← h₁]
    exact hrepair
  obtain ⟨f₂, h₂, h₂'⟩ := exists_states_stepAll g .grammar hperm f₁ <| by
    intro h hh
    have hmem : f₁ h ∈ handIns.map f₁ := List.mem_map_of_mem hh
    have hmem' : f₁ h ∈ handIns'.map f₁ := List.mem_map_of_mem (hperm.mem_iff.mp hh)
    have hpeers : ((handIns.map f₁).map (·.toPeer)).Perm ((handIns'.map f₁).map (·.toPeer)) :=
      (hperm.map f₁).map _
    -- the only stage before meaning that sees peers
    have hsame := judgeGrammar_perm hpeers (hrepair _ hmem) (hgrammar _ hmem) (hgrammar' _ hmem')
    simp only [step, runStage, hsame]
  obtain ⟨f₃, h₃, h₃'⟩ := exists_states_stepAll g .results hperm f₂
    fun _ _ => step_unseeing (fun _ => rfl) _ _ _
  refine ⟨f₃, ?_, ?_⟩
  · rw [← h₃, ← h₂, ← h₁]
    rfl
  · rw [← h₃', ← h₂', ← h₁']
    rfl

/-- Level and grade are functions of the verdicts. -/
theorem marks_finalize {s s' : Submission} (h : s'.verdicts = s.verdicts) :
    (g.finalize s').verdicts = (g.finalize s).verdicts ∧
      (g.finalize s').level = (g.finalize s).level ∧
      (g.finalize s').grade = (g.finalize s).grade := by
  have hverdicts : (g.finalize s').verdicts = (g.finalize s).verdicts := by
    rw [verdicts_finalize, verdicts_finalize, h]
  have hlevel : (g.finalize s').level = (g.finalize s).level := by
    rw [level_finalize, level_finalize, hverdicts]
  exact ⟨hverdicts, hlevel, congrArg g.scale.value hlevel⟩

theorem getElem?_run {f : HandIn → Submission} {h : HandIn} {i : Nat} (hi : handIns[i]? = some h)
    (hafter : g.after [.preprocess, .grammar, .results] handIns = handIns.map f) :
    (g.run handIns)[i]? =
      some (g.finalize (g.judgeMeaning ((handIns.map f).map (·.toPeer)) (f h))) := by
  have hrun : g.run handIns = g.stepAll (g.stepAll (handIns.map f) .meaning) .finalize := by
    rw [← hafter]
    rfl
  rw [hrun, getElem?_stepAll, getElem?_stepAll, List.getElem?_map, hi]
  rfl

/-- **A grade does not depend on the order of the batch**, as far as nothing turns on that order: if
the best repairs of each statement by its peers have one text, and its search for a right statement
is undisputed, then in two runs without faults it ends with the same verdicts, level and grade,
wherever it stands. -/
theorem run_perm (hperm : handIns.Perm handIns')
    (hquiet : g.Undisturbed Stage.all (handIns.map .ofHandIn))
    (hquiet' : g.Undisturbed Stage.all (handIns'.map .ofHandIn))
    (hrepair : ∀ s ∈ g.after [.preprocess] handIns,
      g.OneRepair ((g.after [.preprocess] handIns).map (·.toPeer)) s)
    (hreading : ∀ s ∈ g.after [.preprocess, .grammar, .results] handIns,
      g.OneReading ((g.after [.preprocess, .grammar, .results] handIns).map (·.toPeer)) s)
    {h : HandIn} {i j : Nat} (hi : handIns[i]? = some h) (hj : handIns'[j]? = some h) :
    ∃ s s', (g.run handIns)[i]? = some s ∧ (g.run handIns')[j]? = some s' ∧
      s'.verdicts = s.verdicts ∧ s'.level = s.level ∧ s'.grade = s.grade := by
  obtain ⟨f, hafter, hafter'⟩ := exists_states_before_meaning hperm hquiet hquiet' hrepair
  rw [hafter] at hreading
  have hmem : f h ∈ handIns.map f := List.mem_map_of_mem (List.mem_of_getElem? hi)
  have hpeers : ((handIns.map f).map (·.toPeer)).Perm ((handIns'.map f).map (·.toPeer)) :=
    (hperm.map f).map _
  have hverdicts := verdicts_judgeMeaning_perm hpeers (hreading _ hmem)
  exact ⟨_, _, getElem?_run hi hafter, getElem?_run hj hafter', marks_finalize hverdicts⟩

/-! ## 4. Where the order decides

Both conditions are needed: two submissions for which the order decides. -/

/-- The tree of a query for one value. -/
def valueTree (key value : String) : Tree :=
  .node "root" "" [.node "stmt" "" [.node "SelectStmt" "" [.node "targetList" ""
    [.node "ResTarget" "" [.node "val" "" [.node key "" [.leaf "value" value]]]]]]]

/-- Some queries with their trees and the one value that each gives. -/
def truths : List (String × Tree × String) :=
  [("TABLE staff", valueTree "RangeVar" "\"staff\"", "t"),
    ("SELECT 't'", valueTree "sval" "\"t\"", "t"),
    ("SELECT 't';", valueTree "sval" "\"t\"", "t"),
    ("SELECT 'T'", valueTree "sval" "\"T\"", "T"),
    ("SELECT TRUE", valueTree "boolval" "true", "t"),
    ("SELECT NOT TRUE", valueTree "BoolExpr" "\"NOT_EXPR\"", "f"),
    ("select true", valueTree "boolval" "true", "t"),
    ("select not true", valueTree "BoolExpr" "\"NOT_EXPR\"", "f")]

/-- An engine that knows these queries. -/
def truthEngine : Engine where
  parse text :=
    match truths.lookup text with
    | some (tree, _) => .ok (.ok ⟨tree, ""⟩)
    | none => .ok (.error "unknown query")
  query text := .ok [[((truths.lookup text).map (·.2)).getD ""]]
  change _ := .ok ⟨[], none⟩

/-- The grader of the usual session with the first of these queries as its model. -/
def truthGrader : Grader where
  session := .standard
  scale := .ofSession .standard
  engine := truthEngine
  models := [⟨"TABLE staff", valueTree "RangeVar" "\"staff\"", "",
    .rows [["t"]]⟩]

theorem alwaysAnswers_truthEngine : AlwaysAnswers truthEngine where
  parse text := by
    simp only [truthEngine]
    split <;> exact ⟨_, rfl⟩
  execute text tree := by
    simp only [Engine.execute, truthEngine]
    split <;> exact ⟨_, rfl⟩

theorem ofModels?_truthGrader :
    ofModels? .standard truthEngine ["TABLE staff"] = .ok truthGrader := rfl

/-- A right query, the same in other letters, another right query, and one that needs a repair. -/
def respelled : List HandIn :=
  [⟨"s1", 1, "", "SELECT 't'"⟩, ⟨"s2", 1, "", "SELECT 'T'"⟩,
    ⟨"s3", 1, "", "SELECT TRUE"⟩, ⟨"s4", 1, "", "SELECT ON TRUE"⟩]

/-- One peer only repairs the last query, and one only has the text of the second; so the order of
this batch decides nothing. -/
theorem run_perm_respelled :
    respelled.Perm respelled.reverse ∧
    truthGrader.Undisturbed Stage.all (respelled.map .ofHandIn) ∧
    truthGrader.Undisturbed Stage.all (respelled.reverse.map .ofHandIn) ∧
    (∀ s ∈ truthGrader.after [.preprocess] respelled,
      truthGrader.OneRepair ((truthGrader.after [.preprocess] respelled).map (·.toPeer)) s) ∧
    (∀ s ∈ truthGrader.after [.preprocess, .grammar, .results] respelled, truthGrader.OneReading
      ((truthGrader.after [.preprocess, .grammar, .results] respelled).map (·.toPeer)) s) ∧
    ∃ s s', (truthGrader.run respelled)[3]? = some s ∧
      (truthGrader.run respelled.reverse)[0]? = some s' ∧
      s'.verdicts = s.verdicts ∧ s'.level = s.level ∧ s'.grade = s.grade := by
  have hperm : respelled.Perm respelled.reverse := respelled.reverse_perm.symm
  have hquiet : ∀ batch, truthGrader.Undisturbed Stage.all batch :=
    alwaysAnswers_truthEngine.undisturbed Stage.all
  have hrepair : ∀ s ∈ truthGrader.after [.preprocess] respelled,
      truthGrader.OneRepair ((truthGrader.after [.preprocess] respelled).map (·.toPeer)) s := by
    decide +kernel
  have hreading : ∀ s ∈ truthGrader.after [.preprocess, .grammar, .results] respelled,
      truthGrader.OneReading
        ((truthGrader.after [.preprocess, .grammar, .results] respelled).map (·.toPeer)) s := by
    decide +kernel
  have hi : respelled[3]? = some ⟨"s4", 1, "", "SELECT ON TRUE"⟩ := rfl
  have hj : respelled.reverse[0]? = some ⟨"s4", 1, "", "SELECT ON TRUE"⟩ := rfl
  exact ⟨hperm, hquiet _, hquiet _, hrepair, hreading,
    run_perm hperm (hquiet _) (hquiet _) hrepair hreading hi hj⟩

/-- Two right queries of which the second is as near to the third, but has not its text. -/
def punctuated : List HandIn :=
  [⟨"s1", 1, "", "SELECT 't'"⟩, ⟨"s2", 1, "", "SELECT 't';"⟩, ⟨"s3", 1, "", "SELECT 'T'"⟩]

/-- Two queries, right and wrong, that repair the third one in as many words. -/
def torn : List HandIn :=
  [⟨"s1", 1, "", "SELECT TRUE"⟩, ⟨"s2", 1, "", "SELECT NOT TRUE"⟩,
    ⟨"s3", 1, "", "SELECT ON TRUE"⟩]

/-- The first two of a batch change places. -/
def swapFirst {α : Type} : List α → List α
  | a :: b :: rest => b :: a :: rest
  | xs => xs

/-- In both batches the grade of the third query depends on which of the two others comes first. -/
theorem run_swapFirst_ne :
    ofModels? .standard truthEngine ["TABLE staff"] = .ok truthGrader ∧
    (∀ batch, truthGrader.Undisturbed Stage.all batch) ∧
    (∀ batch ∈ [punctuated, torn], batch.Perm (swapFirst batch) ∧ (batch.map (·.id)).Nodup) ∧
    (∃ s ∈ truthGrader.run punctuated, s.id = "s3" ∧
      s.verdicts = ⟨.correct, .correct, .correct⟩ ∧ s.level = 9 ∧ s.grade = 1) ∧
    (∃ s ∈ truthGrader.run (swapFirst punctuated), s.id = "s3" ∧
      s.verdicts = ⟨.correct, .minorIncorrect, .correct⟩ ∧ s.level = 7 ∧ s.grade = 3 / 4) ∧
    (∃ s ∈ truthGrader.run torn, s.id = "s3" ∧
      s.verdicts = ⟨.minorIncorrect, .correct, .correct⟩ ∧ s.level = 8 ∧ s.grade = 7 / 8) ∧
    (∃ s ∈ truthGrader.run (swapFirst torn), s.id = "s3" ∧
      s.verdicts = ⟨.minorIncorrect, .minorIncorrect, .correct⟩ ∧ s.level = 6 ∧
        s.grade = 5 / 8) := by
  refine ⟨ofModels?_truthGrader, alwaysAnswers_truthEngine.undisturbed Stage.all, ?_⟩
  decide +kernel

end Grader

end QueryGrading
