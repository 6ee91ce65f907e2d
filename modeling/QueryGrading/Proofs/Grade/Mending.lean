import QueryGrading.Proofs.Collection
import QueryGrading.Proofs.Grade.Permutation

/-!
# How a statement is mended

A reference that cannot improve on the best repair so far is not tried, so it never becomes known
whether its repair parses. That does no harm: with a parser that always answers, a search by
references gives the earliest repair that changes the fewest words, of all that the parser accepts,
and none only if it accepts none (`repairFrom_eq_some_iff`, `repairFrom_eq_none_iff`). So each
statement has just one `Remedy`: by the models, or else by the reserved words, or else by its peers.
It is the one that the stage on grammar takes (`judgeGrammar_remedied`).

The functions are `repair_from` and `syntax`, and of repairs themselves no more is used here than
that they are made of a text and a reference (`repair_from_reference`) or of a text alone
(`repair_with_keywords`). A parser that gives no answer ends the search and the stage; that is the
subject of `Proofs.Grade.Standing`.
-/

namespace QueryGrading

namespace Grader

variable {g : Grader} {peers : List Peer} {s : Submission} {text : String}
  {references : List String}

/-! ## 1. The three searches

A parser that always answers turns a search that may be stopped into one that ends, and what it ends
with is the least of a list. -/

/-- The repair by the earliest of some references that change the fewest words, of those that give
a repair which the parser accepts. -/
def BestRepair (g : Grader) (text : String) (references : List String) (m : Mended × Nat) : Prop :=
  EarliestLeast (g.mendBy? text) (·.2) references m

/-- No reference gives a repair that the parser accepts. -/
def Hopeless (g : Grader) (text : String) (references : List String) : Prop :=
  ∀ reference ∈ references, g.mendBy? text reference = none

/-- The repair by the reserved words, which the parser accepts. -/
structure WordRepair (g : Grader) (text : String) (m : Mended) : Prop where
  repaired : Repair.withKeywords? text = some m.text
  accepted : g.engine.parse? m.text = .ok (some m.parsed)

/-- A search that is answered ends with the least of what its references give. -/
theorem repairFrom_eq_ok_iff (h : ParserAnswers g.engine) (found : Option (Mended × Nat)) :
    g.repairFrom text none references = .ok found ↔
      (references.filterMap (g.mendBy? text)).argmin (·.2) = found := by
  obtain ⟨found', hfound'⟩ := h.repairFrom text none references
  have hbest := repairFrom_eq_argmin hfound'
  rw [hfound', ← hbest, Except.ok.injEq]

/-- **A search by references gives the earliest repair that changes the fewest words**, of all that
the parser accepts. -/
theorem repairFrom_eq_some_iff (h : ParserAnswers g.engine) (m : Mended × Nat) :
    g.repairFrom text none references = .ok (some m) ↔ g.BestRepair text references m := by
  rw [repairFrom_eq_ok_iff h, argmin_filterMap_eq_some_iff]
  rfl

theorem repairFrom_eq_none_iff (h : ParserAnswers g.engine) :
    g.repairFrom text none references = .ok none ↔ g.Hopeless text references := by
  rw [repairFrom_eq_ok_iff h, argmin_filterMap_eq_none_iff]
  rfl

theorem repairWords_eq_some_iff (m : Mended) :
    g.repairWords text = .ok (some m) ↔ g.WordRepair text m := by
  unfold repairWords
  constructor
  · intro h
    split at h
    · cases h
    · next repaired hrepaired =>
      split at h
      · cases h
      · cases h
      · next parsed hparsed =>
        cases h
        exact ⟨hrepaired, hparsed⟩
  · intro h
    simp only [h.repaired, h.accepted]

theorem repairWords_eq_none_iff (h : ParserAnswers g.engine) :
    g.repairWords text = .ok none ↔ ∀ m, ¬ g.WordRepair text m := by
  obtain ⟨found, hfound⟩ := h.repairWords text
  simp only [← repairWords_eq_some_iff, hfound, Except.ok.injEq]
  exact Option.eq_none_iff_forall_ne_some

/-! ## 2. The remedy

The three searches come one after another, and the later ones are not begun if an earlier one finds
a repair. -/

/-- What mends a statement, with the number of words that it changes if a reference gave it: the
best repair by the models, or else the reserved words, or else the best repair by the peers. -/
inductive Remedy (g : Grader) (peers : List Peer) (s : Submission) :
    Option (Mended × Option Nat) → Prop
  | byModel {m : Mended} {d : Nat}
    (hbest : g.BestRepair (Text.normalize s.text) (g.models.map (·.text)) (m, d)) :
    Remedy g peers s (some (m, some d))
  | byWords {m : Mended}
    (hmodels : g.Hopeless (Text.normalize s.text) (g.models.map (·.text)))
    (hword : g.WordRepair s.text m) :
    Remedy g peers s (some (m, none))
  | byPeer {m : Mended} {d : Nat}
    (hmodels : g.Hopeless (Text.normalize s.text) (g.models.map (·.text)))
    (hwords : ∀ m, ¬ g.WordRepair s.text m)
    (hbest : g.BestRepair (Text.normalize s.text) (parsingPeers s.id peers) (m, d)) :
    Remedy g peers s (some (m, some d))
  | none
    (hmodels : g.Hopeless (Text.normalize s.text) (g.models.map (·.text)))
    (hwords : ∀ m, ¬ g.WordRepair s.text m)
    (hpeers : g.Hopeless (Text.normalize s.text) (parsingPeers s.id peers)) :
    Remedy g peers s none

/-- **With a parser that always answers, a statement has one remedy**, and that is what the three
searches give. -/
theorem mend?_eq_ok_iff (h : ParserAnswers g.engine) (found : Option (Mended × Option Nat)) :
    g.mend? peers s = .ok found ↔ Remedy g peers s found := by
  constructor
  · -- the three searches one after another, as far as the stage goes
    intro hfound
    simp only [mend?] at hfound
    split at hfound
    · cases hfound
    · next hmodels =>
      cases hfound
      exact .byModel ((repairFrom_eq_some_iff h _).mp hmodels)
    · next hmodels =>
      have hmodels := (repairFrom_eq_none_iff h).mp hmodels
      split at hfound
      · cases hfound
      · next hword =>
        cases hfound
        exact .byWords hmodels ((repairWords_eq_some_iff _).mp hword)
      · next hwords =>
        have hwords := (repairWords_eq_none_iff h).mp hwords
        split at hfound
        · cases hfound
        · next best hpeers =>
          cases hfound
          cases best with
          | none => exact .none hmodels hwords ((repairFrom_eq_none_iff h).mp hpeers)
          | some m => exact .byPeer hmodels hwords ((repairFrom_eq_some_iff h m).mp hpeers)
  · -- each remedy says how the searches before it ended
    intro hremedy
    cases hremedy with
    | byModel hbest => simp only [mend?, (repairFrom_eq_some_iff h _).mpr hbest]
    | byWords hmodels hword =>
      simp only [mend?, (repairFrom_eq_none_iff h).mpr hmodels,
        (repairWords_eq_some_iff _).mpr hword]
    | byPeer hmodels hwords hbest =>
      simp only [mend?, (repairFrom_eq_none_iff h).mpr hmodels,
        (repairWords_eq_none_iff h).mpr hwords, (repairFrom_eq_some_iff h _).mpr hbest]
      rfl
    | none hmodels hwords hpeers =>
      simp only [mend?, (repairFrom_eq_none_iff h).mpr hmodels,
        (repairWords_eq_none_iff h).mpr hwords, (repairFrom_eq_none_iff h).mpr hpeers]
      rfl

/-! ## 3. The stage on grammar

What the stage makes of a statement is stated by the remedy alone, and so does not mention the
searches. -/

/-- A statement has become its repair, which has been run. -/
structure Adopted (g : Grader) (s : Submission) (m : Mended) (d : Option Nat)
    (execution : Execution) (s' : Submission) : Prop where
  text : s'.text = m.text
  originalText : s'.originalText = some s.text
  parseable : s'.parseable = true
  tree : s'.tree = some m.parsed.tree
  fingerprint : s'.fingerprint = m.parsed.fingerprint
  output : s'.output = execution.output
  executionError : s'.executionError = execution.error
  textDistance : s'.textDistance = d.or s.textDistance
  verdicts : s'.verdicts = s.verdicts.set .grammar
    (if g.session.levels.grammar = .three then .minorIncorrect else .incorrect)

/-- What the stage on grammar makes of a statement with this remedy: without one the statement
stays as it is, and wrong. Only a crash of the database stops the stage. -/
def Remedied (g : Grader) (s : Submission) :
    Option (Mended × Option Nat) → Submission × Option Fault → Prop
  | none, (s', fault) =>
    fault = none ∧ s'.standing = s.standing ∧ s'.verdicts = s.verdicts.set .grammar .incorrect
  | some (m, d), (s', fault) =>
    match g.engine.execute m.text m.parsed.tree with
    | .ok execution => fault = none ∧ g.Adopted s m d execution s'
    | .error crash => fault = some crash

theorem takeRepair_of_execute {m : Mended} {d : Option Nat} {execution : Execution}
    (h : g.engine.execute m.text m.parsed.tree = .ok execution) :
    ∃ s', g.takeRepair m d (noteUnparseable s) = .ok s' ∧ g.Adopted s m d execution s' := by
  simp only [takeRepair, adopt, h]
  exact ⟨_, rfl, ⟨rfl, rfl, rfl, rfl, rfl, rfl, rfl, rfl, rfl⟩⟩

theorem takeRepair_of_crash {m : Mended} {d : Option Nat} {crash : Fault}
    (h : g.engine.execute m.text m.parsed.tree = .error crash) :
    g.takeRepair m d s = .error crash := by
  simp only [takeRepair, adopt, h]

theorem Remedied.parseable {m : Mended} {d : Option Nat} {result : Submission × Option Fault}
    (h : g.Remedied s (some (m, d)) result) (hquiet : result.2 = none) :
    result.1.parseable = true := by
  simp only [Remedied] at h
  split at h
  · exact h.2.parseable
  · rw [hquiet] at h
    cases h

theorem remedied_judgeGrammar (hl : g.session.levels.grammar ≠ .absent) (hp : s.parseable = false)
    {remedy : Option (Mended × Option Nat)} (hmend : g.mend? peers s = .ok remedy) :
    g.Remedied s remedy (g.judgeGrammar peers s) := by
  have hfound : g.mend? peers (noteUnparseable s) = .ok remedy := hmend
  have hnot : ¬ s.parseable = true := by simp [hp]
  simp only [judgeGrammar, if_neg hl, if_neg hnot, hfound]
  rcases remedy with _ | ⟨m, d⟩
  · exact ⟨rfl, rfl, rfl⟩
  · simp only [Remedied]
    cases hrun : g.engine.execute m.text m.parsed.tree with
    | ok execution =>
      obtain ⟨s', htake, hadopted⟩ := takeRepair_of_execute hrun
      rw [htake]
      exact ⟨rfl, hadopted⟩
    | error crash =>
      rw [takeRepair_of_crash hrun]

/-- **The stage on grammar takes the one remedy of a statement that does not parse.**  With a parser
that always answers, every search by references ends with the earliest repair that changes the
fewest words of all that are accepted, or with none if none is; and the stage makes of the
statement what its remedy says, so it stays one that does not parse just where all three searches
fail. -/
theorem judgeGrammar_remedied (h : ParserAnswers g.engine)
    (hl : g.session.levels.grammar ≠ .absent) (hp : s.parseable = false) :
    (∀ text references,
      (∃ found, g.repairFrom text none references = .ok found) ∧
      (∀ m, g.repairFrom text none references = .ok (some m) ↔ g.BestRepair text references m) ∧
      (g.repairFrom text none references = .ok none ↔ g.Hopeless text references)) ∧
    (∃ remedy, Remedy g peers s remedy) ∧
    (∀ remedy, Remedy g peers s remedy → g.Remedied s remedy (g.judgeGrammar peers s)) ∧
    ((g.judgeGrammar peers s).2 = none →
      ((g.judgeGrammar peers s).1.parseable = false ↔ Remedy g peers s none)) := by
  have hremedied : ∀ remedy, Remedy g peers s remedy →
      g.Remedied s remedy (g.judgeGrammar peers s) := fun remedy hremedy =>
    remedied_judgeGrammar hl hp ((mend?_eq_ok_iff h remedy).mpr hremedy)
  obtain ⟨found, hfound⟩ := h.mend? peers s
  have hremedy := (mend?_eq_ok_iff h found).mp hfound
  refine ⟨fun text references => ?_, ⟨found, hremedy⟩, hremedied, fun hquiet => ?_⟩
  · exact ⟨h.repairFrom text none references, repairFrom_eq_some_iff h, repairFrom_eq_none_iff h⟩
  · have hmade := hremedied found hremedy
    rcases found with _ | ⟨m, d⟩
    · exact iff_of_true ((congrArg Standing.parseable hmade.2.1).trans hp) hremedy
    · have hparses : (g.judgeGrammar peers s).1.parseable = true := hmade.parseable hquiet
      refine iff_of_false (by simp [hparses]) fun hnone => ?_
      -- there is one remedy only
      have hmended : g.mend? peers s = .ok none := (mend?_eq_ok_iff h none).mpr hnone
      cases hmended.symm.trans hfound

/-- A statement that only a peer can repair gets the words of that peer. -/
theorem judgeGrammar_remedied_by_peer :
    let s := reject (.ofHandIn ⟨"s2", 1, "", "SELECT ON TRUE"⟩)
    let peers : List Peer :=
      [⟨"s1", "SELECT TRUE", some (valueTree "boolval" "true"), true, true, true⟩]
    ParserAnswers truthGrader.engine ∧ truthGrader.session.levels.grammar ≠ .absent ∧
      s.parseable = false ∧
      (∃ remedy, Remedy truthGrader peers s remedy ∧
        truthGrader.Remedied s remedy (truthGrader.judgeGrammar peers s)) ∧
      (truthGrader.judgeGrammar peers s).1.text = "select true" := by
  intro s peers
  have hparser : ParserAnswers truthGrader.engine := alwaysAnswers_truthEngine.parser
  have hl : truthGrader.session.levels.grammar ≠ .absent := by decide
  have hp : s.parseable = false := rfl
  have htext : (truthGrader.judgeGrammar peers s).1.text = "select true" := by decide +kernel
  obtain ⟨-, ⟨remedy, hremedy⟩, hremedied, -⟩ := judgeGrammar_remedied hparser hl hp
  exact ⟨hparser, hl, hp, ⟨remedy, hremedy, hremedied remedy hremedy⟩, htext⟩

end Grader

end QueryGrading
