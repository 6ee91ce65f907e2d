import Mathlib.Data.List.MinMax
import Mathlib.Data.List.Perm.Basic
import Mathlib.Data.Prod.Lex
import QueryGrading.Grade.Grader.Run

/-!
# Which peer is taken

Three searches of a grader look through a list of other statements. The repair by references takes
the earliest of those with the fewest changed words (`repairFrom_eq_argmin`), so the order matters
only where two of them repair to different texts (`argmin_mendBy?_perm`). The search for a right
statement ends at one with the same text that is nearer than all near ones before it
(`search_same_iff`), so the order matters only where such a one stands behind a near one in some
order and not in another (`Undisputed.search_perm`). The best report says as much in any order
(`rank_bestReport_perm`).

The searches are `repair_from`, the loop over the candidates in `semantics`, and
`best_clause_comparison`. The first does not ask the parser for a repair that cannot win, and the
second lowers its bound (`min_tree`) as it goes; both are compared with a description that has
neither, the least of a list and a condition on what comes before (`EndsAfter`). In the third two
reports of one rank may differ in their texts, so only the rank is the same in any order.
-/

namespace QueryGrading

namespace Grader

/-! ## 1. Repairs by references

A repair by a reference is tried only if it changes fewer words than the best so far. To try all of
them and keep the first of the best comes to the same. -/

/-- The repair by one reference, with the number of words that it changes, if the parser accepts
it. -/
def mendBy? (g : Grader) (text reference : String) : Option (Mended × Nat) :=
  match Repair.fromReference? text (Text.normalize reference) g.session.textTolerance with
  | none => none
  | some repair =>
    match g.engine.parse? repair.text with
    | .ok (some parsed) => some (⟨repair.text, parsed⟩, repair.distance)
    | _ => none

/-- What a search for repairs keeps: a repair in the place of the best so far if it changes fewer
words. -/
abbrev keepFewer : Option (Mended × Nat) → Mended × Nat → Option (Mended × Nat) :=
  List.argAux fun m best => m.2 < best.2

/-- A repair that changes no fewer words than the best so far is not kept, so it does no harm that
it is not tried. -/
theorem keepFewer_of_any {best : Option (Mended × Nat)} {m : Mended × Nat}
    (h : best.any (·.2 ≤ m.2) = true) : keepFewer best m = best := by
  cases best with
  | none => cases h
  | some least =>
    have hle : least.2 ≤ m.2 := by simpa using h
    exact if_neg (Nat.not_lt.mpr hle)

theorem keepFewer_of_not_any {best : Option (Mended × Nat)} {m : Mended × Nat}
    (h : ¬ best.any (·.2 ≤ m.2) = true) : keepFewer best m = some m := by
  cases best with
  | none => rfl
  | some least =>
    have hlt : m.2 < least.2 := by simpa using h
    exact if_pos hlt

/-- A search for repairs that comes to its end keeps what it would keep if it tried all of them. -/
theorem repairFrom_eq_foldl {g : Grader} {text : String} :
    ∀ {references : List String} {best found : Option (Mended × Nat)},
      g.repairFrom text best references = .ok found →
        found = (references.filterMap (g.mendBy? text)).foldl keepFewer best
  | [], _, _, h => by
    cases h
    rfl
  | reference :: rest, best, found, h => by
    rw [repairFrom] at h
    rw [List.filterMap_cons]
    split at h
    · next hnone =>
      simp only [mendBy?, hnone]
      exact repairFrom_eq_foldl h
    · next repair hrepair =>
      simp only [mendBy?, hrepair]
      split at h
      · next hany =>
        -- it was not tried; if the parser accepts it, it would not be kept
        have hrest := repairFrom_eq_foldl h
        split
        · exact hrest
        · next m hm =>
          split at hm
          · cases hm
            rw [List.foldl_cons, keepFewer_of_any hany]
            exact hrest
          · cases hm
      · next hany =>
        split at h
        · cases h
        · next hparse =>
          simp only [hparse]
          exact repairFrom_eq_foldl h
        · next parsed hparse =>
          simp only [hparse]
          have hkept : keepFewer best (⟨repair.text, parsed⟩, repair.distance) =
              some (⟨repair.text, parsed⟩, repair.distance) := keepFewer_of_not_any hany
          rw [List.foldl_cons, hkept]
          exact repairFrom_eq_foldl h

/-- **The repair by several references is the earliest of those that change the fewest words**, of
all that the parser accepts. -/
theorem repairFrom_eq_argmin {g : Grader} {text : String} {references : List String}
    {found : Option (Mended × Nat)} (h : g.repairFrom text none references = .ok found) :
    found = (references.filterMap (g.mendBy? text)).argmin (·.2) :=
  repairFrom_eq_foldl h

theorem parse?_mendBy? {g : Grader} {text reference : String} {m : Mended × Nat}
    (h : g.mendBy? text reference = some m) :
    g.engine.parse? m.1.text = .ok (some m.1.parsed) := by
  unfold mendBy? at h
  split at h
  · cases h
  · split at h
    · next hparse =>
      cases h
      exact hparse
    · cases h

/-- The parser says the same of one text, so repairs with one text differ in the number of words
only. -/
theorem mendBy?_inj {g : Grader} {text reference reference' : String} {m m' : Mended × Nat}
    (h : g.mendBy? text reference = some m) (h' : g.mendBy? text reference' = some m')
    (htext : m'.1.text = m.1.text) (hdistance : m'.2 = m.2) : m' = m := by
  have hparsed := parse?_mendBy? h'
  rw [htext, parse?_mendBy? h] at hparsed
  rcases m with ⟨⟨_, _⟩, _⟩
  rcases m' with ⟨⟨_, _⟩, _⟩
  dsimp only at htext hdistance hparsed
  cases htext
  cases hdistance
  cases hparsed
  rfl

/-- All repairs that change as few words as the first best one have its text. -/
def OneText (repairs : List (Mended × Nat)) : Prop :=
  ∀ m ∈ repairs.argmin (·.2), ∀ m' ∈ repairs, m'.2 ≤ m.2 → m'.1.text = m.1.text

instance decidableOneText (repairs : List (Mended × Nat)) : Decidable (OneText repairs) :=
  inferInstanceAs (Decidable (∀ m ∈ repairs.argmin (·.2), ∀ m' ∈ repairs, m'.2 ≤ m.2 →
    m'.1.text = m.1.text))

/-- **The order of the references does not matter if the best repairs have one text.** -/
theorem argmin_mendBy?_perm {g : Grader} {text : String} {references references' : List String}
    (hperm : references.Perm references')
    (hone : OneText (references.filterMap (g.mendBy? text))) :
    (references'.filterMap (g.mendBy? text)).argmin (·.2) =
      (references.filterMap (g.mendBy? text)).argmin (·.2) := by
  have hrepairs := hperm.filterMap (g.mendBy? text)
  cases hbest : (references.filterMap (g.mendBy? text)).argmin (·.2) with
  | none =>
    rw [List.argmin_eq_none] at hbest
    rw [hbest] at hrepairs
    rw [List.argmin_eq_none, hrepairs.nil_eq]
  | some m =>
    have hm := List.argmin_mem hbest
    cases hbest' : (references'.filterMap (g.mendBy? text)).argmin (·.2) with
    | none =>
      rw [List.argmin_eq_none] at hbest'
      rw [hrepairs.mem_iff, hbest'] at hm
      cases hm
    | some m' =>
      have hm' := hrepairs.mem_iff.mpr (List.argmin_mem hbest')
      have hle : m.2 ≤ m'.2 := List.le_of_mem_argmin hm' hbest
      have hle' : m'.2 ≤ m.2 := List.le_of_mem_argmin (hrepairs.mem_iff.mp hm) hbest'
      have htext : m'.1.text = m.1.text := hone m hbest m' hm' hle'
      obtain ⟨_, -, hmend⟩ := List.mem_filterMap.mp hm
      obtain ⟨_, -, hmend'⟩ := List.mem_filterMap.mp hm'
      rw [mendBy?_inj hmend hmend' htext (Nat.le_antisymm hle' hle)]

/-! ## 2. The search for a right statement

The search goes through models and peers in one list, and carries the least distance so far as its
bound. Where it ends is said without the bound, by what stands in front. -/

section Search

variable (session : Session) (text : String) (tree : Tree)

/-- A candidate with its distances. -/
def neighbour (c : Candidate) : Neighbour :=
  ⟨c.text, editDistance text (Text.normalize c.text), tree.distance c.tree⟩

/-- A candidate has the same text up to blanks and case, and an output. -/
def Agrees (c : Candidate) : Prop :=
  editDistance text (Text.normalize c.text) = 0 ∧ c.hasOutput = true

/-- A candidate is within the tolerances. -/
def WithinTolerance (c : Candidate) : Prop :=
  tree.distance c.tree ≤ session.treeTolerance ∧
    editDistance text (Text.normalize c.text) ≤ session.textTolerance

/-- The search ends at this candidate if it comes behind these: it agrees, and is nearer than the
bound and than all of them that are near and do not agree themselves. -/
structure EndsAfter (bound : Nat) (before : List Candidate) (c : Candidate) : Prop where
  agrees : Agrees text c
  bound : tree.distance c.tree < bound
  nearer : ∀ b ∈ before, WithinTolerance session text tree b → ¬ Agrees text b →
    tree.distance c.tree < tree.distance b.tree

variable {session text tree} {bound : Nat} {near : Option Neighbour} {c x : Candidate}
  {before rest models others others' : List Candidate}

instance decidableAgrees : Decidable (Agrees text c) :=
  inferInstanceAs (Decidable (_ ∧ _))

instance decidableWithinTolerance : Decidable (WithinTolerance session text tree c) :=
  inferInstanceAs (Decidable (_ ∧ _))

instance decidableEndsAfter : Decidable (EndsAfter session text tree bound before c) :=
  decidable_of_iff
    (Agrees text c ∧ tree.distance c.tree < bound ∧
      ∀ b ∈ before, WithinTolerance session text tree b → ¬ Agrees text b →
        tree.distance c.tree < tree.distance b.tree)
    ⟨fun h => ⟨h.1, h.2.1, h.2.2⟩, fun h => ⟨h.agrees, h.bound, h.nearer⟩⟩

/-- What the search does with its first candidate: too far, the same text, near enough, or none of
these. -/
theorem search_cons (session : Session) (text : String) (tree : Tree) (bound : Nat)
    (near : Option Neighbour) (c : Candidate) (rest : List Candidate) :
    search session text tree bound near (c :: rest) =
      if bound ≤ tree.distance c.tree then search session text tree bound near rest
      else if Agrees text c then ⟨near, some (neighbour text tree c)⟩
      else if WithinTolerance session text tree c then
        search session text tree (tree.distance c.tree) (some (neighbour text tree c)) rest
      else search session text tree bound near rest := by
  rw [search]
  rfl

theorem EndsAfter.mono {before' : List Candidate} (hsubset : before' ⊆ before)
    (h : EndsAfter session text tree bound before c) :
    EndsAfter session text tree bound before' c :=
  ⟨h.agrees, h.bound, fun b hb => h.nearer b (hsubset hb)⟩

/-- One more candidate before it: if that one is near and does not agree, it has to be farther. -/
theorem endsAfter_cons_iff :
    EndsAfter session text tree bound (x :: before) c ↔
      EndsAfter session text tree bound before c ∧
        (WithinTolerance session text tree x → ¬ Agrees text x →
          tree.distance c.tree < tree.distance x.tree) := by
  constructor
  · intro h
    exact ⟨h.mono (List.subset_cons_self x before), h.nearer x List.mem_cons_self⟩
  · rintro ⟨h, hx⟩
    refine ⟨h.agrees, h.bound, fun b hb => ?_⟩
    rcases List.mem_cons.mp hb with rfl | hb
    · exact hx
    · exact h.nearer b hb

/-- The search comes to an end at one of some candidates, if it has seen others before. -/
def SomeEnds (session : Session) (text : String) (tree : Tree) (bound : Nat) :
    List Candidate → List Candidate → Prop
  | _, [] => False
  | before, c :: rest =>
    EndsAfter session text tree bound before c ∨ SomeEnds session text tree bound (c :: before) rest

theorem someEnds_congr {bound' : Nat} : ∀ {cs before before' : List Candidate},
    (∀ c, EndsAfter session text tree bound before c ↔
      EndsAfter session text tree bound' before' c) →
    (SomeEnds session text tree bound before cs ↔ SomeEnds session text tree bound' before' cs)
  | [], _, _, _ => Iff.rfl
  | c :: _, _, _, h => or_congr (h c) <| someEnds_congr fun d => by
      rw [endsAfter_cons_iff, endsAfter_cons_iff, h d]

/-- A search through two lists comes to an end in the first, or in the second behind all of the
first. -/
theorem someEnds_append_iff :
    SomeEnds session text tree bound before (models ++ others) ↔
      SomeEnds session text tree bound before models ∨
        SomeEnds session text tree bound (models.reverse ++ before) others := by
  induction models generalizing before with
  | nil => exact (iff_of_eq (false_or _)).symm
  | cons c rest ih =>
    rw [List.cons_append, SomeEnds, SomeEnds, ih, or_assoc, List.reverse_cons, List.append_assoc]
    rfl

theorem SomeEnds.exists_mem : ∀ {cs before : List Candidate},
    SomeEnds session text tree bound before cs →
      ∃ c ∈ cs, EndsAfter session text tree bound before c
  | _ :: _, _, .inl h => ⟨_, List.mem_cons_self, h⟩
  | d :: _, before, .inr h => by
    obtain ⟨c, hc, hends⟩ := SomeEnds.exists_mem h
    exact ⟨c, List.mem_cons_of_mem d hc, hends.mono (List.subset_cons_self d before)⟩

theorem someEnds_of_mem : ∀ {cs before : List Candidate}, c ∈ cs →
    EndsAfter session text tree bound (cs ++ before) c →
      SomeEnds session text tree bound before cs
  | d :: rest, before, hc, h => by
    rcases List.mem_cons.mp hc with rfl | hc
    · exact .inl (h.mono (List.subset_append_right _ before))
    · refine .inr (someEnds_of_mem hc (h.mono fun b hb => ?_))
      simpa [or_left_comm] using hb

/-- **The search ends at a candidate that agrees and is nearer than all near ones before it.** -/
theorem search_same_iff : ∀ {cs : List Candidate} {bound : Nat} {near : Option Neighbour},
    (search session text tree bound near cs).same.isSome = true ↔
      SomeEnds session text tree bound [] cs
  | [], _, _ => by simp [search, SomeEnds]
  | c :: rest, bound, near => by
    rw [search_cons, SomeEnds]
    split
    · next hfar =>
      rw [search_same_iff]
      have hnot : ¬ EndsAfter session text tree bound [] c := fun h =>
        absurd h.bound (Nat.not_lt.mpr hfar)
      rw [or_iff_right hnot]
      refine someEnds_congr fun d => ?_
      rw [endsAfter_cons_iff]
      exact ⟨fun h => ⟨h, fun _ _ => h.bound.trans_le hfar⟩, And.left⟩
    · next hbound =>
      split
      · next hagrees =>
        -- it agrees, and nothing is left to show
        have hends : EndsAfter session text tree bound [] c :=
          ⟨hagrees, Nat.lt_of_not_le hbound, nofun⟩
        exact iff_of_true rfl (.inl hends)
      · next hagrees =>
        -- it does not agree, so it can only lower the bound
        have hnot : ¬ EndsAfter session text tree bound [] c := fun h => hagrees h.agrees
        rw [or_iff_right hnot]
        split
        · next hwithin =>
          rw [search_same_iff]
          refine someEnds_congr fun d => ?_
          rw [endsAfter_cons_iff]
          constructor
          · -- the bound is now the distance of `c`, which is what `EndsAfter` says of a near one
            -- before
            rintro ⟨hd, hlt, -⟩
            exact ⟨⟨hd, hlt.trans (Nat.lt_of_not_le hbound), nofun⟩, fun _ _ => hlt⟩
          · rintro ⟨⟨hd, -, -⟩, hlt⟩
            exact ⟨hd, hlt hwithin hagrees, nofun⟩
        · next hwithin =>
          rw [search_same_iff]
          refine someEnds_congr fun d => ?_
          rw [endsAfter_cons_iff]
          exact ⟨fun h => ⟨h, fun hw _ => absurd hw hwithin⟩, And.left⟩

/-- A search that does not end finds a near candidate if there is one. -/
theorem search_near_iff : ∀ {cs : List Candidate} {bound : Nat} {near : Option Neighbour},
    (search session text tree bound near cs).same = none →
      ((search session text tree bound near cs).near.isSome = true ↔ near.isSome = true ∨
        ∃ c ∈ cs, WithinTolerance session text tree c ∧ tree.distance c.tree < bound)
  | [], _, _, _ => by simp [search]
  | c :: rest, bound, near, h => by
    rw [search_cons] at h ⊢
    rw [List.exists_mem_cons_iff]
    split at h
    · next hfar =>
      rw [if_pos hfar, search_near_iff h]
      have hnot : ¬ (WithinTolerance session text tree c ∧ tree.distance c.tree < bound) :=
        fun hc => absurd hc.2 (Nat.not_lt.mpr hfar)
      rw [or_iff_right hnot]
    · next hbound =>
      rw [if_neg hbound]
      split at h
      · cases h
      · next hagrees =>
        rw [if_neg hagrees]
        split at h
        · next hwithin =>
          rw [if_pos hwithin, search_near_iff h]
          exact iff_of_true (.inl rfl) (.inr (.inl ⟨hwithin, Nat.lt_of_not_le hbound⟩))
        · next hwithin =>
          rw [if_neg hwithin, search_near_iff h]
          have hnot : ¬ (WithinTolerance session text tree c ∧ tree.distance c.tree < bound) :=
            fun hc => hwithin hc.1
          rw [or_iff_right hnot]

/-- Whether the search ends does not depend on the order of the others: it ends at a model; or none
of them would end it behind the models; or one would behind the models and all the others. -/
def Undisputed (session : Session) (text : String) (tree : Tree) (models others : List Candidate) :
    Prop :=
  (search session text tree treeBound none models).same.isSome = true ∨
    ((∃ c ∈ others, EndsAfter session text tree treeBound models c) →
      ∃ c ∈ others, EndsAfter session text tree treeBound (models ++ others) c)

instance decidableUndisputed : Decidable (Undisputed session text tree models others) :=
  inferInstanceAs (Decidable (_ ∨ ((∃ c ∈ others, _) → ∃ c ∈ others, _)))

theorem Undisputed.same_iff (h : Undisputed session text tree models others) :
    (search session text tree treeBound none (models ++ others)).same.isSome = true ↔
      (search session text tree treeBound none models).same.isSome = true ∨
        ∃ c ∈ others, EndsAfter session text tree treeBound models c := by
  have hmodels : models.reverse ++ [] ⊆ models := by simp
  rw [search_same_iff, search_same_iff, someEnds_append_iff]
  constructor
  · rintro (hends | hends)
    · exact .inl hends
    · obtain ⟨c, hc, hends⟩ := hends.exists_mem
      exact .inr ⟨c, hc, hends.mono (by simp)⟩
  · rintro (hends | hsome)
    · exact .inl hends
    · rcases h with hmodel | hothers
      · exact .inl (search_same_iff.mp hmodel)
      · obtain ⟨c, hc, hends⟩ := hothers hsome
        refine .inr (someEnds_of_mem hc (hends.mono fun b hb => ?_))
        simpa [or_comm] using hb

/-- **The search finds the same in any order of the others**, as far as it does not depend on it
whether it ends: it ends in both orders or in neither, and then there is a near statement in both
or in neither. -/
theorem Undisputed.search_perm (h : Undisputed session text tree models others)
    (hperm : others.Perm others') :
    let found := search session text tree treeBound none (models ++ others)
    let found' := search session text tree treeBound none (models ++ others')
    (found'.same.isSome = found.same.isSome) ∧
      (found.same = none → found'.near.isSome = found.near.isSome) := by
  have hmem : ∀ c, c ∈ others' ↔ c ∈ others := fun c => hperm.mem_iff.symm
  have hall : ∀ c, c ∈ models ++ others' ↔ c ∈ models ++ others := fun c => by
    rw [List.mem_append, List.mem_append, hmem]
  -- both searches are described by the members of the lists only
  have h' : Undisputed session text tree models others' := by
    refine h.imp id fun hothers => ?_
    rintro ⟨c, hc, hends⟩
    obtain ⟨d, hd, hends⟩ := hothers ⟨c, (hmem c).mp hc, hends⟩
    exact ⟨d, (hmem d).mpr hd, hends.mono fun b => (hall b).mp⟩
  have hsame : (search session text tree treeBound none (models ++ others')).same.isSome =
      (search session text tree treeBound none (models ++ others)).same.isSome := by
    rw [Bool.eq_iff_iff, h.same_iff, h'.same_iff]
    simp only [hmem]
  refine ⟨hsame, fun hnone => ?_⟩
  have hnone' : (search session text tree treeBound none (models ++ others')).same = none := by
    rw [hnone] at hsame
    exact Option.not_isSome_iff_eq_none.mp (by simp [hsame])
  rw [Bool.eq_iff_iff, search_near_iff hnone, search_near_iff hnone']
  simp only [hall]

end Search

/-! ## 3. The best report

A report is kept if it says more than the best so far, and the first of two that say as much. So the
report itself depends on the order, and its rank does not. -/

/-- How much a report says: the number of parts that match, and then of those that do not. -/
def rank (r : Report) : Nat ×ₗ Nat := toLex (r.correct.length, r.incorrect.length)

theorem saysMore_iff (r best : Report) : saysMore r best = true ↔ rank best < rank r := by
  rw [rank, rank, Prod.Lex.toLex_lt_toLex, saysMore]
  simp only [Bool.or_eq_true, Bool.and_eq_true, decide_eq_true_eq, eq_comm (a := r.correct.length)]

/-- The better report has the higher rank. -/
theorem rank_considerReference (tree : Tree) (best : Report) (reference : Tree) :
    rank (considerReference tree best reference) =
      max (rank best) (rank (Statement.compareAll reference tree)) := by
  simp only [considerReference]
  split
  · next hmore => exact (max_eq_right ((saysMore_iff _ _).mp hmore).le).symm
  · next hless => exact (max_eq_left (not_lt.mp fun h => hless ((saysMore_iff _ _).mpr h))).symm

theorem rank_foldl_considerReference (tree : Tree) :
    ∀ (references : List Tree) (best : Report),
      rank (references.foldl (considerReference tree) best) =
        (references.map fun reference => rank (Statement.compareAll reference tree)).foldl max
          (rank best)
  | [], _ => rfl
  | reference :: rest, best => by
    rw [List.foldl_cons, rank_foldl_considerReference tree rest, rank_considerReference,
      List.map_cons, List.foldl_cons]

/-- The statements of one kind among some trees, in any order. -/
theorem ofKind_perm (kind : String) {trees trees' : List Tree} (hperm : trees.Perm trees') :
    (ofKind kind trees).Perm (ofKind kind trees') := by
  have hsame := hperm.filter (·.statementKind == kind)
  simp only [ofKind, hsame.isEmpty_eq]
  split
  · exact hperm
  · exact hsame

/-- **The best report says as much in any order of the peers.** -/
theorem rank_bestReport_perm (g : Grader) (tree : Tree) {peers peers' : List Peer}
    (hperm : peers.Perm peers') :
    rank (g.bestReport tree peers') = rank (g.bestReport tree peers) := by
  have htrees := ofKind_perm tree.statementKind (hperm.filterMap (·.tree))
  simp only [bestReport]
  rw [rank_foldl_considerReference, rank_foldl_considerReference]
  exact (((htrees.append_left _).map _).foldl_op_eq).symm

end Grader

end QueryGrading
