import Mathlib.Algebra.BigOperators.Group.Finset.Basic
import Mathlib.Algebra.Order.BigOperators.Group.Finset
import QueryGrading.Proofs.Tree.Nodes

/-!
# Alignments of forests

An alignment matches nodes of two forests, given by their numbers in postorder, so that order is
kept and so is the side on which a node stands of a subtree. Every match saves a deletion and an
insertion and costs a relabeling (`rename_cost`); what the best alignment saves is what
`forestDistance` stays below the number of all nodes (`forestDistance_add_savings_le`,
`exists_alignment`). Savings are counted and not costs, because they are additive over the pairs.

Both follow the recursion on last roots. An alignment that leaves one of the two roots out aligns
the forests without it. One that matches both matches them with each other, and then it consists of
an alignment of the nodes below them and one of the nodes before (`Alignment.exists_join`,
`alignment_join`).

The table has no part in this. Nodes are numbers here because the two orders of a tree, which node
comes first and which comes before all of a subtree, are inequalities of numbers; edit mappings, on
nodes by their paths, are alignments in other words.
-/

namespace QueryGrading

namespace Tree

variable {a b x y c d : List Tree} {m m₁ m₂ : Finset (Nat × Nat)} {t u : Tree}

/-! ## 1. Alignments and what they save

An alignment is a set of pairs of numbers. It is measured by what it saves against deleting and
inserting everything, as a sum of this kind splits along the recursion. -/

/-- The label of node `i`. -/
def labelAt (a : List Tree) (i : Nat) : String × String := (a[i]?.map label).getD ("", "")

/-- What matching two nodes saves: a deletion and an insertion, less the relabeling. -/
def saving (a b : List Tree) (p : Nat × Nat) : Nat :=
  2 - relabelCost (labelAt a p.1) (labelAt b p.2)

/-- What all matches save together. -/
def savings (a b : List Tree) (m : Finset (Nat × Nat)) : Nat := ∑ p ∈ m, saving a b p

/-- Matches of nodes that keep the order: which of two nodes comes first, and which comes before
all of the other's subtree. -/
structure Alignment (a b : List Tree) (m : Finset (Nat × Nat)) : Prop where
  bound : ∀ p ∈ m, p.1 < a.length ∧ p.2 < b.length
  before : ∀ p ∈ m, ∀ q ∈ m, p.1 < q.1 ↔ p.2 < q.2
  beside : ∀ p ∈ m, ∀ q ∈ m, p.1 < leftEnd a q.1 ↔ p.2 < leftEnd b q.2

/-- A relabeling costs one at most. -/
theorem relabelCost_le_one (a b : String × String) : relabelCost a b ≤ 1 := by
  unfold relabelCost
  split <;> omega

/-! ## 2. Nodes before and nodes behind

The numbers of a forest without its last root are those in front of a number. Alignments are cut
there. -/

/-- A node keeps its label when nodes are added behind it. -/
theorem labelAt_append_left {i : Nat} (h : i < a.length) : labelAt (a ++ x) i = labelAt a i := by
  rw [labelAt, List.getElem?_append_left h, labelAt]

/-- And when nodes are added in front of all. -/
theorem labelAt_append_right (a x : List Tree) (i : Nat) :
    labelAt (a ++ x) (a.length + i) = labelAt x i := by
  rw [labelAt, List.getElem?_append_right (Nat.le_add_right _ _), Nat.add_sub_cancel_left, labelAt]

/-- A part of an alignment is an alignment. -/
theorem Alignment.mono (h : Alignment a b m) (hs : m₁ ⊆ m) : Alignment a b m₁ where
  bound := fun p hp => h.bound p (hs hp)
  before := fun p hp q hq => h.before p (hs hp) q (hs hq)
  beside := fun p hp q hq => h.beside p (hs hp) q (hs hq)

/-- Nodes behind all that are matched make no difference. -/
theorem alignment_append_iff (hm : ∀ p ∈ m, p.1 < a.length ∧ p.2 < b.length) :
    Alignment (a ++ x) (b ++ y) m ↔ Alignment a b m := by
  constructor
  · intro h
    refine ⟨hm, h.before, fun p hp q hq => ?_⟩
    have hb := h.beside p hp q hq
    rwa [leftEnd_append_left (hm q hq).1, leftEnd_append_left (hm q hq).2] at hb
  · intro h
    refine ⟨fun p hp => ?_, h.before, fun p hp q hq => ?_⟩
    · have := hm p hp
      simp only [List.length_append]
      omega
    · rw [leftEnd_append_left (hm q hq).1, leftEnd_append_left (hm q hq).2]
      exact h.beside p hp q hq

/-- Nodes behind all that are matched save nothing. -/
theorem savings_append (hm : ∀ p ∈ m, p.1 < a.length ∧ p.2 < b.length) :
    savings (a ++ x) (b ++ y) m = savings a b m := by
  refine Finset.sum_congr rfl fun p hp => ?_
  rw [saving, labelAt_append_left (hm p hp).1, labelAt_append_left (hm p hp).2, saving]

/-- An alignment stays one, with what it saves, when nodes are added behind. -/
theorem Alignment.append (h : Alignment a b m) (x y : List Tree) :
    Alignment (a ++ x) (b ++ y) m ∧ savings (a ++ x) (b ++ y) m = savings a b m :=
  ⟨(alignment_append_iff h.bound).mpr h, savings_append h.bound⟩

/-- And when nodes behind all that are matched are taken away. -/
theorem Alignment.restrict (h : Alignment (a ++ x) (b ++ y) m)
    (hm : ∀ p ∈ m, p.1 < a.length ∧ p.2 < b.length) :
    Alignment a b m ∧ savings (a ++ x) (b ++ y) m = savings a b m :=
  ⟨(alignment_append_iff hm).mp h, savings_append hm⟩

/-- Moves pairs behind the nodes that stand before. -/
def shift (i j : Nat) : Nat × Nat ↪ Nat × Nat where
  toFun p := (i + p.1, j + p.2)
  inj' := by
    intro p q h
    simp only [Prod.mk.injEq, Nat.add_left_cancel_iff] at h
    exact Prod.ext h.1 h.2

@[simp] theorem shift_apply (i j : Nat) (p : Nat × Nat) : shift i j p = (i + p.1, j + p.2) := rfl

/-- An alignment of nodes that stand behind others is one of the nodes alone. -/
theorem alignment_shift_iff (ha : Closed a) (hb : Closed b) :
    Alignment (x ++ a) (y ++ b) (m.map (shift x.length y.length)) ↔ Alignment a b m := by
  constructor
  · intro h
    have hmem : ∀ {p}, p ∈ m → shift x.length y.length p ∈ m.map (shift x.length y.length) :=
      fun hp => Finset.mem_map_of_mem _ hp
    refine ⟨fun p hp => ?_, fun p hp q hq => ?_, fun p hp q hq => ?_⟩
    · have := h.bound _ (hmem hp)
      simp only [shift_apply, List.length_append] at this
      omega
    · have := h.before _ (hmem hp) _ (hmem hq)
      simp only [shift_apply] at this
      omega
    · have := h.beside _ (hmem hp) _ (hmem hq)
      simp only [shift_apply, leftEnd_append_right ha, leftEnd_append_right hb] at this
      omega
  · intro h
    refine ⟨?_, ?_, ?_⟩ <;> simp only [Finset.forall_mem_map, shift_apply]
    · intro p hp
      have := h.bound p hp
      simp only [List.length_append]
      omega
    · intro p hp q hq
      have := h.before p hp q hq
      omega
    · intro p hp q hq
      have := h.beside p hp q hq
      rw [leftEnd_append_right ha, leftEnd_append_right hb]
      omega

/-- It saves as much. -/
theorem savings_shift :
    savings (x ++ a) (y ++ b) (m.map (shift x.length y.length)) = savings a b m := by
  rw [savings, Finset.sum_map]
  refine Finset.sum_congr rfl fun p _ => ?_
  rw [shift_apply, saving, labelAt_append_right, labelAt_append_right, saving]

/-! ## 3. Alignments that match the roots

Where the last roots are matched, everything below the one is matched below the other, and what is
in front is matched in front. So the alignment falls into two. -/

/-- The pairs before two roots, the pairs below them, and the roots. -/
def join (x y c d : List Tree) (m₁ m₂ : Finset (Nat × Nat)) : Finset (Nat × Nat) :=
  insert ((x ++ c).length, (y ++ d).length) (m₁ ∪ m₂.map (shift x.length y.length))

/-- The nodes of a pair are numbered before the two roots and are below them. -/
def Inside (x y c d : List Tree) (t u : Tree) (p : Nat × Nat) : Prop :=
  (p.1 < (x ++ c).length ∧ p.2 < (y ++ d).length) ∧
    x.length ≤ leftEnd (x ++ c ++ [t]) p.1 ∧ y.length ≤ leftEnd (y ++ d ++ [u]) p.2

/-- A pair of `join` is one before the roots, one below them, or the roots. -/
theorem mem_join_cases (hc : Below c t) (hd : Below d u) (h₁ : Alignment x y m₁)
    (h₂ : Alignment c d m₂) {p : Nat × Nat} (hp : p ∈ join x y c d m₁ m₂) :
    (p ∈ m₁ ∧ p.1 < x.length ∧ p.2 < y.length) ∨
      (p ∈ m₂.map (shift x.length y.length) ∧ Inside x y c d t u p) ∨
        p = ((x ++ c).length, (y ++ d).length) := by
  rcases Finset.mem_insert.mp hp with rfl | hp
  · exact Or.inr (Or.inr rfl)
  · rcases Finset.mem_union.mp hp with hp | hp
    · exact Or.inl ⟨hp, h₁.bound p hp⟩
    · refine Or.inr (Or.inl ⟨hp, ?_⟩)
      obtain ⟨q, hq, rfl⟩ := Finset.mem_map.mp hp
      have hb := h₂.bound q hq
      rw [Inside, shift_apply, hc.leftEnd_middle x hb.1, hd.leftEnd_middle y hb.2,
        List.length_append, List.length_append]
      omega

/-- Alignments of what is before two roots and of what is below them, with the roots, are one. -/
theorem alignment_join (hc : Below c t) (hd : Below d u) (h₁ : Alignment x y m₁)
    (h₂ : Alignment c d m₂) :
    Alignment (x ++ c ++ [t]) (y ++ d ++ [u]) (join x y c d m₁ m₂) := by
  have hx : Alignment (x ++ c ++ [t]) (y ++ d ++ [u]) m₁ := by
    rw [List.append_assoc, List.append_assoc]
    exact (alignment_append_iff h₁.bound).mpr h₁
  have hs : Alignment (x ++ c ++ [t]) (y ++ d ++ [u]) (m₂.map (shift x.length y.length)) := by
    have h := (alignment_shift_iff (x := x) (y := y) hc.closed hd.closed).mpr h₂
    exact (alignment_append_iff h.bound).mpr h
  have hroot := hc.leftEnd_root x
  have hroot' := hd.leftEnd_root y
  have hlen : x.length ≤ (x ++ c).length ∧ y.length ≤ (y ++ d).length := by simp
  have hle := leftEnd_le (x ++ c ++ [t])
  have hle' := leftEnd_le (y ++ d ++ [u])
  refine ⟨fun p hp => ?_, fun p hp q hq => ?_, fun p hp q hq => ?_⟩
  · rcases mem_join_cases hc hd h₁ h₂ hp with ⟨hp, -⟩ | ⟨hp, -⟩ | rfl
    · exact hx.bound p hp
    · exact hs.bound p hp
    · simp
  · -- each of the two pairs is before the roots, below them or the roots, which gives nine cases
    have hp₁ := hle p.1
    have hp₂ := hle' p.2
    have hq₁ := hle q.1
    have hq₂ := hle' q.2
    rcases mem_join_cases hc hd h₁ h₂ hp with ⟨hp, hpx⟩ | ⟨hp, hpc, hpx⟩ | rfl <;>
      rcases mem_join_cases hc hd h₁ h₂ hq with ⟨hq, hqx⟩ | ⟨hq, hqc, hqx⟩ | rfl
    · exact hx.before p hp q hq
    · omega
    · omega
    · omega
    · exact hs.before p hp q hq
    · omega
    · omega
    · omega
    · omega
  · have hp₁ := hle p.1
    have hp₂ := hle' p.2
    have hq₁ := hle q.1
    have hq₂ := hle' q.2
    rcases mem_join_cases hc hd h₁ h₂ hp with ⟨hp, hpx⟩ | ⟨hp, hpc, hpx⟩ | rfl <;>
      rcases mem_join_cases hc hd h₁ h₂ hq with ⟨hq, hqx⟩ | ⟨hq, hqc, hqx⟩ | rfl
    · exact hx.beside p hp q hq
    · omega
    · rw [hroot, hroot']
      omega
    · omega
    · exact hs.beside p hp q hq
    · rw [hroot, hroot']
      omega
    · omega
    · omega
    · rw [hroot, hroot']
      omega

/-- What matching the roots saves. -/
theorem saving_root (x y c d : List Tree) (t u : Tree) :
    saving (x ++ c ++ [t]) (y ++ d ++ [u]) ((x ++ c).length, (y ++ d).length)
      = 2 - relabelCost t.label u.label := by
  rw [saving, labelAt, labelAt, List.getElem?_concat_length, List.getElem?_concat_length]
  rfl

/-- The three parts of a join save what they save alone. -/
theorem savings_join (hc : Below c t) (hd : Below d u) (h₁ : Alignment x y m₁)
    (h₂ : Alignment c d m₂) :
    savings (x ++ c ++ [t]) (y ++ d ++ [u]) (join x y c d m₁ m₂)
      = 2 - relabelCost t.label u.label + (savings x y m₁ + savings c d m₂) := by
  have hs := (alignment_shift_iff (x := x) (y := y) hc.closed hd.closed).mpr h₂
  have hroot : ((x ++ c).length, (y ++ d).length) ∉ m₁ ∪ m₂.map (shift x.length y.length) := by
    intro hmem
    rcases Finset.mem_union.mp hmem with hmem | hmem
    · have := (h₁.bound _ hmem).1
      simp only [List.length_append] at this
      omega
    · have := (hs.bound _ hmem).1
      omega
  have hdisj : Disjoint m₁ (m₂.map (shift x.length y.length)) := by
    rw [Finset.disjoint_left]
    intro p hp hmem
    obtain ⟨q, -, rfl⟩ := Finset.mem_map.mp hmem
    have := (h₁.bound _ hp).1
    simp only [shift_apply] at this
    omega
  have hfirst : savings (x ++ c ++ [t]) (y ++ d ++ [u]) m₁ = savings x y m₁ := by
    rw [List.append_assoc, List.append_assoc, savings_append h₁.bound]
  have hbelow : savings (x ++ c ++ [t]) (y ++ d ++ [u]) (m₂.map (shift x.length y.length))
      = savings c d m₂ := by
    rw [savings_append hs.bound, savings_shift]
  rw [← hfirst, ← hbelow, ← saving_root x y c d t u, savings, join, Finset.sum_insert hroot,
    Finset.sum_union hdisj]
  rfl

/-- If both roots are matched, they are matched with each other. -/
theorem Alignment.mem_root (h : Alignment (x ++ c ++ [t]) (y ++ d ++ [u]) m)
    (hp : ∃ p ∈ m, p.1 = (x ++ c).length) (hq : ∃ q ∈ m, q.2 = (y ++ d).length) :
    ((x ++ c).length, (y ++ d).length) ∈ m := by
  obtain ⟨p, hp, hpn⟩ := hp
  obtain ⟨q, hq, hqk⟩ := hq
  have hpk : p.2 = (y ++ d).length := by
    have hbp := (h.bound p hp).2
    have hbq := (h.bound q hq).1
    have := h.before p hp q hq
    simp only [List.length_append, List.length_singleton] at *
    omega
  rwa [← hpn, ← hpk]

/-- An alignment that matches the roots falls into the pairs below them and the pairs before. -/
theorem Alignment.exists_join (hc : Below c t) (hd : Below d u)
    (h : Alignment (x ++ c ++ [t]) (y ++ d ++ [u]) m)
    (hroot : ((x ++ c).length, (y ++ d).length) ∈ m) :
    ∃ m₁ m₂, Alignment x y m₁ ∧ Alignment c d m₂ ∧ m = join x y c d m₁ m₂ := by
  have hpart : ∀ p ∈ m, p ≠ ((x ++ c).length, (y ++ d).length) →
      p.1 < (x ++ c).length ∧ p.2 < (y ++ d).length := by
    intro p hp hne
    have hb := h.bound p hp
    have hlt := h.before p hp _ hroot
    have : ¬ (p.1 = (x ++ c).length ∧ p.2 = (y ++ d).length) := fun he => hne (Prod.ext he.1 he.2)
    simp only [List.length_append, List.length_singleton] at *
    omega
  -- a pair stands before both roots' subtrees or inside both
  have hside : ∀ p ∈ m, p.1 < x.length ↔ p.2 < y.length := by
    intro p hp
    have := h.beside p hp _ hroot
    rwa [hc.leftEnd_root x, hd.leftEnd_root y] at this
  refine ⟨m.filter (·.1 < x.length),
    (Finset.range c.length ×ˢ Finset.range d.length).filter
      fun p => shift x.length y.length p ∈ m, ?_, ?_, ?_⟩
  · have hb : ∀ p ∈ m.filter (·.1 < x.length), p.1 < x.length ∧ p.2 < y.length := by
      intro p hp
      obtain ⟨hp, hlt⟩ := Finset.mem_filter.mp hp
      exact ⟨hlt, (hside p hp).mp hlt⟩
    have hm := h.mono (Finset.filter_subset (·.1 < x.length) m)
    rw [List.append_assoc, List.append_assoc] at hm
    exact (alignment_append_iff hb).mp hm
  · refine (alignment_shift_iff (x := x) (y := y) hc.closed hd.closed).mp ?_
    refine (alignment_append_iff ?_).mp (h.mono ?_)
    · rw [Finset.forall_mem_map]
      intro p hp
      have hb := Finset.mem_product.mp (Finset.mem_filter.mp hp).1
      rw [Finset.mem_range, Finset.mem_range] at hb
      simp only [shift_apply, List.length_append]
      omega
    · intro p hp
      obtain ⟨q, hq, rfl⟩ := Finset.mem_map.mp hp
      exact (Finset.mem_filter.mp hq).2
  · ext p
    simp only [join, Finset.mem_insert, Finset.mem_union, Finset.mem_filter, Finset.mem_map,
      Finset.mem_product, Finset.mem_range]
    constructor
    · intro hp
      by_cases hne : p = ((x ++ c).length, (y ++ d).length)
      · exact Or.inl hne
      · refine Or.inr ?_
        rcases Nat.lt_or_ge p.1 x.length with hlt | hge
        · exact Or.inl ⟨hp, hlt⟩
        · have hb := hpart p hp hne
          have hy := hside p hp
          have hshift : shift x.length y.length (p.1 - x.length, p.2 - y.length) = p := by
            refine Prod.ext ?_ ?_ <;> simp only [shift_apply] <;> omega
          simp only [List.length_append] at hb
          exact Or.inr ⟨(p.1 - x.length, p.2 - y.length), ⟨⟨by omega, by omega⟩, hshift.symm ▸ hp⟩,
            hshift⟩
    · rintro (rfl | ⟨hp, -⟩ | ⟨q, ⟨-, hq⟩, rfl⟩)
      · exact hroot
      · exact hp
      · exact hq

/-! ## 4. The best alignment

The recursion takes the best of three cases, and every alignment is in one of them. -/

/-- If the last root on the left is not matched, it makes no difference. -/
theorem Alignment.deleteRoot (h : Alignment (a ++ [t]) b m) (hp : ¬ ∃ p ∈ m, p.1 = a.length) :
    Alignment a b m ∧ savings (a ++ [t]) b m = savings a b m := by
  have hm : ∀ p ∈ m, p.1 < a.length ∧ p.2 < b.length := by
    intro p hp'
    have hb := h.bound p hp'
    have : p.1 ≠ a.length := fun he => hp ⟨p, hp', he⟩
    simp only [List.length_append, List.length_singleton] at hb
    omega
  rw [← List.append_nil b] at h
  have hcut := h.restrict hm
  rwa [List.append_nil] at hcut

/-- If the last root on the right is not matched, it makes no difference. -/
theorem Alignment.insertRoot (h : Alignment a (b ++ [u]) m) (hq : ¬ ∃ q ∈ m, q.2 = b.length) :
    Alignment a b m ∧ savings a (b ++ [u]) m = savings a b m := by
  have hm : ∀ p ∈ m, p.1 < a.length ∧ p.2 < b.length := by
    intro p hp
    have hb := h.bound p hp
    have : p.2 ≠ b.length := fun he => hq ⟨p, hp, he⟩
    simp only [List.length_append, List.length_singleton] at hb
    omega
  rw [← List.append_nil a] at h
  have hcut := h.restrict hm
  rwa [List.append_nil] at hcut

/-- **No alignment saves more than the distance allows.** -/
theorem forestDistance_add_savings_le (f g : List Tree) :
    ∀ m, Alignment (forestNodes f.reverse) (forestNodes g.reverse) m →
      forestDistance f g + savings (forestNodes f.reverse) (forestNodes g.reverse) m
        ≤ sizes f + sizes g := by
  fun_induction forestDistance f g with
  | case1 g =>
    intro m h
    have hm : m = ∅ := Finset.eq_empty_of_forall_notMem fun p hp => by
      have := (h.bound p hp).1
      simp [forestNodes] at this
    simp [hm, savings]
  | case2 t f =>
    intro m h
    have hm : m = ∅ := Finset.eq_empty_of_forall_notMem fun p hp => by
      have := (h.bound p hp).2
      simp [forestNodes] at this
    simp [hm, savings]
  | case3 t f u g ih₁ ih₂ ih₃ ih₄ =>
    intro m h
    simp only [forestNodes_reverse_cons, forestNodes_reverse_children, List.reverse_reverse,
      sizes_cons, sizes_append] at *
    -- either root may be left out, and then the recursion is on the forests without it
    by_cases hp : ∃ p ∈ m, p.1 = (forestNodes f.reverse ++ forestNodes t.children).length
    · by_cases hq : ∃ q ∈ m, q.2 = (forestNodes g.reverse ++ forestNodes u.children).length
      · -- both roots are matched
        obtain ⟨m₁, m₂, h₁, h₂, rfl⟩ :=
          h.exists_join (below_root t) (below_root u) (h.mem_root hp hq)
        have hf := ih₃ m₁ h₁
        have hc := ih₄ m₂ h₂
        rw [savings_join (below_root t) (below_root u) h₁ h₂]
        have := relabelCost_le_one t.label u.label
        omega
      · obtain ⟨h', hs⟩ := h.insertRoot hq
        have hg := ih₂ m h'
        rw [hs]
        omega
    · obtain ⟨h', hs⟩ := h.deleteRoot hp
      have hf := ih₁ m h'
      rw [hs]
      omega

/-- **Some alignment saves as much as the distance allows.** -/
theorem exists_alignment (f g : List Tree) :
    ∃ m, Alignment (forestNodes f.reverse) (forestNodes g.reverse) m ∧
      forestDistance f g + savings (forestNodes f.reverse) (forestNodes g.reverse) m
        = sizes f + sizes g := by
  fun_induction forestDistance f g with
  | case1 g => exact ⟨∅, ⟨by simp, by simp, by simp⟩, by simp [savings, sizes]⟩
  | case2 t f => exact ⟨∅, ⟨by simp, by simp, by simp⟩, by simp [savings, sizes]⟩
  | case3 t f u g ih₁ ih₂ ih₃ ih₄ =>
    obtain ⟨m₁, h₁, he₁⟩ := ih₁
    obtain ⟨m₂, h₂, he₂⟩ := ih₂
    obtain ⟨m₃, h₃, he₃⟩ := ih₃
    obtain ⟨m₄, h₄, he₄⟩ := ih₄
    simp only [forestNodes_reverse_cons, forestNodes_reverse_children, List.reverse_reverse,
      sizes_cons, sizes_append] at *
    rcases forestDistance_cases t u f g with h | h | h <;> rw [forestDistance_cons] at h <;> rw [h]
    · obtain ⟨h', hs⟩ := h₁.append [t] []
      rw [List.append_nil] at h' hs
      exact ⟨m₁, h', by rw [hs]; omega⟩
    · obtain ⟨h', hs⟩ := h₂.append [] [u]
      rw [List.append_nil] at h' hs
      exact ⟨m₂, h', by rw [hs]; omega⟩
    · refine ⟨_, alignment_join (below_root t) (below_root u) h₃ h₄, ?_⟩
      rw [savings_join (below_root t) (below_root u) h₃ h₄]
      have := relabelCost_le_one t.label u.label
      omega

end Tree

end QueryGrading
