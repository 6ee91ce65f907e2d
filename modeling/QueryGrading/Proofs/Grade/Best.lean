import Mathlib
import QueryGrading.Proofs.Grade.Scale

/-!
# The best level

The best verdicts of a session are right on every axis that is judged. Whatever the ranking of the
axes, they are the last row of the scale and no other row (`endsAt_rows`). So of the verdicts that
have a level only these have value one (`value_level_eq_one_iff`). All values lie between zero and
one, and a scale has one level only if its session judges nothing (`size_le_one_iff`).

In `new` of `CorrectnessMatrix` the rows are all combinations of the verdicts on the three axes, the
last axis changing fastest, without those of `is_excluded`. `EndsAt` follows the best combination
through the three lists (`endsAt_triples`) and the filter; the order within the list matters nowhere
else. `value` is `normalized_value`, with the level of `calculate_correctness_level` or, if there is
none, the lowest, as `finalize` has it.
-/

namespace QueryGrading

/-! ## 1. The end of a list

The laws follow the two list functions by which the rows of a scale are made, so that an element is
followed through them without a look at the lists. -/

/-- The element stands at the end of the list and nowhere else in it. -/
def EndsAt {α : Type} (x : α) (xs : List α) : Prop := ∃ lower, xs = lower ++ [x] ∧ x ∉ lower

namespace EndsAt

variable {α β : Type} {x y : α} {z : β} {xs : List α}

theorem map {f : α → β} (hx : EndsAt x xs) (h : ∀ y, f y = f x → y = x) :
    EndsAt (f x) (xs.map f) := by
  obtain ⟨lower, rfl, hlower⟩ := hx
  refine ⟨lower.map f, by simp, fun hmem => ?_⟩
  obtain ⟨y, hy, heq⟩ := List.mem_map.mp hmem
  exact hlower (h y heq ▸ hy)

theorem flatMap {f : α → List β} (hx : EndsAt x xs) (hz : EndsAt z (f x))
    (h : ∀ y, z ∈ f y → y = x) : EndsAt z (xs.flatMap f) := by
  obtain ⟨lower, rfl, hlower⟩ := hx
  obtain ⟨zs, hf, hzs⟩ := hz
  refine ⟨lower.flatMap f ++ zs, by simp [hf], fun hmem => ?_⟩
  rcases List.mem_append.mp hmem with hmem | hmem
  · obtain ⟨y, hy, hzy⟩ := List.mem_flatMap.mp hmem
    exact hlower (h y hzy ▸ hy)
  · exact hzs hmem

theorem filter {p : α → Bool} (hx : EndsAt x xs) (h : p x = true) :
    EndsAt x (xs.filter p) := by
  obtain ⟨lower, rfl, hlower⟩ := hx
  exact ⟨lower.filter p, by simp [h], fun hmem => hlower (List.mem_filter.mp hmem).1⟩

theorem length_pos (hx : EndsAt x xs) : 0 < xs.length := by
  obtain ⟨lower, rfl, -⟩ := hx
  simp

theorem mem (hx : EndsAt x xs) : x ∈ xs := by
  obtain ⟨lower, rfl, -⟩ := hx
  simp

/-- Only the last element has the last position. -/
theorem idxOf?_eq_iff [BEq α] [LawfulBEq α] (hx : EndsAt x xs) :
    xs.idxOf? y = some (xs.length - 1) ↔ y = x := by
  obtain ⟨lower, rfl, hlower⟩ := hx
  rw [List.idxOf?_eq_some_iff]
  constructor
  · rintro ⟨_, hy, -⟩
    simpa using hy.symm
  · rintro rfl
    refine ⟨by simp, by simp, fun j hj hjy => hlower ?_⟩
    have hlt : j < lower.length := by simpa using hj
    rw [List.getElem_append_left hlt] at hjy
    exact hjy ▸ List.getElem_mem hlt

end EndsAt

/-! ## 2. The best verdicts

Which verdicts are the best depends on the levels alone; the ranking only says in which order the
axes are combined. -/

theorem PerAxis.eq_of_parts {α : Type} {v w : PerAxis α} (hg : v.grammar = w.grammar)
    (hm : v.meaning = w.meaning) (hr : v.results = w.results) : v = w := by
  cases v
  cases w
  simp_all

/-- The best verdict of an axis. -/
def Sensitivity.best : Sensitivity → Verdict
  | .absent => .invalid
  | _ => .correct

/-- The best verdicts of a session. -/
def Session.best (s : Session) : Verdicts :=
  ⟨s.levels.grammar.best, s.levels.meaning.best, s.levels.results.best⟩

theorem Sensitivity.best_eq_correct {level : Sensitivity} (h : level ≠ .absent) :
    level.best = .correct := by
  cases level with
  | absent => exact absurd rfl h
  | _ => rfl

theorem Sensitivity.endsAt_verdicts (level : Sensitivity) : EndsAt level.best level.verdicts := by
  cases level with
  | absent => exact ⟨[], rfl, by decide⟩
  | two => exact ⟨[.incorrect], rfl, by decide⟩
  | three => exact ⟨[.incorrect, .minorIncorrect], rfl, by decide⟩
  | six =>
    exact ⟨[.incorrect, .sm1, .sm2, .sm3, .sm4, .sm5, .minorIncorrect], rfl, by decide⟩

namespace Session

variable (s : Session)

/-- The last of all combinations takes the last of each axis. -/
theorem endsAt_triples {f : Verdict → Verdict → Verdict → Verdicts} {a b c : Verdict}
    {as bs cs : List Verdict} (ha : EndsAt a as) (hb : EndsAt b bs) (hc : EndsAt c cs)
    (hf : ∀ x y z, f x y z = f a b c → x = a ∧ y = b ∧ z = c) :
    EndsAt (f a b c) (as.flatMap fun x => bs.flatMap fun y => cs.map (f x y)) := by
  have hrow : EndsAt (f a b c) (cs.map (f a b)) := hc.map fun z hz => (hf a b z hz).2.2
  have hplane : EndsAt (f a b c) (bs.flatMap fun y => cs.map (f a y)) := by
    refine hb.flatMap hrow fun y hy => ?_
    obtain ⟨z, -, hz⟩ := List.mem_map.mp hy
    exact (hf a y z hz).2.1
  refine ha.flatMap hplane fun x hx => ?_
  obtain ⟨y, -, hy⟩ := List.mem_flatMap.mp hx
  obtain ⟨z, -, hz⟩ := List.mem_map.mp hy
  exact (hf x y z hz).1

/-- Verdicts put on the three axes in the order of a ranking. -/
def ranked (ranking : Ranking) (x y z : Verdict) : Verdicts :=
  ((Verdicts.unjudged.set ranking.axes.1 x).set ranking.axes.2.1 y).set ranking.axes.2.2 z

theorem ranked_inj {ranking : Ranking} {x y z a b c : Verdict}
    (h : ranked ranking x y z = ranked ranking a b c) : x = a ∧ y = b ∧ z = c := by
  cases ranking <;>
    simp only [ranked, Ranking.axes, PerAxis.set, PerAxis.mk.injEq] at h <;>
    simp [h]

theorem ranked_best :
    ranked s.ranking (s.levels.get s.ranking.axes.1).best (s.levels.get s.ranking.axes.2.1).best
      (s.levels.get s.ranking.axes.2.2).best = s.best := by
  unfold ranked
  cases s.ranking <;> rfl

theorem endsAt_combinations : EndsAt s.best s.combinations := by
  rw [← ranked_best]
  exact endsAt_triples (Sensitivity.endsAt_verdicts _) (Sensitivity.endsAt_verdicts _)
    (Sensitivity.endsAt_verdicts _) fun _ _ _ => ranked_inj

theorem best_plausible : s.implausible s.best = false := by
  rw [← Bool.not_eq_true, implausible_iff]
  unfold best
  cases s.levels.grammar <;> cases s.levels.meaning <;> cases s.levels.results <;>
    simp [Sensitivity.best, Verdict.isPartial]

end Session

/-! ## 3. The highest level

The value of a level is its place among all levels, from zero for the first to one for the last.
With one level only there is no such scale, and its value is one. -/

namespace Scale

/-- **The best verdicts are the last row of the scale**, and no other row. -/
theorem endsAt_rows (s : Session) : EndsAt s.best (ofSession s).rows :=
  s.endsAt_combinations.filter (by rw [s.best_plausible, Bool.not_false])

/-- The value one is that of the last level, or of any level if there is only one. -/
theorem value_eq_one_iff (scale : Scale) (level : Nat) :
    scale.value level = 1 ↔ scale.size ≤ 1 ∨ level - 1 = scale.size - 1 := by
  unfold value
  split
  · next h => simp [h]
  · next h =>
    have hsize : ((scale.size - 1 : Nat) : Rat) ≠ 0 := by
      rw [Nat.cast_ne_zero]
      omega
    rw [Rat.mkRat_eq_div, div_eq_one_iff_eq hsize, or_iff_right h]
    simp

/-- **Of the verdicts on a scale only the best have value one.** -/
theorem value_level_eq_one_iff {s : Session} {v : Verdicts} (hv : v ∈ (ofSession s).rows) :
    (ofSession s).value (((ofSession s).level? v).getD 1) = 1 ↔ v = s.best := by
  have hends := endsAt_rows s
  obtain ⟨i, hi⟩ := Option.isSome_iff_exists.mp (List.isSome_idxOf?.mpr hv)
  obtain ⟨hlt, -, -⟩ := List.idxOf?_eq_some_iff.mp hi
  rw [← hends.idxOf?_eq_iff, level?, hi, value_eq_one_iff, size]
  simp only [Option.map_some, Option.getD_some, Option.some.injEq]
  omega

end Scale

/-! ## 4. The range of levels and values

The worst verdicts are on the scale as well, so where something is judged there are at least two
levels. -/

/-- The worst verdict of an axis. -/
def Sensitivity.worst : Sensitivity → Verdict
  | .absent => .invalid
  | _ => .incorrect

theorem Sensitivity.worst_eq_best_iff (level : Sensitivity) :
    level.worst = level.best ↔ level = .absent := by
  cases level <;> decide

/-- The worst verdicts of a session. -/
def Session.worst (s : Session) : Verdicts :=
  ⟨s.levels.grammar.worst, s.levels.meaning.worst, s.levels.results.worst⟩

theorem Session.get_best (s : Session) (axis : Axis) :
    s.best.get axis = (s.levels.get axis).best := by
  cases axis <;> rfl

theorem Session.get_worst (s : Session) (axis : Axis) :
    s.worst.get axis = (s.levels.get axis).worst := by
  cases axis <;> rfl

theorem Session.worst_plausible (s : Session) : s.implausible s.worst = false := by
  rw [← Bool.not_eq_true, implausible_iff]
  unfold worst
  cases s.levels.grammar <;> cases s.levels.meaning <;> cases s.levels.results <;>
    simp [Sensitivity.worst, Verdict.isPartial]

namespace Scale

theorem size_pos (s : Session) : 1 ≤ (ofSession s).size := (endsAt_rows s).length_pos

theorem best_mem_rows (s : Session) : s.best ∈ (ofSession s).rows := (endsAt_rows s).mem

theorem worst_mem_rows (s : Session) : s.worst ∈ (ofSession s).rows := by
  rw [mem_rows_iff]
  refine ⟨fun axis => ?_, s.worst_plausible⟩
  rw [s.get_worst]
  cases s.levels.get axis <;> simp [Sensitivity.worst, Sensitivity.verdicts]

theorem eq_best_of_size_le_one {s : Session} {v : Verdicts} (hsize : (ofSession s).size ≤ 1)
    (hv : v ∈ (ofSession s).rows) : v = s.best := by
  obtain ⟨row, hrow⟩ := List.length_eq_one_iff.mp (Nat.le_antisymm hsize (size_pos s))
  have hbest := best_mem_rows s
  rw [hrow, List.mem_singleton] at hbest hv
  rw [hv, hbest]

/-- A scale of one level is that of a session that judges nothing. -/
theorem size_le_one_iff (s : Session) :
    (ofSession s).size ≤ 1 ↔ ∀ axis, s.levels.get axis = .absent := by
  constructor
  · intro hsize axis
    have hworst := eq_best_of_size_le_one hsize (worst_mem_rows s)
    rw [← Sensitivity.worst_eq_best_iff, ← s.get_worst, ← s.get_best, hworst]
  · intro habsent
    have hone : s.combinations.length = 1 := by
      simp [Session.combinations, habsent, Sensitivity.verdicts]
    exact hone ▸ List.length_filter_le _ _

/-- A level counts from one up to the size of the scale. -/
theorem level?_bounds {scale : Scale} {v : Verdicts} {level : Nat}
    (h : scale.level? v = some level) : 1 ≤ level ∧ level ≤ scale.size := by
  obtain ⟨i, hi, rfl⟩ := Option.map_eq_some_iff.mp h
  obtain ⟨hlt, -, -⟩ := List.idxOf?_eq_some_iff.mp hi
  exact ⟨Nat.succ_pos i, hlt⟩

theorem value_nonneg (scale : Scale) (level : Nat) : 0 ≤ scale.value level := by
  unfold value
  split
  · exact zero_le_one
  · rw [Rat.mkRat_eq_div]
    exact div_nonneg (Int.cast_nonneg (Int.natCast_nonneg _)) (Nat.cast_nonneg _)

theorem value_le_one {scale : Scale} {level : Nat} (h : level ≤ scale.size) :
    scale.value level ≤ 1 := by
  unfold value
  split
  · exact le_refl 1
  · next hsize =>
    have hpos : (0 : Rat) < ((scale.size - 1 : Nat) : Rat) := by
      rw [Nat.cast_pos]
      omega
    rw [Rat.mkRat_eq_div, div_le_one hpos]
    have hle : level - 1 ≤ scale.size - 1 := Nat.sub_le_sub_right h 1
    rw [Int.ofNat_eq_natCast]
    exact_mod_cast hle

/-- **The highest value is that of the best verdicts**, also where verdicts without a level count
as the lowest: except in a session that judges nothing, where all have it. -/
theorem value_getD_eq_one_iff (s : Session) (v : Verdicts) :
    (ofSession s).value (((ofSession s).level? v).getD 1) = 1 ↔
      (∀ axis, s.levels.get axis = .absent) ∨ v = s.best := by
  rw [← size_le_one_iff]
  by_cases hv : v ∈ (ofSession s).rows
  · rw [value_level_eq_one_iff hv, or_iff_right_of_imp]
    exact fun hsize => eq_best_of_size_le_one hsize hv
  · have hne : v ≠ s.best := fun h => hv (h ▸ best_mem_rows s)
    have hpos := size_pos s
    rw [(level?_eq_none_iff _ v).mpr hv, Option.getD_none, value_eq_one_iff, or_iff_left hne]
    omega

end Scale

end QueryGrading
