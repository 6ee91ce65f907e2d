import QueryGrading.Proofs.Collection
import QueryGrading.Proofs.Query.Report
import QueryGrading.Query.CreateTable

/-!
# What a constraint is compared with

Foreign keys and checks are compared one by one, in `compare_foreign_keys` and `compare_checks`.
Each of the reference takes one of the submission out of those that are `unused`: the first one with
its key, or else the first one. `partners` are those that are taken, in the order of the reference;
they are all those of the submission, in another order (`partners_perm`).

Whether every partner has the form of its constraint does not depend on the constraints that stand
between those of one key: it is so just where both lists have the same forms in the same order under
each key (`map_partners_eq_iff`). How many pairs differ does depend on the order of the lists where
a constraint takes one that a later one needs. The forms that are found to differ are the multiset
difference of the two lists just where no form is among those expected and among those found in the
pairs that differ (`leftover_perm_iff`).

The section is about lists with a key and a form, and knows nothing of constraints: the key of a
foreign key is its sorted columns and the form all of it, and the signature of a check is both.
-/

namespace QueryGrading

namespace CreateTable

/-! ## 1. Taking one out of a list

`position` followed by `remove`: the first element that fits is taken out, and the others keep their
order. -/

section Taking

variable {α κ : Type} {p : α → Bool} {x y : α} {xs others pool : List α}

/-- The first element is taken if it has the property. -/
theorem takeFirst_cons_of_pos (rest : List α) (h : p x = true) :
    takeFirst p (x :: rest) = some (x, rest) := by
  rw [takeFirst, if_pos h]

/-- An element without the property stays in front of the others. -/
theorem takeFirst_cons_of_neg (rest : List α) (h : p x = false) :
    takeFirst p (x :: rest) = (takeFirst p rest).map fun (y, others) => (y, x :: others) := by
  rw [takeFirst, if_neg (by simp [h])]

/-- No element has the property, or the first one with it is taken out from between the others. -/
theorem takeFirst_cases (p : α → Bool) (xs : List α) :
    (takeFirst p xs = none ∧ ∀ y ∈ xs, p y = false) ∨
      ∃ before y after, xs = before ++ y :: after ∧ p y = true ∧ (∀ z ∈ before, p z = false) ∧
        takeFirst p xs = some (y, before ++ after) := by
  induction xs with
  | nil => exact .inl ⟨rfl, nofun⟩
  | cons x rest ih =>
    cases hx : p x with
    | true => exact .inr ⟨[], x, rest, rfl, hx, nofun, takeFirst_cons_of_pos rest hx⟩
    | false =>
      rcases ih with ⟨hnone, hrest⟩ | ⟨before, y, after, rfl, hy, hbefore, hsome⟩
      · refine .inl ⟨?_, List.forall_mem_cons.mpr ⟨hx, hrest⟩⟩
        rw [takeFirst_cons_of_neg rest hx, hnone, Option.map_none]
      · refine .inr ⟨x :: before, y, after, rfl, hy, List.forall_mem_cons.mpr ⟨hx, hbefore⟩, ?_⟩
        rw [takeFirst_cons_of_neg _ hx, hsome, Option.map_some, List.cons_append]

/-- Where nothing is taken, nothing has the property. -/
theorem takeFirst_eq_none (h : takeFirst p xs = none) : ∀ y ∈ xs, p y = false := by
  rcases takeFirst_cases p xs with ⟨-, hnone⟩ | ⟨_, y, _, -, -, -, hsome⟩
  · exact hnone
  · rw [hsome] at h
    cases h

/-- What is taken has the property. -/
theorem of_takeFirst_eq_some (h : takeFirst p xs = some (x, others)) : p x = true := by
  rcases takeFirst_cases p xs with ⟨hnone, -⟩ | ⟨_, y, _, -, hy, -, hsome⟩
  · rw [hnone] at h
    cases h
  · rw [hsome] at h
    cases h
    exact hy

/-- Nothing is lost when an element is taken. -/
theorem perm_of_takeFirst (h : takeFirst p xs = some (x, others)) : xs.Perm (x :: others) := by
  rcases takeFirst_cases p xs with ⟨hnone, -⟩ | ⟨before, y, after, rfl, -, -, hsome⟩
  · rw [hnone] at h
    cases h
  · rw [hsome] at h
    cases h
    exact List.perm_middle

/-- The one that is taken is the one that is found. -/
theorem map_fst_takeFirst (p : α → Bool) : ∀ xs : List α,
    (takeFirst p xs).map Prod.fst = xs.find? p
  | [] => rfl
  | x :: rest => by
    cases hx : p x with
    | true =>
      rw [takeFirst_cons_of_pos rest hx, List.find?_cons_of_pos hx]
      rfl
    | false =>
      rw [takeFirst_cons_of_neg rest hx, List.find?_cons_of_neg (by simp [hx]),
        ← map_fst_takeFirst p rest, Option.map_map]
      rfl

variable [BEq κ] [LawfulBEq κ] (key : α → κ)

/-- The first element with a key is taken, so the order under each key stays. -/
theorem filter_takeFirst {k : κ} (h : takeFirst (key · == k) xs = some (y, others)) (k' : κ) :
    xs.filter (key · == k') = (y :: others).filter (key · == k') := by
  rcases takeFirst_cases (key · == k) xs with
    ⟨hnone, -⟩ | ⟨before, z, after, rfl, hz, hbefore, hsome⟩
  · rw [hnone] at h
    cases h
  · rw [hsome] at h
    cases h
    rw [List.filter_append, List.filter_cons, List.filter_cons, List.filter_append]
    by_cases hk : key y = k'
    · -- nothing in front of the element has its key
      have hnil : before.filter (key · == k') = [] := by
        rw [List.filter_eq_nil_iff, ← hk, beq_iff_eq.mp hz]
        exact fun w hw => by simpa using hbefore w hw
      rw [hnil, List.nil_append, List.nil_append]
    · rw [if_neg (by simpa using hk), if_neg (by simpa using hk)]

/-- What an element is compared with, and those that are left then: the first one with its key, or
else the first one. -/
def partner? (x : α) (pool : List α) : Option (α × List α) :=
  (takeFirst (fun y => key y == key x) pool).or (pool.head?.map fun y => (y, pool.tail))

/-- The partner is one of those that are left, and it has the key if any of them has. -/
theorem exists_partner? (x : α) (hpool : pool ≠ []) :
    ∃ y others, partner? key x pool = some (y, others) ∧ pool.Perm (y :: others) ∧
      ((∃ z ∈ pool, key z = key x) → key y = key x) := by
  rcases takeFirst_cases (fun y => key y == key x) pool with
    ⟨hnone, hpool'⟩ | ⟨before, y, after, rfl, hy, -, hsome⟩
  · obtain ⟨y, others, rfl⟩ := List.exists_cons_of_ne_nil hpool
    refine ⟨y, others, ?_, .refl _, fun ⟨z, hz, hkey⟩ => ?_⟩
    · rw [partner?, hnone, Option.none_or]
      rfl
    · exact absurd hkey (by simpa using hpool' z hz)
  · refine ⟨y, before ++ after, ?_, List.perm_middle, fun _ => by simpa using hy⟩
    rw [partner?, hsome, Option.some_or]

variable {key}

/-- A partner is the first of its key, so the order under each key stays. -/
theorem filter_partner? (h : partner? key x pool = some (y, others)) (k : κ) :
    pool.filter (key · == k) = (y :: others).filter (key · == k) := by
  rcases takeFirst_cases (fun y => key y == key x) pool with
    ⟨hnone, -⟩ | ⟨before, z, after, -, -, -, hsome⟩
  · rw [partner?, hnone, Option.none_or] at h
    cases pool with
    | nil => cases h
    | cons z rest => cases h; rfl
  · rw [partner?, hsome, Option.some_or] at h
    cases h
    exact filter_takeFirst key hsome k

end Taking

/-! ## 2. All partners

With lists of one length there is always something left to take. So every element has a partner, and
the partners together are the other list in another order. -/

section Partners

variable {α κ φ : Type} [BEq κ] {key : α → κ} {form : α → φ} {x y : α}
  {xs ys pool others : List α}

/-- What the elements of a list are compared with, one after another. -/
def partners (key : α → κ) : List α → List α → List α
  | [], _ => []
  | x :: rest, pool =>
    match partner? key x pool with
    | some (y, others) => y :: partners key rest others
    | none => []

/-- One more element, and what it takes. -/
theorem partners_cons (h : partner? key x pool = some (y, others)) :
    partners key (x :: xs) pool = y :: partners key xs others := by
  rw [partners, h]

/-- Two lists have the same forms in the same order under each key. -/
def SameUnderKeys (key : α → κ) (form : α → φ) (xs ys : List α) : Prop :=
  ∀ k, (xs.filter (key · == k)).map form = (ys.filter (key · == k)).map form

theorem SameUnderKeys.refl (key : α → κ) (form : α → φ) (xs : List α) :
    SameUnderKeys key form xs xs :=
  fun _ => rfl

variable [LawfulBEq κ]

/-- Of lists of one length, as many elements as are still to come are left. -/
theorem exists_partner?_of_length (key : α → κ) (h : (x :: xs).length = pool.length) :
    ∃ y others, partner? key x pool = some (y, others) ∧ xs.length = others.length ∧
      pool.Perm (y :: others) ∧ ((∃ z ∈ pool, key z = key x) → key y = key x) := by
  obtain ⟨y, others, hpartner, hperm, hfound⟩ :=
    exists_partner? key x (List.ne_nil_of_length_eq_add_one h.symm)
  have hlength : pool.length = (y :: others).length := hperm.length_eq
  exact ⟨y, others, hpartner, Nat.succ.inj (h.trans hlength), hperm, hfound⟩

/-- **The partners are all that there is to be compared with, in another order.** -/
theorem partners_perm : ∀ {xs pool : List α}, xs.length = pool.length →
    (partners key xs pool).Perm pool
  | [], pool, h => by rw [partners, List.eq_nil_of_length_eq_zero h.symm]
  | x :: rest, pool, h => by
    obtain ⟨y, others, hpartner, hlength, hperm, -⟩ := exists_partner?_of_length key h
    rw [partners_cons hpartner]
    exact ((partners_perm hlength).cons y).trans hperm.symm

/-- Two elements of one key at the head stand for each other. -/
theorem sameUnderKeys_cons_iff (hkey : key y = key x) :
    SameUnderKeys key form (x :: xs) (y :: ys) ↔
      form x = form y ∧ SameUnderKeys key form xs ys := by
  have hcons : ∀ k, (((x :: xs).filter (key · == k)).map form =
        ((y :: ys).filter (key · == k)).map form) ↔
      (key x = k → form x = form y) ∧
        (xs.filter (key · == k)).map form = (ys.filter (key · == k)).map form := by
    intro k
    rw [List.filter_cons, List.filter_cons, hkey]
    by_cases hk : key x = k <;> simp [hk]
  rw [SameUnderKeys, forall_congr' hcons, forall_and]
  exact and_congr_left fun _ => ⟨fun h => h _ rfl, fun h _ _ => h⟩

/-- **When every partner has the form of its element.**  Elements of one form have one key. -/
theorem map_partners_eq_iff (hform : ∀ a b, form a = form b → key a = key b) :
    ∀ {xs pool : List α}, xs.length = pool.length →
      (xs.map form = (partners key xs pool).map form ↔ SameUnderKeys key form xs pool)
  | [], pool, h => by
    rw [List.eq_nil_of_length_eq_zero h.symm]
    exact iff_of_true rfl fun _ => rfl
  | x :: rest, pool, h => by
    obtain ⟨y, others, hpartner, hlength, -, hfound⟩ := exists_partner?_of_length key h
    have hstep : key y = key x →
        (SameUnderKeys key form (x :: rest) pool ↔
          form x = form y ∧ SameUnderKeys key form rest others) := by
      intro hkey
      rw [← sameUnderKeys_cons_iff hkey, SameUnderKeys, SameUnderKeys]
      exact forall_congr' fun k => by rw [filter_partner? hpartner k]
    rw [partners_cons hpartner, List.map_cons, List.map_cons, List.cons.injEq,
      map_partners_eq_iff hform hlength]
    constructor
    · rintro ⟨hxy, hrest⟩
      exact (hstep (hform x y hxy).symm).mpr ⟨hxy, hrest⟩
    · intro hsame
      -- the reference has an element with the key of `x`, so there is one left to be compared with
      have hmem : form x ∈ (pool.filter (key · == key x)).map form := by
        rw [← hsame (key x), List.filter_cons_of_pos (by simp)]
        exact List.mem_cons_self
      obtain ⟨z, hz, -⟩ := List.mem_map.mp hmem
      rw [List.mem_filter, beq_iff_eq] at hz
      exact (hstep (hfound ⟨z, hz⟩)).mp hsame

/-- Of one element on each side the forms are compared. -/
theorem sameUnderKeys_singleton_iff (hform : ∀ a b, form a = form b → key a = key b) :
    SameUnderKeys key form [x] [y] ↔ form x = form y := by
  have hpartners : partners key [x] [y] = [y] := List.perm_singleton.mp (partners_perm rfl)
  have hlength : [x].length = [y].length := rfl
  rw [← map_partners_eq_iff hform hlength, hpartners, List.map_singleton, List.map_singleton,
    List.cons.injEq, and_iff_left rfl]

/-- Lists that are the same under each key have the same keys. -/
theorem SameUnderKeys.perm_keys (h : SameUnderKeys key form xs ys) :
    (xs.map key).Perm (ys.map key) := by
  rw [List.perm_iff_count]
  intro k
  have hlength := congrArg List.length (h k)
  rw [List.length_map, List.length_map, ← List.countP_eq_length_filter,
    ← List.countP_eq_length_filter] at hlength
  rwa [List.count_eq_countP, List.count_eq_countP, List.countP_map, List.countP_map]

theorem SameUnderKeys.length_eq (h : SameUnderKeys key form xs ys) : xs.length = ys.length := by
  simpa using h.perm_keys.length_eq

/-- Elements that are nothing but their keys are the same up to order. -/
theorem sameUnderKeys_self_iff :
    SameUnderKeys key key xs ys ↔ (xs.map key).Perm (ys.map key) := by
  refine ⟨SameUnderKeys.perm_keys, fun h k => ?_⟩
  have hfilter : ∀ zs : List α, (zs.filter (key · == k)).map key = (zs.map key).filter (· == k) :=
    fun zs => by rw [List.filter_map]; rfl
  rw [hfilter, hfilter, List.filter_beq, List.filter_beq, h.count_eq]

/-- Where no two elements have one key, their order does not matter. -/
theorem sameUnderKeys_of_perm (h : xs.Perm ys) (hkeys : (xs.map key).Nodup) :
    SameUnderKeys key form xs ys := by
  intro k
  have hfilter : (xs.filter (key · == k)).Perm (ys.filter (key · == k)) := h.filter _
  have hlength : (xs.filter (key · == k)).length ≤ 1 := by
    have hcount := List.nodup_iff_count_le_one.mp hkeys k
    rwa [List.count_eq_countP, List.countP_map, List.countP_eq_length_filter] at hcount
  match hxs : xs.filter (key · == k), hlength with
  | [], _ =>
    rw [hxs, List.nil_perm] at hfilter
    rw [hfilter]
  | [x], _ =>
    rw [hxs, List.singleton_perm] at hfilter
    rw [← hfilter]

end Partners

/-! ## 3. The pairs that differ

The pairs whose forms differ are the ones that are reported. They balance as the lists do, so they
are never too few; they are too many just where a form is on both sides of the report. -/

section Reported

variable {α κ φ : Type} [DecidableEq φ]

/-- Of each form, the pairs that differ expect as many more than they find as the one list has more
than the other. -/
theorem count_differing {β : Type} (f g : β → φ) (ps : List β) (v : φ) :
    ((ps.filter fun p => f p ≠ g p).map f).count v + (ps.map g).count v =
      ((ps.filter fun p => f p ≠ g p).map g).count v + (ps.map f).count v := by
  induction ps with
  | nil => rfl
  | cons p rest ih =>
    by_cases hp : f p = g p
    · rw [List.filter_cons_of_neg (by simp [hp])]
      simp only [List.map_cons, List.count_cons, hp]
      omega
    · rw [List.filter_cons_of_pos (by simp [hp])]
      simp only [List.map_cons, List.count_cons]
      omega

variable [BEq κ] [LawfulBEq κ] {key : α → κ} {form : α → φ} {xs ys : List α}

/-- The pairs that differ in their forms, each with the number of the one that is expected. -/
def reported (key : α → κ) (form : α → φ) (xs ys : List α) : List (Nat × α × α) :=
  (numbered 1 (xs.zip (partners key xs ys))).filter fun p => form p.2.1 ≠ form p.2.2

/-- Of each form, the reported pairs balance as both lists do. -/
theorem count_reported (key : α → κ) (form : α → φ) (h : xs.length = ys.length) (v : φ) :
    ((reported key form xs ys).map fun p => form p.2.1).count v + (ys.map form).count v =
      ((reported key form xs ys).map fun p => form p.2.2).count v + (xs.map form).count v := by
  have hpartners : (partners key xs ys).Perm ys := partners_perm h
  have hlength : xs.length = (partners key xs ys).length := h.trans hpartners.length_eq.symm
  have hcount := count_differing (fun p : Nat × α × α => form p.2.1) (fun p => form p.2.2)
    (numbered 1 (xs.zip (partners key xs ys))) v
  have hexpected : (numbered 1 (xs.zip (partners key xs ys))).map (fun p => form p.2.1) =
      xs.map form := by
    rw [map_numbered (fun p : α × α => form p.1), ← Function.comp_def form Prod.fst,
      ← List.map_map, List.map_fst_zip hlength.le]
  have hfound : (numbered 1 (xs.zip (partners key xs ys))).map (fun p => form p.2.2) =
      (partners key xs ys).map form := by
    rw [map_numbered (fun p : α × α => form p.2), ← Function.comp_def form Prod.snd,
      ← List.map_map, List.map_snd_zip hlength.ge]
  rw [hexpected, hfound, (hpartners.map form).count_eq] at hcount
  exact hcount

/-- What is left of the expected forms is always reported. -/
theorem leftover_subperm_reported (h : xs.length = ys.length) :
    (leftover (xs.map form) (ys.map form)).Subperm
      ((reported key form xs ys).map fun p => form p.2.1) := by
  rw [List.subperm_iff_count]
  intro v
  have hcount := count_reported key form h v
  rw [count_leftover]
  omega

/-- **When the reported forms are those that are left of the expected ones:**  just where none of
them is found beside another one. -/
theorem leftover_perm_iff (key : α → κ) (form : α → φ) (h : xs.length = ys.length) :
    (leftover (xs.map form) (ys.map form)).Perm
        ((reported key form xs ys).map fun p => form p.2.1) ↔
      ∀ p ∈ reported key form xs ys, ∀ q ∈ reported key form xs ys, form p.2.1 ≠ form q.2.2 := by
  rw [List.perm_iff_count]
  constructor
  · -- a form on both sides of the report is counted there, and left of neither list
    intro hcounts p hp q hq heq
    have hcount := count_reported key form h (form p.2.1)
    have hleft := hcounts (form p.2.1)
    have hexpected : 0 < ((reported key form xs ys).map fun p => form p.2.1).count (form p.2.1) :=
      List.count_pos_iff.mpr (List.mem_map.mpr ⟨p, hp, rfl⟩)
    have hfound : 0 < ((reported key form xs ys).map fun p => form p.2.2).count (form p.2.1) :=
      List.count_pos_iff.mpr (List.mem_map.mpr ⟨q, hq, heq.symm⟩)
    rw [count_leftover] at hleft
    omega
  · -- a form stands on one side only, so what is reported of it is the surplus
    intro hapart v
    have hcount := count_reported key form h v
    have hzero : ((reported key form xs ys).map fun p => form p.2.1).count v = 0 ∨
        ((reported key form xs ys).map fun p => form p.2.2).count v = 0 := by
      by_contra! hne
      obtain ⟨p, hp, hpv⟩ := List.mem_map.mp (List.count_pos_iff.mp (Nat.pos_of_ne_zero hne.1))
      obtain ⟨q, hq, hqv⟩ := List.mem_map.mp (List.count_pos_iff.mp (Nat.pos_of_ne_zero hne.2))
      exact hapart p hp q hq (hpv.trans hqv.symm)
    rw [count_leftover]
    omega

/-- The number of reported pairs is exact under the same condition. -/
theorem length_reported_eq_iff (key : α → κ) (form : α → φ) (h : xs.length = ys.length) :
    (reported key form xs ys).length = (leftover (xs.map form) (ys.map form)).length ↔
      ∀ p ∈ reported key form xs ys, ∀ q ∈ reported key form xs ys, form p.2.1 ≠ form q.2.2 := by
  rw [← leftover_perm_iff key form h]
  constructor
  · intro hlength
    refine (leftover_subperm_reported h).perm_of_length_le ?_
    rw [List.length_map, hlength]
  · intro hperm
    rw [hperm.length_eq, List.length_map]

/-- Nothing is reported just where the lists are the same under each key. -/
theorem reported_eq_nil_iff (hform : ∀ a b, form a = form b → key a = key b)
    (h : xs.length = ys.length) :
    reported key form xs ys = [] ↔ SameUnderKeys key form xs ys := by
  have hlength : xs.length = (partners key xs ys).length :=
    h.trans (partners_perm h).length_eq.symm
  rw [← map_partners_eq_iff hform h, reported, List.filter_eq_nil_iff, ← List.forall₂_eq_eq_eq,
    List.forall₂_map_left_iff, List.forall₂_map_right_iff, ← forall_numbered_zip_iff hlength 1]
  simp only [ne_eq, decide_not, Bool.not_eq_true', decide_eq_false_iff_not, not_not]

end Reported

end CreateTable

end QueryGrading
