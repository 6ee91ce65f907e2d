import QueryGrading.Proofs.Query.Consistency
import QueryGrading.Proofs.Query.RowChange

/-!
# Assignments that are found correct

An update is compared by the assignments of the reference: each is looked up in the submission by
its column, the first one found counts, and it is left in place for the next search. The number of
assignments is compared as well. What an assignment says (`Assigned.meaning`) is its column, up to
the case of ASCII letters, and its value as it is written.

If no column of the reference is assigned twice, this is enough: the assignments are a correct part
just where those of the submission say what those of the reference say, in any order
(`setClauses_correct_iff`). The submission is not searched, so that an assignment beyond those of
the reference could pass unseen; it cannot, because the reference finds a different assignment for
every column of its own, and there are no more of them (`perm_of_covers`).

This is the loop over the `SetPair`s of the reference in `compare`, with `eq_ignore_ascii_case` for
columns. Without distinct columns none of it holds, and an update may not even match itself; that is
in `Proofs.Query.Statement`.
-/

namespace QueryGrading

/-- What an assignment says: its column, up to the case of ASCII letters, and its value. -/
def Assigned.meaning (a : Assigned) : String × String := (Text.asciiLower a.column, a.value)

namespace Update

variable {r s : Update} {report : Report}

/-! ## 1. The part on the assignments -/

/-- The loop over the assignments adds no correct part, so the part comes from the last line only.
-/
theorem setClauses_mem_correct_compareSet_iff (r s : Update) :
    "Set clauses" ∈ (compareSet r s report).correct ↔
      "Set clauses" ∈ report.correct ∨ s.Covers r := by
  have hassigned (report : Report) (a : Assigned) :
      "Set clauses" ∈ (compareAssigned s report a).correct ↔ "Set clauses" ∈ report.correct := by
    unfold compareAssigned
    split
    · rw [Report.correct_failWith]
    · split <;> simp
  have hcovers : (r.set.length == s.set.length && r.set.all s.assigns) = true ↔ s.Covers r := by
    rw [Bool.and_eq_true, beq_iff_eq, List.all_eq_true, Covers]
  unfold compareSet
  extract_lets sameCount counted assigned
  have hcounted : "Set clauses" ∈ counted.correct ↔ "Set clauses" ∈ report.correct := by
    unfold counted
    split <;> simp
  have hfold : "Set clauses" ∈ assigned.correct ↔ "Set clauses" ∈ report.correct :=
    (Report.mem_correct_foldl_iff hassigned r.set counted).trans hcounted
  rw [← hcovers]
  split
  · next hall => exact iff_of_true (Report.mem_correct_pass_iff.mpr (.inr rfl)) (.inr hall)
  · next hall => rw [hfold, or_iff_left hall]

/-- The assignments are a correct part just where those of the reference are covered: no other part
has their name. -/
theorem setClauses_mem_correct_iff (r s : Update) :
    "Set clauses" ∈ (r.compare s).correct ↔ s.Covers r := by
  unfold compare
  extract_lets target set sources report filter
  have htarget : "Set clauses" ∉ target.correct := by
    unfold target
    split <;> simp [Report.empty]
  have hset : "Set clauses" ∈ set.correct ↔ s.Covers r :=
    (setClauses_mem_correct_compareSet_iff r s).trans (or_iff_right htarget)
  have hreport : "Set clauses" ∈ report.correct ↔ s.Covers r := by
    unfold report
    split <;> simp [hset]
  split <;> simp [hreport]

/-! ## 2. Any order -/

/-- No column is assigned twice. -/
def DistinctColumns (r : Update) : Prop :=
  (r.set.map fun a => Text.asciiLower a.column).Nodup

instance : Decidable r.DistinctColumns :=
  inferInstanceAs (Decidable (r.set.map fun a => Text.asciiLower a.column).Nodup)

/-- An update makes an assignment only if one of its own says the same. -/
theorem meaning_mem_of_assigns {a : Assigned} (h : s.assigns a = true) :
    a.meaning ∈ s.set.map Assigned.meaning := by
  rw [assigns_iff, assigned?, Option.map_eq_some_iff] at h
  obtain ⟨b, hfind, hvalue⟩ := h
  have hname : Text.sameName b.column a.column = true := by simpa using List.find?_some hfind
  have hcolumn : Text.asciiLower b.column = Text.asciiLower a.column := beq_iff_eq.mp hname
  have hmeaning : b.meaning = a.meaning := by
    rw [Assigned.meaning, Assigned.meaning, hcolumn, hvalue]
  exact List.mem_map.mpr ⟨b, List.mem_of_find?_eq_some hfind, hmeaning⟩

/-- **An update that covers another one makes no other assignment.** The reference finds an
assignment for each of its columns, and a different one for each, as they differ. So it finds as
many as there are. -/
theorem perm_of_covers (hcolumns : r.DistinctColumns) (h : s.Covers r) :
    (s.set.map Assigned.meaning).Perm (r.set.map Assigned.meaning) := by
  obtain ⟨hlength, hassigns⟩ := h
  have hnodup : (r.set.map Assigned.meaning).Nodup := by
    refine List.Nodup.of_map Prod.fst ?_
    rw [List.map_map]
    exact hcolumns
  have hsubset : r.set.map Assigned.meaning ⊆ s.set.map Assigned.meaning := by
    intro meaning hmem
    obtain ⟨a, ha, rfl⟩ := List.mem_map.mp hmem
    exact meaning_mem_of_assigns (hassigns a ha)
  have hsubperm : (r.set.map Assigned.meaning).Subperm (s.set.map Assigned.meaning) :=
    List.subperm_of_subset hnodup hsubset
  refine (hsubperm.perm_of_length_le ?_).symm
  rw [List.length_map, List.length_map, hlength]

/-- The same assignments in another order are covered: whatever is found under a column of the
reference says what one assignment of the reference says, and the column tells which. -/
theorem covers_of_perm (hcolumns : r.DistinctColumns)
    (h : (s.set.map Assigned.meaning).Perm (r.set.map Assigned.meaning)) : s.Covers r := by
  refine ⟨by simpa using h.length_eq.symm, ?_⟩
  intro a ha
  obtain ⟨b, hb, hba⟩ := List.mem_map.mp (h.mem_iff.mpr (List.mem_map_of_mem ha))
  have hcolumn : Text.asciiLower b.column = Text.asciiLower a.column := congrArg Prod.fst hba
  obtain ⟨c, hc, hfind, hcb⟩ :=
    exists_find?_key (fun x : Assigned => Text.asciiLower x.column) hb
  obtain ⟨d, hd, hdc⟩ := List.mem_map.mp (h.mem_iff.mp (List.mem_map_of_mem hc))
  have hda : d = a := by
    refine List.inj_on_of_nodup_map hcolumns hd ha ?_
    exact (congrArg Prod.fst hdc).trans (hcb.trans hcolumn)
  have hvalue : c.value = a.value := by
    rw [← hda]
    exact (congrArg Prod.snd hdc).symm
  have hfound : s.assigned? a.column = some c := by
    rw [assigned?, ← hfind]
    simp only [Text.sameName, hcolumn]
  rw [assigns_iff, hfound, Option.map_some, hvalue]

/-- **When the assignments are found correct.**  If no column of the reference is assigned twice,
they are a correct part just where the assignments of the submission are those of the reference in
some order, with the columns up to the case of ASCII letters and the values as they are written. In
particular an assignment that the reference does not make is seen: the assignments are no correct
part then, and the report says that not all is equal. -/
theorem setClauses_correct_iff (hcolumns : r.DistinctColumns) (s : Update) :
    ("Set clauses" ∈ (r.compare s).correct ↔
        (s.set.map Assigned.meaning).Perm (r.set.map Assigned.meaning)) ∧
      ∀ a ∈ s.set, a.meaning ∉ r.set.map Assigned.meaning →
        "Set clauses" ∉ (r.compare s).correct ∧ (r.compare s).equal = false := by
  refine ⟨?_, ?_⟩
  · rw [setClauses_mem_correct_iff]
    exact ⟨perm_of_covers hcolumns, covers_of_perm hcolumns⟩
  · intro a ha hother
    have hnot : ¬ s.Covers r := by
      intro hcovers
      exact hother ((perm_of_covers hcolumns hcovers).mem_iff.mp (List.mem_map_of_mem ha))
    refine ⟨fun hpart => hnot ((setClauses_mem_correct_iff r s).mp hpart), ?_⟩
    rw [← Bool.not_eq_true]
    intro hequal
    have hclean : (r.compare s).IsClean := ⟨hequal, (consistent_compare r s).mp hequal⟩
    exact hnot ((isClean_compare_iff r s).mp hclean).2.1

/-- Two assignments are exchanged, and one column is written in capitals; or one column is assigned
twice, and the other not at all. -/
theorem setClauses_correct_iff_swapped :
    let r : Update := ⟨"employees", [⟨"bonus", "1000"⟩, ⟨"salary", "5000"⟩], ⟨[], [], []⟩, none⟩
    let s : Update := { r with set := [⟨"SALARY", "5000"⟩, ⟨"bonus", "1000"⟩] }
    let t : Update := { r with set := [⟨"bonus", "1000"⟩, ⟨"bonus", "2000"⟩] }
    r.DistinctColumns ∧ "Set clauses" ∈ (r.compare s).correct ∧ (r.compare t).equal = false := by
  intro r s t
  have hcolumns : r.DistinctColumns := by decide +kernel
  have hsmall : Text.asciiLower "salary" = "salary" := by decide +kernel
  have hcapitals : Text.asciiLower "SALARY" = Text.asciiLower "salary" := by
    rw [hsmall]
    decide +kernel
  have hswapped : (s.set.map Assigned.meaning).Perm (r.set.map Assigned.meaning) := by
    rw [List.map_cons, Assigned.meaning, hcapitals]
    exact .swap _ _ _
  have hother : (⟨"bonus", "2000"⟩ : Assigned).meaning ∉ r.set.map Assigned.meaning := by
    decide +kernel
  have hpart : "Set clauses" ∈ (r.compare s).correct :=
    (setClauses_correct_iff hcolumns s).1.mpr hswapped
  have hseen := (setClauses_correct_iff hcolumns t).2 _ (.tail _ (.head _)) hother
  exact ⟨hcolumns, hpart, hseen.2⟩

end Update

end QueryGrading
