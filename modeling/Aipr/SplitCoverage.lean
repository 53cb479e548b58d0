import Aipr.SplitDataset

namespace Aipr.SplitDataset
open Grouping

structure Covers (rows : List Row) (files : Files) : Prop where
  together : ∀ split split', ∀ row ∈ files.windows split, ∀ row' ∈ files.windows split',
    row.experimentId = row'.experimentId → split = split'
  filled : ∀ split, ∀ row ∈ files.windows split, row.split = split.name
  exact : ((files.windows .train ++ files.windows .val ++ files.windows .test).map Row.unsplit).Perm (rows.map Row.unsplit)
  trained : ∀ row ∈ rows, row.label ≠ "normal" → ∃ seen ∈ files.windows .train, seen.label = row.label
  tested : ∀ row ∈ rows, ∀ row' ∈ rows, row.label ≠ "normal" → row'.label = row.label → row'.experimentId ≠ row.experimentId →
    ∃ seen ∈ files.windows .test, seen.label = row.label

-- Every label occurs in an experiment that is first or comes after the third of its
-- peers; one of several experiments also in the third, or in the second of two.
def WellSpread (rows : List Row) : Prop :=
  (∀ row ∈ rows, row.label ≠ "normal" → ∃ seen ∈ rows, seen.label = row.label ∧
    (rank rows seen.experimentId = 0 ∨ 3 ≤ rank rows seen.experimentId)) ∧
  ∀ row ∈ rows, ∀ row' ∈ rows, row.label ≠ "normal" → row'.label = row.label → row'.experimentId ≠ row.experimentId →
    ∃ seen ∈ rows, seen.label = row.label ∧ (rank rows seen.experimentId = 2 ∨
      rank rows seen.experimentId = 1 ∧ (peers rows seen.experimentId).length = 2)

theorem assigned_train {rows : List Row} {id : String} : assigned rows id = .train ↔ rank rows id = 0 ∨ 3 ≤ rank rows id := by
  unfold assigned splitAt
  split
  · split <;> simp <;> omega
  · split <;> simp <;> omega

theorem assigned_test {rows : List Row} {id : String} :
    assigned rows id = .test ↔ rank rows id = 2 ∨ rank rows id = 1 ∧ (peers rows id).length = 2 := by
  unfold assigned splitAt
  split
  · split <;> simp <;> omega
  · split <;> simp <;> omega

theorem label_written {rows : List Row} {split : Split} {label : String} :
    (∃ seen ∈ written rows split, seen.label = label) ↔
      ∃ seen ∈ rows, seen.label = label ∧ assigned rows seen.experimentId = split := by
  constructor
  · rintro ⟨_,member,same⟩
    obtain ⟨origin,listed,here,rfl⟩ := mem_written.mp member
    exact ⟨origin,listed,same,here⟩
  · rintro ⟨origin,listed,same,here⟩
    exact ⟨_,mem_written.mpr ⟨origin,listed,here,rfl⟩,same⟩

section OneLabel
variable {rows : List Row} {id : String}

theorem primary_occurs {own : List Row} (abnormal : primaryLabelForExperiment own ≠ "normal") :
    ∃ row ∈ own, row.label = primaryLabelForExperiment own := by
  unfold primaryLabelForExperiment at abnormal ⊢
  split
  · rename_i label rest first
    have member : label ∈ sorted ((own.map (·.label)).filter fun label => label ≠ "" ∧ label ≠ "normal").dedup :=
      first ▸ List.mem_cons_self
    rw [(sorted_perm _).mem_iff,List.mem_dedup,List.mem_filter,List.mem_map] at member
    exact member.1
  · rename_i none
    rw [none] at abnormal
    exact absurd rfl abnormal

theorem label_occurs (abnormal : labelOf rows id ≠ "normal") :
    ∃ row ∈ rows, row.label = labelOf rows id ∧ row.experimentId = id := by
  obtain ⟨row,member,same⟩ := primary_occurs abnormal
  obtain ⟨listed,own⟩ := List.mem_filter.mp member
  exact ⟨row,listed,same,of_decide_eq_true own⟩

theorem peers_congr {other : String} (same : labelOf rows other = labelOf rows id) : peers rows other = peers rows id := by
  rw [peers,same]
  rfl

theorem peer_at (rows : List Row) (id : String) (i : Nat) (low : i < (peers rows id).length) :
    ∃ other ∈ peers rows id, rank rows other = i ∧ peers rows other = peers rows id := by
  have nodup : (peers rows id).Nodup := (List.nodup_dedup _).filter _
  have short : i < (sorted (peers rows id)).length := by rwa [(sorted_perm _).length_eq]
  have member := (sorted_perm (peers rows id)).mem_iff.mp (List.getElem_mem short)
  have same : peers rows (sorted (peers rows id))[i] = peers rows id :=
    peers_congr (of_decide_eq_true (List.mem_filter.mp member).2)
  refine ⟨_,member,?_,same⟩
  rw [rank,same,← (sorted_perm (peers rows id)).countP_eq]
  exact countP_below (sort_strict nodup) i short

theorem single_label {row : Row} (alone : ∀ row ∈ rows, ∀ row' ∈ rows, row.experimentId = row'.experimentId →
    row.label ≠ "normal" → row'.label ≠ "normal" → row.label = row'.label) (named : ∀ row ∈ rows, row.label ≠ "")
    (member : row ∈ rows) (abnormal : row.label ≠ "normal") : labelOf rows row.experimentId = row.label := by
  have listed : row.label ∈ sorted (((rows.filter fun other => other.experimentId = row.experimentId).map (·.label)).filter
      fun label => label ≠ "" ∧ label ≠ "normal").dedup := by
    rw [(sorted_perm _).mem_iff,List.mem_dedup,List.mem_filter,List.mem_map]
    refine ⟨⟨row,List.mem_filter.mpr ⟨member,decide_eq_true rfl⟩,rfl⟩,decide_eq_true ⟨named row member,abnormal⟩⟩
  have shown : labelOf rows row.experimentId ≠ "normal" := by
    unfold labelOf primaryLabelForExperiment
    split
    · rename_i label rest first
      have inside := first ▸ List.mem_cons_self (a := label) (l := rest)
      rw [(sorted_perm _).mem_iff,List.mem_dedup,List.mem_filter] at inside
      exact (of_decide_eq_true inside.2).2
    · rename_i none
      rw [none] at listed
      cases listed
  obtain ⟨other,listed',same,own⟩ := label_occurs shown
  rw [← same]
  exact alone other listed' row member own (same ▸ shown) abnormal

theorem one_label_spread (alone : ∀ row ∈ rows, ∀ row' ∈ rows, row.experimentId = row'.experimentId →
    row.label ≠ "normal" → row'.label ≠ "normal" → row.label = row'.label) (named : ∀ row ∈ rows, row.label ≠ "") :
    WellSpread rows := by
  have own : ∀ row ∈ rows, row.experimentId ∈ peers rows row.experimentId :=
    fun row member => List.mem_filter.mpr ⟨mem_experiments.mpr ⟨row,member,rfl⟩,decide_eq_true rfl⟩
  have shown : ∀ row ∈ rows, row.label ≠ "normal" → ∀ other ∈ peers rows row.experimentId,
      ∃ seen ∈ rows, seen.label = row.label ∧ seen.experimentId = other := by
    intro row member abnormal other peer
    have label : labelOf rows other = row.label :=
      (of_decide_eq_true (List.mem_filter.mp peer).2).trans (single_label alone named member abnormal)
    rw [← label]
    exact label_occurs (label ▸ abnormal)
  constructor
  · intro row member abnormal
    obtain ⟨other,peer,first,_⟩ := peer_at rows row.experimentId 0 (List.length_pos_of_mem (own row member))
    obtain ⟨seen,listed,same,rfl⟩ := shown row member abnormal other peer
    exact ⟨seen,listed,same,.inl first⟩
  · intro row member row' member' abnormal same apart
    have label := single_label alone named member abnormal
    have label' := single_label alone named member' (same ▸ abnormal)
    have together := peers_congr (label'.trans (same.trans label.symm))
    have two : 2 ≤ (peers rows row.experimentId).length := by
      have pair : [row'.experimentId,row.experimentId].Subperm (peers rows row.experimentId) :=
        List.subperm_of_subset (by simpa using apart) (by
          rintro id listed
          rcases List.mem_cons.mp listed with rfl | listed
          · exact together ▸ own row' member'
          · exact List.mem_singleton.mp listed ▸ own row member)
      exact pair.length_le
    by_cases pair : (peers rows row.experimentId).length = 2
    · obtain ⟨other,peer,second,peers'⟩ := peer_at rows row.experimentId 1 (by omega)
      obtain ⟨seen,listed,same,rfl⟩ := shown row member abnormal other peer
      exact ⟨seen,listed,same,.inr ⟨second,peers'.symm ▸ pair⟩⟩
    · obtain ⟨other,peer,third,_⟩ := peer_at rows row.experimentId 2 (by omega)
      obtain ⟨seen,listed,same,rfl⟩ := shown row member abnormal other peer
      exact ⟨seen,listed,same,.inl third⟩

end OneLabel

-- An experiment stays together, and no row is lost or added; the labels are covered
-- exactly when they are spread well over the experiments.
theorem split_covers_iff (path : String) (rows : List Row) (some : rows ≠ []) :
    ∃ files, splitDataset path rows = .ok files ∧ (Covers rows files ↔ WellSpread rows) := by
  obtain ⟨_,done⟩ := splitDataset_ok path some
  refine ⟨_,done,?_⟩
  have trained : ∀ label, (∃ seen ∈ written rows .train, seen.label = label) ↔ ∃ seen ∈ rows, seen.label = label ∧
      (rank rows seen.experimentId = 0 ∨ 3 ≤ rank rows seen.experimentId) := by
    intro label
    rw [label_written]
    simp only [assigned_train]
  have tested : ∀ label, (∃ seen ∈ written rows .test, seen.label = label) ↔ ∃ seen ∈ rows, seen.label = label ∧
      (rank rows seen.experimentId = 2 ∨ rank rows seen.experimentId = 1 ∧ (peers rows seen.experimentId).length = 2) := by
    intro label
    rw [label_written]
    simp only [assigned_test]
  constructor
  · intro covers
    refine ⟨fun row member abnormal => ?_,fun row member row' member' abnormal same apart => ?_⟩
    · exact (trained _).mp (covers.trained row member abnormal)
    · exact (tested _).mp (covers.tested row member row' member' abnormal same apart)
  · intro ⟨spread,spread'⟩
    refine ⟨?_,?_,windowsAll_rows rows,fun row member abnormal => ?_,fun row member row' member' abnormal same apart => ?_⟩
    · intro split split' row member row' member' same
      obtain ⟨origin,_,here,rfl⟩ := mem_written.mp member
      obtain ⟨origin',_,here',rfl⟩ := mem_written.mp member'
      rw [← here,← here',same]
    · intro split row member
      obtain ⟨origin,_,_,rfl⟩ := mem_written.mp member
      rfl
    · exact (trained _).mpr (spread row member abnormal)
    · exact (tested _).mpr (spread' row member row' member' abnormal same apart)

section Examples

def window (experimentId label : String) : Row := ⟨experimentId,label,"","",[]⟩

def churns : List Row := [window "exp-01" "normal",window "exp-01" "backend_churn",window "exp-02" "backend_churn"]

theorem churns_covered : ∃ files, splitDataset "windows_all.csv" churns = .ok files ∧ Covers churns files := by
  obtain ⟨files,done,covers⟩ := split_covers_iff "windows_all.csv" churns (by decide)
  exact ⟨files,done,covers.mpr (one_label_spread (by decide) (by decide))⟩

def surged : List Row := [window "exp-01" "backend_churn",window "exp-02" "backend_churn",window "exp-02" "load_surge"]

theorem surge_not_trained : ¬ ∀ (path : String) (rows : List Row), rows ≠ [] →
    ∃ files, splitDataset path rows = .ok files ∧ Covers rows files := by
  intro always
  obtain ⟨files,done,covers⟩ := always "windows_all.csv" surged (by decide)
  have trained := covers.trained (window "exp-02" "load_surge") (by decide) (by decide)
  rw [(files_written done).1] at trained
  revert trained
  decide

end Examples
end Aipr.SplitDataset
