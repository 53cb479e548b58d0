import Aipr.SplitDataset

namespace Aipr.SplitDataset
open Grouping

section Stable
variable {rows rows' : List Row}

def Row.labelled (row : Row) : String × String := (row.experimentId,row.label)

theorem primary_congr {own own' : List Row} (perm : (own.map (·.label)).Perm (own'.map (·.label))) :
    primaryLabelForExperiment own = primaryLabelForExperiment own' := by
  unfold primaryLabelForExperiment
  have same : sorted ((own.map (·.label)).filter fun label => label ≠ "" ∧ label ≠ "normal").dedup =
      sorted ((own'.map (·.label)).filter fun label => label ≠ "" ∧ label ≠ "normal").dedup :=
    sort_congr (perm.filter _).dedup
  rw [same]

theorem assigned_congr (perm : (rows.map Row.labelled).Perm (rows'.map Row.labelled)) :
    (experiments rows).Perm (experiments rows') ∧ assigned rows = assigned rows' := by
  have ids : (experiments rows).Perm (experiments rows') := by
    have mapped := (perm.map Prod.fst).dedup
    rwa [List.map_map,List.map_map] at mapped
  have labels : labelOf rows = labelOf rows' := by
    funext id
    refine primary_congr ?_
    have column : ∀ rows : List Row, (rows.filter fun row => row.experimentId = id).map (·.label) =
        ((rows.map Row.labelled).filter fun pair => pair.1 = id).map Prod.snd := by
      intro rows
      rw [List.filter_map,List.map_map]
      rfl
    rw [column,column]
    exact (perm.filter _).map _
  have peers : ∀ id, (peers rows id).Perm (peers rows' id) := by
    intro id
    unfold SplitDataset.peers
    rw [labels]
    exact ids.filter _
  refine ⟨ids,funext fun id => ?_⟩
  rw [assigned,assigned,rank,rank,(peers id).length_eq,(peers id).countP_eq]

theorem lookup_congr (perm : (rows.map Row.labelled).Perm (rows'.map Row.labelled)) (id : String) :
    (assignments rows).lookup id = (assignments rows').lookup id := by
  obtain ⟨ids,same⟩ := assigned_congr perm
  rw [assignments_lookup,assignments_lookup,same]
  simp only [ids.mem_iff]

theorem windowsAll_labelled (rows : List Row) : ((windowsAll (written rows)).map Row.labelled).Perm (rows.map Row.labelled) := by
  have columns : ∀ rows : List Row, (rows.map Row.unsplit).map Row.labelled = rows.map Row.labelled := by
    intro rows
    rw [List.map_map]
    rfl
  rw [← columns,← columns rows]
  exact (windowsAll_rows rows).map _

theorem written_again : written (windowsAll (written rows)) = written rows := by
  have same := (assigned_congr (windowsAll_labelled rows)).2
  have own : ∀ split, (written rows split).map (fun row => {row with split := split.name}) = written rows split := by
    intro split
    rw [written,List.map_map]
    rfl
  have kept : ∀ split split', (written rows split).filter (fun row => assigned rows row.experimentId = split') =
      if split = split' then written rows split else [] := by
    intro split split'
    split
    · rename_i here
      refine List.filter_eq_self.mpr fun row member => ?_
      obtain ⟨origin,_,assigned,rfl⟩ := mem_written.mp member
      exact decide_eq_true (assigned.trans here)
    · rename_i apart
      refine List.filter_eq_nil_iff.mpr fun row member => ?_
      obtain ⟨origin,_,assigned,rfl⟩ := mem_written.mp member
      exact fun there => apart (assigned.symm.trans (of_decide_eq_true there))
  funext split
  rw [written,same,windowsAll,List.filter_append,List.filter_append,kept,kept,kept]
  cases split with
  | train => simpa using own .train
  | val => simpa using own .val
  | test => simpa using own .test

end Stable

-- The order of the rows does not matter for the assignment, and a second run over
-- the table the first has written changes nothing.
theorem split_stable (path : String) (rows : List Row) (files : Files) (done : splitDataset path rows = .ok files) :
    (∀ rows', rows.Perm rows' → ∃ files', splitDataset path rows' = .ok files' ∧
      ∀ id, files'.assignments.lookup id = files.assignments.lookup id) ∧
    ∃ files', splitDataset path files.windowsAll = .ok files' ∧
      (∀ id, files'.assignments.lookup id = files.assignments.lookup id) ∧
      files'.windowsAll = files.windowsAll ∧ files'.windows = files.windows := by
  obtain ⟨windows,all,table⟩ := files_written done
  have some : rows ≠ [] := by
    rintro rfl
    cases done
  constructor
  · intro rows' perm
    have some' : rows' ≠ [] := fun none => some (List.perm_nil.mp (none ▸ perm))
    obtain ⟨_,done'⟩ := splitDataset_ok path some'
    refine ⟨_,done',fun id => ?_⟩
    rw [table]
    exact lookup_congr (perm.symm.map _) id
  · have some' : windowsAll (written rows) ≠ [] := by
      intro none
      have perm := windowsAll_labelled rows
      rw [none] at perm
      exact some (List.map_eq_nil_iff.mp (List.nil_perm.mp perm))
    obtain ⟨_,done'⟩ := splitDataset_ok path some'
    rw [all]
    refine ⟨_,done',fun id => ?_,?_,?_⟩
    · rw [table]
      exact lookup_congr (windowsAll_labelled rows) id
    · exact congrArg windowsAll written_again
    · exact written_again.trans windows.symm

section Examples

def mixed : List Row :=
  [⟨"exp-02","backend_churn","rolling_update","",[]⟩,⟨"exp-01","normal","normal_steady_state","",[]⟩,
   ⟨"exp-02","normal","rolling_update","",[]⟩,⟨"exp-03","backend_churn","rolling_update","",[]⟩]

theorem mixed_stable : ∃ files, splitDataset "windows_all.csv" mixed = .ok files ∧
    ∃ files', splitDataset "windows_all.csv" files.windowsAll = .ok files' ∧ files'.windowsAll = files.windowsAll := by
  obtain ⟨_,done⟩ := splitDataset_ok "windows_all.csv" (show mixed ≠ [] by decide)
  obtain ⟨_,files',done',_,same,_⟩ := split_stable "windows_all.csv" mixed _ done
  exact ⟨_,done,files',done',same⟩

end Examples
end Aipr.SplitDataset
