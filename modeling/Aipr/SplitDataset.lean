import Mathlib.Data.List.AList
import Mathlib.Data.List.Dedup
import Mathlib.Data.List.Sort
import Mathlib.Data.String.Basic
import Aipr.Grouping

namespace Aipr.SplitDataset
open Grouping

-- A row of the windows table; the columns the script does not read are `other`.
structure Row where
  experimentId : String
  label : String
  experimentType : String
  split : String
  other : List (String × String)
deriving DecidableEq, Repr

inductive Split where
  | train | val | test
deriving DecidableEq, Repr

def Split.name : Split → String
  | .train => "train"
  | .val => "val"
  | .test => "test"

def sorted (names : List String) : List String := names.insertionSort (· ≤ ·)

def primaryLabelForExperiment (rows : List Row) : String :=
  match sorted ((rows.map (·.label)).filter fun label => label ≠ "" ∧ label ≠ "normal").dedup with
  | label :: _ => label
  | [] => "normal"

def splitGroup (experimentIds : List String) : List (String × Split) :=
  match sorted experimentIds with
  | [] => []
  | [one] => [(one,.train)]
  | [one,two] => [(one,.train),(two,.test)]
  | one :: two :: three :: rest => (one,.train) :: (two,.val) :: (three,.test) :: rest.map fun id => (id,.train)

def rowsByExperiment (rows : List Row) : List (String × List Row) := group (·.experimentId) id rows

def experimentsByLabel (rows : List Row) : List (String × List String) :=
  group (fun experiment => primaryLabelForExperiment experiment.2) Prod.fst (rowsByExperiment rows)

-- dict.update.
def update (assignments : AList fun _ : String => Split) (more : List (String × Split)) : AList fun _ : String => Split :=
  more.foldl (fun table pair => table.insert pair.1 pair.2) assignments

def assignments (rows : List Row) : AList fun _ : String => Split :=
  ((experimentsByLabel rows).insertionSort fun a b => a.1 ≤ b.1).foldl (fun table entry => update table (splitGroup entry.2)) ∅

structure ExperimentMetadata where
  split : Split
  primaryLabel : String
  scenario : String
deriving DecidableEq, Repr

structure Files where
  windowsAll : List Row
  windows : Split → List Row
  assignments : AList fun _ : String => Split
  experiments : List (String × ExperimentMetadata)

def windowsAll (windows : Split → List Row) : List Row := windows .train ++ windows .val ++ windows .test

-- The loop over the rows: each is filed under the split of its experiment, with the
-- split filled in.
def place (table : AList fun _ : String => Split) (row : Row) : Except String (Split × Row) :=
  match table.lookup row.experimentId with
  | none => .error s!"KeyError: {row.experimentId}"
  | some split => .ok (split,{row with split := split.name})

def splitRows (placed : List (Split × Row)) (split : Split) : List Row :=
  (placed.filter fun pair => pair.1 = split).map Prod.snd

def metadata (table : AList fun _ : String => Split) (experiment : String × List Row) : Except String (String × ExperimentMetadata) :=
  match table.lookup experiment.1 with
  | none => .error s!"KeyError: {experiment.1}"
  | some split =>
    .ok (experiment.1,⟨split,primaryLabelForExperiment experiment.2,(experiment.2.head?.map (·.experimentType)).getD ""⟩)

def splitDataset (windowsAllPath : String) (rows : List Row) : Except String Files :=
  if rows = [] then .error s!"no rows in {windowsAllPath}"
  else do
    let table := assignments rows
    let placed ← rows.mapM (place table)
    let experiments ← ((rowsByExperiment rows).insertionSort fun a b => a.1 ≤ b.1).mapM (metadata table)
    return ⟨windowsAll (splitRows placed),splitRows placed,table,experiments⟩

-- In terms of the input: the experiments with the representative label of this one,
-- and how many of them come before it.
def experiments (rows : List Row) : List String := (rows.map (·.experimentId)).dedup

def labelOf (rows : List Row) (id : String) : String :=
  primaryLabelForExperiment (rows.filter fun row => row.experimentId = id)

def peers (rows : List Row) (id : String) : List String :=
  (experiments rows).filter fun other => labelOf rows other = labelOf rows id

def rank (rows : List Row) (id : String) : Nat := (peers rows id).countP fun other => other < id

def splitAt (count rank : Nat) : Split :=
  if rank = 1 then if count = 2 then .test else .val
  else if rank = 2 then .test
  else .train

def assigned (rows : List Row) (id : String) : Split := splitAt (peers rows id).length (rank rows id)

section Assign
variable {names other : List String} {rows rows' : List Row} {id : String} {split : Split}

theorem sorted_perm (names : List String) : (sorted names).Perm names := List.perm_insertionSort _ names

theorem splitGroup_ranks (names : List String) :
    splitGroup names = (sorted names).mapIdx fun i id => (id,splitAt (sorted names).length i) := by
  unfold splitGroup
  generalize sorted names = g
  rcases g with _ | ⟨one,_ | ⟨two,_ | ⟨three,rest⟩⟩⟩
  · rfl
  · rfl
  · rfl
  · refine List.ext_getElem (by simp) fun i low _ => ?_
    rw [List.getElem_mapIdx]
    match i with
    | 0 => rfl
    | 1 => rfl
    | 2 => rfl
    | i + 3 => simp [splitAt]

theorem mem_splitGroup (nodup : names.Nodup) :
    (id,split) ∈ splitGroup names ↔ id ∈ names ∧ split = splitAt names.length (names.countP fun other => other < id) := by
  have strict : (sorted names).Pairwise (· < ·) := sort_strict nodup
  have place : ∀ (i : Nat) (low : i < (sorted names).length),
      ((sorted names).countP fun other => other < (sorted names)[i]) = i := countP_below strict
  rw [splitGroup_ranks,List.mem_mapIdx,← (sorted_perm names).mem_iff,← (sorted_perm names).length_eq,
    ← (sorted_perm names).countP_eq]
  constructor
  · rintro ⟨i,low,same⟩
    obtain ⟨rfl,rfl⟩ := Prod.mk.inj same
    refine ⟨List.getElem_mem low,?_⟩
    rw [place i low]
  · rintro ⟨member,rfl⟩
    obtain ⟨i,low,rfl⟩ := List.getElem_of_mem member
    refine ⟨i,low,?_⟩
    rw [place i low]

theorem lookup_update (table : AList fun _ : String => Split) (more : List (String × Split)) :
    (∃ split, (id,split) ∈ more ∧ (update table more).lookup id = some split) ∨
      (∀ split, (id,split) ∉ more) ∧ (update table more).lookup id = table.lookup id := by
  induction more generalizing table with
  | nil => exact .inr ⟨fun _ => List.not_mem_nil,rfl⟩
  | cons first rest ih =>
    rcases ih (table.insert first.1 first.2) with ⟨split,member,found⟩ | ⟨absent,found⟩
    · exact .inl ⟨split,List.mem_cons_of_mem _ member,found⟩
    · by_cases here : id = first.1
      · refine .inl ⟨first.2,here ▸ List.mem_cons_self,found.trans ?_⟩
        rw [here]
        exact AList.lookup_insert _
      · refine .inr ⟨fun split member => ?_,found.trans (AList.lookup_insert_ne here)⟩
        rcases List.mem_cons.mp member with rfl | later
        · exact here rfl
        · exact absent split later

theorem mem_experiments : id ∈ experiments rows ↔ ∃ row ∈ rows, row.experimentId = id := by
  rw [experiments,List.mem_dedup,List.mem_map]

theorem mem_labelled {label : String} {ids : List String} : (label,ids) ∈ experimentsByLabel rows ↔
    (∃ id ∈ experiments rows, labelOf rows id = label) ∧
      select (fun experiment : String × List Row => primaryLabelForExperiment experiment.2) Prod.fst (rowsByExperiment rows) label =
        ids := by
  rw [experimentsByLabel,mem_group]
  refine and_congr_left fun _ => ?_
  constructor
  · rintro ⟨⟨id,own⟩,member,rfl⟩
    obtain ⟨occurs,rfl⟩ := mem_group.mp member
    refine ⟨id,mem_experiments.mpr occurs,?_⟩
    rw [labelOf,select,List.map_id]
  · rintro ⟨id,occurs,rfl⟩
    refine ⟨(id,rows.filter fun row => row.experimentId = id),mem_group.mpr ⟨mem_experiments.mp occurs,?_⟩,rfl⟩
    rw [select,List.map_id]

theorem select_perm (rows : List Row) (label : String) :
    (select (fun experiment : String × List Row => primaryLabelForExperiment experiment.2) Prod.fst (rowsByExperiment rows) label).Perm
      ((experiments rows).filter fun id => labelOf rows id = label) := by
  refine (List.perm_ext_iff_of_nodup ?_ ((List.nodup_dedup _).filter _)).mpr fun id => ?_
  · exact nodup_group.sublist (List.filter_sublist.map Prod.fst)
  · rw [select,List.mem_map,List.mem_filter,decide_eq_true_eq]
    constructor
    · rintro ⟨⟨id,own⟩,member,rfl⟩
      obtain ⟨listed,labelled⟩ := List.mem_filter.mp member
      obtain ⟨occurs,rfl⟩ := mem_group.mp listed
      rw [select,List.map_id] at labelled
      exact ⟨mem_experiments.mpr occurs,of_decide_eq_true labelled⟩
    · rintro ⟨occurs,rfl⟩
      refine ⟨(id,rows.filter fun row => row.experimentId = id),List.mem_filter.mpr ⟨mem_group.mpr ⟨mem_experiments.mp occurs,?_⟩,?_⟩,rfl⟩
      · rw [select,List.map_id]
      · exact decide_eq_true rfl

theorem mem_pairs : (∃ entry ∈ experimentsByLabel rows, (id,split) ∈ splitGroup entry.2) ↔
    id ∈ experiments rows ∧ split = assigned rows id := by
  have grouped : ∀ label, (id,split) ∈ splitGroup
      (select (fun experiment : String × List Row => primaryLabelForExperiment experiment.2) Prod.fst (rowsByExperiment rows) label) ↔
      (id ∈ experiments rows ∧ labelOf rows id = label) ∧ split = assigned rows id := by
    intro label
    have perm := select_perm rows label
    rw [mem_splitGroup (perm.nodup_iff.mpr ((List.nodup_dedup _).filter _)),perm.mem_iff,perm.length_eq,perm.countP_eq,
      List.mem_filter,decide_eq_true_eq]
    refine and_congr_right ?_
    rintro ⟨_,rfl⟩
    rfl
  constructor
  · rintro ⟨⟨label,ids⟩,member,here⟩
    obtain ⟨_,rfl⟩ := mem_labelled.mp member
    obtain ⟨⟨occurs,_⟩,same⟩ := (grouped label).mp here
    exact ⟨occurs,same⟩
  · rintro ⟨occurs,same⟩
    exact ⟨_,mem_labelled.mpr ⟨⟨id,occurs,rfl⟩,rfl⟩,(grouped (labelOf rows id)).mpr ⟨⟨occurs,rfl⟩,same⟩⟩

theorem assignments_lookup (rows : List Row) (id : String) :
    (assignments rows).lookup id = if id ∈ experiments rows then some (assigned rows id) else none := by
  have flat : assignments rows = update ∅
      (((experimentsByLabel rows).insertionSort fun a b => a.1 ≤ b.1).flatMap fun entry => splitGroup entry.2) := by
    rw [update,List.foldl_flatMap]
    rfl
  have listed : ∀ split, (id,split) ∈
      ((experimentsByLabel rows).insertionSort fun a b => a.1 ≤ b.1).flatMap (fun entry => splitGroup entry.2) ↔
        id ∈ experiments rows ∧ split = assigned rows id := by
    intro split
    rw [List.mem_flatMap]
    simp only [List.mem_insertionSort]
    exact mem_pairs
  rw [flat]
  rcases lookup_update ∅ _ with ⟨split,member,found⟩ | ⟨absent,found⟩
  · obtain ⟨occurs,same⟩ := (listed split).mp member
    rw [found,if_pos occurs,same]
  · rw [found,if_neg fun occurs => absent _ ((listed _).mpr ⟨occurs,rfl⟩)]
    rfl

theorem lookup_assignments (occurs : id ∈ experiments rows) : (assignments rows).lookup id = some (assigned rows id) :=
  (assignments_lookup rows id).trans (if_pos occurs)

end Assign

-- Apart from the split column.
def Row.unsplit (row : Row) : Row := {row with split := ""}

def filed (rows : List Row) (row : Row) : Split × Row :=
  (assigned rows row.experimentId,{row with split := (assigned rows row.experimentId).name})

def written (rows : List Row) (split : Split) : List Row :=
  (rows.filter fun row => assigned rows row.experimentId = split).map fun row => {row with split := split.name}

def described (rows : List Row) (experiment : String × List Row) : String × ExperimentMetadata :=
  (experiment.1,⟨assigned rows experiment.1,primaryLabelForExperiment experiment.2,
    (experiment.2.head?.map (·.experimentType)).getD ""⟩)

section Files
variable {path : String} {rows : List Row} {files : Files}

theorem mapM_ok {f : α → Except String β} {g : α → β} {l : List α} (each : ∀ x ∈ l, f x = .ok (g x)) :
    l.mapM f = .ok (l.map g) := by
  induction l with
  | nil => rfl
  | cons first rest ih =>
    rw [List.mapM_cons,each first List.mem_cons_self,ih fun x member => each x (List.mem_cons_of_mem _ member)]
    rfl

theorem splitRows_filed : splitRows (rows.map (filed rows)) = written rows := by
  funext split
  rw [splitRows,List.filter_map,List.map_map,written]
  refine List.map_congr_left fun row member => ?_
  have here : assigned rows row.experimentId = split := of_decide_eq_true (List.mem_filter.mp member).2
  rw [Function.comp_apply,filed,here]

theorem splitDataset_ok (path : String) (some : rows ≠ []) :
    ∃ experiments, splitDataset path rows = .ok ⟨windowsAll (written rows),written rows,assignments rows,experiments⟩ := by
  have placed : rows.mapM (place (assignments rows)) = .ok (rows.map (filed rows)) := by
    refine mapM_ok fun row member => ?_
    rw [place,lookup_assignments (mem_experiments.mpr ⟨row,member,rfl⟩)]
    rfl
  have experiments : ((rowsByExperiment rows).insertionSort fun a b => a.1 ≤ b.1).mapM (metadata (assignments rows)) =
      .ok (((rowsByExperiment rows).insertionSort fun a b => a.1 ≤ b.1).map (described rows)) := by
    refine mapM_ok fun experiment member => ?_
    have occurs := mem_keys_group.mp (List.mem_map_of_mem ((List.mem_insertionSort _).mp member))
    rw [metadata,lookup_assignments (mem_experiments.mpr occurs)]
    rfl
  refine ⟨((rowsByExperiment rows).insertionSort fun a b => a.1 ≤ b.1).map (described rows),?_⟩
  rw [splitDataset,if_neg some]
  dsimp only
  rw [placed,← splitRows_filed]
  rw [experiments]
  rfl

theorem files_written (done : splitDataset path rows = .ok files) :
    files.windows = written rows ∧ files.windowsAll = windowsAll (written rows) ∧ files.assignments = assignments rows := by
  have some : rows ≠ [] := by
    rintro rfl
    cases done
  obtain ⟨_,same⟩ := splitDataset_ok path some
  cases done.symm.trans same
  exact ⟨rfl,rfl,rfl⟩

theorem mem_written {split : Split} {row : Row} : row ∈ written rows split ↔
    ∃ origin ∈ rows, assigned rows origin.experimentId = split ∧ {origin with split := split.name} = row := by
  simp only [written,List.mem_map,List.mem_filter,decide_eq_true_eq,and_assoc]

theorem windowsAll_rows (rows : List Row) : ((windowsAll (written rows)).map Row.unsplit).Perm (rows.map Row.unsplit) := by
  have parts : ((rows.filter fun row => assigned rows row.experimentId = .train) ++
      (rows.filter fun row => assigned rows row.experimentId = .val) ++
      rows.filter fun row => assigned rows row.experimentId = .test).Perm rows := by
    have outer := List.filter_append_perm (fun row => assigned rows row.experimentId = .train) rows
    have inner := List.filter_append_perm (fun row => assigned rows row.experimentId = .val)
      (rows.filter fun row => !decide (assigned rows row.experimentId = .train))
    rw [List.append_assoc]
    refine .trans (.append_left _ ?_) outer
    refine .trans (.of_eq ?_) inner
    rw [List.filter_filter,List.filter_filter]
    congr 1
    · refine List.filter_congr fun row _ => ?_
      cases assigned rows row.experimentId <;> rfl
    · refine List.filter_congr fun row _ => ?_
      cases assigned rows row.experimentId <;> rfl
  have columns : ∀ split, (written rows split).map Row.unsplit =
      (rows.filter fun row => assigned rows row.experimentId = split).map Row.unsplit := by
    intro split
    rw [written,List.map_map]
    rfl
  rw [windowsAll,List.map_append,List.map_append,columns,columns,columns,← List.map_append,← List.map_append]
  exact parts.map Row.unsplit

end Files

end Aipr.SplitDataset
