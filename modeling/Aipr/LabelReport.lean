import Mathlib.Data.List.Dedup
import Mathlib.Data.List.Sort
import Mathlib.Data.String.Basic
import Aipr.Grouping

namespace Aipr.LabelReport
open Grouping

structure Event where
  label : String
deriving DecidableEq, Repr

-- What the builder finds of one experiment: `missing` are the names of the files
-- that do not exist.
structure Experiment where
  id : String
  scenario : String
  events : List Event
  explicitlyExcluded : Bool
  missing : List String
deriving DecidableEq, Repr

structure Selection where
  experiments : List Experiment
  distinct : (experiments.map (·.id)).Nodup

def targetLabels (events : List Event) : List String :=
  (((events.map (·.label)).filter fun label => label ≠ "").dedup.erase "normal").insertionSort (· ≤ ·)

def scenarioToLabel (events : List Event) (scenario : String) : String :=
  match targetLabels events with
  | [label] => label
  | one :: two :: rest => ",".intercalate (one :: two :: rest)
  | [] => if scenario = "normal_steady_state" then "normal" else "unknown"

def Experiment.status (e : Experiment) : String × String :=
  if e.explicitlyExcluded then ("excluded","explicit_excluded")
  else if e.missing ≠ [] then ("excluded","missing:" ++ ",".intercalate e.missing)
  else ("included","")

def Experiment.isIncluded (e : Experiment) : Bool := !e.explicitlyExcluded && e.missing.isEmpty

structure IndexRow where
  experimentId : String
  scenario : String
  primaryLabel : String
  included : String
  status : String
  reason : String
deriving DecidableEq, Repr

def indexRow (e : Experiment) : IndexRow :=
  ⟨e.id,e.scenario,scenarioToLabel e.events e.scenario,if e.status.1 = "included" then "1" else "0",e.status.1,e.status.2⟩

def rawIndexRows (s : Selection) : List IndexRow :=
  (s.experiments.map indexRow).insertionSort fun a b => a.experimentId ≤ b.experimentId

structure Window where
  experimentId : String
  label : String
  recoveryActive : String
deriving DecidableEq, Repr

inductive QualityError where
  | missingTargetLabel (experimentId primaryLabel : String)
  | missingRecovery (experimentId : String)
deriving DecidableEq, Repr

def QualityError.text : QualityError → String
  | .missingTargetLabel experimentId primaryLabel =>
    s!"{experimentId} missing target label {primaryLabel} in windows_all.csv"
  | .missingRecovery experimentId => s!"{experimentId} missing recovery_active windows"

def labelByExperiment (windowsAll : List Window) (experimentId : String) : List String :=
  ((windowsAll.filter fun row => row.label ≠ "normal" ∧ row.experimentId = experimentId).map (·.label)).dedup

def recoveryByExperiment (windowsAll : List Window) (experimentId : String) : Nat :=
  windowsAll.countP fun row => row.recoveryActive = "1" ∧ row.experimentId = experimentId

def checkEntry (windowsAll : List Window) (entry : IndexRow) : List QualityError :=
  if entry.included ≠ "1" then []
  else
    (if entry.primaryLabel ≠ "normal" ∧ entry.primaryLabel ∉ labelByExperiment windowsAll entry.experimentId then
      [.missingTargetLabel entry.experimentId entry.primaryLabel] else []) ++
    (if entry.primaryLabel ≠ "normal" ∧ recoveryByExperiment windowsAll entry.experimentId = 0 then
      [.missingRecovery entry.experimentId] else [])

def labelErrors (windowsAll : List Window) (rawIndex : List IndexRow) : Except String (List QualityError) :=
  if windowsAll = [] then .error "windows_all.csv is empty"
  else .ok (rawIndex.flatMap (checkEntry windowsAll))

-- The windows carry the labels of the events and normal, and show a recovery.
def Faithful (s : Selection) (windowsAll : List Window) : Prop :=
  ∀ e ∈ s.experiments, e.isIncluded →
    (∀ label, label ≠ "normal" → ((∃ w ∈ windowsAll, w.experimentId = e.id ∧ w.label = label) ↔ label ∈ targetLabels e.events)) ∧
      ∃ w ∈ windowsAll, w.experimentId = e.id ∧ w.recoveryActive = "1"

def Reported (errors : List QualityError) (experimentId : String) : Prop :=
  ∃ label, QualityError.missingTargetLabel experimentId label ∈ errors

def Agrees (s : Selection) (windowsAll : List Window) (errors : List QualityError) : Prop :=
  (Faithful s windowsAll → ∀ e ∈ s.experiments, e.isIncluded → ¬Reported errors e.id) ∧
    ∀ e ∈ s.experiments, e.isIncluded →
      ∀ label ∈ targetLabels e.events, (∀ w ∈ windowsAll, w.experimentId = e.id → w.label ≠ label) → Reported errors e.id

def Experiment.plain (e : Experiment) : Bool :=
  (targetLabels e.events).length = 1 || (targetLabels e.events = [] && e.scenario = "normal_steady_state")

def Experiment.windows (e : Experiment) : List Window :=
  ⟨e.id,"normal","1"⟩ :: (targetLabels e.events).map fun label => ⟨e.id,label,"0"⟩

def exampleWindows (s : Selection) : List Window := s.experiments.flatMap Experiment.windows

section Lemmas
variable {s : Selection} {e : Experiment} {windowsAll : List Window} {errors : List QualityError} {label : String}

theorem mem_targetLabels {events : List Event} :
    label ∈ targetLabels events ↔ label ≠ "normal" ∧ label ≠ "" ∧ ∃ event ∈ events, event.label = label := by
  have nodup : ((events.map (·.label)).filter fun label => label ≠ "").dedup.Nodup := List.nodup_dedup _
  rw [targetLabels,List.mem_insertionSort,nodup.mem_erase_iff]
  simp only [List.mem_dedup,List.mem_filter,List.mem_map,decide_eq_true_eq]
  exact and_congr_right fun _ => and_comm

theorem mem_labelByExperiment {experimentId : String} : label ∈ labelByExperiment windowsAll experimentId ↔
    label ≠ "normal" ∧ ∃ w ∈ windowsAll, w.experimentId = experimentId ∧ w.label = label := by
  simp only [labelByExperiment,List.mem_dedup,List.mem_map,List.mem_filter,decide_eq_true_eq]
  constructor
  · rintro ⟨w,⟨member,other,own⟩,rfl⟩
    exact ⟨other,w,member,own,rfl⟩
  · rintro ⟨other,w,member,own,rfl⟩
    exact ⟨w,⟨member,other,own⟩,rfl⟩

theorem mem_rawIndexRows {row : IndexRow} : row ∈ rawIndexRows s ↔ ∃ e ∈ s.experiments, indexRow e = row := by
  rw [rawIndexRows,List.mem_insertionSort,List.mem_map]

theorem indexRow_included : (indexRow e).included = "1" ↔ e.isIncluded := by
  unfold indexRow Experiment.status Experiment.isIncluded
  cases e.explicitlyExcluded with
  | true => simp
  | false =>
    cases e.missing with
    | nil => simp
    | cons name rest => simp

theorem length_le_join {labels : List String} (member : label ∈ labels) : label.length ≤ (",".intercalate labels).length := by
  induction labels with
  | nil => cases member
  | cons one rest ih =>
    cases rest with
    | nil =>
      rw [List.mem_singleton.mp member,String.intercalate_singleton]
    | cons two rest =>
      rw [String.intercalate_cons_cons,String.length_append,String.length_append]
      rcases List.mem_cons.mp member with rfl | later
      · omega
      · have below := ih later
        omega

theorem join_not_mem {one two : String} {rest : List String} :
    ",".intercalate (one :: two :: rest) ∉ one :: two :: rest := by
  intro member
  have joined : (",".intercalate (one :: two :: rest)).length =
      one.length+1+(",".intercalate (two :: rest)).length := by
    rw [String.intercalate_cons_cons,String.length_append,String.length_append]
    rfl
  rcases List.mem_cons.mp member with same | later
  · have lengths := congrArg String.length same
    omega
  · have below := length_le_join later
    omega

theorem join_ne_normal {one two : String} {rest : List String} : ",".intercalate (one :: two :: rest) ≠ "normal" := by
  intro same
  have comma : ',' ∈ (",".intercalate (one :: two :: rest)).toList := by
    rw [String.intercalate_cons_cons]
    simp
  rw [same] at comma
  exact absurd comma (by decide)

theorem mem_checkEntry {entry : IndexRow} {experimentId : String} :
    QualityError.missingTargetLabel experimentId label ∈ checkEntry windowsAll entry ↔
      entry.included = "1" ∧ entry.experimentId = experimentId ∧ entry.primaryLabel = label ∧
        label ≠ "normal" ∧ label ∉ labelByExperiment windowsAll experimentId := by
  unfold checkEntry
  by_cases included : entry.included = "1"
  · rw [if_neg (not_not.mpr included)]
    simp only [List.mem_append]
    constructor
    · rintro (first | second)
      · split at first
        · rename_i missing
          obtain ⟨rfl,rfl⟩ := QualityError.missingTargetLabel.inj (List.mem_singleton.mp first)
          exact ⟨included,rfl,rfl,missing.1,missing.2⟩
        · cases first
      · split at second
        · cases List.mem_singleton.mp second
        · cases second
    · rintro ⟨-,rfl,rfl,other,absent⟩
      left
      rw [if_pos ⟨other,absent⟩]
      exact List.mem_singleton.mpr rfl
  · rw [if_pos included]
    constructor
    · intro member
      cases member
    · intro given
      exact absurd given.1 included

theorem reported_iff (outcome : labelErrors windowsAll (rawIndexRows s) = .ok errors) (member : e ∈ s.experiments)
    (included : e.isIncluded) : Reported errors e.id ↔ scenarioToLabel e.events e.scenario ≠ "normal" ∧
      scenarioToLabel e.events e.scenario ∉ labelByExperiment windowsAll e.id := by
  have listed : errors = (rawIndexRows s).flatMap (checkEntry windowsAll) := by
    unfold labelErrors at outcome
    split at outcome
    · cases outcome
    · exact (Except.ok.inj outcome).symm
  rw [listed]
  constructor
  · rintro ⟨label,found⟩
    obtain ⟨row,indexed,checked⟩ := List.mem_flatMap.mp found
    obtain ⟨other,present,rfl⟩ := mem_rawIndexRows.mp indexed
    obtain ⟨-,sameId,primary,wanted,absent⟩ := mem_checkEntry.mp checked
    have same : other = e := List.inj_on_of_nodup_map s.distinct present member sameId
    rw [same] at primary
    have primary : scenarioToLabel e.events e.scenario = label := primary
    rw [primary]
    exact ⟨wanted,absent⟩
  · rintro ⟨wanted,absent⟩
    refine ⟨scenarioToLabel e.events e.scenario,List.mem_flatMap.mpr ⟨indexRow e,mem_rawIndexRows.mpr ⟨e,member,rfl⟩,?_⟩⟩
    exact mem_checkEntry.mpr ⟨indexRow_included.mpr included,rfl,rfl,wanted,absent⟩

theorem mem_exampleWindows {w : Window} : w ∈ exampleWindows s ↔ ∃ e ∈ s.experiments, w = ⟨e.id,"normal","1"⟩ ∨
    ∃ label ∈ targetLabels e.events, w = ⟨e.id,label,"0"⟩ := by
  simp only [exampleWindows,List.mem_flatMap,Experiment.windows,List.mem_cons,List.mem_map]
  refine exists_congr fun e => and_congr_right fun _ => or_congr_right (exists_congr fun label => and_congr_right fun _ => ?_)
  exact eq_comm

theorem exampleWindows_faithful : Faithful s (exampleWindows s) := by
  intro e member _
  refine ⟨?_,⟨e.id,"normal","1"⟩,mem_exampleWindows.mpr ⟨e,member,.inl rfl⟩,rfl,rfl⟩
  intro label wanted
  constructor
  · rintro ⟨w,found,sameId,rfl⟩
    obtain ⟨other,present,rfl | ⟨label,listed,rfl⟩⟩ := mem_exampleWindows.mp found
    · exact absurd rfl wanted
    · have same : other = e := List.inj_on_of_nodup_map s.distinct present member sameId
      rw [same] at listed
      exact listed
  · intro listed
    exact ⟨⟨e.id,label,"0"⟩,mem_exampleWindows.mpr ⟨e,member,.inr ⟨label,listed,rfl⟩⟩,rfl,rfl⟩

theorem Faithful.labels (faithful : Faithful s windowsAll) (member : e ∈ s.experiments) (included : e.isIncluded) :
    label ∈ labelByExperiment windowsAll e.id ↔ label ∈ targetLabels e.events := by
  rw [mem_labelByExperiment]
  constructor
  · rintro ⟨wanted,found⟩
    exact ((faithful e member included).1 label wanted).mp found
  · intro listed
    have wanted := (mem_targetLabels.mp listed).1
    exact ⟨wanted,((faithful e member included).1 label wanted).mpr listed⟩

end Lemmas

theorem plain_iff (e : Experiment) : e.plain ↔
    (scenarioToLabel e.events e.scenario = "normal" ∨ scenarioToLabel e.events e.scenario ∈ targetLabels e.events) := by
  unfold Experiment.plain scenarioToLabel
  have wanted : ∀ label ∈ targetLabels e.events, label ≠ "normal" := fun label listed => (mem_targetLabels.mp listed).1
  cases labels : targetLabels e.events with
  | nil =>
    by_cases steady : e.scenario = "normal_steady_state"
    · simp [steady]
    · simp [steady]
  | cons one rest =>
    cases rest with
    | nil => simp
    | cons two rest =>
      constructor
      · intro plain
        simp at plain
      · rintro (same | listed)
        · exact absurd same join_ne_normal
        · exact absurd listed join_not_mem

section Report
variable {s : Selection} {e : Experiment} {windowsAll : List Window} {errors : List QualityError} {label : String}

theorem faithful_reported (outcome : labelErrors windowsAll (rawIndexRows s) = .ok errors) (faithful : Faithful s windowsAll)
    (member : e ∈ s.experiments) (included : e.isIncluded) : Reported errors e.id ↔ ¬e.plain := by
  rw [reported_iff outcome member included,faithful.labels member included,plain_iff]
  exact not_or.symm

theorem missing_reported (outcome : labelErrors windowsAll (rawIndexRows s) = .ok errors) (member : e ∈ s.experiments)
    (included : e.isIncluded) (plain : e.plain) (listed : label ∈ targetLabels e.events)
    (missed : ∀ w ∈ windowsAll, w.experimentId = e.id → w.label ≠ label) : Reported errors e.id := by
  have single : targetLabels e.events = [label] := by
    simp only [Experiment.plain,Bool.or_eq_true,Bool.and_eq_true,decide_eq_true_eq] at plain
    rcases plain with one | ⟨none,-⟩
    · obtain ⟨only,list⟩ := List.length_eq_one_iff.mp one
      rw [list] at listed ⊢
      rw [List.mem_singleton.mp listed]
    · rw [none] at listed
      cases listed
  have primary : scenarioToLabel e.events e.scenario = label := by
    unfold scenarioToLabel
    rw [single]
  apply (reported_iff outcome member included).mpr
  rw [primary]
  refine ⟨(mem_targetLabels.mp listed).1,fun found => ?_⟩
  obtain ⟨-,w,member,own,same⟩ := mem_labelByExperiment.mp found
  exact missed w member own same

end Report

-- The report and the index agree for every table when every included experiment has one
-- target label, or none in the normal scenario; for a faithful table only then.
theorem labels_agree_iff (s : Selection) :
    ((∀ windowsAll errors, labelErrors windowsAll (rawIndexRows s) = .ok errors → Agrees s windowsAll errors) ↔
      ∀ e ∈ s.experiments, e.isIncluded → e.plain) ∧
    ∀ windowsAll errors, labelErrors windowsAll (rawIndexRows s) = .ok errors → Faithful s windowsAll →
      (Agrees s windowsAll errors ↔ ∀ e ∈ s.experiments, e.isIncluded → e.plain) := by
  have enough : (∀ e ∈ s.experiments, e.isIncluded → e.plain) →
      ∀ windowsAll errors, labelErrors windowsAll (rawIndexRows s) = .ok errors → Agrees s windowsAll errors := by
    intro plain windowsAll errors outcome
    constructor
    · intro faithful e member included reported
      exact (faithful_reported outcome faithful member included).mp reported (plain e member included)
    · intro e member included label listed missed
      exact missing_reported outcome member included (plain e member included) listed missed
  have needed : ∀ windowsAll errors, labelErrors windowsAll (rawIndexRows s) = .ok errors → Faithful s windowsAll →
      Agrees s windowsAll errors → ∀ e ∈ s.experiments, e.isIncluded → e.plain := by
    intro windowsAll errors outcome faithful agrees e member included
    have silent := agrees.1 faithful e member included
    rw [faithful_reported outcome faithful member included] at silent
    exact not_not.mp silent
  refine ⟨⟨?_,enough⟩,?_⟩
  · intro agrees e member included
    have present : exampleWindows s ≠ [] := List.ne_nil_of_mem (mem_exampleWindows.mpr ⟨e,member,.inl rfl⟩)
    have outcome : labelErrors (exampleWindows s) (rawIndexRows s) =
        .ok ((rawIndexRows s).flatMap (checkEntry (exampleWindows s))) := if_neg present
    exact needed _ _ outcome exampleWindows_faithful (agrees _ _ outcome) e member included
  · intro windowsAll errors outcome faithful
    exact ⟨needed windowsAll errors outcome faithful,fun plain => enough plain windowsAll errors outcome⟩

-- Two labels in one experiment: the windows have both, the report misses their join.
def surgeAndChurn : Selection :=
  ⟨[⟨"exp-01","load_surge",[⟨"load_surge"⟩,⟨"backend_churn"⟩],false,[]⟩],by decide⟩

theorem joined_label_missing : Faithful surgeAndChurn (exampleWindows surgeAndChurn) ∧
    (labelErrors (exampleWindows surgeAndChurn) (rawIndexRows surgeAndChurn)).map (fun errors => errors.map QualityError.text) =
      .ok ["exp-01 missing target label backend_churn,load_surge in windows_all.csv"] := by
  refine ⟨exampleWindows_faithful,?_⟩
  decide

end Aipr.LabelReport
