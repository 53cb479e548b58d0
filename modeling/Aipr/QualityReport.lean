import Aipr.DatasetPipeline

namespace Aipr.QualityReport
open CsvText LabelReport DatasetBuild DatasetPipeline SplitDataset SplitFile Telemetry Grouping

def deltaFields : List String :=
  ["delta_tcp_packets","delta_nodeport_hit","delta_backend_selected","delta_backend_lookup_miss","delta_rr_update",
    "delta_snat_install","delta_request_rewrite","delta_revnat_hit","delta_ct_lookup_miss","delta_response_rewrite",
    "delta_fwd_ct_hit","delta_new_conn","delta_map_miss","delta_rewrite_fail","delta_redirect_ok","delta_redirect_fail",
    "delta_fallback_pass"]

inductive Complaint where
  | bounds (experimentId nodeName : String) (start stop : Int)
  | rate (experimentId outside : String)
  | negative (experimentId nodeName field : String)
  | label (error : QualityError)
deriving DecidableEq

def Complaint.text : Complaint → String
  | .bounds experimentId nodeName start stop => s!"{experimentId}:{nodeName} invalid window bounds {start}->{stop}"
  | .rate experimentId outside => s!"{experimentId} traffic success rate out of range: {outside}"
  | .negative experimentId nodeName field => s!"{experimentId}:{nodeName} negative delta in {field}"
  | .label error => error.text

def cellOr (d : Dict) (key default : String) : Option Field := (d.get? key.toList).getD (some default.toList)

def named (d : Dict) (key : String) : String :=
  match cellOr d key "" with
  | none => "None"
  | some text => String.ofList text

-- as_int does what stable_int of the builder does.
def asInt (value : Option Field) : Int := stableInt value

def invalidBounds (d : Dict) : List Complaint :=
  let start := asInt (cellOr d "window_start_unix_ms" "0")
  let stop := asInt (cellOr d "window_end_unix_ms" "0")
  if stop ≤ start then [.bounds (named d "experiment_id") (named d "node_name") start stop] else []

def negativeDeltas (d : Dict) : List Complaint :=
  (deltaFields.filter fun field => asInt (cellOr d field "0") < 0).map (.negative (named d "experiment_id") (named d "node_name"))

section Report
-- float of a text: its own text again when it is not between 0 and 1.
variable (checkRate : Field → Except String (Option String))

def rateErrors (d : Dict) : Except String (List Complaint) :=
  match cellOr d "traffic_probe_success_rate" "0" with
  | none => .ok []
  | some [] => .ok []
  | some (c :: rest) => (checkRate (c :: rest)).map fun outside => outside.toList.map (.rate (named d "experiment_id"))

def rowErrors (d : Dict) : Except String (List Complaint) :=
  (rateErrors checkRate d).map fun rates => invalidBounds d ++ rates ++ negativeDeltas d

def Lacks (rows : List Dict) (keys : List String) : Prop := ∃ d ∈ rows, ∃ key ∈ keys, d.get? key.toList = none

instance (rows : List Dict) (keys : List String) : Decidable (Lacks rows keys) :=
  inferInstanceAs (Decidable (∃ d ∈ rows, ∃ key ∈ keys, d.get? key.toList = none))

def windowOf (d : Dict) : Window :=
  ⟨String.ofList (d.text "experiment_id".toList),String.ofList (d.text "label".toList),String.ofList (d.text "recovery_active".toList)⟩

def indexRowOf (d : Dict) : IndexRow :=
  ⟨String.ofList (d.text "experiment_id".toList),String.ofList (d.text "scenario".toList),String.ofList (d.text "primary_label".toList),
    String.ofList (d.text "included".toList),String.ofList (d.text "status".toList),String.ofList (d.text "reason".toList)⟩

def qualityErrors (windowsAll rawIndex : List Dict) : Except String (List Complaint) :=
  if windowsAll = [] then .error "windows_all.csv is empty"
  else if Lacks windowsAll ["label","split","node_name","experiment_id"] then .error "KeyError"
  else do
    let rows ← windowsAll.mapM (rowErrors checkRate)
    if Lacks rawIndex ["included"] ∨
        Lacks (rawIndex.filter fun d => d.get? "included".toList = some (some ['1'])) ["experiment_id","primary_label"] then .error "KeyError"
    else do
      let labels ← labelErrors (windowsAll.map windowOf) (rawIndex.map indexRowOf)
      return rows.flatten ++ labels.map .label

end Report

section Labels
variable {windowsAll : List Window} {entry : IndexRow} {error : QualityError}

theorem mem_check : error ∈ checkEntry windowsAll entry ↔ entry.included = "1" ∧ entry.primaryLabel ≠ "normal" ∧
    ((error = .missingTargetLabel entry.experimentId entry.primaryLabel ∧
        entry.primaryLabel ∉ labelByExperiment windowsAll entry.experimentId) ∨
      (error = .missingRecovery entry.experimentId ∧ recoveryByExperiment windowsAll entry.experimentId = 0)) := by
  unfold checkEntry
  by_cases included : entry.included = "1"
  · rw [if_neg (not_not.mpr included)]
    by_cases wanted : entry.primaryLabel = "normal"
    · simp [wanted]
    · simp only [ne_eq,wanted,not_false_eq_true,true_and,List.mem_append,included]
      refine or_congr ?_ ?_
      · split
        · rename_i absent
          simp [absent]
        · rename_i present
          simp [present]
      · split
        · rename_i absent
          simp [absent]
        · rename_i present
          simp [present]
  · simp [included]

end Labels

section Entries
variable {F : Type} {formatFloat : F → String} {formatRate : Nat → Nat → String} {artifactDir : String → String}
  {includes excluded : List String} {artifacts : String → Artifacts} {checkRate : Field → Except String (Option String)}
  {split : String} {entry : Entry F}

-- What the report expects of a sample: its window is not empty, and its counters are
-- in the range of int64.
structure Sane (s : TelemetrySample) : Prop where
  forward : s.windowStartUnixMS < s.windowEndUnixMS
  counters : ∀ index, s.delta index < 2 ^ 63

theorem entry_deltas (split : String) (entry : Entry F) : ∀ field ∈ deltaFields, ∃ index,
    cellOr (entryRow formatFloat formatRate artifactDir excluded artifacts split entry) field "0" =
      some (formatDelta (entry.2.2.delta index)).toList := by
  simp only [deltaFields,List.forall_mem_cons]
  exact ⟨⟨.tcpPackets,rfl⟩,⟨.nodeportHit,rfl⟩,⟨.backendSelected,rfl⟩,⟨.backendLookupMiss,rfl⟩,⟨.rrUpdate,rfl⟩,⟨.snatInstall,rfl⟩,
    ⟨.requestRewrite,rfl⟩,⟨.revnatHit,rfl⟩,⟨.ctLookupMiss,rfl⟩,⟨.responseRewrite,rfl⟩,⟨.fwdCtHit,rfl⟩,⟨.newConn,rfl⟩,⟨.mapMiss,rfl⟩,
    ⟨.rewriteFail,rfl⟩,⟨.redirectOk,rfl⟩,⟨.redirectFail,rfl⟩,⟨.fallbackPass,rfl⟩,fun _ none => (by cases none)⟩

theorem asInt_format (value : Int64) : asInt (some (formatInt value.toInt).toList) = value.toInt := stableInt_int64 value

theorem entry_sound (sane : Sane entry.2.2)
    (rate : ∀ c rest, ((statsOf (artifacts entry.1)).rate formatRate).toList = c :: rest → checkRate (c :: rest) = .ok none) :
    rowErrors checkRate (entryRow formatFloat formatRate artifactDir excluded artifacts split entry) = .ok [] := by
  have bounds : invalidBounds (entryRow formatFloat formatRate artifactDir excluded artifacts split entry) = [] := by
    have start : asInt (cellOr (entryRow formatFloat formatRate artifactDir excluded artifacts split entry) "window_start_unix_ms" "0") =
        entry.2.2.windowStartUnixMS.toInt := asInt_format _
    have stop : asInt (cellOr (entryRow formatFloat formatRate artifactDir excluded artifacts split entry) "window_end_unix_ms" "0") =
        entry.2.2.windowEndUnixMS.toInt := asInt_format _
    have order := Int64.lt_iff_toInt_lt.mp sane.forward
    rw [invalidBounds,start,stop]
    exact if_neg (by omega)
  have deltas : negativeDeltas (entryRow formatFloat formatRate artifactDir excluded artifacts split entry) = [] := by
    rw [negativeDeltas,List.map_eq_nil_iff,List.filter_eq_nil_iff]
    intro field listed
    obtain ⟨index,cell⟩ := @entry_deltas F formatFloat formatRate artifactDir excluded artifacts split entry field listed
    have low := sane.counters index
    rw [cell,formatDelta,asInt_format,Int64.toInt_ofNat_of_lt low]
    simp
  have rates : rateErrors checkRate (entryRow formatFloat formatRate artifactDir excluded artifacts split entry) = .ok [] := by
    have cell : cellOr (entryRow formatFloat formatRate artifactDir excluded artifacts split entry) "traffic_probe_success_rate" "0" =
        some ((statsOf (artifacts entry.1)).rate formatRate).toList := rfl
    unfold rateErrors
    rw [cell]
    cases text : ((statsOf (artifacts entry.1)).rate formatRate).toList with
    | nil => rfl
    | cons c rest =>
      dsimp only
      rw [rate c rest text]
      rfl
  rw [rowErrors,rates,bounds,deltas]
  rfl

theorem entry_window : windowOf (entryRow formatFloat formatRate artifactDir excluded artifacts split entry) =
    ⟨entry.2.1.experimentID,entry.2.2.label.label,formatInt entry.2.2.label.recoveryActive⟩ := by
  have cells : windowOf (entryRow formatFloat formatRate artifactDir excluded artifacts split entry) =
      ⟨String.ofList entry.2.1.experimentID.toList,String.ofList entry.2.2.label.label.toList,
        String.ofList (formatInt entry.2.2.label.recoveryActive).toList⟩ := rfl
  rw [cells,String.ofList_toList,String.ofList_toList,String.ofList_toList]

theorem entry_columns (split : String) (entry : Entry F) : ∀ key ∈ ["label","split","node_name","experiment_id"], ∃ cell,
    (entryRow formatFloat formatRate artifactDir excluded artifacts split entry).get? key.toList = some cell := by
  simp only [List.forall_mem_cons]
  exact ⟨⟨_,rfl⟩,⟨_,rfl⟩,⟨_,rfl⟩,⟨_,rfl⟩,fun _ none => (by cases none)⟩

theorem record_row (e : Experiment) (a : Artifacts) (stats : TrafficStats) :
    indexRowOf (fullDict (indexFields.map String.toList) (indexRecord formatRate artifactDir e a stats)) = indexRow e := by
  have cells : indexRowOf (fullDict (indexFields.map String.toList) (indexRecord formatRate artifactDir e a stats)) =
      ⟨String.ofList (indexRow e).experimentId.toList,String.ofList (indexRow e).scenario.toList,
        String.ofList (indexRow e).primaryLabel.toList,String.ofList (indexRow e).included.toList,
        String.ofList (indexRow e).status.toList,String.ofList (indexRow e).reason.toList⟩ := rfl
  rw [cells,String.ofList_toList,String.ofList_toList,String.ofList_toList,String.ofList_toList,String.ofList_toList,
    String.ofList_toList]

theorem record_columns (e : Experiment) (a : Artifacts) (stats : TrafficStats) : ∀ key ∈ ["included","experiment_id","primary_label"],
    ∃ cell, (fullDict (indexFields.map String.toList) (indexRecord formatRate artifactDir e a stats)).get? key.toList = some cell := by
  simp only [List.forall_mem_cons]
  exact ⟨⟨_,rfl⟩,⟨_,rfl⟩,⟨_,rfl⟩,fun _ none => (by cases none)⟩

theorem trafficStats_le {a : Artifacts} {stats : TrafficStats} (loaded : trafficStats a = .ok stats) : stats.success ≤ stats.total := by
  unfold trafficStats at loaded
  split at loaded
  · cases loaded
    exact Nat.le_refl _
  · rename_i text _
    unfold loadTrafficStats at loaded
    cases read : readDicts fieldLimit text with
    | error err =>
      rw [read] at loaded
      cases loaded
    | ok rows =>
      rw [read] at loaded
      cases loaded
      exact List.countP_le_length

end Entries

section Whole
variable {F : Type} (formatFloat : F → String) (formatRate : Nat → Nat → String) (artifactDir : String → String)
  (includes excluded : List String) (artifacts : String → Artifacts) (checkRate : Field → Except String (Option String))

def primaryOf (id : String) : String :=
  scenarioToLabel (experiment excluded id (artifacts id)).events (experiment excluded id (artifacts id)).scenario

structure RatesRead : Prop where
  nothing : checkRate "0.000000".toList = .ok none
  part : ∀ success total, success ≤ total → 0 < total → checkRate (formatRate success total).toList = .ok none

def Deserved (entries : List (Entry F)) (complaint : Complaint) : Prop :=
  ∃ id ∈ includes, (experiment excluded id (artifacts id)).isIncluded ∧ primaryOf excluded artifacts id ≠ "normal" ∧
    ((complaint = .label (.missingTargetLabel id (primaryOf excluded artifacts id)) ∧
        ∀ entry ∈ entries, entry.2.1.experimentID = id → entry.2.2.label.label ≠ primaryOf excluded artifacts id) ∨
      (complaint = .label (.missingRecovery id) ∧
        ∀ entry ∈ entries, entry.2.1.experimentID = id → entry.2.2.label.recoveryActive ≠ 1))

variable {formatFloat formatRate artifactDir includes excluded artifacts checkRate}

theorem rates_read (reads : RatesRead formatRate checkRate) (traffic : ∀ id ∈ includes, ∃ stats, trafficStats (artifacts id) = .ok stats)
    {id : String} (own : id ∈ includes) : checkRate ((statsOf (artifacts id)).rate formatRate).toList = .ok none := by
  obtain ⟨stats,loaded⟩ := traffic id own
  have known : statsOf (artifacts id) = stats := by
    rw [statsOf,loaded]
    rfl
  rw [known,TrafficStats.rate]
  split
  · exact reads.nothing
  · rename_i some
    exact reads.part _ _ (trafficStats_le loaded) (Nat.pos_of_ne_zero some)

section Table
variable {rows : List Dict} {entries : List (Entry F)} {splitOf : Entry F → String}

theorem mem_windows (table : rows.Perm (entries.map fun entry =>
      entryRow formatFloat formatRate artifactDir excluded artifacts (splitOf entry) entry)) (w : Window) :
    w ∈ rows.map windowOf ↔
      ∃ entry ∈ entries, w = ⟨entry.2.1.experimentID,entry.2.2.label.label,formatInt entry.2.2.label.recoveryActive⟩ := by
  rw [(table.map windowOf).mem_iff,List.map_map,List.mem_map]
  simp only [Function.comp_apply,entry_window,eq_comm]

theorem labels_seen (table : rows.Perm (entries.map fun entry =>
      entryRow formatFloat formatRate artifactDir excluded artifacts (splitOf entry) entry)) {id label : String} (wanted : label ≠ "normal") :
    label ∉ labelByExperiment (rows.map windowOf) id ↔ ∀ entry ∈ entries, entry.2.1.experimentID = id → entry.2.2.label.label ≠ label := by
  rw [mem_labelByExperiment]
  constructor
  · intro absent entry member own same
    exact absent ⟨wanted,_,(mem_windows table _).mpr ⟨entry,member,rfl⟩,own,same⟩
  · rintro apart ⟨_,w,member,own,same⟩
    obtain ⟨entry,listed,rfl⟩ := (mem_windows table w).mp member
    exact apart entry listed own same

theorem recovery_seen (table : rows.Perm (entries.map fun entry =>
      entryRow formatFloat formatRate artifactDir excluded artifacts (splitOf entry) entry)) {id : String} :
    recoveryByExperiment (rows.map windowOf) id = 0 ↔
      ∀ entry ∈ entries, entry.2.1.experimentID = id → entry.2.2.label.recoveryActive ≠ 1 := by
  have one : ∀ n : Nat, formatInt n = "1" → n = 1 := by
    intro n same
    have digits : Nat.toDigits 10 n = Nat.toDigits 10 1 := Nat.toList_repr.symm.trans (congrArg String.toList same)
    rw [← @Nat.ofDigitChars_ten_toDigits n,digits]
    rfl
  rw [recoveryByExperiment,List.countP_eq_zero]
  simp only [decide_eq_true_eq,not_and]
  constructor
  · intro absent entry member own active
    have silent := absent _ ((mem_windows table _).mpr ⟨entry,member,rfl⟩)
    dsimp only at silent
    rw [active] at silent
    exact silent rfl own
  · intro apart w member active own
    obtain ⟨entry,listed,rfl⟩ := (mem_windows table w).mp member
    exact apart entry listed own (one _ active)

end Table

theorem report_rows {rows index : List Dict} {entries : List (Entry F)} {splitOf : Entry F → String} (some : entries ≠ [])
    (table : rows.Perm (entries.map fun entry => entryRow formatFloat formatRate artifactDir excluded artifacts (splitOf entry) entry))
    (records : index.Perm ((allRecords formatRate artifactDir includes excluded artifacts).map (fullDict (indexFields.map String.toList))))
    (sane : ∀ entry ∈ entries, Sane entry.2.2)
    (rates : ∀ entry ∈ entries, checkRate ((statsOf (artifacts entry.1)).rate formatRate).toList = .ok none) :
    ∃ complaints, qualityErrors checkRate rows index = .ok complaints ∧
      ∀ complaint, complaint ∈ complaints ↔ Deserved includes excluded artifacts entries complaint := by
  have filled : rows ≠ [] := by
    intro none
    rw [none] at table
    exact some (List.map_eq_nil_iff.mp (List.nil_perm.mp table))
  have row : ∀ d ∈ rows, ∃ entry ∈ entries, entryRow formatFloat formatRate artifactDir excluded artifacts (splitOf entry) entry = d :=
    fun d member => List.mem_map.mp (table.mem_iff.mp member)
  have columns : ¬Lacks rows ["label","split","node_name","experiment_id"] := by
    rintro ⟨d,member,key,listed,none⟩
    obtain ⟨entry,_,rfl⟩ := row d member
    obtain ⟨cell,found⟩ := @entry_columns F formatFloat formatRate artifactDir excluded artifacts (splitOf entry) entry key listed
    rw [found] at none
    cases none
  have sound : rows.mapM (rowErrors checkRate) = .ok (rows.map fun _ => []) := by
    refine mapM_ok fun d member => ?_
    obtain ⟨entry,listed,rfl⟩ := row d member
    exact entry_sound (sane entry listed) fun c rest same => same ▸ rates entry listed
  have record : ∀ d ∈ index, ∃ id ∈ includes, fullDict (indexFields.map String.toList)
      (indexRecord formatRate artifactDir (experiment excluded id (artifacts id)) (artifacts id) (statsOf (artifacts id))) = d := by
    intro d member
    obtain ⟨record,listed,rfl⟩ := List.mem_map.mp (records.mem_iff.mp member)
    obtain ⟨id,own,rfl⟩ := List.mem_map.mp listed
    exact ⟨id,mem_keysOf.mp own,rfl⟩
  have indexed : ∀ d ∈ index, ∀ key ∈ ["included","experiment_id","primary_label"], d.get? key.toList ≠ none := by
    intro d member key listed none
    obtain ⟨id,_,rfl⟩ := record d member
    obtain ⟨cell,found⟩ := @record_columns formatRate artifactDir (experiment excluded id (artifacts id)) (artifacts id)
      (statsOf (artifacts id)) key listed
    rw [found] at none
    cases none
  have indexed : ¬(Lacks index ["included"] ∨
      Lacks (index.filter fun d => d.get? "included".toList = .some (.some ['1'])) ["experiment_id","primary_label"]) := by
    rintro (⟨d,member,key,listed,none⟩ | ⟨d,member,key,listed,none⟩)
    · exact indexed d member key (List.mem_cons.mpr (.inl (List.mem_singleton.mp listed))) none
    · exact indexed d (List.mem_of_mem_filter member) key (List.mem_cons_of_mem _ listed) none
  have labels : labelErrors (rows.map windowOf) (index.map indexRowOf) =
      .ok ((index.map indexRowOf).flatMap (checkEntry (rows.map windowOf))) := if_neg fun none => filled (List.map_eq_nil_iff.mp none)
  have nothing : (rows.map fun _ => ([] : List Complaint)).flatten = [] := by simp
  refine ⟨((index.map indexRowOf).flatMap (checkEntry (rows.map windowOf))).map .label,?_,fun complaint => ?_⟩
  · rw [qualityErrors,if_neg filled,if_neg columns,sound]
    dsimp only [bind,Except.bind]
    rw [if_neg indexed,labels,nothing]
    rfl
  rw [List.mem_map]
  constructor
  · rintro ⟨error,member,rfl⟩
    obtain ⟨_,listed,checked⟩ := List.mem_flatMap.mp member
    obtain ⟨d,inside,rfl⟩ := List.mem_map.mp listed
    obtain ⟨id,own,rfl⟩ := record d inside
    rw [record_row] at checked
    obtain ⟨included,wanted,given⟩ := mem_check.mp checked
    refine ⟨id,own,indexRow_included.mp included,wanted,given.imp ?_ ?_⟩
    · exact fun missing => ⟨congrArg Complaint.label missing.1,(labels_seen table wanted).mp missing.2⟩
    · exact fun missing => ⟨congrArg Complaint.label missing.1,(recovery_seen table).mp missing.2⟩
  · rintro ⟨id,own,included,wanted,given⟩
    have listed : indexRow (experiment excluded id (artifacts id)) ∈ index.map indexRowOf := by
      refine List.mem_map.mpr ⟨_,records.mem_iff.mpr (List.mem_map_of_mem (List.mem_map_of_mem (mem_keysOf.mpr own))),?_⟩
      exact record_row _ _ _
    rcases given with ⟨rfl,absent⟩ | ⟨rfl,absent⟩
    · refine ⟨_,List.mem_flatMap.mpr ⟨_,listed,mem_check.mpr ⟨indexRow_included.mpr included,wanted,.inl ⟨rfl,?_⟩⟩⟩,rfl⟩
      exact (labels_seen table wanted).mpr absent
    · refine ⟨_,List.mem_flatMap.mpr ⟨_,listed,mem_check.mpr ⟨indexRow_included.mpr included,wanted,.inr ⟨rfl,?_⟩⟩⟩,rfl⟩
      exact (recovery_seen table).mpr absent

theorem split_table {listText : Record → Field} {path : String} {text : List Char} {entries : List (Entry F)} (some : entries ≠ [])
    (read : readDicts fieldLimit text = .ok (entries.map (entryRow formatFloat formatRate artifactDir excluded artifacts ""))) :
    ∃ (out : Texts) (rows : List Dict) (splitOf : Entry F → String), splitFile listText path text = .ok out ∧
      readDicts fieldLimit out.windowsAll = .ok rows ∧
      rows.Perm (entries.map fun entry => entryRow formatFloat formatRate artifactDir excluded artifacts (splitOf entry) entry) := by
  have fits := @entries_fit F formatFloat formatRate artifactDir excluded artifacts _ some
  refine ⟨_,_,fun entry => (part ((entries.map (entryRow formatFloat formatRate artifactDir excluded artifacts "")).map Dict.text)
    (entryRow formatFloat formatRate artifactDir excluded artifacts "" entry).text).name,split_fits read fits,(read_texts read fits).2,?_⟩
  refine .trans ((together_perm order_nodup fun v _ => mem_order (part _ v)).map (tabled datasetHeader)) (.of_eq ?_)
  rw [List.map_map,List.map_map,List.map_map]
  exact List.map_congr_left fun entry _ => tabled_entry _ entry

-- From the collectors to the report: it finds just the errors that the samples give
-- reason for, one of every abnormal experiment without its label or its recovery.
theorem report_exact {runs : String → List (String × List (LogEvent F))} (listText : Record → Field) (path : String)
    (gathered : Gathered formatFloat formatRate artifactDir includes excluded artifacts runs) (reads : RatesRead formatRate checkRate)
    (sane : ∀ entry ∈ allEntries includes excluded artifacts (logsOf formatFloat runs), Sane entry.2.2)
    (short : ∀ r ∈ allRecords formatRate artifactDir includes excluded artifacts, ∀ field ∈ r, field.length ≤ fieldLimit) :
    ∃ (b : Built) (text : List Char) (out : Texts) (rows index : List Dict) (complaints : List Complaint),
      buildDataset formatRate artifactDir includes excluded artifacts = .ok b ∧ b.windowsAll = .ok text ∧
      splitFile listText path text = .ok out ∧ readDicts fieldLimit out.windowsAll = .ok rows ∧
      readDicts fieldLimit b.rawIndex = .ok index ∧ qualityErrors checkRate rows index = .ok complaints ∧
      ∀ complaint, complaint ∈ complaints ↔
        Deserved includes excluded artifacts (allEntries includes excluded artifacts (logsOf formatFloat runs)) complaint := by
  have collected := gathered_logs gathered
  obtain ⟨b,text,built,written,read⟩ := build_logs collected
  obtain ⟨out,rows,splitOf,split,whole,table⟩ :=
    @split_table F formatFloat formatRate artifactDir excluded artifacts listText path _ _ (table_filled collected.some) read
  have sorted : (sortIndex (allRecords formatRate artifactDir includes excluded artifacts)).Perm
      (allRecords formatRate artifactDir includes excluded artifacts) := List.perm_insertionSort _ _
  obtain ⟨complaints,reported,exact⟩ := report_rows collected.some (table.trans (table_perm.map _))
    (sorted.map (fullDict (indexFields.map String.toList))) sane
    fun entry member => rates_read reads gathered.traffic (mem_allEntries member).1
  exact ⟨b,text,out,rows,_,complaints,built,written,split,whole,index_read built short,reported,exact⟩

end Whole

section Examples

def sixDigits : Field → Except String (Option String)
  | '0' :: '.' :: _ => .ok none
  | ['1','.','0','0','0','0','0','0'] => .ok none
  | text => .error s!"could not convert string to float: '{String.ofList text}'"

theorem shop_report : ∃ (b : Built) (text : List Char) (out : Texts) (rows index : List Dict) (complaints : List Complaint),
    buildDataset (fun _ _ => "1.000000") id ["churn-1"] [] (fun _ => shopArtifacts) = .ok b ∧ b.windowsAll = .ok text ∧
      splitFile List.flatten "windows_all.csv" text = .ok out ∧ readDicts fieldLimit out.windowsAll = .ok rows ∧
      readDicts fieldLimit b.rawIndex = .ok index ∧
      qualityErrors sixDigits rows index = .ok complaints ∧ .label (.missingTargetLabel "churn-1" "backend_churn") ∈ complaints := by
  have forward : ∀ pair ∈ (Telemetry.run seconds diary).emitted, pair.2.windowStartUnixMS < pair.2.windowEndUnixMS := by
    decide +kernel
  have counters : ∀ index, ∀ pair ∈ (Telemetry.run seconds diary).emitted, pair.2.delta index < 2 ^ 63 := by
    intro index
    cases index <;> decide +kernel
  have own : ∀ pair ∈ (Telemetry.run seconds diary).emitted, pair.1.experimentID ≠ "churn-1" := by
    decide +kernel
  have emitted : ∀ entry ∈ allEntries ["churn-1"] [] (fun _ => shopArtifacts) (logsOf seconds fun _ => shopFiles),
      entry.2 ∈ (Telemetry.run seconds diary).emitted := by
    intro entry member
    obtain ⟨_,log,listed,emitted⟩ := mem_allEntries member
    rwa [List.mem_singleton.mp listed] at emitted
  have reads : RatesRead (fun _ _ => "1.000000") sixDigits := ⟨rfl,fun _ _ _ _ => rfl⟩
  obtain ⟨b,text,out,rows,index,complaints,built,written,split,whole,read,reported,exact⟩ := report_exact List.flatten
    "windows_all.csv" shop_gathered reads (fun entry member =>
      ⟨forward _ (emitted entry member),fun index => counters index _ (emitted entry member)⟩) (by decide +kernel)
  refine ⟨b,text,out,rows,index,complaints,built,written,split,whole,read,reported,(exact _).mpr ?_⟩
  refine ⟨"churn-1",List.mem_singleton_self _,by decide +kernel,by decide +kernel,.inl ⟨by decide +kernel,fun entry member same => ?_⟩⟩
  exact absurd same (own _ (emitted entry member))

end Examples
end Aipr.QualityReport
