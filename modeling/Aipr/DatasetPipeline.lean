import Mathlib.Data.List.Perm.Basic
import Aipr.DatasetBuild
import Aipr.SplitFile

namespace Aipr.DatasetPipeline
open CsvText LabelReport DatasetBuild SplitDataset SplitFile Telemetry Grouping

abbrev Entry (F : Type) := String × Options F × TelemetrySample

section Logs
variable {F : Type} (formatFloat : F → String) (formatRate : Nat → Nat → String) (artifactDir : String → String)
  (includes excluded : List String) (artifacts : String → Artifacts)
  (logs : String → List (String × List (Options F × TelemetrySample)))

def logText (samples : List (Options F × TelemetrySample)) : List Char :=
  writeRecords goWriter (sampleTable formatFloat samples).records

def sampleHeader : Record := textRecord telemetryCSVHeader

def datasetHeader : Record := sampleHeader ++ derivedFields.map String.toList

def columnsOf (split : String) (id : String) : Record :=
  (derivedOf formatRate artifactDir excluded artifacts id).map fun pair => (if pair.1 = "split" then split else pair.2).toList

def entryRow (split : String) (entry : Entry F) : Dict :=
  fullDict datasetHeader (textRecord (csvRecord formatFloat entry.2.1 entry.2.2) ++
    columnsOf formatRate artifactDir excluded artifacts split entry.1)

def entryKey (entry : Entry F) : String ×ₗ String ×ₗ Int :=
  toLex (entry.2.1.experimentID,toLex (entry.2.1.nodeName,entry.2.2.windowStartUnixMS.toInt))

def entriesOf (id : String) (files : List (String × List (Options F × TelemetrySample))) : List (Entry F) :=
  if (experiment excluded id (artifacts id)).isIncluded then files.flatMap fun log => log.2.map fun sample => (id,sample) else []

def allEntries : List (Entry F) := (keysOf includes).flatMap fun id => entriesOf excluded artifacts id (logs id)

structure Collected : Prop where
  telemetry : ∀ id ∈ includes, (experiment excluded id (artifacts id)).isIncluded →
    (artifacts id).telemetry = some ((logs id).map fun log => (log.1,logText formatFloat log.2))
  short : ∀ id ∈ includes, ∀ log ∈ logs id, Short formatFloat log.2
  traffic : ∀ id ∈ includes, ∃ stats, trafficStats (artifacts id) = .ok stats
  derived : ∀ id ∈ includes, DerivedShort formatRate artifactDir excluded artifacts id
  some : allEntries includes excluded artifacts logs ≠ []

end Logs

section Rows
variable {F : Type} {formatFloat : F → String} {formatRate : Nat → Nat → String} {artifactDir : String → String}
  {includes excluded : List String} {artifacts : String → Artifacts}
  {logs : String → List (String × List (Options F × TelemetrySample))} {id : String}

theorem datasetHeader_nodup : datasetHeader.Nodup := by
  have names : (telemetryCSVHeader ++ derivedFields).Nodup := by simp [telemetryCSVHeader,derivedFields]
  have texts := names.map (f := String.toList) fun _ _ same => String.toList_inj.mp same
  rwa [List.map_append] at texts

theorem columnsOf_blank : columnsOf formatRate artifactDir excluded artifacts "" id =
    (derivedOf formatRate artifactDir excluded artifacts id).map fun pair => pair.2.toList := by
  simp [columnsOf,derivedOf,derived]

theorem setAll_entry (o : Options F) (s : TelemetrySample) :
    setAll (derivedOf formatRate artifactDir excluded artifacts id) (fullDict sampleHeader (textRecord (csvRecord formatFloat o s))) =
      entryRow formatFloat formatRate artifactDir excluded artifacts "" (id,o,s) := by
  have names : ((sampleHeader.zip ((textRecord (csvRecord formatFloat o s)).map some) ++
      (derivedOf formatRate artifactDir excluded artifacts id).map fun pair => (pair.1.toList,some pair.2.toList)).map Prod.fst).Nodup := by
    have keys : ((derivedOf formatRate artifactDir excluded artifacts id).map fun pair => (pair.1.toList,some pair.2.toList)).map
        Prod.fst = derivedFields.map String.toList := by
      simp [derivedOf,derived,derivedFields]
    rw [List.map_append,List.map_fst_zip (by simp [sampleHeader,textRecord,csvRecord_length]),keys]
    exact datasetHeader_nodup
  have cells := assignAll_fresh _ _ names
  rw [List.foldl_map] at cells
  rw [entryRow,columnsOf_blank,setAll,fullDict,fullDict]
  dsimp only
  rw [cells,datasetHeader,List.map_append,List.zip_append (by simp [sampleHeader,textRecord,csvRecord_length])]
  rfl

theorem rowsOf_log {name : String} {samples : List (Options F × TelemetrySample)} (short : Short formatFloat samples) :
    readDicts fieldLimit (logText formatFloat samples) = .ok (sampleTable formatFloat samples).dicts ∧
      rowsOf (name,logText formatFloat samples) = (sampleTable formatFloat samples).dicts := by
  have read := readDicts_table (table_short short)
  refine ⟨read,?_⟩
  rw [rowsOf,logText,read]
  rfl

def sortedLogs (logs : String → List (String × List (Options F × TelemetrySample))) (id : String) :
    List (String × List (Options F × TelemetrySample)) := (logs id).insertionSort fun x y => x.1 ≤ y.1

theorem nodeFiles_logs (telemetry : (artifacts id).telemetry = some ((logs id).map fun log => (log.1,logText formatFloat log.2))) :
    nodeFiles (artifacts id) = (sortedLogs logs id).map fun log => (log.1,logText formatFloat log.2) := by
  rw [nodeFiles,telemetry,sortedLogs,Option.getD_some,
    List.map_insertionSort (fun x y : String × List (Options F × TelemetrySample) => x.1 ≤ y.1) (fun x y : String × List Char => x.1 ≤ y.1)]
  exact fun _ _ _ _ => Iff.rfl

theorem experimentRows_logs (telemetry : (experiment excluded id (artifacts id)).isIncluded →
      (artifacts id).telemetry = some ((logs id).map fun log => (log.1,logText formatFloat log.2)))
    (short : ∀ log ∈ logs id, Short formatFloat log.2) :
    experimentRows formatRate artifactDir excluded artifacts id = (entriesOf excluded artifacts id (sortedLogs logs id)).map
      (entryRow formatFloat formatRate artifactDir excluded artifacts "") := by
  unfold experimentRows entriesOf
  split
  · rename_i included
    rw [nodeFiles_logs (telemetry included),List.flatMap_map,List.map_flatMap]
    refine List.flatMap_congr fun log member => ?_
    have own : log ∈ logs id := (List.mem_insertionSort _).mp member
    rw [(rowsOf_log (short log own)).2,Table.dicts,List.map_map,List.map_map]
    refine Eq.trans (List.map_map ..) (List.map_congr_left fun sample _ => setAll_entry sample.1 sample.2)
  · rfl

def readEntries (includes excluded : List String) (artifacts : String → Artifacts)
    (logs : String → List (String × List (Options F × TelemetrySample))) : List (Entry F) :=
  (keysOf includes).flatMap fun id => entriesOf excluded artifacts id (sortedLogs logs id)

def tableEntries (includes excluded : List String) (artifacts : String → Artifacts)
    (logs : String → List (String × List (Options F × TelemetrySample))) : List (Entry F) :=
  (readEntries includes excluded artifacts logs).insertionSort fun x y => entryKey x ≤ entryKey y

theorem table_perm : (tableEntries includes excluded artifacts logs).Perm (allEntries includes excluded artifacts logs) := by
  refine (List.perm_insertionSort _ _).trans (List.Perm.flatMap_left _ fun id _ => ?_)
  unfold entriesOf
  split
  · exact (List.perm_insertionSort _ _).flatMap_right _
  · exact .refl _

theorem table_filled (some : allEntries includes excluded artifacts logs ≠ []) : tableEntries includes excluded artifacts logs ≠ [] := by
  intro none
  have perm := @table_perm F includes excluded artifacts logs
  rw [none] at perm
  exact some (List.nil_perm.mp perm)

theorem entry_cells (split : String) (entry : Entry F) :
    DatasetBuild.idCell (entryRow formatFloat formatRate artifactDir excluded artifacts split entry) =
      some entry.2.1.experimentID.toList ∧
    nodeCell (entryRow formatFloat formatRate artifactDir excluded artifacts split entry) = some entry.2.1.nodeName.toList ∧
    startOf (entryRow formatFloat formatRate artifactDir excluded artifacts split entry) = entry.2.2.windowStartUnixMS.toInt := by
  refine ⟨rfl,rfl,?_⟩
  have start : startOf (entryRow formatFloat formatRate artifactDir excluded artifacts split entry) =
      stableInt (some (toString entry.2.2.windowStartUnixMS.toInt).toList) := rfl
  rw [start,stableInt_int64]

theorem entry_key (split : String) (entry : Entry F) :
    sortKey (entryRow formatFloat formatRate artifactDir excluded artifacts split entry) = entryKey entry := by
  obtain ⟨id,node,start⟩ := @entry_cells F formatFloat formatRate artifactDir excluded artifacts split entry
  rw [sortKey,id,node,start,Option.getD_some,Option.getD_some,String.ofList_toList,String.ofList_toList]
  rfl

theorem allRows_logs (collected : Collected formatFloat formatRate artifactDir includes excluded artifacts logs) :
    allRows formatRate artifactDir includes excluded artifacts =
    (readEntries includes excluded artifacts logs).map (entryRow formatFloat formatRate artifactDir excluded artifacts "") := by
  rw [allRows,readEntries,List.map_flatMap]
  refine List.flatMap_congr fun id member => ?_
  have own := mem_keysOf.mp member
  exact experimentRows_logs (collected.telemetry id own) (collected.short id own)

def Headed (w : Windows) : Prop := w.canonicalHeader = [] ∧ w.rows = [] ∨ w.canonicalHeader = sampleHeader

theorem readNode_log {pairs : List (String × String)} {w : Windows} (headed : Headed w) {name : String}
    {samples : List (Options F × TelemetrySample)} (short : Short formatFloat samples) :
    ∃ w', readNode pairs w (name,logText formatFloat samples) = .ok w' ∧ Headed w' := by
  have found : CsvText.read fieldLimit (logText formatFloat samples) = ((sampleTable formatFloat samples).records,none) :=
    read_written goWriter (table_writable (table_short short))
  have same : ¬(w.canonicalHeader ≠ [] ∧ (sampleTable formatFloat samples).records.headD [] ≠ w.canonicalHeader) := by
    rintro ⟨known,other⟩
    rcases headed with ⟨blank,_⟩ | header
    · exact known blank
    · exact other header.symm
  have run : readNode pairs w (name,logText formatFloat samples) = .ok ⟨if w.canonicalHeader = [] then sampleHeader else w.canonicalHeader,
      w.rows ++ (dicts (sampleTable formatFloat samples).records).map (setAll pairs)⟩ := by
    unfold readNode
    rw [found]
    exact if_neg same
  refine ⟨_,run,.inr ?_⟩
  dsimp only
  split
  · rfl
  · rename_i known
    exact headed.resolve_left fun blank => known blank.1

theorem loaded_logs (collected : Collected formatFloat formatRate artifactDir includes excluded artifacts logs) :
    ∃ l, (keysOf includes).foldlM (readExperiment formatRate artifactDir excluded artifacts) ⟨[],⟨[],[]⟩⟩ = .ok l ∧ Headed l.windows := by
  refine foldlM_ok (I := fun l : Loaded => Headed l.windows) (fun id member l headed => ?_) (.inl ⟨rfl,rfl⟩)
  have own := mem_keysOf.mp member
  obtain ⟨stats,loaded⟩ := collected.traffic id own
  unfold readExperiment
  rw [loaded]
  dsimp only [bind,Except.bind]
  split
  · exact ⟨_,rfl,headed⟩
  · rename_i status
    have included := included_iff.mp (not_not.mp status)
    rw [nodeFiles_logs (collected.telemetry id own included)]
    obtain ⟨w',done,headed⟩ := foldlM_ok (I := Headed)
      (l := (sortedLogs logs id).map fun log => (log.1,logText formatFloat log.2))
      (f := readNode (derived formatRate artifactDir (experiment excluded id (artifacts id)) stats)) (fun file member w headed => by
        obtain ⟨log,listed,rfl⟩ := List.mem_map.mp member
        exact readNode_log headed (collected.short id own log ((List.mem_insertionSort _).mp listed))) headed
    rw [done]
    exact ⟨_,rfl,headed⟩

def entryRecord (formatFloat : F → String) (formatRate : Nat → Nat → String) (artifactDir : String → String) (excluded : List String)
    (artifacts : String → Artifacts) (split : String) (entry : Entry F) : Record :=
  textRecord (csvRecord formatFloat entry.2.1 entry.2.2) ++ columnsOf formatRate artifactDir excluded artifacts split entry.1

theorem entry_width (split : String) (entry : Entry F) :
    (entryRecord formatFloat formatRate artifactDir excluded artifacts split entry).length = datasetHeader.length := by
  have columns : (columnsOf formatRate artifactDir excluded artifacts split entry.1).length = derivedFields.length := rfl
  rw [entryRecord,List.length_append,columns,textRecord,List.length_map,csvRecord_length]
  rfl

theorem sampleHeader_filled : sampleHeader ≠ [] := List.cons_ne_nil _ _

theorem header_filled : datasetHeader ≠ [] := List.append_ne_nil_of_left_ne_nil sampleHeader_filled _

def entryTable (formatFloat : F → String) (formatRate : Nat → Nat → String) (artifactDir : String → String) (excluded : List String)
    (artifacts : String → Artifacts) (split : String) (entries : List (Entry F)) : Table where
  header := datasetHeader
  rows := entries.map (entryRecord formatFloat formatRate artifactDir excluded artifacts split)
  nodup := datasetHeader_nodup
  filled := header_filled
  full := by
    intro row member
    obtain ⟨entry,_,rfl⟩ := List.mem_map.mp member
    exact entry_width split entry

theorem table_records (split : String) (entries : List (Entry F)) :
    (entryTable formatFloat formatRate artifactDir excluded artifacts split entries).records =
      datasetHeader :: entries.map (entryRecord formatFloat formatRate artifactDir excluded artifacts split) := rfl

theorem table_header (split : String) (entries : List (Entry F)) :
    (entryTable formatFloat formatRate artifactDir excluded artifacts split entries).header = datasetHeader := rfl

theorem table_dicts (split : String) (entries : List (Entry F)) :
    (entryTable formatFloat formatRate artifactDir excluded artifacts split entries).dicts =
      entries.map (entryRow formatFloat formatRate artifactDir excluded artifacts split) := List.map_map ..

theorem mem_allEntries {entry : Entry F} (member : entry ∈ allEntries includes excluded artifacts logs) :
    entry.1 ∈ includes ∧ ∃ log ∈ logs entry.1, entry.2 ∈ log.2 := by
  obtain ⟨id,listed,inside⟩ := List.mem_flatMap.mp member
  unfold entriesOf at inside
  split at inside
  · obtain ⟨log,own,inside⟩ := List.mem_flatMap.mp inside
    obtain ⟨sample,emitted,rfl⟩ := List.mem_map.mp inside
    exact ⟨mem_keysOf.mp listed,log,own,emitted⟩
  · cases inside

theorem entry_short (collected : Collected formatFloat formatRate artifactDir includes excluded artifacts logs) {entry : Entry F}
    (member : entry ∈ allEntries includes excluded artifacts logs) :
    ∀ field ∈ entryRecord formatFloat formatRate artifactDir excluded artifacts "" entry, field.length ≤ fieldLimit := by
  obtain ⟨own,log,listed,emitted⟩ := mem_allEntries member
  intro field inside
  rcases List.mem_append.mp inside with cell | column
  · obtain ⟨text,known,rfl⟩ := List.mem_map.mp cell
    rw [String.length_toList]
    exact collected.short _ own log listed _ emitted text known
  · rw [columnsOf_blank] at column
    obtain ⟨pair,known,rfl⟩ := List.mem_map.mp column
    exact collected.derived _ own pair known

theorem names_short : ∀ field ∈ datasetHeader, field.length ≤ fieldLimit := by
  have low : ∀ field ∈ telemetryCSVHeader ++ derivedFields, field.length ≤ 26 := by decide +kernel
  intro field member
  have listed : field ∈ (telemetryCSVHeader ++ derivedFields).map String.toList := by
    rw [List.map_append]
    exact member
  obtain ⟨name,known,rfl⟩ := List.mem_map.mp listed
  rw [String.length_toList]
  exact Nat.le_trans (low name known) (by decide)

theorem build_logs (collected : Collected formatFloat formatRate artifactDir includes excluded artifacts logs) :
    ∃ b text, buildDataset formatRate artifactDir includes excluded artifacts = .ok b ∧ b.windowsAll = .ok text ∧
      readDicts fieldLimit text = .ok ((tableEntries includes excluded artifacts logs).map
        (entryRow formatFloat formatRate artifactDir excluded artifacts "")) := by
  obtain ⟨l,loaded,headed⟩ := loaded_logs collected
  have rows := (loaded_rows loaded).1.trans (allRows_logs collected)
  have some : l.windows.rows ≠ [] := by
    rw [rows]
    intro none
    refine table_filled collected.some ?_
    rw [tableEntries,List.map_eq_nil_iff.mp none]
    rfl
  have header : l.windows.canonicalHeader = sampleHeader := headed.resolve_left fun blank => some blank.2
  have comparable : Comparable l.windows.rows := by
    rw [rows]
    intro a first b second
    obtain ⟨x,_,rfl⟩ := List.mem_map.mp first
    obtain ⟨y,_,rfl⟩ := List.mem_map.mp second
    rw [(entry_cells "" x).1,(entry_cells "" x).2.1,(entry_cells "" y).1,(entry_cells "" y).2.1]
    exact ⟨rfl,fun _ => rfl⟩
  have sorted : sortRows l.windows.rows = (tableEntries includes excluded artifacts logs).map
      (entryRow formatFloat formatRate artifactDir excluded artifacts "") := by
    rw [rows,sortRows,tableEntries,List.map_insertionSort (fun x y : Entry F => entryKey x ≤ entryKey y) fun a b : Dict => sortKey a ≤ sortKey b]
    intro x _ y _
    rw [entry_key,entry_key]
  have short : ∀ r ∈ (entryTable formatFloat formatRate artifactDir excluded artifacts ""
      (tableEntries includes excluded artifacts logs)).records, ∀ field ∈ r, field.length ≤ fieldLimit := by
    rw [table_records]
    intro r member
    rcases List.mem_cons.mp member with rfl | row
    · exact names_short
    · obtain ⟨entry,listed,rfl⟩ := List.mem_map.mp row
      exact entry_short collected (table_perm.mem_iff.mp listed)
  have written := writeDicts_table (entryTable formatFloat formatRate artifactDir excluded artifacts ""
    (tableEntries includes excluded artifacts logs)) excel
  have read := readDicts_table (excel_writable short)
  rw [table_dicts,table_header,← sorted] at written
  rw [table_dicts] at read
  have built : buildDataset formatRate artifactDir includes excluded artifacts = .ok
      ⟨writeRecords excel (indexFields.map String.toList :: sortIndex l.index),
        if l.windows.canonicalHeader = [] then .error "no included telemetry rows found"
        else writeDicts excel (l.windows.canonicalHeader ++ derivedFields.map String.toList) (sortRows l.windows.rows)⟩ := by
    unfold buildDataset
    rw [loaded]
    exact if_pos comparable
  refine ⟨_,_,built,?_,read⟩
  rw [header,if_neg sampleHeader_filled,← datasetHeader]
  exact written

theorem entry_id (split : String) (entry : Entry F) :
    (rowOf (entryRow formatFloat formatRate artifactDir excluded artifacts split entry).text).experimentId = entry.2.1.experimentID := by
  have id := (@entry_cells F formatFloat formatRate artifactDir excluded artifacts split entry).1
  have text : ∀ d : Dict, d.text "experiment_id".toList = (DatasetBuild.idCell d).getD [] := by
    intro d
    unfold Dict.text DatasetBuild.idCell
    cases d.get? "experiment_id".toList with
    | none => rfl
    | some cell => rfl
  rw [rowOf,text,id,Option.getD_some,String.ofList_toList]

theorem entries_fit {entries : List (Entry F)} (some : entries ≠ []) : Fits datasetHeader
    (entries.map (entryRow formatFloat formatRate artifactDir excluded artifacts "")) := by
  refine ⟨?_,?_,?_,?_,?_,?_⟩
  · intro d member
    obtain ⟨entry,_,rfl⟩ := List.mem_map.mp member
    have width := @entry_width F formatFloat formatRate artifactDir excluded artifacts "" entry
    rw [entryRecord] at width
    rw [entryRow,fullDict,Dict.keys,List.map_fst_zip (by rw [List.length_map,width])]
  · intro d member
    obtain ⟨entry,_,rfl⟩ := List.mem_map.mp member
    rfl
  · exact fun none => some (List.map_eq_nil_iff.mp none)
  · refine List.mem_append_left _ (List.mem_map_of_mem ?_)
    decide +kernel
  · refine List.mem_append_right _ (List.mem_map_of_mem ?_)
    decide +kernel
  · rintro ⟨absent,_⟩
    obtain ⟨d,member,blank⟩ := List.mem_map.mp absent
    obtain ⟨entry,_,rfl⟩ := List.mem_map.mp member
    cases blank

theorem marked_columns {pairs : List (String × String)} {v : Field → Field}
    (values : (pairs.map fun pair => pair.1.toList).map v = pairs.map fun pair => pair.2.toList) (split : Split) :
    (pairs.map fun pair => pair.1.toList).map (mark split v) =
      pairs.map fun pair => (if pair.1 = "split" then split.name else pair.2).toList := by
  rw [List.map_map,List.map_inj_left] at values
  rw [List.map_map]
  refine List.map_congr_left fun pair member => ?_
  have own := values pair member
  rw [Function.comp_apply] at own ⊢
  unfold mark
  by_cases here : pair.1 = "split"
  · rw [here,Function.update_self,if_pos rfl]
  · rw [if_neg here,Function.update_of_ne fun same => here (String.toList_inj.mp same),own]

theorem tabled_entry (split : Split) (entry : Entry F) :
    tabled datasetHeader (mark split (entryRow formatFloat formatRate artifactDir excluded artifacts "" entry).text) =
      entryRow formatFloat formatRate artifactDir excluded artifacts split.name entry := by
  have values : datasetHeader.map (entryRow formatFloat formatRate artifactDir excluded artifacts "" entry).text =
      textRecord (csvRecord formatFloat entry.2.1 entry.2.2) ++ columnsOf formatRate artifactDir excluded artifacts "" entry.1 :=
    full_values datasetHeader_nodup (entry_width "" entry)
  generalize (entryRow formatFloat formatRate artifactDir excluded artifacts "" entry).text = v at values ⊢
  rw [datasetHeader,List.map_append] at values
  obtain ⟨cells,columns⟩ := List.append_inj values (by simp [sampleHeader,textRecord,csvRecord_length])
  have absent : ∀ key ∈ sampleHeader, key ≠ "split".toList := by
    rintro _ member rfl
    obtain ⟨name,listed,same⟩ := List.mem_map.mp member
    rw [String.toList_inj.mp same] at listed
    exact absurd listed (by decide +kernel)
  have kept : sampleHeader.map (mark split v) = textRecord (csvRecord formatFloat entry.2.1 entry.2.2) := by
    refine Eq.trans (List.map_congr_left fun key member => ?_) cells
    exact Function.update_of_ne (absent key member) _ _
  have names : derivedFields.map String.toList =
      (derivedOf formatRate artifactDir excluded artifacts entry.1).map fun pair => pair.1.toList := by
    simp [derivedOf,derived,derivedFields]
  rw [names,columnsOf_blank] at columns
  have record : datasetHeader.map (mark split v) = textRecord (csvRecord formatFloat entry.2.1 entry.2.2) ++
      columnsOf formatRate artifactDir excluded artifacts split.name entry.1 := by
    rw [datasetHeader,List.map_append,kept,names,marked_columns columns split,columnsOf]
  rw [tabled,record,entryRow]

theorem split_entries {listText : Record → Field} {path : String} {text : List Char} {entries : List (Entry F)} (some : entries ≠ [])
    (read : readDicts fieldLimit text = .ok (entries.map (entryRow formatFloat formatRate artifactDir excluded artifacts ""))) :
    ∃ out, splitFile listText path text = .ok out ∧
      (∀ entry ∈ entries, ∃ split, out.assignments.lookup entry.2.1.experimentID = .some split) ∧
      ∀ split, readDicts fieldLimit (out.windows split) =
        .ok ((entries.filter fun entry => out.assignments.lookup entry.2.1.experimentID = .some split).map
          (entryRow formatFloat formatRate artifactDir excluded artifacts split.name)) := by
  have fits := @entries_fit F formatFloat formatRate artifactDir excluded artifacts _ some
  have assigned : ∀ entry ∈ entries, (textsOf datasetHeader ((entries.map
      (entryRow formatFloat formatRate artifactDir excluded artifacts "")).map Dict.text)).assignments.lookup entry.2.1.experimentID =
      .some (part ((entries.map (entryRow formatFloat formatRate artifactDir excluded artifacts "")).map Dict.text)
        (entryRow formatFloat formatRate artifactDir excluded artifacts "" entry).text) := by
    intro entry member
    have own := part_assigned (List.mem_map_of_mem (f := entryRow formatFloat formatRate artifactDir excluded artifacts "") member)
    rwa [entry_id] at own
  refine ⟨_,split_fits read fits,fun entry member => ⟨_,assigned entry member⟩,fun split => ?_⟩
  rw [(read_texts read fits).1 split,inPart,List.map_map,List.filter_map,List.map_map,List.filter_map,List.map_map]
  have same : entries.filter (((fun row => decide (part ((entries.map
      (entryRow formatFloat formatRate artifactDir excluded artifacts "")).map Dict.text) row = split)) ∘ Dict.text) ∘
        entryRow formatFloat formatRate artifactDir excluded artifacts "") =
      entries.filter fun entry => (textsOf datasetHeader ((entries.map
        (entryRow formatFloat formatRate artifactDir excluded artifacts "")).map Dict.text)).assignments.lookup
          entry.2.1.experimentID = .some split := by
    refine List.filter_congr fun entry member => ?_
    rw [assigned entry member]
    simp
  rw [same]
  exact congrArg Except.ok (List.map_congr_left fun entry _ => tabled_entry split entry)

end Rows

section Whole
variable {F : Type} (formatFloat : F → String) (formatRate : Nat → Nat → String) (artifactDir : String → String)
  (includes excluded : List String) (artifacts : String → Artifacts)

def logsOf (runs : String → List (String × List (LogEvent F))) (id : String) : List (String × List (Options F × TelemetrySample)) :=
  (runs id).map fun node => (node.1,(Telemetry.run formatFloat node.2).emitted)

-- Every included experiment has the files of its collectors, none of which was cut
-- short or left without a header, and a traffic file that can be read.
structure Gathered (runs : String → List (String × List (LogEvent F))) : Prop where
  telemetry : ∀ id ∈ includes, (experiment excluded id (artifacts id)).isIncluded →
    (artifacts id).telemetry = some ((runs id).map fun node => (node.1,(Telemetry.run formatFloat node.2).file))
  clean : ∀ id ∈ includes, ∀ node ∈ runs id, ∀ event ∈ node.2, event.Clean
  begun : ∀ id ∈ includes, ∀ node ∈ runs id, (Telemetry.run formatFloat node.2).file ≠ []
  short : ∀ id ∈ includes, ∀ node ∈ runs id, Short formatFloat (Telemetry.run formatFloat node.2).emitted
  traffic : ∀ id ∈ includes, ∃ stats, trafficStats (artifacts id) = .ok stats
  derived : ∀ id ∈ includes, DerivedShort formatRate artifactDir excluded artifacts id
  some : allEntries includes excluded artifacts (logsOf formatFloat runs) ≠ []

variable {formatFloat formatRate artifactDir includes excluded artifacts}

theorem gathered_logs {runs : String → List (String × List (LogEvent F))}
    (gathered : Gathered formatFloat formatRate artifactDir includes excluded artifacts runs) :
    Collected formatFloat formatRate artifactDir includes excluded artifacts (logsOf formatFloat runs) := by
  refine ⟨fun id own included => ?_,fun id own log listed => ?_,gathered.traffic,gathered.derived,gathered.some⟩
  · rw [gathered.telemetry id own included,logsOf,List.map_map]
    refine congrArg _ (List.map_congr_left fun node listed => ?_)
    rcases recorded_run (l := .start) (gathered.clean id own node listed) (.inl ⟨rfl,rfl,rfl⟩) with ⟨blank,_⟩ | filled
    · exact absurd blank (gathered.begun id own node listed)
    · exact congrArg (Prod.mk node.1) filled
  · obtain ⟨node,ran,rfl⟩ := List.mem_map.mp listed
    exact gathered.short id own node ran

-- Every window that was sampled is a row of just one of the three files the models are
-- trained on, with its own columns and those of its experiment.
theorem dataset_whole {runs : String → List (String × List (LogEvent F))} (listText : Record → Field) (path : String)
    (gathered : Gathered formatFloat formatRate artifactDir includes excluded artifacts runs) :
    ∃ (b : Built) (text : List Char) (out : Texts) (entries : List (Entry F)),
      buildDataset formatRate artifactDir includes excluded artifacts = .ok b ∧ b.windowsAll = .ok text ∧
      splitFile listText path text = .ok out ∧
      entries.Perm (allEntries includes excluded artifacts (logsOf formatFloat runs)) ∧
      (entries.Pairwise fun x y => entryKey x ≤ entryKey y) ∧
      (∀ entry ∈ entries, ∃ split, out.assignments.lookup entry.2.1.experimentID = some split) ∧
      ∀ split, readDicts fieldLimit (out.windows split) =
        .ok ((entries.filter fun entry => out.assignments.lookup entry.2.1.experimentID = some split).map
          (entryRow formatFloat formatRate artifactDir excluded artifacts split.name)) := by
  have collected := gathered_logs gathered
  obtain ⟨b,text,built,written,read⟩ := build_logs collected
  obtain ⟨out,split,assigned,parts⟩ :=
    @split_entries F formatFloat formatRate artifactDir excluded artifacts listText path _ _ (table_filled collected.some) read
  refine ⟨b,text,out,_,built,written,split,table_perm,?_,assigned,parts⟩
  have total : Std.Total fun x y : Entry F => entryKey x ≤ entryKey y := ⟨fun x y => le_total _ _⟩
  have trans : IsTrans (Entry F) fun x y => entryKey x ≤ entryKey y := ⟨fun x y z => le_trans⟩
  exact List.pairwise_insertionSort _ _

end Whole

section Examples

def shopFiles : List (String × List (LogEvent Unit)) := [("worker-1.csv",diary)]

def shopArtifacts : Artifacts :=
  ⟨some "rolling_update",some [⟨"backend_churn"⟩],some "ts,ok\n1,1\n".toList,some [("worker-1.csv",(Telemetry.run seconds diary).file)],1⟩

theorem shop_gathered : Gathered seconds (fun _ _ => "1.000000") id ["churn-1"] [] (fun _ => shopArtifacts) fun _ => shopFiles := by
  refine ⟨fun _ _ _ => rfl,fun _ _ node listed => ?_,fun _ _ node listed => ?_,fun _ _ node listed => ?_,fun _ _ => ?_,fun _ own => ?_,?_⟩
  · rw [List.mem_singleton.mp listed]
    simp [diary,LogEvent.Clean,Flush.Clean]
  · rw [List.mem_singleton.mp listed]
    decide +kernel
  · rw [List.mem_singleton.mp listed]
    unfold Short
    decide +kernel
  · exact ⟨⟨1,1⟩,by decide +kernel⟩
  · rw [List.mem_singleton.mp own]
    unfold DerivedShort
    decide +kernel
  · have some : (allEntries ["churn-1"] [] (fun _ => shopArtifacts) (logsOf seconds fun _ => shopFiles)).isEmpty = false := by
      decide +kernel
    intro none
    rw [none] at some
    cases some

theorem shop_whole : ∃ (b : Built) (text : List Char) (out : Texts),
    buildDataset (fun _ _ => "1.000000") id ["churn-1"] [] (fun _ => shopArtifacts) = .ok b ∧ b.windowsAll = .ok text ∧
      splitFile List.flatten "windows_all.csv" text = .ok out := by
  obtain ⟨b,text,out,_,built,written,split,_⟩ := dataset_whole List.flatten "windows_all.csv" shop_gathered
  exact ⟨b,text,out,built,written,split⟩

end Examples
end Aipr.DatasetPipeline
