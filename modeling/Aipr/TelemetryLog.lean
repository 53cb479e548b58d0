import Aipr.CsvText
import Aipr.TelemetryWindow
import Aipr.Transition

namespace Aipr.Telemetry
open NodeportTc Transition CsvText

-- What a sample takes over from the options of the collector. The length of a window
-- is a floating point number; only its text matters here.
structure Options (F : Type) where
  windowSeconds : F
  experimentID : String
  nodeName : String
  serviceNamespace : String
  serviceName : String
  routingMode : String
  ctEntryTimeoutSeconds : Int
  ctGCIntervalSeconds : Int

def telemetryCSVHeader : List String :=
  ["window_start_unix_ms","window_end_unix_ms","window_seconds","experiment_id","node_name","node_ip","service_namespace",
    "service_name","service_nodeport","routing_mode","has_remote_backend","delta_tcp_packets","delta_nodeport_hit",
    "delta_backend_selected","delta_backend_lookup_miss","delta_rr_update","delta_snat_install","delta_request_rewrite",
    "delta_revnat_hit","delta_ct_lookup_miss","delta_response_rewrite","delta_fwd_ct_hit","delta_new_conn","delta_map_miss",
    "delta_rewrite_fail","delta_redirect_ok","delta_redirect_fail","delta_fallback_pass","ct_active_count",
    "fwd_ct_active_count","gc_runs_in_window","gc_deleted_ct","gc_deleted_fwd_ct","ct_entry_timeout_seconds",
    "ct_gc_interval_seconds","backend_total","backend_local","backend_remote","backend_total_delta","service_event_seen",
    "slice_event_seen","node_event_seen","sync_reconcile_count","sync_upserted_services","sync_removed_services","label",
    "label_source","anomaly_active","recovery_active"]

def boolToInt (value : Bool) : Int := if value then 1 else 0

section Record
variable {F : Type} (formatFloat : F → String)

def formatInt (value : Int) : String := toString value

-- int64 of an unsigned counter.
def formatDelta (value : Nat) : String := formatInt (Int64.ofNat value).toInt

def csvRecord (o : Options F) (s : TelemetrySample) : List String :=
  [formatInt s.windowStartUnixMS.toInt,formatInt s.windowEndUnixMS.toInt,formatFloat o.windowSeconds,o.experimentID,o.nodeName,
    s.target.nodeIP,o.serviceNamespace,o.serviceName,formatInt s.target.serviceNodePort,o.routingMode,
    formatInt (boolToInt (s.target.backendRemote > 0)),formatDelta (s.delta .tcpPackets),formatDelta (s.delta .nodeportHit),
    formatDelta (s.delta .backendSelected),formatDelta (s.delta .backendLookupMiss),formatDelta (s.delta .rrUpdate),
    formatDelta (s.delta .snatInstall),formatDelta (s.delta .requestRewrite),formatDelta (s.delta .revnatHit),
    formatDelta (s.delta .ctLookupMiss),formatDelta (s.delta .responseRewrite),formatDelta (s.delta .fwdCtHit),
    formatDelta (s.delta .newConn),formatDelta (s.delta .mapMiss),formatDelta (s.delta .rewriteFail),
    formatDelta (s.delta .redirectOk),formatDelta (s.delta .redirectFail),formatDelta (s.delta .fallbackPass),
    formatInt s.ctActiveCount,formatInt s.fwdCTActiveCount,formatInt s.summary.gcRunsInWindow,formatInt s.summary.gcDeletedCT,
    formatInt s.summary.gcDeletedFwdCT,formatInt o.ctEntryTimeoutSeconds,formatInt o.ctGCIntervalSeconds,
    formatInt s.target.backendTotal,formatInt s.target.backendLocal,formatInt s.target.backendRemote,
    formatInt s.backendTotalDelta,formatInt s.summary.serviceEventSeen,formatInt s.summary.sliceEventSeen,
    formatInt s.summary.nodeEventSeen,formatInt s.summary.syncReconcileCount,formatInt s.summary.syncUpsertedEntries,
    formatInt s.summary.syncRemovedEntries,s.label.label,s.label.labelSource,formatInt s.label.anomalyActive,
    formatInt s.label.recoveryActive]

theorem csvRecord_length (o : Options F) (s : TelemetrySample) :
    (csvRecord formatFloat o s).length = telemetryCSVHeader.length := rfl

def textRecord (fields : List String) : Record := fields.map String.toList

theorem header_nodup : (textRecord telemetryCSVHeader).Nodup := by
  have names : telemetryCSVHeader.Nodup := by simp [telemetryCSVHeader]
  exact names.map fun _ _ same => String.toList_inj.mp same

def sampleTable (samples : List (Options F × TelemetrySample)) : Table where
  header := textRecord telemetryCSVHeader
  rows := samples.map fun sample => textRecord (csvRecord formatFloat sample.1 sample.2)
  nodup := header_nodup
  filled := List.cons_ne_nil _ _
  full := by
    intro row member
    obtain ⟨sample,_,rfl⟩ := List.mem_map.mp member
    rw [textRecord,textRecord,List.length_map,List.length_map,csvRecord_length]

end Record

inductive Flush where
  | whole
  | short (kept : Nat) (err : String)

-- The buffer under the writer keeps its first error and lets nothing pass any more.
structure TelemetryCSVWriter where
  err : Option String
deriving DecidableEq, Repr

def TelemetryCSVWriter.put (w : TelemetryCSVWriter) (flush : Flush) (text file : List Char) :
    Except String Unit × TelemetryCSVWriter × List Char :=
  match w.err,flush with
  | some err,_ => (.error s!"write telemetry sample: {err}",w,file)
  | none,.whole => (.ok (),w,file ++ text)
  | none,.short kept err => (.error s!"flush telemetry sample: {err}",⟨some err⟩,file ++ text.take kept)

-- The file is opened for appending; only an empty one gets a header.
def newTelemetryCSVWriter (opened : Except String Unit) (header : Flush) (file : List Char) :
    Except String TelemetryCSVWriter × List Char :=
  match opened with
  | .error err => (.error err,file)
  | .ok () =>
    if file = [] then
      match header with
      | .whole => (.ok ⟨none⟩,writeRecord goWriter (textRecord telemetryCSVHeader))
      | .short kept err =>
        (.error s!"flush telemetry header: {err}",(writeRecord goWriter (textRecord telemetryCSVHeader)).take kept)
    else (.ok ⟨none⟩,file)

section Log
variable {F : Type} (formatFloat : F → String)

def writeSample (w : TelemetryCSVWriter) (flush : Flush) (o : Options F) (sample : TelemetrySample) (file : List Char) :
    Except String Unit × TelemetryCSVWriter × List Char :=
  w.put flush (writeRecord goWriter (textRecord (csvRecord formatFloat o sample))) file

structure Collecting (F : Type) where
  options : Options F
  system : System
  writer : TelemetryCSVWriter

-- The file outlives the processes. `emitted` remembers the samples that were written
-- as far as the collectors know.
structure Log (F : Type) where
  file : List Char
  process : Option (Collecting F)
  emitted : List (Options F × TelemetrySample)

inductive LogEvent (F : Type) where
  | start (o : Options F) (s : System) (opened : Except String Unit) (header : Flush) (baseline : Except String Unit)
  | activity (a : Activity)
  | tick (now : Int64) (p : Probe) (flush : Flush)
  | stop

def collectAndWrite (p : Probe) (now : Int64) (flush : Flush) (c : Collecting F) (l : Log F) : Log F :=
  match (collectWindow p c.system.windowStart now c.system).1 with
  | .error _ => {l with process := some {c with system := (tick p now c.system).2}}
  | .ok sample =>
    let (written,writer,file) := writeSample formatFloat c.writer flush c.options sample l.file
    let (emitted,system) := tick {p with written := written} now c.system
    ⟨file,some {c with system := system, writer := writer},l.emitted ++ emitted.toList.map fun sample => (c.options,sample)⟩

def logStep (l : Log F) : LogEvent F → Log F
  | .start o s opened header baseline =>
    let (writer,file) := newTelemetryCSVWriter opened header l.file
    match writer,baseline with
    | .ok writer,.ok () =>
      ⟨file,some ⟨o,{s with collector := {s.collector with previousStats := s.stats, baselineCaptured := true}},writer⟩,l.emitted⟩
    | _,_ => ⟨file,none,l.emitted⟩
  | .activity a => {l with process := l.process.map fun c => {c with system := c.system.happens a}}
  | .tick now p flush =>
    match l.process with
    | none => l
    | some c => collectAndWrite formatFloat p now flush c l
  | .stop => {l with process := none}

def Log.start : Log F := ⟨[],none,[]⟩

def Flush.Clean : Flush → Prop
  | .whole => True
  | .short kept _ => kept = 0

def LogEvent.Clean : LogEvent F → Prop
  | .start _ _ _ header _ => header.Clean
  | .tick _ _ flush => flush.Clean
  | _ => True

def Recorded (l : Log F) : Prop :=
  (l.file = [] ∧ l.process = none ∧ l.emitted = []) ∨
    l.file = writeRecords goWriter (sampleTable formatFloat l.emitted).records

variable {formatFloat} {l : Log F}

theorem put_ok {w : TelemetryCSVWriter} {flush : Flush} {text file : List Char} (done : (w.put flush text file).1 = .ok ()) :
    (w.put flush text file).2.2 = file ++ text := by
  unfold TelemetryCSVWriter.put at done ⊢
  cases before : w.err with
  | some _ => simp [before] at done
  | none =>
    cases flush with
    | whole => rfl
    | short kept err => simp [before] at done

theorem put_error {w : TelemetryCSVWriter} {flush : Flush} {text file : List Char} {err : String} (clean : flush.Clean)
    (failed : (w.put flush text file).1 = .error err) : (w.put flush text file).2.2 = file := by
  unfold TelemetryCSVWriter.put at failed ⊢
  cases before : w.err with
  | some _ => rfl
  | none =>
    cases flush with
    | whole => simp [before] at failed
    | short kept err =>
      cases clean
      simp

theorem table_append (samples more : List (Options F × TelemetrySample)) :
    (sampleTable formatFloat (samples ++ more)).records =
      (sampleTable formatFloat samples).records ++ more.map fun sample => textRecord (csvRecord formatFloat sample.1 sample.2) := by
  simp [sampleTable,Table.records]

theorem tick_emits {p : Probe} {now : Int64} {s : System} {sample : TelemetrySample} {written : Except String Unit}
    (collected : (collectWindow p s.windowStart now s).1 = .ok sample) :
    (tick {p with written := written} now s).1 = match written with
      | .ok () => some sample
      | .error _ => none := by
  have same : collectWindow {p with written := written} s.windowStart now s = collectWindow p s.windowStart now s := rfl
  unfold tick
  rw [same]
  cases outcome : collectWindow p s.windowStart now s with
  | mk result system =>
    rw [outcome] at collected
    subst collected
    cases written <;> rfl

theorem record_nonempty (fields : List Char) : fields ++ goWriter.terminator ≠ [] :=
  List.append_ne_nil_of_right_ne_nil _ (terminator_ne goWriter)

theorem recorded_start (recorded : Recorded formatFloat l) {o : Options F} {s : System} {opened : Except String Unit} {header : Flush}
    {baseline : Except String Unit} (clean : header.Clean) :
    Recorded formatFloat (logStep formatFloat l (.start o s opened header baseline)) := by
  have whole : ∀ {writer file}, newTelemetryCSVWriter opened header l.file = (writer,file) →
      (file = [] ∧ l.emitted = [] ∧ ∃ err, writer = .error err) ∨
        file = writeRecords goWriter (sampleTable formatFloat l.emitted).records := by
    intro writer file done
    unfold newTelemetryCSVWriter at done
    split at done
    · cases done
      rcases recorded with ⟨blank,_,fresh⟩ | filled
      · exact .inl ⟨blank,fresh,_,rfl⟩
      · exact .inr filled
    · split at done
      · rename_i blank
        have fresh : l.emitted = [] := by
          rcases recorded with ⟨_,_,fresh⟩ | filled
          · exact fresh
          · rw [blank,Table.records,writeRecords_cons] at filled
            exact absurd (List.append_eq_nil_iff.mp filled.symm).1 (record_nonempty _)
        split at done
        · cases done
          rw [fresh]
          exact .inr (List.append_nil _).symm
        · cases done
          cases clean
          exact .inl ⟨rfl,fresh,_,rfl⟩
      · rename_i some
        cases done
        rcases recorded with ⟨blank,_⟩ | filled
        · exact absurd blank some
        · exact .inr filled
  cases opening : newTelemetryCSVWriter opened header l.file with
  | mk writer file =>
    rw [logStep,opening]
    rcases whole opening with ⟨blank,fresh,err,rfl⟩ | filled
    · exact .inl ⟨blank,rfl,fresh⟩
    · dsimp only
      split <;> exact .inr filled

theorem recorded_collect (filled : l.file = writeRecords goWriter (sampleTable formatFloat l.emitted).records) {p : Probe} {now : Int64}
    {flush : Flush} {c : Collecting F} (clean : flush.Clean) :
    Recorded formatFloat (collectAndWrite formatFloat p now flush c l) := by
  unfold collectAndWrite
  cases collected : (collectWindow p c.system.windowStart now c.system).1 with
  | error err => exact .inr filled
  | ok sample =>
    dsimp only
    rw [tick_emits collected]
    refine .inr ?_
    cases written : (writeSample formatFloat c.writer flush c.options sample l.file).1 with
    | ok done =>
      simp only [Option.toList_some,List.map_cons,List.map_nil]
      rw [writeSample,put_ok written,table_append,writeRecords_append,List.map_singleton,writeRecords_single,filled]
    | error err =>
      simp only [Option.toList_none,List.map_nil,List.append_nil]
      rw [writeSample,put_error clean written,filled]

theorem recorded_step {event : LogEvent F} (recorded : Recorded formatFloat l) (clean : event.Clean) :
    Recorded formatFloat (logStep formatFloat l event) := by
  cases event with
  | start o s opened header baseline => exact recorded_start recorded clean
  | activity a =>
    rcases recorded with ⟨blank,idle,nothing⟩ | filled
    · refine .inl ⟨blank,?_,nothing⟩
      rw [logStep,idle]
      rfl
    · exact .inr filled
  | tick now p flush =>
    rw [logStep]
    split
    · exact recorded
    · rename_i c collecting
      rcases recorded with ⟨_,idle,_⟩ | filled
      · cases idle.symm.trans collecting
      · exact recorded_collect filled clean
  | stop =>
    rcases recorded with ⟨blank,_,nothing⟩ | filled
    · exact .inl ⟨blank,rfl,nothing⟩
    · exact .inr filled

theorem recorded_run {events : List (LogEvent F)} (clean : ∀ event ∈ events, event.Clean) (recorded : Recorded formatFloat l) :
    Recorded formatFloat (events.foldl (logStep formatFloat) l) := by
  induction events generalizing l with
  | nil => exact recorded
  | cons event later ih =>
    exact ih (fun other member => clean other (List.mem_cons_of_mem _ member))
      (recorded_step recorded (clean event List.mem_cons_self))

theorem grows_step (event : LogEvent F) : l.file <+: (logStep formatFloat l event).file := by
  cases event with
  | start o s opened header baseline =>
    have grown : l.file <+: (newTelemetryCSVWriter opened header l.file).2 := by
      unfold newTelemetryCSVWriter
      split
      · exact List.prefix_refl _
      · split
        · rename_i blank
          rw [blank]
          exact List.nil_prefix
        · exact List.prefix_refl _
    rw [logStep]
    dsimp only
    split <;> exact grown
  | activity a => exact List.prefix_refl _
  | tick now p flush =>
    rw [logStep]
    split
    · exact List.prefix_refl _
    · unfold collectAndWrite
      split
      · exact List.prefix_refl _
      · unfold writeSample TelemetryCSVWriter.put
        dsimp only
        split
        · exact List.prefix_refl _
        · exact List.prefix_append _ _
        · exact List.prefix_append _ _
  | stop => exact List.prefix_refl _

theorem grows_run (events : List (LogEvent F)) : l.file <+: (events.foldl (logStep formatFloat) l).file := by
  induction events generalizing l with
  | nil => exact List.prefix_refl _
  | cons event later ih => exact (grows_step event).trans ih

def run (formatFloat : F → String) (events : List (LogEvent F)) : Log F := events.foldl (logStep formatFloat) .start

def Short (formatFloat : F → String) (samples : List (Options F × TelemetrySample)) : Prop :=
  ∀ sample ∈ samples, ∀ field ∈ csvRecord formatFloat sample.1 sample.2, field.length ≤ fieldLimit

theorem table_short {samples : List (Options F × TelemetrySample)} (short : Short formatFloat samples) :
    (sampleTable formatFloat samples).Writable goWriter fieldLimit := by
  have names : ∀ field ∈ telemetryCSVHeader, field.length ≤ 25 := by decide +kernel
  refine ⟨fun one => (by cases one),fun r member field listed => ?_⟩
  rcases List.mem_cons.mp member with rfl | row
  · obtain ⟨name,known,rfl⟩ := List.mem_map.mp listed
    have low := names name known
    rw [String.length_toList]
    exact Nat.le_trans low (by decide)
  · obtain ⟨sample,emitted,rfl⟩ := List.mem_map.mp row
    obtain ⟨text,known,rfl⟩ := List.mem_map.mp listed
    rw [String.length_toList]
    exact short sample emitted text known

-- The samples of any number of collector processes are what the dataset scripts read,
-- as long as no write is cut short, and stay the first rows of the file.
theorem log_readable {events : List (LogEvent F)} (clean : ∀ event ∈ events, event.Clean)
    (short : Short formatFloat (run formatFloat events).emitted) :
    readDicts fieldLimit (run formatFloat events).file = .ok (sampleTable formatFloat (run formatFloat events).emitted).dicts ∧
      ∀ later : List (LogEvent F), (run formatFloat events).emitted ≠ [] → ∃ more,
        (read fieldLimit (run formatFloat (events ++ later)).file).1 =
          (sampleTable formatFloat (run formatFloat events).emitted).records ++ more := by
  have recorded : Recorded formatFloat (run formatFloat events) := recorded_run clean (.inl ⟨rfl,rfl,rfl⟩)
  constructor
  · rcases recorded with ⟨blank,_,fresh⟩ | filled
    · rw [blank,fresh]
      rfl
    · rw [filled]
      exact readDicts_table (table_short short)
  · intro later emitted
    rcases recorded with ⟨_,_,fresh⟩ | filled
    · exact absurd fresh emitted
    · obtain ⟨rest,grown⟩ := grows_run (l := run formatFloat events) later
      rw [run,List.foldl_append,← run,← grown,filled,read_records goWriter (table_writable (table_short short))]
      exact ⟨_,rfl⟩

end Log

section Diary

def shopOptions : Options Unit := ⟨(),"phase6-remote-low-backend, \"churn\"","worker-1","default","shop","native",300,10⟩

def seconds : Unit → String := fun _ => "10.000"

def diary : List (LogEvent Unit) :=
  [.start shopOptions (begun collector (fun _ => 0) .empty 0) (.ok ()) .whole (.ok ()),.activity (.count .newConn),
    .tick 1000 probe .whole,.tick 2000 probe (.short 0 "no space left on device"),.tick 3000 probe .whole,.stop,
    .start shopOptions (begun collector (fun _ => 5) .empty 3000) (.ok ()) .whole (.ok ()),.tick 4000 probe .whole]

theorem diary_readable : (run seconds diary).emitted.length = 2 ∧
    readDicts fieldLimit (run seconds diary).file = .ok (sampleTable seconds (run seconds diary).emitted).dicts := by
  refine ⟨by decide +kernel,(log_readable ?_ ?_).1⟩
  · simp [diary,LogEvent.Clean,Flush.Clean]
  · unfold Short
    decide +kernel

end Diary
end Aipr.Telemetry
