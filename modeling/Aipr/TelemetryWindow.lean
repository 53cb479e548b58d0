import Aipr.ConntrackGC
import Aipr.TelemetryLabeler

namespace Aipr.Telemetry
open NodeportTc

structure TelemetryWindowSummary where
  serviceEventSeen : Nat
  sliceEventSeen : Nat
  nodeEventSeen : Nat
  syncReconcileCount : Nat
  syncUpsertedEntries : Nat
  syncRemovedEntries : Nat
  gcRunsInWindow : Nat
  gcDeletedCT : Nat
  gcDeletedFwdCT : Nat
deriving DecidableEq, Repr

def TelemetryWindowSummary.empty : TelemetryWindowSummary := ⟨0,0,0,0,0,0,0,0,0⟩

-- The datapath counts, the controller notes events, reconciles and collections.
inductive Activity where
  | count (index : StatsIndex)
  | serviceEvent
  | sliceEvent
  | nodeEvent
  | reconcile (upserted removed : Nat)
  | gc (result : Syncer.ConntrackGCResult)
deriving DecidableEq

def TelemetryWindowSummary.note (state : TelemetryWindowSummary) : Activity → TelemetryWindowSummary
  | .count _ => state
  | .serviceEvent => {state with serviceEventSeen := 1}
  | .sliceEvent => {state with sliceEventSeen := 1}
  | .nodeEvent => {state with nodeEventSeen := 1}
  | .reconcile upserted removed =>
    {state with syncReconcileCount := state.syncReconcileCount + 1,
                syncUpsertedEntries := state.syncUpsertedEntries + upserted,
                syncRemovedEntries := state.syncRemovedEntries + removed}
  | .gc result =>
    {state with gcRunsInWindow := state.gcRunsInWindow + 1,
                gcDeletedCT := state.gcDeletedCT + result.deletedCT,
                gcDeletedFwdCT := state.gcDeletedFwdCT + result.deletedFwd}

abbrev StatsSnapshot := StatsIndex → Nat

def StatsSnapshot.diff (s previous : StatsSnapshot) : StatsSnapshot := fun index =>
  if s index ≥ previous index then s index - previous index else s index

structure TelemetryCollector where
  labeler : TelemetryLabeler
  previousStats : StatsSnapshot
  previousBackend : Int
  baselineCaptured : Bool

structure TelemetryTargetState where
  nodeIP : String
  serviceNodePort : Int
  backendTotal : Nat
  backendLocal : Nat
  backendRemote : Nat

-- The fields that are copied from the options are left out.
structure TelemetrySample where
  windowStartUnixMS : Int64
  windowEndUnixMS : Int64
  delta : StatsSnapshot
  ctActiveCount : Nat
  fwdCTActiveCount : Nat
  summary : TelemetryWindowSummary
  target : TelemetryTargetState
  backendTotalDelta : Int
  label : TelemetryWindowLabel

structure Probe where
  baseline : Except String Unit
  stats : Except String Unit
  ctCount : Except String Nat
  fwdCount : Except String Nat
  target : TelemetryTargetState
  events : Except String (List TelemetryEventManifest)
  written : Except String Unit

structure System where
  stats : StatsSnapshot
  accumulator : TelemetryWindowSummary
  collector : TelemetryCollector
  windowStart : Int64

def captureBaseline (p : Probe) (s : System) : Except String System := do
  p.baseline
  return {s with collector := {s.collector with previousStats := s.stats, baselineCaptured := true}}

-- A failing step leaves what the steps before it have carried over.
def collectWindow (p : Probe) (start stop : Int64) (s : System) : Except String TelemetrySample × System :=
  match if s.collector.baselineCaptured then .ok s else captureBaseline p s with
  | .error err => (.error err,s)
  | .ok s =>
    match p.stats with
    | .error err => (.error err,s)
    | .ok () =>
      let delta := s.stats.diff s.collector.previousStats
      let s := {s with collector := {s.collector with previousStats := s.stats}}
      match p.ctCount,p.fwdCount with
      | .error err,_ => (.error err,s)
      | .ok _,.error err => (.error err,s)
      | .ok ctCount,.ok fwdCount =>
        let windowSummary := s.accumulator
        let s := {s with accumulator := .empty}
        match labelWindow s.collector.labeler p.events start stop with
        | .error err => (.error err,s)
        | .ok label =>
          let backendDelta := p.target.backendTotal - s.collector.previousBackend
          let s := {s with collector := {s.collector with previousBackend := p.target.backendTotal}}
          (.ok ⟨start,stop,delta,ctCount,fwdCount,windowSummary,p.target,backendDelta,label⟩,s)

-- The window moves on in any case.
def tick (p : Probe) (now : Int64) (s : System) : Option TelemetrySample × System :=
  match collectWindow p s.windowStart now s with
  | (.error _,s) => (none,{s with windowStart := now})
  | (.ok sample,s) =>
    match p.written with
    | .error _ => (none,{s with windowStart := now})
    | .ok () => (some sample,{s with windowStart := now})

def System.happens (s : System) (a : Activity) : System :=
  {s with stats := fun index => if a = .count index then s.stats index + 1 else s.stats index,
          accumulator := s.accumulator.note a}

-- The loop begins, with the baseline read and whatever has been noted before.
def begun (labeler : TelemetryLabeler) (stats : StatsSnapshot) (noted : TelemetryWindowSummary) (now : Int64) : System :=
  ⟨stats,noted,⟨labeler,stats,0,true⟩,now⟩

section Examples

def probe : Probe := ⟨.ok (),.ok (),.ok 3,.ok 3,⟨"192.168.56.10",30080,1,0,1⟩,.ok [],.ok ()⟩

end Examples
end Aipr.Telemetry
