import Aipr.DesiredEntries
import Aipr.TelemetryWindow
import Aipr.Transition

namespace Aipr.BackendDelta
open Syncer Telemetry Transition

def firstTCPNodePort (service : Option Service) : Int32 :=
  match service with
  | none => 0
  | some service =>
    match service.ports.find? fun port => port.nodePort ≠ 0 ∧ (port.protocol = "" ∨ port.protocol = "TCP") with
    | some port => port.nodePort
    | none => 0

structure Controller where
  telemetrySel : Option ServiceSelector
  services : List Service
  nodes : List Node
  appliedEntries : Entries
  nodeName : String

def Controller.matching (c : Controller) (sel : ServiceSelector) : List NodePortEntry :=
  ((c.appliedEntries.entries.map Sigma.snd).filter fun entry => entry.id.nameSpace = sel.nameSpace ∧ entry.id.name = sel.name)
    |>.insertionSort fun a b => a.id.nodePort ≤ b.id.nodePort

def chooseEntry (entries : List NodePortEntry) (serviceNodePort : Int32) : NodePortEntry :=
  let chosen := if serviceNodePort ≠ 0 then (entries.find? fun e => e.id.nodePort = serviceNodePort).getD default else default
  if chosen.id.nodePort = 0 then entries.head?.getD chosen else chosen

def Controller.nodeInternalIP (c : Controller) : String :=
  match c.nodes.find? fun node => node.name = c.nodeName with
  | none => ""
  | some node =>
    match node.addresses.find? fun address => address.type = "InternalIP" ∧ isIPv4 address.address with
    | some address => address.address
    | none => ""

def Controller.currentTelemetryTargetState (c : Controller) : TelemetryTargetState :=
  match c.telemetrySel with
  | none => ⟨"",0,0,0,0⟩
  | some sel =>
    let svc := c.services.find? fun service => service.nameSpace = sel.nameSpace ∧ service.name = sel.name
    let serviceNodePort := firstTCPNodePort svc
    let chosen := chooseEntry (c.matching sel) serviceNodePort
    let state : TelemetryTargetState :=
      if chosen.id.nodePort ≠ 0 then
        let here := chosen.backends.countP fun item => item.nodeIP = chosen.nodeIP
        ⟨chosen.nodeIP,chosen.id.nodePort.toInt,chosen.backends.length,here,chosen.backends.length - here⟩
      else ⟨"",serviceNodePort.toInt,0,0,0⟩
    if state.nodeIP = "" ∧ c.nodeName ≠ "" then {state with nodeIP := c.nodeInternalIP} else state

def Controller.backendTotal (c : Controller) : Nat := c.currentTelemetryTargetState.backendTotal

inductive Event where
  | activity (a : Activity)
  | changed (c : Controller)
  | tick (now : Int64) (p : Probe)

-- Beside the system, the backend total at the preceding emitted sample or, before
-- the first one, when the baseline was captured.
structure Watch where
  controller : Controller
  system : System
  last : Nat

def Watch.total (w : Watch) : Nat := w.controller.backendTotal

def Watch.sees (w : Watch) (p : Probe) : Probe := {p with target := w.controller.currentTelemetryTargetState}

def Watch.collects (w : Watch) (now : Int64) (p : Probe) : Option TelemetrySample × System :=
  Telemetry.tick (w.sees p) now w.system

def step (w : Watch) : Event → Watch
  | .activity a => {w with system := w.system.happens a}
  | .changed c => {w with controller := c}
  | .tick now p =>
    {w with system := (w.collects now p).2,
            last := match (w.collects now p).1 with
              | some sample => sample.target.backendTotal
              | none => w.last}

def begun (c : Controller) (labeler : TelemetryLabeler) (stats : StatsSnapshot) (noted : TelemetryWindowSummary)
    (now : Int64) : Watch :=
  ⟨c,Telemetry.begun labeler stats noted now,c.backendTotal⟩

def Exact (w : Watch) : Event → Prop
  | .tick now p => ∀ sample, (w.collects now p).1 = some sample →
      sample.backendTotalDelta = (sample.target.backendTotal : Int) - (w.last : Int)
  | _ => True

def Still (w : Watch) : Event → Prop
  | .tick now p => ∀ sample, (w.collects now p).1 = some sample → sample.backendTotalDelta = 0
  | _ => True

def Collected (l : TelemetryLabeler) (p : Probe) : Prop :=
  p.stats = .ok () ∧ (∃ ct, p.ctCount = .ok ct) ∧ (∃ fwd, p.fwdCount = .ok fwd) ∧
    (l.eventsFile = "" ∨ ∃ events, p.events = .ok events)

def Dropped (l : TelemetryLabeler) (p : Probe) : Prop := Collected l p ∧ p.written ≠ .ok ()

-- A sample may be dropped only where the backend count has not changed.
def Harmless (w : Watch) : Event → Prop
  | .tick _ p => Dropped w.system.collector.labeler p → w.total = w.last
  | _ => True

section Tick
variable {l : TelemetryLabeler} {p : Probe} {s : System}

theorem label_given (start stop : Int64) : (∃ label, labelWindow l p.events start stop = .ok label) ↔
    l.eventsFile = "" ∨ ∃ events, p.events = .ok events := by
  unfold labelWindow
  split
  · rename_i unnamed
    exact iff_of_true ⟨_,rfl⟩ (.inl unnamed)
  · rename_i named
    cases p.events with
    | error err => exact iff_of_false (fun ⟨_,given⟩ => by cases given) fun read => read.elim named fun ⟨_,same⟩ => by cases same
    | ok events => exact iff_of_true ⟨_,rfl⟩ (.inr ⟨events,rfl⟩)

-- What a tick with the baseline does to the backend total: a collection that
-- comes off carries it over, whether or not its sample is written.
inductive Carries (p : Probe) (s : System) : Option TelemetrySample → System → Prop where
  | failed (missed : ¬ Collected s.collector.labeler p) (after : System)
      (kept : after.collector.previousBackend = s.collector.previousBackend)
      (captured : after.collector.baselineCaptured = true) :
      Carries p s none after
  | dropped (collected : Collected s.collector.labeler p) (unwritten : p.written ≠ .ok ()) (after : System)
      (moved : after.collector.previousBackend = p.target.backendTotal)
      (captured : after.collector.baselineCaptured = true) :
      Carries p s none after
  | emitted (collected : Collected s.collector.labeler p) (written : p.written = .ok ()) (after : System)
      (moved : after.collector.previousBackend = p.target.backendTotal)
      (captured : after.collector.baselineCaptured = true)
      (sample : TelemetrySample) (target : sample.target = p.target)
      (delta : sample.backendTotalDelta = p.target.backendTotal - s.collector.previousBackend) :
      Carries p s (some sample) after

theorem tick_carries (p : Probe) (now : Int64) (captured : s.collector.baselineCaptured = true) :
    Carries p s (Telemetry.tick p now s).1 (Telemetry.tick p now s).2 := by
  unfold Telemetry.tick collectWindow
  rw [if_pos captured]
  cases stats : p.stats with
  | error err => exact .failed (fun collected => by cases stats.symm.trans collected.1) _ rfl captured
  | ok =>
    cases ct : p.ctCount with
    | error err => exact .failed (fun ⟨_,⟨_,counted⟩,_⟩ => by cases ct.symm.trans counted) _ rfl captured
    | ok ctCount =>
      cases fwd : p.fwdCount with
      | error err => exact .failed (fun ⟨_,_,⟨_,counted⟩,_⟩ => by cases fwd.symm.trans counted) _ rfl captured
      | ok fwdCount =>
        dsimp only
        cases labelled : labelWindow s.collector.labeler p.events s.windowStart now with
        | error err =>
          refine .failed (fun ⟨_,_,_,read⟩ => ?_) _ rfl captured
          obtain ⟨label,given⟩ := (label_given s.windowStart now).mpr read
          cases labelled.symm.trans given
        | ok label =>
          have collected : Collected s.collector.labeler p :=
            ⟨stats,⟨ctCount,ct⟩,⟨fwdCount,fwd⟩,(label_given _ _).mp ⟨label,labelled⟩⟩
          cases written : p.written with
          | error err =>
            refine .dropped collected (fun same => ?_) _ rfl captured
            cases written.symm.trans same
          | ok =>
            let collector := {s.collector with previousStats := s.stats, previousBackend := p.target.backendTotal}
            exact .emitted collected written ⟨s.stats,.empty,collector,now⟩ rfl captured
              ⟨s.windowStart,now,s.stats.diff s.collector.previousStats,ctCount,fwdCount,s.accumulator,p.target,
                p.target.backendTotal - s.collector.previousBackend,label⟩ rfl rfl

end Tick
section Runs
variable {w : Watch}

structure Abreast (w : Watch) : Prop where
  captured : w.system.collector.baselineCaptured = true
  even : w.system.collector.previousBackend = w.last

theorem collects_carries (captured : w.system.collector.baselineCaptured = true) (now : Int64) (p : Probe) :
    Carries (w.sees p) w.system (w.collects now p).1 (w.collects now p).2 := tick_carries (w.sees p) now captured

theorem abreast_exact (w : Watch) (e : Event) (abreast : Abreast w) : Exact w e := by
  cases e with
  | tick now p =>
    intro sample made
    have carries := collects_carries abreast.captured now p
    rw [made] at carries
    generalize (w.collects now p).2 = after at carries
    cases carries with
    | emitted _ _ _ _ _ _ target delta => rw [delta,target,abreast.even]
  | _ => trivial

theorem captured_step (w : Watch) (e : Event) (captured : w.system.collector.baselineCaptured = true) :
    (step w e).system.collector.baselineCaptured = true := by
  cases e with
  | tick now p =>
    have carries := collects_carries captured now p
    change (w.collects now p).2.collector.baselineCaptured = true
    generalize (w.collects now p).1 = made,(w.collects now p).2 = after at carries
    cases carries with
    | failed _ _ _ still => exact still
    | dropped _ _ _ _ still => exact still
    | emitted _ _ _ _ still => exact still
  | _ => exact captured

theorem even_step (w : Watch) (e : Event) (abreast : Abreast w) :
    (step w e).system.collector.previousBackend = (step w e).last ↔ Harmless w e := by
  cases e with
  | tick now p =>
    have carries := collects_carries abreast.captured now p
    unfold step Harmless
    dsimp only
    generalize (w.collects now p).1 = made,(w.collects now p).2 = after at carries
    cases carries with
    | failed missed _ kept => exact iff_of_true (kept.trans abreast.even) fun dropped => absurd dropped.1 missed
    | dropped collected unwritten _ moved =>
      rw [moved]
      constructor
      · intro same _
        exact Int.ofNat.inj same
      · intro same
        exact congrArg Int.ofNat (same ⟨collected,unwritten⟩)
    | emitted _ written _ moved _ _ target =>
      refine iff_of_true ?_ fun dropped => absurd written dropped.2
      dsimp only
      rw [moved,target]
  | _ => exact iff_of_true abreast.even trivial

theorem abreast_step (w : Watch) (e : Event) (abreast : Abreast w) (harmless : Harmless w e) : Abreast (step w e) :=
  ⟨captured_step w e abreast.captured,(even_step w e abreast).mpr harmless⟩

theorem exact_iff_even (captured : w.system.collector.baselineCaptured = true) :
    (∀ now p, Exact w (.tick now p)) ↔ w.system.collector.previousBackend = w.last := by
  constructor
  · intro exact
    let smooth : Probe := ⟨.ok (),.ok (),.ok 0,.ok 0,w.controller.currentTelemetryTargetState,.ok [],.ok ()⟩
    have collected : Collected w.system.collector.labeler (w.sees smooth) := ⟨rfl,⟨0,rfl⟩,⟨0,rfl⟩,.inr ⟨[],rfl⟩⟩
    have told : ∀ sample, (w.collects 0 smooth).1 = some sample →
        sample.backendTotalDelta = (sample.target.backendTotal : Int) - (w.last : Int) := exact 0 smooth
    have carries := collects_carries captured 0 smooth
    generalize (w.collects 0 smooth).1 = made,(w.collects 0 smooth).2 = after at carries told
    cases carries with
    | failed missed => exact absurd collected missed
    | dropped _ unwritten => exact absurd rfl unwritten
    | emitted _ _ _ _ _ sample target delta =>
      have change := told sample rfl
      rw [delta,target] at change
      omega
  · intro even now p
    exact abreast_exact w (.tick now p) ⟨captured,even⟩

theorem steady_step (w : Watch) (e : Event) (abreast : Abreast w) (same : w.total = w.last) :
    Still w e ∧ (step w e).last = w.last := by
  cases e with
  | tick now p =>
    have carries := collects_carries abreast.captured now p
    unfold Still step
    dsimp only
    generalize (w.collects now p).1 = made,(w.collects now p).2 = after at carries
    cases carries with
    | failed => exact ⟨nofun,rfl⟩
    | dropped => exact ⟨nofun,rfl⟩
    | emitted _ _ _ _ _ sample target delta =>
      have found : (w.sees p).target.backendTotal = w.last := same
      refine ⟨?_,(congrArg _ target).trans found⟩
      rintro other ⟨⟩
      rw [delta,found,abreast.even,sub_self]
  | _ => exact ⟨trivial,rfl⟩

end Runs

-- With no backend at the baseline and none of its changes in a dropped sample every
-- sample is right; otherwise some tick in some state reached reports another change.
theorem deltas_right (c : Controller) (labeler : TelemetryLabeler) (stats : StatsSnapshot) (noted : TelemetryWindowSummary)
    (now : Int64) (events : List Event) :
    (c.backendTotal = 0 → Each step Harmless (begun c labeler stats noted now) events →
      Each step Exact (begun c labeler stats noted now) events) ∧
    (c.backendTotal = 0 → Each step (fun w _ => w.total = c.backendTotal) (begun c labeler stats noted now) events →
      Each step Still (begun c labeler stats noted now) events) ∧
    (Along step (fun w => ∀ now p, Exact w (.tick now p)) (begun c labeler stats noted now) events ↔
      c.backendTotal = 0 ∧ Each step Harmless (begun c labeler stats noted now) events) := by
  have abreast : c.backendTotal = 0 → Abreast (begun c labeler stats noted now) :=
    fun zero => ⟨rfl,(congrArg Int.ofNat zero).symm⟩
  have runs : c.backendTotal = 0 →
      (Along step (fun w => ∀ now p, Exact w (.tick now p)) (begun c labeler stats noted now) events ↔
        Each step Harmless (begun c labeler stats noted now) events) :=
    fun zero => along_iff_each (fun w abreast now p => abreast_exact w (.tick now p) abreast) abreast_step
      (fun w e abreast missed exact => missed ((even_step w e abreast).mp
        ((exact_iff_even (captured_step w e abreast.captured)).mp exact)))
      (abreast zero)
  refine ⟨fun zero harmless => ?_,fun zero steady => ?_,?_⟩
  · exact each_of_each (fun w e abreast _ => abreast_exact w e abreast) abreast_step (abreast zero) harmless
  · have harmless : ∀ (w : Watch) (e : Event), w.total = w.last → Harmless w e := by
      intro w e same
      cases e with
      | tick => exact fun _ => same
      | _ => trivial
    have start : Abreast (begun c labeler stats noted now) ∧ (begun c labeler stats noted now).last = c.backendTotal :=
      ⟨abreast zero,rfl⟩
    have kept : ∀ w e, Abreast w ∧ w.last = c.backendTotal → w.total = c.backendTotal →
        Abreast (step w e) ∧ (step w e).last = c.backendTotal := by
      intro w e valid same
      have found := same.trans valid.2.symm
      exact ⟨abreast_step w e valid.1 (harmless w e found),(steady_step w e valid.1 found).2.trans valid.2⟩
    exact each_of_each (fun w e valid same => (steady_step w e valid.1 (same.trans valid.2.symm)).1) kept start steady
  · constructor
    · intro exact
      have even : (0 : Int) = c.backendTotal := (exact_iff_even rfl).mp (along_start exact)
      have zero : c.backendTotal = 0 := (Int.ofNat.inj even).symm
      exact ⟨zero,(runs zero).mp exact⟩
    · intro ⟨zero,harmless⟩
      exact (runs zero).mpr harmless

section Examples

def probe : Probe := ⟨.ok (),.ok (),.ok 3,.ok 3,⟨"",0,0,0,0⟩,.ok [],.ok ()⟩

def shopEntry (count : Nat) : NodePortEntry :=
  ⟨⟨"default","shop",30080⟩,"192.168.56.10","192.168.56.10",List.replicate count ⟨"10.244.1.5",8080,"192.168.56.11"⟩⟩

def shopApplied (count : Nat) : Controller :=
  ⟨some ⟨"default","shop"⟩,[⟨"default","shop","NodePort","Cluster",[⟨"http","TCP",80,.int 8080,30080⟩]⟩],[],
    AList.singleton (shopEntry count).id (shopEntry count),"worker1"⟩

def scaledUp : List Event := [.tick 1000 probe,.changed (shopApplied 2),.tick 2000 probe,.tick 3000 {probe with written := .error "disk full"}]

theorem scaledUp_right : Each step Exact (begun (shopApplied 0) collector (fun _ => 0) .empty 0) scaledUp ∧
    Along step (fun w => ∀ now p, Exact w (.tick now p)) (begun (shopApplied 0) collector (fun _ => 0) .empty 0) scaledUp := by
  have none : (shopApplied 0).backendTotal = 0 := by decide
  have harmless : Each step Harmless (begun (shopApplied 0) collector (fun _ => 0) .empty 0) scaledUp := by
    exact ⟨fun _ => by decide,trivial,fun dropped => absurd rfl dropped.2,fun _ => by decide,trivial⟩
  obtain ⟨right,_,always⟩ := deltas_right (shopApplied 0) collector (fun _ => 0) .empty 0 scaledUp
  exact ⟨right none harmless,always.mpr ⟨none,harmless⟩⟩

-- Nothing ever changes, and the first sample reports all backends as new.
theorem first_sample_counts_all : ¬ ∀ (c : Controller) (labeler : TelemetryLabeler) (stats : StatsSnapshot)
    (noted : TelemetryWindowSummary) (now : Int64) (events : List Event),
    Each step Exact (begun c labeler stats noted now) events ∧
      (Each step (fun w _ => w.total = c.backendTotal) (begun c labeler stats noted now) events →
        Each step Still (begun c labeler stats noted now) events) := by
  intro always
  obtain ⟨⟨exact,_⟩,_⟩ := always (shopApplied 2) collector (fun _ => 0) .empty 0 [.tick 1000 probe]
  have told := exact _ rfl
  revert told
  decide

end Examples
end Aipr.BackendDelta
