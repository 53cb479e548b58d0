import Mathlib.Algebra.BigOperators.Fin
import Aipr.TelemetryWindow

namespace Aipr.TelemetryLoop
open NodeportTc Telemetry

abbrev Counters (cpus : Nat) := Fin cpus → StatsIndex → Nat

def Counters.bump {cpus : Nat} (counters : Counters cpus) (cpu : Fin cpus) (index : StatsIndex) : Counters cpus :=
  fun c i => counters c i + if c = cpu ∧ i = index then 1 else 0

-- One Lookup adds up the CPUs. A key the table does not have reads as 0, so a dry
-- run is a table without keys.
def Counters.lookup {cpus : Nat} (counters : Counters cpus) (present : StatsIndex → Bool) (index : StatsIndex) : Nat :=
  if present index then ∑ cpu, counters cpu index else 0

def Counters.happens {cpus : Nat} (counters : Counters cpus) (cpu : Fin cpus) : Activity → Counters cpus
  | .count index => counters.bump cpu index
  | _ => counters

def statsIndices : List StatsIndex :=
  [.tcpPackets,.nodeportHit,.backendSelected,.backendLookupMiss,.rrUpdate,.snatInstall,.requestRewrite,.revnatHit,
   .ctLookupMiss,.responseRewrite,.sameNodeSkip,.fwdCtHit,.newConn,.mapMiss,.rewriteFail,.redirectOk,.redirectFail,
   .fallbackPass]

-- What a snapshot is read for: captureBaseline before the loop or, where that has
-- not been done, at the start of collectWindow, and then the window itself.
inductive Purpose where
  | baseline
  | lateBaseline (now : Int64)
  | window (now : Int64)
deriving DecidableEq

def Purpose.captures : Purpose → Bool
  | .window _ => false
  | _ => true

structure Reading where
  purpose : Purpose
  pending : List StatsIndex
  snapshot : StatsSnapshot

def Reading.begin (purpose : Purpose) : Reading := ⟨purpose,statsIndices,fun _ => 0⟩

inductive Phase where
  | idle
  | reading (reading : Reading)
  | countCT (now : Int64) (delta : StatsSnapshot)
  | countFwd (now : Int64) (delta : StatsSnapshot) (ctCount : Nat)
  | consume (now : Int64) (delta : StatsSnapshot) (ctCount fwdCount : Nat)
  | target (now : Int64) (delta : StatsSnapshot) (ctCount fwdCount : Nat) (summary : TelemetryWindowSummary)
  | label (now : Int64) (delta : StatsSnapshot) (ctCount fwdCount : Nat) (summary : TelemetryWindowSummary)
      (target : TelemetryTargetState)
  | write (sample : TelemetrySample)
  | ended

-- `ticker` is the tick that waits in the channel of the ticker.
structure Loop (cpus : Nat) where
  counters : Counters cpus
  accumulator : TelemetryWindowSummary
  collector : TelemetryCollector
  windowStart : Int64
  ticker : Option Int64
  phase : Phase

inductive Input (cpus : Nat) where
  | activity (cpu : Fin cpus) (a : Activity)
  | start
  | fires (now : Int64)
  | receive
  | lookup (outcome : Except String Unit)
  | finish (clock : Int64)
  | counted (outcome : Except String Nat)
  | consume
  | target (state : TelemetryTargetState)
  | label (events : Except String (List TelemetryEventManifest))
  | written (outcome : Except String Unit)

inductive Mark where
  | none
  | fired
  | received (now : Int64)
  | looked (purpose : Purpose) (index : StatsIndex)
  | complete (purpose : Purpose) (snapshot : StatsSnapshot)
  | consumed
  | emitted (sample : TelemetrySample)

def Mark.sample : Mark → Option TelemetrySample
  | .emitted sample => some sample
  | _ => .none

-- The ticker is there from the end of captureBaseline on.
def Phase.ticking : Phase → Bool
  | .reading ⟨.baseline,_,_⟩ => false
  | .ended => false
  | _ => true

section Steps
variable {cpus : Nat} (present : StatsIndex → Bool) (l : Loop cpus)

def Loop.happens (cpu : Fin cpus) (a : Activity) : Loop cpus :=
  {l with counters := l.counters.happens cpu a, accumulator := l.accumulator.note a}

def Loop.skip (now : Int64) : Loop cpus := {l with phase := .idle, windowStart := now}

def Loop.giveUp : Purpose → Loop cpus
  | .baseline => {l with phase := .ended}
  | .lateBaseline now => l.skip now
  | .window now => l.skip now

def Loop.looks (purpose : Purpose) (index : StatsIndex) (rest : List StatsIndex) (snapshot : StatsSnapshot) : Loop cpus :=
  {l with phase := .reading ⟨purpose,rest,fun i => if i = index then l.counters.lookup present i else snapshot i⟩}

def Loop.captured (snapshot : StatsSnapshot) : Loop cpus :=
  {l with collector := {l.collector with previousStats := snapshot, baselineCaptured := true}}

def Loop.finished (clock : Int64) (snapshot : StatsSnapshot) : Purpose → Loop cpus
  | .baseline => {l.captured snapshot with phase := .idle, windowStart := clock}
  | .lateBaseline now => {l.captured snapshot with phase := .reading (.begin (.window now))}
  | .window now =>
    {l with collector := {l.collector with previousStats := snapshot},
            phase := .countCT now (snapshot.diff l.collector.previousStats)}

def Loop.sampleOf (now : Int64) (delta : StatsSnapshot) (ctCount fwdCount : Nat) (summary : TelemetryWindowSummary)
    (target : TelemetryTargetState) (label : TelemetryWindowLabel) : TelemetrySample :=
  ⟨l.windowStart,now,delta,ctCount,fwdCount,summary,target,target.backendTotal - l.collector.previousBackend,label⟩

-- An input that is not at hand changes nothing.
def Loop.advance : Input cpus → Loop cpus × Mark
  | .activity cpu a => (l.happens cpu a,.none)
  | .start =>
    match l.phase with
    | .idle => (if l.collector.baselineCaptured then l else {l with phase := .reading (.begin .baseline)},.none)
    | .ended => (if l.collector.baselineCaptured then l else {l with phase := .reading (.begin .baseline)},.none)
    | _ => (l,.none)
  | .fires now => if l.ticker = none ∧ l.phase.ticking then ({l with ticker := some now},.fired) else (l,.none)
  | .receive =>
    match l.phase,l.ticker with
    | .idle,some now =>
      ({l with ticker := none,
               phase := .reading (.begin (if l.collector.baselineCaptured then .window now else .lateBaseline now))},.received now)
    | _,_ => (l,.none)
  | .lookup outcome =>
    match l.phase,outcome with
    | .reading ⟨purpose,_ :: _,_⟩,.error _ => (l.giveUp purpose,.none)
    | .reading ⟨purpose,index :: rest,snapshot⟩,.ok () => (l.looks present purpose index rest snapshot,.looked purpose index)
    | _,_ => (l,.none)
  | .finish clock =>
    match l.phase with
    | .reading ⟨purpose,[],snapshot⟩ => (l.finished clock snapshot purpose,.complete purpose snapshot)
    | _ => (l,.none)
  | .counted outcome =>
    match l.phase,outcome with
    | .countCT now _,.error _ => (l.skip now,.none)
    | .countFwd now _ _,.error _ => (l.skip now,.none)
    | .countCT now delta,.ok ctCount => ({l with phase := .countFwd now delta ctCount},.none)
    | .countFwd now delta ctCount,.ok fwdCount => ({l with phase := .consume now delta ctCount fwdCount},.none)
    | _,_ => (l,.none)
  | .consume =>
    match l.phase with
    | .consume now delta ctCount fwdCount =>
      ({l with accumulator := .empty, phase := .target now delta ctCount fwdCount l.accumulator},.consumed)
    | _ => (l,.none)
  | .target state =>
    match l.phase with
    | .target now delta ctCount fwdCount summary => ({l with phase := .label now delta ctCount fwdCount summary state},.none)
    | _ => (l,.none)
  | .label events =>
    match l.phase with
    | .label now delta ctCount fwdCount summary target =>
      match labelWindow l.collector.labeler events l.windowStart now with
      | .error _ => (l.skip now,.none)
      | .ok label =>
        ({l with collector := {l.collector with previousBackend := target.backendTotal},
                 phase := .write (l.sampleOf now delta ctCount fwdCount summary target label)},.none)
    | _ => (l,.none)
  | .written outcome =>
    match l.phase with
    | .write sample => (l.skip sample.windowEndUnixMS,if outcome = .ok () then .emitted sample else .none)
    | _ => (l,.none)

end Steps

inductive Moves {cpus : Nat} (present : StatsIndex → Bool) (l : Loop cpus) : Input cpus → Loop cpus → Mark → Prop where
  | stays (i : Input cpus) (other : ∀ cpu a, i ≠ .activity cpu a) : Moves present l i l .none
  | activity (cpu : Fin cpus) (a : Activity) : Moves present l (.activity cpu a) (l.happens cpu a) .none
  | start (here : l.phase = .idle ∨ l.phase = .ended) (fresh : l.collector.baselineCaptured = false) :
      Moves present l .start {l with phase := .reading (.begin .baseline)} .none
  | fires (now : Int64) (free : l.ticker = none) (ticking : l.phase.ticking = true) :
      Moves present l (.fires now) {l with ticker := some now} .fired
  | receive (here : l.phase = .idle) (due : l.ticker = some now) :
      Moves present l .receive {l with
        ticker := none,
        phase := .reading (.begin (if l.collector.baselineCaptured then .window now else .lateBaseline now))} (.received now)
  | giveUp (err : String) (here : l.phase = .reading ⟨purpose,index :: rest,snapshot⟩) :
      Moves present l (.lookup (.error err)) (l.giveUp purpose) .none
  | looks (here : l.phase = .reading ⟨purpose,index :: rest,snapshot⟩) :
      Moves present l (.lookup (.ok ())) (l.looks present purpose index rest snapshot) (.looked purpose index)
  | finish (clock : Int64) (here : l.phase = .reading ⟨purpose,[],snapshot⟩) :
      Moves present l (.finish clock) (l.finished clock snapshot purpose) (.complete purpose snapshot)
  | uncounted (err : String) (here : l.phase = .countCT now delta ∨ ∃ ctCount, l.phase = .countFwd now delta ctCount) :
      Moves present l (.counted (.error err)) (l.skip now) .none
  | countCT (ctCount : Nat) (here : l.phase = .countCT now delta) :
      Moves present l (.counted (.ok ctCount)) {l with phase := .countFwd now delta ctCount} .none
  | countFwd (fwdCount : Nat) (here : l.phase = .countFwd now delta ctCount) :
      Moves present l (.counted (.ok fwdCount)) {l with phase := .consume now delta ctCount fwdCount} .none
  | consume (here : l.phase = .consume now delta ctCount fwdCount) :
      Moves present l .consume
        {l with accumulator := .empty, phase := .target now delta ctCount fwdCount l.accumulator} .consumed
  | target (state : TelemetryTargetState) (here : l.phase = .target now delta ctCount fwdCount summary) :
      Moves present l (.target state) {l with phase := .label now delta ctCount fwdCount summary state} .none
  | unlabelled (events : Except String (List TelemetryEventManifest))
      (here : l.phase = .label now delta ctCount fwdCount summary state)
      (failed : labelWindow l.collector.labeler events l.windowStart now = .error err) :
      Moves present l (.label events) (l.skip now) .none
  | label (events : Except String (List TelemetryEventManifest))
      (here : l.phase = .label now delta ctCount fwdCount summary state)
      (given : labelWindow l.collector.labeler events l.windowStart now = .ok label) :
      Moves present l (.label events) {l with
        collector := {l.collector with previousBackend := state.backendTotal},
        phase := .write (l.sampleOf now delta ctCount fwdCount summary state label)} .none
  | dropped (err : String) (here : l.phase = .write sample) :
      Moves present l (.written (.error err)) (l.skip sample.windowEndUnixMS) .none
  | written (here : l.phase = .write sample) :
      Moves present l (.written (.ok ())) (l.skip sample.windowEndUnixMS) (.emitted sample)

section Facts
variable {cpus : Nat} {present : StatsIndex → Bool} {l : Loop cpus}

theorem advance_moves (i : Input cpus) : Moves present l i (l.advance present i).1 (l.advance present i).2 := by
  cases i with
  | activity cpu a => exact .activity cpu a
  | start =>
    rw [Loop.advance]
    split
    · rename_i here
      split
      · exact .stays _ fun _ _ => nofun
      · rename_i fresh
        exact .start (.inl here) (Bool.eq_false_iff.mpr fresh)
    · rename_i here
      split
      · exact .stays _ fun _ _ => nofun
      · rename_i fresh
        exact .start (.inr here) (Bool.eq_false_iff.mpr fresh)
    · exact .stays _ fun _ _ => nofun
  | fires now =>
    rw [Loop.advance]
    split
    · rename_i free
      exact .fires now free.1 free.2
    · exact .stays _ fun _ _ => nofun
  | receive =>
    rw [Loop.advance]
    split
    · rename_i here due
      exact .receive here due
    · exact .stays _ fun _ _ => nofun
  | lookup outcome =>
    unfold Loop.advance
    dsimp only
    split
    · rename_i here
      exact .giveUp _ here
    · rename_i here
      exact .looks here
    · exact .stays _ fun _ _ => nofun
  | finish clock =>
    rw [Loop.advance]
    split
    · rename_i here
      exact .finish clock here
    · exact .stays _ fun _ _ => nofun
  | counted outcome =>
    unfold Loop.advance
    dsimp only
    split
    · rename_i here
      exact .uncounted _ (.inl here)
    · rename_i here
      exact .uncounted _ (.inr ⟨_,here⟩)
    · rename_i here
      exact .countCT _ here
    · rename_i here
      exact .countFwd _ here
    · exact .stays _ fun _ _ => nofun
  | consume =>
    rw [Loop.advance]
    split
    · rename_i here
      exact .consume here
    · exact .stays _ fun _ _ => nofun
  | target state =>
    rw [Loop.advance]
    split
    · rename_i here
      exact .target state here
    · exact .stays _ fun _ _ => nofun
  | label events =>
    rw [Loop.advance]
    split
    · rename_i here
      split
      · rename_i failed
        exact .unlabelled events here failed
      · rename_i given
        exact .label events here given
    · exact .stays _ fun _ _ => nofun
  | written outcome =>
    rw [Loop.advance]
    split
    · rename_i here
      cases outcome with
      | error err => exact .dropped err here
      | ok => exact .written here
    · exact .stays _ fun _ _ => nofun

theorem mem_statsIndices (index : StatsIndex) : index ∈ statsIndices := by
  cases index <;> decide

theorem lookup_bump (counters : Counters cpus) (cpu : Fin cpus) (index other : StatsIndex) :
    (counters.bump cpu index).lookup present other =
      counters.lookup present other + if other = index ∧ present index then 1 else 0 := by
  unfold Counters.lookup
  by_cases known : present other
  · rw [if_pos known,if_pos known]
    simp only [Counters.bump,Finset.sum_add_distrib]
    congr 1
    by_cases same : other = index
    · simp [same,same ▸ known]
    · simp [same]
  · have apart : ¬(other = index ∧ present index) := fun both => known (both.1 ▸ both.2)
    rw [if_neg known,if_neg known,if_neg apart]

theorem lookup_happens (counters : Counters cpus) (cpu : Fin cpus) (a : Activity) (index : StatsIndex) :
    (counters.happens cpu a).lookup present index =
      counters.lookup present index + if a = .count index ∧ present index then 1 else 0 := by
  cases a with
  | count other =>
    rw [Counters.happens,lookup_bump]
    by_cases same : index = other
    · simp [same]
    · have apart : Activity.count other ≠ .count index := fun equal => same (Activity.count.inj equal).symm
      simp [same,apart]
  | _ => simp [Counters.happens]

end Facts
section Undisturbed
variable {cpus : Nat} (present : StatsIndex → Bool) (l : Loop cpus)

def Loop.system : System := ⟨l.counters.lookup present,l.accumulator,l.collector,l.windowStart⟩

def Loop.after (inputs : List (Input cpus)) : Loop cpus := inputs.foldl (fun l i => (l.advance present i).1) l

-- A collection that nothing comes between, up to its write.
def collection (now : Int64) (p : Probe) : List (Input cpus) :=
  [.fires now,.receive] ++ statsIndices.map (fun _ => .lookup p.stats) ++
    [.finish now,.counted p.ctCount,.counted p.fwdCount,.consume,.target p.target,.label p.events]

variable {present} {l}

theorem happens_system (cpu : Fin cpus) (a : Activity) (known : ∀ index, a = .count index → present index) :
    (l.happens cpu a).system present = (l.system present).happens a := by
  have counts : (l.counters.happens cpu a).lookup present =
      fun index => if a = .count index then l.counters.lookup present index + 1 else l.counters.lookup present index := by
    funext index
    rw [lookup_happens,if_congr (and_iff_left_of_imp (known index)) rfl rfl]
    split <;> rfl
  unfold Loop.system
  rw [Loop.happens,counts]
  rfl

theorem after_append (earlier later : List (Input cpus)) : l.after present (earlier ++ later) = (l.after present earlier).after present later :=
  List.foldl_append

def ofCollection : Input cpus → Bool
  | .activity _ _ => false
  | .start => false
  | .fires _ => false
  | .receive => false
  | _ => true

theorem idle_stays (idle : l.phase = .idle) {i : Input cpus} (own : ofCollection i = true) : l.advance present i = (l,.none) := by
  cases i with
  | activity | start | fires | receive => cases own
  | lookup | counted =>
    unfold Loop.advance
    dsimp only
    rw [idle]
  | finish | consume | target | label | written => rw [Loop.advance,idle]

theorem idle_after (idle : l.phase = .idle) {inputs : List (Input cpus)} (own : inputs.all ofCollection = true) :
    l.after present inputs = l := by
  induction inputs with
  | nil => rfl
  | cons i rest ih =>
    rw [List.all_cons,Bool.and_eq_true] at own
    rw [Loop.after,List.foldl_cons,idle_stays idle own.1]
    exact ih own.2

theorem looked_all {purpose : Purpose} (pending : List StatsIndex) {snapshot : StatsSnapshot} :
    Loop.after present {l with phase := .reading ⟨purpose,pending,snapshot⟩} (pending.map fun _ => .lookup (.ok ())) =
      {l with phase := .reading ⟨purpose,[],fun i => if i ∈ pending then l.counters.lookup present i else snapshot i⟩} := by
  induction pending generalizing snapshot with
  | nil => simp [Loop.after]
  | cons index rest ih =>
    rw [List.map_cons,Loop.after,List.foldl_cons]
    refine (@ih fun i => if i = index then l.counters.lookup present i else snapshot i).trans ?_
    congr 3
    funext i
    by_cases listed : i ∈ rest
    · simp [listed]
    · by_cases same : i = index
      · simp [same]
      · simp [listed,same]

theorem received_window (idle : l.phase = .idle) (free : l.ticker = none) (captured : l.collector.baselineCaptured = true) (now : Int64) :
    l.after present [.fires now,.receive] = {l with phase := .reading (.begin (.window now))} := by
  obtain ⟨counters,accumulator,collector,windowStart,ticker,phase⟩ := l
  dsimp only at idle free captured
  simp [Loop.after,Loop.advance,Phase.ticking,idle,free,captured]

-- The loop with its snapshot read goes on as the atomic collection does.
theorem rest_ticks (captured : l.collector.baselineCaptured = true) (now : Int64) (p : Probe) (stats : p.stats = .ok ())
    {read : Loop cpus} (snapshot : read = {l with phase := .reading ⟨.window now,[],l.counters.lookup present⟩}) :
    ((read.after present [.finish now,.counted p.ctCount,.counted p.fwdCount,.consume,.target p.target,.label p.events]).advance
        present (.written p.written)).1.system present = (Telemetry.tick p now (l.system present)).2 ∧
      ((read.after present [.finish now,.counted p.ctCount,.counted p.fwdCount,.consume,.target p.target,.label p.events]).advance
        present (.written p.written)).2.sample = (Telemetry.tick p now (l.system present)).1 := by
  have captured' : (l.system present).collector.baselineCaptured = true := captured
  unfold Telemetry.tick collectWindow
  rw [if_pos captured',stats,snapshot]
  dsimp only
  cases p.ctCount with
  | error err => exact ⟨rfl,rfl⟩
  | ok ctCount =>
    cases p.fwdCount with
    | error err => exact ⟨rfl,rfl⟩
    | ok fwdCount =>
      cases labelled : labelWindow l.collector.labeler p.events l.windowStart now with
      | error err => simp [Loop.after,Loop.advance,Loop.finished,Loop.system,Loop.skip,Mark.sample,labelled]
      | ok label =>
        cases p.written with
        | error err => simp [Loop.after,Loop.advance,Loop.finished,Loop.system,Loop.skip,Loop.sampleOf,Mark.sample,labelled]
        | ok => simp [Loop.after,Loop.advance,Loop.finished,Loop.system,Loop.skip,Loop.sampleOf,Mark.sample,labelled]

theorem collection_ticks (idle : l.phase = .idle) (free : l.ticker = none) (captured : l.collector.baselineCaptured = true)
    (now : Int64) (p : Probe) :
    ((l.after present (collection now p)).advance present (.written p.written)).1.system present =
        (Telemetry.tick p now (l.system present)).2 ∧
      ((l.after present (collection now p)).advance present (.written p.written)).2.sample =
        (Telemetry.tick p now (l.system present)).1 := by
  unfold collection
  rw [after_append,after_append,received_window idle free captured]
  cases stats : p.stats with
  | error err =>
    have given : Loop.after present {l with phase := .reading (.begin (.window now))}
        (statsIndices.map fun _ => .lookup (.error err)) = l.skip now :=
      @idle_after _ _ (l.skip now) rfl (statsIndices.tail.map fun _ => .lookup (.error err)) rfl
    have captured' : (l.system present).collector.baselineCaptured = true := captured
    rw [given,idle_after rfl rfl,idle_stays rfl rfl]
    unfold Telemetry.tick collectWindow
    rw [if_pos captured',stats]
    exact ⟨rfl,rfl⟩
  | ok =>
    rw [Reading.begin,looked_all]
    refine rest_ticks captured now p stats ?_
    congr 3
    funext i
    exact if_pos (mem_statsIndices i)

end Undisturbed
end Aipr.TelemetryLoop
