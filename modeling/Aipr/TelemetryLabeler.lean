import Mathlib.Algebra.Group.Nat.Defs
import Mathlib.Algebra.Group.Int.Defs
import Mathlib.Logic.Basic

namespace Aipr.Telemetry

structure TelemetryEventManifest where
  startUnixMS : Int64
  endUnixMS : Int64
  label : String
  target : String
  recoveryTailMS : Int64
deriving DecidableEq, Repr

structure TelemetryWindowLabel where
  label : String
  labelSource : String
  anomalyActive : Nat
  recoveryActive : Nat
deriving DecidableEq, Repr

structure TelemetryLabeler where
  eventsFile : String
  target : String

def rangesOverlap (startA endA startB endB : Int64) : Bool := startA < endB && endA > startB

-- The lines of the manifest; blank ones and those that do not decode are none.
def loadEvents (lines : List (Option TelemetryEventManifest)) : List TelemetryEventManifest :=
  lines.filterMap fun line => line.filter fun event => event.label ≠ "" && !(event.endUnixMS ≤ event.startUnixMS)

def TelemetryWindowLabel.default : TelemetryWindowLabel := ⟨"normal","derived",0,0⟩

def labelEvent (target : String) (windowStart windowEnd : Int64) (event : TelemetryEventManifest) :
    Option TelemetryWindowLabel :=
  if event.target ≠ "" ∧ target ≠ "" ∧ event.target ≠ target then none
  else if rangesOverlap windowStart windowEnd event.startUnixMS event.endUnixMS then
    some ⟨event.label,"event_manifest",1,0⟩
  else
    let recoveryEnd := event.endUnixMS + event.recoveryTailMS
    if event.recoveryTailMS > 0 && rangesOverlap windowStart windowEnd event.endUnixMS recoveryEnd then
      some ⟨event.label,"event_manifest",0,1⟩
    else none

-- `loaded` is what loadEvents returns: the events, or why the file was not read.
def labelWindow (l : TelemetryLabeler) (loaded : Except String (List TelemetryEventManifest))
    (windowStart windowEnd : Int64) : Except String TelemetryWindowLabel :=
  if l.eventsFile = "" then .ok .default
  else do
    let events ← loaded
    return (events.findSome? (labelEvent l.target windowStart windowEnd)).getD .default

def Overlaps (startA endA startB endB : Int) : Prop := ∃ t, startA ≤ t ∧ t < endA ∧ startB ≤ t ∧ t < endB

section Rules
variable (target : String) (windowStart windowEnd : Int64)

def Applies (event : TelemetryEventManifest) : Prop := event.target = "" ∨ target = "" ∨ event.target = target

def Anomaly (event : TelemetryEventManifest) : Prop :=
  Applies target event ∧ Overlaps windowStart.toInt windowEnd.toInt event.startUnixMS.toInt event.endUnixMS.toInt

def Recovery (event : TelemetryEventManifest) : Prop :=
  Applies target event ∧ 0 < event.recoveryTailMS.toInt ∧
    Overlaps windowStart.toInt windowEnd.toInt event.endUnixMS.toInt (event.endUnixMS.toInt + event.recoveryTailMS.toInt)

structure Rules (events : List TelemetryEventManifest) (given : TelemetryWindowLabel) : Prop where
  anomaly : (∃ e ∈ events, Anomaly target windowStart windowEnd e) →
    given.anomalyActive = 1 ∧ given.recoveryActive = 0 ∧
      ∃ e ∈ events, Anomaly target windowStart windowEnd e ∧ given.label = e.label
  recovery : (∀ e ∈ events, ¬ Anomaly target windowStart windowEnd e) →
    (∃ e ∈ events, Recovery target windowStart windowEnd e) →
    given.anomalyActive = 0 ∧ given.recoveryActive = 1 ∧
      ∃ e ∈ events, Recovery target windowStart windowEnd e ∧ given.label = e.label
  normal : (∀ e ∈ events, ¬ Anomaly target windowStart windowEnd e) →
    (∀ e ∈ events, ¬ Recovery target windowStart windowEnd e) →
    given.anomalyActive = 0 ∧ given.recoveryActive = 0 ∧ given.label = "normal"

def Representable (event : TelemetryEventManifest) : Prop :=
  event.endUnixMS.toInt + event.recoveryTailMS.toInt < 2^63

-- A tail that is listed before an anomaly stands behind another one, and without
-- any anomaly some tail that counts ends in time.
structure Orderly (events : List TelemetryEventManifest) : Prop where
  anomaly : ∀ earlier d later, events = earlier ++ d :: later → ¬ Anomaly target windowStart windowEnd d →
    Recovery target windowStart windowEnd d → Representable d →
    (∃ e ∈ later, Anomaly target windowStart windowEnd e) → ∃ e ∈ earlier, Anomaly target windowStart windowEnd e
  recovery : (∀ e ∈ events, ¬ Anomaly target windowStart windowEnd e) →
    (∃ e ∈ events, Recovery target windowStart windowEnd e) →
    ∃ e ∈ events, Recovery target windowStart windowEnd e ∧ Representable e

end Rules

theorem overlaps_iff {startA endA startB endB : Int} (windowA : startA < endA) (windowB : startB < endB) :
    Overlaps startA endA startB endB ↔ startA < endB ∧ startB < endA := by
  constructor
  · rintro ⟨t,lowA,highA,lowB,highB⟩
    omega
  · rintro ⟨left,right⟩
    by_cases first : startA ≤ startB
    · exact ⟨startB,first,right,Int.le_refl _,windowB⟩
    · exact ⟨startA,Int.le_refl _,windowA,by omega,left⟩

theorem rangesOverlap_iff (startA endA startB endB : Int64) :
    rangesOverlap startA endA startB endB = true ↔ startA.toInt < endB.toInt ∧ startB.toInt < endA.toInt := by
  rw [rangesOverlap,Bool.and_eq_true,decide_eq_true_eq,decide_eq_true_eq,gt_iff_lt,Int64.lt_iff_toInt_lt,
    Int64.lt_iff_toInt_lt]

theorem applies_iff (target : String) (event : TelemetryEventManifest) :
    Applies target event ↔ ¬ (event.target ≠ "" ∧ target ≠ "" ∧ event.target ≠ target) := by
  simp only [Applies,ne_eq,not_and_or,not_not]

section Event
variable {target : String} {windowStart windowEnd : Int64} {event : TelemetryEventManifest}

-- A tail whose end wraps around overlaps no window that the event itself does not.
theorem tail_iff (formed : event.startUnixMS < event.endUnixMS) (window : windowStart < windowEnd)
    (outside : ¬ Overlaps windowStart.toInt windowEnd.toInt event.startUnixMS.toInt event.endUnixMS.toInt) :
    (event.recoveryTailMS > 0 ∧
        rangesOverlap windowStart windowEnd event.endUnixMS (event.endUnixMS + event.recoveryTailMS) = true) ↔
      0 < event.recoveryTailMS.toInt ∧ Overlaps windowStart.toInt windowEnd.toInt event.endUnixMS.toInt
        (event.endUnixMS.toInt + event.recoveryTailMS.toInt) ∧ Representable event := by
  rw [Int64.lt_iff_toInt_lt] at formed window
  rw [overlaps_iff window formed] at outside
  rw [rangesOverlap_iff,gt_iff_lt,Int64.lt_iff_toInt_lt,Int64.toInt_add,Representable]
  change (0 < _ ∧ _) ↔ _
  refine and_congr_right fun positive => ?_
  rw [overlaps_iff window (by omega)]
  have low := event.endUnixMS.le_toInt
  have high := event.endUnixMS.toInt_lt
  have tail := event.recoveryTailMS.toInt_lt
  have wrapped := Int.bmod_def (event.endUnixMS.toInt + event.recoveryTailMS.toInt) (2^64)
  omega

inductive Decides (target : String) (windowStart windowEnd : Int64) (event : TelemetryEventManifest) :
    Option TelemetryWindowLabel → Prop where
  | anomaly : Anomaly target windowStart windowEnd event →
      Decides target windowStart windowEnd event (some ⟨event.label,"event_manifest",1,0⟩)
  | recovery : ¬ Anomaly target windowStart windowEnd event → Recovery target windowStart windowEnd event →
      Representable event → Decides target windowStart windowEnd event (some ⟨event.label,"event_manifest",0,1⟩)
  | neither : ¬ Anomaly target windowStart windowEnd event →
      (Recovery target windowStart windowEnd event → ¬ Representable event) →
      Decides target windowStart windowEnd event none

theorem labelEvent_decides (formed : event.startUnixMS < event.endUnixMS) (window : windowStart < windowEnd) :
    Decides target windowStart windowEnd event (labelEvent target windowStart windowEnd event) := by
  have overlap := (rangesOverlap_iff windowStart windowEnd event.startUnixMS event.endUnixMS).trans
    (overlaps_iff (Int64.lt_iff_toInt_lt.mp window) (Int64.lt_iff_toInt_lt.mp formed)).symm
  unfold labelEvent
  split
  · rename_i elsewhere
    have outside : ¬ Applies target event := fun applies => (applies_iff target event).mp applies elsewhere
    exact .neither (fun anomaly => outside anomaly.1) fun recovery => absurd recovery.1 outside
  · rename_i here
    have applies := (applies_iff target event).mpr here
    split
    · rename_i inside
      exact .anomaly ⟨applies,overlap.mp inside⟩
    · rename_i apart
      have outside := mt overlap.mpr apart
      have tail := tail_iff formed window outside
      dsimp only
      split
      · rename_i hit
        rw [Bool.and_eq_true,decide_eq_true_eq,tail] at hit
        exact .recovery (fun anomaly => outside anomaly.2) ⟨applies,hit.1,hit.2.1⟩ hit.2.2
      · rename_i missed
        rw [Bool.and_eq_true,decide_eq_true_eq,tail] at missed
        exact .neither (fun anomaly => outside anomaly.2) fun recovery fits => missed ⟨recovery.2.1,recovery.2.2,fits⟩

end Event

section Manifest
variable {target : String} {windowStart windowEnd : Int64} {events : List TelemetryEventManifest}

theorem undecided_iff (none : ∀ e ∈ events, Decides target windowStart windowEnd e none) :
    Rules target windowStart windowEnd events .default ↔ Orderly target windowStart windowEnd events := by
  have quiet : ∀ e ∈ events, ¬ Anomaly target windowStart windowEnd e := by
    intro e member
    cases none e member
    assumption
  have unfit : ∀ e ∈ events, Recovery target windowStart windowEnd e → ¬ Representable e := by
    intro e member
    cases none e member
    assumption
  constructor
  · intro rules
    constructor
    · rintro earlier d later rfl _ recovery fits _
      exact absurd fits (unfit d (by simp) recovery)
    · intro _ recovery
      have flagged := (rules.recovery quiet recovery).2.1
      cases flagged
  · intro orderly
    refine ⟨?_,?_,fun _ _ => ⟨rfl,rfl,rfl⟩⟩
    · rintro ⟨e,member,anomaly⟩
      exact absurd anomaly (quiet e member)
    · intro _ recovery
      obtain ⟨e,member,recovery,fits⟩ := orderly.recovery quiet recovery
      exact absurd fits (unfit e member recovery)

theorem anomaly_decides {before : List TelemetryEventManifest} (after : List TelemetryEventManifest)
    {first : TelemetryEventManifest}
    (none : ∀ e ∈ before, Decides target windowStart windowEnd e none)
    (anomaly : Anomaly target windowStart windowEnd first) :
    Rules target windowStart windowEnd (before ++ first :: after) ⟨first.label,"event_manifest",1,0⟩ ∧
      Orderly target windowStart windowEnd (before ++ first :: after) := by
  have listed : first ∈ before ++ first :: after := by simp
  refine ⟨⟨fun _ => ⟨rfl,rfl,first,listed,anomaly,rfl⟩,fun quiet => absurd anomaly (quiet first listed),
    fun quiet => absurd anomaly (quiet first listed)⟩,?_,fun quiet => absurd anomaly (quiet first listed)⟩
  intro earlier d later split apart recovery fits _
  rcases List.append_eq_append_iff.mp split with ⟨between,rfl,rest⟩ | ⟨between,rfl,rest⟩
  · cases between with
    | nil =>
      cases rest
      exact absurd anomaly apart
    | cons head tail =>
      cases rest
      exact ⟨first,by simp,anomaly⟩
  · cases between with
    | nil =>
      cases rest
      exact absurd anomaly apart
    | cons head tail =>
      cases rest
      cases none d (by simp)
      rename_i unfit
      exact absurd fits (unfit recovery)

theorem recovery_decides {before after : List TelemetryEventManifest} {first : TelemetryEventManifest}
    (none : ∀ e ∈ before, Decides target windowStart windowEnd e none)
    (apart : ¬ Anomaly target windowStart windowEnd first) (recovery : Recovery target windowStart windowEnd first)
    (fits : Representable first) :
    Rules target windowStart windowEnd (before ++ first :: after) ⟨first.label,"event_manifest",0,1⟩ ↔
      Orderly target windowStart windowEnd (before ++ first :: after) := by
  have listed : first ∈ before ++ first :: after := by simp
  have quiet : ∀ e ∈ before, ¬ Anomaly target windowStart windowEnd e := by
    intro e member
    cases none e member
    assumption
  by_cases later : ∃ e ∈ after, Anomaly target windowStart windowEnd e
  · obtain ⟨e,member,anomaly⟩ := later
    refine iff_of_false ?_ ?_
    · intro rules
      have flagged := (rules.anomaly ⟨e,by simp [member],anomaly⟩).1
      cases flagged
    · intro orderly
      obtain ⟨e,member,anomaly⟩ := orderly.anomaly before first after rfl apart recovery fits ⟨e,member,anomaly⟩
      exact quiet e member anomaly
  · have none : ∀ e ∈ before ++ first :: after, ¬ Anomaly target windowStart windowEnd e := by
      intro e member anomaly
      rcases List.mem_append.mp member with early | late
      · exact quiet e early anomaly
      · rcases List.mem_cons.mp late with rfl | late
        · exact apart anomaly
        · exact later ⟨e,late,anomaly⟩
    refine iff_of_true ⟨?_,fun _ _ => ⟨rfl,rfl,first,listed,recovery,rfl⟩,fun _ unrecovered => ?_⟩ ⟨?_,?_⟩
    · rintro ⟨e,member,anomaly⟩
      exact absurd anomaly (none e member)
    · exact absurd recovery (unrecovered first listed)
    · rintro earlier d later split _ _ _ ⟨e,member,anomaly⟩
      exact absurd anomaly (none e (by rw [split]; simp [member]))
    · exact fun _ _ => ⟨first,listed,recovery,fits⟩

theorem rules_iff (formed : ∀ e ∈ events, e.startUnixMS < e.endUnixMS) (window : windowStart < windowEnd) :
    Rules target windowStart windowEnd events
        ((events.findSome? (labelEvent target windowStart windowEnd)).getD .default) ↔
      Orderly target windowStart windowEnd events := by
  have decides : ∀ e ∈ events, Decides target windowStart windowEnd e (labelEvent target windowStart windowEnd e) :=
    fun e member => labelEvent_decides (formed e member) window
  cases found : events.findSome? (labelEvent target windowStart windowEnd) with
  | none =>
    refine undecided_iff fun e member => ?_
    rw [← List.findSome?_eq_none_iff.mp found e member]
    exact decides e member
  | some given =>
    obtain ⟨before,first,after,rfl,decided,earlier⟩ := List.findSome?_eq_some_iff.mp found
    have none : ∀ e ∈ before, Decides target windowStart windowEnd e none := by
      intro e member
      rw [← earlier e member]
      exact decides e (List.mem_append_left _ member)
    have here := decides first (by simp)
    rw [decided] at here
    cases here with
    | anomaly anomaly =>
      obtain ⟨rules,orderly⟩ := anomaly_decides after none anomaly
      exact iff_of_true rules orderly
    | recovery apart recovery fits => exact recovery_decides none apart recovery fits

-- The rules fix both flags, whatever the order of the manifest.
theorem rules_flags {listed : List TelemetryEventManifest} (same : events.Perm listed) {given given' : TelemetryWindowLabel}
    (rules : Rules target windowStart windowEnd events given) (rules' : Rules target windowStart windowEnd listed given') :
    given.anomalyActive = given'.anomalyActive ∧ given.recoveryActive = given'.recoveryActive := by
  have either : ∀ p : TelemetryEventManifest → Prop, (∃ e ∈ events, p e) ↔ ∃ e ∈ listed, p e := fun p =>
    exists_congr fun e => and_congr_left fun _ => same.mem_iff
  by_cases anomaly : ∃ e ∈ events, Anomaly target windowStart windowEnd e
  · obtain ⟨active,recovered,_⟩ := rules.anomaly anomaly
    obtain ⟨active',recovered',_⟩ := rules'.anomaly ((either _).mp anomaly)
    exact ⟨active.trans active'.symm,recovered.trans recovered'.symm⟩
  · have quiet : ∀ e ∈ events, ¬ Anomaly target windowStart windowEnd e := fun e member found => anomaly ⟨e,member,found⟩
    have quiet' : ∀ e ∈ listed, ¬ Anomaly target windowStart windowEnd e := fun e member => quiet e (same.mem_iff.mpr member)
    by_cases recovery : ∃ e ∈ events, Recovery target windowStart windowEnd e
    · obtain ⟨active,recovered,_⟩ := rules.recovery quiet recovery
      obtain ⟨active',recovered',_⟩ := rules'.recovery quiet' ((either _).mp recovery)
      exact ⟨active.trans active'.symm,recovered.trans recovered'.symm⟩
    · have none : ∀ e ∈ events, ¬ Recovery target windowStart windowEnd e := fun e member found => recovery ⟨e,member,found⟩
      obtain ⟨active,recovered,_⟩ := rules.normal quiet none
      obtain ⟨active',recovered',_⟩ := rules'.normal quiet' fun e member => none e (same.mem_iff.mpr member)
      exact ⟨active.trans active'.symm,recovered.trans recovered'.symm⟩

end Manifest

theorem loadEvents_formed (lines : List (Option TelemetryEventManifest)) :
    ∀ e ∈ loadEvents lines, e.label ≠ "" ∧ e.startUnixMS < e.endUnixMS := by
  intro e member
  obtain ⟨line,_,kept⟩ := List.mem_filterMap.mp member
  obtain ⟨_,kept⟩ := Option.filter_eq_some_iff.mp kept
  simpa using kept

-- Whatever the manifest, the window gets the label the rules give it exactly
-- when the manifest's order and its last timestamps let it.
theorem labelled_iff (l : TelemetryLabeler) (named : l.eventsFile ≠ "") (events : List TelemetryEventManifest)
    (formed : ∀ e ∈ events, e.label ≠ "" ∧ e.startUnixMS < e.endUnixMS) (windowStart windowEnd : Int64)
    (window : windowStart < windowEnd) :
    (∃ given, labelWindow l (.ok events) windowStart windowEnd = .ok given ∧
        Rules l.target windowStart windowEnd events given) ↔
      Orderly l.target windowStart windowEnd events := by
  have given : labelWindow l (.ok events) windowStart windowEnd =
      .ok ((events.findSome? (labelEvent l.target windowStart windowEnd)).getD .default) := by
    rw [labelWindow,if_neg named]
    rfl
  rw [← rules_iff (fun e member => (formed e member).2) window,given]
  constructor
  · rintro ⟨_,same,rules⟩
    cases same
    exact rules
  · exact fun rules => ⟨_,rfl,rules⟩

section Examples

def churn : TelemetryEventManifest := ⟨1000,4000,"backend_churn","demo/nodeport",2000⟩
def surge : TelemetryEventManifest := ⟨4500,6000,"load_surge","demo/nodeport",0⟩
def collector : TelemetryLabeler := ⟨"events.jsonl","demo/nodeport"⟩

-- Listed first, the surge is found before the tail of the earlier event.
theorem surge_orderly : Orderly "demo/nodeport" 4500 5000 [surge,churn] := by
  have overlaps : Anomaly "demo/nodeport" 4500 5000 surge := ⟨.inr (.inr rfl),4500,by decide,by decide,by decide,by decide⟩
  constructor
  · rintro earlier d later split calm _ _ ⟨e,member,_⟩
    cases earlier with
    | nil =>
      cases split
      exact absurd overlaps calm
    | cons first rest =>
      have length := congrArg List.length split
      have positive := List.length_pos_of_mem member
      simp only [List.length_cons,List.length_nil,List.length_append] at length
      omega
  · intro quiet
    exact absurd overlaps (quiet surge List.mem_cons_self)

theorem surge_found :
    labelWindow collector (.ok [surge,churn]) 4500 5000 = .ok ⟨"load_surge","event_manifest",1,0⟩ ∧
      ∃ given, labelWindow collector (.ok [surge,churn]) 4500 5000 = .ok given ∧
        Rules "demo/nodeport" 4500 5000 [surge,churn] given :=
  ⟨rfl,(labelled_iff collector (by decide) [surge,churn] (by decide) 4500 5000 (by decide)).mpr surge_orderly⟩

-- The tail of the earlier event hides the later event that the window overlaps.
theorem surge_hidden : ¬ ∀ (l : TelemetryLabeler) (events : List TelemetryEventManifest) (windowStart windowEnd : Int64),
    l.eventsFile ≠ "" → (∀ e ∈ events, e.label ≠ "" ∧ e.startUnixMS < e.endUnixMS) → windowStart < windowEnd →
    ∃ given, labelWindow l (.ok events) windowStart windowEnd = .ok given ∧
      Rules l.target windowStart windowEnd events given := by
  intro all
  obtain ⟨given,labelled,rules⟩ := all collector [churn,surge] 4500 5000 (by decide) (by decide) (by decide)
  have hidden : labelWindow collector (.ok [churn,surge]) 4500 5000 = .ok ⟨"backend_churn","event_manifest",0,1⟩ := rfl
  cases hidden.symm.trans labelled
  have overlaps : Anomaly collector.target 4500 5000 surge := ⟨.inr (.inr rfl),4500,by decide,by decide,by decide,by decide⟩
  have flagged := (rules.anomaly ⟨surge,by simp,overlaps⟩).1
  cases flagged

end Examples
end Aipr.Telemetry
