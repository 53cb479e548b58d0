import Aipr.TelemetryLoop
import Aipr.Transition

namespace Aipr.TelemetryExact
open NodeportTc Telemetry TelemetryLoop Transition

def summarise (activities : List Activity) : TelemetryWindowSummary := activities.foldl .note .empty

structure Accounts (activities : List Activity) (opened closed : Int64) (sample : TelemetrySample) : Prop where
  start : sample.windowStartUnixMS = opened
  stop : sample.windowEndUnixMS = closed
  delta : ∀ index, sample.delta index = activities.countP (· = .count index)
  summary : sample.summary = summarise activities

-- Beside the loop, what has happened: in the window being collected, in the one whose
-- tick waits, and since the last tick. `before` are the notes of before the loop,
-- `carried` those of them that the collection at hand has taken along.
structure Watch (cpus : Nat) where
  loop : Loop cpus
  collecting : List Activity
  waiting : List Activity
  since : List Activity
  before : List Activity
  carried : List Activity
  opened : Int64
  closed : Int64

def Watch.mark {cpus : Nat} (w : Watch cpus) : Mark → Watch cpus
  | .fired => {w with waiting := w.since, since := []}
  | .received now => {w with collecting := w.waiting, waiting := [], opened := w.closed, closed := now}
  | .complete .baseline _ => {w with closed := w.loop.windowStart}
  | .consumed => {w with carried := w.before, before := []}
  | _ => w

def Watch.notes {cpus : Nat} (w : Watch cpus) : Input cpus → Watch cpus
  | .activity _ a =>
    if w.loop.collector.baselineCaptured then {w with since := w.since ++ [a]} else {w with before := w.before ++ [a]}
  | _ => w

def step {cpus : Nat} (present : StatsIndex → Bool) (w : Watch cpus) (i : Input cpus) : Watch cpus :=
  {w.notes i with loop := (w.loop.advance present i).1}.mark (w.loop.advance present i).2

-- runTelemetry begins, with whatever has been noted before.
def begun {cpus : Nat} (counters : Counters cpus) (labeler : TelemetryLabeler) (before : List Activity) : Watch cpus :=
  ⟨⟨counters,summarise before,⟨labeler,fun _ => 0,0,false⟩,0,none,.reading (.begin .baseline)⟩,[],[],[],before,[],0,0⟩

def Exact {cpus : Nat} (present : StatsIndex → Bool) (w : Watch cpus) (i : Input cpus) : Prop :=
  ∀ sample, (w.loop.advance present i).2 = .emitted sample → Accounts w.collecting w.opened w.closed sample

-- The notes of the window being collected are still in the accumulator.
def unconsumed : Phase → Bool
  | .reading ⟨.window _,_,_⟩ => true
  | .countCT _ _ => true
  | .countFwd _ _ _ => true
  | .consume _ _ _ _ => true
  | _ => false

-- The counter has still to be looked up for the window being collected.
def unread (index : StatsIndex) : Phase → Bool
  | .reading ⟨.window _,pending,_⟩ => index ∈ pending
  | _ => false

-- The counter has been looked up, and its baseline is not in force yet.
def early (index : StatsIndex) : Phase → Bool
  | .reading ⟨.baseline,pending,_⟩ => index ∉ pending
  | _ => false

-- What happens between a tick and the step that takes it, or between the lookups of
-- the baseline and the opening of the first window, is counted for another window.
def Stray {cpus : Nat} (l : Loop cpus) : Activity → Prop
  | .count index => l.ticker ≠ none ∨ unread index l.phase ∨ early index l.phase
  | _ => l.ticker ≠ none ∨ unconsumed l.phase

instance {cpus : Nat} (l : Loop cpus) : (a : Activity) → Decidable (Stray l a)
  | .count index => inferInstanceAs (Decidable (l.ticker ≠ none ∨ unread index l.phase ∨ early index l.phase))
  | .serviceEvent => inferInstanceAs (Decidable (l.ticker ≠ none ∨ unconsumed l.phase))
  | .sliceEvent => inferInstanceAs (Decidable (l.ticker ≠ none ∨ unconsumed l.phase))
  | .nodeEvent => inferInstanceAs (Decidable (l.ticker ≠ none ∨ unconsumed l.phase))
  | .reconcile _ _ => inferInstanceAs (Decidable (l.ticker ≠ none ∨ unconsumed l.phase))
  | .gc _ => inferInstanceAs (Decidable (l.ticker ≠ none ∨ unconsumed l.phase))

def Noteless (activities : List Activity) : Prop := ∀ a ∈ activities, ∃ index, a = .count index

-- Nothing strays, a window is given up before its counters are read only if nothing
-- has happened in it and before its notes are taken only if nothing was noted in it,
-- and no sample is written that takes along notes of before the loop.
def Harmless {cpus : Nat} (present : StatsIndex → Bool) (w : Watch cpus) : Input cpus → Prop
  | .activity _ a => ¬Stray w.loop a ∧ ∀ index, a = .count index → present index
  | .lookup (.error _) => ∀ now pending snapshot, w.loop.phase = .reading ⟨.window now,pending,snapshot⟩ → w.collecting = []
  | .counted (.error _) => ∀ now delta, (w.loop.phase = .countCT now delta ∨ ∃ ctCount, w.loop.phase = .countFwd now delta ctCount) →
      Noteless w.collecting
  | .written (.ok ()) => ∀ sample, w.loop.phase = .write sample → Noteless w.carried
  | _ => True

section Summaries
variable {l m : List Activity} {a : Activity}

theorem summarise_snoc : summarise (l ++ [a]) = (summarise l).note a := by
  rw [summarise,List.foldl_append]
  rfl

theorem fold_noteless (quiet : Noteless l) (s : TelemetryWindowSummary) : l.foldl .note s = s := by
  induction l with
  | nil => rfl
  | cons a rest ih =>
    obtain ⟨index,rfl⟩ := quiet a List.mem_cons_self
    exact ih fun other member => quiet other (List.mem_cons_of_mem _ member)

theorem summarise_left (quiet : Noteless l) : summarise (l ++ m) = summarise m := by
  rw [summarise,List.foldl_append,fold_noteless quiet]
  rfl

theorem summarise_right (quiet : Noteless m) : summarise (l ++ m) = summarise l := by
  rw [summarise,List.foldl_append,fold_noteless quiet]
  rfl

theorem summarise_middle {k : List Activity} (quiet : Noteless m) : summarise (l ++ m ++ k) = summarise (l ++ k) := by
  rw [summarise,List.foldl_append,← summarise,summarise_right quiet,summarise,summarise,← List.foldl_append]

theorem noteless_nil : Noteless [] := nofun

theorem noteless_snoc (quiet : Noteless l) (index : StatsIndex) : Noteless (l ++ [.count index]) := by
  intro other member
  rcases List.mem_append.mp member with old | new
  · exact quiet other old
  · exact ⟨index,List.mem_singleton.mp new⟩

theorem count_snoc (index : StatsIndex) : (l ++ [a]).countP (· = .count index) =
    l.countP (· = .count index) + if a = .count index then 1 else 0 := by
  simp [List.countP_append,List.countP_singleton]

end Summaries

def Watch.own {cpus : Nat} (w : Watch cpus) : List Activity := if unconsumed w.loop.phase then w.collecting else []

def Watch.due {cpus : Nat} (w : Watch cpus) (index : StatsIndex) : Nat :=
  if unread index w.loop.phase then w.collecting.countP (· = .count index) else 0

def Watch.seen {cpus : Nat} (w : Watch cpus) (index : StatsIndex) : Nat :=
  match w.loop.phase with
  | .reading ⟨.window _,pending,snapshot⟩ =>
    if index ∈ pending then w.loop.collector.previousStats index else snapshot index
  | _ => w.loop.collector.previousStats index

def Watch.covers {cpus : Nat} (w : Watch cpus) (delta : StatsSnapshot) : Prop :=
  ∀ index, delta index = w.collecting.countP (· = .count index)

def Watch.carries {cpus : Nat} (w : Watch cpus) : Prop :=
  match w.loop.phase with
  | .idle => w.loop.windowStart = w.closed
  | .reading ⟨purpose,pending,snapshot⟩ =>
    purpose = .window w.closed ∧ w.loop.windowStart = w.opened ∧
      ∀ index ∉ pending, snapshot index = w.loop.collector.previousStats index + w.collecting.countP (· = .count index)
  | .countCT now delta => now = w.closed ∧ w.loop.windowStart = w.opened ∧ w.covers delta
  | .countFwd now delta _ => now = w.closed ∧ w.loop.windowStart = w.opened ∧ w.covers delta
  | .consume now delta _ _ => now = w.closed ∧ w.loop.windowStart = w.opened ∧ w.covers delta
  | .target now delta _ _ summary => now = w.closed ∧ w.loop.windowStart = w.opened ∧ w.covers delta ∧
      summary = summarise (w.carried ++ w.collecting)
  | .label now delta _ _ summary _ => now = w.closed ∧ w.loop.windowStart = w.opened ∧ w.covers delta ∧
      summary = summarise (w.carried ++ w.collecting)
  | .write sample => sample.windowStartUnixMS = w.opened ∧ sample.windowEndUnixMS = w.closed ∧ w.covers sample.delta ∧
      sample.summary = summarise (w.carried ++ w.collecting)
  | .ended => False

structure Opening {cpus : Nat} (present : StatsIndex → Bool) (w : Watch cpus) : Prop where
  fresh : w.loop.collector.baselineCaptured = false
  free : w.loop.ticker = none
  empty : w.collecting = [] ∧ w.waiting = [] ∧ w.since = []
  notes : w.loop.accumulator = summarise w.before
  phase : w.loop.phase = .ended ∨ ∃ pending snapshot, w.loop.phase = .reading ⟨.baseline,pending,snapshot⟩ ∧
    ∀ index ∉ pending, snapshot index = w.loop.counters.lookup present index

structure Running {cpus : Nat} (present : StatsIndex → Bool) (w : Watch cpus) : Prop where
  captured : w.loop.collector.baselineCaptured = true
  free : w.loop.ticker = none → w.waiting = []
  notes : w.loop.accumulator = summarise (w.before ++ w.own ++ w.waiting ++ w.since)
  counts : ∀ index, w.loop.counters.lookup present index =
    w.seen index + w.due index + w.waiting.countP (· = .count index) + w.since.countP (· = .count index)
  notesApart : (unconsumed w.loop.phase → Noteless w.waiting ∧ Noteless w.since) ∧ (w.loop.ticker ≠ none → Noteless w.since)
  countsApart : ∀ index, (unread index w.loop.phase → w.waiting.countP (· = .count index) = 0 ∧ w.since.countP (· = .count index) = 0) ∧
    (w.loop.ticker ≠ none → w.since.countP (· = .count index) = 0)
  carries : w.carries

def Settled {cpus : Nat} (present : StatsIndex → Bool) (w : Watch cpus) : Prop := Opening present w ∨ Running present w

section Running
variable {cpus : Nat} {present : StatsIndex → Bool} {w : Watch cpus}

theorem seen_other (other : ∀ reading, w.loop.phase ≠ .reading reading) (index : StatsIndex) :
    w.seen index = w.loop.collector.previousStats index := by
  unfold Watch.seen
  split
  · rename_i here
    exact absurd here (other _)
  · rfl

theorem stray_ticker {a : Activity} (clear : ¬Stray w.loop a) : w.loop.ticker = none := by
  have waits : ¬w.loop.ticker ≠ none := fun waits => clear <| by
    cases a with
    | _ => exact .inl waits
  exact not_not.mp waits

theorem stray_note {a : Activity} (clear : ¬Stray w.loop a) : unconsumed w.loop.phase → ∃ index, a = .count index := by
  intro here
  cases a with
  | count index => exact ⟨index,rfl⟩
  | _ => exact absurd (.inr here) clear

theorem running_activity (running : Running present w) (cpu : Fin cpus) {a : Activity} (clear : ¬Stray w.loop a)
    (known : ∀ index, a = .count index → present index) :
    Running present {w with since := w.since ++ [a], loop := w.loop.happens cpu a} := by
  obtain ⟨captured,free,notes,counts,notesApart,countsApart,carries⟩ := running
  have none := stray_ticker clear
  refine ⟨captured,free,?_,fun index => ?_,⟨fun here => ?_,absurd none⟩,fun index => ⟨fun here => ?_,absurd none⟩,carries⟩
  · change w.loop.accumulator.note a = summarise (w.before ++ w.own ++ w.waiting ++ (w.since ++ [a]))
    rw [← List.append_assoc,summarise_snoc,notes]
  · change (w.loop.counters.happens cpu a).lookup present index = w.seen index + w.due index +
      w.waiting.countP (· = .count index) + (w.since ++ [a]).countP (· = .count index)
    have same : (a = .count index ∧ present index) ↔ a = .count index := and_iff_left_of_imp (known index)
    rw [lookup_happens,count_snoc,counts,if_congr same rfl rfl]
    omega
  · obtain ⟨other,rfl⟩ := stray_note clear here
    exact (notesApart.1 here).imp_right (noteless_snoc · other)
  · have other : a ≠ .count index := by
      rintro rfl
      exact clear (.inr (.inl here))
    change w.waiting.countP (· = .count index) = 0 ∧ (w.since ++ [a]).countP (· = .count index) = 0
    rw [count_snoc,if_neg other]
    exact (countsApart index).1 here

theorem running_fires (running : Running present w) (now : Int64) (none : w.loop.ticker = none) :
    Running present {w with waiting := w.since, since := [], loop := {w.loop with ticker := some now}} := by
  obtain ⟨captured,free,notes,counts,notesApart,countsApart,carries⟩ := running
  have empty := free none
  rw [empty] at notes counts
  refine ⟨captured,nofun,?_,fun index => ?_,⟨fun here => ?_,fun _ => noteless_nil⟩,fun index => ⟨fun here => ?_,fun _ => rfl⟩,carries⟩
  · change w.loop.accumulator = summarise (w.before ++ w.own ++ w.since ++ [])
    rw [notes,List.append_nil,List.append_nil]
  · change w.loop.counters.lookup present index = w.seen index + w.due index + w.since.countP (· = .count index) + 0
    rw [counts]
    rfl
  · exact ⟨(notesApart.1 here).2,noteless_nil⟩
  · exact ⟨((countsApart index).1 here).2,rfl⟩

theorem running_receive (running : Running present w) {now : Int64} (idle : w.loop.phase = .idle) (due : w.loop.ticker = some now) :
    Running present {w with
      collecting := w.waiting, waiting := [], opened := w.closed, closed := now,
      loop := {w.loop with ticker := none, phase := .reading (.begin (.window now))}} := by
  obtain ⟨captured,free,notes,counts,notesApart,countsApart,carries⟩ := running
  have waits : w.loop.ticker ≠ none := by
    rw [due]
    exact nofun
  refine ⟨captured,fun _ => rfl,?_,fun index => ?_,⟨fun _ => ⟨noteless_nil,notesApart.2 waits⟩,nofun⟩,
    fun index => ⟨fun _ => ⟨rfl,(countsApart index).2 waits⟩,nofun⟩,rfl,?_,fun index absent => absurd (mem_statsIndices index) absent⟩
  · have none : w.own = [] := if_neg (by rw [idle]; exact nofun)
    change w.loop.accumulator = summarise (w.before ++ w.waiting ++ [] ++ w.since)
    rw [notes,none,List.append_nil,List.append_nil]
  · have old := counts index
    rw [seen_other (by rw [idle]; exact nofun),Watch.due,if_neg (by rw [idle]; exact nofun)] at old
    have listed := mem_statsIndices index
    change w.loop.counters.lookup present index =
      (if index ∈ statsIndices then w.loop.collector.previousStats index else 0) +
        (if decide (index ∈ statsIndices) then w.waiting.countP (· = .count index) else 0) + 0 + w.since.countP (· = .count index)
    rw [if_pos listed,if_pos (decide_eq_true listed),old]
    omega
  · unfold Watch.carries at carries
    rw [idle] at carries
    exact carries

theorem running_looks (running : Running present w) {purpose : Purpose} {index : StatsIndex} {rest : List StatsIndex}
    {snapshot : StatsSnapshot} (here : w.loop.phase = .reading ⟨purpose,index :: rest,snapshot⟩) :
    Running present {w with loop := w.loop.looks present purpose index rest snapshot} := by
  obtain ⟨captured,free,notes,counts,notesApart,countsApart,carries⟩ := running
  unfold Watch.carries at carries
  rw [here] at carries notesApart
  obtain ⟨rfl,start,looked⟩ := carries
  have unreadNow : ∀ other, unread other w.loop.phase = decide (other ∈ index :: rest) := fun other => by rw [here]; rfl
  have value : w.loop.counters.lookup present index =
      w.loop.collector.previousStats index + w.collecting.countP (· = .count index) := by
    have listed : index ∈ index :: rest := List.mem_cons_self
    have apart := (countsApart index).1 ((unreadNow index).trans (decide_eq_true listed))
    have all := counts index
    rw [apart.1,apart.2,Watch.due,unreadNow,if_pos (decide_eq_true listed),Watch.seen,here] at all
    dsimp only at all
    rw [if_pos listed] at all
    exact all
  refine ⟨captured,free,?_,fun other => ?_,notesApart,fun other => ⟨fun later => ?_,(countsApart other).2⟩,rfl,start,fun other absent => ?_⟩
  · have own : w.own = w.collecting := if_pos (by rw [here]; rfl)
    rw [own] at notes
    exact notes
  · have all := counts other
    rw [Watch.due,unreadNow,Watch.seen,here] at all
    change w.loop.counters.lookup present other =
      (if other ∈ rest then w.loop.collector.previousStats other
        else if other = index then w.loop.counters.lookup present other else snapshot other) +
      (if decide (other ∈ rest) then w.collecting.countP (· = .count other) else 0) +
      w.waiting.countP (· = .count other) + w.since.countP (· = .count other)
    by_cases listed : other ∈ rest
    · simpa [listed] using all
    · by_cases same : other = index
      · subst same
        have apart := (countsApart other).1 ((unreadNow other).trans (decide_eq_true List.mem_cons_self))
        simp [listed,apart]
      · simpa [listed,same] using all
  · exact (countsApart other).1 ((unreadNow other).trans (decide_eq_true (List.mem_cons_of_mem _ (of_decide_eq_true later))))
  · change (if other = index then w.loop.counters.lookup present other else snapshot other) = _
    split
    · rename_i same
      rw [same]
      exact value
    · rename_i apart
      exact looked other fun member => (List.mem_cons.mp member).elim apart absent

-- The window is given up or its sample is out: what is not taken yet must be nothing.
theorem running_skip (running : Running present w) (taken : unconsumed w.loop.phase → Noteless w.collecting)
    (level : ∀ index, w.seen index + w.due index = w.loop.collector.previousStats index) :
    Running present {w with loop := w.loop.skip w.closed} := by
  obtain ⟨captured,free,notes,counts,notesApart,countsApart,carries⟩ := running
  refine ⟨captured,free,?_,fun index => ?_,⟨nofun,notesApart.2⟩,fun index => ⟨nofun,(countsApart index).2⟩,rfl⟩
  · change w.loop.accumulator = summarise (w.before ++ [] ++ w.waiting ++ w.since)
    have quiet : Noteless w.own := by
      unfold Watch.own
      split
      · rename_i here
        exact taken here
      · exact noteless_nil
    rw [notes,List.append_assoc,summarise_middle quiet,List.append_nil,List.append_assoc]
  · have all := counts index
    rw [level] at all
    exact all

theorem unread_other (other : ∀ reading, w.loop.phase ≠ .reading reading) (index : StatsIndex) :
    unread index w.loop.phase = false := by
  unfold unread
  split
  · rename_i here
    exact absurd here (other _)
  · rfl

theorem level_other (other : ∀ reading, w.loop.phase ≠ .reading reading) (index : StatsIndex) :
    w.seen index + w.due index = w.loop.collector.previousStats index := by
  rw [seen_other other,Watch.due,unread_other other]
  rfl

theorem running_unread (running : Running present w) {purpose : Purpose} {pending : List StatsIndex} {snapshot : StatsSnapshot}
    (here : w.loop.phase = .reading ⟨purpose,pending,snapshot⟩) :
    purpose = .window w.closed ∧
      (w.collecting = [] → ∀ index, w.seen index + w.due index = w.loop.collector.previousStats index) := by
  have carries := running.carries
  unfold Watch.carries at carries
  rw [here] at carries
  obtain ⟨rfl,_,looked⟩ := carries
  refine ⟨rfl,fun quiet index => ?_⟩
  rw [quiet] at looked
  rw [Watch.seen,Watch.due,here,quiet]
  by_cases listed : index ∈ pending
  · simp [listed]
  · simpa [listed] using looked index listed

-- Between the snapshot and the next tick nothing moves but the phase.
theorem running_phase (running : Running present w) (backend : Int) {phase : Phase}
    (other : ∀ reading, w.loop.phase ≠ .reading reading) (next : ∀ reading, phase ≠ .reading reading)
    (same : unconsumed phase = unconsumed w.loop.phase)
    (carries : Watch.carries {w with
      loop := {w.loop with collector := {w.loop.collector with previousBackend := backend}, phase := phase}}) :
    Running present {w with
      loop := {w.loop with collector := {w.loop.collector with previousBackend := backend}, phase := phase}} := by
  obtain ⟨captured,free,notes,counts,notesApart,countsApart,_⟩ := running
  refine ⟨captured,free,?_,fun index => ?_,?_,fun index => ⟨fun here => ?_,(countsApart index).2⟩,carries⟩
  · change w.loop.accumulator = summarise (w.before ++ (if unconsumed phase then w.collecting else []) ++ w.waiting ++ w.since)
    rw [same]
    exact notes
  · have all := counts index
    rw [level_other other] at all
    rw [level_other next]
    exact all
  · change (unconsumed phase → _) ∧ _
    rw [same]
    exact notesApart
  · rw [unread_other next] at here
    cases here

theorem running_finish (running : Running present w) {purpose : Purpose} {snapshot : StatsSnapshot}
    (here : w.loop.phase = .reading ⟨purpose,[],snapshot⟩) (clock : Int64) :
    purpose = .window w.closed ∧ Running present {w with loop := w.loop.finished clock snapshot purpose} := by
  obtain ⟨captured,free,notes,counts,notesApart,countsApart,carries⟩ := running
  unfold Watch.carries at carries
  rw [here] at carries notesApart
  obtain ⟨rfl,start,looked⟩ := carries
  refine ⟨rfl,captured,free,?_,fun index => ?_,notesApart,fun index => ⟨nofun,(countsApart index).2⟩,rfl,start,fun index => ?_⟩
  · have own : w.own = w.collecting := if_pos (by rw [here]; rfl)
    rw [own] at notes
    exact notes
  · have all := counts index
    have read : w.seen index + w.due index = snapshot index := by
      rw [Watch.seen,Watch.due,here]
      simp [unread]
    rw [read] at all
    exact all
  · have value := looked index List.not_mem_nil
    change snapshot.diff w.loop.collector.previousStats index = w.collecting.countP (· = .count index)
    rw [StatsSnapshot.diff,if_pos (by omega)]
    omega

theorem running_consume (running : Running present w) {now : Int64} {delta : StatsSnapshot} {ctCount fwdCount : Nat}
    (here : w.loop.phase = .consume now delta ctCount fwdCount) :
    Running present {w with
      carried := w.before, before := [],
      loop := {w.loop with accumulator := .empty, phase := .target now delta ctCount fwdCount w.loop.accumulator}} := by
  obtain ⟨captured,free,notes,counts,notesApart,countsApart,carries⟩ := running
  unfold Watch.carries at carries
  rw [here] at carries
  obtain ⟨stop,start,covers⟩ := carries
  have untaken : unconsumed w.loop.phase = true := by
    rw [here]
    rfl
  obtain ⟨waiting,since⟩ := notesApart.1 untaken
  refine ⟨captured,free,?_,fun index => ?_,⟨nofun,notesApart.2⟩,fun index => ⟨nofun,(countsApart index).2⟩,stop,start,covers,?_⟩
  · change .empty = summarise ([] ++ [] ++ w.waiting ++ w.since)
    rw [summarise_right since,summarise_right waiting]
    rfl
  · have all := counts index
    rw [level_other (by rw [here]; exact nofun)] at all
    exact all
  · have own : w.own = w.collecting := if_pos untaken
    change w.loop.accumulator = summarise (w.before ++ w.collecting)
    rw [notes,own,summarise_right since,summarise_right waiting]

theorem running_exact (running : Running present w) {sample : TelemetrySample} (here : w.loop.phase = .write sample)
    (quiet : Noteless w.carried) : Accounts w.collecting w.opened w.closed sample := by
  have carries := running.carries
  unfold Watch.carries at carries
  rw [here] at carries
  obtain ⟨start,stop,covers,summary⟩ := carries
  exact ⟨start,stop,covers,summary.trans (summarise_left quiet)⟩

end Running
section Opening
variable {cpus : Nat} {present : StatsIndex → Bool} {w : Watch cpus}

theorem opening_activity (opening : Opening present w) (cpu : Fin cpus) {a : Activity} (clear : ¬Stray w.loop a) :
    Opening present {w with before := w.before ++ [a], loop := w.loop.happens cpu a} := by
  obtain ⟨fresh,free,empty,notes,phase⟩ := opening
  refine ⟨fresh,free,empty,?_,phase.imp_right ?_⟩
  · change w.loop.accumulator.note a = summarise (w.before ++ [a])
    rw [summarise_snoc,notes]
  · rintro ⟨pending,snapshot,here,looked⟩
    refine ⟨pending,snapshot,here,fun index absent => ?_⟩
    have other : ¬(a = .count index ∧ present index) := by
      rintro ⟨rfl,_⟩
      refine clear (.inr (.inr ?_))
      rw [here]
      exact decide_eq_true absent
    change snapshot index = (w.loop.counters.happens cpu a).lookup present index
    rw [lookup_happens,if_neg other]
    exact looked index absent

theorem opening_looks (opening : Opening present w) {purpose : Purpose} {index : StatsIndex} {rest : List StatsIndex}
    {snapshot : StatsSnapshot} (here : w.loop.phase = .reading ⟨purpose,index :: rest,snapshot⟩) :
    Opening present {w with loop := w.loop.looks present purpose index rest snapshot} := by
  obtain ⟨fresh,free,empty,notes,ended | ⟨pending,read,reads,looked⟩⟩ := opening
  · cases here.symm.trans ended
  · cases here.symm.trans reads
    refine ⟨fresh,free,empty,notes,.inr ⟨rest,_,rfl,fun other absent => ?_⟩⟩
    change (if other = index then w.loop.counters.lookup present other else snapshot other) = w.loop.counters.lookup present other
    split
    · rfl
    · rename_i apart
      exact looked other fun member => (List.mem_cons.mp member).elim apart absent

theorem opening_finish (opening : Opening present w) {purpose : Purpose} {snapshot : StatsSnapshot}
    (here : w.loop.phase = .reading ⟨purpose,[],snapshot⟩) (clock : Int64) :
    purpose = .baseline ∧ Running present {w with closed := clock, loop := w.loop.finished clock snapshot .baseline} := by
  obtain ⟨fresh,free,⟨collecting,waiting,since⟩,notes,ended | ⟨pending,read,reads,looked⟩⟩ := opening
  · cases here.symm.trans ended
  · cases here.symm.trans reads
    refine ⟨rfl,rfl,fun _ => waiting,?_,fun index => ?_,⟨nofun,fun waits => absurd free waits⟩,
      fun index => ⟨nofun,fun waits => absurd free waits⟩,rfl⟩
    · change w.loop.accumulator = summarise (w.before ++ [] ++ w.waiting ++ w.since)
      rw [waiting,since,List.append_nil,List.append_nil,List.append_nil]
      exact notes
    · change w.loop.counters.lookup present index = snapshot index + 0 + w.waiting.countP (· = .count index) + w.since.countP (· = .count index)
      rw [waiting,since]
      exact (looked index List.not_mem_nil).symm

theorem opening_ticking (opening : Opening present w) : w.loop.phase.ticking = false := by
  rcases opening.phase with here | ⟨pending,snapshot,here,_⟩
  · rw [here]
    rfl
  · rw [here]
    rfl

end Opening
section Steps
variable {cpus : Nat} {present : StatsIndex → Bool} {w : Watch cpus}

theorem notes_other {i : Input cpus} (other : ∀ cpu a, i ≠ .activity cpu a) : w.notes i = w := by
  cases i with
  | activity cpu a => exact absurd rfl (other cpu a)
  | _ => rfl

theorem opening_step (opening : Opening present w) (i : Input cpus) (harmless : Harmless present w i) :
    Settled present (step present w i) := by
  have moves := @advance_moves _ present w.loop i
  have still := opening_ticking opening
  rw [step]
  generalize (w.loop.advance present i).1 = after,(w.loop.advance present i).2 = mark at moves ⊢
  cases moves with
  | stays _ other =>
    rw [notes_other other]
    exact .inl opening
  | activity cpu a =>
    have fresh : ¬w.loop.collector.baselineCaptured = true := by
      rw [opening.fresh]
      exact nofun
    rw [Watch.notes,if_neg fresh]
    exact .inl (opening_activity opening cpu harmless.1)
  | start _ fresh =>
    exact .inl ⟨opening.fresh,opening.free,opening.empty,opening.notes,
      .inr ⟨statsIndices,_,rfl,fun index absent => absurd (mem_statsIndices index) absent⟩⟩
  | giveUp err here =>
    rcases opening.phase with ended | ⟨pending,snapshot,reads,_⟩
    · cases here.symm.trans ended
    · cases here.symm.trans reads
      exact .inl ⟨opening.fresh,opening.free,opening.empty,opening.notes,.inl rfl⟩
  | looks here => exact .inl (opening_looks opening here)
  | finish clock here =>
    obtain ⟨rfl,running⟩ := opening_finish opening here clock
    exact .inr running
  | fires now free ticking => exact absurd ticking (Bool.eq_false_iff.mp still)
  | uncounted err here =>
    rcases here with here | ⟨ctCount,here⟩
    · rw [here] at still
      cases still
    · rw [here] at still
      cases still
  | receive here | countCT _ here | countFwd _ here | consume here | target _ here | unlabelled _ here | label _ here | dropped _ here
  | written here =>
    rw [here] at still
    cases still

theorem running_step (running : Running present w) (i : Input cpus) (harmless : Harmless present w i) :
    Running present (step present w i) := by
  have moves := @advance_moves _ present w.loop i
  have carries := running.carries
  unfold Watch.carries at carries
  rw [step]
  generalize (w.loop.advance present i).1 = after,(w.loop.advance present i).2 = mark at moves ⊢
  cases moves with
  | stays _ other =>
    rw [notes_other other]
    exact running
  | activity cpu a =>
    rw [Watch.notes,if_pos running.captured]
    exact running_activity running cpu harmless.1 harmless.2
  | start _ fresh => exact absurd running.captured (Bool.eq_false_iff.mp fresh)
  | fires now free => exact running_fires running now free
  | receive here due =>
    rw [if_pos running.captured]
    exact running_receive running here due
  | looks here => exact running_looks running here
  | giveUp err here =>
    obtain ⟨rfl,level⟩ := running_unread running here
    have quiet := harmless _ _ _ here
    exact running_skip running (fun _ => quiet ▸ noteless_nil) (level quiet)
  | finish clock here =>
    obtain ⟨rfl,finished⟩ := running_finish running here clock
    exact finished
  | uncounted err here =>
    have quiet := harmless _ _ here
    rcases here with here | ⟨ctCount,here⟩
    · rw [here] at carries
      rw [carries.1]
      exact running_skip running (fun _ => quiet) (level_other (by rw [here]; exact nofun))
    · rw [here] at carries
      rw [carries.1]
      exact running_skip running (fun _ => quiet) (level_other (by rw [here]; exact nofun))
  | consume here => exact running_consume running here
  | countCT _ here | countFwd _ here | target _ here =>
    rw [here] at carries
    exact running_phase running w.loop.collector.previousBackend (by rw [here]; exact nofun) nofun (by rw [here]; rfl) carries
  | unlabelled events here =>
    rw [here] at carries
    rw [carries.1]
    exact running_skip running (by rw [here]; exact nofun) (level_other (by rw [here]; exact nofun))
  | label events here =>
    rw [here] at carries
    exact running_phase running _ (by rw [here]; exact nofun) nofun (by rw [here]; rfl) ⟨carries.2.1,carries.1,carries.2.2⟩
  | dropped _ here | written here =>
    rw [here] at carries
    rw [carries.2.1]
    exact running_skip running (by rw [here]; exact nofun) (level_other (by rw [here]; exact nofun))

theorem settled_step (w : Watch cpus) (i : Input cpus) (settled : Settled present w) (harmless : Harmless present w i) :
    Settled present (step present w i) := by
  rcases settled with opening | running
  · exact opening_step opening i harmless
  · exact .inr (running_step running i harmless)

theorem settled_exact (w : Watch cpus) (i : Input cpus) (settled : Settled present w) (harmless : Harmless present w i) :
    Exact present w i := by
  intro sample emitted
  have moves := @advance_moves _ present w.loop i
  rw [emitted] at moves
  generalize (w.loop.advance present i).1 = after at moves
  cases moves with
  | written here =>
    rcases settled with opening | running
    · have still := opening_ticking opening
      rw [here] at still
      cases still
    · exact running_exact running here (harmless _ here)

end Steps

-- Every sample of a run is exact as long as nothing strays from its window and no
-- window is given up before what happened in it has been taken.
theorem samples_exact {cpus : Nat} (present : StatsIndex → Bool) (counters : Counters cpus) (labeler : TelemetryLabeler)
    (before : List Activity) (inputs : List (Input cpus))
    (harmless : Each (step present) (Harmless present) (begun counters labeler before) inputs) :
    Each (step present) (Exact present) (begun counters labeler before) inputs := by
  have opening : Opening present (begun counters labeler before) :=
    ⟨rfl,rfl,⟨rfl,rfl,rfl⟩,rfl,.inr ⟨statsIndices,_,rfl,fun index absent => absurd (mem_statsIndices index) absent⟩⟩
  exact each_of_each settled_exact settled_step (.inl opening) harmless

section Examples

def lookups : List (Input 8) := List.replicate 18 (.lookup (.ok ()))

def shopState : TelemetryTargetState := ⟨"192.168.56.10",30080,1,0,1⟩

def reads (now : Int64) : List (Input 8) := .receive :: lookups ++ [.finish now]

def counts : List (Input 8) := [.counted (.ok 3),.counted (.ok 3)]

def takes : List (Input 8) := [.consume,.target shopState,.label (.ok [])]

-- The notes of the initial sync go with a sample that is lost on the way to the disk;
-- the next one is exact.
def workload : List (Input 8) :=
  lookups ++ ([.finish 0,.activity 0 (.count .newConn),.activity 1 (.reconcile 1 0),.fires 1000] ++ (reads 1000 ++ (counts ++ (takes ++
    ([.written (.error "disk full"),.activity 1 (.count .newConn),.activity 0 .sliceEvent,.fires 2000] ++ (reads 2000 ++ (counts ++ takes)))))))

def idle : Watch 8 := begun (fun _ _ => 5) collector [.reconcile 1 0]

def Watch.counted (w : Watch 8) : Option (Nat × TelemetryWindowSummary) :=
  (w.loop.advance (fun _ => true) (.written (.ok ()))).2.sample.map fun sample => (sample.delta .newConn,sample.summary)

theorem summary_exact {w : Watch 8} (exact : Exact (fun _ => true) w (.written (.ok ()))) :
    ∀ made ∈ w.counted, made.2 = summarise w.collecting := by
  intro made member
  unfold Watch.counted at member
  cases emitted : (w.loop.advance (fun _ => true) (.written (.ok ()))).2 with
  | emitted sample =>
    rw [emitted] at member
    cases member
    exact (exact sample emitted).summary
  | _ =>
    rw [emitted] at member
    cases member

def plain : Input 8 → Bool
  | .activity _ _ => false
  | .lookup (.error _) => false
  | .counted (.error _) => false
  | .written (.ok _) => false
  | _ => true

theorem plain_harmless {w : Watch 8} {inputs : List (Input 8)} (all : inputs.all plain = true) :
    Each (step fun _ => true) (Harmless fun _ => true) w inputs := by
  refine each_of_all (fun i member w => ?_) w
  have mild := List.all_eq_true.mp all i member
  unfold Harmless
  split <;> trivial

theorem workload_exact :
    Each (step fun _ => true) (Exact fun _ => true) idle (workload ++ [.written (.ok ())]) ∧
      (workload.foldl (step fun _ => true) idle).counted = some (1,summarise [.sliceEvent]) := by
  refine ⟨samples_exact (fun _ => true) _ collector _ _ (each_append.mpr ⟨?_,?_,trivial⟩),?_⟩
  · refine each_append.mpr ⟨plain_harmless rfl,each_append.mpr ⟨?_,each_append.mpr ⟨plain_harmless rfl,each_append.mpr
      ⟨plain_harmless rfl,each_append.mpr ⟨plain_harmless rfl,each_append.mpr ⟨?_,plain_harmless rfl⟩⟩⟩⟩⟩⟩
    · exact ⟨trivial,⟨by decide +kernel,fun _ _ => rfl⟩,⟨by decide +kernel,fun _ _ => rfl⟩,trivial,trivial⟩
    · exact ⟨trivial,⟨by decide +kernel,fun _ _ => rfl⟩,⟨by decide +kernel,fun _ _ => rfl⟩,trivial,trivial⟩
  · have none : (workload.foldl (step fun _ => true) idle).carried = [] := by decide +kernel
    intro sample _
    change Noteless (workload.foldl (step fun _ => true) idle).carried
    rw [none]
    exact noteless_nil
  · decide +kernel

-- Three ways a sample goes wrong: the connections of a window with a reconcile could
-- not be counted, an event came between a tick and its collection, and the initial sync.
def miscount : List (Input 8) :=
  lookups ++ [.finish 0,.activity 0 (.reconcile 1 0),.fires 1000] ++ reads 1000 ++ [.counted (.error "EINTR"),.fires 2000] ++
    reads 2000 ++ counts ++ takes

def lateEvent : List (Input 8) :=
  lookups ++ [.finish 0,.fires 1000,.activity 0 .sliceEvent] ++ reads 1000 ++ counts ++ takes

def firstWindow : List (Input 8) := lookups ++ [.finish 0,.fires 1000] ++ reads 1000 ++ counts ++ takes

theorem miscount_leaks :
    ¬ Each (step fun _ => true) (Exact fun _ => true) (begun (fun _ _ => 0) collector []) (miscount ++ [.written (.ok ())]) ∧
    ¬ Each (step fun _ => true) (Exact fun _ => true) (begun (fun _ _ => 0) collector []) (lateEvent ++ [.written (.ok ())]) ∧
    ¬ Each (step fun _ => true) (Exact fun _ => true) (begun (fun _ _ => 0) collector [.reconcile 1 0])
      (firstWindow ++ [.written (.ok ())]) := by
  refine ⟨fun exact => ?_,fun exact => ?_,fun exact => ?_⟩
  · exact absurd (summary_exact (each_append.mp exact).2.1) (by decide +kernel)
  · exact absurd (summary_exact (each_append.mp exact).2.1) (by decide +kernel)
  · exact absurd (summary_exact (each_append.mp exact).2.1) (by decide +kernel)

end Examples
end Aipr.TelemetryExact
