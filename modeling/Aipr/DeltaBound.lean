import Aipr.TelemetryLoop
import Aipr.Transition

namespace Aipr.DeltaBound
open NodeportTc Telemetry TelemetryLoop Transition

def growth (current prev : Nat) : Nat := if current ≥ prev then current - prev else current

theorem growth_self (n : Nat) : growth n n = 0 := by
  simp [growth]

theorem growth_zero (prev : Nat) : growth 0 prev = 0 := by
  simp [growth]

theorem growth_succ (current prev : Nat) : growth (current + 1) prev ≤ growth current prev + 1 := by
  unfold growth
  split <;> split <;> omega

theorem growth_of_le {current prev : Nat} (grown : prev ≤ current) : prev + growth current prev = current := by
  rw [growth,if_pos grown]
  omega

-- A snapshot in between never makes less of the growth.
theorem growth_between (current middle prev : Nat) : growth current prev ≤ growth middle prev + growth current middle := by
  unfold growth
  split <;> split <;> split <;> omega

-- Beside the loop: the baseline, the snapshot that was last read, the increments of
-- every statistic since its value in the baseline was read, and what has been written.
structure Run (cpus : Nat) where
  loop : Loop cpus
  baseline : StatsSnapshot
  last : StatsSnapshot
  since : StatsIndex → Nat
  emitted : List TelemetrySample

inductive Event (cpus : Nat) where
  | input (i : Input cpus)
  | reset

section Steps
variable {cpus : Nat}

def Run.captured (r : Run cpus) : Bool := r.loop.collector.baselineCaptured

def Run.previous (r : Run cpus) : StatsSnapshot := r.loop.collector.previousStats

def Run.emittedDelta (r : Run cpus) (index : StatsIndex) : Nat := (r.emitted.map (·.delta index)).sum

-- The delta that a collection has made of its snapshot and not written yet.
def making : Phase → StatsSnapshot
  | .countCT _ delta => delta
  | .countFwd _ delta _ => delta
  | .consume _ delta _ _ => delta
  | .target _ delta _ _ _ => delta
  | .label _ delta _ _ _ _ => delta
  | .write sample => sample.delta
  | _ => fun _ => 0

def Run.happens (r : Run cpus) : Input cpus → Run cpus
  | .activity _ a => {r with since := fun i => r.since i + if a = .count i then 1 else 0}
  | _ => r

def Run.mark (r : Run cpus) : Mark → Run cpus
  | .looked purpose index => {r with since := fun i => if i = index ∧ purpose.captures then 0 else r.since i}
  | .complete purpose snapshot =>
    {r with last := snapshot, baseline := if purpose.captures then snapshot else r.baseline}
  | .emitted sample => {r with emitted := r.emitted ++ [sample]}
  | _ => r

def step (present : StatsIndex → Bool) (r : Run cpus) : Event cpus → Run cpus
  | .reset => {r with loop := {r.loop with counters := fun _ _ => 0}}
  | .input i => {r.happens i with loop := (r.loop.advance present i).1}.mark (r.loop.advance present i).2

def launched (counters : Counters cpus) (labeler : TelemetryLabeler) (noted : TelemetryWindowSummary) (now : Int64) : Run cpus :=
  ⟨⟨counters,noted,⟨labeler,fun _ => 0,0,false⟩,now,none,.idle⟩,fun _ => 0,fun _ => 0,fun _ => 0,[]⟩

def collecting : Phase → Bool
  | .idle => false
  | .ended => false
  | .reading ⟨.baseline,_,_⟩ => false
  | _ => true

-- A window that ends without a sample.
def Fails (present : StatsIndex → Bool) (l : Loop cpus) (i : Input cpus) : Prop :=
  collecting l.phase ∧ (l.advance present i).1.phase = .idle ∧ (l.advance present i).2.sample = none

def Smooth (present : StatsIndex → Bool) (r : Run cpus) : Event cpus → Prop
  | .reset => False
  | .input i => ¬Fails present r.loop i

end Steps
section Owed

-- What a statistic has emitted and could still emit from here is covered by its
-- increments; without disturbances the books balance.
def Owed (smooth : Prop) (emitted since baseline prev current : Nat) : Prop :=
  emitted + growth current prev ≤ since ∧ (smooth → baseline + emitted = prev ∧ prev ≤ current)

def OwedAt (smooth : Prop) (emitted since baseline prev value current : Nat) : Prop :=
  Owed smooth (emitted + growth value prev) since baseline value current ∧
    (smooth → baseline + emitted = prev ∧ prev ≤ value)

variable {smooth : Prop} {emitted since baseline prev value current : Nat}

theorem owed_count {more : Nat} (owed : Owed smooth emitted since baseline prev current) (counted : more ≤ 1)
    (current' : Nat) (seen : current' = current ∨ current' = current + more) :
    Owed smooth emitted (since + more) baseline prev current' := by
  obtain ⟨bound,level⟩ := owed
  have one := growth_succ current prev
  refine ⟨?_,fun calm => ⟨(level calm).1,?_⟩⟩
  · rcases seen with rfl | rfl
    · omega
    · have cases : more = 0 ∨ more = 1 := by omega
      rcases cases with rfl | rfl
      · exact bound
      · omega
  · have := (level calm).2
    omega

theorem owed_reset (owed : Owed smooth emitted since baseline prev current) (rough : ¬ smooth) :
    Owed smooth emitted since baseline prev 0 := by
  refine ⟨?_,fun calm => absurd calm rough⟩
  have bound := owed.1
  rw [growth_zero]
  omega

theorem owed_looked (owed : Owed smooth emitted since baseline prev current) :
    OwedAt smooth emitted since baseline prev current current := by
  obtain ⟨bound,level⟩ := owed
  refine ⟨⟨?_,fun calm => ?_⟩,level⟩
  · rw [growth_self]
    omega
  · have grown := growth_of_le (level calm).2
    have balance := (level calm).1
    omega

-- A window given up after the lookup: its growth is left for the next one.
theorem owed_skipped (owed : OwedAt smooth emitted since baseline prev value current) :
    Owed smooth emitted since baseline prev current := by
  obtain ⟨⟨bound,level⟩,before⟩ := owed
  have between := growth_between current value prev
  refine ⟨by omega,fun calm => ⟨(before calm).1,?_⟩⟩
  exact Nat.le_trans (before calm).2 (level calm).2

theorem owed_first (n : Nat) : Owed smooth 0 since n n n := by
  refine ⟨?_,fun _ => ⟨rfl,Nat.le_refl n⟩⟩
  rw [growth_self]
  exact Nat.zero_le _

end Owed
section Invariant
variable {cpus : Nat} {present : StatsIndex → Bool} {smooth : Prop} {r : Run cpus}

def opening : Phase → Bool
  | .idle => true
  | .ended => true
  | .reading _ => true
  | _ => false

structure Sound (present : StatsIndex → Bool) (smooth : Prop) (r : Run cpus) : Prop where
  opening : r.captured = false → r.emitted = [] ∧ opening r.loop.phase
  purpose : ∀ reading, r.loop.phase = .reading reading → reading.purpose.captures = !r.captured
  last : r.captured = true → r.last = r.previous
  unread : r.captured = true → ∀ index, (∀ reading, r.loop.phase = .reading reading → index ∈ reading.pending) →
    Owed smooth (r.emittedDelta index + making r.loop.phase index) (r.since index) (r.baseline index) (r.previous index)
      (r.loop.counters.lookup present index)
  read : ∀ reading, r.loop.phase = .reading reading → ∀ index ∉ reading.pending,
    (r.captured = true → OwedAt smooth (r.emittedDelta index) (r.since index) (r.baseline index) (r.previous index)
      (reading.snapshot index) (r.loop.counters.lookup present index)) ∧
    (r.captured = false → Owed smooth 0 (r.since index) (reading.snapshot index) (reading.snapshot index)
      (r.loop.counters.lookup present index))

theorem lookup_reset (index : StatsIndex) : Counters.lookup (fun _ _ => 0 : Counters cpus) present index = 0 := by
  simp [Counters.lookup]

theorem sound_activity (sound : Sound present smooth r) (cpu : Fin cpus) (a : Activity) :
    Sound present smooth {r.happens (.activity cpu a) with loop := r.loop.happens cpu a} := by
  have counted : ∀ index, (if a = .count index then 1 else 0) ≤ 1 := by
    intro index
    split <;> omega
  have seen : ∀ index, (r.loop.counters.happens cpu a).lookup present index = r.loop.counters.lookup present index ∨
      (r.loop.counters.happens cpu a).lookup present index =
        r.loop.counters.lookup present index + if a = .count index then 1 else 0 := by
    intro index
    rw [lookup_happens]
    by_cases known : present index
    · simp [known]
    · simp [known]
  refine ⟨sound.opening,sound.purpose,sound.last,fun captured other pending => ?_,fun reading under other looked => ?_⟩
  · exact owed_count (sound.unread captured other pending) (counted other) _ (seen other)
  · obtain ⟨window,opening⟩ := sound.read reading under other looked
    refine ⟨fun captured => ⟨?_,(window captured).2⟩,fun fresh => ?_⟩
    · exact owed_count (window captured).1 (counted other) _ (seen other)
    · exact owed_count (opening fresh) (counted other) _ (seen other)

theorem sound_reset (sound : Sound present smooth r) (rough : ¬ smooth) : Sound present smooth (step present r .reset) := by
  have zero : ∀ index, (step present r .reset).loop.counters.lookup present index = 0 := fun index => lookup_reset index
  refine ⟨sound.opening,sound.purpose,sound.last,fun captured other pending => ?_,fun reading under other looked => ?_⟩
  · rw [zero]
    exact owed_reset (sound.unread captured other pending) rough
  · obtain ⟨window,opening⟩ := sound.read reading under other looked
    rw [zero]
    refine ⟨fun captured => ⟨?_,(window captured).2⟩,fun fresh => ?_⟩
    · exact owed_reset (window captured).1 rough
    · exact owed_reset (opening fresh) rough

theorem sound_begin (sound : Sound present smooth r) (none : ∀ reading, r.loop.phase ≠ .reading reading)
    (empty : making r.loop.phase = fun _ => 0) (ticker : Option Int64) {purpose : Purpose} (fits : purpose.captures = !r.captured) :
    Sound present smooth {r with loop := {r.loop with ticker := ticker, phase := .reading (.begin purpose)}} := by
  refine ⟨fun fresh => ⟨(sound.opening fresh).1,rfl⟩,?_,sound.last,fun captured other _ => ?_,?_⟩
  · rintro reading ⟨⟩
    exact fits
  · have owed := sound.unread captured other fun reading under => absurd under (none reading)
    rw [empty] at owed
    exact owed
  · rintro reading ⟨⟩ index looked
    exact absurd (mem_statsIndices index) looked

theorem sound_looks {purpose : Purpose} {index : StatsIndex} {rest : List StatsIndex} {snapshot : StatsSnapshot}
    (sound : Sound present smooth r) (under : r.loop.phase = .reading ⟨purpose,index :: rest,snapshot⟩) :
    Sound present smooth ({r with loop := r.loop.looks present purpose index rest snapshot}.mark (.looked purpose index)) := by
  have fits : purpose.captures = !r.captured := sound.purpose _ under
  have kept : ∀ other, r.captured = true ∨ other ≠ index →
      (if other = index ∧ purpose.captures then 0 else r.since other) = r.since other := by
    rintro other (captured | apart)
    · rw [captured] at fits
      exact if_neg fun both => Bool.false_ne_true (fits.symm.trans both.2)
    · exact if_neg fun both => apart both.1
  refine ⟨fun fresh => ⟨(sound.opening fresh).1,rfl⟩,?_,sound.last,fun captured other pending => ?_,?_⟩
  · rintro reading ⟨⟩
    exact fits
  · dsimp only [Run.mark]
    rw [kept other (.inl captured)]
    have owed := sound.unread captured other fun reading same => by
      cases under.symm.trans same
      exact List.mem_cons_of_mem _ (pending _ rfl)
    rw [under] at owed
    exact owed
  · rintro reading ⟨⟩ other looked
    dsimp only [Run.mark,Loop.looks]
    by_cases here : other = index
    · subst here
      rw [if_pos rfl]
      refine ⟨fun captured => ?_,fun fresh => owed_first _⟩
      rw [kept other (.inl captured)]
      have owed := sound.unread captured other fun reading same => by
        cases under.symm.trans same
        exact List.mem_cons_self
      rw [under] at owed
      exact owed_looked owed
    · have before := sound.read _ under other fun member => (List.mem_cons.mp member).elim here looked
      rw [if_neg here,kept other (.inr here)]
      exact before

theorem sound_giveUp {purpose : Purpose} {pending : List StatsIndex} {snapshot : StatsSnapshot} (sound : Sound present smooth r)
    (under : r.loop.phase = .reading ⟨purpose,pending,snapshot⟩) :
    Sound present smooth {r with loop := r.loop.giveUp purpose} := by
  have left : ∀ index, r.captured = true → Owed smooth (r.emittedDelta index) (r.since index) (r.baseline index)
      (r.previous index) (r.loop.counters.lookup present index) := by
    intro index captured
    by_cases listed : index ∈ pending
    · have owed := sound.unread captured index fun other same => by
        cases under.symm.trans same
        exact listed
      rw [under] at owed
      exact owed
    · exact owed_skipped ((sound.read _ under index listed).1 captured)
  cases purpose with
  | _ => exact ⟨fun fresh => ⟨(sound.opening fresh).1,rfl⟩,nofun,sound.last,fun captured index _ => left index captured,nofun⟩

theorem sound_finish {purpose : Purpose} {snapshot : StatsSnapshot} (sound : Sound present smooth r)
    (under : r.loop.phase = .reading ⟨purpose,[],snapshot⟩) (clock : Int64) :
    Sound present smooth ({r with loop := r.loop.finished clock snapshot purpose}.mark (.complete purpose snapshot)) := by
  have fits : purpose.captures = !r.captured := sound.purpose _ under
  have first : r.captured = false → ∀ index, Owed smooth (r.emittedDelta index) (r.since index) (snapshot index) (snapshot index)
      (r.loop.counters.lookup present index) := by
    intro fresh index
    rw [Run.emittedDelta,(sound.opening fresh).1]
    exact (sound.read _ under index List.not_mem_nil).2 fresh
  cases purpose with
  | baseline =>
    have fresh : r.captured = false := Bool.not_eq_true' _ ▸ fits.symm
    exact ⟨nofun,nofun,fun _ => rfl,fun _ index _ => first fresh index,nofun⟩
  | lateBaseline now =>
    have fresh : r.captured = false := Bool.not_eq_true' _ ▸ fits.symm
    refine ⟨nofun,?_,fun _ => rfl,fun _ index _ => first fresh index,?_⟩
    · rintro reading ⟨⟩
      rfl
    · rintro reading ⟨⟩ index looked
      exact absurd (mem_statsIndices index) looked
  | window now =>
    have captured : r.captured = true := Bool.not_eq_false' _ ▸ fits.symm
    refine ⟨fun fresh => absurd (captured.symm.trans fresh) Bool.true_eq_false.mp,nofun,fun _ => rfl,fun _ index _ => ?_,nofun⟩
    exact ((sound.read _ under index List.not_mem_nil).1 captured).1

-- The rest of a collection: what is made is kept, written or, at a failure, lost.
theorem sound_rest (sound : Sound present smooth r) (made : opening r.loop.phase = false) {l : Loop cpus}
    {emitted : List TelemetrySample} (counters : l.counters = r.loop.counters)
    (captured : l.collector.baselineCaptured = r.loop.collector.baselineCaptured)
    (previous : l.collector.previousStats = r.loop.collector.previousStats) (none : ∀ reading, l.phase ≠ .reading reading)
    (most : ∀ index, (emitted.map (·.delta index)).sum + making l.phase index ≤ r.emittedDelta index + making r.loop.phase index)
    (all : smooth → ∀ index,
      (emitted.map (·.delta index)).sum + making l.phase index = r.emittedDelta index + making r.loop.phase index) :
    Sound present smooth {r with loop := l, emitted := emitted} := by
  have going : r.captured = true := by
    cases fresh : r.captured with
    | true => rfl
    | false => exact absurd (sound.opening fresh).2 (Bool.eq_false_iff.mp made)
  refine ⟨fun fresh => ?_,fun reading under => absurd under (none reading),fun _ => ?_,fun _ index _ => ?_,
    fun reading under => absurd under (none reading)⟩
  · exact absurd ((captured.trans going).symm.trans fresh) Bool.true_eq_false.mp
  · exact (sound.last going).trans previous.symm
  · obtain ⟨bound,level⟩ := sound.unread going index fun reading under => by
      rw [under] at made
      cases made
    have least := most index
    change Owed smooth ((emitted.map (·.delta index)).sum + making l.phase index) (r.since index) (r.baseline index)
      (l.collector.previousStats index) (l.counters.lookup present index)
    rw [counters,previous]
    refine ⟨Nat.le_trans (Nat.add_le_add_right least _) bound,fun calm => ?_⟩
    rw [all calm index]
    exact level calm

theorem sound_kept (sound : Sound present smooth r) (made : opening r.loop.phase = false) {l : Loop cpus}
    (counters : l.counters = r.loop.counters)
    (captured : l.collector.baselineCaptured = r.loop.collector.baselineCaptured)
    (previous : l.collector.previousStats = r.loop.collector.previousStats) (none : ∀ reading, l.phase ≠ .reading reading)
    (same : making l.phase = making r.loop.phase) : Sound present smooth {r with loop := l} := by
  have all : ∀ index, r.emittedDelta index + making l.phase index = r.emittedDelta index + making r.loop.phase index := by
    intro index
    rw [same]
  exact sound_rest sound made counters captured previous none (fun index => Nat.le_of_eq (all index)) fun _ => all

theorem happens_other {i : Input cpus} (other : ∀ cpu a, i ≠ .activity cpu a) : r.happens i = r := by
  cases i with
  | activity cpu a => exact absurd rfl (other cpu a)
  | _ => rfl

theorem sound_lost (sound : Sound present smooth r) (made : opening r.loop.phase = false) (now : Int64)
    (allowed : smooth → ¬(collecting r.loop.phase ∧ (r.loop.skip now).phase = .idle ∧ Mark.none.sample = none)) :
    Sound present smooth {r with loop := r.loop.skip now} := by
  refine sound_rest sound made rfl rfl rfl nofun (fun index => Nat.add_le_add_left (Nat.zero_le _) _) fun calm => ?_
  refine absurd ⟨?_,rfl,rfl⟩ (allowed calm)
  revert made
  cases r.loop.phase with
  | _ => simp [opening,collecting]

theorem emitted_snoc {sample : TelemetrySample} (here : r.loop.phase = .write sample) (index : StatsIndex) :
    ((r.emitted ++ [sample]).map (·.delta index)).sum + making .idle index = r.emittedDelta index + making r.loop.phase index := by
  rw [here,List.map_append,List.sum_append]
  simp [making,Run.emittedDelta]

theorem sound_input (sound : Sound present smooth r) (i : Input cpus) (allowed : smooth → ¬Fails present r.loop i) :
    Sound present smooth (step present r (.input i)) := by
  have moves := @advance_moves _ present r.loop i
  unfold Fails at allowed
  rw [step]
  generalize (r.loop.advance present i).1 = after,(r.loop.advance present i).2 = mark at moves allowed ⊢
  cases moves with
  | stays _ other =>
    rw [happens_other other]
    exact sound
  | activity cpu a => exact sound_activity sound cpu a
  | start here fresh =>
    have fits : Purpose.baseline.captures = !r.captured := by
      rw [Run.captured,fresh]
      rfl
    rcases here with here | here
    · exact sound_begin sound (by rw [here]; exact nofun) (by rw [here]; rfl) r.loop.ticker fits
    · exact sound_begin sound (by rw [here]; exact nofun) (by rw [here]; rfl) r.loop.ticker fits
  | fires now => exact ⟨sound.opening,sound.purpose,sound.last,sound.unread,sound.read⟩
  | receive here due =>
    refine sound_begin sound (by rw [here]; exact nofun) (by rw [here]; rfl) none ?_
    rw [Run.captured]
    cases r.loop.collector.baselineCaptured <;> rfl
  | giveUp err here => exact sound_giveUp sound here
  | looks here => exact sound_looks sound here
  | finish clock here => exact sound_finish sound here clock
  | uncounted err here =>
    refine sound_lost sound ?_ _ allowed
    rcases here with here | ⟨ctCount,here⟩
    · rw [here]
      rfl
    · rw [here]
      rfl
  | countCT _ here | countFwd _ here | consume here | target _ here | label _ here =>
    exact sound_kept sound (by rw [here]; rfl) rfl rfl rfl nofun (by rw [here]; rfl)
  | unlabelled events here => exact sound_lost sound (by rw [here]; rfl) _ allowed
  | dropped err here => exact sound_lost sound (by rw [here]; rfl) _ allowed
  | written here =>
    have same := fun index => emitted_snoc here index
    exact sound_rest sound (by rw [here]; rfl) rfl rfl rfl nofun (fun index => Nat.le_of_eq (same index)) fun _ => same

theorem sound_step (r : Run cpus) (e : Event cpus) (sound : Sound present smooth r) (allowed : smooth → Smooth present r e) :
    Sound present smooth (step present r e) := by
  cases e with
  | input i => exact sound_input sound i allowed
  | reset => exact sound_reset sound fun calm => allowed calm

theorem sound_launched (present : StatsIndex → Bool) (smooth : Prop) (counters : Counters cpus) (labeler : TelemetryLabeler)
    (noted : TelemetryWindowSummary) (now : Int64) : Sound present smooth (launched counters labeler noted now) :=
  ⟨fun _ => ⟨rfl,rfl⟩,nofun,nofun,nofun,nofun⟩

theorem sound_bounded (sound : Sound present smooth r) (index : StatsIndex) : r.emittedDelta index ≤ r.since index := by
  cases captured : r.captured with
  | false =>
    rw [Run.emittedDelta,(sound.opening captured).1]
    exact Nat.zero_le _
  | true =>
    by_cases pending : ∀ reading, r.loop.phase = .reading reading → index ∈ reading.pending
    · have bound := (sound.unread captured index pending).1
      omega
    · push Not at pending
      obtain ⟨reading,under,looked⟩ := pending
      have bound := ((sound.read reading under index looked).1 captured).1.1
      omega

theorem sound_balanced (sound : Sound present True r) (captured : r.captured = true) (index : StatsIndex) :
    r.baseline index + r.emittedDelta index + making r.loop.phase index = r.last index := by
  rw [sound.last captured]
  by_cases pending : ∀ reading, r.loop.phase = .reading reading → index ∈ reading.pending
  · have level := ((sound.unread captured index pending).2 trivial).1
    omega
  · push Not at pending
    obtain ⟨reading,under,looked⟩ := pending
    rw [under]
    exact (((sound.read reading under index looked).1 captured).2 trivial).1

end Invariant

-- Whatever happens, the deltas of a statistic never add up to more than its
-- increments since the baseline; undisturbed, they and the one still to be written
-- are the last snapshot less the baseline.
theorem deltas_bounded {cpus : Nat} (present : StatsIndex → Bool) (counters : Counters cpus) (labeler : TelemetryLabeler)
    (noted : TelemetryWindowSummary) (now : Int64) (events : List (Event cpus)) :
    Along (step present) (fun r => ∀ index, r.emittedDelta index ≤ r.since index) (launched counters labeler noted now) events ∧
    (Each (step present) (Smooth present) (launched counters labeler noted now) events →
      Along (step present)
        (fun r => r.captured = true → ∀ index, r.baseline index + r.emittedDelta index + making r.loop.phase index = r.last index)
        (launched counters labeler noted now) events) := by
  constructor
  · have all : Along (step present) (Sound present False) (launched counters labeler noted now) events :=
      along_invariant (fun r e sound => sound_step r e sound False.elim) (sound_launched present False counters labeler noted now)
    exact along_mono (fun r => sound_bounded) all
  · intro smooth
    have all : Along (step present) (Sound present True) (launched counters labeler noted now) events :=
      along_of_each (fun r e sound calm => sound_step r e sound fun _ => calm)
        (sound_launched present True counters labeler noted now) smooth
    exact along_mono (fun r => sound_balanced) all

section Examples

def troubled {cpus : Nat} : Input cpus → Bool
  | .lookup (.error _) => true
  | .counted (.error _) => true
  | .label (.ok []) => false
  | .label _ => true
  | .written (.error _) => true
  | _ => false

theorem unlisted_labelled (labeler : TelemetryLabeler) (start stop : Int64) : ∃ label, labelWindow labeler (.ok []) start stop = .ok label := by
  unfold labelWindow
  split
  · exact ⟨_,rfl⟩
  · exact ⟨_,rfl⟩

theorem smooth_untroubled {cpus : Nat} {present : StatsIndex → Bool} {l : Loop cpus} {i : Input cpus} (calm : troubled i = false) :
    ¬Fails present l i := by
  rintro ⟨under,ended,none⟩
  have moves := @advance_moves _ present l i
  generalize (l.advance present i).1 = after,(l.advance present i).2 = mark at moves ended none
  cases moves with
  | stays | activity | fires =>
    have idle : l.phase = .idle := ended
    rw [idle] at under
    cases under
  | giveUp | uncounted | dropped => cases calm
  | start | receive | looks | countCT | countFwd | consume | target | label => cases ended
  | @finish purpose _ _ here =>
    rw [here] at under
    cases purpose with
    | baseline => cases under
    | _ => cases ended
  | unlabelled events _ failed =>
    cases events with
    | error err => cases calm
    | ok manifests =>
      cases manifests with
      | nil =>
        obtain ⟨label,given⟩ := unlisted_labelled l.collector.labeler l.windowStart _
        cases given.symm.trans failed
      | cons => cases calm
  | written => cases none

-- The datapath counts on two of four CPUs, once between the lookups of the second snapshot.
def twoSnapshots : List (Input 4) :=
  .start :: (List.replicate 18 (.lookup (.ok ()))).append (.finish 0 :: .activity 0 (.count .newConn) :: .fires 1000 :: .receive ::
    (List.replicate 9 (.lookup (.ok ()))).append (.activity 3 (.count .newConn) :: (List.replicate 9 (.lookup (.ok ()))).append
      [.finish 1000,.counted (.ok 3),.counted (.ok 3),.consume,.target ⟨"192.168.56.10",30080,1,0,1⟩,.label (.ok []),.written (.ok ())]))

theorem twoSnapshots_balanced :
    Along (step fun _ => true) (fun r => ∀ index, r.emittedDelta index ≤ r.since index)
        (launched (fun _ _ => 7) collector .empty 0) (twoSnapshots.map .input) ∧
      Along (step fun _ => true)
        (fun r => r.captured = true → ∀ index, r.baseline index + r.emittedDelta index + making r.loop.phase index = r.last index)
        (launched (fun _ _ => 7) collector .empty 0) (twoSnapshots.map .input) ∧
      (((twoSnapshots.map .input).foldl (step fun _ => true) (launched (fun _ _ => 7) collector .empty 0)).emittedDelta .newConn) = 2 := by
  obtain ⟨bounded,balanced⟩ := deltas_bounded (fun _ => true) (fun _ _ => 7) collector .empty 0 (twoSnapshots.map .input)
  refine ⟨bounded,balanced (each_of_all (fun e member r => ?_) _),by decide +kernel⟩
  obtain ⟨i,listed,rfl⟩ := List.mem_map.mp member
  have calm : ∀ i ∈ twoSnapshots, troubled i = false := by decide
  exact smooth_untroubled (calm i listed)

end Examples
end Aipr.DeltaBound
