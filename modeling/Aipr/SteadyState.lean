import Aipr.DryRun
import Aipr.WatchMode

-- The send that waits while the buffer is full.
namespace Aipr.WatchMode.Channel
variable {cap : Nat} {α : Type}

def send (c : Channel cap α) (x : α) : Option (Channel cap α) :=
  if c.queue.length < cap then some (c.trySend x) else none

theorem send_queue {c next : Channel cap α} {x : α} (sent : c.send x = some next) : next.queue = c.queue ++ [x] := by
  unfold send at sent
  split at sent
  · rename_i room
    cases Option.some.inj sent
    rw [trySend,dif_pos room]
  · cases sent

theorem send_room {c : Channel cap α} (x : α) (room : c.queue.length < cap) : c.send x = some (c.trySend x) := if_pos room

theorem receive_some {c : Channel cap α} {x : α} {rest : List α} (queued : c.queue = x :: rest) :
    ∃ next, c.receive = some (x,next) := by
  cases taken : c.receive with
  | none =>
    unfold receive at taken
    split at taken
    · rename_i none
      rw [none] at queued
      cases queued
    · cases taken
  | some pair =>
    have known := receive_queue taken
    rw [queued] at known
    cases known
    exact ⟨pair.2,rfl⟩

end Aipr.WatchMode.Channel

namespace Aipr.SteadyState
open Transition WatchMode SyncerFlags

-- One of the loops behind errCh: it runs, it has ended and waits for the channel to
-- take its result, or it is gone.
inductive Worker where
  | running
  | sending (result : Option String)
  | done
deriving DecidableEq

-- The caller waits for so many results, or has returned.
inductive Main where
  | receiving (left : Nat)
  | returned (result : Option String)
deriving DecidableEq

-- The caller returns the first error, and without one when it has heard of all.
def Main.hear (left : Nat) : Option String → Main
  | some err => .returned (some err)
  | none => if left = 1 then .returned none else .receiving (left - 1)

structure State where
  workers : List Worker
  errCh : Channel 2 (Option String)
  cancelled : Bool
  main : Main

inductive Label where
  | cancel
  | ends (worker : Nat) (result : Option String)
  | send (worker : Nat)
  | receive
deriving DecidableEq

def conntrackGCEnabled (opts : Options) : Bool := opts.ctGCInterval > 0 && opts.ctEntryTimeout > 0

def workerCount (opts : Options) : Except String Nat :=
  if opts.syncMode = "oneshot" then .ok 0
  else if opts.syncMode = "poll" ∨ opts.syncMode = "watch" then
    .ok (1 + (if conntrackGCEnabled opts then 1 else 0) + if opts.telemetryEnable then 1 else 0)
  else .error s!"unsupported sync mode: {opts.syncMode}"

def begin (workers : Nat) : State :=
  ⟨List.replicate workers .running,.empty,false,if workers = 0 then .returned none else .receiving workers⟩

-- A loop ends with an error at any time, and without one only when the context is
-- done.
def advance (s : State) : Label → Option State
  | .cancel => some {s with cancelled := true}
  | .ends worker result =>
    if s.workers[worker]? = some .running ∧ (result = none → s.cancelled = true) then
      some {s with workers := s.workers.set worker (.sending result)}
    else none
  | .send worker =>
    match s.workers[worker]? with
    | some (.sending result) => (s.errCh.send result).map fun errCh => {s with workers := s.workers.set worker .done, errCh := errCh}
    | _ => none
  | .receive =>
    match s.main,s.errCh.receive with
    | .receiving left,some (result,errCh) => some {s with errCh := errCh, main := .hear left result}
    | _,_ => none

inductive Moves (s : State) : Label → State → Prop where
  | cancel : Moves s .cancel {s with cancelled := true}
  | ends (running : s.workers[worker]? = some .running) (stopped : result = none → s.cancelled = true) :
      Moves s (.ends worker result) {s with workers := s.workers.set worker (.sending result)}
  | send (sending : s.workers[worker]? = some (.sending result)) (queued : errCh.queue = s.errCh.queue ++ [result]) :
      Moves s (.send worker) {s with workers := s.workers.set worker .done, errCh := errCh}
  | receive (waiting : s.main = .receiving left) (queued : s.errCh.queue = result :: errCh.queue) :
      Moves s .receive {s with errCh := errCh, main := .hear left result}

theorem advance_moves {s next : State} {label : Label} (step : advance s label = some next) : Moves s label next := by
  cases label with
  | cancel =>
    cases Option.some.inj step
    exact .cancel
  | ends worker result =>
    simp only [advance] at step
    split at step
    · rename_i allowed
      cases Option.some.inj step
      exact .ends allowed.1 allowed.2
    · cases step
  | send worker =>
    simp only [advance] at step
    split at step
    · rename_i result sending
      obtain ⟨errCh,sent,rfl⟩ := Option.map_eq_some_iff.mp step
      exact .send sending (Channel.send_queue sent)
    · cases step
  | receive =>
    simp only [advance] at step
    split at step
    · rename_i left result errCh waiting taken
      cases Option.some.inj step
      exact .receive waiting (Channel.receive_queue taken)
    · cases step

section Replace
variable {α : Type} {l : List α} {i : Nat} {old : α} (new : α)

theorem countP_replaced (found : l[i]? = some old) (p : α → Bool) :
    (l.set i new).countP p + (if p old then 1 else 0) = l.countP p + if p new then 1 else 0 := by
  obtain ⟨below,rfl⟩ := List.getElem?_eq_some_iff.mp found
  rw [List.countP_set below]
  by_cases counted : p l[i] = true
  · have some : 0 < l.countP p := List.countP_pos_iff.mpr ⟨_,List.getElem_mem below,counted⟩
    rw [if_pos counted]
    omega
  · rw [if_neg counted]
    omega

theorem replaced_at (found : l[i]? = some old) (j : Nat) : (l.set i new)[j]? = if j = i then some new else l[j]? := by
  obtain ⟨below,_⟩ := List.getElem?_eq_some_iff.mp found
  rw [List.getElem?_set,if_pos below]
  simp only [eq_comm]

end Replace

def Worker.busy : Worker → Bool
  | .done => false
  | _ => true

def State.pending (s : State) : Nat := s.workers.countP Worker.busy + s.errCh.queue.length

def Heard (past : List Label) (s : State) (worker : Nat) : Prop :=
  (∃ result ∈ s.errCh.queue, .ends worker result ∈ past) ∨ .ends worker none ∈ past

structure Valid (workers : Nat) (past : List Label) (s : State) : Prop where
  number : s.workers.length = workers
  signal : s.cancelled = true ↔ .cancel ∈ past
  stopped : ∀ worker, .ends worker none ∈ past → .cancel ∈ past
  told : ∀ worker result, s.workers[worker]? = some (.sending result) → .ends worker result ∈ past
  queued : ∀ result ∈ s.errCh.queue, ∃ worker, .ends worker result ∈ past
  waiting : ∀ left, s.main = .receiving left → 0 < left ∧ s.pending = left ∧
    ∀ worker, s.workers[worker]? = some .done → Heard past s worker
  ended : s.main = .returned none → ∀ worker < workers, s.workers[worker]? = some .done ∧ .ends worker none ∈ past
  failed : ∀ err, s.main = .returned (some err) → ∃ worker, .ends worker (some err) ∈ past

theorem valid_begin (workers : Nat) : Valid workers [] (begin workers) := by
  refine ⟨List.length_replicate,iff_of_false Bool.false_ne_true List.not_mem_nil,fun _ none => (by cases none),?_,fun _ none => (by cases none),?_,?_,?_⟩
  · intro worker result sending
    have running := List.eq_of_mem_replicate (List.mem_of_getElem? sending)
    cases running
  · intro left waiting
    simp only [begin] at waiting
    split at waiting
    · cases waiting
    · rename_i some
      cases Main.receiving.inj waiting
      refine ⟨Nat.pos_of_ne_zero some,?_,?_⟩
      · simp [State.pending,begin,Channel.empty,List.countP_replicate,Worker.busy]
      · intro worker gone
        cases List.eq_of_mem_replicate (List.mem_of_getElem? gone)
  · intro returned worker below
    simp only [begin] at returned
    split at returned
    · rename_i none
      omega
    · cases returned
  · intro err returned
    simp only [begin] at returned
    split at returned <;> cases returned

section Step
variable {workers : Nat} {past : List Label} {s next : State} {label : Label}

theorem heard_later {worker : Nat} (heard : Heard past s worker) (label : Label) : Heard (past ++ [label]) s worker :=
  heard.imp (fun ⟨result,queued,ended⟩ => ⟨result,queued,List.mem_append_left _ ended⟩) (List.mem_append_left _)

theorem valid_ends {worker : Nat} {result : Option String} (valid : Valid workers past s)
    (running : s.workers[worker]? = some .running) (stopped : result = none → s.cancelled = true) :
    Valid workers (past ++ [.ends worker result]) {s with workers := s.workers.set worker (.sending result)} := by
  obtain ⟨number,signal,before,told,queued,waiting,ended,failed⟩ := valid
  refine ⟨?_,?_,?_,?_,?_,?_,?_,?_⟩
  · rw [List.length_set]
    exact number
  · simp [signal]
  · intro other stop
    refine List.mem_append_left _ ?_
    rcases List.mem_append.mp stop with old | new
    · exact before other old
    · cases List.mem_singleton.mp new
      exact signal.mp (stopped rfl)
  · intro other answer sending
    rw [replaced_at _ running] at sending
    split at sending
    · rename_i same
      cases Option.some.inj sending
      rw [same]
      exact List.mem_append_right _ List.mem_cons_self
    · exact List.mem_append_left _ (told other answer sending)
  · intro answer listed
    obtain ⟨other,known⟩ := queued answer listed
    exact ⟨other,List.mem_append_left _ known⟩
  · intro left receiving
    obtain ⟨positive,number,heard⟩ := waiting left receiving
    refine ⟨positive,?_,fun other gone => ?_⟩
    · have counted : (s.workers.set worker (.sending result)).countP Worker.busy + 1 = s.workers.countP Worker.busy + 1 :=
        countP_replaced _ running Worker.busy
      simp only [State.pending] at number ⊢
      omega
    · rw [replaced_at _ running] at gone
      split at gone
      · cases gone
      · exact heard_later (heard other gone) _
  · intro returned other below
    obtain ⟨gone,known⟩ := ended returned other below
    rw [replaced_at _ running]
    split
    · rename_i same
      rw [same,running] at gone
      cases gone
    · exact ⟨gone,List.mem_append_left _ known⟩
  · intro err returned
    obtain ⟨other,known⟩ := failed err returned
    exact ⟨other,List.mem_append_left _ known⟩

theorem valid_send {worker : Nat} {result : Option String} {errCh : Channel 2 (Option String)} (valid : Valid workers past s)
    (sending : s.workers[worker]? = some (.sending result)) (sent : errCh.queue = s.errCh.queue ++ [result]) :
    Valid workers (past ++ [.send worker]) {s with workers := s.workers.set worker .done, errCh := errCh} := by
  obtain ⟨number,signal,before,told,queued,waiting,ended,failed⟩ := valid
  have known := told worker result sending
  refine ⟨?_,?_,?_,?_,?_,?_,?_,?_⟩
  · rw [List.length_set]
    exact number
  · simp [signal]
  · intro other stop
    rcases List.mem_append.mp stop with old | new
    · exact List.mem_append_left _ (before other old)
    · cases List.mem_singleton.mp new
  · intro other answer busy
    rw [replaced_at _ sending] at busy
    split at busy
    · cases busy
    · exact List.mem_append_left _ (told other answer busy)
  · intro answer listed
    rw [sent] at listed
    rcases List.mem_append.mp listed with old | new
    · obtain ⟨other,told⟩ := queued answer old
      exact ⟨other,List.mem_append_left _ told⟩
    · rw [List.mem_singleton.mp new]
      exact ⟨worker,List.mem_append_left _ known⟩
  · intro left receiving
    obtain ⟨positive,number,heard⟩ := waiting left receiving
    refine ⟨positive,?_,fun other gone => ?_⟩
    · have counted : (s.workers.set worker .done).countP Worker.busy + 1 = s.workers.countP Worker.busy :=
        countP_replaced _ sending Worker.busy
      simp only [State.pending,sent,List.length_append,List.length_singleton] at number ⊢
      omega
    · rw [replaced_at _ sending] at gone
      split at gone
      · rename_i same
        refine .inl ⟨result,?_,List.mem_append_left _ (same ▸ known)⟩
        rw [sent]
        exact List.mem_append_right _ List.mem_cons_self
      · rcases heard_later (heard other gone) (.send worker) with ⟨answer,listed,told⟩ | silent
        · refine .inl ⟨answer,?_,told⟩
          rw [sent]
          exact List.mem_append_left _ listed
        · exact .inr silent
  · intro returned other below
    obtain ⟨gone,known⟩ := ended returned other below
    rw [replaced_at _ sending]
    split
    · exact ⟨rfl,List.mem_append_left _ known⟩
    · exact ⟨gone,List.mem_append_left _ known⟩
  · intro err returned
    obtain ⟨other,known⟩ := failed err returned
    exact ⟨other,List.mem_append_left _ known⟩

theorem valid_receive {left : Nat} {result : Option String} {errCh : Channel 2 (Option String)} (valid : Valid workers past s)
    (receiving : s.main = .receiving left) (taken : s.errCh.queue = result :: errCh.queue) :
    Valid workers (past ++ [.receive]) {s with errCh := errCh, main := .hear left result} := by
  obtain ⟨number,signal,before,told,queued,waiting,ended,failed⟩ := valid
  obtain ⟨positive,pending,heard⟩ := waiting left receiving
  have later : ∀ label, label ∈ past → label ∈ past ++ [.receive] := fun _ => List.mem_append_left _
  refine ⟨number,?_,?_,?_,?_,?_,?_,?_⟩
  · simp [signal]
  · intro other stop
    rcases List.mem_append.mp stop with old | new
    · exact later _ (before other old)
    · cases List.mem_singleton.mp new
  · exact fun other answer sending => later _ (told other answer sending)
  · intro answer listed
    obtain ⟨other,known⟩ := queued answer (by rw [taken]; exact List.mem_cons_of_mem _ listed)
    exact ⟨other,later _ known⟩
  · intro left' still
    cases result with
    | some err => cases still
    | none =>
      simp only [Main.hear] at still
      split at still
      · cases still
      · rename_i more
        cases Main.receiving.inj still
        refine ⟨by omega,?_,fun other gone => ?_⟩
        · simp only [State.pending,taken,List.length_cons] at pending ⊢
          omega
        · rcases heard other gone with ⟨answer,listed,known⟩ | silent
          · rw [taken] at listed
            rcases List.mem_cons.mp listed with rfl | rest
            · exact .inr (later _ known)
            · exact .inl ⟨answer,rest,later _ known⟩
          · exact .inr (later _ silent)
  · intro returned other below
    cases result with
    | some err => cases returned
    | none =>
      have last : left = 1 := by
        by_contra more
        simp only [Main.hear,if_neg more] at returned
        cases returned
      -- nobody is left to be heard of, so the queue held the last result
      simp only [State.pending,taken,List.length_cons,last] at pending
      have empty : errCh.queue = [] := List.length_eq_zero_iff.mp (by omega)
      have idle : s.workers.countP Worker.busy = 0 := by omega
      have present : other < s.workers.length := number ▸ below
      have gone : s.workers[other]? = some .done := by
        rw [List.getElem?_eq_getElem present,Option.some.injEq]
        have own := List.countP_eq_zero.mp idle _ (List.getElem_mem present)
        cases worker : s.workers[other] with
        | done => rfl
        | _ => exact absurd (by rw [worker]; rfl) own
      refine ⟨gone,?_⟩
      rcases heard other gone with ⟨answer,listed,known⟩ | silent
      · rw [taken,empty,List.mem_singleton] at listed
        exact later _ (listed ▸ known)
      · exact later _ silent
  · intro err returned
    cases result with
    | some e =>
      cases returned
      obtain ⟨other,known⟩ := queued _ (by rw [taken]; exact List.mem_cons_self)
      exact ⟨other,later _ known⟩
    | none =>
      simp only [Main.hear] at returned
      split at returned <;> cases returned

theorem valid_cancel (valid : Valid workers past s) : Valid workers (past ++ [.cancel]) {s with cancelled := true} := by
  obtain ⟨number,signal,before,told,queued,waiting,ended,failed⟩ := valid
  have later : ∀ label, label ∈ past → label ∈ past ++ [.cancel] := fun _ => List.mem_append_left _
  refine ⟨number,?_,?_,?_,?_,?_,?_,?_⟩
  · simp
  · exact fun _ _ => List.mem_append_right _ List.mem_cons_self
  · exact fun other answer sending => later _ (told other answer sending)
  · intro answer listed
    obtain ⟨other,known⟩ := queued answer listed
    exact ⟨other,later _ known⟩
  · intro left receiving
    obtain ⟨positive,number,heard⟩ := waiting left receiving
    exact ⟨positive,number,fun other gone => heard_later (heard other gone) _⟩
  · exact fun returned other below => (ended returned other below).imp id (later _)
  · intro err returned
    obtain ⟨other,known⟩ := failed err returned
    exact ⟨other,later _ known⟩

theorem valid_moves (valid : Valid workers past s) (move : Moves s label next) : Valid workers (past ++ [label]) next := by
  cases move with
  | cancel => exact valid_cancel valid
  | ends running stopped => exact valid_ends valid running stopped
  | send sending queued => exact valid_send valid sending queued
  | receive waiting queued => exact valid_receive valid waiting queued

theorem valid_runs (run : Runs advance (begin workers) past s) : Valid workers past s :=
  run.invariant (valid_begin workers) fun _ _ _ _ valid step => valid_moves valid (advance_moves step)

end Step

section Progress
variable {workers : Nat} {past : List Label} {s next : State} {label : Label}

def Worker.runs : Worker → Bool
  | .running => true
  | _ => false

def State.rank (s : State) : Nat := s.workers.countP Worker.runs + 2 * s.workers.countP Worker.busy + s.errCh.queue.length

theorem rank_moves (move : Moves s label next) (own : label ≠ .cancel) : next.rank < s.rank := by
  cases move with
  | cancel => exact absurd rfl own
  | @ends worker result running stopped =>
    have runs : (s.workers.set worker (.sending result)).countP Worker.runs + 1 = s.workers.countP Worker.runs :=
      countP_replaced _ running Worker.runs
    have busy : (s.workers.set worker (.sending result)).countP Worker.busy + 1 = s.workers.countP Worker.busy + 1 :=
      countP_replaced _ running Worker.busy
    simp only [State.rank]
    omega
  | @send worker result errCh sending queued =>
    have runs : (s.workers.set worker .done).countP Worker.runs = s.workers.countP Worker.runs :=
      countP_replaced _ sending Worker.runs
    have busy : (s.workers.set worker .done).countP Worker.busy + 1 = s.workers.countP Worker.busy :=
      countP_replaced _ sending Worker.busy
    simp only [State.rank,queued,List.length_append,List.length_singleton]
    omega
  | receive waiting queued =>
    simp only [State.rank,queued,List.length_cons]
    omega

theorem rank_cancel : ({s with cancelled := true} : State).rank = s.rank := rfl

def Stuck (s : State) : Prop := ∀ label, label ≠ .cancel → advance s label = none

theorem stuck_returned (valid : Valid workers past s) (stuck : Stuck s) : ∃ result, s.main = .returned result := by
  cases place : s.main with
  | returned result => exact ⟨result,rfl⟩
  | receiving left =>
    obtain ⟨positive,pending,_⟩ := valid.waiting left place
    cases queued : s.errCh.queue with
    | cons result rest =>
      have refused := stuck .receive Label.noConfusion
      obtain ⟨next,taken⟩ := Channel.receive_some queued
      simp only [advance,place,taken] at refused
      cases refused
    | nil =>
      rw [State.pending,queued,List.length_nil,Nat.add_zero] at pending
      obtain ⟨worker,listed,busy⟩ := List.countP_pos_iff.mp (Nat.lt_of_lt_of_eq positive pending.symm)
      obtain ⟨i,below,same⟩ := List.getElem_of_mem listed
      have found : s.workers[i]? = some worker := by
        rw [List.getElem?_eq_getElem below,same]
      cases worker with
      | done => cases busy
      | running =>
        have refused := stuck (.ends i (some "")) Label.noConfusion
        simp only [advance] at refused
        rw [if_pos ⟨found,fun none => (by cases none)⟩] at refused
        cases refused
      | sending result =>
        have refused := stuck (.send i) Label.noConfusion
        have room : s.errCh.queue.length < 2 := by
          rw [queued]
          exact Nat.zero_lt_two
        simp only [advance,found,Channel.send_room result room] at refused
        cases refused

end Progress

section SteadyState
variable {Seconds : Type} {numbers : Numbers Seconds} {parsed : Parsed Seconds} {opts : Options}

theorem accepted_mode (accepted : validateOptions numbers parsed = .ok opts) : ∃ workers, workerCount opts = .ok workers := by
  unfold validateOptions at accepted
  split at accepted
  · cases accepted
  · rename_i none
    cases accepted
    have known := List.find?_eq_none.mp none _ List.mem_cons_self
    simp only [decide_eq_true_eq,not_not,List.mem_cons,List.not_mem_nil,or_false] at known
    unfold workerCount
    rcases known with mode | mode | mode
    · exact ⟨_,if_pos mode⟩
    · rw [if_neg (by rw [mode]; decide),if_pos (.inl mode)]
      exact ⟨_,rfl⟩
    · rw [if_neg (by rw [mode]; decide),if_pos (.inr mode)]
      exact ⟨_,rfl⟩

-- Apart from the signal only finitely many steps are left, and where there is none left
-- the caller has returned: with an error that a loop has ended with, or after all loops.
theorem steady_state (accepted : validateOptions numbers parsed = .ok opts) :
    ∃ workers, workerCount opts = .ok workers ∧ ∀ past s, Runs advance (begin workers) past s →
      Acc (Later advance (· ≠ .cancel) (· = .cancel)) s ∧ (Stuck s → ∃ result, s.main = .returned result) ∧
      (∀ err, s.main = .returned (some err) → ∃ worker, .ends worker (some err) ∈ past) ∧
      (s.main = .returned none → ∀ worker < workers, .cancel ∈ past ∧ .ends worker none ∈ past) := by
  obtain ⟨workers,count⟩ := accepted_mode accepted
  refine ⟨workers,count,fun past s run => ?_⟩
  have valid := valid_runs run
  have signals : ∀ s label next, True → label = .cancel → advance s label = some next → True ∧ next.rank = s.rank := by
    intro s label next _ signal step
    subst signal
    cases Option.some.inj step
    exact ⟨trivial,rank_cancel⟩
  have owns : ∀ s label next, True → label ≠ .cancel → advance s label = some next → True ∧ next.rank < s.rank :=
    fun s label next _ own step => ⟨trivial,rank_moves (advance_moves step) own⟩
  refine ⟨later_acc Nat.lt_wfRel.wf State.rank signals owns trivial,stuck_returned valid,valid.failed,fun returned worker below => ?_⟩
  obtain ⟨_,known⟩ := valid.ended returned worker below
  exact ⟨valid.stopped worker known,known⟩

end SteadyState

def watching : Parsed Int :=
  {defaults DryRun.defaultNumbers "worker1" with
    opts := {(defaults DryRun.defaultNumbers "worker1").opts with
      externalIface := "eth0", localDeliveryIface := "cni0", telemetryEnable := true}}

def telemetryFails : List Label :=
  [.ends 2 (some "create telemetry dir"),.cancel,.ends 0 none,.send 0,.send 2,.receive,.receive]

theorem watching_returns : ∃ s, Runs advance (begin 3) telemetryFails s ∧ s.main = .returned (some "create telemetry dir") ∧
    ∃ worker, .ends worker (some "create telemetry dir") ∈ telemetryFails := by
  have returned : (telemetryFails.foldlM advance (begin 3)).map State.main = some (.returned (some "create telemetry dir")) := by
    decide +kernel
  obtain ⟨s,done,main⟩ := Option.map_eq_some_iff.mp returned
  have accepted : validateOptions DryRun.defaultNumbers watching = .ok (settled DryRun.defaultNumbers watching) := by decide +kernel
  obtain ⟨workers,count,all⟩ := steady_state accepted
  have three : workerCount (settled DryRun.defaultNumbers watching) = .ok 3 := by decide +kernel
  rw [three] at count
  cases count
  exact ⟨s,Runs.of_fold done,main,(all _ s (Runs.of_fold done)).2.2.1 _ main⟩

end Aipr.SteadyState
