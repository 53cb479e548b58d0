import Aipr.Transition
import Aipr.TwoSyncers

namespace Aipr.WatchMode
open Syncer Transition TwoSyncers

-- A Go channel with a buffer, and the send that gives up when it is full.
structure Channel (cap : Nat) (α : Type) where
  queue : List α
  bounded : queue.length ≤ cap

namespace Channel
variable {cap : Nat} {α : Type}

def empty : Channel cap α := ⟨[],Nat.zero_le _⟩

def trySend (c : Channel cap α) (x : α) : Channel cap α :=
  if room : c.queue.length < cap then
    ⟨c.queue ++ [x],by
      rw [List.length_append,List.length_singleton]
      exact room⟩
  else c

def receive (c : Channel cap α) : Option (α × Channel cap α) :=
  match queued : c.queue with
  | [] => none
  | x :: rest => some (x,⟨rest,by
      have bound := c.bounded
      rw [queued,List.length_cons] at bound
      exact Nat.le_of_succ_le bound⟩)

-- Sent or dropped: the receiver has something to take.
theorem trySend_nonempty (positive : 0 < cap) (c : Channel cap α) (x : α) : (c.trySend x).queue ≠ [] := by
  unfold trySend
  split
  · exact List.append_ne_nil_of_right_ne_nil _ (List.cons_ne_nil x [])
  · rename_i full
    intro none
    rw [none] at full
    exact full positive

theorem receive_queue {c next : Channel cap α} {x : α} (taken : c.receive = some (x,next)) : c.queue = x :: next.queue := by
  unfold receive at taken
  split at taken
  · cases taken
  · rename_i y rest queued
    cases Option.some.inj taken
    exact queued

end Channel

structure Store (α : Type) where
  objects : List α
  version : Nat
deriving DecidableEq

def Store.replace (store : Store α) (objects : List α) : Store α := ⟨objects,store.version + 1⟩

structure Caches where
  services : Store Service
  nodes : Store Node
  slices : Store EndpointSlice
deriving DecidableEq

def Caches.cluster (c : Caches) : Cluster := ⟨c.services.objects,c.nodes.objects,c.slices.objects⟩

inductive Change where
  | services (objects : List Service)
  | nodes (objects : List Node)
  | slices (objects : List EndpointSlice)

def Caches.change (c : Caches) : Change → Caches
  | .services objects => {c with services := c.services.replace objects}
  | .nodes objects => {c with nodes := c.nodes.replace objects}
  | .slices objects => {c with slices := c.slices.replace objects}

inductive Event where
  | add
  | update (sameResourceVersion : Bool)
  | delete
deriving DecidableEq

def Event.reason : Event → Option String
  | .add => some "add"
  | .update same => if same then none else some "update"
  | .delete => some "delete"

-- Where the worker stands: in a reconcile, up to the store it lists next, or in
-- the loops of runWatch.
inductive Phase where
  | listServices
  | listNodes (services : Store Service)
  | listSlices (services : Store Service) (nodes : Store Node)
  | apply (read : Caches) (entries : Entries)
  | waiting
  | debounce
  | exited (error : String)

-- `pending` are the events not yet handed to a handler; `read` is what the last
-- completed reconcile has listed.
structure State where
  caches : Caches
  pending : List Event
  triggerCh : Channel 256 String
  nodeName : String
  appliedEntries : Entries
  read : Option Caches
  phase : Phase

inductive Label where
  | event (event : Event) (change : Change)
  | deliver (event : Event)
  | work
  | receive
  | timer
  | mapError (error : String)

def enqueue (s : State) (reason : String) : State := {s with triggerCh := s.triggerCh.trySend reason}

def handle (s : State) (event : Event) : State :=
  match event.reason with
  | none => s
  | some reason => enqueue s reason

section Watch
variable (selector : Option ServiceSelector) (setting : Setting)

def advance (s : State) : Label → Option State
  | .event event change =>
    -- an update to the same resource version changes nothing
    let caches := if event.reason = none then s.caches else s.caches.change change
    some {s with caches := caches, pending := s.pending ++ [event]}
  | .deliver event => if event ∈ s.pending then some (handle {s with pending := s.pending.erase event} event) else none
  | .work =>
    match s.phase with
    | .listServices => some {s with phase := .listNodes s.caches.services}
    | .listNodes services => some {s with phase := .listSlices services s.caches.nodes}
    | .listSlices services nodes =>
      let read : Caches := ⟨services,nodes,s.caches.slices⟩
      match desiredEntries selector setting s.nodeName read.cluster with
      | .ok (nodeName,entries) => some {s with nodeName := nodeName, phase := .apply read entries}
      | .error err => some {s with phase := .exited err}
    | .apply read entries => some {s with appliedEntries := entries, read := some read, phase := .waiting}
    | _ => none
  | .receive =>
    match s.phase,s.triggerCh.receive with
    | .waiting,some (_,triggerCh) => some {s with triggerCh := triggerCh, phase := .debounce}
    | .debounce,some (_,triggerCh) => some {s with triggerCh := triggerCh}
    | _,_ => none
  | .timer =>
    match s.phase with
    | .debounce => some {s with phase := .listServices}
    | _ => none
  | .mapError error =>
    match s.phase with
    | .apply _ _ => some {s with phase := .exited error}
    | _ => none

-- The caches have synced; the events of their first objects are still to be
-- delivered, and the initial sync begins.
def start (caches : Caches) (pending : List Event) (nodeName : String) : State :=
  ⟨caches,pending,.empty,nodeName,∅,none,.listServices⟩

def UpToDate (s : State) : Prop :=
  match s.phase with
  | .listNodes services => services = s.caches.services
  | .listSlices services nodes => services = s.caches.services ∧ nodes = s.caches.nodes
  | .apply read _ => read = s.caches
  | .waiting => s.read = some s.caches
  | _ => True

def Announced (s : State) : Prop :=
  (∃ event ∈ s.pending, event.reason ≠ none) ∨ s.triggerCh.queue ≠ [] ∨ UpToDate s

inductive Named (given : String) : String → Prop where
  | given : Named given given
  | resolved {current name : String} {nodes : List Node} (before : Named given current)
      (found : resolveNodeName setting.hostname current nodes = .ok name) : Named given name

def Computed (given name : String) (read : Caches) (entries : Entries) : Prop :=
  ∃ current, Named setting given current ∧ desiredEntries selector setting current read.cluster = .ok (name,entries)

def Phase.steady : Phase → Prop
  | .apply _ _ => False
  | .exited _ => False
  | _ => True

structure Valid (given : String) (s : State) : Prop where
  announced : Announced s
  named : Named setting given s.nodeName
  applied : s.phase.steady → ∀ read, s.read = some read →
    Computed selector setting given s.nodeName read s.appliedEntries
  applying : ∀ read entries, s.phase = .apply read entries → Computed selector setting given s.nodeName read entries

-- Applied is the desired set of what the stores hold now, for the controller's node:
-- a reconcile that began now would come to it again.
structure Current (given : String) (s : State) : Prop where
  read : s.read = some s.caches
  own : trimmed given ≠ "" → trimmed s.nodeName = trimmed given
  computed : Computed selector setting given s.nodeName s.caches s.appliedEntries
  again : trimmed s.nodeName = s.nodeName →
    desiredEntries selector setting s.nodeName s.caches.cluster = .ok (s.nodeName,s.appliedEntries)

variable {selector : Option ServiceSelector} {setting : Setting} {given : String}

theorem named_own {name : String} (named : Named setting given name) (wanted : trimmed given ≠ "") :
    trimmed name = trimmed given := by
  induction named with
  | given => rfl
  | resolved before found ih =>
    rw [resolve_given (by rw [ih]; exact wanted) found,trimmed_again,ih]

theorem valid_start (caches : Caches) (pending : List Event) (nodeName : String) :
    Valid selector setting nodeName (start caches pending nodeName) := by
  refine ⟨.inr (.inr trivial),.given,?_,?_⟩
  · intro _ read impossible
    cases impossible
  · intro read entries impossible
    cases impossible

theorem announced_event {s : State} (announced : Announced s) (event : Event) (change : Change) :
    Announced {s with
      caches := if event.reason = none then s.caches else s.caches.change change,
      pending := s.pending ++ [event]} := by
  by_cases silent : event.reason = none
  · rw [if_pos silent]
    rcases announced with ⟨other,listed,loud⟩ | queued | current
    · exact .inl ⟨other,List.mem_append_left _ listed,loud⟩
    · exact .inr (.inl queued)
    · exact .inr (.inr current)
  · exact .inl ⟨event,List.mem_append_right _ List.mem_cons_self,silent⟩

theorem announced_deliver {s : State} (announced : Announced s) (event : Event) :
    Announced (handle {s with pending := s.pending.erase event} event) := by
  unfold handle
  cases loud : event.reason with
  | some reason => exact .inr (.inl (Channel.trySend_nonempty (by decide) _ _))
  | none =>
    rcases announced with ⟨other,listed,heard⟩ | queued | current
    · have apart : other ≠ event := fun same => heard (same ▸ loud)
      exact .inl ⟨other,(List.mem_erase_of_ne apart).mpr listed,heard⟩
    · exact .inr (.inl queued)
    · exact .inr (.inr current)

theorem valid_work {s next : State} (valid : Valid selector setting given s)
    (step : advance selector setting s .work = some next) : Valid selector setting given next := by
  obtain ⟨announced,named,applied,applying⟩ := valid
  -- the worker moves neither the pending events nor the channel
  have moves : ∀ {next : State}, next.pending = s.pending → next.triggerCh = s.triggerCh → (UpToDate s → UpToDate next) →
      Announced next := by
    intro next pending triggerCh kept
    rcases announced with loud | queued | current
    · exact .inl (pending ▸ loud)
    · exact .inr (.inl (triggerCh ▸ queued))
    · exact .inr (.inr (kept current))
  cases here : s.phase with
  | listServices =>
    have still := applied (here ▸ trivial)
    simp only [advance,here,Option.some.injEq] at step
    subst step
    exact ⟨moves rfl rfl fun _ => rfl,named,fun _ => still,fun _ _ impossible => by cases impossible⟩
  | listNodes services =>
    have still := applied (here ▸ trivial)
    simp only [advance,here,Option.some.injEq] at step
    subst step
    refine ⟨moves rfl rfl fun current => ?_,named,fun _ => still,fun _ _ impossible => by cases impossible⟩
    simp only [UpToDate,here] at current
    exact ⟨current,rfl⟩
  | listSlices services nodes =>
    have still := applied (here ▸ trivial)
    simp only [advance,here] at step
    split at step
    · rename_i nodeName entries computed
      cases step
      obtain ⟨_,_,found,_⟩ := desiredEntries_ok.mp computed
      refine ⟨moves rfl rfl fun current => ?_,.resolved named found,nofun,?_⟩
      · simp only [UpToDate,here] at current
        obtain ⟨rfl,rfl⟩ := current
        rfl
      · intro read entries same
        cases same
        exact ⟨_,named,computed⟩
    · cases step
      exact ⟨moves rfl rfl fun _ => trivial,named,nofun,fun _ _ impossible => by cases impossible⟩
  | apply read entries =>
    simp only [advance,here,Option.some.injEq] at step
    subst step
    refine ⟨moves rfl rfl fun current => ?_,named,?_,fun _ _ impossible => by cases impossible⟩
    · simp only [UpToDate,here] at current
      exact congrArg some current
    · intro _ other same
      cases Option.some.inj same
      exact applying read entries here
  | waiting => simp [advance,here] at step
  | debounce => simp [advance,here] at step
  | exited error => simp [advance,here] at step

theorem valid_handle {s : State} (valid : Valid selector setting given s) (event : Event) :
    Valid selector setting given (handle {s with pending := s.pending.erase event} event) := by
  refine ⟨announced_deliver valid.announced event,?_,?_,?_⟩
  · unfold handle
    split
    · exact valid.named
    · exact valid.named
  · unfold handle
    split
    · exact valid.applied
    · exact valid.applied
  · unfold handle
    split
    · exact valid.applying
    · exact valid.applying

theorem valid_advance {s next : State} {label : Label} (valid : Valid selector setting given s)
    (step : advance selector setting s label = some next) : Valid selector setting given next := by
  cases label with
  | event event change =>
    cases step
    exact ⟨announced_event valid.announced event change,valid.named,valid.applied,valid.applying⟩
  | deliver event =>
    simp only [advance] at step
    split at step
    · cases step
      exact valid_handle valid event
    · cases step
  | work => exact valid_work valid step
  | receive =>
    simp only [advance] at step
    split at step
    · rename_i here _
      have still := valid.applied (here ▸ trivial)
      cases step
      exact ⟨.inr (.inr trivial),valid.named,fun _ => still,fun _ _ impossible => by cases impossible⟩
    · rename_i here _
      cases step
      refine ⟨.inr (.inr ?_),valid.named,valid.applied,valid.applying⟩
      simp only [UpToDate,here]
    · cases step
  | timer =>
    simp only [advance] at step
    split at step
    · rename_i here
      have still := valid.applied (here ▸ trivial)
      cases step
      exact ⟨.inr (.inr trivial),valid.named,fun _ => still,fun _ _ impossible => by cases impossible⟩
    · cases step
  | mapError error =>
    simp only [advance] at step
    split at step
    · cases step
      exact ⟨.inr (.inr trivial),valid.named,nofun,fun _ _ impossible => by cases impossible⟩
    · cases step

theorem valid_runs {caches : Caches} {pending : List Event} {nodeName : String} {inputs : List Label} {s : State}
    (run : Runs (advance selector setting) (start caches pending nodeName) inputs s) : Valid selector setting nodeName s := by
  induction run with
  | nil => exact valid_start caches pending nodeName
  | step _ taken ih => exact valid_advance ih taken

theorem no_lost_update {caches : Caches} {pending : List Event} {nodeName : String} {inputs : List Label} {s : State}
    (run : Runs (advance selector setting) (start caches pending nodeName) inputs s) (delivered : s.pending = [])
    (drained : s.triggerCh.queue = []) (waiting : s.phase = .waiting) : Current selector setting nodeName s := by
  have valid := valid_runs run
  have current : s.read = some s.caches := by
    rcases valid.announced with ⟨event,listed,_⟩ | queued | current
    · rw [delivered] at listed
      cases listed
    · exact absurd drained queued
    · simpa only [UpToDate,waiting] using current
  have computed := valid.applied (waiting ▸ trivial) _ current
  refine ⟨current,named_own valid.named,computed,fun plain => ?_⟩
  obtain ⟨_,_,made⟩ := computed
  obtain ⟨snatIP,addressed,found,known,collected⟩ := desiredEntries_ok.mp made
  exact desiredEntries_ok.mpr ⟨snatIP,addressed,resolve_again found plain,known,collected⟩

end Watch

-- The shop's second pod comes while the worker is between its lists and the apply,
-- and three triggers end in one reconcile.
def shopSlice (addresses : List String) : EndpointSlice :=
  ⟨"default","shop",[⟨some "http",some "TCP",some 8080⟩],addresses.map fun address => pod address "worker2"⟩
def synced : Caches := ⟨⟨shopOpen.services,1⟩,⟨shopOpen.nodes,3⟩,⟨shopOpen.slices,1⟩⟩

def podComes : List Label :=
  [.work,.work,.work,.deliver .add,.event (.update false) (.slices [shopSlice ["10.244.1.5","10.244.1.6"]]),.work,
    .deliver .add,.receive,.receive,.deliver (.update false),.receive,.timer,.work,.work,.work,.work]

theorem podComes_seen : ∃ s, Runs (advance none worker1) (start synced [.add,.add] "worker1") podComes s ∧
    Current none worker1 "worker1" s := by
  have waiting : (podComes.foldlM (advance none worker1) (start synced [.add,.add] "worker1")).map (fun s =>
      (s.pending,s.triggerCh.queue,s.phase)) = some ([],[],.waiting) := rfl
  cases done : podComes.foldlM (advance none worker1) (start synced [.add,.add] "worker1") with
  | none =>
    rw [done] at waiting
    cases waiting
  | some s =>
    rw [done] at waiting
    simp only [Option.map_some,Option.some.injEq,Prod.mk.injEq] at waiting
    exact ⟨s,Runs.of_fold done,no_lost_update (Runs.of_fold done) waiting.1 waiting.2.1 waiting.2.2⟩

end Aipr.WatchMode
