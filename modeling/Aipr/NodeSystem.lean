import Aipr.Candidates
import Aipr.Refinement
import Aipr.WatchMode

namespace Aipr.NodeSystem
open NodeportTc Syncer Transition

-- One node: the informers and the loops of runWatch, and the reconcile on the maps
-- that the datapath reads.
structure State where
  watch : WatchMode.State
  sync : SyncSystem.State Unit

-- A reconcile resolves the interfaces and syncs the config, lists the three stores,
-- makes its map calls and keeps the entries. It ends with the first error.
inductive Label where
  | event (event : WatchMode.Event) (change : WatchMode.Change)
  | deliver (event : WatchMode.Event)
  | receive
  | timer
  | configure (config : DeliveryConfig)
  | ifaceError (error : String)
  | call
  | mapError (cause : String)
  | list
  | read (desired : DesiredSet)
  | readError
  | finish
  | packet (h : Helpers) (skb : Frame)
  | deleteCT (r : NodeportCtKey)
  | deleteFwd (k : NodeportFwdCtKey)

def Label.outside : Label → Bool
  | .event _ _ => true
  | .packet _ _ => true
  | .deleteCT _ => true
  | .deleteFwd _ => true
  | _ => false

def Label.isEvent : Label → Bool
  | .event _ _ => true
  | _ => false

def State.proc (s : State) : SyncSystem.Proc := s.sync.procs ()

section System
variable (selector : Option ServiceSelector) (setting : Setting)

def State.watches (s : State) (label : WatchMode.Label) : Option State :=
  (WatchMode.advance selector setting s.watch label).map fun watch => {s with watch := watch}

def State.syncs (s : State) (label : SyncSystem.Label Unit) : Option State :=
  (SyncSystem.advance s.sync label).map fun sync => {s with sync := sync}

def advance (s : State) : Label → Option State
  | .event event change => s.watches selector setting (.event event change)
  | .deliver event => s.watches selector setting (.deliver event)
  | .receive => s.watches selector setting .receive
  | .timer => s.watches selector setting .timer
  | .configure config =>
    match s.watch.phase with
    | .listServices => s.syncs (.sync () (.configure config))
    | _ => none
  | .ifaceError error =>
    match s.watch.phase,s.proc.phase with
    | .listServices,.idle => s.syncs (.sync () (.abort error))
    | _,_ => none
  | .call => s.syncs (.sync () .call)
  | .mapError cause => s.syncs (.sync () (.mapError cause))
  | .list =>
    match s.watch.phase,s.proc.phase with
    | .listServices,.starting _ [] => s.watches selector setting .work
    | .listNodes _,.starting _ [] => s.watches selector setting .work
    | _,_ => none
  | .read desired =>
    match s.watch.phase with
    | .listSlices services nodes =>
      -- the entries that desiredEntries returns are the ones that are applied
      match desiredEntries selector setting s.watch.nodeName (WatchMode.Caches.cluster ⟨services,nodes,s.watch.caches.slices⟩) with
      | .ok (_,entries) =>
        if desired.table.entries = entries.entries then (s.syncs (.sync () (.read desired))).bind (·.watches selector setting .work) else none
      | .error _ => none
    | _ => none
  | .readError =>
    match s.watch.phase with
    | .listSlices services nodes =>
      match desiredEntries selector setting s.watch.nodeName (WatchMode.Caches.cluster ⟨services,nodes,s.watch.caches.slices⟩) with
      | .ok _ => none
      | .error err => s.syncs (.sync () (.abort err))
    | _ => none
  | .finish =>
    match s.watch.phase with
    | .apply _ _ =>
      match s.proc.phase with
      | .running _ _ [] none => (s.syncs (.sync () .finish)).bind (·.watches selector setting .work)
      | _ => s.syncs (.sync () .finish)
    | _ => none
  | .packet h skb => s.syncs (.packet h skb)
  | .deleteCT r => s.syncs (.deleteCT r)
  | .deleteFwd k => s.syncs (.deleteFwd k)

-- The informers have synced, no entry is installed, and the initial sync begins.
def start (m : Maps) (caches : WatchMode.Caches) (pending : List WatchMode.Event) (nodeName : String) : State :=
  ⟨WatchMode.start caches pending nodeName,SyncSystem.start m⟩

structure Quiet (s : State) : Prop where
  delivered : s.watch.pending = []
  drained : s.watch.triggerCh.queue = []
  waiting : s.watch.phase = .waiting

def Exited (s : State) : Prop := ∃ error desired, s.proc.phase = .exited error desired

end System

def State.withProc (s : State) (m : Maps) (p : SyncSystem.Proc) : State := ⟨s.watch,⟨m,SyncSystem.setProc s.sync.procs () p⟩⟩

@[simp] theorem withProc_proc (s : State) (m : Maps) (p : SyncSystem.Proc) : (s.withProc m p).proc = p :=
  SyncSystem.setProc_here s.sync.procs () p

inductive Alone (s : State) : Label → SyncSystem.Action → Prop where
  | configure : s.watch.phase = .listServices → Alone s (.configure config) (.configure config)
  | ifaceError : s.watch.phase = .listServices → s.proc.phase = .idle → Alone s (.ifaceError error) (.abort error)
  | call : Alone s .call .call
  | mapError : Alone s (.mapError cause) (.mapError cause)
  | readError : s.watch.phase = .listSlices services nodes → Alone s .readError (.abort error)
  | fail : (∀ desired executed, s.proc.phase ≠ .running desired executed [] none) → Alone s .finish .finish

inductive Moves (selector : Option ServiceSelector) (setting : Setting) (s : State) : Label → State → Prop where
  | event : Moves selector setting s (.event event change) {s with watch := {s.watch with
      caches := if event.reason = none then s.watch.caches else s.watch.caches.change change
      pending := s.watch.pending ++ [event]}}
  | deliver : event ∈ s.watch.pending → Moves selector setting s (.deliver event)
      {s with watch := WatchMode.handle {s.watch with pending := s.watch.pending.erase event} event}
  | receive : s.watch.phase = .waiting ∨ s.watch.phase = .debounce → s.watch.triggerCh.receive = some (reason,triggerCh) →
      Moves selector setting s .receive {s with watch := {s.watch with triggerCh := triggerCh, phase := .debounce}}
  | timer : s.watch.phase = .debounce → Moves selector setting s .timer {s with watch := {s.watch with phase := .listServices}}
  | listServices : s.watch.phase = .listServices → s.proc.phase = .starting config [] →
      Moves selector setting s .list {s with watch := {s.watch with phase := .listNodes s.watch.caches.services}}
  | listNodes : s.watch.phase = .listNodes services → s.proc.phase = .starting config [] →
      Moves selector setting s .list {s with watch := {s.watch with phase := .listSlices services s.watch.caches.nodes}}
  | read : s.watch.phase = .listSlices services nodes →
      desiredEntries selector setting s.watch.nodeName (WatchMode.Caches.cluster ⟨services,nodes,s.watch.caches.slices⟩) =
        .ok (nodeName,desired.table) →
      SyncSystem.Acts s.sync.maps s.proc (.read desired) m p →
      Moves selector setting s (.read desired) {s.withProc m p with watch := {s.watch with
        nodeName := nodeName
        phase := .apply ⟨services,nodes,s.watch.caches.slices⟩ desired.table}}
  | finish : s.proc.phase = .running desired executed [] none → s.watch.phase = .apply seen entries →
      Moves selector setting s .finish {s.withProc s.sync.maps {s.proc with applied := desired, phase := .idle} with
        watch := {s.watch with appliedEntries := entries, read := some seen, phase := .waiting}}
  | acts : Alone s label action → SyncSystem.Acts s.sync.maps s.proc action m p → Moves selector setting s label (s.withProc m p)
  | datapath : label.outside = true → label.isEvent = false → Moves selector setting s label {s with sync := {s.sync with maps := m}}

section Moves
variable {selector : Option ServiceSelector} {setting : Setting} {s next : State} {label : Label}

theorem watches_some {label : WatchMode.Label} (step : s.watches selector setting label = some next) :
    ∃ watch, WatchMode.advance selector setting s.watch label = some watch ∧ next = {s with watch := watch} := by
  obtain ⟨watch,taken,rfl⟩ := Option.map_eq_some_iff.mp step
  exact ⟨watch,taken,rfl⟩

theorem syncs_some {action : SyncSystem.Action} (step : s.syncs (.sync () action) = some next) :
    ∃ m p, SyncSystem.Acts s.sync.maps s.proc action m p ∧ next = s.withProc m p := by
  obtain ⟨sync,taken,rfl⟩ := Option.map_eq_some_iff.mp step
  obtain ⟨⟨m,p⟩,acted,rfl⟩ := Option.map_eq_some_iff.mp taken
  exact ⟨m,p,SyncSystem.act_cases acted,rfl⟩

theorem alone_moves {action : SyncSystem.Action} (alone : Alone s label action) (step : s.syncs (.sync () action) = some next) :
    Moves selector setting s label next := by
  obtain ⟨m,p,acted,rfl⟩ := syncs_some step
  exact .acts alone acted

theorem read_moves {desired : DesiredSet} (step : advance selector setting s (.read desired) = some next) :
    Moves selector setting s (.read desired) next := by
  simp only [advance] at step
  split at step
  · rename_i services nodes here
    split at step
    · rename_i nodeName entries computed
      split at step
      · rename_i same
        cases AList.ext same
        obtain ⟨middle,synced,worked⟩ := Option.bind_eq_some_iff.mp step
        obtain ⟨m,p,acted,rfl⟩ := syncs_some synced
        obtain ⟨watch,taken,rfl⟩ := watches_some worked
        simp only [State.withProc,WatchMode.advance,here,computed,Option.some.injEq] at taken
        subst taken
        exact .read here computed acted
      · cases step
    · cases step
  · cases step

theorem finish_moves (step : advance selector setting s .finish = some next) : Moves selector setting s .finish next := by
  simp only [advance] at step
  split at step
  · rename_i seen entries here
    split at step
    · rename_i desired executed there
      obtain ⟨middle,synced,worked⟩ := Option.bind_eq_some_iff.mp step
      obtain ⟨m,p,acted,rfl⟩ := syncs_some synced
      obtain ⟨watch,taken,rfl⟩ := watches_some worked
      simp only [State.withProc,WatchMode.advance,here,Option.some.injEq] at taken
      subst taken
      cases acted with
      | finish again =>
        cases there.symm.trans again
        exact .finish there here
      | fail again => cases there.symm.trans again
    · rename_i other
      exact alone_moves (.fail other) step
  · cases step

theorem advance_moves (step : advance selector setting s label = some next) : Moves selector setting s label next := by
  cases label with
  | event event change =>
    cases step
    exact .event
  | deliver event =>
    obtain ⟨watch,taken,rfl⟩ := watches_some step
    simp only [WatchMode.advance] at taken
    split at taken
    · cases taken
      exact .deliver (by assumption)
    · cases taken
  | receive =>
    obtain ⟨watch,taken,rfl⟩ := watches_some step
    simp only [WatchMode.advance] at taken
    split at taken
    · rename_i here received
      cases taken
      exact .receive (.inl here) received
    · rename_i here received
      cases taken
      have move : Moves selector setting s .receive _ := .receive (.inr here) received
      rwa [← here] at move
    · cases taken
  | timer =>
    obtain ⟨watch,taken,rfl⟩ := watches_some step
    simp only [WatchMode.advance] at taken
    split at taken
    · cases taken
      exact .timer (by assumption)
    · cases taken
  | configure config =>
    simp only [advance] at step
    split at step
    · exact alone_moves (.configure (by assumption)) step
    · cases step
  | ifaceError error =>
    simp only [advance] at step
    split at step
    · exact alone_moves (.ifaceError (by assumption) (by assumption)) step
    · cases step
  | call => exact alone_moves .call step
  | mapError cause => exact alone_moves .mapError step
  | list =>
    simp only [advance] at step
    split at step
    · rename_i here there
      obtain ⟨watch,taken,rfl⟩ := watches_some step
      simp only [WatchMode.advance,here,Option.some.injEq] at taken
      subst taken
      exact .listServices here there
    · rename_i here there
      obtain ⟨watch,taken,rfl⟩ := watches_some step
      simp only [WatchMode.advance,here,Option.some.injEq] at taken
      subst taken
      exact .listNodes here there
    · cases step
  | read desired => exact read_moves step
  | readError =>
    simp only [advance] at step
    split at step
    · split at step
      · cases step
      · exact alone_moves (.readError (by assumption)) step
    · cases step
  | finish => exact finish_moves step
  | packet h skb =>
    cases step
    exact .datapath rfl rfl
  | deleteCT r =>
    cases step
    exact .datapath rfl rfl
  | deleteFwd k =>
    cases step
    exact .datapath rfl rfl

end Moves

def Busy : WatchMode.Phase → Prop
  | .waiting => False
  | .debounce => False
  | _ => True

inductive Linked : WatchMode.Phase → SyncSystem.Phase → Prop where
  | waiting : Linked .waiting .idle
  | debounce : Linked .debounce .idle
  | starts : Linked .listServices .idle
  | configures : Linked .listServices (.starting config calls)
  | nodes : Linked (.listNodes services) (.starting config [])
  | slices : Linked (.listSlices services nodes) (.starting config [])
  | applies : Linked (.apply seen desired.table) (.running desired executed calls error)
  | exited : Busy phase → Linked phase (.exited error desired)

section Linked
variable {phase : WatchMode.Phase} {place : SyncSystem.Phase} {config : DeliveryConfig} {desired : DesiredSet} {c : Syncer.Call}
  {executed rest calls : List Syncer.Call} {error : Option String}

theorem Linked.calling (linked : Linked phase (.starting config (c :: rest))) : phase = .listServices := by
  cases linked
  rfl

theorem Linked.running (linked : Linked phase (.running desired executed calls error)) : ∃ seen, phase = .apply seen desired.table := by
  cases linked
  exact ⟨_,rfl⟩

theorem Linked.resting (linked : Linked phase place) (idle : phase = .waiting ∨ phase = .debounce) : place = .idle := by
  cases linked with
  | waiting => rfl
  | debounce => rfl
  | exited busy =>
    rcases idle with rfl | rfl
    · exact busy.elim
    · exact busy.elim
  | _ => simp at idle

end Linked

structure Joined (s : State) : Prop where
  phases : Linked s.watch.phase s.proc.phase
  entries : s.watch.appliedEntries = s.proc.applied.table

section Joined
variable {selector : Option ServiceSelector} {setting : Setting} {s next : State} {label : Label}

theorem handle_kept (w : WatchMode.State) (event : WatchMode.Event) : (WatchMode.handle w event).phase = w.phase ∧
    (WatchMode.handle w event).appliedEntries = w.appliedEntries ∧ (WatchMode.handle w event).pending = w.pending ∧
    (WatchMode.handle w event).caches = w.caches ∧ (WatchMode.handle w event).nodeName = w.nodeName ∧
    (WatchMode.handle w event).read = w.read := by
  unfold WatchMode.handle
  cases event.reason <;> exact ⟨rfl,rfl,rfl,rfl,rfl,rfl⟩

theorem alone_linked {action : SyncSystem.Action} {m : Maps} {p : SyncSystem.Proc} (linked : Linked s.watch.phase s.proc.phase)
    (alone : Alone s label action) (acted : SyncSystem.Acts s.sync.maps s.proc action m p) :
    Linked s.watch.phase p.phase ∧ p.applied = s.proc.applied := by
  cases alone with
  | configure here =>
    cases acted with
    | configure idle calls =>
      rw [here]
      exact ⟨.configures,rfl⟩
  | ifaceError here idle =>
    rw [here]
    cases acted with
    | configAbort there => exact ⟨.exited trivial,rfl⟩
    | readAbort there => exact ⟨.exited trivial,rfl⟩
  | call =>
    cases acted with
    | configCall there done =>
      rw [there] at linked
      rw [linked.calling]
      exact ⟨.configures,rfl⟩
    | entryCall there done =>
      rw [there] at linked
      obtain ⟨seen,here⟩ := linked.running
      rw [here]
      exact ⟨.applies,rfl⟩
  | mapError =>
    cases acted with
    | configError there =>
      rw [there] at linked
      rw [linked.calling]
      exact ⟨.exited trivial,rfl⟩
    | entryError there =>
      rw [there] at linked
      obtain ⟨seen,here⟩ := linked.running
      rw [here]
      exact ⟨.exited trivial,rfl⟩
  | readError here =>
    rw [here]
    cases acted with
    | configAbort there => exact ⟨.exited trivial,rfl⟩
    | readAbort there => exact ⟨.exited trivial,rfl⟩
  | fail other =>
    cases acted with
    | finish there => exact absurd there (other _ _)
    | fail there =>
      rw [there] at linked
      obtain ⟨seen,here⟩ := linked.running
      rw [here]
      exact ⟨.exited trivial,rfl⟩

theorem joined_moves (joined : Joined s) (move : Moves selector setting s label next) : Joined next := by
  obtain ⟨linked,entries⟩ := joined
  cases move with
  | event => exact ⟨linked,entries⟩
  | deliver listed =>
    obtain ⟨phase,applied,_⟩ := handle_kept {s.watch with pending := s.watch.pending.erase _} _
    exact ⟨phase.symm ▸ linked,applied.symm ▸ entries⟩
  | receive here received =>
    have idle := linked.resting here
    exact ⟨idle.symm ▸ .debounce,entries⟩
  | timer here =>
    have idle := linked.resting (.inr here)
    exact ⟨idle.symm ▸ .starts,entries⟩
  | listServices here there => exact ⟨there.symm ▸ .nodes,entries⟩
  | listNodes here there => exact ⟨there.symm ▸ .slices,entries⟩
  | read here computed acted =>
    cases acted with
    | read there =>
      refine ⟨?_,?_⟩
      · change Linked _ (s.withProc _ _).proc.phase
        rw [withProc_proc]
        exact .applies
      · change _ = (s.withProc _ _).proc.applied.table
        rw [withProc_proc]
        exact entries
  | finish there here =>
    rw [there] at linked
    obtain ⟨seen,again⟩ := linked.running
    cases here.symm.trans again
    refine ⟨?_,?_⟩
    · change Linked _ (s.withProc _ _).proc.phase
      rw [withProc_proc]
      exact .waiting
    · change _ = (s.withProc _ _).proc.applied.table
      rw [withProc_proc]
  | acts alone acted =>
    obtain ⟨phases,applied⟩ := alone_linked linked alone acted
    refine ⟨?_,?_⟩
    · rw [withProc_proc]
      exact phases
    · rw [withProc_proc,applied]
      exact entries
  | datapath outside other => exact ⟨linked,entries⟩

theorem joined_runs {m : Maps} {caches : WatchMode.Caches} {pending : List WatchMode.Event} {nodeName : String} {inputs : List Label}
    (run : Runs (advance selector setting) (start m caches pending nodeName) inputs s) : Joined s :=
  run.always ⟨.starts,rfl⟩ fun _ _ _ joined step => joined_moves joined (advance_moves step)

end Joined

section Projections
variable {selector : Option ServiceSelector} {setting : Setting} {s middle next : State} {label : Label}

def Projects (selector : Option ServiceSelector) (setting : Setting) (s next : State) : Prop :=
  (∃ labels, Runs (WatchMode.advance selector setting) s.watch labels next.watch) ∧
    ∃ labels, Runs SyncSystem.advance s.sync labels next.sync

theorem watches_projects {label : WatchMode.Label} (step : s.watches selector setting label = some next) :
    Projects selector setting s next := by
  obtain ⟨watch,taken,rfl⟩ := watches_some step
  exact ⟨⟨_,.single taken⟩,[],.nil⟩

theorem syncs_projects {label : SyncSystem.Label Unit} (step : s.syncs label = some next) : Projects selector setting s next := by
  obtain ⟨sync,taken,rfl⟩ := Option.map_eq_some_iff.mp step
  exact ⟨⟨[],.nil⟩,_,.single taken⟩

theorem projects_trans (first : Projects selector setting s middle) (second : Projects selector setting middle next) :
    Projects selector setting s next := by
  obtain ⟨⟨_,watch⟩,_,sync⟩ := first
  obtain ⟨⟨_,watch'⟩,_,sync'⟩ := second
  exact ⟨⟨_,watch.append watch'⟩,_,sync.append sync'⟩

theorem both_projects {label : SyncSystem.Label Unit}
    (step : (s.syncs label).bind (·.watches selector setting .work) = some next) : Projects selector setting s next := by
  obtain ⟨middle,synced,worked⟩ := Option.bind_eq_some_iff.mp step
  exact projects_trans (syncs_projects synced) (watches_projects worked)

theorem advance_projects (step : advance selector setting s label = some next) : Projects selector setting s next := by
  unfold advance at step
  split at step
  case h_1 | h_2 | h_3 | h_4 => exact watches_projects step
  case h_7 | h_8 | h_13 | h_14 | h_15 => exact syncs_projects step
  case h_5 =>
    split at step
    · exact syncs_projects step
    · cases step
  case h_6 =>
    split at step
    · exact syncs_projects step
    · cases step
  case h_9 =>
    split at step
    · exact watches_projects step
    · exact watches_projects step
    · cases step
  case h_10 =>
    split at step
    · split at step
      · split at step
        · exact both_projects step
        · cases step
      · cases step
    · cases step
  case h_11 =>
    split at step
    · split at step
      · cases step
      · exact syncs_projects step
    · cases step
  case h_12 =>
    split at step
    · split at step
      · exact both_projects step
      · exact syncs_projects step
    · cases step

theorem runs_projects {inputs : List Label} (run : Runs (advance selector setting) s inputs next) : Projects selector setting s next := by
  induction run with
  | nil => exact ⟨⟨[],.nil⟩,[],.nil⟩
  | step prior taken ih => exact projects_trans ih (advance_projects taken)

end Projections

section Names
variable {selector : Option ServiceSelector} {setting : Setting} {s next : State} {label : Label} {given : String}

def ReadAs (selector : Option ServiceSelector) (setting : Setting) (given name : String) (seen : WatchMode.Caches) (entries : Entries) : Prop :=
  (trimmed given ≠ "" → name = trimmed given) ∧ ∃ current, desiredEntries selector setting current seen.cluster = .ok (name,entries)

structure Reads (selector : Option ServiceSelector) (setting : Setting) (given : String) (s : State) : Prop where
  own : trimmed given ≠ "" → trimmed s.watch.nodeName = trimmed given
  applying : ∀ seen entries, s.watch.phase = .apply seen entries → ReadAs selector setting given s.watch.nodeName seen entries
  applied : (∀ seen entries, s.watch.phase ≠ .apply seen entries) → ∀ seen, s.watch.read = some seen →
    ReadAs selector setting given s.watch.nodeName seen s.watch.appliedEntries

theorem reads_moves (reads : Reads selector setting given s) (move : Moves selector setting s label next) :
    Reads selector setting given next := by
  obtain ⟨own,applying,applied⟩ := reads
  cases move with
  | event => exact ⟨own,applying,applied⟩
  | deliver listed =>
    obtain ⟨phase,entries,_,_,name,seen⟩ := handle_kept {s.watch with pending := s.watch.pending.erase _} _
    refine ⟨?_,?_,?_⟩
    · rw [name]
      exact own
    · rw [phase,name]
      exact applying
    · rw [phase,name,seen,entries]
      exact applied
  | receive here received =>
    refine ⟨own,fun _ _ impossible => (by cases impossible),fun _ => applied fun seen entries there => ?_⟩
    rcases here with waiting | debounce
    · cases waiting.symm.trans there
    · cases debounce.symm.trans there
  | timer here =>
    exact ⟨own,fun _ _ impossible => (by cases impossible),fun _ => applied fun _ _ there => by cases here.symm.trans there⟩
  | listServices here _ =>
    exact ⟨own,fun _ _ impossible => (by cases impossible),fun _ => applied fun _ _ there => by cases here.symm.trans there⟩
  | listNodes here _ =>
    exact ⟨own,fun _ _ impossible => (by cases impossible),fun _ => applied fun _ _ there => by cases here.symm.trans there⟩
  | read here computed acted =>
    obtain ⟨_,_,resolved,_⟩ := desiredEntries_ok.mp computed
    have same : trimmed given ≠ "" → _ = trimmed given := fun named =>
      (resolve_given (by rw [own named]; exact named) resolved).trans (own named)
    refine ⟨?_,?_,?_⟩
    · intro named
      rw [same named,trimmed_again]
    · intro seen entries here
      cases here
      exact ⟨same,_,computed⟩
    · exact fun other => absurd rfl (other _ _)
  | finish there here =>
    refine ⟨own,fun _ _ impossible => (by cases impossible),fun _ seen found => ?_⟩
    cases found
    exact applying _ _ here
  | acts alone acted => exact ⟨own,applying,applied⟩
  | datapath outside other => exact ⟨own,applying,applied⟩

theorem reads_runs {m : Maps} {caches : WatchMode.Caches} {pending : List WatchMode.Event} {nodeName : String} {inputs : List Label}
    (run : Runs (advance selector setting) (start m caches pending nodeName) inputs s) : Reads selector setting nodeName s := by
  have first : Reads selector setting nodeName (start m caches pending nodeName) := by
    refine ⟨fun _ => rfl,?_,?_⟩
    · intro seen entries impossible
      cases impossible
    · intro _ seen impossible
      cases impossible
  exact run.always first fun _ _ _ reads step => reads_moves reads (advance_moves step)

end Names

section Routes
variable (selector : Option ServiceSelector) (cluster : Cluster) (nodeIPs : AList (fun _ : String => String)) (nodeIP snatIP : String)
  (h : Helpers) (skb : Frame) (hdr : Headers) (m : Maps)

def Reaches (x : Exposure) : Prop :=
  ∃ y ∈ exposures selector cluster.services, y.id = x.id ∧
    ∃ slice ∈ sliceIndex cluster.slices ⟨x.1.nameSpace,x.1.name⟩, ∃ endpoint ∈ slice.endpoints, Usable nodeIPs endpoint ∧
      ∃ port ∈ matchingSlicePorts y.2 slice,
        Refinement.At (firstIPv4Address endpoint) port (loadTuple (outSkb h skb m) hdr).daddr (loadTuple (outSkb h skb m) hdr).dport ∧
        parseIPv4 snatIP = some (loadTuple (outSkb h skb m) hdr).saddr

structure Routes : Prop where
  translated : ∀ x ∈ exposures selector cluster.services, x.Backed nodeIPs cluster.slices →
    Refinement.At nodeIP x.2.nodePort (loadTuple skb hdr).daddr (loadTuple skb hdr).dport →
      Reaches selector cluster nodeIPs snatIP h skb hdr m x
  passed : (∀ x ∈ exposures selector cluster.services, x.Backed nodeIPs cluster.slices →
    ¬ Refinement.At nodeIP x.2.nodePort (loadTuple skb hdr).daddr (loadTuple skb hdr).dport) →
      outSkb h skb m = skb ∧ (outMaps h skb m).ct = m.ct ∧ (outMaps h skb m).fwdCt = m.fwdCt

variable {selector cluster nodeIPs nodeIP snatIP h skb hdr m}

theorem installed_translates {d : DesiredSet} {id : ServiceID} {e : NodePortEntry} (installed : Installed m d)
    (found : d.lookup id = some e) (populated : e.backends ≠ [])
    (addressed : Refinement.At e.nodeIP e.id.nodePort (loadTuple skb hdr).daddr (loadTuple skb hdr).dport)
    (parsed : parseTcpPacket skb = some hdr) (missed : m.ct.lookup (responseKey (loadTuple skb hdr)) = none)
    (unowned : m.fwdCt.lookup (forwardKey (loadTuple skb hdr)) = none) (unhindered : Refinement.Unhindered h skb hdr m) :
    ∃ b ∈ e.backends,
      Refinement.At b.address b.port (loadTuple (outSkb h skb m) hdr).daddr (loadTuple (outSkb h skb m) hdr).dport ∧
      parseIPv4 e.snatIP = some (loadTuple (outSkb h skb m) hdr).saddr := by
  obtain ⟨key,here,entry⟩ := installed.entry id e found
  have framed : e.frontend = some (serviceKey (loadTuple skb hdr)) :=
    (Refinement.frontend_at (by rw [here]; exact Option.some_ne_none key)).mpr addressed
  cases Option.some.inj (here.symm.trans framed)
  obtain ⟨v,picked,snat,b,listed,atBackend⟩ := Refinement.installed_chosen entry populated unowned
  obtain ⟨_,_,_,out⟩ := installs (h := h) parsed missed picked (unhindered.recorded v picked) (unhindered.pinned v picked)
  rw [sent_tuple parsed out (unhindered.rewritten v picked)]
  exact ⟨b,listed,atBackend,snat⟩

theorem installed_passes {d : DesiredSet} (installed : Installed m d) (unaddressed : ∀ id e, d.lookup id = some e →
      ¬ Refinement.At e.nodeIP e.id.nodePort (loadTuple skb hdr).daddr (loadTuple skb hdr).dport)
    (parsed : parseTcpPacket skb = some hdr) (missed : m.ct.lookup (responseKey (loadTuple skb hdr)) = none) :
    outSkb h skb m = skb ∧ (outMaps h skb m).ct = m.ct ∧ (outMaps h skb m).fwdCt = m.fwdCt := by
  have unserved : m.service.lookup (serviceKey (loadTuple skb hdr)) = none := by
    by_contra present
    obtain ⟨id,e,found,here⟩ := installed.services _ present
    exact unaddressed id e found ((Refinement.frontend_at (by rw [here]; exact Option.some_ne_none _)).mp here)
  exact passes parsed missed (.inl unserved) (by simp [chosen,unserved])

theorem collected_backend {x : Exposure} {b : Backend} (listed : b ∈ (x.entry nodeIPs nodeIP snatIP cluster.slices).backends) :
    ∃ slice ∈ sliceIndex cluster.slices ⟨x.1.nameSpace,x.1.name⟩, ∃ endpoint ∈ slice.endpoints, Usable nodeIPs endpoint ∧
      ∃ port ∈ matchingSlicePorts x.2 slice, b.address = firstIPv4Address endpoint ∧ b.port = port := by
  have member := (FirstPerKey.mem_of_firsts (mem_collectBackends.mp listed)).1
  obtain ⟨slice,filed,endpoint,inside,usable,port,matching,rfl⟩ := mem_candidates.mp member
  exact ⟨slice,filed,endpoint,inside,usable,port,matching,rfl,rfl⟩

-- With the entries of the cluster in the tables, the datapath serves the cluster.
theorem routes_of_installed {d : DesiredSet} (installed : Installed m d)
    (collected : d.table = collectEntries nodeIPs nodeIP snatIP selector cluster) (parsed : parseTcpPacket skb = some hdr)
    (missed : m.ct.lookup (responseKey (loadTuple skb hdr)) = none)
    (unowned : m.fwdCt.lookup (forwardKey (loadTuple skb hdr)) = none) (unhindered : Refinement.Unhindered h skb hdr m) :
    Routes selector cluster nodeIPs nodeIP snatIP h skb hdr m := by
  have filed : ∀ id, d.lookup id = (holder nodeIPs selector cluster id).map fun x => x.entry nodeIPs nodeIP snatIP cluster.slices := by
    intro id
    rw [DesiredSet.lookup,collected]
    exact lookup_collected nodeIPs nodeIP snatIP selector cluster id
  constructor
  · intro x listed backed addressed
    have held : (holder nodeIPs selector cluster x.id).isSome := by
      rw [holder,List.find?_isSome]
      exact ⟨x,List.mem_reverse.mpr listed,by simpa using backed⟩
    obtain ⟨y,found⟩ := Option.isSome_iff_exists.mp held
    obtain ⟨member,served,same⟩ := holder_source found
    have entry : d.lookup x.id = some (y.entry nodeIPs nodeIP snatIP cluster.slices) := by
      rw [filed,found]
      rfl
    have populated : (y.entry nodeIPs nodeIP snatIP cluster.slices).backends ≠ [] :=
      fun empty => served.2.2.2.2 (collectBackends_empty.mp empty)
    have port : y.id.nodePort = x.2.nodePort := congrArg ServiceID.nodePort same
    rw [← port] at addressed
    have place : (⟨y.1.nameSpace,y.1.name⟩ : ServiceRef) = ⟨x.1.nameSpace,x.1.name⟩ :=
      congrArg (fun id : ServiceID => (⟨id.nameSpace,id.name⟩ : ServiceRef)) same
    obtain ⟨b,backend,atBackend,snat⟩ := installed_translates installed entry populated addressed parsed missed unowned unhindered
    obtain ⟨slice,slices,endpoint,inside,usable,number,matching,address,target⟩ := collected_backend backend
    rw [place] at slices
    rw [address,target] at atBackend
    exact ⟨y,member,same,slice,slices,endpoint,inside,usable,number,matching,atBackend,snat⟩
  · intro unaddressed
    refine installed_passes installed (fun id e found addressed => ?_) parsed missed
    rw [filed] at found
    obtain ⟨x,held,rfl⟩ := Option.map_eq_some_iff.mp found
    obtain ⟨member,backed,_⟩ := holder_source held
    exact unaddressed x member backed addressed

end Routes

section Quiet
variable {selector : Option ServiceSelector} {setting : Setting} {m : Maps} {caches : WatchMode.Caches}
  {pending : List WatchMode.Event} {nodeName : String} {inputs : List Label} {s : State}

theorem quiet_read (run : Runs (advance selector setting) (start m caches pending nodeName) inputs s) (quiet : Quiet s) :
    s.watch.read = some s.watch.caches := by
  obtain ⟨⟨labels,watched⟩,_⟩ := runs_projects run
  have valid := WatchMode.valid_runs watched
  rcases valid.announced with ⟨event,listed,_⟩ | queued | current
  · rw [quiet.delivered] at listed
    cases listed
  · exact absurd quiet.drained queued
  · simpa only [WatchMode.UpToDate,quiet.waiting] using current

theorem quiet_installed (run : Runs (advance selector setting) (start m caches pending nodeName) inputs s) (quiet : Quiet s) :
    Installed s.sync.maps s.proc.applied ∧ s.proc.applied.table = s.watch.appliedEntries := by
  obtain ⟨_,labels,synced⟩ := runs_projects run
  have joined := joined_runs run
  have idle := joined.phases.resting (.inl quiet.waiting)
  exact ⟨Convergence.idle_installed (SyncSystem.valid_runs synced) idle,joined.entries.symm⟩

-- Once nothing is on its way any more, every first packet is handled as the cluster
-- of the last event says.
theorem packets_follow_cluster (run : Runs (advance selector setting) (start m caches pending nodeName) inputs s) (quiet : Quiet s) :
    ∃ snatIP current, snatAddress setting = .ok snatIP ∧ (trimmed nodeName ≠ "" → s.watch.nodeName = trimmed nodeName) ∧
      resolveNodeName setting.hostname current s.watch.caches.cluster.nodes = .ok s.watch.nodeName ∧
      ∀ h skb hdr, parseTcpPacket skb = some hdr → s.sync.maps.ct.lookup (responseKey (loadTuple skb hdr)) = none →
        s.sync.maps.fwdCt.lookup (forwardKey (loadTuple skb hdr)) = none → Refinement.Unhindered h skb hdr s.sync.maps →
        Routes selector s.watch.caches.cluster (buildNodeInternalIPs s.watch.caches.cluster.nodes)
          (nodeIPOf (buildNodeInternalIPs s.watch.caches.cluster.nodes) s.watch.nodeName) snatIP h skb hdr s.sync.maps := by
  have waits : ∀ seen entries, s.watch.phase ≠ .apply seen entries := by
    intro seen entries there
    cases quiet.waiting.symm.trans there
  obtain ⟨named,current,computed⟩ := (reads_runs run).applied waits _ (quiet_read run quiet)
  obtain ⟨snatIP,addressed,resolved,_,collected⟩ := desiredEntries_ok.mp computed
  obtain ⟨installed,same⟩ := quiet_installed run quiet
  refine ⟨snatIP,current,addressed,named,resolved,fun h skb hdr parsed missed unowned unhindered => ?_⟩
  exact routes_of_installed installed (same.trans collected) parsed missed unowned unhindered

def shopOpens : List Label :=
  [.packet (plainHelpers 5) (tcpFrame Convergence.caller),.configure ⟨2,3,4,1⟩,.call,.list,.list,.read (.single BackendUpdate.smallShop),
    .call,.call,.deliver .add,.finish,.receive,.timer,.configure ⟨2,3,4,1⟩,.list,.list,.read (.single BackendUpdate.smallShop),.finish]

def shopStart : State := start .empty WatchMode.synced [.add] "worker1"

theorem shopOpens_follows : ∃ s, Runs (advance none TwoSyncers.worker1) shopStart shopOpens s ∧
    Routes none TwoSyncers.shopOpen (buildNodeInternalIPs TwoSyncers.workers) "192.168.56.10" "192.168.56.10"
      (plainHelpers 5) (tcpFrame Convergence.caller) ⟨14,34⟩ s.sync.maps := by
  have rests : (shopOpens.foldlM (advance none TwoSyncers.worker1) shopStart).map (fun s =>
      (s.watch.pending,s.watch.triggerCh.queue,s.watch.phase)) = some ([],[],.waiting) := rfl
  have sees : (shopOpens.foldlM (advance none TwoSyncers.worker1) shopStart).map (fun s =>
      (s.watch.nodeName,s.watch.caches.cluster)) = some ("worker1",TwoSyncers.shopOpen) := rfl
  have tables : (shopOpens.foldlM (advance none TwoSyncers.worker1) shopStart).map (fun s => (s.sync.maps.ct,s.sync.maps.fwdCt)) =
      some (.empty,.empty) := rfl
  cases done : shopOpens.foldlM (advance none TwoSyncers.worker1) shopStart with
  | none =>
    rw [done] at rests
    cases rests
  | some s =>
    rw [done] at rests sees tables
    simp only [Option.map_some,Option.some.injEq,Prod.mk.injEq] at rests sees tables
    have run := Runs.of_fold done
    obtain ⟨snatIP,_,addressed,_,_,routes⟩ := packets_follow_cluster run ⟨rests.1,rests.2.1,rests.2.2⟩
    have configured : snatAddress TwoSyncers.worker1 = .ok "192.168.56.10" := rfl
    have snat : snatIP = "192.168.56.10" := (Except.ok.inj (configured.symm.trans addressed)).symm
    have here : nodeIPOf (buildNodeInternalIPs TwoSyncers.workers) "worker1" = "192.168.56.10" := by decide
    refine ⟨s,run,?_⟩
    have routed := routes (plainHelpers 5) (tcpFrame Convergence.caller) ⟨14,34⟩ (tcpFrame_parse _)
      (by rw [tables.1]; rfl) (by rw [tables.2]; rfl) ⟨?_,?_,?_⟩
    · rw [sees.2,sees.1,snat] at routed
      exact here ▸ routed
    · intro v _
      exact .inr (by rw [tables.1]; decide)
    · intro v _
      exact .inr (by rw [tables.2]; decide)
    · intro v _
      exact rewrite_succeeds (plainHelpers_succeed 5) _ _ _

end Quiet
end Aipr.NodeSystem
