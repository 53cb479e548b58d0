import Aipr.NodeSystem

namespace Aipr.NodeSystem
open NodeportTc Syncer Transition

section Allocated
variable {selector : Option ServiceSelector} {setting : Setting} {cluster : Cluster}

def Tcp (port : ServicePort) : Prop := port.protocol = "" ∨ port.protocol = "TCP"

def Allocated (services : List Service) : Prop :=
  ∀ x ∈ exposures none services, ∀ y ∈ exposures none services, Tcp x.2 → Tcp y.2 → x.2.nodePort ≠ 0 →
    x.2.nodePort = y.2.nodePort → x.id = y.id

theorem exposures_none {x : Exposure} {services : List Service} (listed : x ∈ exposures selector services) :
    x ∈ exposures none services := by
  obtain ⟨service,chosen,own⟩ := List.mem_flatMap.mp listed
  exact List.mem_flatMap.mpr ⟨service,List.mem_filter.mpr ⟨(List.mem_filter.mp chosen).1,rfl⟩,own⟩

theorem desired_set {current nodeName : String} {entries : Entries} (allocated : Allocated cluster.services)
    (computed : desiredEntries selector setting current cluster = .ok (nodeName,entries)) : ∃ d : DesiredSet, d.table = entries := by
  have keyed : ∀ id e, entries.lookup id = some e → e.id = id := fun id e found => (desiredEntries_filed computed found).1
  obtain ⟨snatIP,_,_,_,collected⟩ := desiredEntries_ok.mp computed
  have source : ∀ id, entries.lookup id ≠ none → ∃ x ∈ exposures none cluster.services, Tcp x.2 ∧ x.2.nodePort ≠ 0 ∧ x.id = id := by
    intro id present
    rw [collected,lookup_collected,ne_eq,Option.map_eq_none_iff] at present
    obtain ⟨x,held⟩ := Option.ne_none_iff_exists'.mp present
    obtain ⟨listed,backed,same⟩ := holder_source held
    exact ⟨x,exposures_none listed,backed.2.2.1,backed.2.2.2.1,same⟩
  refine ⟨⟨entries,keyed,fun id other here there ports => ?_⟩,rfl⟩
  obtain ⟨x,listed,tcp,set,rfl⟩ := source id here
  obtain ⟨y,listed',tcp',_,rfl⟩ := source other there
  exact allocated x listed y listed' tcp tcp' set ports

def listedServices : WatchMode.Phase → List (WatchMode.Store Service)
  | .listNodes services => [services]
  | .listSlices services _ => [services]
  | _ => []

structure Allotted (s : State) : Prop where
  stored : Allocated s.watch.caches.services.objects
  listed : ∀ services ∈ listedServices s.watch.phase, Allocated services.objects

def Label.allotted : Label → Prop
  | .event _ (.services objects) => Allocated objects
  | _ => True

theorem allotted_moves {s next : State} {label : Label} (allotted : Allotted s) (fair : label.allotted)
    (move : Moves selector setting s label next) : Allotted next := by
  obtain ⟨stored,listed⟩ := allotted
  cases move with
  | @event event change =>
    refine ⟨?_,listed⟩
    cases change with
    | services objects =>
      change Allocated (if event.reason = none then s.watch.caches else _).services.objects
      split
      · exact stored
      · exact fair
    | nodes objects =>
      change Allocated (if event.reason = none then s.watch.caches else _).services.objects
      split <;> exact stored
    | slices objects =>
      change Allocated (if event.reason = none then s.watch.caches else _).services.objects
      split <;> exact stored
  | deliver _ =>
    obtain ⟨phase,_,_,caches,_⟩ := handle_kept {s.watch with pending := s.watch.pending.erase _} _
    refine ⟨?_,?_⟩
    · rw [caches]
      exact stored
    · rw [phase]
      exact listed
  | receive _ _ => exact ⟨stored,fun _ none => absurd none List.not_mem_nil⟩
  | timer _ => exact ⟨stored,fun _ none => absurd none List.not_mem_nil⟩
  | listServices _ _ =>
    refine ⟨stored,fun services member => ?_⟩
    rw [List.mem_singleton.mp member]
    exact stored
  | listNodes here _ =>
    refine ⟨stored,fun services member => listed services ?_⟩
    rw [here]
    exact member
  | read _ _ _ => exact ⟨stored,fun _ none => absurd none List.not_mem_nil⟩
  | finish _ _ => exact ⟨stored,fun _ none => absurd none List.not_mem_nil⟩
  | acts _ _ => exact ⟨stored,listed⟩
  | datapath _ _ => exact ⟨stored,listed⟩

end Allocated

section Rank
variable {selector : Option ServiceSelector} {setting : Setting} {s next : State} {label : Label}

def stage (phase : WatchMode.Phase) : SyncSystem.Phase → ℕ × ℕ
  | .exited _ _ => (0,0)
  | .running _ _ calls _ => (2,calls.length)
  | .starting _ calls =>
    match phase with
    | .listServices => (5,calls.length)
    | .listNodes _ => (4,0)
    | _ => (3,0)
  | .idle =>
    match phase with
    | .waiting => (1,0)
    | .listServices => (6,0)
    | _ => (7,0)

def State.rank (s : State) : ℕ × ℕ × ℕ × ℕ := (s.watch.pending.length,s.watch.triggerCh.queue.length,stage s.watch.phase s.proc.phase)

def Lower : ℕ × ℕ × ℕ × ℕ → ℕ × ℕ × ℕ × ℕ → Prop := Prod.Lex (· < ·) (Prod.Lex (· < ·) (Prod.Lex (· < ·) (· < ·)))

theorem lower_founded : WellFounded Lower :=
  WellFounded.prod_lex Nat.lt_wfRel.wf (WellFounded.prod_lex Nat.lt_wfRel.wf (WellFounded.prod_lex Nat.lt_wfRel.wf Nat.lt_wfRel.wf))

abbrev StageLower : ℕ × ℕ → ℕ × ℕ → Prop := Prod.Lex (· < ·) (· < ·)

theorem stage_alone {action : SyncSystem.Action} {m : Maps} {p : SyncSystem.Proc} (linked : Linked s.watch.phase s.proc.phase)
    (alone : Alone s label action) (acted : SyncSystem.Acts s.sync.maps s.proc action m p) :
    StageLower (stage s.watch.phase p.phase) (stage s.watch.phase s.proc.phase) := by
  cases alone with
  | configure here =>
    cases acted with
    | configure idle calls =>
      rw [here,idle]
      exact .left _ _ (by decide)
  | ifaceError here idle =>
    rw [here,idle]
    cases acted with
    | configAbort there => exact .left _ _ (by decide)
    | readAbort there => exact .left _ _ (by decide)
  | call =>
    cases acted with
    | configCall there done =>
      rw [there] at linked ⊢
      rw [linked.calling]
      exact .right _ (Nat.lt_succ_self _)
    | entryCall there done =>
      rw [there]
      exact .right _ (Nat.lt_succ_self _)
  | mapError =>
    cases acted with
    | configError there =>
      rw [there] at linked ⊢
      rw [linked.calling]
      exact .left _ _ (by decide)
    | entryError there =>
      rw [there]
      exact .left _ _ (by decide)
  | readError here =>
    rw [here]
    cases acted with
    | configAbort there =>
      rw [there]
      exact .left _ _ (by decide)
    | readAbort there =>
      rw [there]
      exact .left _ _ (by decide)
  | fail other =>
    cases acted with
    | finish there => exact absurd there (other _ _)
    | fail there =>
      rw [there]
      exact .left _ _ (by decide)

theorem rank_moves (joined : Joined s) (own : label.outside = false) (move : Moves selector setting s label next) :
    Lower next.rank s.rank := by
  have linked := joined.phases
  cases move with
  | event => cases own
  | deliver listed =>
    obtain ⟨_,_,pending,_⟩ := handle_kept {s.watch with pending := s.watch.pending.erase _} _
    refine .left _ _ ?_
    rw [pending]
    change (s.watch.pending.erase _).length < s.watch.pending.length
    rw [List.length_erase_of_mem listed]
    exact Nat.sub_lt (List.length_pos_of_mem listed) Nat.one_pos
  | receive here received =>
    refine .right _ (.left _ _ ?_)
    rw [WatchMode.Channel.receive_queue received]
    exact Nat.lt_succ_self _
  | timer here =>
    have idle := linked.resting (.inr here)
    refine .right _ (.right _ ?_)
    change StageLower (stage .listServices s.proc.phase) (stage s.watch.phase s.proc.phase)
    rw [here,idle]
    exact .left _ _ (by decide)
  | listServices here there =>
    refine .right _ (.right _ ?_)
    change StageLower (stage (.listNodes _) s.proc.phase) (stage s.watch.phase s.proc.phase)
    rw [here,there]
    exact .left _ _ (by decide)
  | listNodes here there =>
    refine .right _ (.right _ ?_)
    change StageLower (stage (.listSlices _ _) s.proc.phase) (stage s.watch.phase s.proc.phase)
    rw [here,there]
    exact .left _ _ (by decide)
  | read here computed acted =>
    refine .right _ (.right _ ?_)
    change StageLower (stage (.apply _ _) (s.withProc _ _).proc.phase) (stage s.watch.phase s.proc.phase)
    cases acted with
    | read there =>
      rw [withProc_proc,here,there]
      exact .left _ _ (by decide)
  | finish there here =>
    refine .right _ (.right _ ?_)
    change StageLower (stage .waiting (s.withProc _ _).proc.phase) (stage s.watch.phase s.proc.phase)
    rw [withProc_proc,here,there]
    exact .left _ _ (by decide)
  | acts alone acted =>
    refine .right _ (.right _ ?_)
    rw [withProc_proc]
    exact stage_alone linked alone acted
  | datapath outside other => cases own.symm.trans outside

theorem rank_outside (outside : label.outside = true) (quiet : label.isEvent = false) (move : Moves selector setting s label next) :
    next.rank = s.rank := by
  cases move with
  | event => cases quiet
  | datapath => rfl
  | acts alone _ => cases alone <;> cases outside
  | _ => cases outside

end Rank

section Progress
variable {selector : Option ServiceSelector} {setting : Setting} {s : State}

def Stuck (selector : Option ServiceSelector) (setting : Setting) (s : State) : Prop :=
  ∀ label, label.outside = false → advance selector setting s label = none

theorem stuck_act (stuck : Stuck selector setting s) (label : Label) (action : SyncSystem.Action) (own : label.outside = false)
    (same : advance selector setting s label = s.syncs (.sync () action)) : SyncSystem.act s.sync.maps s.proc action = none := by
  have refused := stuck label own
  rw [same] at refused
  exact Option.map_eq_none_iff.mp (Option.map_eq_none_iff.mp refused)

theorem stuck_both (stuck : Stuck selector setting s) (label : Label) (action : SyncSystem.Action) (own : label.outside = false)
    (same : advance selector setting s label = (s.syncs (.sync () action)).bind (·.watches selector setting .work)) :
    SyncSystem.act s.sync.maps s.proc action = none ∨ WatchMode.advance selector setting s.watch .work = none := by
  cases acted : SyncSystem.act s.sync.maps s.proc action with
  | none => exact .inl rfl
  | some taken =>
    have refused := stuck label own
    have synced : s.syncs (.sync () action) = some (s.withProc taken.1 taken.2) :=
      Option.map_eq_some_iff.mpr ⟨_,Option.map_eq_some_iff.mpr ⟨taken,acted,rfl⟩,rfl⟩
    rw [same,synced,Option.bind_some] at refused
    exact .inr (Option.map_eq_none_iff.mp refused)

theorem stuck_delivered (stuck : Stuck selector setting s) : s.watch.pending = [] := by
  cases pending : s.watch.pending with
  | nil => rfl
  | cons event rest =>
    have step := stuck (.deliver event) rfl
    simp [advance,State.watches,WatchMode.advance,pending] at step

theorem stuck_drained (stuck : Stuck selector setting s) (waiting : s.watch.phase = .waiting) : s.watch.triggerCh.queue = [] := by
  have step := stuck .receive rfl
  rw [advance,State.watches,Option.map_eq_none_iff] at step
  simp only [WatchMode.advance,waiting] at step
  split at step
  · cases step
  · rename_i waits _
    cases waits
  · rename_i other _
    cases received : s.watch.triggerCh.receive with
    | some taken => exact absurd received (other _ _ rfl)
    | none =>
      unfold WatchMode.Channel.receive at received
      split at received
      · assumption
      · cases received

theorem stuck_calls {c : Syncer.Call} {rest : List Syncer.Call} (stuck : Stuck selector setting s) :
    (∀ config, s.proc.phase ≠ .starting config (c :: rest)) ∧
      ∀ desired executed error, s.proc.phase ≠ .running desired executed (c :: rest) error := by
  have refused := stuck_act stuck (.mapError "") (.mapError "") rfl rfl
  constructor
  · intro config there
    simp [SyncSystem.act,there] at refused
  · intro desired executed error there
    simp [SyncSystem.act,there] at refused

theorem stuck_slices {services : WatchMode.Store Service} {nodes : WatchMode.Store Node} {config : DeliveryConfig}
    (allocated : Allocated services.objects) (stuck : Stuck selector setting s) (here : s.watch.phase = .listSlices services nodes) :
    s.proc.phase ≠ .starting config [] := by
  intro there
  cases computed : desiredEntries selector setting s.watch.nodeName
      (WatchMode.Caches.cluster ⟨services,nodes,s.watch.caches.slices⟩) with
  | error err =>
    have refused := stuck_act stuck .readError (.abort err) rfl (by simp only [advance,here,computed])
    simp [SyncSystem.act,there] at refused
  | ok read =>
    obtain ⟨nodeName,entries⟩ := read
    obtain ⟨desired,rfl⟩ := desired_set (by exact allocated) computed
    have parts := stuck_both stuck (.read desired) (.read desired) rfl (by simp only [advance,here,computed,if_true])
    rcases parts with refused | refused
    · simp [SyncSystem.act,there] at refused
    · simp [WatchMode.advance,here,computed] at refused

theorem stuck_settled (joined : Joined s) (allotted : Allotted s) (stuck : Stuck selector setting s) : Quiet s ∨ Exited s := by
  have linked := joined.phases
  generalize phase : s.watch.phase = place at linked
  generalize stage : s.proc.phase = progress at linked
  cases linked with
  | waiting => exact .inl ⟨stuck_delivered stuck,stuck_drained stuck phase,phase⟩
  | debounce =>
    have step := stuck .timer rfl
    simp [advance,State.watches,WatchMode.advance,phase] at step
  | starts =>
    have refused := stuck_act stuck (.configure ⟨0,0,0,0⟩) (.configure ⟨0,0,0,0⟩) rfl (by simp only [advance,phase])
    simp [SyncSystem.act,stage] at refused
  | @configures config calls =>
    cases calls with
    | cons c rest => exact absurd stage ((stuck_calls stuck).1 config)
    | nil =>
      have step := stuck .list rfl
      simp [advance,phase,stage,State.watches,WatchMode.advance] at step
  | nodes =>
    have step := stuck .list rfl
    simp [advance,phase,stage,State.watches,WatchMode.advance] at step
  | slices =>
    have allocated := allotted.listed _ (by rw [phase]; exact List.mem_cons_self)
    exact absurd stage (stuck_slices allocated stuck phase)
  | @applies seen desired executed calls error =>
    cases calls with
    | cons c rest => exact absurd stage ((stuck_calls stuck).2 desired executed error)
    | nil =>
      cases error with
      | some error =>
        have refused := stuck_act stuck .finish .finish rfl (by simp only [advance,phase,stage])
        simp [SyncSystem.act,stage] at refused
      | none =>
        have parts := stuck_both stuck .finish .finish rfl (by simp only [advance,phase,stage])
        rcases parts with refused | refused
        · simp [SyncSystem.act,stage] at refused
        · simp [WatchMode.advance,phase] at refused
  | exited busy => exact .inr ⟨_,_,stage⟩

end Progress

section Settles
variable {selector : Option ServiceSelector} {setting : Setting} {m : Maps} {caches : WatchMode.Caches}
  {pending : List WatchMode.Event} {nodeName : String} {inputs : List Label} {s : State}

theorem calm_allotted {label : Label} (calm : label.isEvent = false) : label.allotted := by
  cases label with
  | event event change => cases calm
  | _ => trivial

theorem allotted_run {before after : State} {inputs : List Label} (run : Runs (advance selector setting) before inputs after)
    (allotted : Allotted before) (fair : ∀ label ∈ inputs, label.allotted) : Allotted after := by
  induction run with
  | nil => exact allotted
  | step prior taken ih =>
    have earlier := ih fun label listed => fair label (List.mem_append_left _ listed)
    exact allotted_moves earlier (fair _ (List.mem_append_right _ List.mem_cons_self)) (advance_moves taken)

-- No fault on the way, and nothing read that does not marshal.
def Label.sound : Label → Prop
  | .ifaceError _ => False
  | .mapError _ => False
  | .readError => False
  | .read desired => ∀ id e, desired.lookup id = some e → e.Marshals
  | _ => True

structure Sound (s : State) : Prop where
  applied : ∀ id e, s.proc.applied.lookup id = some e → e.Marshals
  running : ∀ desired executed calls error, s.proc.phase = .running desired executed calls error →
    error = none ∧ ∀ id e, desired.lookup id = some e → e.Marshals
  alive : ¬ Exited s

theorem sound_acts {label : Label} {action : SyncSystem.Action} {p : SyncSystem.Proc} (sound : Sound s) (fair : label.sound)
    (alone : Alone s label action) (acted : SyncSystem.Acts s.sync.maps s.proc action m p) : Sound (s.withProc m p) := by
  obtain ⟨applied,running,alive⟩ := sound
  have still : ∀ phase, (∀ desired executed calls error, phase = .running desired executed calls error →
      error = none ∧ ∀ id e, desired.lookup id = some e → e.Marshals) → (∀ error desired, phase ≠ .exited error desired) →
      Sound (s.withProc m {s.proc with phase := phase}) := by
    intro phase kept here
    refine ⟨?_,?_,?_⟩
    · rw [withProc_proc]
      exact applied
    · rw [withProc_proc]
      exact kept
    · rintro ⟨error,desired,there⟩
      rw [withProc_proc] at there
      exact here error desired there
  cases alone with
  | configure here =>
    cases acted with
    | configure idle calls => exact still _ (fun _ _ _ _ impossible => by cases impossible) fun _ _ impossible => by cases impossible
  | ifaceError here idle => exact fair.elim
  | call =>
    cases acted with
    | configCall there done => exact still _ (fun _ _ _ _ impossible => by cases impossible) fun _ _ impossible => by cases impossible
    | entryCall there done =>
      refine still _ (fun desired executed calls error same => ?_) fun _ _ impossible => by cases impossible
      cases same
      exact running _ _ _ _ there
  | mapError => exact fair.elim
  | readError here => exact fair.elim
  | fail other =>
    cases acted with
    | finish there => exact absurd there (other _ _)
    | fail there => cases (running _ _ _ _ there).1

theorem sound_moves {next : State} {label : Label} (sound : Sound s) (fair : label.sound) (move : Moves selector setting s label next) :
    Sound next := by
  cases move with
  | acts alone acted => exact sound_acts sound fair alone acted
  | read here computed acted =>
    cases acted with
    | read there =>
      refine ⟨?_,?_,?_⟩
      · change ∀ id e, (s.withProc _ _).proc.applied.lookup id = some e → e.Marshals
        rw [withProc_proc]
        exact sound.applied
      · intro desired executed calls error same
        change (s.withProc _ _).proc.phase = _ at same
        rw [withProc_proc] at same
        cases same
        exact ⟨reconcile_error sound.applied fair,fair⟩
      · rintro ⟨error,desired,same⟩
        change (s.withProc _ _).proc.phase = _ at same
        rw [withProc_proc] at same
        cases same
  | finish there here =>
    refine ⟨?_,?_,?_⟩
    · change ∀ id e, (s.withProc _ _).proc.applied.lookup id = some e → e.Marshals
      rw [withProc_proc]
      exact (sound.running _ _ _ _ there).2
    · intro desired executed calls error same
      change (s.withProc _ _).proc.phase = _ at same
      rw [withProc_proc] at same
      cases same
    · rintro ⟨error,desired,same⟩
      change (s.withProc _ _).proc.phase = _ at same
      rw [withProc_proc] at same
      cases same
  | _ => exact ⟨sound.applied,sound.running,sound.alive⟩

theorem sound_runs (run : Runs (advance selector setting) (start m caches pending nodeName) inputs s)
    (fair : ∀ label ∈ inputs, label.sound) : Sound s := by
  have first : Sound (start m caches pending nodeName) := by
    refine ⟨fun _ _ none => (by cases none),?_,?_⟩
    · intro _ _ _ _ impossible
      cases impossible
    · rintro ⟨_,_,impossible⟩
      cases impossible
  induction run with
  | nil => exact first
  | step prior taken ih =>
    have earlier := ih fun label listed => fair label (List.mem_append_left _ listed)
    exact sound_moves earlier (fair _ (List.mem_append_right _ List.mem_cons_self)) (advance_moves taken)

-- The steps of the syncer come to an end however the packets fall between them; then it
-- waits with nothing queued, or has exited over a fault.
theorem settles (run : Runs (advance selector setting) (start m caches pending nodeName) inputs s)
    (initial : Allocated caches.services.objects) (fair : ∀ label ∈ inputs, label.allotted) :
    Acc (Later (advance selector setting) (fun label => label.outside = false)
        fun label => label.outside = true ∧ label.isEvent = false) s ∧
      ∀ calm after, (∀ label ∈ calm, label.isEvent = false) → Runs (advance selector setting) s calm after →
        Stuck selector setting after → (Quiet after ∨ Exited after) ∧ ((∀ label ∈ inputs ++ calm, label.sound) → Quiet after) := by
  have joined := joined_runs run
  constructor
  · refine later_acc lower_founded State.rank ?_ ?_ joined
    · intro s input next joined outside taken
      have move := advance_moves taken
      exact ⟨joined_moves joined move,rank_outside outside.1 outside.2 move⟩
    · intro s input next joined own taken
      have move := advance_moves taken
      exact ⟨joined_moves joined move,rank_moves joined own move⟩
  · intro calm after silent later stuck
    have first : Allotted (start m caches pending nodeName) := ⟨initial,fun _ none => absurd none List.not_mem_nil⟩
    have allotted := allotted_run later (allotted_run run first fair) fun label listed => calm_allotted (silent label listed)
    have settled := stuck_settled (joined_runs (run.append later)) allotted stuck
    exact ⟨settled,fun sound => settled.resolve_right (sound_runs (run.append later) sound).alive⟩

theorem quiet_stuck (joined : Joined s) (quiet : Quiet s) : Stuck selector setting s := by
  have idle := joined.phases.resting (.inl quiet.waiting)
  intro label own
  refine Option.eq_none_iff_forall_ne_some.mpr fun next taken => ?_
  cases advance_moves taken with
  | event => cases own
  | deliver listed =>
    rw [quiet.delivered] at listed
    cases listed
  | receive here received =>
    have queued := WatchMode.Channel.receive_queue received
    rw [quiet.drained] at queued
    cases queued
  | timer here => cases quiet.waiting.symm.trans here
  | listServices here there => cases quiet.waiting.symm.trans here
  | listNodes here there => cases quiet.waiting.symm.trans here
  | read here computed acted => cases quiet.waiting.symm.trans here
  | finish there here => cases quiet.waiting.symm.trans here
  | datapath outside other => cases own.symm.trans outside
  | acts alone acted =>
    cases alone with
    | configure here => cases quiet.waiting.symm.trans here
    | ifaceError here _ => cases quiet.waiting.symm.trans here
    | readError here => cases quiet.waiting.symm.trans here
    | call =>
      cases acted with
      | configCall there _ => cases idle.symm.trans there
      | entryCall there _ => cases idle.symm.trans there
    | mapError =>
      cases acted with
      | configError there => cases idle.symm.trans there
      | entryError there => cases idle.symm.trans there
    | fail _ =>
      cases acted with
      | finish there => cases idle.symm.trans there
      | fail there => cases idle.symm.trans there

def shopPort : ServicePort := ⟨"http","TCP",80,.int 8080,30080⟩

theorem shop_allocated : Allocated WatchMode.synced.services.objects := by
  have one : exposures none WatchMode.synced.services.objects = [(⟨"default","shop","NodePort","",[shopPort]⟩,shopPort)] := rfl
  intro x here y there _ _ _ _
  rw [one,List.mem_singleton] at here there
  rw [here,there]

theorem shopOpens_settles : ∃ s, Runs (advance none TwoSyncers.worker1) shopStart shopOpens s ∧ Quiet s := by
  have rests : (shopOpens.foldlM (advance none TwoSyncers.worker1) shopStart).map (fun s =>
      (s.watch.pending,s.watch.triggerCh.queue,s.watch.phase)) = some ([],[],.waiting) := rfl
  cases done : shopOpens.foldlM (advance none TwoSyncers.worker1) shopStart with
  | none =>
    rw [done] at rests
    cases rests
  | some s =>
    rw [done] at rests
    simp only [Option.map_some,Option.some.injEq,Prod.mk.injEq] at rests
    have later := Runs.of_fold done
    have stuck : Stuck none TwoSyncers.worker1 s := quiet_stuck (joined_runs later) ⟨rests.1,rests.2.1,rests.2.2⟩
    have ends := (settles .nil shop_allocated (fun _ none => absurd none List.not_mem_nil)).2 shopOpens s (by decide) later stuck
    refine ⟨s,later,ends.2 fun label listed => ?_⟩
    have small : ∀ id e, (DesiredSet.single BackendUpdate.smallShop).lookup id = some e → e.Marshals := by
      intro id e found
      rw [DesiredSet.single_source found]
      decide
    simp only [shopOpens,List.nil_append,List.mem_cons,List.not_mem_nil,or_false] at listed
    rcases listed with rfl | rfl | rfl | rfl | rfl | rfl | rfl | rfl | rfl | rfl | rfl | rfl | rfl | rfl | rfl | rfl | rfl
    all_goals first
      | exact small
      | trivial

end Settles
end Aipr.NodeSystem
