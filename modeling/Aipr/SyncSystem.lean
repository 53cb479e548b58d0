import Aipr.NodeportOutcome
import Aipr.Reconcile
import Aipr.Transition

namespace Aipr.SyncSystem
open NodeportTc Syncer LastWriter Transition

-- Where a syncer is in its reconcile. `executed` only remembers the calls made.
inductive Phase where
  | idle
  | starting (config : DeliveryConfig) (calls : List Syncer.Call)
  | running (desired : DesiredSet) (executed calls : List Syncer.Call) (error : Option String)
  | exited (error : String) (desired : DesiredSet)

structure Proc where
  applied : DesiredSet
  appliedConfig : Option DeliveryConfig
  phase : Phase

structure State (ω : Type) where
  maps : Maps
  procs : ω → Proc

inductive Action where
  | configure (config : DeliveryConfig)
  | read (desired : DesiredSet)
  | call
  | mapError (cause : String)
  | abort (error : String)
  | finish

inductive Label (ω : Type) where
  | packet (h : Helpers) (skb : Frame)
  | deleteCT (r : NodeportCtKey)
  | deleteFwd (k : NodeportFwdCtKey)
  | sync (who : ω) (action : Action)

-- One step of reconcile. The config is synced before the entries are read, and
-- every error ends the process.
def act (m : Maps) (p : Proc) : Action → Option (Maps × Proc)
  | .configure config =>
    match p.phase with
    | .idle =>
      let calls := if p.appliedConfig = some config then [] else (updateConfig false config).calls
      some (m,{p with phase := .starting config calls})
    | _ => none
  | .read desired =>
    match p.phase with
    | .starting config [] =>
      let script := reconcileEntries false p.applied desired
      some (m,{p with appliedConfig := some config, phase := .running desired [] script.calls script.error})
    | _ => none
  | .call =>
    match p.phase with
    | .starting config (c :: rest) => (c.op.apply m).map fun m => (m,{p with phase := .starting config rest})
    | .running desired executed (c :: rest) error =>
      (c.op.apply m).map fun m => (m,{p with phase := .running desired (executed ++ [c]) rest error})
    | _ => none
  | .mapError cause =>
    match p.phase with
    | .starting _ (c :: _) => some (m,{p with phase := .exited (c.failed cause) p.applied})
    | .running desired _ (c :: _) _ => some (m,{p with phase := .exited (c.failed cause) desired})
    | _ => none
  | .abort error =>
    match p.phase with
    | .idle => some (m,{p with phase := .exited error p.applied})
    | .starting _ [] => some (m,{p with phase := .exited error p.applied})
    | _ => none
  | .finish =>
    match p.phase with
    | .running desired _ [] none => some (m,{p with applied := desired, phase := .idle})
    | .running desired _ [] (some error) => some (m,{p with phase := .exited error desired})
    | _ => none

inductive Acts (m : Maps) (p : Proc) : Action → Maps → Proc → Prop where
  | configure : p.phase = .idle →
      calls = (if p.appliedConfig = some config then [] else (updateConfig false config).calls) →
      Acts m p (.configure config) m {p with phase := .starting config calls}
  | read : p.phase = .starting config [] →
      Acts m p (.read desired) m {p with
        appliedConfig := some config,
        phase := .running desired [] (reconcileEntries false p.applied desired).calls
          (reconcileEntries false p.applied desired).error}
  | configCall : p.phase = .starting config (c :: rest) → c.op.apply m = some after →
      Acts m p .call after {p with phase := .starting config rest}
  | entryCall : p.phase = .running desired executed (c :: rest) error → c.op.apply m = some after →
      Acts m p .call after {p with phase := .running desired (executed ++ [c]) rest error}
  | configError : p.phase = .starting config (c :: rest) →
      Acts m p (.mapError cause) m {p with phase := .exited (c.failed cause) p.applied}
  | entryError : p.phase = .running desired executed (c :: rest) error →
      Acts m p (.mapError cause) m {p with phase := .exited (c.failed cause) desired}
  | configAbort : p.phase = .idle → Acts m p (.abort error) m {p with phase := .exited error p.applied}
  | readAbort : p.phase = .starting config [] → Acts m p (.abort error) m {p with phase := .exited error p.applied}
  | finish : p.phase = .running desired executed [] none →
      Acts m p .finish m {p with applied := desired, phase := .idle}
  | fail : p.phase = .running desired executed [] (some error) →
      Acts m p .finish m {p with phase := .exited error desired}

theorem act_cases {m m' : Maps} {p p' : Proc} {action : Action} (step : act m p action = some (m',p')) :
    Acts m p action m' p' := by
  unfold act at step
  split at step
  · split at step
    · cases step
      exact .configure (by assumption) rfl
    · cases step
  · split at step
    · cases step
      exact .read (by assumption)
    · cases step
  · split at step
    · obtain ⟨after,done,same⟩ := Option.map_eq_some_iff.mp step
      cases same
      exact .configCall (by assumption) done
    · obtain ⟨after,done,same⟩ := Option.map_eq_some_iff.mp step
      cases same
      exact .entryCall (by assumption) done
    · cases step
  · split at step
    · cases step
      exact .configError (by assumption)
    · cases step
      exact .entryError (by assumption)
    · cases step
  · split at step
    · cases step
      exact .configAbort (by assumption)
    · cases step
      exact .readAbort (by assumption)
    · cases step
  · split at step
    · cases step
      exact .finish (by assumption)
    · cases step
      exact .fail (by assumption)
    · cases step

section System
variable {ω : Type} [DecidableEq ω]

def setProc (procs : ω → Proc) (who : ω) (p : Proc) : ω → Proc := fun other => if other = who then p else procs other

def advance (s : State ω) : Label ω → Option (State ω)
  | .packet h skb => some {s with maps := outMaps h skb s.maps}
  | .deleteCT r => some {s with maps := {s.maps with ct := s.maps.ct.delete r}}
  | .deleteFwd k => some {s with maps := {s.maps with fwdCt := s.maps.fwdCt.delete k}}
  | .sync who action => (act s.maps (s.procs who) action).map fun next => ⟨next.1,setProc s.procs who next.2⟩

def Proc.start : Proc := ⟨.empty,none,.idle⟩

-- Nothing is installed yet; the rest of the maps may hold anything.
def start (m : Maps) : State ω := ⟨{m with service := .empty, backend := .empty},fun _ => .start⟩

def callWrites (calls : List Syncer.Call) : List (Write Cell Word) := calls.filterMap fun c => c.op.write

structure Believes (belief : View Cell Word) (p : Proc) : Prop where
  marshals : ∀ id e, p.applied.lookup id = some e → e.Marshals
  board : ∃ base, Encodes base p.applied.lookup ∧
    match p.phase with
    | .idle => belief = base
    | .starting _ calls => belief = base ∧ callWrites calls = []
    | .running desired executed calls error => belief = replay base (callWrites executed) ∧
        (reconcileEntries false p.applied desired).calls = executed ++ calls ∧
        (reconcileEntries false p.applied desired).error = error
    | .exited _ desired => ∃ executed, belief = replay base (callWrites executed) ∧
        executed ⊆ (reconcileEntries false p.applied desired).calls

def Phase.desired : Phase → Option DesiredSet
  | .running desired _ _ _ => some desired
  | .exited _ desired => some desired
  | _ => none

def reads (past : List (Label ω)) (who : ω) : List DesiredSet :=
  past.filterMap fun label => match label with
    | .sync other (.read desired) => if other = who then some desired else none
    | _ => none

def lastRead (past : List (Label ω)) (who : ω) : DesiredSet := (reads past who).getLast?.getD .empty

def Known (past : List (Label ω)) (who : ω) (d : DesiredSet) : Prop :=
  ∀ id e, d.lookup id = some e → ∃ read ∈ reads past who, read.lookup id = some e

def Wrote (past : List (Label ω)) (who : ω) (cell : Cell) : Prop :=
  ∃ read ∈ reads past who, ∃ id e, read.lookup id = some e ∧ e.frontend = some cell.frontend

def Tracks (past : List (Label ω)) (who : ω) (p : Proc) : Prop :=
  match p.phase with
  | .idle => p.applied = lastRead past who
  | .starting _ _ => p.applied = lastRead past who
  | .running desired _ _ _ => desired = lastRead past who
  | .exited _ _ => True

structure Valid (past : List (Label ω)) (s : State ω) : Prop where
  board : ∃ belief : ω → View Cell Word, Held (cells s.maps) belief (Wrote past) ∧ ∀ who, Believes (belief who) (s.procs who)
  applied : ∀ who, Known past who (s.procs who).applied
  desired : ∀ who d, (s.procs who).phase.desired = some d → Known past who d
  tracks : ∀ who, Tracks past who (s.procs who)

theorem reads_append (past later : List (Label ω)) (who : ω) : reads (past ++ later) who = reads past who ++ reads later who :=
  List.filterMap_append

theorem lastRead_quiet {past : List (Label ω)} {label : Label ω} {who : ω} (quiet : reads [label] who = []) :
    lastRead (past ++ [label]) who = lastRead past who := by
  rw [lastRead,reads_append,quiet,List.append_nil]
  rfl

theorem reads_read (who : ω) (desired : DesiredSet) : reads [.sync who (.read desired)] who = [desired] := by
  simp [reads]

theorem lastRead_read (past : List (Label ω)) (who : ω) (desired : DesiredSet) :
    lastRead (past ++ [.sync who (.read desired)]) who = desired := by
  rw [lastRead,reads_append,reads_read,List.getLast?_concat]
  rfl

theorem known_mono {past later : List (Label ω)} {who : ω} {d : DesiredSet} (known : Known past who d) :
    Known (past ++ later) who d := by
  intro id e found
  obtain ⟨read,member,here⟩ := known id e found
  exact ⟨read,reads_append past later who ▸ List.mem_append_left _ member,here⟩

theorem wrote_mono {past later : List (Label ω)} (who : ω) (cell : Cell) (wrote : Wrote past who cell) :
    Wrote (past ++ later) who cell := by
  obtain ⟨read,member,held⟩ := wrote
  exact ⟨read,reads_append past later who ▸ List.mem_append_left _ member,held⟩

theorem tracks_quiet {past : List (Label ω)} {label : Label ω} {who : ω} {p : Proc} (tracks : Tracks past who p)
    (quiet : reads [label] who = []) : Tracks (past ++ [label]) who p := by
  unfold Tracks at tracks ⊢
  rwa [lastRead_quiet quiet]

theorem act_tracks {past : List (Label ω)} {who : ω} {m m' : Maps} {p p' : Proc} {action : Action}
    (tracks : Tracks past who p) (step : act m p action = some (m',p')) : Tracks (past ++ [.sync who action]) who p' := by
  unfold Tracks at tracks
  cases act_cases step with
  | configure here _ =>
    rw [here] at tracks
    exact tracks_quiet (p := {p with phase := .starting _ _}) tracks rfl
  | read here => exact (lastRead_read _ _ _).symm
  | configCall here _ =>
    rw [here] at tracks
    exact tracks_quiet (p := {p with phase := .starting _ _}) tracks rfl
  | entryCall here _ =>
    rw [here] at tracks
    exact tracks_quiet (p := {p with phase := .running _ _ _ _}) tracks rfl
  | finish here =>
    rw [here] at tracks
    exact tracks_quiet (p := {p with applied := _, phase := .idle}) tracks rfl
  | _ => trivial

theorem valid_start (m : Maps) : Valid ([] : List (Label ω)) (start m) := by
  refine ⟨⟨fun _ => blank,?_,?_⟩,?_,?_,?_⟩
  · intro cell
    refine .inl ⟨?_,fun _ => rfl⟩
    cases cell <;> rfl
  · intro who
    refine ⟨?_,blank,⟨?_,?_⟩,rfl⟩
    · intro id e found
      cases found
    · intro id e cell found
      cases found
    · intro cell _
      rfl
  · intro who id e found
    cases found
  · intro who d same
    cases same
  · exact fun who => rfl

theorem callWrites_append (earlier later : List Syncer.Call) :
    callWrites (earlier ++ later) = callWrites earlier ++ callWrites later := List.filterMap_append

theorem callWrites_cons (c : Syncer.Call) (rest : List Syncer.Call) :
    callWrites (c :: rest) = c.op.write.toList ++ callWrites rest := by
  rw [callWrites,List.filterMap_cons]
  cases c.op.write <;> rfl

theorem script_writes (script : Script) : script.writes = callWrites script.calls := rfl

-- What one action does to the board, as the process that takes it sees it: none
-- of its cells move, or one write of its reconcile is made.
inductive Moved (board : View Cell Word) (belief : View Cell Word) (p : Proc) : View Cell Word → View Cell Word → Prop where
  | still : Moved board belief p board belief
  | wrote : p.phase.desired = some desired → write ∈ (reconcileEntries false p.applied desired).writes →
      Moved board belief p (put board write) (put belief write)

theorem act_moves {m m' : Maps} {p p' : Proc} {action : Action} {belief : View Cell Word} (valid : Believes belief p)
    (step : act m p action = some (m',p')) :
    ∃ belief', Believes belief' p' ∧ Moved (cells m) belief p (cells m') belief' := by
  obtain ⟨marshals,base,encoded,phase⟩ := valid
  cases act_cases step with
  | configure here calls =>
    rw [here] at phase
    refine ⟨belief,⟨marshals,base,encoded,phase,?_⟩,.still⟩
    rw [calls]
    split <;> rfl
  | read here =>
    rw [here] at phase
    exact ⟨belief,⟨marshals,base,encoded,phase.1,rfl,rfl⟩,.still⟩
  | configCall here done =>
    rw [here] at phase
    obtain ⟨same,quiet⟩ := phase
    rw [callWrites_cons,List.append_eq_nil_iff,Option.toList_eq_nil_iff] at quiet
    have board := apply_cells done
    rw [quiet.1] at board
    rw [board]
    exact ⟨belief,⟨marshals,base,encoded,same,quiet.2⟩,.still⟩
  | entryCall here done =>
    rename_i desired executed c rest error
    rw [here] at phase
    obtain ⟨replayed,planned,ends⟩ := phase
    have remaining : (reconcileEntries false p.applied desired).calls = (executed ++ [c]) ++ rest := by
      rw [planned,List.append_assoc,List.singleton_append]
    have board := apply_cells done
    cases written : c.op.write with
    | none =>
      rw [written] at board
      rw [board]
      refine ⟨belief,⟨marshals,base,encoded,?_,remaining,ends⟩,.still⟩
      rw [callWrites_append,callWrites_cons,written]
      simpa [callWrites] using replayed
    | some write =>
      rw [written] at board
      rw [board]
      refine ⟨put belief write,⟨marshals,base,encoded,?_,remaining,ends⟩,?_⟩
      · rw [callWrites_append,replay_append,callWrites_cons,written,replayed]
        rfl
      · refine .wrote (congrArg Phase.desired here) ?_
        rw [script_writes,planned,callWrites_append,callWrites_cons,written]
        simp
  | configError here =>
    rw [here] at phase
    exact ⟨belief,⟨marshals,base,encoded,[],phase.1,List.nil_subset _⟩,.still⟩
  | entryError here =>
    rw [here] at phase
    obtain ⟨replayed,planned,_⟩ := phase
    refine ⟨belief,⟨marshals,base,encoded,_,replayed,?_⟩,.still⟩
    rw [planned]
    exact List.subset_append_left _ _
  | configAbort here =>
    rw [here] at phase
    exact ⟨belief,⟨marshals,base,encoded,[],phase,List.nil_subset _⟩,.still⟩
  | readAbort here =>
    rw [here] at phase
    exact ⟨belief,⟨marshals,base,encoded,[],phase.1,List.nil_subset _⟩,.still⟩
  | finish here =>
    rw [here] at phase
    obtain ⟨replayed,planned,ends⟩ := phase
    rw [List.append_nil] at planned
    obtain ⟨settled,marshalled⟩ := reconcile_settles encoded marshals ends
    rw [script_writes,planned,← replayed] at settled
    exact ⟨belief,⟨marshalled,belief,settled,rfl⟩,.still⟩
  | fail here =>
    rw [here] at phase
    obtain ⟨replayed,planned,_⟩ := phase
    refine ⟨belief,⟨marshals,base,encoded,_,replayed,?_⟩,.still⟩
    rw [planned]
    exact List.subset_append_left _ _

theorem act_applied {m m' : Maps} {p p' : Proc} {action : Action} (step : act m p action = some (m',p')) :
    p'.applied = p.applied ∨ p.phase.desired = some p'.applied := by
  cases act_cases step with
  | finish here => exact .inr (congrArg Phase.desired here)
  | _ => exact .inl rfl

theorem act_desired {m m' : Maps} {p p' : Proc} {action : Action} {d : DesiredSet}
    (step : act m p action = some (m',p')) (held : p'.phase.desired = some d) :
    d = p.applied ∨ p.phase.desired = some d ∨ action = .read d := by
  cases act_cases step with
  | configure here _ => cases held
  | read here => exact .inr (.inr (congrArg Action.read (Option.some.inj held)))
  | configCall here _ => cases held
  | entryCall here _ => exact .inr (.inl ((congrArg Phase.desired here).trans held))
  | configError here => exact .inl (Option.some.inj held).symm
  | entryError here => exact .inr (.inl ((congrArg Phase.desired here).trans held))
  | configAbort here => exact .inl (Option.some.inj held).symm
  | readAbort here => exact .inl (Option.some.inj held).symm
  | finish here => cases held
  | fail here => exact .inr (.inl ((congrArg Phase.desired here).trans held))

theorem cells_control {m next : Maps} (same : SameControl m next) : cells next = cells m := by
  funext cell
  cases cell with
  | service key => exact congrArg (fun table => (table.lookup key).map Word.service) same.service
  | backend key => exact congrArg (fun table => (table.lookup key).map Word.backend) same.backend

theorem setProc_here (procs : ω → Proc) (who : ω) (p : Proc) : setProc procs who p who = p := if_pos rfl

theorem setProc_apart (procs : ω → Proc) {who other : ω} (p : Proc) (apart : other ≠ who) :
    setProc procs who p other = procs other := if_neg apart

theorem advance_quiet {s next : State ω} {label : Label ω} (step : advance s label = some next) :
    (cells next.maps = cells s.maps ∧ next.procs = s.procs ∧ ∀ who, reads [label] who = []) ∨
      ∃ who action m' p', label = .sync who action ∧ act s.maps (s.procs who) action = some (m',p') ∧
        next = ⟨m',setProc s.procs who p'⟩ := by
  cases label with
  | packet h skb =>
    cases step
    exact .inl ⟨cells_control (outMaps_control h skb s.maps),rfl,fun _ => rfl⟩
  | deleteCT r =>
    cases step
    exact .inl ⟨cells_control ⟨rfl,rfl,rfl⟩,rfl,fun _ => rfl⟩
  | deleteFwd k =>
    cases step
    exact .inl ⟨cells_control ⟨rfl,rfl,rfl⟩,rfl,fun _ => rfl⟩
  | sync who action =>
    obtain ⟨⟨m',p'⟩,taken,same⟩ := Option.map_eq_some_iff.mp step
    exact .inr ⟨who,action,m',p',rfl,taken,same.symm⟩

theorem wrote_source {past : List (Label ω)} {who : ω} {p : Proc} {desired : DesiredSet} {write : Write Cell Word}
    (applied : Known past who p.applied) (wanted : Known past who desired)
    (member : write ∈ (reconcileEntries false p.applied desired).writes) : Wrote past who write.1 := by
  rcases reconcile_source member with ⟨_,id,e,found,_,here⟩ | ⟨id,e,found,upserted⟩
  · obtain ⟨read,listed,filed⟩ := applied id e found
    exact ⟨read,listed,id,e,filed,here⟩
  · obtain ⟨read,listed,filed⟩ := wanted id e found
    exact ⟨read,listed,id,e,filed,upsert_local upserted⟩

theorem setProc_each {P : ω → Proc → Prop} {procs : ω → Proc} {who : ω} {p : Proc} (mine : P who p)
    (others : ∀ other, other ≠ who → P other (procs other)) (other : ω) : P other (setProc procs who p other) := by
  by_cases same : other = who
  · subst same
    rwa [setProc_here]
  · rw [setProc_apart _ _ same]
    exact others other same

theorem act_board {past : List (Label ω)} {s : State ω} {who : ω} {action : Action} {m' : Maps} {p' : Proc}
    (valid : Valid past s) (taken : act s.maps (s.procs who) action = some (m',p')) :
    ∃ belief : ω → View Cell Word, Held (cells m') belief (Wrote past) ∧
      ∀ other, Believes (belief other) (setProc s.procs who p' other) := by
  obtain ⟨belief,held,believed⟩ := valid.board
  obtain ⟨belief',believes,moved⟩ := act_moves (believed who) taken
  generalize cells m' = board at moved ⊢
  cases moved with
  | still =>
    refine ⟨belief,held,setProc_each (P := fun other p => Believes (belief other) p) believes ?_⟩
    exact fun other _ => believed other
  | @wrote _ write running member =>
    have mark := wrote_source (valid.applied who) (valid.desired who _ running) member
    refine ⟨believe belief who write,held_put held mark,?_⟩
    refine setProc_each (P := fun other p => Believes (believe belief who write other) p) ?_ ?_
    · rwa [believe,if_pos rfl]
    · intro other apart
      rw [believe,if_neg apart]
      exact believed other

theorem act_holds {past : List (Label ω)} {s : State ω} {who : ω} {action : Action} {m' : Maps} {p' : Proc}
    (valid : Valid past s) (taken : act s.maps (s.procs who) action = some (m',p')) :
    Known (past ++ [.sync who action]) who p'.applied := by
  rcases act_applied taken with same | now
  · rw [same]
    exact known_mono (valid.applied who)
  · exact known_mono (valid.desired who _ now)

theorem act_wants {past : List (Label ω)} {s : State ω} {who : ω} {action : Action} {m' : Maps} {p' : Proc} {d : DesiredSet}
    (valid : Valid past s) (taken : act s.maps (s.procs who) action = some (m',p')) (here : p'.phase.desired = some d) :
    Known (past ++ [.sync who action]) who d := by
  rcases act_desired taken here with rfl | running | rfl
  · exact known_mono (valid.applied who)
  · exact known_mono (valid.desired who d running)
  · intro id e found
    refine ⟨d,?_,found⟩
    rw [reads_append,reads_read]
    exact List.mem_append_right _ List.mem_cons_self

theorem reads_apart {who other : ω} (action : Action) (apart : other ≠ who) : reads [.sync who action] other = [] := by
  cases action with
  | read desired => exact List.filterMap_cons_none (if_neg (Ne.symm apart))
  | _ => rfl

theorem valid_sync {past : List (Label ω)} {s : State ω} {who : ω} {action : Action} {m' : Maps} {p' : Proc}
    (valid : Valid past s) (taken : act s.maps (s.procs who) action = some (m',p')) :
    Valid (past ++ [.sync who action]) ⟨m',setProc s.procs who p'⟩ := by
  refine ⟨?_,?_,?_,?_⟩
  · obtain ⟨belief,held,believed⟩ := act_board valid taken
    exact ⟨belief,held_mono held wrote_mono,believed⟩
  · refine setProc_each (P := fun other p => Known _ other p.applied) (act_holds valid taken) ?_
    exact fun other _ => known_mono (valid.applied other)
  · refine setProc_each (P := fun other p => ∀ d, p.phase.desired = some d → Known _ other d) ?_ ?_
    · exact fun d here => act_wants valid taken here
    · exact fun other _ d here => known_mono (valid.desired other d here)
  · refine setProc_each (P := Tracks _) (act_tracks (valid.tracks who) taken) ?_
    exact fun other apart => tracks_quiet (valid.tracks other) (reads_apart action apart)

theorem valid_advance {past : List (Label ω)} {s next : State ω} {label : Label ω} (valid : Valid past s)
    (step : advance s label = some next) : Valid (past ++ [label]) next := by
  rcases advance_quiet step with ⟨board,procs,silent⟩ | ⟨who,action,m',p',rfl,taken,rfl⟩
  · obtain ⟨belief,held,believed⟩ := valid.board
    refine ⟨⟨belief,?_,?_⟩,?_,?_,?_⟩
    · rw [board]
      exact held_mono held wrote_mono
    · rw [procs]
      exact believed
    · rw [procs]
      exact fun who => known_mono (valid.applied who)
    · rw [procs]
      exact fun who d here => known_mono (valid.desired who d here)
    · rw [procs]
      exact fun who => tracks_quiet (valid.tracks who) (silent who)
  · exact valid_sync valid taken

theorem valid_runs {m : Maps} {inputs : List (Label ω)} {s : State ω} (run : Runs advance (start m) inputs s) :
    Valid inputs s := run.invariant (valid_start m) fun _ _ _ _ valid step => valid_advance valid step

end System
end Aipr.SyncSystem
