import Aipr.AgentRun

namespace Aipr.AgentRun
open Syncer Transition

-- A filter that Attach may install with this configuration.
def Named (cfg : Config) (filter : TcFilter) : Prop :=
  filter ∈ outerFilters cfg ++ innerFilters cfg ∨
    (filter.direction = .ingress ∧ cfg.attachVETHs = true ∧ cfg.vethGlob filter.iface = true)

def Owned (cfg : Config) (filter : TcFilter) : Prop :=
  cfg.dryRun = false ∧ trimmed filter.iface ≠ "" ∧ Named cfg filter

def Step.tame (cfg : Config) : Step → Prop
  | .attach filter => Named cfg filter
  | .attachVETHs => cfg.attachVETHs = true
  | .run _ _ (.install filter) => Owned cfg filter
  | _ => True

def Step.quiet : Step → Prop
  | .attach _ => False
  | .attachVETHs => False
  | .run _ _ (.install _) => False
  | _ => True

def Step.removes (filter : TcFilter) : Step → Bool
  | .run _ _ (.remove other) => other = filter
  | _ => false

-- The steps to come include a delete of the filter.
def Due (cfg : Config) (todo : List Step) (filter : TcFilter) : Prop :=
  .delete filter ∈ todo ∨ (∃ st ∈ todo, st.removes filter) ∨
    (.deleteVETHs ∈ todo ∧ filter.direction = .ingress ∧ cfg.vethGlob filter.iface = true)

def InPhase (cfg : Config) (todo : List Step) (filters : List TcFilter) : Phase → Prop
  | .preCleanup => filters = [] ∧ ∀ st ∈ todo, st.quiet
  | .attach => ∀ st ∈ todo, st.tame cfg
  | .syncer => ∀ st ∈ todo, st.quiet
  | .cleanup => (∀ st ∈ todo, st.quiet) ∧ ∀ filter ∈ filters, Due cfg todo filter
  | .exited (.cleanupFailed _) => todo = []
  | .exited _ => todo = [] ∧ filters = []

structure Valid (cfg : Config) (a : Agent) : Prop where
  known : ∀ filter ∈ a.filters, filter ∈ a.attached
  present : ∀ filter ∈ a.filters, filter.iface ∈ a.ifaces ∧ Owned cfg filter
  inPhase : InPhase cfg a.todo a.filters a.phase

-- Where the agent has ended and its cleanup has not failed, nothing it installed is
-- left.
def Removed (a : Agent) : Prop :=
  match a.phase with
  | .exited (.cleanupFailed _) => True
  | .exited _ => a.filters = []
  | _ => True

def Phase.early : Phase → Bool
  | .preCleanup => true
  | .attach => true
  | .syncer => true
  | _ => false

def Agent.fatal (a : Agent) (outcome : Outcome) : Bool :=
  a.phase.early && a.todo.head?.any fun st => (st.error a.signalled outcome).isSome

def Agent.spares (a : Agent) (outcome : Outcome) (filter : TcFilter) : Bool :=
  a.phase = .cleanup && outcome ≠ .done &&
    a.todo.head?.any fun st => st.removes filter && (st.error a.signalled outcome).isNone

-- The step that ends the process comes before the first filter is attached, and a
-- delete that spares an attached filter is not the last one of that filter.
def Harmless (cfg : Config) (a : Agent) : Event → Prop
  | .answer outcome => (a.fatal outcome → a.attached = []) ∧
      ∀ filter ∈ a.attached, a.spares outcome filter → Due cfg a.todo.tail filter
  | _ => True

-- No interface disappears with a filter on it.
def Steady (a : Agent) : Event → Prop
  | .interfaces now => ∀ filter ∈ a.filters, filter.iface ∈ now
  | _ => True

def Ended (a : Agent) : Prop := ∃ exit, a.phase = .exited exit ∧ ∀ err, exit ≠ .cleanupFailed err

section Plans
variable {cfg : Config} {filter : TcFilter} {st : Step}

theorem mem_run {command : List String} {effect : Effect} :
    st ∈ run cfg command effect ↔ cfg.dryRun = false ∧ st = .run false command effect := by
  unfold run
  split
  · rename_i dry
    simp [dry]
  · rename_i wet
    simp [wet]

theorem mem_runAllowError {command : List String} {effect : Effect} :
    st ∈ runAllowError cfg command effect ↔ cfg.dryRun = false ∧ st = .run true command effect := by
  unfold runAllowError
  split
  · rename_i dry
    simp [dry]
  · rename_i wet
    simp [wet]

theorem quiet_tame (quiet : st.quiet) : st.tame cfg := by
  cases st with
  | attach filter => exact quiet.elim
  | attachVETHs => exact quiet.elim
  | run allowError command effect =>
    cases effect with
    | install filter => exact quiet.elim
    | nothing => trivial
    | remove filter => trivial
  | _ => trivial

theorem attachFilter_tame (named : Named cfg filter) (given : trimmed filter.iface ≠ "") (member : st ∈ attachFilter cfg filter) :
    st.tame cfg := by
  rw [attachFilter,List.mem_append,List.mem_append,mem_run,mem_run] at member
  rcases member with (⟨-,rfl⟩ | ⟨wet,rfl⟩) | last
  · trivial
  · exact ⟨wet,given,named⟩
  · unfold setAcceptLocal at last
    split at last
    · cases last
    · rw [List.mem_singleton.mp last]
      trivial

theorem deleteFilter_quiet (member : st ∈ deleteFilter cfg filter) : st.quiet := by
  obtain ⟨-,rfl⟩ := mem_runAllowError.mp member
  trivial

theorem run_quiet {command : List String} (member : st ∈ run cfg command .nothing) : st.quiet := by
  obtain ⟨-,rfl⟩ := mem_run.mp member
  trivial

theorem requireRoot_quiet (member : st ∈ requireRoot cfg) : st.quiet := by
  unfold requireRoot at member
  split at member
  · cases member
  · rw [List.mem_singleton.mp member]
    trivial

theorem attach_tame (member : st ∈ attach cfg) : st.tame cfg := by
  simp only [attach,List.mem_append] at member
  rcases member with ((((((((root | source) | mkdir) | rm) | clear) | clang) | load) | filters) | veths)
  · exact quiet_tame (requireRoot_quiet root)
  · apply quiet_tame
    rcases List.mem_cons.mp source with rfl | mounted
    · split
      · trivial
      · trivial
    · rw [List.mem_singleton.mp mounted]
      trivial
  · exact quiet_tame (run_quiet mkdir)
  · exact quiet_tame (run_quiet rm)
  · rw [List.mem_singleton.mp clear]
    trivial
  · exact quiet_tame (run_quiet clang)
  · exact quiet_tame (run_quiet load)
  · obtain ⟨filter,named,rfl⟩ := List.mem_map.mp filters
    exact .inl named
  · split at veths
    · rename_i wanted
      rw [List.mem_singleton.mp veths]
      exact wanted
    · cases veths

theorem runSyncer_quiet {program : String} {args : List String} (member : st ∈ runSyncer program args) : st.quiet := by
  rcases List.mem_cons.mp member with rfl | last
  · trivial
  · rw [List.mem_singleton.mp last]
    trivial

theorem cleanup_quiet (member : st ∈ cleanup cfg) : st.quiet := by
  simp only [cleanup,List.mem_append] at member
  rcases member with ((((root | filters) | veths) | rm) | clear)
  · exact requireRoot_quiet root
  · obtain ⟨filter,-,rfl⟩ := List.mem_map.mp filters
    trivial
  · split at veths
    · rw [List.mem_singleton.mp veths]
      trivial
    · cases veths
  · exact run_quiet rm
  · rw [List.mem_singleton.mp clear]
    trivial

theorem cleanup_due (named : Named cfg filter) : Due cfg (cleanup cfg) filter := by
  simp only [Due,cleanup,List.mem_append]
  rcases named with listed | ⟨inward,wanted,matching⟩
  · exact .inl (.inl (.inl (.inl (.inr (List.mem_map.mpr ⟨filter,listed,rfl⟩)))))
  · refine .inr (.inr ⟨.inl (.inl (.inr ?_)),inward,matching⟩)
    rw [if_pos wanted]
    exact List.mem_singleton.mpr rfl

end Plans
section Take
variable {cfg : Config} {ifaces : List String} {filters : List TcFilter} {filter : TcFilter} {st : Step} {rest : List Step}

theorem expand_tame (tame : st.tame cfg) {more : Step} (member : more ∈ st.expand cfg ifaces) : more.tame cfg := by
  cases st with
  | attach filter =>
    rw [Step.expand] at member
    split at member
    · rename_i there
      have given := (Bool.and_eq_true_iff.mp there).1
      exact attachFilter_tame tame (of_decide_eq_true given) member
    · cases member
  | attachVETHs =>
    obtain ⟨iface,matching,rfl⟩ := List.mem_map.mp member
    exact .inr ⟨rfl,tame,(List.mem_filter.mp matching).2⟩
  | delete filter =>
    rw [Step.expand] at member
    split at member
    · exact quiet_tame (deleteFilter_quiet member)
    · cases member
  | deleteVETHs =>
    obtain ⟨iface,-,rfl⟩ := List.mem_map.mp member
    trivial
  | _ => cases member

theorem expand_quiet (quiet : st.quiet) {more : Step} (member : more ∈ st.expand cfg ifaces) : more.quiet := by
  cases st with
  | attach filter => exact quiet.elim
  | attachVETHs => exact quiet.elim
  | delete filter =>
    rw [Step.expand] at member
    split at member
    · exact deleteFilter_quiet member
    · cases member
  | deleteVETHs =>
    obtain ⟨iface,-,rfl⟩ := List.mem_map.mp member
    trivial
  | _ => cases member

theorem leaves_subset {attached : List TcFilter} {outcome : Outcome} (known : ∀ filter ∈ filters, filter ∈ attached)
    (member : filter ∈ st.leaves outcome ifaces filters) : filter ∈ st.leaves outcome ifaces attached := by
  unfold Step.leaves at member ⊢
  split at member
  · rename_i done
    rw [if_pos done]
    cases st with
    | run allowError command effect =>
      cases effect with
      | nothing => exact known filter member
      | install added =>
        rw [Step.filters,Effect.apply] at member ⊢
        split at member
        · rename_i there
          rw [if_pos there]
          exact List.mem_cons.mpr ((List.mem_cons.mp member).imp_right (known filter))
        · rename_i absent
          rw [if_neg absent]
          exact known filter member
      | remove gone => exact List.mem_filter.mpr ((List.mem_filter.mp member).imp_left (known filter))
    | _ => exact known filter member
  · rename_i missed
    rw [if_neg missed]
    exact known filter member

theorem filters_present (present : ∀ filter ∈ filters, filter.iface ∈ ifaces ∧ Owned cfg filter) (tame : st.tame cfg)
    {outcome : Outcome} (member : filter ∈ st.leaves outcome ifaces filters) : filter.iface ∈ ifaces ∧ Owned cfg filter := by
  unfold Step.leaves at member
  split at member
  case isFalse => exact present filter member
  cases st with
  | run allowError command effect =>
    cases effect with
    | nothing => exact present filter member
    | install added =>
      rw [Step.filters,Effect.apply] at member
      split at member
      · rename_i there
        rcases List.mem_cons.mp member with rfl | old
        · exact ⟨there,tame⟩
        · exact present filter old
      · exact present filter member
    | remove gone => exact present filter (List.mem_filter.mp member).1
  | _ => exact present filter member

theorem filters_quiet (quiet : st.quiet) {outcome : Outcome} (member : filter ∈ st.leaves outcome ifaces filters) :
    filter ∈ filters := by
  unfold Step.leaves at member
  split at member
  case isFalse => exact member
  cases st with
  | run allowError command effect =>
    cases effect with
    | nothing => exact member
    | install added => exact quiet.elim
    | remove gone => exact (List.mem_filter.mp member).1
  | _ => exact member

theorem due_append {more : List Step} (due : Due cfg rest filter) : Due cfg (more ++ rest) filter := by
  rcases due with delete | ⟨last,del,removes⟩ | ⟨veths,inward,matching⟩
  · exact .inl (List.mem_append_right _ delete)
  · exact .inr (.inl ⟨last,List.mem_append_right _ del,removes⟩)
  · exact .inr (.inr ⟨List.mem_append_right _ veths,inward,matching⟩)

theorem removes_head {outcome : Outcome} (removes : st.removes filter) (done : outcome = .done) :
    filter ∉ st.leaves outcome ifaces filters := by
  intro member
  rw [Step.leaves,if_pos done] at member
  cases st with
  | run allowError command effect =>
    cases effect with
    | remove gone =>
      have kept := of_decide_eq_true (List.mem_filter.mp member).2
      exact kept (of_decide_eq_true removes).symm
    | _ => cases removes
  | _ => cases removes

theorem removes_expand (removes : st.removes filter) : st.expand cfg ifaces = [] := by
  cases st with
  | run allowError command effect => rfl
  | _ => cases removes

-- A step of the cleanup removes the filter, leaves it to the steps to come or has
-- failed over it.
theorem due_take {outcome : Outcome} (there : filter.iface ∈ ifaces) (owned : Owned cfg filter) (due : Due cfg (st :: rest) filter)
    (member : filter ∈ st.leaves outcome ifaces filters)
    (spared : st.removes filter → outcome ≠ .done → Due cfg rest filter) : Due cfg (st.expand cfg ifaces ++ rest) filter := by
  rcases due with delete | ⟨last,del,removes⟩ | ⟨veths,inward,matching⟩
  · rcases List.mem_cons.mp delete with rfl | delete
    · have exist : ifaceExists ifaces filter.iface = true :=
        Bool.and_eq_true_iff.mpr ⟨decide_eq_true owned.2.1,decide_eq_true there⟩
      have expanded : (Step.delete filter).expand cfg ifaces = deleteFilter cfg filter := if_pos exist
      rw [expanded]
      exact .inr (.inl ⟨_,List.mem_append_left _ (mem_runAllowError.mpr ⟨owned.1,rfl⟩),decide_eq_true rfl⟩)
    · exact due_append (.inl delete)
  · rcases List.mem_cons.mp del with rfl | del
    · by_cases done : outcome = .done
      · exact absurd member (removes_head removes done)
      · exact due_append (spared removes done)
    · exact due_append (.inr (.inl ⟨last,del,removes⟩))
  · rcases List.mem_cons.mp veths with rfl | veths
    · refine .inl (List.mem_append_left _ (List.mem_map.mpr ⟨filter.iface,List.mem_filter.mpr ⟨there,matching⟩,?_⟩))
      rw [← inward]
    · exact due_append (.inr (.inr ⟨veths,inward,matching⟩))

theorem due_expand (due : Due cfg (st.expand cfg ifaces ++ rest) filter) : Due cfg (st :: rest) filter := by
  have later : Due cfg rest filter → Due cfg (st :: rest) filter := fun due => @due_append _ _ _ [st] due
  have first : ∀ more ∈ st.expand cfg ifaces, more = .delete filter ∨ more.removes filter ∨ more = .deleteVETHs →
      Due cfg (st :: rest) filter := by
    intro more member kind
    cases st with
    | attach other =>
      rw [Step.expand] at member
      split at member
      · simp only [attachFilter,List.mem_append,mem_run] at member
        rcases member with (⟨_,rfl⟩ | ⟨_,rfl⟩) | last
        · simp [Step.removes] at kind
        · simp [Step.removes] at kind
        · unfold setAcceptLocal at last
          split at last
          · cases last
          · rw [List.mem_singleton.mp last] at kind
            simp [Step.removes] at kind
      · cases member
    | attachVETHs =>
      obtain ⟨iface,_,rfl⟩ := List.mem_map.mp member
      simp [Step.removes] at kind
    | delete other =>
      rw [Step.expand] at member
      split at member
      · obtain ⟨_,rfl⟩ := mem_runAllowError.mp member
        have same : other = filter := by simpa [Step.removes] using kind
        exact .inl (same ▸ List.mem_cons_self)
      · cases member
    | deleteVETHs =>
      obtain ⟨iface,matching,rfl⟩ := List.mem_map.mp member
      have same : (⟨iface,.ingress⟩ : TcFilter) = filter := by simpa [Step.removes] using kind
      exact .inr (.inr ⟨List.mem_cons_self,same ▸ rfl,same ▸ (List.mem_filter.mp matching).2⟩)
    | _ => cases member
  rcases due with delete | ⟨last,del,removes⟩ | ⟨veths,inward,matching⟩
  · exact (List.mem_append.mp delete).elim (first _ · (.inl rfl)) fun old => later (.inl old)
  · exact (List.mem_append.mp del).elim (first _ · (.inr (.inl removes))) fun old => later (.inr (.inl ⟨last,old,removes⟩))
  · exact (List.mem_append.mp veths).elim (first _ · (.inr (.inr rfl))) fun old => later (.inr (.inr ⟨old,inward,matching⟩))

end Take

section Steps
variable {opts : Options} {a : Agent}

theorem valid_start (opts : Options) (ifaces : List String) (signalled : Bool) :
    Valid opts.config (start opts ifaces signalled) := by
  refine ⟨nofun,?_,rfl,?_⟩
  · intro filter member
    cases member
  · intro st member
    rw [start,plan] at member
    split at member
    · exact cleanup_quiet member
    · cases member

theorem exited_done {cfg : Config} {todo : List Step} {filters : List TcFilter} {exit : Exit}
    (valid : InPhase cfg todo filters (.exited exit)) : todo = [] := by
  cases exit with
  | cleanupFailed err => exact valid
  | returned => exact valid.1
  | fatal err => exact valid.1

theorem inPhase_tame {cfg : Config} {st : Step} (valid : InPhase cfg a.todo a.filters a.phase) (member : st ∈ a.todo) :
    st.tame cfg := by
  cases phase : a.phase with
  | preCleanup =>
    rw [phase] at valid
    exact quiet_tame (valid.2 st member)
  | attach =>
    rw [phase] at valid
    exact valid st member
  | syncer =>
    rw [phase] at valid
    exact quiet_tame (valid st member)
  | cleanup =>
    rw [phase] at valid
    exact quiet_tame (valid.1 st member)
  | exited exit =>
    rw [phase] at valid
    rw [exited_done valid] at member
    cases member

theorem valid_enter (clean : opts.cleanupOnExit = true) (valid : Valid opts.config a) (finished : a.todo = []) :
    Valid opts.config (a.enter opts a.phase.next) := by
  obtain ⟨known,present,inPhase⟩ := valid
  refine ⟨known,present,?_⟩
  change InPhase opts.config (plan opts a.phase.next) a.filters a.phase.next
  rw [finished] at inPhase
  cases phase : a.phase with
  | preCleanup => exact fun st member => attach_tame member
  | attach => exact fun st member => runSyncer_quiet member
  | syncer =>
    have planned : plan opts .cleanup = cleanup opts.config := if_pos clean
    change InPhase opts.config (plan opts .cleanup) a.filters .cleanup
    rw [planned]
    exact ⟨fun st member => cleanup_quiet member,fun filter member => cleanup_due (present filter member).2.2.2⟩
  | cleanup =>
    rw [phase] at inPhase
    refine ⟨rfl,List.eq_nil_iff_forall_not_mem.mpr fun filter member => ?_⟩
    rcases inPhase.2 filter member with delete | ⟨_,del,-⟩ | ⟨veths,-⟩
    · cases delete
    · cases del
    · cases veths
  | exited exit =>
    rw [phase] at inPhase
    exact inPhase

theorem valid_take {st : Step} {rest : List Step} {outcome : Outcome} (valid : Valid opts.config a) (head : a.todo = st :: rest)
    (taken : st.error a.signalled outcome = none)
    (harmless : ∀ filter ∈ a.attached, a.spares outcome filter → Due opts.config a.todo.tail filter) :
    Valid opts.config (a.take opts.config outcome st rest) := by
  obtain ⟨known,present,inPhase⟩ := valid
  have tame : st.tame opts.config := inPhase_tame inPhase (head ▸ List.mem_cons_self)
  refine ⟨fun filter => leaves_subset known,fun filter member => filters_present present tame member,?_⟩
  change InPhase opts.config (st.expand opts.config a.ifaces ++ rest) (st.leaves outcome a.ifaces a.filters) a.phase
  rw [head] at inPhase harmless
  have follows : ∀ {good : Step → Prop}, (∀ more ∈ st.expand opts.config a.ifaces, good more) → (∀ more ∈ st :: rest, good more) →
      ∀ more ∈ st.expand opts.config a.ifaces ++ rest, good more := by
    intro good expanded all more member
    rcases List.mem_append.mp member with new | old
    · exact expanded more new
    · exact all more (List.mem_cons_of_mem _ old)
  cases phase : a.phase with
  | preCleanup =>
    rw [phase] at inPhase
    obtain ⟨none,quiet⟩ := inPhase
    have here := quiet st List.mem_cons_self
    refine ⟨List.eq_nil_iff_forall_not_mem.mpr fun filter member => ?_,follows (fun more => expand_quiet here) quiet⟩
    have old := filters_quiet here member
    rw [none] at old
    cases old
  | attach =>
    rw [phase] at inPhase
    exact follows (fun more => expand_tame tame) inPhase
  | syncer =>
    rw [phase] at inPhase
    exact follows (fun more => expand_quiet (inPhase st List.mem_cons_self)) inPhase
  | cleanup =>
    rw [phase] at inPhase
    obtain ⟨quiet,due⟩ := inPhase
    have here := quiet st List.mem_cons_self
    refine ⟨follows (fun more => expand_quiet here) quiet,fun filter member => ?_⟩
    have old := filters_quiet here member
    refine due_take (present filter old).1 (present filter old).2 (due filter old) member fun removes failed => ?_
    refine harmless filter (known filter old) ?_
    simp [Agent.spares,phase,head,removes,failed,taken]
  | exited exit =>
    rw [phase] at inPhase
    cases exited_done inPhase

theorem valid_fail {st : Step} {rest : List Step} {outcome : Outcome} {err : String} (valid : Valid opts.config a)
    (head : a.todo = st :: rest) (failed : st.error a.signalled outcome = some err)
    (harmless : a.fatal outcome → a.attached = []) : Valid opts.config (a.fail err) := by
  obtain ⟨known,present,inPhase⟩ := valid
  refine ⟨known,present,?_⟩
  change InPhase opts.config [] a.filters (a.phase.fail err)
  have early : a.phase.early → a.filters = [] := by
    intro early
    have none : a.attached = [] := by
      apply harmless
      unfold Agent.fatal
      rw [early,head]
      simp [failed]
    exact List.eq_nil_iff_forall_not_mem.mpr fun filter member => List.not_mem_nil (none ▸ known filter member)
  cases phase : a.phase with
  | cleanup => rfl
  | exited exit =>
    rw [phase,head] at inPhase
    cases exited_done inPhase
  | _ =>
    rw [phase] at early
    exact ⟨rfl,early rfl⟩

theorem inPhase_fewer {cfg : Config} {todo : List Step} {filters fewer : List TcFilter} {phase : Phase}
    (valid : InPhase cfg todo filters phase) (subset : ∀ filter ∈ fewer, filter ∈ filters) : InPhase cfg todo fewer phase := by
  have none : filters = [] → fewer = [] := by
    rintro rfl
    exact List.eq_nil_iff_forall_not_mem.mpr fun filter member => List.not_mem_nil (subset filter member)
  cases phase with
  | preCleanup => exact ⟨none valid.1,valid.2⟩
  | attach => exact valid
  | syncer => exact valid
  | cleanup => exact ⟨valid.1,fun filter member => valid.2 filter (subset filter member)⟩
  | exited exit =>
    cases exit with
    | cleanupFailed err => exact valid
    | returned => exact ⟨valid.1,none valid.2⟩
    | fatal err => exact ⟨valid.1,none valid.2⟩

theorem valid_step (clean : opts.cleanupOnExit = true) (e : Event) (valid : Valid opts.config a)
    (harmless : Harmless opts.config a e) : Valid opts.config (step opts a e) := by
  cases e with
  | answer outcome =>
    change Valid opts.config (a.answer opts outcome)
    unfold Agent.answer
    cases head : a.todo with
    | nil => exact valid_enter clean valid head
    | cons st rest =>
      dsimp only
      cases failed : st.error a.signalled outcome with
      | none => exact valid_take valid head failed harmless.2
      | some err => exact valid_fail valid head failed harmless.1
  | interfaces now =>
    refine ⟨fun filter member => valid.known filter (List.mem_filter.mp member).1,fun filter member => ?_,inPhase_fewer valid.inPhase fun filter member => (List.mem_filter.mp member).1⟩
    obtain ⟨old,there⟩ := List.mem_filter.mp member
    exact ⟨of_decide_eq_true there,(valid.present filter old).2⟩
  | signal => exact ⟨valid.known,valid.present,valid.inPhase⟩

theorem valid_removed (valid : Valid opts.config a) : Removed a := by
  unfold Removed
  have inPhase := valid.inPhase
  split
  · trivial
  · rename_i exit other phase
    rw [phase] at inPhase
    cases exit with
    | cleanupFailed err => exact (other err rfl).elim
    | returned => exact inPhase.2
    | fatal err => exact inPhase.2
  · trivial

-- A filter that is there to stay: nothing that is still to come deletes it.
def Lost (cfg : Config) (a : Agent) : Prop :=
  ∃ filter ∈ a.filters,
    match a.phase with
    | .cleanup => ¬Due cfg a.todo filter
    | .exited _ => a.todo = []
    | _ => False

theorem lost_left (lost : Lost opts.config a) (ended : Ended a) : ¬Removed a := by
  obtain ⟨filter,left,_⟩ := lost
  obtain ⟨exit,phase,clean⟩ := ended
  intro removed
  unfold Removed at removed
  rw [phase] at removed
  cases exit with
  | cleanupFailed err => exact clean err rfl
  | returned => exact List.not_mem_nil (removed ▸ left)
  | fatal err => exact List.not_mem_nil (removed ▸ left)

theorem steady_filters {now : List String} (steady : Steady a (.interfaces now)) :
    a.filters.filter (fun filter => filter.iface ∈ now) = a.filters :=
  List.filter_eq_self.mpr fun filter member => decide_eq_true (steady filter member)

theorem steady_step (e : Event) (same : a.attached = a.filters) (steady : Steady a e) :
    (step opts a e).attached = (step opts a e).filters := by
  cases e with
  | answer outcome =>
    change (a.answer opts outcome).attached = (a.answer opts outcome).filters
    unfold Agent.answer
    split
    · exact same
    · split
      · exact same
      · exact congrArg (Step.leaves outcome a.ifaces · _) same
  | interfaces now => exact same.trans (steady_filters steady).symm
  | signal => exact same

theorem leaves_kept {outcome : Outcome} {st : Step} {filter : TcFilter} {ifaces : List String} {filters : List TcFilter}
    (member : filter ∈ filters) (other : ¬st.removes filter) : filter ∈ st.leaves outcome ifaces filters := by
  unfold Step.leaves
  split
  case isFalse => exact member
  cases st with
  | run allowError command effect =>
    cases effect with
    | nothing => exact member
    | install added =>
      rw [Step.filters,Effect.apply]
      split
      · exact List.mem_cons_of_mem _ member
      · exact member
    | remove gone =>
      refine List.mem_filter.mpr ⟨member,decide_eq_true fun same => other ?_⟩
      exact decide_eq_true same.symm
  | _ => exact member

theorem lost_step (e : Event) (lost : Lost opts.config a) (steady : Steady a e) : Lost opts.config (step opts a e) := by
  obtain ⟨filter,left,stuck⟩ := lost
  cases e with
  | interfaces now =>
    refine ⟨filter,?_,stuck⟩
    change filter ∈ a.filters.filter fun filter => filter.iface ∈ now
    rwa [steady_filters steady]
  | signal => exact ⟨filter,left,stuck⟩
  | answer outcome =>
    change Lost opts.config (a.answer opts outcome)
    unfold Agent.answer
    cases phase : a.phase with
    | cleanup =>
      rw [phase] at stuck
      cases head : a.todo with
      | nil => exact ⟨filter,left,rfl⟩
      | cons st rest =>
        rw [head] at stuck
        dsimp only
        cases failed : st.error a.signalled outcome with
        | some err => exact ⟨filter,left,by simp [Agent.fail,phase,Phase.fail]⟩
        | none =>
          have other : ¬st.removes filter := fun removes => stuck (.inr (.inl ⟨st,List.mem_cons_self,removes⟩))
          refine ⟨filter,leaves_kept left other,?_⟩
          rw [Agent.take,phase]
          exact fun due => stuck (due_expand due)
    | exited exit =>
      rw [phase] at stuck
      rw [stuck]
      exact ⟨filter,left,by simp [Agent.enter,Phase.next,plan]⟩
    | _ =>
      rw [phase] at stuck
      exact stuck.elim

theorem harm_lost (e : Event) (same : a.attached = a.filters) (harm : ¬Harmless opts.config a e) :
    Lost opts.config (step opts a e) := by
  cases e with
  | interfaces now => exact absurd trivial harm
  | signal => exact absurd trivial harm
  | answer outcome =>
    change Lost opts.config (a.answer opts outcome)
    unfold Agent.answer
    rcases Classical.not_and_iff_not_or_not.mp harm with ending | sparing
    · obtain ⟨fatal,attached⟩ := Classical.not_imp.mp ending
      obtain ⟨early,failing⟩ := Bool.and_eq_true_iff.mp fatal
      obtain ⟨filter,left⟩ := List.exists_mem_of_ne_nil _ (same ▸ attached)
      cases head : a.todo with
      | nil =>
        rw [head] at failing
        cases failing
      | cons st rest =>
        rw [head] at failing
        obtain ⟨err,failed⟩ := Option.isSome_iff_exists.mp failing
        dsimp only
        rw [failed]
        refine ⟨filter,left,?_⟩
        unfold Agent.fail
        cases phase : a.phase with
        | cleanup =>
          rw [phase] at early
          cases early
        | exited exit =>
          rw [phase] at early
          cases early
        | _ => rfl
    · push Not at sparing
      obtain ⟨filter,attached,spares,due⟩ := sparing
      unfold Agent.spares at spares
      cases head : a.todo with
      | nil => simp [head] at spares
      | cons st rest =>
        simp only [head,List.head?_cons,Option.any_some,Bool.and_eq_true,decide_eq_true_eq,Option.isNone_iff_eq_none] at spares
        obtain ⟨⟨phase,failed⟩,removes,taken⟩ := spares
        dsimp only
        rw [taken]
        have kept : (st.leaves outcome a.ifaces a.filters) = a.filters := if_neg failed
        rw [head] at due
        refine ⟨filter,?_,?_⟩
        · change filter ∈ st.leaves outcome a.ifaces a.filters
          rwa [kept,← same]
        · rw [Agent.take,phase]
          rwa [removes_expand removes]

end Steps

-- Nothing is left behind where every step meets the condition; and where no interface
-- disappears, a run of the agent to its end leaves nothing only then.
theorem filters_removed_iff (opts : Options) (clean : opts.cleanupOnExit = true) (ifaces : List String) (signalled : Bool)
    (events : List Event) :
    (Each (step opts) (Harmless opts.config) (start opts ifaces signalled) events →
      Along (step opts) Removed (start opts ifaces signalled) events) ∧
    (Each (step opts) Steady (start opts ifaces signalled) events → Ended (events.foldl (step opts) (start opts ifaces signalled)) →
      (Removed (events.foldl (step opts) (start opts ifaces signalled)) ↔
        Each (step opts) (Harmless opts.config) (start opts ifaces signalled) events)) := by
  have enough : Each (step opts) (Harmless opts.config) (start opts ifaces signalled) events →
      Along (step opts) Removed (start opts ifaces signalled) events := by
    intro harmless
    have valid : Along (step opts) (Valid opts.config) (start opts ifaces signalled) events :=
      along_of_each (fun a e valid harmless => valid_step clean e valid harmless) (valid_start opts ifaces signalled) harmless
    exact along_mono (fun a => valid_removed) valid
  refine ⟨enough,fun steady ended => ⟨fun removed => ?_,fun harmless => along_last (enough harmless)⟩⟩
  have first : (start opts ifaces signalled).attached = (start opts ifaces signalled).filters := rfl
  have all := @each_or_last _ _ _ (fun a : Agent => a.attached = a.filters) _ _ _ (fun a e same steady => steady_step e same steady)
    (fun a e same => harm_lost e same) (fun a e lost steady => lost_step e lost steady) _ _ first steady
  exact all.resolve_right fun lost => lost_left lost ended removed

-- The agent with the defaults of its options on a node with flannel.
def daemon : Options where
  config := ⟨"/opt/nodeport/nodeport_tc.c","/tmp/nodeport_tc.o","/sys/fs/bpf/nodeport_tc/prog","/sys/fs/bpf/nodeport_tc/maps",
    "eth0",["cni0"],false,fun _ => false,true,"clang",[],false⟩
  preCleanup := true
  cleanupOnExit := true
  syncProgram := "/opt/nodeport/bin/nodeport-syncer"
  syncArgs := []

def answers (count : Nat) : List Event := List.replicate count (.answer .done)

instance (cfg : Config) (todo : List Step) (filter : TcFilter) : Decidable (Due cfg todo filter) :=
  inferInstanceAs (Decidable (_ ∨ _ ∨ _))

instance (cfg : Config) (a : Agent) : (e : Event) → Decidable (Harmless cfg a e)
  | .answer outcome => inferInstanceAs (Decidable ((a.fatal outcome = true → a.attached = []) ∧
      ∀ filter ∈ a.attached, a.spares outcome filter = true → Due cfg a.todo.tail filter))
  | .interfaces _ => inferInstanceAs (Decidable True)
  | .signal => inferInstanceAs (Decidable True)

instance (a : Agent) : (e : Event) → Decidable (Steady a e)
  | .answer _ => inferInstanceAs (Decidable True)
  | .interfaces now => inferInstanceAs (Decidable (∀ filter ∈ a.filters, filter.iface ∈ now))
  | .signal => inferInstanceAs (Decidable True)

-- Stopped by a signal while the syncer runs; a device comes up meanwhile.
def stopped : List Event :=
  answers 32 ++ [.interfaces ["eth0","cni0","flannel.1"],.signal,.answer (.exited "signal: killed")] ++ answers 12

theorem daemon_stopped : Along (step daemon) Removed (start daemon ["eth0","cni0"] false) stopped ∧
    (Removed (stopped.foldl (step daemon) (start daemon ["eth0","cni0"] false)) ↔
      Each (step daemon) (Harmless daemon.config) (start daemon ["eth0","cni0"] false) stopped) := by
  obtain ⟨enough,exact⟩ := filters_removed_iff daemon rfl ["eth0","cni0"] false stopped
  refine ⟨enough (by decide),exact (by decide) ⟨.returned,by decide,nofun⟩⟩

-- A failing command of Attach and a failing syncer end the process with the filters
-- in place, and a delete that fails is taken for a filter that is not there.
theorem daemon_failed :
    (answers 23 ++ [Event.answer (.exited "exit status 2")]).foldl (step daemon) (start daemon ["eth0","cni0"] false) =
      ⟨.exited (.fatal "error: exit status 2"),[],[⟨"eth0",.ingress⟩],[⟨"eth0",.ingress⟩],["eth0","cni0"],false⟩ ∧
    (answers 32 ++ [Event.answer (.exited "exit status 1")]).foldl (step daemon) (start daemon ["eth0","cni0"] false) =
      ⟨.exited (.fatal "error: syncer exited: exit status 1"),[],[⟨"cni0",.ingress⟩,⟨"eth0",.egress⟩,⟨"eth0",.ingress⟩],
        [⟨"cni0",.ingress⟩,⟨"eth0",.egress⟩,⟨"eth0",.ingress⟩],["eth0","cni0"],false⟩ ∧
    (answers 36 ++ [Event.answer (.exited "exit status 2")] ++ answers 8).foldl (step daemon) (start daemon ["eth0","cni0"] false) =
      ⟨.exited .returned,[],[⟨"eth0",.ingress⟩],[⟨"eth0",.ingress⟩],["eth0","cni0"],false⟩ := by
  decide

end Aipr.AgentRun
