import Aipr.Installed
import Aipr.SyncSystem

namespace Aipr.Convergence
open NodeportTc Syncer LastWriter Transition SyncSystem

def Marshallable (inputs : List (Label Unit)) : Prop :=
  ∀ desired ∈ reads inputs (), ∀ id e, desired.lookup id = some e → e.Marshals

def Faultless (inputs : List (Label Unit)) : Prop :=
  ∀ cause, .sync () (.mapError cause) ∉ inputs ∧ .sync () (.abort cause) ∉ inputs

-- Where the one syncer stands, and what the tables hold there. A reconcile that
-- has no call left to make is through, and none ends with an error.
def Settled (inputs : List (Label Unit)) (s : State Unit) : Prop :=
  match (s.procs ()).phase with
  | .idle => (s.procs ()).applied = lastRead inputs () ∧ Installed s.maps (lastRead inputs ())
  | .starting _ _ => Installed s.maps (lastRead inputs ())
  | .running desired _ calls error =>
    desired = lastRead inputs () ∧ error = none ∧ (calls = [] → Installed s.maps (lastRead inputs ()))
  | .exited _ _ => False

def Sound (p : Proc) : Prop :=
  match p.phase with
  | .running _ _ _ error => error = none
  | .exited _ _ => False
  | _ => True

theorem known_marshals {past : List (Label Unit)} {d : DesiredSet} (marshals : Marshallable past) (known : Known past () d)
    (id : ServiceID) (e : NodePortEntry) (found : d.lookup id = some e) : e.Marshals := by
  obtain ⟨read,listed,filed⟩ := known id e found
  exact marshals read listed id e filed

theorem marshallable_earlier {past later : List (Label Unit)} (marshals : Marshallable (past ++ later)) : Marshallable past :=
  fun d listed => marshals d (reads_append past later () ▸ List.mem_append_left _ listed)

theorem sound_advance {past : List (Label Unit)} {s next : State Unit} {label : Label Unit} (valid : Valid past s)
    (sound : Sound (s.procs ())) (step : advance s label = some next) (marshals : Marshallable (past ++ [label]))
    (faultless : Faultless (past ++ [label])) : Sound (next.procs ()) := by
  have final : label ∈ past ++ [label] := List.mem_append_right _ List.mem_cons_self
  cases label with
  | packet h skb =>
    cases step
    exact sound
  | deleteCT r =>
    cases step
    exact sound
  | deleteFwd k =>
    cases step
    exact sound
  | sync who action =>
    obtain ⟨⟨m',p'⟩,taken,rfl⟩ := Option.map_eq_some_iff.mp step
    change Sound p'
    unfold Sound at sound
    cases act_cases taken with
    | configure here calls => trivial
    | read here =>
      refine reconcile_error (known_marshals (marshallable_earlier marshals) (valid.applied ())) fun id e found => ?_
      refine marshals _ ?_ id e found
      rw [reads_append,reads_read]
      exact List.mem_append_right _ List.mem_cons_self
    | configCall here done => trivial
    | entryCall here done =>
      rw [here] at sound
      exact sound
    | configError here => exact ((faultless _).1 final).elim
    | entryError here => exact ((faultless _).1 final).elim
    | configAbort here => exact ((faultless _).2 final).elim
    | readAbort here => exact ((faultless _).2 final).elim
    | finish here => trivial
    | fail here =>
      rw [here] at sound
      cases sound

theorem sound_runs {m : Maps} {inputs : List (Label Unit)} {s : State Unit} (run : Runs advance (start m) inputs s)
    (marshals : Marshallable inputs) (faultless : Faultless inputs) : Sound (s.procs ()) := by
  induction run with
  | nil => trivial
  | step prior taken ih =>
    have earlier := ih (marshallable_earlier marshals) fun cause =>
      ⟨fun listed => (faultless cause).1 (List.mem_append_left _ listed),
        fun listed => (faultless cause).2 (List.mem_append_left _ listed)⟩
    exact sound_advance (valid_runs prior) earlier taken marshals faultless

theorem held_alone {board : View Cell Word} {belief : Unit → View Cell Word} {wrote : Unit → Cell → Prop}
    (held : Held board belief wrote) : board = belief () := by
  funext cell
  exact held_agrees held () rfl fun _ _ => rfl

-- Between two reconciles the tables show what is applied, whatever was read.
theorem idle_installed {past : List (Label Unit)} {s : State Unit} (valid : Valid past s) (idle : (s.procs ()).phase = .idle) :
    Installed s.maps (s.procs ()).applied := by
  obtain ⟨belief,held,believed⟩ := valid.board
  obtain ⟨applied,base,encoded,phase⟩ := believed ()
  rw [idle] at phase
  refine installed_of_encodes ?_ applied
  rwa [held_alone held,phase]

theorem starting_installed {past : List (Label Unit)} {s : State Unit} {config : DeliveryConfig} {calls : List Syncer.Call}
    (valid : Valid past s) (starting : (s.procs ()).phase = .starting config calls) :
    Installed s.maps (s.procs ()).applied := by
  obtain ⟨belief,held,believed⟩ := valid.board
  obtain ⟨applied,base,encoded,phase⟩ := believed ()
  rw [starting] at phase
  refine installed_of_encodes ?_ applied
  rwa [held_alone held,phase.1]

theorem running_board {past : List (Label Unit)} {s : State Unit} {desired : DesiredSet} {executed calls : List Syncer.Call}
    {error : Option String} (valid : Valid past s) (running : (s.procs ()).phase = .running desired executed calls error) :
    ∃ base, Encodes base (s.procs ()).applied.lookup ∧ cells s.maps = replay base (callWrites executed) ∧
      (reconcileEntries false (s.procs ()).applied desired).calls = executed ++ calls ∧
      (reconcileEntries false (s.procs ()).applied desired).error = error := by
  obtain ⟨belief,held,believed⟩ := valid.board
  obtain ⟨_,base,encoded,phase⟩ := believed ()
  rw [running] at phase
  exact ⟨base,encoded,(held_alone held).trans phase.1,phase.2⟩

theorem applied_marshals {past : List (Label Unit)} {s : State Unit} (valid : Valid past s) (id : ServiceID) (e : NodePortEntry)
    (found : (s.procs ()).applied.lookup id = some e) : e.Marshals := by
  obtain ⟨belief,_,believed⟩ := valid.board
  exact (believed ()).marshals id e found

theorem reconcile_converges {m : Maps} {inputs : List (Label Unit)} {s : State Unit} (run : Runs advance (start m) inputs s)
    (marshals : Marshallable inputs) (faultless : Faultless inputs) : Settled inputs s := by
  have valid := valid_runs run
  have sound := sound_runs run marshals faultless
  have tracks := valid.tracks ()
  unfold Sound at sound
  unfold Tracks at tracks
  unfold Settled
  cases here : (s.procs ()).phase with
  | idle =>
    rw [here] at tracks
    refine ⟨tracks,?_⟩
    rw [← tracks]
    exact idle_installed valid here
  | starting config calls =>
    rw [here] at tracks
    change Installed s.maps (lastRead inputs ())
    rw [← (tracks : _ = lastRead inputs ())]
    exact starting_installed valid here
  | running desired executed calls error =>
    rw [here] at tracks sound
    cases sound
    refine ⟨tracks,rfl,fun through => ?_⟩
    rw [← (tracks : desired = lastRead inputs ())]
    obtain ⟨base,encoded,board,planned,ends⟩ := running_board valid here
    rw [through,List.append_nil] at planned
    obtain ⟨settled,marshalled⟩ := reconcile_settles encoded (applied_marshals valid) ends
    refine installed_of_encodes ?_ marshalled
    rwa [board,← planned,← script_writes]
  | exited error desired =>
    rw [here] at sound
    exact sound

def shop : NodePortEntry :=
  ⟨⟨"default","shop",30080⟩,"192.168.56.10","192.168.56.10",
    [⟨"10.244.1.5",8080,"192.168.56.11"⟩,⟨"10.244.2.7",8080,"192.168.56.12"⟩]⟩
def blog : NodePortEntry :=
  ⟨⟨"default","blog",30080⟩,"192.168.56.10","192.168.56.10",[⟨"10.244.2.7",4000,"192.168.56.12"⟩]⟩

def caller : Tuple := ⟨⟨192,168,56,100⟩,⟨192,168,56,10⟩,⟨195,80⟩,⟨117,128⟩⟩

def shopComes : List (Label Unit) :=
  ([.configure ⟨2,3,4,1⟩,.call,.read (.single shop),.call,.call,.call,.finish] : List Action).map (.sync ())
def blogComes : List (Label Unit) :=
  ([.configure ⟨2,3,4,1⟩,.read (.single blog),.call,.call,.call,.call,.call,.call,.finish] : List Action).map (.sync ())

theorem portMoves_converges :
    ∃ s : State Unit, Runs advance (start .empty) (shopComes ++ blogComes) s ∧ Settled (shopComes ++ blogComes) s := by
  cases done : (shopComes ++ blogComes).foldlM advance (start .empty) with
  | none => exact absurd done (by decide)
  | some s =>
    refine ⟨s,Runs.of_fold done,reconcile_converges (Runs.of_fold done) ?_ ?_⟩
    · intro desired listed id e found
      have read : desired = .single shop ∨ desired = .single blog := by simpa [reads,shopComes,blogComes] using listed
      rcases read with rfl | rfl
      · rw [DesiredSet.single_source found]
        decide
      · rw [DesiredSet.single_source found]
        decide
    · intro cause
      simp [shopComes,blogComes]

end Aipr.Convergence
