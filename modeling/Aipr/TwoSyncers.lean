import Aipr.BackendUpdate
import Aipr.DesiredEntries

namespace Aipr.TwoSyncers
open NodeportTc Syncer LastWriter Transition SyncSystem Convergence BackendUpdate

-- The agent's syncer looks at every service, the collector's at the selected one.
inductive Process where
  | agent
  | collector
deriving DecidableEq

def Process.selector (ref : ServiceSelector) : Process → Option ServiceSelector
  | .agent => none
  | .collector => some ref

def Finds (setting : Setting) (nodeName : String) (selector : Option ServiceSelector) (cluster : Cluster) (d : DesiredSet) : Prop :=
  ∃ current, desiredEntries selector setting current cluster = .ok (nodeName,d.table)

def Followed (setting : Setting) (nodeName : String) (selector : Option ServiceSelector) (states : List Cluster)
    (last : Cluster) (sets : List DesiredSet) : Prop :=
  ∃ seen, seen.Sublist states ∧ List.Forall₂ (Finds setting nodeName selector) (seen ++ [last]) sets

def Stays (ref : ServiceSelector) (seen : List DesiredSet) (final : DesiredSet) : Prop :=
  ∀ d ∈ seen, ∀ id e, d.lookup id = some e → ∀ other e' key, final.lookup other = some e' →
    e.frontend = some key → e'.frontend = some key → selects ref other = true

theorem forall₂_last {r : α → β → Prop} {xs : List α} {x : α} {ys : List β} (related : List.Forall₂ r (xs ++ [x]) ys) :
    ∃ y, ys.getLast? = some y ∧ r x y := by
  induction xs generalizing ys with
  | nil =>
    cases related with
    | cons head tail =>
      cases tail
      exact ⟨_,rfl,head⟩
  | cons first rest ih =>
    cases related with
    | cons head tail =>
      obtain ⟨y,final,here⟩ := ih tail
      refine ⟨y,?_,here⟩
      rw [List.getLast?_cons,final]
      rfl

section Final
variable {setting : Setting} {nodeName : String} {ref : ServiceSelector} {states : List Cluster} {last : Cluster}
  {past : List (Label Process)} {s : State Process}

theorem finished_finds {selector : Option ServiceSelector} {who : Process} (valid : Valid past s)
    (finished : (s.procs who).phase = .idle) (followed : Followed setting nodeName selector states last (reads past who)) :
    Finds setting nodeName selector last (s.procs who).applied ∧ (s.procs who).applied = lastRead past who := by
  obtain ⟨seen,_,related⟩ := followed
  obtain ⟨d,final,finds⟩ := forall₂_last related
  have tracks := valid.tracks who
  unfold Tracks at tracks
  rw [finished] at tracks
  refine ⟨?_,tracks⟩
  rw [show (s.procs who).applied = d from tracks.trans (by rw [lastRead,final]; rfl)]
  exact finds

theorem finds_selected {full part : DesiredSet} (all : Finds setting nodeName none last full)
    (one : Finds setting nodeName (some ref) last part) (id : ServiceID) :
    part.lookup id = if selects ref id then full.lookup id else none := by
  obtain ⟨_,computed⟩ := all
  obtain ⟨_,computed'⟩ := one
  exact desiredEntries_selector computed computed' id

end Final

theorem syncers_agree {m : Maps} {inputs : List (Label Process)} {s : State Process} {setting : Setting} {nodeName : String}
    {ref : ServiceSelector} {states : List Cluster} {last : Cluster} (run : Runs advance (start m) inputs s)
    (followed : ∀ who : Process, Followed setting nodeName (who.selector ref) states last (reads inputs who))
    (finished : ∀ who, (s.procs who).phase = .idle)
    (stays : Stays ref (reads inputs .collector) (s.procs .agent).applied) :
    Finds setting nodeName none last (s.procs .agent).applied ∧ Installed s.maps (s.procs .agent).applied := by
  have valid := valid_runs run
  have all := (finished_finds valid (finished .agent) (followed .agent)).1
  have one := (finished_finds valid (finished .collector) (followed .collector)).1
  have selected := finds_selected all one
  refine ⟨all,?_⟩
  obtain ⟨belief,held,believed⟩ := valid.board
  have settled : ∀ who, Encodes (belief who) (s.procs who).applied.lookup := by
    intro who
    obtain ⟨_,base,encoded,phase⟩ := believed who
    rw [finished who] at phase
    rwa [phase]
  -- where the collector has written, its final view is the agent's
  have agree : ∀ cell other, Wrote inputs other cell → belief other cell = belief .agent cell := by
    intro cell other wrote
    cases other with
    | agent => rfl
    | collector =>
      obtain ⟨d,listed,id,e,found,here⟩ := wrote
      by_cases claimed : ∃ id e, (s.procs .agent).applied.lookup id = some e ∧ e.frontend = some cell.frontend
      · obtain ⟨other,e',found',here'⟩ := claimed
        have mine : (s.procs .collector).applied.lookup other = some e' := by
          rw [selected other,if_pos (stays d listed id e found other e' _ found' here here')]
          exact found'
        rw [(settled .collector).present other e' cell mine here',(settled .agent).present other e' cell found' here']
      · push Not at claimed
        rw [(settled .agent).absent cell claimed]
        refine (settled .collector).absent cell fun other e' found' => claimed other e' ?_
        rw [selected other] at found'
        split at found'
        · exact found'
        · cases found'
  have board : cells s.maps = belief .agent := by
    funext cell
    exact held_agrees held .agent rfl (agree cell)
  refine installed_of_encodes ?_ (believed .agent).marshals
  rw [board]
  exact settled .agent

def worker1 : Setting := ⟨"192.168.56.10","cni0",fun _ => .error "no such network interface",.ok "worker1"⟩
def workers : List Node :=
  [⟨"worker1",[⟨"InternalIP","192.168.56.10"⟩]⟩,⟨"worker2",[⟨"InternalIP","192.168.56.11"⟩]⟩,
    ⟨"worker3",[⟨"InternalIP","192.168.56.12"⟩]⟩]
def pod (address nodeName : String) : Endpoint := ⟨[address],⟨some true,some true,none⟩,some "Pod",some nodeName⟩
def shopOpen : Cluster :=
  ⟨[⟨"default","shop","NodePort","",[⟨"http","TCP",80,.int 8080,30080⟩]⟩],workers,
    [⟨"default","shop",[⟨some "http",some "TCP",some 8080⟩],[pod "10.244.1.5" "worker2"]⟩]⟩
def blogOpen : Cluster :=
  ⟨[⟨"default","blog","NodePort","Cluster",[⟨"","TCP",80,.string "web",30080⟩]⟩],workers,
    [⟨"default","blog",[⟨some "web",none,some 4000⟩],[pod "10.244.2.7" "worker3"]⟩]⟩

theorem shopOpen_finds (who : Process) :
    Finds worker1 "worker1" (who.selector ⟨"default","shop"⟩) shopOpen (.single smallShop) := by
  cases who with
  | agent => exact ⟨"worker1",rfl⟩
  | collector => exact ⟨"worker1",rfl⟩

def turn (who : Process) (actions : List Action) : List (Label Process) := actions.map (.sync who)

def shopTwice : List (Label Process) :=
  turn .agent [.configure ⟨2,3,4,1⟩,.call,.read (.single smallShop),.call] ++
    turn .collector [.configure ⟨2,3,4,1⟩,.call,.read (.single smallShop),.call] ++ turn .agent [.call,.finish] ++
    turn .collector [.call,.finish]

theorem shopTwice_agree : ∃ s : State Process, Runs advance (start .empty) shopTwice s ∧
    Installed s.maps (s.procs .agent).applied := by
  have agentIdle : (shopTwice.foldlM advance (start .empty)).map (fun s => (s.procs .agent).phase) = some .idle := rfl
  have collectorIdle : (shopTwice.foldlM advance (start .empty)).map (fun s => (s.procs .collector).phase) = some .idle := rfl
  have applied : (shopTwice.foldlM advance (start .empty)).map (fun s => (s.procs .agent).applied) =
      some (.single smallShop) := rfl
  cases done : shopTwice.foldlM advance (start .empty) with
  | none =>
    rw [done] at agentIdle
    cases agentIdle
  | some s =>
    rw [done] at agentIdle collectorIdle applied
    simp only [Option.map_some,Option.some.injEq] at agentIdle collectorIdle applied
    have followed : ∀ who : Process,
        Followed worker1 "worker1" (who.selector ⟨"default","shop"⟩) [] shopOpen (reads shopTwice who) := by
      intro who
      refine ⟨[],List.Sublist.refl _,?_⟩
      cases who with
      | agent => exact .cons (shopOpen_finds .agent) .nil
      | collector => exact .cons (shopOpen_finds .collector) .nil
    have finished : ∀ who, (s.procs who).phase = .idle := by
      intro who
      cases who with
      | agent => exact agentIdle
      | collector => exact collectorIdle
    have stays : Stays ⟨"default","shop"⟩ (reads shopTwice .collector) (s.procs .agent).applied := by
      intro d listed id e found other e' key found' _ _
      rw [applied] at found'
      have named := (DesiredSet.single smallShop).keyed other e' found'
      rw [← named,DesiredSet.single_source found']
      decide
    exact ⟨s,Runs.of_fold done,(syncers_agree (Runs.of_fold done) followed finished stays).2⟩

-- Without the condition on the frontends the two disagree: the collector deletes
-- the shop after the agent has given its key to the blog.
def Agree (setting : Setting) (nodeName : String) (ref : ServiceSelector) (states : List Cluster) (last : Cluster) (m : Maps)
    (inputs : List (Label Process)) : Prop :=
  ∀ s, Runs advance (start m) inputs s →
    (∀ who : Process, Followed setting nodeName (who.selector ref) states last (reads inputs who)) →
    (∀ who, (s.procs who).phase = .idle) → Installed s.maps (s.procs .agent).applied

def portReused : List (Label Process) :=
  turn .agent [.configure ⟨2,3,4,1⟩,.call,.read (.single smallShop),.call,.call,.finish] ++
    turn .collector [.configure ⟨2,3,4,1⟩,.call,.read (.single smallShop),.call,.call,.finish] ++
    turn .agent [.configure ⟨2,3,4,1⟩,.read (.single blog),.call,.call,.call,.call,.call,.finish] ++
    turn .collector [.configure ⟨2,3,4,1⟩,.read .empty,.call,.call,.call,.finish]

theorem portReused_wipes : ¬ Agree worker1 "worker1" ⟨"default","shop"⟩ [shopOpen] blogOpen .empty portReused := by
  intro agree
  have agentIdle : (portReused.foldlM advance (start .empty)).map (fun s => (s.procs .agent).phase) = some .idle := rfl
  have collectorIdle : (portReused.foldlM advance (start .empty)).map (fun s => (s.procs .collector).phase) = some .idle := rfl
  have applied : (portReused.foldlM advance (start .empty)).map (fun s => (s.procs .agent).applied) =
      some (.single blog) := rfl
  have wiped : (portReused.foldlM advance (start .empty)).map (fun s => s.maps.service.lookup (serviceKey caller)) =
      some none := by decide
  cases done : portReused.foldlM advance (start .empty) with
  | none =>
    rw [done] at agentIdle
    cases agentIdle
  | some s =>
    rw [done] at agentIdle collectorIdle applied wiped
    simp only [Option.map_some,Option.some.injEq] at agentIdle collectorIdle applied wiped
    have installed := agree s (Runs.of_fold done)
      (fun who => by
        refine ⟨[shopOpen],List.Sublist.refl _,?_⟩
        cases who with
        | agent => exact .cons (shopOpen_finds .agent) (.cons ⟨"worker1",rfl⟩ .nil)
        | collector => exact .cons (shopOpen_finds .collector) (.cons ⟨"worker1",rfl⟩ .nil))
      (fun who => by
        cases who with
        | agent => exact agentIdle
        | collector => exact collectorIdle)
    rw [applied] at installed
    obtain ⟨key,here,entry⟩ := installed.entry blog.id blog (by decide)
    cases Option.some.inj (here.symm.trans (by decide : blog.frontend = some (serviceKey caller)))
    obtain ⟨_,_,_,_,served⟩ := entry.service
    rw [wiped] at served
    cases served

end Aipr.TwoSyncers
