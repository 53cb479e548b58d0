import Aipr.DesiredEntries
import Aipr.Transition

namespace Aipr.AgentRun
open Syncer Transition

inductive Direction where
  | ingress
  | egress
deriving DecidableEq, Repr

def Direction.text : Direction → String
  | .ingress => "ingress"
  | .egress => "egress"

structure TcFilter where
  iface : String
  direction : Direction
deriving DecidableEq, Repr

structure Config where
  sourcePath : String
  objectPath : String
  programPinPath : String
  mapDir : String
  outerIface : String
  innerIfaces : List String
  attachVETHs : Bool
  vethGlob : String → Bool
  setAcceptLocal : Bool
  clangPath : String
  bpfCFlags : List String
  dryRun : Bool

structure Options where
  config : Config
  preCleanup : Bool
  cleanupOnExit : Bool
  syncProgram : String
  syncArgs : List String

inductive Effect where
  | nothing
  | install (filter : TcFilter)
  | remove (filter : TcFilter)
deriving DecidableEq, Repr

-- A function returns at the first of its steps with an error.
inductive Step where
  | requireRoot
  | refuse (err : String)
  | stat (context path : String)
  | ensureBPFSMounted
  | clearMapDir (dir : String)
  | run (allowError : Bool) (command : List String) (effect : Effect)
  | setAcceptLocal (iface : String)
  | attach (filter : TcFilter)
  | attachVETHs
  | delete (filter : TcFilter)
  | deleteVETHs
  | syncer (command : List String)
deriving DecidableEq, Repr

section Tcctl
variable (cfg : Config)

-- A dry run only logs the command.
def run (command : List String) (effect : Effect) : List Step := if cfg.dryRun then [] else [.run false command effect]

def runAllowError (command : List String) (effect : Effect) : List Step :=
  if cfg.dryRun then [] else [.run true command effect]

def requireRoot : List Step := if cfg.dryRun then [] else [.requireRoot]

def setAcceptLocal (iface : String) : List Step := if !cfg.setAcceptLocal || cfg.dryRun then [] else [.setAcceptLocal iface]

-- attachIngress and attachEgress, deleteIngress and deleteEgress.
def attachFilter (filter : TcFilter) : List Step :=
  run cfg ["tc","qdisc","replace","dev",filter.iface,"clsact"] .nothing ++
  run cfg ["tc","filter","replace","dev",filter.iface,filter.direction.text,"pref","10","handle","10","bpf","direct-action",
    "object-pinned",cfg.programPinPath] (.install filter) ++
  setAcceptLocal cfg filter.iface

def deleteFilter (filter : TcFilter) : List Step :=
  runAllowError cfg ["tc","filter","del","dev",filter.iface,filter.direction.text,"pref","10","handle","10","bpf","direct-action"]
    (.remove filter)

def innerFilters : List TcFilter := (cfg.innerIfaces.filter (· ≠ "")).map fun iface => ⟨iface,.ingress⟩

def outerFilters : List TcFilter := [⟨cfg.outerIface,.ingress⟩,⟨cfg.outerIface,.egress⟩]

def clangArgs : List String :=
  ["-O2","-g","-target","bpf","-D__TARGET_ARCH_x86","-I/usr/include/x86_64-linux-gnu"] ++ cfg.bpfCFlags ++
    ["-c",cfg.sourcePath,"-o",cfg.objectPath]

def attach : List Step :=
  requireRoot cfg ++
  [if cfg.sourcePath = "" then .refuse "missing source path" else .stat "missing source file" cfg.sourcePath,.ensureBPFSMounted] ++
  run cfg ["mkdir","-p",cfg.mapDir] .nothing ++
  run cfg ["rm","-f",cfg.programPinPath] .nothing ++
  [.clearMapDir cfg.mapDir] ++
  run cfg (cfg.clangPath :: clangArgs cfg) .nothing ++
  run cfg ["bpftool","prog","load",cfg.objectPath,cfg.programPinPath,"type","classifier","pinmaps",cfg.mapDir] .nothing ++
  (outerFilters cfg ++ innerFilters cfg).map .attach ++
  if cfg.attachVETHs then [.attachVETHs] else []

def cleanup : List Step :=
  requireRoot cfg ++ (outerFilters cfg ++ innerFilters cfg).map .delete ++
  (if cfg.attachVETHs then [.deleteVETHs] else []) ++
  run cfg ["rm","-f",cfg.programPinPath] .nothing ++ [.clearMapDir cfg.mapDir]

end Tcctl

def runSyncer (program : String) (args : List String) : List Step :=
  [.stat "missing sync program" program,.syncer (program :: args)]

inductive Exit where
  | returned
  | cleanupFailed (err : String)
  | fatal (err : String)
deriving DecidableEq, Repr

-- main from the deferred cleanup on, which log.Fatalf does not reach.
inductive Phase where
  | preCleanup
  | attach
  | syncer
  | cleanup
  | exited (exit : Exit)
deriving DecidableEq, Repr

def Phase.next : Phase → Phase
  | .preCleanup => .attach
  | .attach => .syncer
  | .syncer => .cleanup
  | .cleanup => .exited .returned
  | .exited exit => .exited exit

def Phase.fail (err : String) : Phase → Phase
  | .cleanup => .exited (.cleanupFailed err)
  | .exited exit => .exited exit
  | _ => .exited (.fatal s!"error: {err}")

def plan (opts : Options) : Phase → List Step
  | .preCleanup => if opts.preCleanup then cleanup opts.config else []
  | .attach => attach opts.config
  | .syncer => runSyncer opts.syncProgram opts.syncArgs
  | .cleanup => if opts.cleanupOnExit then cleanup opts.config else []
  | .exited _ => []

-- The process and the machine: `attached` are the filters that the agent's own
-- commands have installed and not deleted, `filters` those of them that are there.
structure Agent where
  phase : Phase
  todo : List Step
  attached : List TcFilter
  filters : List TcFilter
  ifaces : List String
  signalled : Bool
deriving DecidableEq, Repr

inductive Outcome where
  | done
  | exited (err : String)
  | failed (err : String)
deriving DecidableEq, Repr

inductive Event where
  | answer (outcome : Outcome)
  | interfaces (now : List String)
  | signal
deriving DecidableEq, Repr

def ifaceExists (ifaces : List String) (name : String) : Bool := trimmed name ≠ "" && name ∈ ifaces

def Outcome.error : Outcome → Option String
  | .done => none
  | .exited err => some err
  | .failed err => some err

def Step.error (signalled : Bool) (outcome : Outcome) : Step → Option String
  | .requireRoot => outcome.error.map fun _ => "run as root"
  | .refuse err => some err
  | .stat context path => outcome.error.map fun err => s!"{context} {path}: {err}"
  | .ensureBPFSMounted => outcome.error
  | .clearMapDir _ => outcome.error
  | .run false _ _ => outcome.error
  | .run true _ _ =>
    match outcome with
    | .failed err => some err
    | _ => none
  | .setAcceptLocal _ => outcome.error
  | .attach _ => none
  | .attachVETHs => outcome.error.map fun err => s!"glob veth interfaces: {err}"
  | .delete _ => none
  | .deleteVETHs => outcome.error.map fun err => s!"glob veth interfaces: {err}"
  | .syncer _ => if signalled then none else outcome.error.map fun err => s!"syncer exited: {err}"

def Step.expand (cfg : Config) (ifaces : List String) : Step → List Step
  | .attach filter => if ifaceExists ifaces filter.iface then attachFilter cfg filter else []
  | .attachVETHs => (ifaces.filter cfg.vethGlob).map fun iface => .attach ⟨iface,.ingress⟩
  | .delete filter => if ifaceExists ifaces filter.iface then deleteFilter cfg filter else []
  | .deleteVETHs => (ifaces.filter cfg.vethGlob).map fun iface => .delete ⟨iface,.ingress⟩
  | _ => []

def Effect.apply (ifaces : List String) (filters : List TcFilter) : Effect → List TcFilter
  | .nothing => filters
  | .install filter => if filter.iface ∈ ifaces then filter :: filters else filters
  | .remove filter => filters.filter (· ≠ filter)

def Step.filters (ifaces : List String) (filters : List TcFilter) : Step → List TcFilter
  | .run _ _ effect => effect.apply ifaces filters
  | _ => filters

-- A command that ended with an error has done nothing, also where that is allowed.
def Step.leaves (outcome : Outcome) (ifaces : List String) (filters : List TcFilter) (st : Step) : List TcFilter :=
  if outcome = .done then st.filters ifaces filters else filters

def Agent.enter (opts : Options) (a : Agent) (phase : Phase) : Agent := {a with phase := phase, todo := plan opts phase}

def Agent.fail (a : Agent) (err : String) : Agent := {a with phase := a.phase.fail err, todo := []}

def Agent.take (cfg : Config) (a : Agent) (outcome : Outcome) (st : Step) (rest : List Step) : Agent :=
  {a with todo := st.expand cfg a.ifaces ++ rest, attached := st.leaves outcome a.ifaces a.attached,
          filters := st.leaves outcome a.ifaces a.filters}

def Agent.answer (opts : Options) (a : Agent) (outcome : Outcome) : Agent :=
  match a.todo with
  | [] => a.enter opts a.phase.next
  | st :: rest =>
    match st.error a.signalled outcome with
    | some err => a.fail err
    | none => a.take opts.config outcome st rest

-- An interface that is gone has taken its filters with it.
def step (opts : Options) (a : Agent) : Event → Agent
  | .answer outcome => a.answer opts outcome
  | .interfaces now => {a with ifaces := now, filters := a.filters.filter fun filter => filter.iface ∈ now}
  | .signal => {a with signalled := true}

def start (opts : Options) (ifaces : List String) (signalled : Bool) : Agent :=
  ⟨.preCleanup,plan opts .preCleanup,[],[],ifaces,signalled⟩

end Aipr.AgentRun
