import Mathlib.Data.List.Nodup
import Aipr.EnvDetect
import Aipr.FlagPackage

namespace Aipr.SyncerFlags
open Syncer EnvDetect FlagPackage

-- Durations are counted in nanoseconds.
structure Options where
  nodeName : String
  serviceSelector : String
  clearTargetState : Bool
  snatIP : String
  snatIface : String
  externalIface : String
  localDeliveryIface : String
  remoteDeliveryIface : String
  routingMode : String
  serviceMapPin : String
  backendMapPin : String
  rrStateMapPin : String
  configMapPin : String
  ctMapPin : String
  fwdCTMapPin : String
  statsMapPin : String
  syncMode : String
  pollInterval : Int
  watchDebounce : Int
  ctEntryTimeout : Int
  ctGCInterval : Int
  telemetryEnable : Bool
  telemetryWindow : Int
  telemetryFormat : String
  telemetryOutput : String
  telemetryExperiment : String
  telemetryEventsFile : String
  telemetryService : String
  dryRun : Bool
deriving DecidableEq, Repr

def defaultDebounce : Int := 200000000

def defaultConntrackTimeout : Int := 600000000000

def defaultConntrackInterval : Int := 30000000000

def defaultTelemetryWindow : Int := 1000000000

def defaultTelemetryFormat : String := "csv"

def defaultTelemetryOutput : String := "/var/log/ebpf-nodeport/telemetry"

def mapPin (name : String) : String := "/sys/fs/bpf/nodeport_tc/maps/" ++ name

-- The floating point numbers of the program: strconv.ParseFloat, the two literals and
-- the conversion of seconds; time.ParseDuration computes fractions with them too.
structure Numbers (Seconds : Type) where
  parseFloat : String → Except String Seconds
  parseDuration : String → Except String Int
  durationFromSeconds : Seconds → Int
  five : Seconds
  fifth : Seconds

structure Parsed (Seconds : Type) where
  opts : Options
  pollInterval : Seconds
  watchDebounce : Seconds

inductive Refusal where
  | flags (failure : Failure)
  | options (message : String)
deriving DecidableEq, Repr

section Syncer
variable {Seconds : Type} (numbers : Numbers Seconds)

-- The options before the first word; NODE_NAME gives the default of one of them.
def defaults (nodeName : String) : Parsed Seconds where
  opts :=
    { nodeName := nodeName
      serviceSelector := ""
      clearTargetState := false
      snatIP := ""
      snatIface := "cni0"
      externalIface := ""
      localDeliveryIface := ""
      remoteDeliveryIface := ""
      routingMode := ""
      serviceMapPin := mapPin "nodeport_service_map"
      backendMapPin := mapPin "nodeport_backend_map"
      rrStateMapPin := mapPin "nodeport_rr_state_map"
      configMapPin := mapPin "nodeport_config_map"
      ctMapPin := mapPin "nodeport_ct_map"
      fwdCTMapPin := mapPin "nodeport_fwd_ct_map"
      statsMapPin := mapPin "nodeport_stats_map"
      syncMode := "watch"
      pollInterval := 0
      watchDebounce := 0
      ctEntryTimeout := defaultConntrackTimeout
      ctGCInterval := defaultConntrackInterval
      telemetryEnable := false
      telemetryWindow := defaultTelemetryWindow
      telemetryFormat := defaultTelemetryFormat
      telemetryOutput := defaultTelemetryOutput
      telemetryExperiment := "default"
      telemetryEventsFile := ""
      telemetryService := ""
      dryRun := false }
  pollInterval := numbers.five
  watchDebounce := numbers.fifth

def float64Var (name : String) (store : Seconds → Parsed Seconds → Parsed Seconds) : Flag (Parsed Seconds) :=
  parsedVar numbers.parseFloat name store

def durationVar (name : String) (store : Int → Parsed Seconds → Parsed Seconds) : Flag (Parsed Seconds) :=
  parsedVar numbers.parseDuration name store

def syncerFlags : List (Flag (Parsed Seconds)) :=
  [stringVar "node-name" fun value p => {p with opts.nodeName := value},
    stringVar "service" fun value p => {p with opts.serviceSelector := value},
    boolVar "clear-target-state" fun value p => {p with opts.clearTargetState := value},
    stringVar "snat-ip" fun value p => {p with opts.snatIP := value},
    stringVar "snat-iface" fun value p => {p with opts.snatIface := value},
    stringVar "external-iface" fun value p => {p with opts.externalIface := value},
    stringVar "local-delivery-iface" fun value p => {p with opts.localDeliveryIface := value},
    stringVar "remote-delivery-iface" fun value p => {p with opts.remoteDeliveryIface := value},
    stringVar "routing-mode" fun value p => {p with opts.routingMode := value},
    stringVar "service-map-pin" fun value p => {p with opts.serviceMapPin := value},
    stringVar "backend-map-pin" fun value p => {p with opts.backendMapPin := value},
    stringVar "rr-state-map-pin" fun value p => {p with opts.rrStateMapPin := value},
    stringVar "config-map-pin" fun value p => {p with opts.configMapPin := value},
    stringVar "ct-map-pin" fun value p => {p with opts.ctMapPin := value},
    stringVar "fwd-ct-map-pin" fun value p => {p with opts.fwdCTMapPin := value},
    stringVar "stats-map-pin" fun value p => {p with opts.statsMapPin := value},
    stringVar "sync-mode" fun value p => {p with opts.syncMode := value},
    float64Var numbers "poll-interval" fun value p => {p with pollInterval := value},
    float64Var numbers "watch-debounce" fun value p => {p with watchDebounce := value},
    durationVar numbers "ct-entry-timeout" fun value p => {p with opts.ctEntryTimeout := value},
    durationVar numbers "ct-gc-interval" fun value p => {p with opts.ctGCInterval := value},
    boolVar "telemetry-enable" fun value p => {p with opts.telemetryEnable := value},
    durationVar numbers "telemetry-window" fun value p => {p with opts.telemetryWindow := value},
    stringVar "telemetry-format" fun value p => {p with opts.telemetryFormat := value},
    stringVar "telemetry-output" fun value p => {p with opts.telemetryOutput := value},
    stringVar "telemetry-experiment-id" fun value p => {p with opts.telemetryExperiment := value},
    stringVar "telemetry-events-file" fun value p => {p with opts.telemetryEventsFile := value},
    stringVar "telemetry-service" fun value p => {p with opts.telemetryService := value},
    boolVar "dry-run" fun value p => {p with opts.dryRun := value}]

def defaultTo (default value : Int) : Int := if value ≤ 0 then default else value

-- The options as the checks leave them. No check reads a field that is changed after it.
def settled (parsed : Parsed Seconds) : Options :=
  let telemetryFormat := toLower (trimmed parsed.opts.telemetryFormat)
  { parsed.opts with
    syncMode := toLower (trimmed parsed.opts.syncMode)
    routingMode := toLower (trimmed parsed.opts.routingMode)
    pollInterval := defaultTo 5000000000 (numbers.durationFromSeconds parsed.pollInterval)
    watchDebounce := defaultTo defaultDebounce (numbers.durationFromSeconds parsed.watchDebounce)
    telemetryFormat := if parsed.opts.telemetryEnable ∧ telemetryFormat = "" then defaultTelemetryFormat else telemetryFormat }

def blank (value : String) : Bool := trimmed value = ""

def complaints (opts : Options) : List (Bool × String) :=
  [(opts.syncMode ∉ ["oneshot","poll","watch"],"--sync-mode must be oneshot, poll, or watch"),
    (opts.routingMode ∉ ["","native","encap"],"--routing-mode must be \"native\" or \"encap\""),
    (blank opts.externalIface,"--external-iface is required"),
    (blank opts.localDeliveryIface,"--local-delivery-iface is required"),
    (opts.routingMode = "encap" && blank opts.remoteDeliveryIface,"--remote-delivery-iface is required when routing-mode=encap"),
    (opts.ctEntryTimeout < 0,"--ct-entry-timeout must be >= 0"),
    (opts.ctGCInterval < 0,"--ct-gc-interval must be >= 0"),
    (opts.telemetryEnable && opts.telemetryWindow ≤ 0,"--telemetry-window must be > 0 when telemetry is enabled"),
    (opts.telemetryEnable && opts.telemetryFormat ≠ defaultTelemetryFormat,"--telemetry-format must be \"csv\""),
    (opts.telemetryEnable && blank opts.telemetryOutput,"--telemetry-output is required when telemetry is enabled"),
    (opts.telemetryEnable && blank opts.telemetryExperiment,"--telemetry-experiment-id is required when telemetry is enabled"),
    (opts.clearTargetState && opts.syncMode ≠ "oneshot","--clear-target-state requires --sync-mode=oneshot"),
    (opts.clearTargetState && blank opts.serviceSelector,"--clear-target-state requires --service namespace/name")]

def validateOptions (parsed : Parsed Seconds) : Except String Options :=
  match (complaints (settled numbers parsed)).find? (·.1) with
  | some complaint => .error complaint.2
  | none => .ok (settled numbers parsed)

def parseOptions (nodeName : String) (arguments : List String) : Except Refusal Options :=
  match parse (syncerFlags numbers) arguments (defaults numbers nodeName) with
  | .error failure => .error (.flags failure)
  | .ok parsed =>
    match validateOptions numbers parsed with
    | .error message => .error (.options message)
    | .ok opts => .ok opts

theorem names_distinct : ((syncerFlags numbers).map Flag.name).Nodup := by
  simp [syncerFlags,float64Var,durationVar]

theorem dryRun_shows : Shows (syncerFlags numbers) "dry-run" fun p => p.opts.dryRun := by
  refine ⟨?_,?_⟩
  · intro flag member called value p p' written
    have last : boolVar "dry-run" (fun value p => {p with opts.dryRun := value}) ∈ syncerFlags numbers := by
      simp [syncerFlags]
    have same := List.inj_on_of_nodup_map (names_distinct numbers) member last called
    rw [same] at written
    refine boolVar_shows (fun p => p.opts.dryRun) ?_ written
    exact fun _ _ => rfl
  · simp [syncerFlags,float64Var,durationVar]

@[simp] theorem settled_dryRun (parsed : Parsed Seconds) : (settled numbers parsed).dryRun = parsed.opts.dryRun := by
  rw [settled]

theorem validateOptions_dryRun {parsed : Parsed Seconds} {opts : Options} (valid : validateOptions numbers parsed = .ok opts) :
    opts.dryRun = parsed.opts.dryRun := by
  unfold validateOptions at valid
  split at valid
  · cases valid
  · rw [← Except.ok.inj valid,settled_dryRun]

theorem parseOptions_parsed {nodeName : String} {arguments : List String} {opts : Options}
    (accepted : parseOptions numbers nodeName arguments = .ok opts) :
    ∃ parsed, parse (syncerFlags numbers) arguments (defaults numbers nodeName) = .ok parsed ∧
      validateOptions numbers parsed = .ok opts := by
  unfold parseOptions at accepted
  split at accepted
  · cases accepted
  · rename_i parsed found
    split at accepted
    · cases accepted
    · rename_i valid
      cases accepted
      exact ⟨parsed,found,valid⟩

end Syncer

end Aipr.SyncerFlags
