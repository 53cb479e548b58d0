import Aipr.ClearTarget
import Aipr.SyncerFlags

namespace Aipr.DryRun
open Syncer EnvDetect FlagPackage SyncerFlags

structure AgentOptions where
  snatIface : String
  snatIP : String
  serviceSelector : String
  syncMode : String
  syncPollInterval : String
  ctEntryTimeout : String
  ctGCInterval : String
  telemetryEnable : Bool
  telemetryWindow : String
  telemetryFormat : String
  telemetryOutput : String
  telemetryExperiment : String
  telemetryEventsFile : String
  telemetryService : String
  extraArgs : List String
  dryRun : Bool
deriving DecidableEq, Repr

section Agent
variable (lookupEnv : String → Option String)

def envString (name fallback : String) : String :=
  match lookupEnv name with
  | some value => trimmed value
  | none => fallback

def envBool (name : String) (fallback : Bool) : Bool :=
  match lookupEnv name with
  | none => fallback
  | some value =>
    if toLower (trimmed value) ∈ ["1","true","yes","on"] then true
    else if toLower (trimmed value) ∈ ["0","false","no","off"] then false
    else fallback

def loadOptions (arguments : List String) : Except Failure AgentOptions :=
  (parse [boolVar "dry-run" fun value _ => value] arguments (envBool lookupEnv "DRY_RUN" false)).map fun dryRun =>
    { snatIface := envString lookupEnv "NODEPORT_SNAT_IFACE" "cni0"
      snatIP := envString lookupEnv "NODEPORT_SNAT_IP" ""
      serviceSelector := envString lookupEnv "NODEPORT_SERVICE_SELECTOR" ""
      syncMode := envString lookupEnv "NODEPORT_SYNC_MODE" "watch"
      syncPollInterval := envString lookupEnv "NODEPORT_SYNC_POLL_INTERVAL" "5"
      ctEntryTimeout := envString lookupEnv "NODEPORT_CT_ENTRY_TIMEOUT" "10m"
      ctGCInterval := envString lookupEnv "NODEPORT_CT_GC_INTERVAL" "30s"
      telemetryEnable := envBool lookupEnv "NODEPORT_TELEMETRY_ENABLE" false
      telemetryWindow := envString lookupEnv "NODEPORT_TELEMETRY_WINDOW" "1s"
      telemetryFormat := envString lookupEnv "NODEPORT_TELEMETRY_FORMAT" "csv"
      telemetryOutput := envString lookupEnv "NODEPORT_TELEMETRY_OUTPUT" "/var/log/ebpf-nodeport/telemetry"
      telemetryExperiment := envString lookupEnv "NODEPORT_TELEMETRY_EXPERIMENT_ID" "default"
      telemetryEventsFile := envString lookupEnv "NODEPORT_TELEMETRY_EVENTS_FILE" ""
      telemetryService := envString lookupEnv "NODEPORT_TELEMETRY_SERVICE" ""
      extraArgs := fieldsFunc isSpace (envString lookupEnv "NODEPORT_EXTRA_ARGS" "")
      dryRun := dryRun }

end Agent

def given (flag value : String) : List String := if value ≠ "" then [flag,value] else []

def profileArgs (opts : AgentOptions) (nodeName : String) (profile : Environment) : List (List String) :=
  [["--sync-mode",opts.syncMode],
    ["--node-name",nodeName],
    ["--external-iface",profile.externalIface],
    ["--local-delivery-iface",profile.localDeliveryIface],
    ["--routing-mode",profile.routingMode],
    given "--remote-delivery-iface" profile.remoteDeliveryIface,
    given "--service" opts.serviceSelector,
    if opts.snatIP ≠ "" then ["--snat-ip",opts.snatIP] else ["--snat-iface",opts.snatIface],
    if opts.syncMode = "poll" then ["--poll-interval",opts.syncPollInterval] else [],
    given "--ct-entry-timeout" opts.ctEntryTimeout,
    given "--ct-gc-interval" opts.ctGCInterval,
    if opts.telemetryEnable then ["--telemetry-enable"] else [],
    given "--telemetry-window" opts.telemetryWindow,
    given "--telemetry-format" opts.telemetryFormat,
    given "--telemetry-output" opts.telemetryOutput,
    given "--telemetry-experiment-id" opts.telemetryExperiment,
    given "--telemetry-events-file" opts.telemetryEventsFile,
    given "--telemetry-service" opts.telemetryService]

def buildSyncArgs (opts : AgentOptions) (nodeName : String) (profile : Environment) : List String :=
  (profileArgs opts nodeName profile).flatten ++ opts.extraArgs ++ if opts.dryRun then ["--dry-run"] else []

-- The extra words are flags up to their end, each with its value, or the last of them
-- on the dry run before the parsing comes to its end asks for one.
def Reaches {Seconds : Type} (numbers : Numbers Seconds) (words : List String) : Prop :=
  (reading (syncerFlags numbers) words).ending = .complete ∨
    said "dry-run" (reading (syncerFlags numbers) words).settings = some true

section Reach
variable {Seconds : Type} {numbers : Numbers Seconds}

instance (words : List String) : Decidable (Reaches numbers words) := inferInstanceAs (Decidable (_ ∨ _))

theorem aside_given {own flag value : String} (aside : Aside (syncerFlags numbers) own [flag,value]) :
    Aside (syncerFlags numbers) own (given flag value) := by
  unfold given
  split
  · exact aside
  · exact aside_none

theorem profileArgs_aside (opts : AgentOptions) (nodeName : String) (profile : Environment) :
    Aside (syncerFlags numbers) "dry-run" (profileArgs opts nodeName profile).flatten := by
  have snat : Aside (syncerFlags numbers) "dry-run"
      (if opts.snatIP ≠ "" then ["--snat-ip",opts.snatIP] else ["--snat-iface",opts.snatIface]) := by
    split
    · exact aside_value rfl rfl (by decide) _
    · exact aside_value rfl rfl (by decide) _
  have poll : Aside (syncerFlags numbers) "dry-run" (if opts.syncMode = "poll" then ["--poll-interval",opts.syncPollInterval] else []) := by
    split
    · exact aside_value rfl rfl (by decide) _
    · exact aside_none
  have telemetry : Aside (syncerFlags numbers) "dry-run" (if opts.telemetryEnable then ["--telemetry-enable"] else []) := by
    split
    · exact aside_boolean rfl rfl (by decide)
    · exact aside_none
  refine aside_flatten ?_
  simp only [profileArgs,List.forall_mem_cons]
  refine ⟨aside_value rfl rfl ?_ _,aside_value rfl rfl ?_ _,aside_value rfl rfl ?_ _,aside_value rfl rfl ?_ _,
    aside_value rfl rfl ?_ _,aside_given (aside_value rfl rfl ?_ _),aside_given (aside_value rfl rfl ?_ _),snat,poll,
    aside_given (aside_value rfl rfl ?_ _),aside_given (aside_value rfl rfl ?_ _),telemetry,
    aside_given (aside_value rfl rfl ?_ _),aside_given (aside_value rfl rfl ?_ _),aside_given (aside_value rfl rfl ?_ _),
    aside_given (aside_value rfl rfl ?_ _),aside_given (aside_value rfl rfl ?_ _),aside_given (aside_value rfl rfl ?_ _),?_⟩
  any_goals decide
  exact fun _ member => absurd member List.not_mem_nil

-- A dry run of the agent is one of the syncer exactly when the extra words let it through.
theorem dry_run_iff {opts : AgentOptions} {nodeName nodeEnv : String} {profile : Environment} {syncer : Options}
    (dry : opts.dryRun = true) (accepted : parseOptions numbers nodeEnv (buildSyncArgs opts nodeName profile) = .ok syncer) :
    syncer.dryRun = true ↔ Reaches numbers opts.extraArgs := by
  obtain ⟨parsed,found,valid⟩ := parseOptions_parsed numbers accepted
  rw [buildSyncArgs,if_pos dry] at found
  have boolean : kind (syncerFlags numbers) "dry-run" = some true := rfl
  obtain ⟨flag,listed,alone⟩ := Option.map_eq_some_iff.mp boolean
  obtain ⟨ending,told⟩ := (profileArgs_aside opts nodeName profile).before opts.extraArgs
  have shown := flag_behind (dryRun_shows numbers) rfl listed alone found
  rw [ending,told] at shown
  have last (value : Option Bool) : value.getD false = true ↔ value = some true := by
    cases value <;> simp
  rw [validateOptions_dryRun numbers valid,shown]
  exact or_congr_right (last _)

theorem default_reaches {lookupEnv : String → Option String} {arguments : List String} {opts : AgentOptions}
    (unset : envString lookupEnv "NODEPORT_EXTRA_ARGS" "" = "") (loaded : loadOptions lookupEnv arguments = .ok opts) :
    Reaches numbers opts.extraArgs := by
  have words : opts.extraArgs = fieldsFunc isSpace (envString lookupEnv "NODEPORT_EXTRA_ARGS" "") := by
    unfold loadOptions at loaded
    cases parsed : parse [boolVar "dry-run" fun value _ => value] arguments (envBool lookupEnv "DRY_RUN" false) with
    | error failure =>
      rw [parsed] at loaded
      cases loaded
    | ok dryRun =>
      rw [parsed] at loaded
      cases loaded
      rfl
  rw [words,unset]
  exact .inl rfl

end Reach

section Runs

def start {Seconds : Type} (numbers : Numbers Seconds) (lookupEnv : String → Option String) (arguments : List String)
    (nodeName : String) (profile : Environment) : Option (AgentOptions × Options) :=
  (loadOptions lookupEnv arguments).toOption.bind fun opts =>
    (parseOptions numbers ((lookupEnv "NODE_NAME").getD "") (buildSyncArgs opts nodeName profile)).toOption.map fun syncer => (opts,syncer)

theorem started {Seconds : Type} {numbers : Numbers Seconds} {lookupEnv : String → Option String} {arguments : List String}
    {nodeName : String} {profile : Environment} {agentDry syncerDry : Bool}
    (ran : (start numbers lookupEnv arguments nodeName profile).map (fun both => (both.1.dryRun,both.2.dryRun)) = some (agentDry,syncerDry)) :
    ∃ opts syncer, loadOptions lookupEnv arguments = .ok opts ∧ opts.dryRun = agentDry ∧
      parseOptions numbers ((lookupEnv "NODE_NAME").getD "") (buildSyncArgs opts nodeName profile) = .ok syncer ∧
        syncer.dryRun = syncerDry := by
  have ok {ε α : Type} {result : Except ε α} {value : α} (some : result.toOption = some value) : result = .ok value := by
    cases result <;> cases some
    rfl
  obtain ⟨both,here,dry⟩ := Option.map_eq_some_iff.mp ran
  obtain ⟨opts,loaded,rest⟩ := Option.bind_eq_some_iff.mp here
  obtain ⟨syncer,parsed,rfl⟩ := Option.map_eq_some_iff.mp rest
  cases dry
  exact ⟨opts,syncer,ok loaded,rfl,ok parsed,rfl⟩

def defaultNumbers : Numbers Int where
  parseFloat value := if value = "5" then .ok 5000000000 else .error "parse error"
  parseDuration value :=
    match [("10m",600000000000),("30s",30000000000),("1s",1000000000)].lookup value with
    | some nanoseconds => .ok nanoseconds
    | none => .error "parse error"
  durationFromSeconds nanoseconds := nanoseconds
  five := 5000000000
  fifth := 200000000

def nativeProfile : Environment := ⟨"eth0","cni0","","native",["cni0"]⟩

def withExtra (words : String) (name : String) : Option String := [("NODEPORT_EXTRA_ARGS",words)].lookup name

theorem map_pin_dry_run : ∃ opts syncer, loadOptions (withExtra "--rr-state-map-pin /tmp/rr") ["--dry-run"] = .ok opts ∧
    parseOptions defaultNumbers "" (buildSyncArgs opts "worker1" nativeProfile) = .ok syncer ∧
      (syncer.dryRun = true ↔ Reaches defaultNumbers opts.extraArgs) := by
  have ran : (start defaultNumbers (withExtra "--rr-state-map-pin /tmp/rr") ["--dry-run"] "worker1" nativeProfile).map
      (fun both => (both.1.dryRun,both.2.dryRun)) = some (true,true) := by decide +kernel
  obtain ⟨opts,syncer,loaded,dry,parsed,_⟩ := started ran
  exact ⟨opts,syncer,loaded,parsed,dry_run_iff dry parsed⟩

theorem debug_no_dry_run : ∃ opts syncer, loadOptions (withExtra "debug") ["--dry-run"] = .ok opts ∧ opts.dryRun = true ∧
    parseOptions defaultNumbers "" (buildSyncArgs opts "worker1" nativeProfile) = .ok syncer ∧ syncer.dryRun = false :=
  started (by decide +kernel)

-- A flag at the end without its value takes the dry run for it.
example : ¬ Reaches defaultNumbers ["--telemetry-service"] := by decide +kernel

end Runs

section Scripts
variable {s : Script}

theorem quiet_andThen {next : Script} (first : s.calls = []) (second : next.calls = []) : (s.andThen next).calls = [] := by
  rw [calls_andThen,first,second]
  split <;> rfl

theorem quiet_all {scripts : List Script} (quiet : ∀ s ∈ scripts, s.calls = []) : (Script.all scripts).calls = [] := by
  refine List.eq_nil_iff_forall_not_mem.mpr fun c member => ?_
  obtain ⟨s,listed,called⟩ := mem_calls_all member
  rw [quiet s listed] at called
  exact List.not_mem_nil called

theorem quiet_delete (e : NodePortEntry) : (deleteEntry true e).calls = [] := by
  unfold deleteEntry
  split <;> rfl

theorem quiet_reconcile (appliedConfig : Option DeliveryConfig) (config : DeliveryConfig) (applied desired : Entries) :
    (SharedPort.reconcile true appliedConfig config applied desired).calls = [] := by
  have configured : (SharedPort.syncConfig true appliedConfig config).calls = [] := by
    unfold SharedPort.syncConfig
    split <;> rfl
  refine quiet_andThen configured (quiet_all fun s member => ?_)
  rcases List.mem_append.mp member with removed | changed
  · obtain ⟨id,_,rfl⟩ := List.mem_map.mp removed
    exact quiet_delete _
  · obtain ⟨id,_,rfl⟩ := List.mem_map.mp changed
    unfold replaceEntry
    split
    · exact quiet_andThen (quiet_delete _) (dry_upsert _)
    · exact dry_upsert _

theorem quiet_oneshot (clearTarget : Bool) (config : DeliveryConfig) (desired : DesiredSet) :
    (ClearTarget.startOneshot clearTarget true config desired).calls = [] := by
  refine quiet_andThen ?_ (quiet_reconcile _ _ _ _)
  unfold ClearTarget.clearTargetState
  split
  · rfl
  · split
    · rfl
    · refine quiet_all fun s member => ?_
      obtain ⟨id,_,rfl⟩ := List.mem_map.mp member
      exact quiet_delete _

end Scripts

end Aipr.DryRun
