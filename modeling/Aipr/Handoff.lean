import Aipr.DryRun
import Aipr.InnerList

namespace Aipr.Handoff
open Syncer EnvDetect FlagPackage SyncerFlags DryRun

-- Words that change the state by themselves, whatever comes after them.
def Means {σ : Type} (flags : List (Flag σ)) (words : List String) (step : σ → Except Failure σ) : Prop :=
  ∀ more s, parse flags (words ++ more) s = (step s).bind (parse flags more)

section Words
variable {σ α : Type} {flags : List (Flag σ)} {word name value : String} {words other : List String} {flag : Flag σ}
  {step step' : σ → Except Failure σ}

theorem means_nothing : Means flags [] .ok := fun _ _ => rfl

theorem means_value (lexed : lex word = .flag name none) (found : lookup flags name = some flag) (valued : flag.isBoolFlag = false)
    (assigned : ∀ s, flag.assign (some value) s = step s) : Means flags [word,value] step := by
  intro more s
  rw [← assigned s]
  simp [parse,lexed,found,valued]

theorem means_on (lexed : lex word = .flag name none) (found : lookup flags name = some flag) (alone : flag.isBoolFlag = true)
    (assigned : ∀ s, flag.assign none s = step s) : Means flags [word] step := by
  intro more s
  rw [← assigned s]
  simp [parse,lexed,found,alone]

def number (parse : String → Except String α) (name value : String) : Except Failure α :=
  match parse value with
  | .ok value => .ok value
  | .error err => .error (.invalidValue value name err)

theorem parsed_assign (parse : String → Except String α) (name : String) (store : α → σ → σ) (value : String) (s : σ) :
    (parsedVar parse name store).assign (some value) s = (number parse name value).map fun value => store value s := by
  unfold Flag.assign number parsedVar
  dsimp only [Option.getD_some]
  cases parse value <;> rfl

theorem means_unless {given : Prop} [Decidable given] (meant : Means flags words step) :
    Means flags (if given then words else []) fun s => if given then step s else .ok s := by
  intro more s
  split
  · exact meant more s
  · rfl

theorem means_same (meant : Means flags words step) (same : ∀ s, step s = step' s) : Means flags words step' :=
  (funext same : step = step') ▸ meant

theorem means_either {given : Prop} [Decidable given] (meant : Means flags words step) (meant' : Means flags other step') :
    Means flags (if given then words else other) fun s => if given then step s else step' s := by
  intro more s
  split
  · exact meant more s
  · exact meant' more s

theorem means_groups {groups : List (List String)} {steps : List (σ → Except Failure σ)} (each : List.Forall₂ (Means flags) groups steps) :
    Means flags groups.flatten fun s => steps.foldlM (fun s step => step s) s := by
  induction each with
  | nil => exact means_nothing
  | cons first rest ih =>
    rename_i words step groups steps
    intro more s
    have later := first (groups.flatten ++ more) s
    rw [List.flatten_cons,List.append_assoc,later]
    dsimp only
    rw [List.foldlM_cons]
    cases step s with
    | error failure => rfl
    | ok s => exact ih more s

end Words

section Agent
variable {Seconds : Type} (numbers : Numbers Seconds) (opts : AgentOptions) (nodeName : String) (profile : Environment)

def orDefault (value default : String) : String := if value ≠ "" then value else default

def handedTo (pollInterval : Seconds) (ctEntryTimeout ctGCInterval telemetryWindow : Int) : Parsed Seconds where
  opts := { (defaults numbers nodeName).opts with
    serviceSelector := opts.serviceSelector
    snatIP := opts.snatIP
    snatIface := if opts.snatIP ≠ "" then "cni0" else opts.snatIface
    externalIface := profile.externalIface
    localDeliveryIface := profile.localDeliveryIface
    remoteDeliveryIface := profile.remoteDeliveryIface
    routingMode := profile.routingMode
    syncMode := opts.syncMode
    ctEntryTimeout := ctEntryTimeout
    ctGCInterval := ctGCInterval
    telemetryEnable := opts.telemetryEnable
    telemetryWindow := telemetryWindow
    telemetryFormat := orDefault opts.telemetryFormat defaultTelemetryFormat
    telemetryOutput := orDefault opts.telemetryOutput defaultTelemetryOutput
    telemetryExperiment := orDefault opts.telemetryExperiment "default"
    telemetryEventsFile := opts.telemetryEventsFile
    telemetryService := opts.telemetryService }
  pollInterval := pollInterval
  watchDebounce := numbers.fifth

def handed : Except Failure (Parsed Seconds) := do
  let pollInterval ← (if opts.syncMode = "poll" then number numbers.parseFloat "poll-interval" opts.syncPollInterval
    else .ok numbers.five)
  let ctEntryTimeout ← (if opts.ctEntryTimeout ≠ "" then number numbers.parseDuration "ct-entry-timeout" opts.ctEntryTimeout
    else .ok defaultConntrackTimeout)
  let ctGCInterval ← (if opts.ctGCInterval ≠ "" then number numbers.parseDuration "ct-gc-interval" opts.ctGCInterval
    else .ok defaultConntrackInterval)
  let telemetryWindow ← (if opts.telemetryWindow ≠ "" then number numbers.parseDuration "telemetry-window" opts.telemetryWindow
    else .ok defaultTelemetryWindow)
  return handedTo numbers opts nodeName profile pollInterval ctEntryTimeout ctGCInterval telemetryWindow

def nameSteps : List (Parsed Seconds → Except Failure (Parsed Seconds)) :=
  [fun p => .ok {p with opts.syncMode := opts.syncMode},
    fun p => .ok {p with opts.nodeName := nodeName},
    fun p => .ok {p with opts.externalIface := profile.externalIface},
    fun p => .ok {p with opts.localDeliveryIface := profile.localDeliveryIface},
    fun p => .ok {p with opts.routingMode := profile.routingMode},
    fun p => .ok {p with opts.remoteDeliveryIface := orDefault profile.remoteDeliveryIface p.opts.remoteDeliveryIface},
    fun p => .ok {p with opts.serviceSelector := orDefault opts.serviceSelector p.opts.serviceSelector},
    fun p => .ok {p with
      opts.snatIP := orDefault opts.snatIP p.opts.snatIP
      opts.snatIface := if opts.snatIP ≠ "" then p.opts.snatIface else opts.snatIface}]

def numberSteps : List (Parsed Seconds → Except Failure (Parsed Seconds)) :=
  [fun p => (if opts.syncMode = "poll" then number numbers.parseFloat "poll-interval" opts.syncPollInterval
      else .ok p.pollInterval).map fun value => {p with pollInterval := value},
    fun p => (if opts.ctEntryTimeout ≠ "" then number numbers.parseDuration "ct-entry-timeout" opts.ctEntryTimeout
      else .ok p.opts.ctEntryTimeout).map fun value => {p with opts.ctEntryTimeout := value},
    fun p => (if opts.ctGCInterval ≠ "" then number numbers.parseDuration "ct-gc-interval" opts.ctGCInterval
      else .ok p.opts.ctGCInterval).map fun value => {p with opts.ctGCInterval := value},
    fun p => .ok {p with opts.telemetryEnable := opts.telemetryEnable || p.opts.telemetryEnable},
    fun p => (if opts.telemetryWindow ≠ "" then number numbers.parseDuration "telemetry-window" opts.telemetryWindow
      else .ok p.opts.telemetryWindow).map fun value => {p with opts.telemetryWindow := value}]

def telemetrySteps : List (Parsed Seconds → Except Failure (Parsed Seconds)) :=
  [fun p => .ok {p with opts.telemetryFormat := orDefault opts.telemetryFormat p.opts.telemetryFormat},
    fun p => .ok {p with opts.telemetryOutput := orDefault opts.telemetryOutput p.opts.telemetryOutput},
    fun p => .ok {p with opts.telemetryExperiment := orDefault opts.telemetryExperiment p.opts.telemetryExperiment},
    fun p => .ok {p with opts.telemetryEventsFile := orDefault opts.telemetryEventsFile p.opts.telemetryEventsFile},
    fun p => .ok {p with opts.telemetryService := orDefault opts.telemetryService p.opts.telemetryService}]

def handSteps : List (Parsed Seconds → Except Failure (Parsed Seconds)) :=
  nameSteps opts nodeName profile ++ (numberSteps numbers opts ++ telemetrySteps opts)

def withNames (p : Parsed Seconds) : Parsed Seconds :=
  {p with opts := {p.opts with
    syncMode := opts.syncMode
    nodeName := nodeName
    externalIface := profile.externalIface
    localDeliveryIface := profile.localDeliveryIface
    routingMode := profile.routingMode
    remoteDeliveryIface := orDefault profile.remoteDeliveryIface p.opts.remoteDeliveryIface
    serviceSelector := orDefault opts.serviceSelector p.opts.serviceSelector
    snatIP := orDefault opts.snatIP p.opts.snatIP
    snatIface := if opts.snatIP ≠ "" then p.opts.snatIface else opts.snatIface}}

def withNumbers (pollInterval : Seconds) (ctEntryTimeout ctGCInterval telemetryWindow : Int) (p : Parsed Seconds) : Parsed Seconds :=
  {p with
    pollInterval := pollInterval
    opts := {p.opts with
      ctEntryTimeout := ctEntryTimeout
      ctGCInterval := ctGCInterval
      telemetryEnable := opts.telemetryEnable || p.opts.telemetryEnable
      telemetryWindow := telemetryWindow}}

def withTelemetry (p : Parsed Seconds) : Parsed Seconds :=
  {p with opts := {p.opts with
    telemetryFormat := orDefault opts.telemetryFormat p.opts.telemetryFormat
    telemetryOutput := orDefault opts.telemetryOutput p.opts.telemetryOutput
    telemetryExperiment := orDefault opts.telemetryExperiment p.opts.telemetryExperiment
    telemetryEventsFile := orDefault opts.telemetryEventsFile p.opts.telemetryEventsFile
    telemetryService := orDefault opts.telemetryService p.opts.telemetryService}}

variable {numbers opts nodeName profile}

theorem text_given {word name value : String} {flag : Flag (Parsed Seconds)} {step step' : Parsed Seconds → Except Failure (Parsed Seconds)}
    (lexed : lex word = .flag name none) (found : lookup (syncerFlags numbers) name = some flag) (valued : flag.isBoolFlag = false)
    (assigned : ∀ s, flag.assign (some value) s = step s) (same : ∀ s, (if value ≠ "" then step s else .ok s) = step' s) :
    Means (syncerFlags numbers) (given word value) step' :=
  means_same (means_unless (means_value lexed found valued assigned)) same

theorem map_unless {given : Prop} [Decidable given] {α β : Type} {f : α → β} {x : Except Failure α} {old : α} {kept : β} (same : f old = kept) :
    (if given then x.map f else .ok kept) = (if given then x else .ok old).map f := by
  split
  · rfl
  · exact congrArg Except.ok same.symm

theorem profileArgs_means : List.Forall₂ (Means (syncerFlags numbers)) (profileArgs opts nodeName profile)
    (handSteps numbers opts nodeName profile) := by
  refine .cons (means_value rfl rfl rfl fun _ => rfl) (.cons (means_value rfl rfl rfl fun _ => rfl) ?_)
  refine .cons (means_value rfl rfl rfl fun _ => rfl) (.cons (means_value rfl rfl rfl fun _ => rfl) ?_)
  refine .cons (means_value rfl rfl rfl fun _ => rfl) ?_
  refine .cons (text_given rfl rfl rfl (fun _ => rfl) fun _ => by unfold orDefault; split <;> rfl) ?_
  refine .cons (text_given rfl rfl rfl (fun _ => rfl) fun _ => by unfold orDefault; split <;> rfl) ?_
  refine .cons (means_same (means_either (means_value rfl rfl rfl fun _ => rfl) (means_value rfl rfl rfl fun _ => rfl)) fun _ => by
    unfold orDefault; split <;> rfl) ?_
  refine .cons (means_same (means_unless (means_value rfl rfl rfl fun s => parsed_assign _ _ _ _ s)) fun _ => map_unless rfl) ?_
  refine .cons (text_given rfl rfl rfl (fun s => parsed_assign _ _ _ _ s) fun _ => map_unless rfl) ?_
  refine .cons (text_given rfl rfl rfl (fun s => parsed_assign _ _ _ _ s) fun _ => map_unless rfl) ?_
  refine .cons (means_same (means_unless (means_on rfl rfl rfl fun _ => rfl)) fun p => by
    cases opts.telemetryEnable <;> rfl) ?_
  refine .cons (text_given rfl rfl rfl (fun s => parsed_assign _ _ _ _ s) fun _ => map_unless rfl) ?_
  refine .cons (text_given rfl rfl rfl (fun _ => rfl) fun _ => by unfold orDefault; split <;> rfl) ?_
  refine .cons (text_given rfl rfl rfl (fun _ => rfl) fun _ => by unfold orDefault; split <;> rfl) ?_
  refine .cons (text_given rfl rfl rfl (fun _ => rfl) fun _ => by unfold orDefault; split <;> rfl) ?_
  refine .cons (text_given rfl rfl rfl (fun _ => rfl) fun _ => by unfold orDefault; split <;> rfl) ?_
  exact .cons (text_given rfl rfl rfl (fun _ => rfl) fun _ => by unfold orDefault; split <;> rfl) .nil

@[simp] theorem orDefault_blank (value : String) : orDefault value "" = value := by
  unfold orDefault
  split
  · rfl
  · rename_i blank
    exact (not_not.mp blank).symm

theorem map_then {α β γ : Type} (x : Except Failure α) (f : α → β) (next : β → Except Failure γ) :
    x.map f >>= next = x >>= fun value => next (f value) := by
  cases x <;> rfl

theorem names_given (p : Parsed Seconds) : (nameSteps opts nodeName profile).foldlM (fun p step => step p) p =
    .ok (withNames opts nodeName profile p) := rfl

theorem telemetry_given (p : Parsed Seconds) : (telemetrySteps opts).foldlM (fun p step => step p) p = .ok (withTelemetry opts p) := rfl

theorem numbers_given (p : Parsed Seconds) : (numberSteps numbers opts).foldlM (fun p step => step p) p = (do
    let pollInterval ← (if opts.syncMode = "poll" then number numbers.parseFloat "poll-interval" opts.syncPollInterval
      else .ok p.pollInterval)
    let ctEntryTimeout ← (if opts.ctEntryTimeout ≠ "" then number numbers.parseDuration "ct-entry-timeout" opts.ctEntryTimeout
      else .ok p.opts.ctEntryTimeout)
    let ctGCInterval ← (if opts.ctGCInterval ≠ "" then number numbers.parseDuration "ct-gc-interval" opts.ctGCInterval
      else .ok p.opts.ctGCInterval)
    let telemetryWindow ← (if opts.telemetryWindow ≠ "" then number numbers.parseDuration "telemetry-window" opts.telemetryWindow
      else .ok p.opts.telemetryWindow)
    return withNumbers opts pollInterval ctEntryTimeout ctGCInterval telemetryWindow p) := by
  simp only [numberSteps,List.foldlM_cons,List.foldlM_nil,map_then]
  rfl

theorem given_defaults (pollInterval : Seconds) (ctEntryTimeout ctGCInterval telemetryWindow : Int) (nodeEnv : String) :
    withTelemetry opts (withNumbers opts pollInterval ctEntryTimeout ctGCInterval telemetryWindow
      (withNames opts nodeName profile (defaults numbers nodeEnv))) =
    handedTo numbers opts nodeName profile pollInterval ctEntryTimeout ctGCInterval telemetryWindow := by
  unfold withTelemetry withNumbers withNames handedTo defaults
  simp only [orDefault_blank,Bool.or_false]

theorem handSteps_handed (nodeEnv : String) : (handSteps numbers opts nodeName profile).foldlM (fun p step => step p) (defaults numbers nodeEnv) =
    handed numbers opts nodeName profile := by
  rw [handSteps,List.foldlM_append,names_given]
  refine (List.foldlM_append (m := Except Failure)).trans ?_
  rw [numbers_given,handed]
  simp only [telemetry_given,bind_assoc,pure_bind,given_defaults]
  rfl

-- The syncer reads every option of the agent as it was meant, whatever is in it, and
-- then the extra words.
theorem options_handed_over (nodeEnv : String) :
    parse (syncerFlags numbers) (buildSyncArgs opts nodeName profile) (defaults numbers nodeEnv) =
      (handed numbers opts nodeName profile).bind
        (parse (syncerFlags numbers) (opts.extraArgs ++ if opts.dryRun then ["--dry-run"] else [])) := by
  rw [buildSyncArgs,List.append_assoc]
  refine (means_groups profileArgs_means _ _).trans ?_
  exact congrArg (fun read : Except Failure (Parsed Seconds) => read.bind _) (handSteps_handed nodeEnv)

end Agent

section Detected
variable {machine : Machine} {opts : DetectOptions} {facts : ClusterFacts} {env : Environment} {name s : String}

def Visible (name : String) : Prop := name = "" ∨ trimmed name ≠ ""

theorem visible_empty : Visible "" := .inl rfl

theorem visible_trimmed (s : String) : Visible (trimmed s) := by
  by_cases given : trimmed s = ""
  · exact .inl given
  · refine .inr fun blank => given ?_
    have spaces := trimmed_empty.mp blank
    rw [trimmed,String.toList_ofList,trimSpace] at spaces
    cases kept : (s.toList.dropWhile isSpace).reverse.dropWhile isSpace with
    | nil =>
      rw [trimmed,trimSpace,kept]
      rfl
    | cons c rest =>
      have first := List.head?_dropWhile_not isSpace (s.toList.dropWhile isSpace).reverse
      rw [kept] at first spaces
      have space := spaces c (List.mem_reverse.mpr List.mem_cons_self)
      simp [space] at first

theorem splitAt_apart {separator : Char → Bool} {l field : List Char} (member : field ∈ splitAt separator l) :
    ∀ c ∈ field, separator c = false := by
  induction l generalizing field with
  | nil =>
    rw [splitAt,List.mem_singleton] at member
    rw [member]
    exact fun _ none => absurd none List.not_mem_nil
  | cons first rest ih =>
    rw [splitAt] at member
    split at member
    · rcases List.mem_cons.mp member with rfl | later
      · exact fun _ none => absurd none List.not_mem_nil
      · exact ih later
    · rename_i apart
      have own : separator first = false := by simpa using apart
      split at member
      · rw [List.mem_singleton.mp member]
        intro c inside
        rw [List.mem_singleton.mp inside]
        exact own
      · rename_i head fields found
        rw [found] at ih
        rcases List.mem_cons.mp member with rfl | later
        · intro c inside
          rcases List.mem_cons.mp inside with rfl | inside
          · exact own
          · exact ih List.mem_cons_self c inside
        · exact ih (List.mem_cons_of_mem _ later)

theorem field_given (member : name ∈ fieldsFunc isSpace s) : trimmed name ≠ "" := by
  obtain ⟨field,listed,rfl⟩ := List.mem_map.mp member
  obtain ⟨found,filled⟩ := List.mem_filter.mp listed
  intro blank
  have spaces := trimmed_empty.mp blank
  rw [String.toList_ofList] at spaces
  cases field with
  | nil => exact absurd rfl (of_decide_eq_true filled)
  | cons c rest =>
    have apart := splitAt_apart found c List.mem_cons_self
    rw [spaces c List.mem_cons_self] at apart
    cases apart

theorem afterDev_mem {fields : List String} (found : afterDev fields = some name) : name ∈ fields := by
  fun_induction afterDev fields with
  | case1 next rest =>
    cases found
    exact List.mem_cons_of_mem _ List.mem_cons_self
  | case2 field next rest other ih => exact List.mem_cons_of_mem _ (ih found)
  | case3 => cases found

theorem routeDev_given {output : String} (found : routeDev output = some name) : trimmed name ≠ "" := by
  obtain ⟨line,_,dev⟩ := List.exists_of_findSome?_eq_some found
  exact field_given (afterDev_mem dev)

theorem visible_target (machine : Machine) (target : String) : Visible (detectIfaceForTarget machine target) := by
  unfold detectIfaceForTarget
  cases runRead machine ["ip","-o","route","get",target] with
  | error err => exact visible_empty
  | ok output =>
    dsimp only
    cases found : routeDev output with
    | none => exact visible_empty
    | some name => exact .inr (routeDev_given found)

theorem visible_found {names : List String} {keep : String → Bool} (each : ∀ name ∈ names, Visible name) : Visible ((names.find? keep).getD "") := by
  cases found : names.find? keep with
  | none => exact visible_empty
  | some name => exact each name (List.mem_of_find?_eq_some found)

theorem visible_targets (machine : Machine) (targets : List String) : Visible (detectIfaceForTargets machine targets) := by
  refine visible_found fun name member => ?_
  obtain ⟨target,_,rfl⟩ := List.mem_map.mp member
  exact visible_target machine target

theorem visible_listed (raw : String) (place : Nat) : Visible ((normalizeCSV raw).getD place "") := by
  rw [List.getD_eq_getElem?_getD]
  cases found : (normalizeCSV raw)[place]? with
  | none => exact visible_empty
  | some name =>
    rw [normalizeCSV_sorted] at found
    have member := List.mem_of_getElem? found
    rw [List.mem_insertionSort] at member
    obtain ⟨_,item,_,rfl⟩ := mem_distinctNames member
    exact visible_trimmed item

theorem visible_delivery (machine : Machine) (opts : DetectOptions) : Visible (snatDelivery machine opts) := by
  unfold snatDelivery
  split
  · exact visible_trimmed opts.snatIface
  · exact visible_empty

theorem visible_existing (machine : Machine) {candidates : List String} (each : ∀ name ∈ candidates, Visible name) :
    Visible (firstExisting machine candidates) := visible_found each

instance (name : String) : Decidable (Visible name) := inferInstanceAs (Decidable (_ ∨ _))

theorem visible_candidates : (∀ name ∈ localDeliveryCandidates, Visible name) ∧ ∀ name ∈ encapCandidates, Visible name := by
  decide +kernel

def Machine.Named (machine : Machine) : Prop :=
  ∀ interfaces, machine.interfaces = .ok interfaces → ∀ iface ∈ interfaces, trimmed iface.1 ≠ ""

theorem nodeIP_visible (named : Machine.Named machine) (nodeIP : String) : Visible (detectIfaceForNodeIP machine nodeIP) := by
  unfold detectIfaceForNodeIP
  split
  · exact visible_empty
  · rename_i interfaces listed
    split
    · rename_i iface found
      exact .inr (named interfaces listed iface (List.mem_of_find?_eq_some found))
    · exact visible_empty

theorem defaultRoute_given (found : detectDefaultRouteIface machine = .ok name) : trimmed name ≠ "" := by
  unfold detectDefaultRouteIface at found
  obtain ⟨output,_,rest⟩ := bind_ok.mp found
  split at rest
  · rename_i iface dev
    cases rest
    exact routeDev_given dev
  · cases rest

theorem external_given (named : Machine.Named machine) (found : detectExternal machine opts facts = .ok name) : trimmed name ≠ "" := by
  have configured : Visible (firstNonEmpty [trimmed opts.externalIface,trimmed opts.attachIface]) :=
    visible_found (by simp [visible_trimmed])
  have byIP : Visible (if facts.nodeIP ≠ "" then detectIfaceForNodeIP machine facts.nodeIP else "") := by
    split
    · exact nodeIP_visible named facts.nodeIP
    · exact visible_empty
  unfold detectExternal at found
  generalize firstNonEmpty [trimmed opts.externalIface,trimmed opts.attachIface] = given at found configured
  generalize (if facts.nodeIP ≠ "" then detectIfaceForNodeIP machine facts.nodeIP else "") = near at found byIP
  dsimp only at found
  split at found
  · rename_i some
    split at found
    · cases found
      exact configured.resolve_left some
    · cases found
  · split at found
    · rename_i some
      cases found
      exact byIP.resolve_left some
    · exact defaultRoute_given found

theorem local_given (found : detectLocal machine opts facts = .ok name) : trimmed name ≠ "" := by
  have all : Visible (firstNonEmpty [trimmed opts.localDeliveryIface,detectIfaceForTargets machine (localTargets facts),
      (normalizeCSV opts.innerIfaces).getD 0 "",snatDelivery machine opts,firstExisting machine localDeliveryCandidates]) := by
    refine visible_found ?_
    simp only [List.forall_mem_cons]
    exact ⟨visible_trimmed _,visible_targets _ _,visible_listed _ 0,visible_delivery _ _,visible_existing _ visible_candidates.1,
      fun _ none => absurd none List.not_mem_nil⟩
  unfold detectLocal at found
  dsimp only at found
  split at found
  · cases found
  · split at found
    · cases found
    · rename_i given
      cases found
      exact all.resolve_left given

theorem remote_visible (found : detectRemote machine opts facts = .ok name) : Visible name := by
  unfold detectRemote at found
  dsimp only at found
  split at found
  · cases found
  · cases found
    refine visible_found ?_
    simp only [List.forall_mem_cons]
    exact ⟨visible_trimmed _,visible_targets _ _,visible_listed _ 1,visible_existing _ visible_candidates.2,
      fun _ none => absurd none List.not_mem_nil⟩

theorem mode_known {external remote mode : String} (found : detectMode opts external remote = .ok mode) :
    mode = "native" ∨ mode = "encap" ∧ remote ≠ "" := by
  unfold detectMode at found
  generalize toLower (trimmed opts.routingMode) = configured at found
  dsimp only at found
  by_cases known : configured ≠ "" ∧ configured ≠ "native" ∧ configured ≠ "encap"
  · rw [if_pos known] at found
    cases found
  · rw [if_neg known] at found
    have either : ∀ chosen : String, chosen = (if configured ≠ "" then configured
        else if remote ≠ "" ∧ remote ≠ external then "encap" else "native") → chosen = "native" ∨ chosen = "encap" := by
      rintro _ rfl
      split
      · rename_i given
        by_contra other
        rw [not_or] at other
        exact known ⟨given,other⟩
      · split
        · exact .inr rfl
        · exact .inl rfl
    generalize same : (if configured ≠ "" then configured
      else if remote ≠ "" ∧ remote ≠ external then "encap" else "native") = chosen at found
    by_cases bare : chosen = "encap" ∧ remote = ""
    · rw [if_pos bare] at found
      cases found
    · rw [if_neg bare] at found
      cases found
      exact (either _ same.symm).imp_right fun encap => ⟨encap,fun none => bare ⟨encap,none⟩⟩

theorem detect_given (named : Machine.Named machine) (detected : detect machine opts facts = .ok env) :
    trimmed env.externalIface ≠ "" ∧ trimmed env.localDeliveryIface ≠ "" ∧
      (env.routingMode = "native" ∨ env.routingMode = "encap" ∧ trimmed env.remoteDeliveryIface ≠ "") := by
  obtain ⟨external,outer,rest⟩ := bind_ok.mp detected
  obtain ⟨near,inner,rest⟩ := bind_ok.mp rest
  obtain ⟨far,remote,rest⟩ := bind_ok.mp rest
  obtain ⟨mode,routed,same⟩ := bind_ok.mp rest
  cases same
  refine ⟨external_given named outer,local_given inner,?_⟩
  exact (mode_known routed).imp_right fun encap => ⟨encap.1,(remote_visible remote).resolve_left encap.2⟩

end Detected

section Started
variable {Seconds : Type} {numbers : Numbers Seconds} {machine : Machine} {detectOpts : DetectOptions} {facts : ClusterFacts}
  {opts : AgentOptions} {nodeName : String} {profile : Environment}

-- The complaints that are left to the agent's own options.
def ownMessages : List String :=
  ["--sync-mode must be oneshot, poll, or watch","--ct-entry-timeout must be >= 0","--ct-gc-interval must be >= 0",
    "--telemetry-window must be > 0 when telemetry is enabled","--telemetry-format must be \"csv\"",
    "--telemetry-output is required when telemetry is enabled","--telemetry-experiment-id is required when telemetry is enabled"]

theorem dry_words (p : Parsed Seconds) (dry : Bool) : parse (syncerFlags numbers) (if dry then ["--dry-run"] else []) p =
    .ok {p with opts.dryRun := dry || p.opts.dryRun} := by
  cases dry with
  | false => rfl
  | true =>
    have meant : Means (syncerFlags numbers) ["--dry-run"] fun p => .ok {p with opts.dryRun := true} :=
      means_on rfl rfl rfl fun _ => rfl
    exact meant [] p

theorem handed_facts {p : Parsed Seconds} (meant : handed numbers opts nodeName profile = .ok p) :
    p.opts.externalIface = profile.externalIface ∧ p.opts.localDeliveryIface = profile.localDeliveryIface ∧
      p.opts.remoteDeliveryIface = profile.remoteDeliveryIface ∧ p.opts.routingMode = profile.routingMode ∧
      p.opts.clearTargetState = false ∧ p.opts.dryRun = false := by
  obtain ⟨_,_,rest⟩ := bind_ok.mp meant
  obtain ⟨_,_,rest⟩ := bind_ok.mp rest
  obtain ⟨_,_,rest⟩ := bind_ok.mp rest
  obtain ⟨_,_,rest⟩ := bind_ok.mp rest
  cases rest
  exact ⟨rfl,rfl,rfl,rfl,rfl,rfl⟩

theorem mode_settled {mode : String} (known : mode = "native" ∨ mode = "encap") : toLower (trimmed mode) = mode := by
  rcases known with rfl | rfl <;> decide +kernel

theorem parseOptions_failed {nodeEnv : String} {arguments : List String} {failure : Failure}
    (read : parse (syncerFlags numbers) arguments (defaults numbers nodeEnv) = .error failure) :
    parseOptions numbers nodeEnv arguments = .error (.flags failure) := by
  unfold parseOptions
  rw [read]

theorem parseOptions_read {nodeEnv : String} {arguments : List String} {p : Parsed Seconds} {settledTo : Options}
    (read : parse (syncerFlags numbers) arguments (defaults numbers nodeEnv) = .ok p) (kept : settled numbers p = settledTo) :
    parseOptions numbers nodeEnv arguments = match (complaints settledTo).find? (·.1) with
      | some complaint => .error (.options complaint.2)
      | none => .ok settledTo := by
  subst kept
  unfold parseOptions validateOptions
  rw [read]
  dsimp only
  cases (complaints (settled numbers p)).find? (·.1) <;> rfl

theorem settled_faces (p : Parsed Seconds) : (settled numbers p).externalIface = p.opts.externalIface ∧
    (settled numbers p).localDeliveryIface = p.opts.localDeliveryIface ∧
    (settled numbers p).remoteDeliveryIface = p.opts.remoteDeliveryIface ∧
    (settled numbers p).clearTargetState = p.opts.clearTargetState := by
  unfold settled
  exact ⟨rfl,rfl,rfl,rfl⟩

theorem own_complaint {o : Options} {complaint : Bool × String} (member : complaint ∈ complaints o) (raised : complaint.1 = true)
    (external : trimmed o.externalIface ≠ "") (near : trimmed o.localDeliveryIface ≠ "")
    (mode : o.routingMode = "native" ∨ o.routingMode = "encap" ∧ trimmed o.remoteDeliveryIface ≠ "") (clear : o.clearTargetState = false) :
    complaint.2 ∈ ownMessages := by
  simp only [complaints,List.mem_cons,List.not_mem_nil,or_false] at member
  rcases member with rfl | rfl | rfl | rfl | rfl | rfl | rfl | rfl | rfl | rfl | rfl | rfl | rfl
  · simp [ownMessages]
  · rcases mode with native | encap
    · simp [native] at raised
    · simp [encap.1] at raised
  · simp [blank,external] at raised
  · simp [blank,near] at raised
  · rcases mode with native | encap
    · simp [native] at raised
    · simp [blank,encap.2] at raised
  · simp [ownMessages]
  · simp [ownMessages]
  · simp [ownMessages]
  · simp [ownMessages]
  · simp [ownMessages]
  · simp [ownMessages]
  · simp [clear] at raised
  · simp [clear] at raised

theorem refused_own {s : Options} {mode : String} {dry : Bool} {complaint : Bool × String}
    (found : (complaints {s with routingMode := mode, dryRun := dry}).find? (·.1) = some complaint)
    (external : trimmed s.externalIface ≠ "") (near : trimmed s.localDeliveryIface ≠ "")
    (routed : mode = "native" ∨ mode = "encap" ∧ trimmed s.remoteDeliveryIface ≠ "") (clear : s.clearTargetState = false) :
    complaint.2 ∈ ownMessages :=
  own_complaint (List.mem_of_find?_eq_some found) (List.find?_some (p := fun complaint : Bool × String => complaint.1) found)
    external near routed clear

theorem read_plain (plain : opts.extraArgs = []) (nodeEnv : String) :
    parse (syncerFlags numbers) (buildSyncArgs opts nodeName profile) (defaults numbers nodeEnv) =
      (handed numbers opts nodeName profile).map fun p => {p with opts.dryRun := opts.dryRun} := by
  have read := @options_handed_over Seconds numbers opts nodeName profile nodeEnv
  rw [plain] at read
  cases meant : handed numbers opts nodeName profile with
  | error failure =>
    rw [meant] at read
    exact read
  | ok p =>
    rw [meant] at read
    refine read.trans ((dry_words p opts.dryRun).trans ?_)
    rw [(handed_facts meant).2.2.2.2.2,Bool.or_false]
    rfl

-- A syncer that is started with what Detect found, and no extra words, takes all of it
-- as it is; where it refuses, one of the agent's own options is out of its range.
theorem detected_accepted (named : Machine.Named machine) (detected : detect machine detectOpts facts = .ok profile)
    (plain : opts.extraArgs = []) (nodeEnv : String) :
    (∀ syncer, parseOptions numbers nodeEnv (buildSyncArgs opts nodeName profile) = .ok syncer →
      ∃ p, handed numbers opts nodeName profile = .ok p ∧
        syncer = {settled numbers p with routingMode := profile.routingMode, dryRun := opts.dryRun}) ∧
    ∀ message, parseOptions numbers nodeEnv (buildSyncArgs opts nodeName profile) = .error (.options message) →
      message ∈ ownMessages := by
  have given := detect_given named detected
  have read := @read_plain Seconds numbers opts nodeName profile plain nodeEnv
  cases meant : handed numbers opts nodeName profile with
  | error failure =>
    rw [meant] at read
    rw [parseOptions_failed read]
    constructor
    · intro _ impossible
      cases impossible
    · intro _ impossible
      cases impossible
  | ok p =>
    obtain ⟨external,near,far,mode,clear,_⟩ := handed_facts meant
    rw [meant] at read
    have kept : settled numbers {p with opts.dryRun := opts.dryRun} =
        {settled numbers p with routingMode := profile.routingMode, dryRun := opts.dryRun} := by
      have same : toLower (trimmed p.opts.routingMode) = profile.routingMode := by
        rw [mode]
        exact mode_settled (given.2.2.imp_right And.left)
      simp only [settled,same]
    obtain ⟨outer,inner,beyond,uncleared⟩ := @settled_faces Seconds numbers p
    rw [external] at outer
    rw [near] at inner
    rw [far] at beyond
    rw [clear] at uncleared
    obtain ⟨outerGiven,innerGiven,routed⟩ := given
    rw [← outer] at outerGiven
    rw [← inner] at innerGiven
    rw [← beyond] at routed
    rw [parseOptions_read read kept]
    constructor
    · intro syncer accepted
      split at accepted
      · cases accepted
      · cases accepted
        exact ⟨p,rfl,rfl⟩
    · intro message refused
      split at refused
      · rename_i complaint found
        cases refused
        exact refused_own found outerGiven innerGiven routed uncleared
      · cases refused

-- A node with flannel on which nothing is configured: the interface of the node's
-- address, and those that the routes to the pods name.
def flannelNode : Machine where
  hostname := .ok "k8s-worker1"
  interfaceByName name := name ∈ ["lo","eth0","cni0","flannel.1"]
  interfaces := .ok [("lo",.ok ["127.0.0.1"]),("eth0",.ok ["192.168.56.10"]),("cni0",.ok ["10.244.1.1"]),("flannel.1",.ok ["10.244.1.0"])]
  combinedOutput command :=
    if command = ["ip","-o","route","get","10.244.1.2"] then ("10.244.1.2 dev cni0 src 10.244.1.1 uid 0",none)
    else if command = ["ip","-o","route","get","10.244.2.2"] then ("10.244.2.2 via 10.244.2.0 dev flannel.1 src 10.244.1.0 uid 0",none)
    else ("",some "exit status 2")

def unconfigured : DetectOptions := ⟨"","","","","","",""⟩

def flannelFacts : ClusterFacts := ⟨"k8s-worker1","192.168.56.10",["10.244.1.0/24"],["10.244.2.2"]⟩

def overlayProfile : Environment := ⟨"eth0","cni0","flannel.1","encap",["cni0","flannel.1"]⟩

theorem flannelNode_named : Machine.Named flannelNode := by
  intro interfaces listed
  cases listed
  decide

theorem overlay_accepted : ∃ opts syncer, loadOptions (fun _ => none) ["--dry-run"] = .ok opts ∧
    detect flannelNode unconfigured flannelFacts = .ok overlayProfile ∧
    parseOptions defaultNumbers "" (buildSyncArgs opts "worker1" overlayProfile) = .ok syncer ∧
    ∃ p, handed defaultNumbers opts "worker1" overlayProfile = .ok p ∧
      syncer = {settled defaultNumbers p with routingMode := "encap", dryRun := opts.dryRun} := by
  have ran : (start defaultNumbers (fun _ => none) ["--dry-run"] "worker1" overlayProfile).map
      (fun both => (both.1.dryRun,both.2.dryRun)) = some (true,true) := by decide +kernel
  obtain ⟨opts,syncer,loaded,_,parsed,_⟩ := started ran
  have plain : (loadOptions (fun _ => none) ["--dry-run"]).map AgentOptions.extraArgs = .ok [] := by decide +kernel
  rw [loaded] at plain
  have detected : detect flannelNode unconfigured flannelFacts = .ok overlayProfile := by decide +kernel
  exact ⟨opts,syncer,loaded,detected,parsed,(detected_accepted flannelNode_named detected (Except.ok.inj plain) "").1 syncer parsed⟩

end Started
end Aipr.Handoff
