import Mathlib.Data.List.DropRight
import Aipr.Reconcile

namespace Aipr.Syncer
open NodeportTc

-- What the control plane reads of the Kubernetes objects. A nil pointer is none,
-- a missing label the empty string.
inductive IntOrString where
  | int (value : Int32)
  | string (value : String)
deriving DecidableEq, Repr

structure ServicePort where
  name : String
  protocol : String
  port : Int32
  targetPort : IntOrString
  nodePort : Int32
deriving DecidableEq, Repr

structure Service where
  nameSpace : String
  name : String
  type : String
  externalTrafficPolicy : String
  ports : List ServicePort
deriving DecidableEq, Repr

structure NodeAddress where
  type : String
  address : String
deriving DecidableEq, Repr

structure Node where
  name : String
  addresses : List NodeAddress
deriving DecidableEq, Repr

structure EndpointPort where
  name : Option String
  protocol : Option String
  port : Option Int32
deriving DecidableEq, Repr

structure EndpointConditions where
  ready : Option Bool
  serving : Option Bool
  terminating : Option Bool
deriving DecidableEq, Repr

structure Endpoint where
  addresses : List String
  conditions : EndpointConditions
  targetRefKind : Option String
  nodeName : Option String
deriving DecidableEq, Repr

structure EndpointSlice where
  nameSpace : String
  serviceName : String
  ports : List EndpointPort
  endpoints : List Endpoint
deriving DecidableEq, Repr

structure Cluster where
  services : List Service
  nodes : List Node
  slices : List EndpointSlice
deriving DecidableEq, Repr

structure ServiceRef where
  nameSpace : String
  name : String
deriving DecidableEq, Repr

abbrev ServiceSelector := ServiceRef

structure Setting where
  snatIP : String
  snatIface : String
  detectIfaceIPv4 : String → Except String String
  hostname : Except String String

def trimmed (s : String) : String := String.ofList (trimSpace s.toList)

def isIPv4 (address : String) : Bool := ((parseIP address.toList).bind to4).isSome

def hasPrefix (s lead : String) : Bool := lead.toList.isPrefixOf s.toList

def resolveNodeName (hostname : Except String String) (current : String) (nodes : List Node) : Except String String :=
  let current := trimmed current
  if current ≠ "" then
    if nodes.any fun node => node.name = current then .ok current
    else .error s!"unable to find node in cache: {current}"
  else
    match hostname with
    | .error err => .error s!"detect hostname: {err}"
    | .ok hostname =>
      match nodes.find? fun node => node.name = hostname || hasPrefix node.name hostname || hasPrefix hostname node.name with
      | some node => .ok node.name
      | none => .error "unable to determine node name; pass --node-name or set NODE_NAME"

-- Indexing a Go map of strings: the empty string when the key is absent.
def buildNodeInternalIPs (nodes : List Node) : AList (fun _ : String => String) :=
  nodes.foldl (fun result node =>
    match node.addresses.find? fun address => address.type = "InternalIP" && isIPv4 address.address with
    | some address => result.insert node.name address.address
    | none => result) ∅

def nodeIPOf (nodeIPs : AList (fun _ : String => String)) (nodeName : String) : String := (nodeIPs.lookup nodeName).getD ""

def sliceIndex (slices : List EndpointSlice) (ref : ServiceRef) : List EndpointSlice :=
  slices.filter fun slice =>
    slice.nameSpace ≠ "" && slice.serviceName ≠ "" && slice.nameSpace = ref.nameSpace && slice.serviceName = ref.name

-- Ports are kept as the numbers behind their pointers.
def tcpPorts (slice : EndpointSlice) : List (Option String × Int32) :=
  slice.ports.filterMap fun port => if port.protocol.getD "TCP" = "TCP" then port.port.map (port.name,·) else none

def matchingSlicePorts (servicePort : ServicePort) (slice : EndpointSlice) : List Int32 :=
  let tcp := tcpPorts slice
  let named := if servicePort.name ≠ "" then tcp.filter fun port => port.1 = some servicePort.name else []
  let targeted :=
    match servicePort.targetPort with
    | .int target => if target ≠ 0 then tcp.filter fun port => port.2 = target else []
    | .string _ => []
  if named ≠ [] then named.map Prod.snd
  else if targeted ≠ [] then targeted.map Prod.snd
  else if tcp.length = 1 then tcp.map Prod.snd
  else (tcp.filter fun port => port.2 = servicePort.port).map Prod.snd

def eligibleEndpoint (endpoint : Endpoint) : Bool :=
  endpoint.conditions.ready ≠ some false && endpoint.conditions.serving ≠ some false &&
    endpoint.conditions.terminating ≠ some true &&
    (endpoint.targetRefKind.getD "" = "" || endpoint.targetRefKind = some "Pod") && endpoint.nodeName.getD "" ≠ ""

def firstIPv4Address (endpoint : Endpoint) : String := (endpoint.addresses.find? isIPv4).getD ""

-- The inner loop of collectBackends, over the keys seen and the backends so far.
def addBackend (address nodeIP : String) (found : List String × List Backend) (port : Int32) : List String × List Backend :=
  let key := s!"{address}:{port}"
  if key ∈ found.1 then found else (key :: found.1,found.2 ++ [⟨address,port,nodeIP⟩])

def addEndpoint (nodeIPs : AList (fun _ : String => String)) (ports : List Int32) (found : List String × List Backend)
    (endpoint : Endpoint) : List String × List Backend :=
  if eligibleEndpoint endpoint = false then found
  else
    let address := firstIPv4Address endpoint
    let nodeName := endpoint.nodeName.getD ""
    if address = "" ∨ nodeName = "" then found
    else
      let nodeIP := nodeIPOf nodeIPs nodeName
      if nodeIP = "" then found else ports.foldl (addBackend address nodeIP) found

def backendLess (a b : Backend) : Bool :=
  if a.address ≠ b.address then a.address < b.address
  else if a.port ≠ b.port then a.port < b.port
  else a.nodeIP < b.nodeIP

def collectBackends (servicePort : ServicePort) (slices : List EndpointSlice) (nodeIPs : AList (fun _ : String => String)) :
    List Backend :=
  let found := slices.foldl (fun found slice =>
    let ports := matchingSlicePorts servicePort slice
    if ports = [] then found else slice.endpoints.foldl (addEndpoint nodeIPs ports) found) ([],[])
  found.2.insertionSort fun a b => backendLess b a = false

section Entries
variable (nodeIPs : AList (fun _ : String => String)) (nodeIP snatIP : String)

def addServicePort (service : Service) (relatedSlices : List EndpointSlice) (entries : Entries) (servicePort : ServicePort) :
    Entries :=
  if servicePort.protocol ≠ "" ∧ servicePort.protocol ≠ "TCP" then entries
  else if servicePort.nodePort = 0 then entries
  else
    let backends := collectBackends servicePort relatedSlices nodeIPs
    if backends = [] then entries
    else
      let id : ServiceID := ⟨service.nameSpace,service.name,servicePort.nodePort⟩
      entries.insert id ⟨id,nodeIP,snatIP,backends⟩

-- The body of the loop over the services, from the type check on.
def addService (slices : List EndpointSlice) (entries : Entries) (service : Service) : Entries :=
  if service.type ≠ "NodePort" then entries
  else if service.externalTrafficPolicy ≠ "" ∧ service.externalTrafficPolicy ≠ "Cluster" then entries
  else
    let relatedSlices := sliceIndex slices ⟨service.nameSpace,service.name⟩
    if relatedSlices = [] then entries
    else service.ports.foldl (addServicePort nodeIPs nodeIP snatIP service relatedSlices) entries

def selected (selector : Option ServiceSelector) (service : Service) : Bool :=
  match selector with
  | none => true
  | some ref => service.nameSpace = ref.nameSpace && service.name = ref.name

def collectEntries (selector : Option ServiceSelector) (cluster : Cluster) : Entries :=
  cluster.services.foldl (fun entries service =>
    if selected selector service then addService nodeIPs nodeIP snatIP cluster.slices entries service else entries) ∅

end Entries

def snatAddress (setting : Setting) : Except String String :=
  if trimmed setting.snatIP ≠ "" then .ok setting.snatIP
  else
    match setting.detectIfaceIPv4 setting.snatIface with
    | .ok address => .ok address
    | .error err => .error s!"detect snat ip from {setting.snatIface}: {err}"

-- desiredEntries, with the node name it remembers for the next time.
def desiredEntries (selector : Option ServiceSelector) (setting : Setting) (currentNodeName : String) (cluster : Cluster) :
    Except String (String × Entries) := do
  let nodeName ← resolveNodeName setting.hostname currentNodeName cluster.nodes
  let nodeIPs := buildNodeInternalIPs cluster.nodes
  let nodeIP := nodeIPOf nodeIPs nodeName
  if nodeIP = "" then .error s!"unable to find InternalIP for node {nodeName}"
  else
    let snatIP ← snatAddress setting
    return (nodeName,collectEntries nodeIPs nodeIP snatIP selector cluster)

section Offers
variable (nodeIPs : AList (fun _ : String => String)) (nodeIP snatIP : String)

def file (entries : Entries) (e : NodePortEntry) : Entries := entries.insert e.id e

def portEntry (service : Service) (relatedSlices : List EndpointSlice) (servicePort : ServicePort) : Option NodePortEntry :=
  if servicePort.protocol ≠ "" ∧ servicePort.protocol ≠ "TCP" then none
  else if servicePort.nodePort = 0 then none
  else if collectBackends servicePort relatedSlices nodeIPs = [] then none
  else some ⟨⟨service.nameSpace,service.name,servicePort.nodePort⟩,nodeIP,snatIP,
    collectBackends servicePort relatedSlices nodeIPs⟩

def serviceEntries (slices : List EndpointSlice) (service : Service) : List NodePortEntry :=
  if service.type ≠ "NodePort" then []
  else if service.externalTrafficPolicy ≠ "" ∧ service.externalTrafficPolicy ≠ "Cluster" then []
  else service.ports.filterMap (portEntry nodeIPs nodeIP snatIP service
    (sliceIndex slices ⟨service.nameSpace,service.name⟩))

theorem collectBackends_nil (servicePort : ServicePort) : collectBackends servicePort [] nodeIPs = [] := rfl

theorem addServicePort_file (service : Service) (relatedSlices : List EndpointSlice) (entries : Entries) (servicePort : ServicePort) :
    addServicePort nodeIPs nodeIP snatIP service relatedSlices entries servicePort =
      (portEntry nodeIPs nodeIP snatIP service relatedSlices servicePort).toList.foldl file entries := by
  unfold addServicePort portEntry
  split
  · rfl
  · split
    · rfl
    · dsimp only
      split <;> rfl

theorem addService_file (slices : List EndpointSlice) (entries : Entries) (service : Service) :
    addService nodeIPs nodeIP snatIP slices entries service =
      (serviceEntries nodeIPs nodeIP snatIP slices service).foldl file entries := by
  have ports : ∀ (related : List EndpointSlice) (ports : List ServicePort) (entries : Entries),
      ports.foldl (addServicePort nodeIPs nodeIP snatIP service related) entries =
        (ports.filterMap (portEntry nodeIPs nodeIP snatIP service related)).foldl file entries := by
    intro related ports
    induction ports with
    | nil => intro entries; rfl
    | cons port rest ih =>
      intro entries
      rw [List.foldl_cons,ih,addServicePort_file,List.filterMap_cons]
      cases portEntry nodeIPs nodeIP snatIP service related port <;> rfl
  unfold addService serviceEntries
  split
  · rfl
  · split
    · rfl
    · dsimp only
      split
      · rename_i unsliced
        -- without slices no port has a backend
        have none_offered : ∀ port, portEntry nodeIPs nodeIP snatIP service [] port = none := by
          intro port
          simp only [portEntry,collectBackends_nil]
          split <;> simp
        rw [unsliced,List.filterMap_eq_nil_iff.mpr fun port _ => none_offered port]
        rfl
      · exact ports _ _ _

def offers (selector : Option ServiceSelector) (cluster : Cluster) : List NodePortEntry :=
  (cluster.services.filter (selected selector)).flatMap (serviceEntries nodeIPs nodeIP snatIP cluster.slices)

theorem collectEntries_file (selector : Option ServiceSelector) (cluster : Cluster) :
    collectEntries nodeIPs nodeIP snatIP selector cluster = (offers nodeIPs nodeIP snatIP selector cluster).foldl file ∅ := by
  have all : ∀ (services : List Service) (entries : Entries),
      services.foldl (fun entries service =>
        if selected selector service then addService nodeIPs nodeIP snatIP cluster.slices entries service else entries) entries =
      ((services.filter (selected selector)).flatMap (serviceEntries nodeIPs nodeIP snatIP cluster.slices)).foldl file entries := by
    intro services
    induction services with
    | nil => intro entries; rfl
    | cons service rest ih =>
      intro entries
      rw [List.foldl_cons,ih,List.filter_cons]
      split
      · rw [List.flatMap_cons,List.foldl_append,addService_file]
      · rfl
  exact all _ _

end Offers

section Filed

theorem lookup_file (entries : Entries) (e : NodePortEntry) (id : ServiceID) :
    (file entries e).lookup id = if id = e.id then some e else entries.lookup id := by
  unfold file
  split
  · rename_i same
    rw [same,AList.lookup_insert]
  · rename_i differ
    rw [AList.lookup_insert_ne differ]

-- Filing one after the other keeps the last entry of every ID.
theorem lookup_last (offered : List NodePortEntry) (entries : Entries) (id : ServiceID) :
    (offered.foldl file entries).lookup id = (offered.reverse.find? fun e => e.id = id).or (entries.lookup id) := by
  induction offered generalizing entries with
  | nil => rfl
  | cons first rest ih =>
    rw [List.foldl_cons,ih,lookup_file,List.reverse_cons,List.find?_append,Option.or_assoc]
    congr 1
    rw [List.find?_singleton]
    by_cases here : id = first.id
    · simp [here]
    · simp [here,Ne.symm here]

theorem lookup_filter (keep : ServiceID → Bool) (offered : List NodePortEntry) (id : ServiceID) :
    ((offered.filter fun e => keep e.id).foldl file ∅).lookup id =
      if keep id then (offered.foldl file ∅).lookup id else none := by
  have general : ∀ (offered : List NodePortEntry) (full part : Entries),
      part.lookup id = (if keep id then full.lookup id else none) →
      ((offered.filter fun e => keep e.id).foldl file part).lookup id =
        if keep id then (offered.foldl file full).lookup id else none := by
    intro offered
    induction offered with
    | nil => exact fun full part same => same
    | cons first rest ih =>
      intro full part same
      rw [List.foldl_cons,List.filter_cons]
      by_cases kept : keep first.id
      · rw [if_pos kept,List.foldl_cons]
        refine ih _ _ ?_
        rw [lookup_file,lookup_file,same]
        by_cases here : id = first.id
        · simp [here,kept]
        · simp [here]
      · rw [if_neg kept]
        refine ih _ _ ?_
        rw [same,lookup_file]
        by_cases here : id = first.id
        · simp [here,kept]
        · simp [here]
  exact general offered ∅ ∅ (by simp)

end Filed

section Desired
variable {selector : Option ServiceSelector} {setting : Setting} {current nodeName : String} {cluster : Cluster} {entries : Entries}

theorem desiredEntries_ok : desiredEntries selector setting current cluster = .ok (nodeName,entries) ↔
    ∃ snatIP, snatAddress setting = .ok snatIP ∧ resolveNodeName setting.hostname current cluster.nodes = .ok nodeName ∧
      nodeIPOf (buildNodeInternalIPs cluster.nodes) nodeName ≠ "" ∧ entries = collectEntries
        (buildNodeInternalIPs cluster.nodes) (nodeIPOf (buildNodeInternalIPs cluster.nodes) nodeName) snatIP selector cluster := by
  constructor
  · intro computed
    obtain ⟨resolved,known,rest⟩ := bind_ok.mp computed
    dsimp only at rest
    split at rest
    · cases rest
    · rename_i found
      obtain ⟨snatIP,addressed,same⟩ := bind_ok.mp rest
      cases same
      exact ⟨snatIP,addressed,known,found,rfl⟩
  · rintro ⟨snatIP,addressed,known,found,rfl⟩
    refine bind_ok.mpr ⟨nodeName,known,?_⟩
    dsimp only
    rw [if_neg found]
    exact bind_ok.mpr ⟨snatIP,addressed,rfl⟩

theorem trimmed_again (s : String) : trimmed (trimmed s) = trimmed s := by
  have whole : trimSpace s.toList = (s.toList.dropWhile isSpace).rdropWhile isSpace := rfl
  have led : (trimSpace s.toList).dropWhile isSpace = trimSpace s.toList := by
    rw [List.dropWhile_eq_self_iff]
    intro filled
    have lead : trimSpace s.toList <+: s.toList.dropWhile isSpace := List.rdropWhile_prefix isSpace _
    rw [lead.getElem filled]
    exact List.dropWhile_get_zero_not isSpace s.toList _
  have kept : trimSpace (trimSpace s.toList) = trimSpace s.toList := by
    change ((trimSpace s.toList).dropWhile isSpace).rdropWhile isSpace = trimSpace s.toList
    rw [led,whole,List.rdropWhile_idempotent]
  rw [trimmed,trimmed,String.toList_ofList,kept]

theorem resolve_given {hostname : Except String String} {current name : String} {nodes : List Node} (named : trimmed current ≠ "")
    (resolved : resolveNodeName hostname current nodes = .ok name) : name = trimmed current := by
  unfold resolveNodeName at resolved
  dsimp only at resolved
  rw [if_pos named] at resolved
  split at resolved
  · cases resolved
    rfl
  · cases resolved

theorem resolve_again {hostname : Except String String} {current name : String} {nodes : List Node}
    (resolved : resolveNodeName hostname current nodes = .ok name) (plain : trimmed name = name) :
    resolveNodeName hostname name nodes = .ok name := by
  by_cases named : trimmed current ≠ ""
  · have same := resolve_given named resolved
    unfold resolveNodeName at resolved ⊢
    dsimp only at resolved ⊢
    rw [← same] at resolved
    rwa [plain]
  · by_cases empty : name = ""
    · unfold resolveNodeName at resolved ⊢
      rw [empty] at plain ⊢
      dsimp only at resolved ⊢
      rw [if_neg named,empty] at resolved
      rwa [plain,if_neg (not_not.mpr rfl)]
    · unfold resolveNodeName at resolved ⊢
      dsimp only at resolved ⊢
      rw [if_neg named] at resolved
      rw [plain,if_pos empty]
      split at resolved
      · cases resolved
      · split at resolved
        · rename_i node found
          cases resolved
          exact if_pos (List.any_eq_true.mpr ⟨node,List.mem_of_find?_eq_some found,decide_eq_true rfl⟩)
        · cases resolved

theorem serviceEntries_entry {nodeIPs : AList (fun _ : String => String)} {nodeIP snatIP : String} {slices : List EndpointSlice}
    {service : Service} {e : NodePortEntry} (listed : e ∈ serviceEntries nodeIPs nodeIP snatIP slices service) :
    e.id.nameSpace = service.nameSpace ∧ e.id.name = service.name := by
  unfold serviceEntries at listed
  split at listed
  · cases listed
  · split at listed
    · cases listed
    · obtain ⟨port,_,made⟩ := List.mem_filterMap.mp listed
      unfold portEntry at made
      split at made
      · cases made
      · split at made
        · cases made
        · split at made
          · cases made
          · cases made
            exact ⟨rfl,rfl⟩

def selects (ref : ServiceSelector) (id : ServiceID) : Bool := id.nameSpace = ref.nameSpace && id.name = ref.name

theorem offers_selector (nodeIPs : AList (fun _ : String => String)) (nodeIP snatIP : String) (ref : ServiceSelector)
    (cluster : Cluster) : offers nodeIPs nodeIP snatIP (some ref) cluster =
      (offers nodeIPs nodeIP snatIP none cluster).filter fun e => selects ref e.id := by
  unfold offers
  induction cluster.services with
  | nil => rfl
  | cons service rest ih =>
    have named : ∀ e ∈ serviceEntries nodeIPs nodeIP snatIP cluster.slices service,
        selects ref e.id = selected (some ref) service := by
      intro e listed
      obtain ⟨nameSpace,name⟩ := serviceEntries_entry listed
      rw [selects,nameSpace,name]
      rfl
    have unrestricted : selected none service = true := rfl
    rw [List.filter_cons,List.filter_cons,if_pos unrestricted,List.flatMap_cons,List.filter_append,← ih]
    by_cases mine : selected (some ref) service = true
    · rw [if_pos mine,List.flatMap_cons,List.filter_eq_self.mpr fun e listed => (named e listed).trans mine]
    · rw [if_neg mine,List.filter_eq_nil_iff.mpr fun e listed selected => mine ((named e listed).symm.trans selected)]
      rfl

theorem desiredEntries_selector {ref : ServiceSelector} {current' : String} {full part : Entries}
    (all : desiredEntries none setting current cluster = .ok (nodeName,full))
    (one : desiredEntries (some ref) setting current' cluster = .ok (nodeName,part)) (id : ServiceID) :
    part.lookup id = if selects ref id then full.lookup id else none := by
  obtain ⟨snatIP,found,_,_,rfl⟩ := desiredEntries_ok.mp all
  obtain ⟨snatIP',found',_,_,rfl⟩ := desiredEntries_ok.mp one
  cases found.symm.trans found'
  rw [collectEntries_file,collectEntries_file,← lookup_filter,offers_selector]

end Desired
end Aipr.Syncer
