import Mathlib.Data.List.Sort
import Mathlib.Data.String.Basic
import Aipr.DesiredEntries
import Aipr.FirstPerKey

namespace Aipr.EnvDetect
open Syncer FirstPerKey

structure Node where
  name : String
  addresses : List NodeAddress
  podCIDR : String
  podCIDRs : List String
deriving DecidableEq, Repr

-- The machine the agent runs on. An interface has the IPv4 addresses among its own;
-- `combinedOutput` is the output of a command with the error, if any.
structure Machine where
  hostname : Except String String
  interfaceByName : String → Bool
  interfaces : Except String (List (String × Except String (List String)))
  combinedOutput : List String → String × Option String

structure ClusterFacts where
  nodeName : String
  nodeIP : String
  localPodCIDRs : List String
  remoteDeliveryTargets : List String
deriving DecidableEq, Repr

structure DetectOptions where
  externalIface : String
  localDeliveryIface : String
  remoteDeliveryIface : String
  routingMode : String
  attachIface : String
  innerIfaces : String
  snatIface : String
deriving DecidableEq, Repr

structure Environment where
  externalIface : String
  localDeliveryIface : String
  remoteDeliveryIface : String
  routingMode : String
  attachInnerIfaces : List String
deriving DecidableEq, Repr

def encapCandidates : List String := ["flannel.1","cilium_vxlan","cilium_geneve","vxlan.calico","genev_sys_6081","tunl0"]

def localDeliveryCandidates : List String := ["cni0","kube-bridge","weave","docker0"]

def splitAt (separator : Char → Bool) : List Char → List (List Char)
  | [] => [[]]
  | c :: rest =>
    if separator c then [] :: splitAt separator rest
    else
      match splitAt separator rest with
      | [] => [[c]]
      | field :: fields => (c :: field) :: fields

def fieldsFunc (separator : Char → Bool) (s : String) : List String :=
  ((splitAt separator s.toList).filter (· ≠ [])).map String.ofList

def distinctNames (items : List String) : List String := firsts id [] ((items.map trimmed).filter (· ≠ ""))

def dedupeStrings (items : List String) : List String := (distinctNames items).insertionSort (· ≤ ·)

def innerFields (raw : String) : List String := fieldsFunc (· = ',') raw

def normalizeCSV (raw : String) : List String := if trimmed raw = "" then [] else dedupeStrings (innerFields raw)

-- netip.ParsePrefix for an IPv4 prefix; its errors are never read.
def parseBits (s : List Char) : Option Nat :=
  if s = [] ∨ s.any (fun c => c < '0' || '9' < c) then none
  else if 1 < s.length ∧ s.head? = some '0' then none
  else
    let bits := s.foldl (fun value c => value*10+(c.toNat-48)) 0
    if bits ≤ 32 then some bits else none

def parsePrefix (raw : String) : Option (UInt32 × Nat) :=
  let bits := (raw.toList.reverse.takeWhile (· ≠ '/')).reverse
  if '/' ∉ raw.toList then none
  else
    match parseIPv4Fields [] 0 0 none (raw.toList.take (raw.toList.length-bits.length-1)),parseBits bits with
    | some [b0,b1,b2,b3],some ones => some (ofBytesLE b3 b2 b1 b0,ones)
    | _,_ => none

def uint32ToIPv4 (value : UInt32) : String :=
  let octets := bytesLE value
  String.ofList (dotted ⟨octets.getD 3 0,octets.getD 2 0,octets.getD 1 0,octets.getD 0 0⟩)

def probeAddress (addr : UInt32) (ones : Nat) : UInt32 :=
  let hostBits := 32-ones
  let value := addr-UInt32.ofNat (addr.toNat % 2^hostBits)
  let broadcast := value+UInt32.ofNat (2^hostBits)-1
  if hostBits = 0 then value
  else if 2 ≤ hostBits ∧ value+2 < broadcast then value+2
  else if value+1 ≤ broadcast then value+1
  else value

def probeAddressForCIDR (raw : String) : Option String :=
  (parsePrefix raw).map fun parsed => uint32ToIPv4 (probeAddress parsed.1 parsed.2)

def cidrProbeTargets (cidrs : List String) : List String := dedupeStrings (cidrs.filterMap probeAddressForCIDR)

def nodeIPv4PodCIDRs (node : Node) : List String :=
  dedupeStrings (((node.podCIDR :: node.podCIDRs).map trimmed).filter fun cidr => cidr ≠ "" ∧ '.' ∈ cidr.toList)

def nodeInternalIPv4 (node : Node) : Except String String :=
  match node.addresses.findSome? fun address =>
    if address.type = "InternalIP" then (parseIP address.address.toList).bind to4 else none with
  | some ip => .ok (String.ofList (dotted ip))
  | none => .error s!"unable to find IPv4 InternalIP for node {node.name}"

-- The same search for the own node in the agent and in the syncer, apart from the
-- message for a node that is not there.
def similar (hostname name : String) : Bool := name = hostname || hasPrefix name hostname || hasPrefix hostname name

def resolveName (missing : String) (hostname : Except String String) (requested : String) (nodeNames : List String) :
    Except String String :=
  if trimmed requested ≠ "" then
    if trimmed requested ∈ nodeNames then .ok (trimmed requested) else .error s!"{missing}: {trimmed requested}"
  else
    match hostname with
    | .error err => .error s!"detect hostname: {err}"
    | .ok hostname =>
      match nodeNames.find? (similar hostname) with
      | some name => .ok name
      | none => .error "unable to determine node name; pass --node-name or set NODE_NAME"

def resolveNodeName (hostname : Except String String) (nodes : List Node) (requested : String) : Except String String :=
  resolveName "unable to find node in cluster state" hostname requested (nodes.map Node.name)

def buildClusterFacts (hostname : Except String String) (nodes : List Node) (requestedNode : String)
    (explicitRemoteTargets : List String) : Except String ClusterFacts := do
  let nodeName ← resolveNodeName hostname nodes requestedNode
  let remotePodCIDRs := (nodes.filter fun node => node.name ≠ nodeName).flatMap nodeIPv4PodCIDRs
  match nodes.reverse.find? fun node => node.name = nodeName with
  | none => .error s!"unable to find node in cluster state: {nodeName}"
  | some localNode =>
    let nodeIP ← nodeInternalIPv4 localNode
    return ⟨nodeName,nodeIP,nodeIPv4PodCIDRs localNode,dedupeStrings (explicitRemoteTargets ++ cidrProbeTargets remotePodCIDRs)⟩

section Detect
variable (machine : Machine)

def ifaceExists (name : String) : Bool := trimmed name ≠ "" && machine.interfaceByName (trimmed name)

def firstExisting (candidates : List String) : String := (candidates.find? (ifaceExists machine)).getD ""

def runRead (command : List String) : Except String String :=
  match machine.combinedOutput command with
  | (output,none) => .ok output
  | (output,some err) =>
    let line := " ".intercalate command
    .error s!"command failed: {line}: {err}: {trimmed output}"

def afterDev : List String → Option String
  | field :: next :: rest => if field = "dev" then some next else afterDev (next :: rest)
  | _ => none

def routeDev (output : String) : Option String :=
  (splitAt (· = '\n') output.toList).findSome? fun line => afterDev (fieldsFunc isSpace (String.ofList line))

def detectDefaultRouteIface : Except String String := do
  let output ← runRead machine ["ip","-o","route","show","default"]
  match routeDev output with
  | some iface => return iface
  | none => .error "unable to detect default route interface"

def detectIfaceForTarget (target : String) : String :=
  match runRead machine ["ip","-o","route","get",target] with
  | .ok output => (routeDev output).getD ""
  | .error _ => ""

def detectIfaceForTargets (targets : List String) : String :=
  ((targets.map (detectIfaceForTarget machine)).find? (· ≠ "")).getD ""

def detectIfaceForNodeIP (nodeIP : String) : String :=
  match machine.interfaces with
  | .error _ => ""
  | .ok interfaces =>
    match interfaces.find? fun iface => iface.2.toOption.any fun addrs => nodeIP ∈ addrs with
    | some iface => iface.1
    | none => ""

def firstNonEmpty (values : List String) : String := (values.find? (· ≠ "")).getD ""

def filterNonEmpty (values : List String) (keep : String → Bool) : List String :=
  (values.map trimmed).filter fun value => value ≠ "" && keep value

-- Outside ASCII only two characters have an ASCII letter as lower case.
def toLower (s : String) : String :=
  String.ofList (s.toList.map fun c => if c = '\u0130' then 'i' else if c = '\u212a' then 'k' else c.toLower)

def detectExternal (opts : DetectOptions) (facts : ClusterFacts) : Except String String :=
  let configured := firstNonEmpty [trimmed opts.externalIface,trimmed opts.attachIface]
  if configured ≠ "" then
    if ifaceExists machine configured then .ok configured
    else .error s!"configured external iface does not exist: {configured}"
  else
    let byIP := if facts.nodeIP ≠ "" then detectIfaceForNodeIP machine facts.nodeIP else ""
    if byIP ≠ "" then .ok byIP else detectDefaultRouteIface machine

def localTargets (facts : ClusterFacts) : List String := cidrProbeTargets facts.localPodCIDRs

def remoteTargets (facts : ClusterFacts) : List String := dedupeStrings facts.remoteDeliveryTargets

def snatDelivery (opts : DetectOptions) : String :=
  if ifaceExists machine (trimmed opts.snatIface) then trimmed opts.snatIface else ""

def detectLocal (opts : DetectOptions) (facts : ClusterFacts) : Except String String :=
  let configured := trimmed opts.localDeliveryIface
  if configured ≠ "" ∧ !ifaceExists machine configured then
    .error s!"configured local delivery iface does not exist: {configured}"
  else
    match firstNonEmpty [configured,detectIfaceForTargets machine (localTargets facts),
      (normalizeCSV opts.innerIfaces).getD 0 "",snatDelivery machine opts,firstExisting machine localDeliveryCandidates] with
    | "" => .error "unable to detect local delivery iface"
    | iface => .ok iface

def detectRemote (opts : DetectOptions) (facts : ClusterFacts) : Except String String :=
  let configured := trimmed opts.remoteDeliveryIface
  if configured ≠ "" ∧ !ifaceExists machine configured then
    .error s!"configured remote delivery iface does not exist: {configured}"
  else
    .ok (firstNonEmpty [configured,detectIfaceForTargets machine (remoteTargets facts),
      (normalizeCSV opts.innerIfaces).getD 1 "",firstExisting machine encapCandidates])

def detectMode (opts : DetectOptions) (resolvedExternal resolvedRemote : String) : Except String String :=
  let configured := toLower (trimmed opts.routingMode)
  if configured ≠ "" ∧ configured ≠ "native" ∧ configured ≠ "encap" then .error "routing mode must be native or encap"
  else
    let mode :=
      if configured ≠ "" then configured
      else if resolvedRemote ≠ "" ∧ resolvedRemote ≠ resolvedExternal then "encap"
      else "native"
    if mode = "encap" ∧ resolvedRemote = "" then .error "routing_mode=encap requires a remote delivery iface" else .ok mode

def detect (opts : DetectOptions) (facts : ClusterFacts) : Except String Environment := do
  let resolvedExternal ← detectExternal machine opts facts
  let resolvedLocal ← detectLocal machine opts facts
  let resolvedRemote ← detectRemote machine opts facts
  let resolvedMode ← detectMode opts resolvedExternal resolvedRemote
  return ⟨resolvedExternal,resolvedLocal,resolvedRemote,resolvedMode,
    dedupeStrings (filterNonEmpty [resolvedLocal,resolvedRemote] fun iface => iface ≠ resolvedExternal)⟩

end Detect

theorem network_room (a : Nat) {hostBits : Nat} (low : hostBits ≤ 32) (bound : a < 2^32) :
    a-a % 2^hostBits+2^hostBits ≤ 2^32 := by
  have factors : 2^32 = 2^hostBits*2^(32-hostBits) := by
    rw [← Nat.pow_add,Nat.add_sub_cancel' low]
  have rest := Nat.div_add_mod a (2^hostBits)
  have below : a / 2^hostBits < 2^(32-hostBits) := by
    apply Nat.div_lt_of_lt_mul
    rw [← factors]
    exact bound
  have whole : 2^hostBits*(a / 2^hostBits+1) ≤ 2^hostBits*2^(32-hostBits) := Nat.mul_le_mul_left _ below
  rw [Nat.mul_add,Nat.mul_one,← factors] at whole
  omega

theorem network_value (addr : UInt32) {hostBits step : Nat} (low : hostBits ≤ 32) (inside : step < 2^hostBits) :
    (addr-UInt32.ofNat (addr.toNat % 2^hostBits)+UInt32.ofNat step).toNat = addr.toNat-addr.toNat % 2^hostBits+step := by
  have bound := addr.toNat_lt
  have room := network_room addr.toNat low bound
  have below : addr.toNat % 2^hostBits ≤ addr.toNat := Nat.mod_le _ _
  rw [UInt32.toNat_add,UInt32.toNat_sub,UInt32.toNat_ofNat',UInt32.toNat_ofNat']
  omega

theorem network_step (addr : UInt32) {hostBits step : Nat} (low : hostBits ≤ 32) (inside : step < 2^hostBits) :
    (addr-UInt32.ofNat (addr.toNat % 2^hostBits)+UInt32.ofNat step).toNat / 2^hostBits = addr.toNat / 2^hostBits := by
  have rest := Nat.div_add_mod addr.toNat (2^hostBits)
  have split : addr.toNat-addr.toNat % 2^hostBits+step = step+2^hostBits*(addr.toNat / 2^hostBits) := by omega
  rw [network_value addr low inside,split,Nat.add_mul_div_left _ _ (Nat.two_pow_pos _),Nat.div_eq_of_lt inside,Nat.zero_add]

theorem probe_in_network (addr : UInt32) (ones : Nat) :
    (probeAddress addr ones).toNat / 2^(32-ones) = addr.toNat / 2^(32-ones) := by
  have low : 32-ones ≤ 32 := Nat.sub_le 32 ones
  have first : (addr-UInt32.ofNat (addr.toNat % 2^(32-ones))).toNat / 2^(32-ones) = addr.toNat / 2^(32-ones) := by
    have start := network_step addr low (Nat.two_pow_pos (32-ones))
    change (addr-UInt32.ofNat (addr.toNat % 2^(32-ones))+0).toNat / 2^(32-ones) = addr.toNat / 2^(32-ones) at start
    rw [UInt32.add_zero] at start
    exact start
  unfold probeAddress
  dsimp only
  split
  · exact first
  · rename_i more
    have two : 2^1 ≤ 2^(32-ones) := Nat.pow_le_pow_right (by decide) (by omega)
    split
    · rename_i wide
      have four : 2^2 ≤ 2^(32-ones) := Nat.pow_le_pow_right (by decide) wide.1
      have inside : 2 < 2^(32-ones) := by omega
      exact network_step addr low inside
    · split
      · have inside : 1 < 2^(32-ones) := by omega
        exact network_step addr low inside
      · exact first

end Aipr.EnvDetect
