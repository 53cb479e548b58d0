import Mathlib.Data.List.Induction
import Aipr.DesiredEntries
import Aipr.FirstPerKey

namespace Aipr.Syncer
open FirstPerKey

def backendKey (b : Backend) : String := s!"{b.address}:{b.port}"

section Candidates
variable (nodeIPs : AList (fun _ : String => String))

-- The endpoint can be reached: eligible, with an IPv4 address, on a node with one.
def Usable (endpoint : Endpoint) : Prop :=
  eligibleEndpoint endpoint = true ∧ firstIPv4Address endpoint ≠ "" ∧ nodeIPOf nodeIPs (endpoint.nodeName.getD "") ≠ ""

instance (endpoint : Endpoint) : Decidable (Usable nodeIPs endpoint) := inferInstanceAs (Decidable (_ ∧ _ ∧ _))

def endpointBackends (ports : List Int32) (endpoint : Endpoint) : List Backend :=
  if Usable nodeIPs endpoint then
    ports.map fun port => ⟨firstIPv4Address endpoint,port,nodeIPOf nodeIPs (endpoint.nodeName.getD "")⟩
  else []

def sliceBackends (servicePort : ServicePort) (slice : EndpointSlice) : List Backend :=
  slice.endpoints.flatMap (endpointBackends nodeIPs (matchingSlicePorts servicePort slice))

def candidates (servicePort : ServicePort) (slices : List EndpointSlice) : List Backend :=
  slices.flatMap (sliceBackends nodeIPs servicePort)

theorem addBackend_keep (address nodeIP : String) :
    addBackend address nodeIP = fun found port => keep backendKey found ⟨address,port,nodeIP⟩ := rfl

theorem addEndpoint_keep (ports : List Int32) (found : List String × List Backend) (endpoint : Endpoint) :
    addEndpoint nodeIPs ports found endpoint =
      (endpointBackends nodeIPs ports endpoint).foldl (keep backendKey) found := by
  unfold addEndpoint endpointBackends
  by_cases eligible : eligibleEndpoint endpoint = true
  · rw [if_neg (Bool.not_eq_false _ ▸ eligible)]
    have named : endpoint.nodeName.getD "" ≠ "" := by
      simp only [eligibleEndpoint,Bool.and_eq_true,decide_eq_true_eq] at eligible
      exact eligible.2
    dsimp only
    by_cases unaddressed : firstIPv4Address endpoint = ""
    · rw [if_pos (.inl unaddressed),if_neg fun usable => usable.2.1 unaddressed]
      rfl
    · rw [if_neg fun missing => missing.elim unaddressed named]
      by_cases unknown : nodeIPOf nodeIPs (endpoint.nodeName.getD "") = ""
      · rw [if_pos unknown,if_neg fun usable => usable.2.2 unknown]
        rfl
      · rw [if_neg unknown,if_pos ⟨eligible,unaddressed,unknown⟩,addBackend_keep,List.foldl_map]
  · rw [if_pos (Bool.eq_false_iff.mpr eligible),if_neg fun usable => eligible usable.1]
    rfl

theorem addSlice_keep (servicePort : ServicePort) (found : List String × List Backend) (slice : EndpointSlice) :
    (if matchingSlicePorts servicePort slice = [] then found
      else slice.endpoints.foldl (addEndpoint nodeIPs (matchingSlicePorts servicePort slice)) found) =
      (sliceBackends nodeIPs servicePort slice).foldl (keep backendKey) found := by
  have all : ∀ (endpoints : List Endpoint) (found : List String × List Backend),
      endpoints.foldl (addEndpoint nodeIPs (matchingSlicePorts servicePort slice)) found =
        (endpoints.flatMap (endpointBackends nodeIPs (matchingSlicePorts servicePort slice))).foldl (keep backendKey) found := by
    intro endpoints
    induction endpoints with
    | nil => intro found; rfl
    | cons endpoint rest ih =>
      intro found
      rw [List.foldl_cons,ih,addEndpoint_keep,List.flatMap_cons,List.foldl_append]
  split
  · rename_i portless
    have nothing : ∀ endpoint, endpointBackends nodeIPs [] endpoint = [] := by
      intro endpoint
      unfold endpointBackends
      split <;> rfl
    rw [sliceBackends,portless,List.flatMap_eq_nil_iff.mpr fun endpoint _ => nothing endpoint]
    rfl
  · exact all _ _

theorem collectBackends_firsts (servicePort : ServicePort) (slices : List EndpointSlice) :
    collectBackends servicePort slices nodeIPs =
      (firsts backendKey [] (candidates nodeIPs servicePort slices)).insertionSort fun a b => backendLess b a = false := by
  have all : ∀ (slices : List EndpointSlice) (found : List String × List Backend),
      slices.foldl (fun found slice => if matchingSlicePorts servicePort slice = [] then found
        else slice.endpoints.foldl (addEndpoint nodeIPs (matchingSlicePorts servicePort slice)) found) found =
      (candidates nodeIPs servicePort slices).foldl (keep backendKey) found := by
    intro slices
    induction slices with
    | nil => intro found; rfl
    | cons slice rest ih =>
      intro found
      rw [List.foldl_cons,ih,addSlice_keep,← List.foldl_append]
      rfl
  unfold collectBackends
  dsimp only
  rw [all,foldl_keep]
  rfl

variable {nodeIPs} {servicePort : ServicePort} {slices : List EndpointSlice} {b : Backend}

theorem mem_endpointBackends {ports : List Int32} {endpoint : Endpoint} :
    b ∈ endpointBackends nodeIPs ports endpoint ↔ Usable nodeIPs endpoint ∧ ∃ port ∈ ports,
      b = ⟨firstIPv4Address endpoint,port,nodeIPOf nodeIPs (endpoint.nodeName.getD "")⟩ := by
  unfold endpointBackends
  split
  · rename_i usable
    rw [List.mem_map,and_iff_right usable]
    constructor
    · rintro ⟨port,listed,rfl⟩
      exact ⟨port,listed,rfl⟩
    · rintro ⟨port,listed,rfl⟩
      exact ⟨port,listed,rfl⟩
  · rename_i unusable
    exact ⟨fun member => absurd member List.not_mem_nil,fun kept => absurd kept.1 unusable⟩

theorem mem_candidates : b ∈ candidates nodeIPs servicePort slices ↔ ∃ slice ∈ slices, ∃ endpoint ∈ slice.endpoints,
    Usable nodeIPs endpoint ∧ ∃ port ∈ matchingSlicePorts servicePort slice,
      b = ⟨firstIPv4Address endpoint,port,nodeIPOf nodeIPs (endpoint.nodeName.getD "")⟩ := by
  simp only [candidates,sliceBackends,List.mem_flatMap,mem_endpointBackends]

theorem mem_collectBackends : b ∈ collectBackends servicePort slices nodeIPs ↔
    b ∈ firsts backendKey [] (candidates nodeIPs servicePort slices) := by
  rw [collectBackends_firsts,List.mem_insertionSort]

theorem collectBackends_empty : collectBackends servicePort slices nodeIPs = [] ↔
    candidates nodeIPs servicePort slices = [] := by
  constructor
  · intro empty
    refine List.eq_nil_iff_forall_not_mem.mpr fun b member => ?_
    obtain ⟨kept,there,_⟩ := key_in_firsts member (List.not_mem_nil (a := backendKey b))
    exact List.not_mem_nil (empty ▸ mem_collectBackends.mpr there)
  · intro empty
    rw [collectBackends_firsts,empty]
    rfl

theorem firstIPv4Address_valid {endpoint : Endpoint} (found : firstIPv4Address endpoint ≠ "") :
    isIPv4 (firstIPv4Address endpoint) = true := by
  unfold firstIPv4Address at found ⊢
  cases first : endpoint.addresses.find? isIPv4 with
  | none =>
    rw [first] at found
    exact absurd rfl found
  | some address => exact List.find?_some first

end Candidates

section Nodes

def internalIP (node : Node) : Option String :=
  (node.addresses.find? fun address => address.type = "InternalIP" && isIPv4 address.address).map NodeAddress.address

def named (name : String) (node : Node) : Option String := if node.name = name then internalIP node else none

theorem lookup_internalIPs (nodes : List Node) (name : String) :
    (buildNodeInternalIPs nodes).lookup name = nodes.reverse.findSome? (named name) := by
  induction nodes using List.reverseRecOn with
  | nil => rfl
  | append_singleton earlier node ih =>
    rw [List.reverse_append,List.reverse_singleton,List.singleton_append,List.findSome?_cons,← ih,named,internalIP]
    unfold buildNodeInternalIPs
    rw [List.foldl_append,List.foldl_cons,List.foldl_nil]
    cases node.addresses.find? fun address => address.type = "InternalIP" && isIPv4 address.address with
    | none => simp
    | some address =>
      by_cases here : node.name = name
      · rw [if_pos here,here,AList.lookup_insert]
        rfl
      · rw [if_neg here,AList.lookup_insert_ne (Ne.symm here)]

theorem internalIP_valid {node : Node} {address : String} (found : internalIP node = some address) : isIPv4 address = true := by
  obtain ⟨listed,first,rfl⟩ := Option.map_eq_some_iff.mp found
  have kind := List.find?_some first
  rw [Bool.and_eq_true] at kind
  exact kind.2

theorem named_some {name address : String} {node : Node} (found : named name node = some address) :
    node.name = name ∧ internalIP node = some address := by
  unfold named at found
  split at found
  · rename_i here
    exact ⟨here,found⟩
  · cases found

variable {nodes : List Node} {name : String}

theorem nodeIPOf_source (known : nodeIPOf (buildNodeInternalIPs nodes) name ≠ "") :
    ∃ node ∈ nodes, node.name = name ∧ internalIP node = some (nodeIPOf (buildNodeInternalIPs nodes) name) := by
  unfold nodeIPOf at known ⊢
  cases found : (buildNodeInternalIPs nodes).lookup name with
  | none =>
    rw [found] at known
    exact absurd rfl known
  | some address =>
    rw [lookup_internalIPs] at found
    obtain ⟨node,listed,here⟩ := List.exists_of_findSome?_eq_some found
    exact ⟨node,List.mem_reverse.mp listed,named_some here⟩

theorem nodeIPOf_valid (known : nodeIPOf (buildNodeInternalIPs nodes) name ≠ "") :
    isIPv4 (nodeIPOf (buildNodeInternalIPs nodes) name) = true := by
  obtain ⟨_,_,_,found⟩ := nodeIPOf_source known
  exact internalIP_valid found

theorem nodeIPOf_known : nodeIPOf (buildNodeInternalIPs nodes) name ≠ "" ↔ ∃ node ∈ nodes, node.name = name ∧
    ∃ address ∈ node.addresses, address.type = "InternalIP" ∧ isIPv4 address.address = true := by
  constructor
  · intro known
    obtain ⟨node,listed,here,found⟩ := nodeIPOf_source known
    obtain ⟨address,first,_⟩ := Option.map_eq_some_iff.mp found
    have kind := List.find?_some first
    rw [Bool.and_eq_true,decide_eq_true_eq] at kind
    exact ⟨node,listed,here,address,List.mem_of_find?_eq_some first,kind⟩
  · rintro ⟨node,listed,here,address,member,kind⟩ unknown
    have found : ∃ a, internalIP node = some a := by
      refine Option.isSome_iff_exists.mp ?_
      rw [internalIP,Option.isSome_map,List.find?_isSome]
      exact ⟨address,member,by rw [Bool.and_eq_true,decide_eq_true_eq]; exact kind⟩
    obtain ⟨a,found⟩ := found
    cases filed : (buildNodeInternalIPs nodes).lookup name with
    | none =>
      rw [lookup_internalIPs] at filed
      have missing := List.findSome?_eq_none_iff.mp filed node (List.mem_reverse.mpr listed)
      rw [named,if_pos here,found] at missing
      cases missing
    | some b =>
      have blank : b = "" := by rwa [nodeIPOf,filed] at unknown
      rw [lookup_internalIPs] at filed
      obtain ⟨_,_,here⟩ := List.exists_of_findSome?_eq_some filed
      have valid := internalIP_valid (named_some here).2
      rw [blank] at valid
      exact absurd valid (by decide)

end Nodes

section Keys

theorem split_last {c : Char} {left left' right right' : List Char} (free : c ∉ right) (free' : c ∉ right')
    (same : left ++ c :: right = left' ++ c :: right') : left = left' ∧ right = right' := by
  rcases List.append_eq_append_iff.mp same with ⟨middle,longer,rest⟩ | ⟨middle,longer,rest⟩
  · cases middle with
    | nil =>
      rw [List.append_nil] at longer
      exact ⟨longer.symm,List.tail_eq_of_cons_eq rest⟩
    | cons d more =>
      refine absurd ?_ free
      rw [List.tail_eq_of_cons_eq rest]
      exact List.mem_append_right _ List.mem_cons_self
  · cases middle with
    | nil =>
      rw [List.append_nil] at longer
      exact ⟨longer,(List.tail_eq_of_cons_eq rest).symm⟩
    | cons d more =>
      refine absurd ?_ free'
      rw [List.tail_eq_of_cons_eq rest]
      exact List.mem_append_right _ List.mem_cons_self

theorem repr_digits (n : Nat) {c : Char} (member : c ∈ n.repr.toList) : c.isDigit = true := by
  rw [Nat.toList_repr] at member
  exact Nat.isDigit_of_mem_toDigits (by decide) (by decide) member

theorem nat_repr_injective {m n : Nat} (same : m.repr = n.repr) : m = n := by
  have digits := congrArg String.toList same
  rw [Nat.toList_repr,Nat.toList_repr] at digits
  rw [← Nat.ofDigitChars_toDigits (b := 10) (n := m) (by decide) (by decide),digits,
    Nat.ofDigitChars_toDigits (by decide) (by decide)]

theorem int_repr (n : Int) : n.repr.toList = (if 0 ≤ n then [] else ['-']) ++ n.natAbs.repr.toList := by
  rw [Int.repr_eq_if]
  split
  · rw [List.nil_append,show n.toNat = n.natAbs by omega]
  · rw [show (-n).toNat = n.natAbs by omega,String.toList_append]
    rfl

theorem port_colonless (port : Int32) : ':' ∉ (toString port).toList := by
  intro member
  have colon : ':' ∈ port.toInt.repr.toList := member
  rw [int_repr] at colon
  rcases List.mem_append.mp colon with sign | digits
  · split at sign
    · cases sign
    · exact absurd (List.mem_singleton.mp sign) (by decide)
  · exact absurd (repr_digits _ digits) (by decide)

theorem port_injective {a b : Int32} (same : toString a = toString b) : a = b := by
  have texts : a.toInt.repr.toList = b.toInt.repr.toList := congrArg String.toList same
  rw [int_repr,int_repr] at texts
  have minus : ∀ n : Nat, ∀ rest, n.repr.toList ≠ '-' :: rest := by
    intro n rest equal
    have digit := repr_digits n (equal ▸ List.mem_cons_self : '-' ∈ n.repr.toList)
    exact absurd digit (by decide)
  have values : ∀ m n : Nat, m.repr.toList = n.repr.toList → m = n :=
    fun m n equal => nat_repr_injective (String.toList_injective equal)
  apply Int32.toInt_inj.mp
  by_cases left : 0 ≤ a.toInt
  · by_cases right : 0 ≤ b.toInt
    · rw [if_pos left,if_pos right] at texts
      have same := values _ _ texts
      omega
    · rw [if_pos left,if_neg right] at texts
      exact absurd texts (minus _ _)
  · by_cases right : 0 ≤ b.toInt
    · rw [if_neg left,if_pos right] at texts
      exact absurd texts.symm (minus _ _)
    · rw [if_neg left,if_neg right] at texts
      have same := values _ _ (List.append_cancel_left texts)
      omega

theorem backendKey_inj {a b : Backend} : backendKey a = backendKey b ↔ a.address = b.address ∧ a.port = b.port := by
  have text : ∀ b : Backend, (backendKey b).toList = b.address.toList ++ ':' :: (toString b.port).toList := by
    intro b
    rw [backendKey,String.toList_append,String.toList_append,List.append_assoc]
    rfl
  constructor
  · intro same
    have texts := congrArg String.toList same
    rw [text,text] at texts
    obtain ⟨address,port⟩ := split_last (port_colonless _) (port_colonless _) texts
    exact ⟨String.toList_injective address,port_injective (String.toList_injective port)⟩
  · rintro ⟨address,port⟩
    rw [backendKey,backendKey,address,port]

end Keys

section Holders
variable (nodeIPs : AList (fun _ : String => String)) (nodeIP snatIP : String)

abbrev Exposure := Service × ServicePort

def Exposure.id (x : Exposure) : ServiceID := ⟨x.1.nameSpace,x.1.name,x.2.nodePort⟩

def Exposure.candidates (x : Exposure) (slices : List EndpointSlice) : List Backend :=
  Syncer.candidates nodeIPs x.2 (sliceIndex slices ⟨x.1.nameSpace,x.1.name⟩)

def Exposure.Backed (x : Exposure) (slices : List EndpointSlice) : Prop :=
  x.1.type = "NodePort" ∧ (x.1.externalTrafficPolicy = "" ∨ x.1.externalTrafficPolicy = "Cluster") ∧
    (x.2.protocol = "" ∨ x.2.protocol = "TCP") ∧ x.2.nodePort ≠ 0 ∧ x.candidates nodeIPs slices ≠ []

instance (x : Exposure) (slices : List EndpointSlice) : Decidable (x.Backed nodeIPs slices) :=
  inferInstanceAs (Decidable (_ ∧ _ ∧ _ ∧ _ ∧ _))

def exposures (selector : Option ServiceSelector) (services : List Service) : List Exposure :=
  (services.filter (selected selector)).flatMap fun service => service.ports.map (service,·)

-- The service port an ID stands for: the last one, should there be several.
def holder (selector : Option ServiceSelector) (cluster : Cluster) (id : ServiceID) : Option Exposure :=
  (exposures selector cluster.services).reverse.find? fun x => x.Backed nodeIPs cluster.slices ∧ x.id = id

def Exposure.entry (x : Exposure) (slices : List EndpointSlice) : NodePortEntry :=
  ⟨x.id,nodeIP,snatIP,collectBackends x.2 (sliceIndex slices ⟨x.1.nameSpace,x.1.name⟩) nodeIPs⟩

theorem portEntry_backed (x : Exposure) (slices : List EndpointSlice) (type : x.1.type = "NodePort")
    (policy : x.1.externalTrafficPolicy = "" ∨ x.1.externalTrafficPolicy = "Cluster") :
    portEntry nodeIPs nodeIP snatIP x.1 (sliceIndex slices ⟨x.1.nameSpace,x.1.name⟩) x.2 =
      if x.Backed nodeIPs slices then some (x.entry nodeIPs nodeIP snatIP slices) else none := by
  unfold portEntry
  split
  · rename_i other
    exact (if_neg fun backed => backed.2.2.1.elim other.1 other.2).symm
  · rename_i protocol
    have tcp : x.2.protocol = "" ∨ x.2.protocol = "TCP" := by
      by_cases unset : x.2.protocol = ""
      · exact .inl unset
      · exact .inr (not_not.mp fun other => protocol ⟨unset,other⟩)
    split
    · rename_i unset
      exact (if_neg fun backed => backed.2.2.2.1 unset).symm
    · rename_i set
      split
      · rename_i empty
        exact (if_neg fun backed => backed.2.2.2.2 (collectBackends_empty.mp empty)).symm
      · rename_i populated
        exact (if_pos ⟨type,policy,tcp,set,fun empty => populated (collectBackends_empty.mpr empty)⟩).symm

theorem serviceEntries_backed (slices : List EndpointSlice) (service : Service) :
    serviceEntries nodeIPs nodeIP snatIP slices service = (service.ports.map (service,·)).filterMap fun x : Exposure =>
      if x.Backed nodeIPs slices then some (x.entry nodeIPs nodeIP snatIP slices) else none := by
  have skipped : ∀ reason : (∀ x : Exposure, x.1 = service → ¬ x.Backed nodeIPs slices),
      ((service.ports.map (service,·)).filterMap fun x : Exposure =>
        if x.Backed nodeIPs slices then some (x.entry nodeIPs nodeIP snatIP slices) else none) = [] := by
    intro reason
    refine List.filterMap_eq_nil_iff.mpr fun x listed => if_neg (reason x ?_)
    obtain ⟨_,_,rfl⟩ := List.mem_map.mp listed
    rfl
  unfold serviceEntries
  split
  · rename_i type
    exact (skipped fun x same backed => type (same ▸ backed.1)).symm
  · rename_i type
    split
    · rename_i policy
      exact (skipped fun x same backed => (same ▸ backed.2.1).elim policy.1 policy.2).symm
    · rename_i policy
      have allowed : service.externalTrafficPolicy = "" ∨ service.externalTrafficPolicy = "Cluster" := by
        by_cases unset : service.externalTrafficPolicy = ""
        · exact .inl unset
        · exact .inr (not_not.mp fun other => policy ⟨unset,other⟩)
      rw [List.filterMap_map]
      refine List.filterMap_congr fun port _ => ?_
      exact portEntry_backed nodeIPs nodeIP snatIP (service,port) slices (not_not.mp type) allowed

theorem offers_backed (selector : Option ServiceSelector) (cluster : Cluster) :
    offers nodeIPs nodeIP snatIP selector cluster = (exposures selector cluster.services).filterMap fun x =>
      if x.Backed nodeIPs cluster.slices then some (x.entry nodeIPs nodeIP snatIP cluster.slices) else none := by
  rw [offers,exposures,List.filterMap_flatMap]
  congr 1
  funext service
  exact serviceEntries_backed _ _ _ _ _

theorem lookup_collected (selector : Option ServiceSelector) (cluster : Cluster) (id : ServiceID) :
    (collectEntries nodeIPs nodeIP snatIP selector cluster).lookup id =
      (holder nodeIPs selector cluster id).map fun x => x.entry nodeIPs nodeIP snatIP cluster.slices := by
  have test : (fun x : Exposure => (if x.Backed nodeIPs cluster.slices then
      some (x.entry nodeIPs nodeIP snatIP cluster.slices) else none).any fun e => e.id = id) =
      fun x => decide (x.Backed nodeIPs cluster.slices ∧ x.id = id) := by
    funext x
    by_cases backed : x.Backed nodeIPs cluster.slices
    · simp [backed,Exposure.entry]
    · simp [backed]
  rw [collectEntries_file,lookup_last,offers_backed,← List.filterMap_reverse,List.find?_filterMap,test,← holder,
    AList.lookup_empty,Option.or_none]
  cases found : holder nodeIPs selector cluster id with
  | none => rfl
  | some x =>
    have backed := List.find?_some found
    rw [decide_eq_true_eq] at backed
    exact if_pos backed.1

variable {nodeIPs nodeIP snatIP} {selector : Option ServiceSelector} {cluster : Cluster} {id : ServiceID}

theorem holder_source {x : Exposure} (held : holder nodeIPs selector cluster id = some x) :
    x ∈ exposures selector cluster.services ∧ x.Backed nodeIPs cluster.slices ∧ x.id = id := by
  have kind := List.find?_some held
  rw [decide_eq_true_eq] at kind
  exact ⟨List.mem_reverse.mp (List.mem_of_find?_eq_some held),kind⟩

theorem desiredEntries_filed {setting : Setting} {current nodeName : String} {entries : Entries} {e : NodePortEntry}
    (computed : desiredEntries selector setting current cluster = .ok (nodeName,entries)) (found : entries.lookup id = some e) :
    e.id = id ∧ e.backends ≠ [] := by
  obtain ⟨snatIP,_,_,_,rfl⟩ := desiredEntries_ok.mp computed
  rw [lookup_collected] at found
  obtain ⟨x,held,rfl⟩ := Option.map_eq_some_iff.mp found
  obtain ⟨_,backed,same⟩ := holder_source held
  exact ⟨same,fun empty => backed.2.2.2.2 (collectBackends_empty.mp empty)⟩

end Holders
end Aipr.Syncer
