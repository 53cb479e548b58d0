import Aipr.Candidates
import Aipr.TwoSyncers

namespace Aipr.Syncer
open FirstPerKey TwoSyncers

def PortRange (port : Int32) : Prop := 1 ≤ port.toInt ∧ port.toInt ≤ 65535

instance (port : Int32) : Decidable (PortRange port) := inferInstanceAs (Decidable (_ ∧ _))

section Scripts

theorem portBytes_accepts (port : Int32) : (∃ x, portBytes port = .ok x) ↔ PortRange port := by
  constructor
  · rintro ⟨x,done⟩
    obtain ⟨low,high,_⟩ := portBytes_range done
    exact ⟨low,high⟩
  · rintro ⟨low,high⟩
    have inside : ¬ (port < 1 ∨ port > 65535) := by
      rw [gt_iff_lt,Int32.lt_iff_toInt_lt,Int32.lt_iff_toInt_lt]
      have one : (1 : Int32).toInt = 1 := rfl
      have most : (65535 : Int32).toInt = 65535 := rfl
      omega
    exact ⟨_,if_neg inside⟩

theorem frontend_accepts (nodeIP : String) (nodePort : Int32) :
    (∃ key, marshalFrontendKey nodeIP nodePort = .ok key) ↔ parseIPv4 nodeIP ≠ none ∧ PortRange nodePort := by
  rw [← portBytes_accepts]
  constructor
  · rintro ⟨key,found⟩
    obtain ⟨ip,port,parsed,ranged,_⟩ := marshalFrontendKey_ok.mp found
    exact ⟨by rw [parsed]; exact Option.some_ne_none ip,port,ranged⟩
  · rintro ⟨valid,port,ranged⟩
    obtain ⟨ip,parsed⟩ := Option.ne_none_iff_exists'.mp valid
    exact ⟨_,marshalFrontendKey_ok.mpr ⟨ip,port,parsed,ranged,rfl⟩⟩

def Backend.Acceptable (b : Backend) : Prop := parseIPv4 b.address ≠ none ∧ parseIPv4 b.nodeIP ≠ none ∧ PortRange b.port

theorem backend_accepts (b : Backend) : (∃ value, marshalBackendValue b = .ok value) ↔ b.Acceptable := by
  rw [Backend.Acceptable,← portBytes_accepts]
  constructor
  · rintro ⟨value,found⟩
    obtain ⟨address,nodeIP,port,parsed,parsed',ranged,_⟩ := marshalBackendValue_ok.mp found
    exact ⟨by rw [parsed]; exact Option.some_ne_none address,by rw [parsed']; exact Option.some_ne_none nodeIP,port,ranged⟩
  · rintro ⟨valid,valid',port,ranged⟩
    obtain ⟨address,parsed⟩ := Option.ne_none_iff_exists'.mp valid
    obtain ⟨nodeIP,parsed'⟩ := Option.ne_none_iff_exists'.mp valid'
    exact ⟨_,marshalBackendValue_ok.mpr ⟨address,nodeIP,port,parsed,parsed',ranged,rfl⟩⟩

theorem upsertBackends_accepts {e : NodePortEntry} {key : NodePortKey} {backends : List Backend} {index : Nat}
    (acceptable : ∀ b ∈ backends, b.Acceptable) : (upsertBackends false e key index backends).error = none := by
  induction backends generalizing index with
  | nil => rfl
  | cons b rest ih =>
    obtain ⟨value,marshalled⟩ := (backend_accepts b).mpr (acceptable b List.mem_cons_self)
    rw [upsertBackends,marshalled]
    exact (error_andThen _ _).mpr ⟨error_emit _ _ _,ih fun other member => acceptable other (List.mem_cons_of_mem _ member)⟩

theorem marshals_iff (e : NodePortEntry) : e.Marshals ↔ (parseIPv4 e.nodeIP ≠ none ∧ PortRange e.id.nodePort) ∧
    parseIPv4 e.snatIP ≠ none ∧ ∀ b ∈ e.backends, b.Acceptable := by
  constructor
  · intro valid
    obtain ⟨key,value,found,counted,_,slots⟩ := upsert_all valid
    obtain ⟨ip,parsed,_⟩ := marshalServiceValue_ok.mp counted
    refine ⟨(frontend_accepts _ _).mp ⟨key,found⟩,by rw [parsed]; exact Option.some_ne_none ip,?_⟩
    intro b member
    obtain ⟨i,low,rfl⟩ := List.getElem_of_mem member
    obtain ⟨slot,marshalled,_⟩ := slots i low
    exact (backend_accepts _).mp ⟨slot,marshalled⟩
  · rintro ⟨front,valid,acceptable⟩
    obtain ⟨key,found⟩ := (frontend_accepts _ _).mpr front
    obtain ⟨ip,parsed⟩ := Option.ne_none_iff_exists'.mp valid
    have counted := marshalServiceValue_ok.mpr ⟨ip,parsed,(rfl : (⟨UInt32.ofNat e.backends.length,0,ip⟩ : NodePortValue) = _)⟩
    rw [NodePortEntry.Marshals,upsertEntry,found,counted]
    exact (error_andThen _ _).mpr ⟨error_emit _ _ _,upsertBackends_accepts acceptable⟩

end Scripts

section Content
variable {selector : Option ServiceSelector} {setting : Setting} {current snatIP : String} {cluster : Cluster}

def NodeKnown (setting : Setting) (current : String) (nodes : List Node) : Prop :=
  ∃ nodeName, resolveNodeName setting.hostname current nodes = .ok nodeName ∧ ∃ node ∈ nodes, node.name = nodeName ∧
    ∃ address ∈ node.addresses, address.type = "InternalIP" ∧ isIPv4 address.address = true

def Reconciles (selector : Option ServiceSelector) (setting : Setting) (current : String) (cluster : Cluster) : Prop :=
  ∃ nodeName entries, desiredEntries selector setting current cluster = .ok (nodeName,entries) ∧
    (∀ id e, entries.lookup id = some e → (upsertEntry false e).error = none ∧ (deleteEntry false e).error = none) ∧
    ∀ applied desired : DesiredSet, desired.table = entries → (∀ id e, applied.lookup id = some e → e.Marshals) →
      (reconcileEntries false applied desired).error = none

theorem mem_exposures {x : Exposure} {services : List Service} (listed : x ∈ exposures selector services) :
    x.1 ∈ services ∧ x.2 ∈ x.1.ports := by
  obtain ⟨service,chosen,own⟩ := List.mem_flatMap.mp listed
  obtain ⟨port,member,rfl⟩ := List.mem_map.mp own
  exact ⟨(List.mem_filter.mp chosen).1,member⟩

-- The collectors see to the addresses; what is left are the port numbers.
theorem entry_marshals {x : Exposure} {nodeIP : String} (node : parseIPv4 nodeIP ≠ none) (snat : parseIPv4 snatIP ≠ none)
    (exposed : PortRange x.2.nodePort) :
    (x.entry (buildNodeInternalIPs cluster.nodes) nodeIP snatIP cluster.slices).Marshals ↔
      ∀ b ∈ x.candidates (buildNodeInternalIPs cluster.nodes) cluster.slices, PortRange b.port := by
  refine (marshals_iff _).trans ((and_iff_right ⟨node,exposed⟩).trans ((and_iff_right snat).trans ?_))
  constructor
  · intro acceptable b member
    obtain ⟨kept,there,same⟩ := key_in_firsts member (List.not_mem_nil (a := backendKey b))
    have ranged := (acceptable kept (mem_collectBackends.mpr there)).2.2
    rwa [(backendKey_inj.mp same).2] at ranged
  · intro ranged b member
    have listed := (mem_of_firsts (mem_collectBackends.mp member)).1
    refine ⟨?_,?_,ranged b listed⟩
    · obtain ⟨_,_,_,_,usable,_,_,rfl⟩ := mem_candidates.mp listed
      exact parseIPv4_untrimmed (firstIPv4Address_valid usable.2.1)
    · obtain ⟨_,_,_,_,usable,_,_,rfl⟩ := mem_candidates.mp listed
      exact parseIPv4_untrimmed (nodeIPOf_valid usable.2.2)

theorem reconciles_iff (addressed : snatAddress setting = .ok snatIP) (snat : parseIPv4 snatIP ≠ none)
    (exposed : ∀ service ∈ cluster.services, ∀ port ∈ service.ports, port.nodePort ≠ 0 → PortRange port.nodePort) :
    Reconciles selector setting current cluster ↔ NodeKnown setting current cluster.nodes ∧
      ∀ id x, holder (buildNodeInternalIPs cluster.nodes) selector cluster id = some x →
        ∀ b ∈ x.candidates (buildNodeInternalIPs cluster.nodes) cluster.slices, PortRange b.port := by
  have entry : ∀ {nodeName : String}, nodeIPOf (buildNodeInternalIPs cluster.nodes) nodeName ≠ "" → ∀ {id x},
      holder (buildNodeInternalIPs cluster.nodes) selector cluster id = some x →
      ((x.entry (buildNodeInternalIPs cluster.nodes) (nodeIPOf (buildNodeInternalIPs cluster.nodes) nodeName) snatIP
        cluster.slices).Marshals ↔ ∀ b ∈ x.candidates (buildNodeInternalIPs cluster.nodes) cluster.slices, PortRange b.port) := by
    intro nodeName known id x held
    obtain ⟨listed,backed,_⟩ := holder_source held
    obtain ⟨service,port⟩ := mem_exposures listed
    exact entry_marshals (parseIPv4_untrimmed (nodeIPOf_valid known)) snat (exposed _ service _ port backed.2.2.2.1)
  constructor
  · rintro ⟨nodeName,entries,computed,accepted,_⟩
    obtain ⟨other,addressed',resolved,known,rfl⟩ := desiredEntries_ok.mp computed
    cases addressed.symm.trans addressed'
    refine ⟨⟨nodeName,resolved,nodeIPOf_known.mp known⟩,fun id x held => (entry known held).mp ?_⟩
    refine (accepted id _ ?_).1
    rw [lookup_collected,held]
    rfl
  · rintro ⟨⟨nodeName,resolved,here⟩,ranged⟩
    have known := nodeIPOf_known.mpr here
    have marshals : ∀ id e, (collectEntries (buildNodeInternalIPs cluster.nodes)
        (nodeIPOf (buildNodeInternalIPs cluster.nodes) nodeName) snatIP selector cluster).lookup id = some e → e.Marshals := by
      intro id e found
      rw [lookup_collected] at found
      obtain ⟨x,held,rfl⟩ := Option.map_eq_some_iff.mp found
      exact (entry known held).mpr (ranged id x held)
    refine ⟨nodeName,_,desiredEntries_ok.mpr ⟨snatIP,addressed,resolved,known,rfl⟩,?_,?_⟩
    · exact fun id e found => ⟨marshals id e found,delete_accepts (marshals id e found)⟩
    · intro applied desired same old
      refine reconcile_error old fun id e found => marshals id e ?_
      rw [← same]
      exact found

end Content

def mistyped : Cluster :=
  {shopOpen with
    services := shopOpen.services ++ [⟨"team","tool","NodePort","",[⟨"","TCP",80,.int 0,30090⟩]⟩]
    slices := shopOpen.slices ++ [⟨"team","tool",[⟨none,none,some 70000⟩],[pod "10.244.2.8" "worker3"]⟩]}

theorem shopOpen_reconciles : Reconciles none worker1 "worker1" shopOpen := by
  have ranged : ∀ x ∈ exposures none shopOpen.services,
      ∀ b ∈ x.candidates (buildNodeInternalIPs shopOpen.nodes) shopOpen.slices, PortRange b.port := by decide
  have addressed : snatAddress worker1 = .ok "192.168.56.10" := rfl
  have found : resolveNodeName worker1.hostname "worker1" shopOpen.nodes = .ok "worker1" := rfl
  exact (reconciles_iff addressed (by decide) (by decide)).mpr
    ⟨⟨"worker1",found,by decide⟩,fun _ x held => ranged x (holder_source held).1⟩

theorem mistyped_stops : ¬ Reconciles none worker1 "worker1" mistyped := by
  rintro ⟨nodeName,entries,computed,accepted,_⟩
  have found : (desiredEntries none worker1 "worker1" mistyped).toOption.map (fun made => made.2.lookup ⟨"team","tool",30090⟩) =
      some (some ⟨⟨"team","tool",30090⟩,"192.168.56.10","192.168.56.10",[⟨"10.244.2.8",70000,"192.168.56.12"⟩]⟩) := rfl
  rw [computed] at found
  have refused := (accepted _ _ (Option.some.inj found)).1
  exact absurd refused (by decide)

end Aipr.Syncer
