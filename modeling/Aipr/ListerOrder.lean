import Mathlib.Data.Prod.Lex
import Mathlib.Data.String.Basic
import Aipr.ObjectContent

namespace Aipr.Syncer
open FirstPerKey TwoSyncers

section Sorting

def rank (b : Backend) : String ×ₗ (Int ×ₗ String) := toLex (b.address,toLex (b.port.toInt,b.nodeIP))

theorem rank_injective {a b : Backend} (same : rank a = rank b) : a = b := by
  obtain ⟨address,port,nodeIP⟩ := a
  obtain ⟨address',port',nodeIP'⟩ := b
  simp only [rank,EmbeddingLike.apply_eq_iff_eq,Prod.mk.injEq] at same
  obtain ⟨rfl,ports,rfl⟩ := same
  rw [Int32.toInt_inj.mp ports]

theorem backendLess_rank (a b : Backend) : backendLess b a = false ↔ rank a ≤ rank b := by
  rw [rank,rank,Prod.Lex.toLex_le_toLex,Prod.Lex.toLex_le_toLex]
  unfold backendLess
  dsimp only
  by_cases address : b.address = a.address
  · rw [if_neg (not_not.mpr address)]
    by_cases port : b.port = a.port
    · rw [if_neg (not_not.mpr port),decide_eq_false_iff_not,not_lt]
      simp [address,port]
    · have different : a.port.toInt ≠ b.port.toInt := fun same => port (Int32.toInt_inj.mp same).symm
      rw [if_pos port,decide_eq_false_iff_not,Int32.lt_iff_toInt_lt]
      simp only [address,lt_irrefl,different,true_and,false_and,or_false,false_or]
      omega
  · rw [if_pos address,decide_eq_false_iff_not,not_lt]
    simp only [Ne.symm address,false_and,or_false]
    exact ⟨fun below => lt_of_le_of_ne below (Ne.symm address),le_of_lt⟩

theorem sort_perm {l l' : List Backend} (perm : l.Perm l') :
    (l.insertionSort fun a b => backendLess b a = false) = l'.insertionSort fun a b => backendLess b a = false := by
  have total : Std.Total fun a b : Backend => backendLess b a = false :=
    ⟨fun a b => by rw [backendLess_rank,backendLess_rank]; exact le_total _ _⟩
  have trans : IsTrans Backend fun a b => backendLess b a = false :=
    ⟨fun a b c => by rw [backendLess_rank,backendLess_rank,backendLess_rank]; exact le_trans⟩
  refine List.Perm.eq_of_pairwise (fun a b _ _ below above => ?_) (List.pairwise_insertionSort _ l)
    (List.pairwise_insertionSort _ l') ?_
  · exact rank_injective (le_antisymm ((backendLess_rank a b).mp below) ((backendLess_rank b a).mp above))
  · exact (List.perm_insertionSort _ l).trans (perm.trans (List.perm_insertionSort _ l').symm)

end Sorting

structure Shuffled (slice other : EndpointSlice) : Prop where
  nameSpace : slice.nameSpace = other.nameSpace
  serviceName : slice.serviceName = other.serviceName
  ports : slice.ports = other.ports
  endpoints : slice.endpoints.Perm other.endpoints

structure Reordered (cluster other : Cluster) : Prop where
  services : cluster.services.Perm other.services
  nodes : cluster.nodes.Perm other.nodes
  slices : ∃ shuffled, List.Forall₂ Shuffled cluster.slices shuffled ∧ shuffled.Perm other.slices

structure Named (cluster : Cluster) : Prop where
  services : (cluster.services.map fun service => (service.nameSpace,service.name)).Nodup
  nodes : (cluster.nodes.map Node.name).Nodup

section Reordering
variable {nodeIPs nodeIPs' : AList (fun _ : String => String)} {cluster other : Cluster}

theorem Shuffled.refl (slice : EndpointSlice) : Shuffled slice slice := ⟨rfl,rfl,rfl,List.Perm.refl _⟩

theorem shuffled_slices {slices shuffled : List EndpointSlice} (each : List.Forall₂ Shuffled slices shuffled)
    (servicePort : ServicePort) (ref : ServiceRef) : (candidates nodeIPs servicePort (sliceIndex slices ref)).Perm
      (candidates nodeIPs servicePort (sliceIndex shuffled ref)) := by
  induction each with
  | nil => exact List.Perm.refl _
  | @cons slice changed rest rest' same _ ih =>
    have backends : (sliceBackends nodeIPs servicePort slice).Perm (sliceBackends nodeIPs servicePort changed) := by
      have ports : matchingSlicePorts servicePort slice = matchingSlicePorts servicePort changed := by
        unfold matchingSlicePorts tcpPorts
        rw [same.ports]
      rw [sliceBackends,sliceBackends,ports]
      exact same.endpoints.flatMap_right _
    unfold sliceIndex candidates at ih ⊢
    rw [List.filter_cons,List.filter_cons,same.nameSpace,same.serviceName]
    split
    · rw [List.flatMap_cons,List.flatMap_cons]
      exact backends.append ih
    · exact ih

theorem endpointBackends_congr (same : ∀ name, nodeIPOf nodeIPs name = nodeIPOf nodeIPs' name) (ports : List Int32)
    (endpoint : Endpoint) : endpointBackends nodeIPs ports endpoint = endpointBackends nodeIPs' ports endpoint := by
  have alike : Usable nodeIPs endpoint ↔ Usable nodeIPs' endpoint := by rw [Usable,Usable,same]
  unfold endpointBackends
  by_cases usable : Usable nodeIPs endpoint
  · rw [if_pos usable,if_pos (alike.mp usable),same]
  · rw [if_neg usable,if_neg fun reached => usable (alike.mpr reached)]

theorem candidates_reordered (same : ∀ name, nodeIPOf nodeIPs name = nodeIPOf nodeIPs' name)
    (slices : ∃ shuffled, List.Forall₂ Shuffled cluster.slices shuffled ∧ shuffled.Perm other.slices) (x : Exposure) :
    (x.candidates nodeIPs cluster.slices).Perm (x.candidates nodeIPs' other.slices) := by
  obtain ⟨shuffled,each,perm⟩ := slices
  have read : ∀ servicePort slices, candidates nodeIPs servicePort slices = candidates nodeIPs' servicePort slices := by
    intro servicePort slices
    have slicewise : sliceBackends nodeIPs servicePort = sliceBackends nodeIPs' servicePort := by
      funext slice
      rw [sliceBackends,sliceBackends,funext (endpointBackends_congr same _)]
    rw [candidates,candidates,slicewise]
  rw [Exposure.candidates,Exposure.candidates,← read]
  exact (shuffled_slices each _ _).trans ((perm.filter _).flatMap_right _)

theorem find?_restrict {p q : α → Bool} (l : List α) (narrow : ∀ x, p x = true → q x = true) :
    l.find? p = (l.filter q).find? p := by
  rw [List.find?_filter]
  congr 1
  funext x
  cases kind : p x with
  | false => simp
  | true => simp [narrow x kind]

theorem findSome?_restrict {f : α → Option β} {q : α → Bool} (l : List α) (narrow : ∀ x, q x = false → f x = none) :
    l.findSome? f = (l.filter q).findSome? f := by
  induction l with
  | nil => rfl
  | cons x rest ih =>
    rw [List.filter_cons,List.findSome?_cons]
    cases kind : q x with
    | false =>
      rw [narrow x kind]
      exact ih
    | true =>
      rw [if_pos rfl,List.findSome?_cons,ih]

theorem nodeIPOf_reordered {nodes nodes' : List Node} (unique : (nodes.map Node.name).Nodup) (perm : nodes.Perm nodes')
    (name : String) : nodeIPOf (buildNodeInternalIPs nodes) name = nodeIPOf (buildNodeInternalIPs nodes') name := by
  have narrow : ∀ node : Node, decide (node.name = name) = false → Syncer.named name node = none :=
    fun node other => if_neg (of_decide_eq_false other)
  rw [nodeIPOf,nodeIPOf,lookup_internalIPs,lookup_internalIPs,findSome?_restrict nodes.reverse narrow,
    findSome?_restrict nodes'.reverse narrow,List.filter_reverse,List.filter_reverse,filter_perm unique perm]

theorem resolve_reordered {nodes nodes' : List Node} (perm : nodes.Perm nodes') {current : String}
    (resolved : trimmed current ≠ "") (hostname : Except String String) :
    resolveNodeName hostname current nodes = resolveNodeName hostname current nodes' := by
  unfold resolveNodeName
  dsimp only
  rw [if_pos resolved,if_pos resolved,perm.any_eq]

theorem exposures_cons (selector : Option ServiceSelector) (service : Service) (rest : List Service) :
    exposures selector (service :: rest) =
      (if selected selector service then service.ports.map (service,·) else []) ++ exposures selector rest := by
  unfold exposures
  rw [List.filter_cons]
  split
  · rw [List.flatMap_cons]
  · rfl

theorem exposures_of (selector : Option ServiceSelector) (services : List Service) (id : ServiceID) :
    (exposures selector services).filter (fun x => (x.1.nameSpace,x.1.name) = (id.nameSpace,id.name)) =
      exposures selector (services.filter fun service => (service.nameSpace,service.name) = (id.nameSpace,id.name)) := by
  induction services with
  | nil => rfl
  | cons service rest ih =>
    rw [exposures_cons,List.filter_append,ih,List.filter_cons]
    by_cases mine : (service.nameSpace,service.name) = (id.nameSpace,id.name)
    · rw [if_pos (decide_eq_true mine),exposures_cons]
      congr 1
      refine List.filter_eq_self.mpr fun x listed => decide_eq_true ?_
      split at listed
      · obtain ⟨_,_,rfl⟩ := List.mem_map.mp listed
        exact mine
      · cases listed
    · rw [if_neg fun same => mine (of_decide_eq_true same)]
      refine (congrArg (· ++ _) (List.filter_eq_nil_iff.mpr fun x listed same => mine ?_)).trans (List.nil_append _)
      split at listed
      · obtain ⟨_,_,rfl⟩ := List.mem_map.mp listed
        exact of_decide_eq_true same
      · cases listed

theorem holder_reordered (named : (cluster.services.map fun service => (service.nameSpace,service.name)).Nodup)
    (services : cluster.services.Perm other.services)
    (alike : ∀ x : Exposure, x.Backed nodeIPs cluster.slices ↔ x.Backed nodeIPs' other.slices)
    (selector : Option ServiceSelector) (id : ServiceID) :
    holder nodeIPs selector cluster id = holder nodeIPs' selector other id := by
  have own : ∀ x : Exposure, x.id = id → (x.1.nameSpace,x.1.name) = (id.nameSpace,id.name) := by
    rintro x rfl
    rfl
  unfold holder
  simp only [← alike]
  rw [find?_restrict (exposures selector cluster.services).reverse fun x kind => decide_eq_true (own x (of_decide_eq_true kind).2),
    find?_restrict (exposures selector other.services).reverse fun x kind => decide_eq_true (own x (of_decide_eq_true kind).2),
    List.filter_reverse,List.filter_reverse,exposures_of,exposures_of,filter_perm named services]

theorem entry_reordered {x : Exposure} (alike : (x.candidates nodeIPs cluster.slices).Perm (x.candidates nodeIPs' other.slices))
    (consistent : Consistent backendKey (x.candidates nodeIPs cluster.slices)) (nodeIP snatIP : String) :
    x.entry nodeIPs nodeIP snatIP cluster.slices = x.entry nodeIPs' nodeIP snatIP other.slices := by
  rw [Exposure.entry,Exposure.entry,collectBackends_firsts,collectBackends_firsts]
  exact congrArg (NodePortEntry.mk x.id nodeIP snatIP) (sort_perm (firsts_perm consistent alike))

-- Any candidate comes first in some order of the slices and their endpoints.
theorem some_order_first {x : Exposure} {b : Backend} (member : b ∈ x.candidates nodeIPs cluster.slices) :
    ∃ slices, (∃ shuffled, List.Forall₂ Shuffled cluster.slices shuffled ∧ shuffled.Perm slices) ∧
      b ∈ firsts backendKey [] (x.candidates nodeIPs slices) := by
  obtain ⟨slice,indexed,endpoint,listed,usable,port,matching,rfl⟩ := mem_candidates.mp member
  obtain ⟨present,filed⟩ := List.mem_filter.mp indexed
  obtain ⟨before,after,split⟩ := List.append_of_mem present
  obtain ⟨front,back,endpoints⟩ := List.append_of_mem listed
  let moved : EndpointSlice := {slice with endpoints := endpoint :: (front ++ back)}
  have shuffled : Shuffled slice moved := ⟨rfl,rfl,rfl,endpoints ▸ List.perm_middle⟩
  refine ⟨moved :: (before ++ after),⟨before ++ moved :: after,?_,List.perm_middle⟩,?_⟩
  · rw [split]
    have same : ∀ l : List EndpointSlice, List.Forall₂ Shuffled l l :=
      fun l => List.forall₂_same.mpr fun slice _ => Shuffled.refl slice
    exact List.rel_append (same before) (.cons shuffled (same after))
  · have head : sliceIndex (moved :: (before ++ after)) ⟨x.1.nameSpace,x.1.name⟩ =
        moved :: sliceIndex (before ++ after) ⟨x.1.nameSpace,x.1.name⟩ := List.filter_cons_of_pos filed
    rw [Exposure.candidates,head,candidates,List.flatMap_cons,sliceBackends,List.flatMap_cons]
    refine firsts_append (firsts_append ?_)
    refine (mem_firsts ?_).mpr (mem_endpointBackends.mpr ⟨usable,port,matching,rfl⟩)
    intro b left c right same
    obtain ⟨_,_,_,rfl⟩ := mem_endpointBackends.mp left
    obtain ⟨_,_,_,rfl⟩ := mem_endpointBackends.mp right
    rw [Backend.mk.injEq]
    exact ⟨rfl,(backendKey_inj.mp same).2,rfl⟩

end Reordering

section Idempotence
variable {selector : Option ServiceSelector} {setting : Setting} {current nodeName : String} {cluster : Cluster} {entries : Entries}

-- Whatever order the listers return next time, the entries are the same and a
-- reconcile against them makes no call.
def OrderFree (selector : Option ServiceSelector) (setting : Setting) (current nodeName : String) (cluster : Cluster)
    (entries : Entries) : Prop :=
  ∀ other, Reordered cluster other → ∃ again, desiredEntries selector setting current other = .ok (nodeName,again) ∧
    (∀ id, again.lookup id = entries.lookup id) ∧
    ∀ (applied desired : DesiredSet) (dryRun : Bool), applied.table = entries → desired.table = again →
      reconcileEntries dryRun applied desired = .done

def Unambiguous (selector : Option ServiceSelector) (cluster : Cluster) : Prop :=
  ∀ id x, holder (buildNodeInternalIPs cluster.nodes) selector cluster id = some x →
    ∀ b ∈ x.candidates (buildNodeInternalIPs cluster.nodes) cluster.slices,
    ∀ c ∈ x.candidates (buildNodeInternalIPs cluster.nodes) cluster.slices,
      b.address = c.address → b.port = c.port → b.nodeIP = c.nodeIP

theorem unambiguous_consistent : Unambiguous selector cluster ↔
    ∀ id x, holder (buildNodeInternalIPs cluster.nodes) selector cluster id = some x →
      Consistent backendKey (x.candidates (buildNodeInternalIPs cluster.nodes) cluster.slices) := by
  constructor
  · intro unambiguous id x held b left c right same
    obtain ⟨address,port⟩ := backendKey_inj.mp same
    rw [Backend.mk.injEq]
    exact ⟨address,port,unambiguous id x held b left c right address port⟩
  · intro consistent id x held b left c right address port
    exact congrArg Backend.nodeIP (consistent id x held b left c right (backendKey_inj.mpr ⟨address,port⟩))

theorem candidates_again {other : Cluster} (named : Named cluster) (reordered : Reordered cluster other) (x : Exposure) :
    (x.candidates (buildNodeInternalIPs cluster.nodes) cluster.slices).Perm
      (x.candidates (buildNodeInternalIPs other.nodes) other.slices) :=
  candidates_reordered (nodeIPOf_reordered named.nodes reordered.nodes) reordered.slices x

theorem holder_again {other : Cluster} (named : Named cluster) (reordered : Reordered cluster other)
    (selector : Option ServiceSelector) (id : ServiceID) : holder (buildNodeInternalIPs cluster.nodes) selector cluster id =
      holder (buildNodeInternalIPs other.nodes) selector other id := by
  refine holder_reordered named.services reordered.services (fun x => ?_) selector id
  simp only [Exposure.Backed,← List.length_pos_iff,(candidates_again named reordered x).length_eq]

theorem desired_again {other : Cluster} {snatIP : String} (named : Named cluster) (reordered : Reordered cluster other)
    (resolved : trimmed current ≠ "") (addressed : snatAddress setting = .ok snatIP)
    (known : resolveNodeName setting.hostname current cluster.nodes = .ok nodeName)
    (found : nodeIPOf (buildNodeInternalIPs cluster.nodes) nodeName ≠ "") :
    desiredEntries selector setting current other = .ok (nodeName,collectEntries (buildNodeInternalIPs other.nodes)
      (nodeIPOf (buildNodeInternalIPs cluster.nodes) nodeName) snatIP selector other) := by
  have nodeIP := nodeIPOf_reordered named.nodes reordered.nodes nodeName
  refine desiredEntries_ok.mpr ⟨snatIP,addressed,?_,nodeIP ▸ found,by rw [nodeIP]⟩
  rw [← resolve_reordered reordered.nodes resolved]
  exact known

theorem candidate_kept (named : Named cluster) (resolved : trimmed current ≠ "")
    (computed : desiredEntries selector setting current cluster = .ok (nodeName,entries))
    (free : OrderFree selector setting current nodeName cluster entries) {id : ServiceID} {x : Exposure}
    (held : holder (buildNodeInternalIPs cluster.nodes) selector cluster id = some x) {b : Backend}
    (member : b ∈ x.candidates (buildNodeInternalIPs cluster.nodes) cluster.slices) :
    b ∈ firsts backendKey [] (x.candidates (buildNodeInternalIPs cluster.nodes) cluster.slices) := by
  obtain ⟨snatIP,addressed,known,found,rfl⟩ := desiredEntries_ok.mp computed
  obtain ⟨slices,shuffle,first⟩ := some_order_first member
  have reordered : Reordered cluster {cluster with slices := slices} := ⟨List.Perm.refl _,List.Perm.refl _,shuffle⟩
  obtain ⟨again,computed',equal,_⟩ := free _ reordered
  cases (desired_again named reordered resolved addressed known found).symm.trans computed'
  have entry := equal id
  rw [lookup_collected,lookup_collected,← holder_again named reordered,held] at entry
  have backends : collectBackends x.2 (sliceIndex slices ⟨x.1.nameSpace,x.1.name⟩) (buildNodeInternalIPs cluster.nodes) =
      collectBackends x.2 (sliceIndex cluster.slices ⟨x.1.nameSpace,x.1.name⟩) (buildNodeInternalIPs cluster.nodes) :=
    congrArg NodePortEntry.backends (Option.some.inj entry)
  refine mem_collectBackends.mp ?_
  rw [← backends]
  exact mem_collectBackends.mpr first

theorem order_free_iff (named : Named cluster) (resolved : trimmed current ≠ "")
    (computed : desiredEntries selector setting current cluster = .ok (nodeName,entries)) :
    OrderFree selector setting current nodeName cluster entries ↔ Unambiguous selector cluster := by
  rw [unambiguous_consistent]
  constructor
  · intro free id x held b left c right same
    have kept := candidate_kept named resolved computed free held left
    have kept' := candidate_kept named resolved computed free held right
    exact firsts_unique kept kept' same
  · intro consistent other reordered
    obtain ⟨snatIP,addressed,known,found,rfl⟩ := desiredEntries_ok.mp computed
    have equal : ∀ id, (collectEntries (buildNodeInternalIPs other.nodes) (nodeIPOf (buildNodeInternalIPs cluster.nodes) nodeName)
        snatIP selector other).lookup id = (collectEntries (buildNodeInternalIPs cluster.nodes)
        (nodeIPOf (buildNodeInternalIPs cluster.nodes) nodeName) snatIP selector cluster).lookup id := by
      intro id
      rw [lookup_collected,lookup_collected,← holder_again named reordered]
      cases held : holder (buildNodeInternalIPs cluster.nodes) selector cluster id with
      | none => rfl
      | some x =>
        exact congrArg some (entry_reordered (candidates_again named reordered x) (consistent id x held) _ _).symm
    refine ⟨_,desired_again named reordered resolved addressed known found,equal,fun applied desired dryRun before after => ?_⟩
    refine reconcile_nothing (fun id => ?_) dryRun
    rw [DesiredSet.lookup,DesiredSet.lookup,before,after,equal]

end Idempotence

def slice (endpoints : List Endpoint) : EndpointSlice :=
  ⟨"default","shop",[⟨some "http",some "TCP",some 8080⟩],endpoints⟩

def spreadOut : Cluster := {shopOpen with
  slices := [slice [pod "10.244.1.5" "worker2",pod "10.244.2.6" "worker3"],slice [pod "10.244.1.7" "worker2",pod "10.244.1.5" "worker2"]]}

theorem spreadOut_free : ∃ entries, desiredEntries none worker1 "worker1" spreadOut = .ok ("worker1",entries) ∧
    (entries.entries.map fun e => e.2.backends.length) = [3] ∧ OrderFree none worker1 "worker1" "worker1" spreadOut entries := by
  have alike : ∀ x ∈ exposures none spreadOut.services,
      ∀ b ∈ x.candidates (buildNodeInternalIPs spreadOut.nodes) spreadOut.slices,
      ∀ c ∈ x.candidates (buildNodeInternalIPs spreadOut.nodes) spreadOut.slices,
        b.address = c.address → b.port = c.port → b.nodeIP = c.nodeIP := by decide
  exact ⟨_,rfl,by decide,(order_free_iff ⟨by decide,by decide⟩ (by decide) rfl).mpr
    fun _ x held => alike x (holder_source held).1⟩

-- The sort has the node as its last criterion, the keys that come before it leave it out.
def sliceOn (nodeName : String) : EndpointSlice := slice [pod "10.244.1.5" nodeName]
def twiceListed : Cluster := {shopOpen with slices := [sliceOn "worker2",sliceOn "worker3"]}

theorem twiceListed_flaps : ∃ entries, Named twiceListed ∧
    desiredEntries none worker1 "worker1" twiceListed = .ok ("worker1",entries) ∧
    ¬ OrderFree none worker1 "worker1" "worker1" twiceListed entries := by
  refine ⟨_,⟨by decide,by decide⟩,rfl,fun free => ?_⟩
  have swapped : Reordered twiceListed {twiceListed with slices := [sliceOn "worker3",sliceOn "worker2"]} :=
    ⟨List.Perm.refl _,List.Perm.refl _,_,List.forall₂_same.mpr fun slice _ => Shuffled.refl slice,List.Perm.swap _ _ _⟩
  obtain ⟨again,computed,equal,_⟩ := free _ swapped
  have found : (desiredEntries none worker1 "worker1" {twiceListed with slices := [sliceOn "worker3",sliceOn "worker2"]}).toOption.map
      (fun made => made.2.lookup ⟨"default","shop",30080⟩) = some (some ⟨⟨"default","shop",30080⟩,"192.168.56.10","192.168.56.10",
        [⟨"10.244.1.5",8080,"192.168.56.12"⟩]⟩) := rfl
  rw [computed] at found
  have other := (equal ⟨"default","shop",30080⟩).symm.trans (Option.some.inj found)
  exact absurd other (by decide)

end Aipr.Syncer
