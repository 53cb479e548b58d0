import Aipr.EnvDetect

namespace Aipr.EnvDetect
open Syncer

-- What the search for the own node should give when no name is configured: the node
-- of the host name if there is one, and the same for every order of the nodes.
def Exact (resolve : List α → Except String String) (nameOf : α → String) (hostname : String) (nodes : List α) : Prop :=
  (∀ node ∈ nodes, nameOf node = hostname → resolve nodes = .ok (nameOf node)) ∧
    ∀ nodes', nodes.Perm nodes' → resolve nodes' = resolve nodes

def Alone (nameOf : α → String) (hostname : String) (nodes : List α) : Prop :=
  ∀ a ∈ nodes, ∀ b ∈ nodes, similar hostname (nameOf a) → similar hostname (nameOf b) → nameOf a = nameOf b

theorem similar_self (hostname : String) : similar hostname hostname := by
  unfold similar
  simp

section Resolve
variable {nameOf : α → String} {missing hostname requested : String} {nodes nodes' : List α}

def resolveBy (missing : String) (hostname requested : String) (nameOf : α → String) (nodes : List α) : Except String String :=
  resolveName missing (.ok hostname) requested (nodes.map nameOf)

theorem resolveBy_found (blank : trimmed requested = "") {name : String}
    (found : (nodes.map nameOf).find? (similar hostname) = some name) : resolveBy missing hostname requested nameOf nodes = .ok name := by
  unfold resolveBy resolveName
  rw [if_neg (not_not.mpr blank)]
  simp only [found]

theorem resolveBy_absent (blank : trimmed requested = "") (absent : (nodes.map nameOf).find? (similar hostname) = none) :
    resolveBy missing hostname requested nameOf nodes =
      .error "unable to determine node name; pass --node-name or set NODE_NAME" := by
  unfold resolveBy resolveName
  rw [if_neg (not_not.mpr blank)]
  simp only [absent]

theorem resolveBy_alone (blank : trimmed requested = "") (alone : Alone nameOf hostname nodes) {node : α}
    (member : node ∈ nodes) (close : similar hostname (nameOf node)) :
    resolveBy missing hostname requested nameOf nodes = .ok (nameOf node) := by
  cases found : (nodes.map nameOf).find? (similar hostname) with
  | none =>
    have apart := List.find?_eq_none.mp found _ (List.mem_map.mpr ⟨node,member,rfl⟩)
    exact absurd close apart
  | some name =>
    obtain ⟨other,present,rfl⟩ := List.mem_map.mp (List.mem_of_find?_eq_some found)
    rw [resolveBy_found blank found,alone other present node member (List.find?_some found) close]

theorem resolveBy_front (blank : trimmed requested = "") {node : α} (close : similar hostname (nameOf node)) (rest : List α) :
    resolveBy missing hostname requested nameOf (node :: rest) = .ok (nameOf node) := by
  apply resolveBy_found blank
  rw [List.map_cons,List.find?_cons_of_pos close]

theorem Alone.perm (alone : Alone nameOf hostname nodes) (perm : nodes.Perm nodes') : Alone nameOf hostname nodes' :=
  fun a first b second => alone a (perm.mem_iff.mpr first) b (perm.mem_iff.mpr second)

theorem exact_iff_alone (blank : trimmed requested = "") :
    Exact (resolveBy missing hostname requested nameOf) nameOf hostname nodes ↔ Alone nameOf hostname nodes := by
  constructor
  · rintro ⟨-,steady⟩ a first b second closeA closeB
    have front : ∀ node ∈ nodes, similar hostname (nameOf node) →
        resolveBy missing hostname requested nameOf nodes = .ok (nameOf node) := by
      intro node member close
      obtain ⟨before,after,rfl⟩ := List.append_of_mem member
      rw [← steady _ List.perm_middle]
      exact resolveBy_front blank close _
    exact Except.ok.inj ((front a first closeA).symm.trans (front b second closeB))
  · intro alone
    constructor
    · intro node member same
      have close : similar hostname (nameOf node) := by
        rw [same]
        exact similar_self hostname
      exact resolveBy_alone blank alone member close
    · intro nodes' perm
      by_cases close : ∃ node ∈ nodes, similar hostname (nameOf node)
      · obtain ⟨node,member,close⟩ := close
        rw [resolveBy_alone blank alone member close,
          resolveBy_alone blank (alone.perm perm) (perm.mem_iff.mp member) close]
      · have absent : ∀ list : List α, nodes.Perm list → (list.map nameOf).find? (similar hostname) = none := by
          intro list perm
          apply List.find?_eq_none.mpr
          intro name listed resembles
          obtain ⟨node,member,rfl⟩ := List.mem_map.mp listed
          exact close ⟨node,perm.mem_iff.mpr member,resembles⟩
        rw [resolveBy_absent blank (absent nodes' perm),resolveBy_absent blank (absent nodes (List.Perm.refl _))]

end Resolve

theorem syncer_resolves (hostname : Except String String) (current : String) (nodes : List Syncer.Node) :
    Syncer.resolveNodeName hostname current nodes =
      resolveName "unable to find node in cache" hostname current (nodes.map Syncer.Node.name) := by
  have listed : (nodes.any fun node => node.name = trimmed current) ↔ trimmed current ∈ nodes.map Syncer.Node.name := by
    rw [List.any_eq_true,List.mem_map]
    simp only [decide_eq_true_eq]
  unfold Syncer.resolveNodeName resolveName
  dsimp only
  simp only [listed]
  split
  · rfl
  · cases hostname with
    | error err => rfl
    | ok hostname =>
      have search := List.find?_map (p := similar hostname) (f := Syncer.Node.name) (l := nodes)
      have same : nodes.find? (fun node => node.name = hostname || hasPrefix node.name hostname || hasPrefix hostname node.name) =
          nodes.find? (similar hostname ∘ Syncer.Node.name) := rfl
      dsimp only
      rw [search,same]
      cases nodes.find? (similar hostname ∘ Syncer.Node.name) with
      | none => rfl
      | some node => rfl

-- Without a configured name either copy is exact for the lists with one node that
-- resembles the host name, and for no others.
theorem node_identity_iff (hostname requested : String) (blank : trimmed requested = "") :
    (∀ nodes, Exact (fun nodes => resolveNodeName (.ok hostname) nodes requested) Node.name hostname nodes ↔
      Alone Node.name hostname nodes) ∧
    ∀ nodes, Exact (Syncer.resolveNodeName (.ok hostname) requested) Syncer.Node.name hostname nodes ↔
      Alone Syncer.Node.name hostname nodes := by
  constructor
  · intro nodes
    exact exact_iff_alone blank
  · intro nodes
    have same : Syncer.resolveNodeName (.ok hostname) requested =
        resolveBy "unable to find node in cache" hostname requested Syncer.Node.name :=
      funext fun nodes => syncer_resolves (.ok hostname) requested nodes
    rw [same]
    exact exact_iff_alone blank

def agentNode (name address : String) : Node := ⟨name,[⟨"InternalIP",address⟩],"",[]⟩

def syncerNode (name : String) : Syncer.Node := ⟨name,[]⟩

theorem worker2_exact :
    Exact (fun nodes => resolveNodeName (.ok "k8s-worker2") nodes " ") Node.name "k8s-worker2"
      [agentNode "k8s-worker1" "10.0.0.1",agentNode "k8s-worker2" "10.0.0.2"] ∧
    Exact (Syncer.resolveNodeName (.ok "k8s-worker2") " ") Syncer.Node.name "k8s-worker2"
      [syncerNode "k8s-worker1",syncerNode "k8s-worker2"] := by
  have identity := node_identity_iff "k8s-worker2" " " (by decide)
  constructor
  · apply (identity.1 _).mpr
    unfold Alone
    decide
  · apply (identity.2 _).mpr
    unfold Alone
    decide

theorem worker10_taken :
    resolveNodeName (.ok "worker10") [agentNode "worker1" "10.0.0.1",agentNode "worker10" "10.0.0.10"] "" = .ok "worker1" ∧
    resolveNodeName (.ok "worker10") [agentNode "worker10" "10.0.0.10",agentNode "worker1" "10.0.0.1"] "" = .ok "worker10" ∧
    Syncer.resolveNodeName (.ok "worker10") "" [syncerNode "worker1",syncerNode "worker10"] = .ok "worker1" ∧
    Syncer.resolveNodeName (.ok "worker10") "" [syncerNode "worker10",syncerNode "worker1"] = .ok "worker10" ∧
    (buildClusterFacts (.ok "worker10") [agentNode "worker1" "10.0.0.1",agentNode "worker10" "10.0.0.10"] "" []).map
      ClusterFacts.nodeIP = .ok "10.0.0.1" := by
  decide

end Aipr.EnvDetect
