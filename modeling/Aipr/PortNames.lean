import Aipr.Candidates

namespace Aipr.Syncer
open FirstPerKey

abbrev SlicePort := Option String × Int32

section Ports
variable (servicePort : ServicePort) (slice : EndpointSlice)

def namedPorts : List SlicePort :=
  if servicePort.name ≠ "" then (tcpPorts slice).filter fun port => port.1 = some servicePort.name else []

def targetedPorts : List SlicePort :=
  match servicePort.targetPort with
  | .int target => if target ≠ 0 then (tcpPorts slice).filter fun port => port.2 = target else []
  | .string _ => []

def matchingPorts : List SlicePort :=
  if namedPorts servicePort slice ≠ [] then namedPorts servicePort slice
  else if targetedPorts servicePort slice ≠ [] then targetedPorts servicePort slice
  else if (tcpPorts slice).length = 1 then tcpPorts slice
  else (tcpPorts slice).filter fun port => port.2 = servicePort.port

theorem matchingSlicePorts_numbers : matchingSlicePorts servicePort slice = (matchingPorts servicePort slice).map Prod.snd := by
  simp only [matchingPorts,apply_ite (List.map Prod.snd)]
  rfl

def CarriesName (port : SlicePort) : Prop := servicePort.name ≠ "" ∧ port.1 = some servicePort.name

def CarriesTarget (port : SlicePort) : Prop := servicePort.targetPort = .int port.2 ∧ port.2 ≠ 0

-- The rules in their order, each with those that have to fail before it is asked.
inductive Offers (port : SlicePort) : Prop where
  | named (listed : port ∈ tcpPorts slice) (here : CarriesName servicePort port)
  | targeted (unnamed : ∀ other ∈ tcpPorts slice, ¬ CarriesName servicePort other) (listed : port ∈ tcpPorts slice)
      (here : CarriesTarget servicePort port)
  | sole (unnamed : ∀ other ∈ tcpPorts slice, ¬ CarriesName servicePort other)
      (untargeted : ∀ other ∈ tcpPorts slice, ¬ CarriesTarget servicePort other) (alone : tcpPorts slice = [port])
  | numbered (unnamed : ∀ other ∈ tcpPorts slice, ¬ CarriesName servicePort other)
      (untargeted : ∀ other ∈ tcpPorts slice, ¬ CarriesTarget servicePort other) (several : (tcpPorts slice).length ≠ 1)
      (listed : port ∈ tcpPorts slice) (here : port.2 = servicePort.port)

end Ports

section Exact
variable {servicePort : ServicePort} {slice : EndpointSlice} {port : SlicePort}

theorem mem_namedPorts : port ∈ namedPorts servicePort slice ↔ port ∈ tcpPorts slice ∧ CarriesName servicePort port := by
  unfold namedPorts CarriesName
  split
  · rename_i wanted
    simp [wanted]
  · rename_i unwanted
    simp [unwanted]

theorem mem_targetedPorts : port ∈ targetedPorts servicePort slice ↔ port ∈ tcpPorts slice ∧ CarriesTarget servicePort port := by
  unfold targetedPorts CarriesTarget
  cases servicePort.targetPort with
  | string _ => simp
  | int target =>
    dsimp only
    split
    · rename_i numeric
      rw [List.mem_filter,decide_eq_true_eq,IntOrString.int.injEq]
      exact and_congr_right fun _ => ⟨fun same => ⟨same.symm,same ▸ numeric⟩,fun same => same.1.symm⟩
    · rename_i unset
      rw [ne_eq,not_not] at unset
      refine iff_of_false List.not_mem_nil ?_
      rintro ⟨_,same,numeric⟩
      exact numeric (IntOrString.int.inj same ▸ unset)

theorem namedPorts_nil : namedPorts servicePort slice = [] ↔ ∀ other ∈ tcpPorts slice, ¬ CarriesName servicePort other := by
  simp only [List.eq_nil_iff_forall_not_mem,mem_namedPorts,not_and]

theorem targetedPorts_nil : targetedPorts servicePort slice = [] ↔ ∀ other ∈ tcpPorts slice, ¬ CarriesTarget servicePort other := by
  simp only [List.eq_nil_iff_forall_not_mem,mem_targetedPorts,not_and]

theorem matchingPorts_exact : port ∈ matchingPorts servicePort slice ↔ Offers servicePort slice port := by
  unfold matchingPorts
  constructor
  · intro member
    split at member
    · rw [mem_namedPorts] at member
      exact .named member.1 member.2
    rename_i named
    have unnamed := namedPorts_nil.mp (not_not.mp named)
    split at member
    · rw [mem_targetedPorts] at member
      exact .targeted unnamed member.1 member.2
    rename_i targeted
    have untargeted := targetedPorts_nil.mp (not_not.mp targeted)
    split at member
    · rename_i single
      obtain ⟨other,alone⟩ := List.length_eq_one_iff.mp single
      rw [alone,List.mem_singleton] at member
      exact .sole unnamed untargeted (member ▸ alone)
    · rename_i several
      rw [List.mem_filter,decide_eq_true_eq] at member
      exact .numbered unnamed untargeted several member.1 member.2
  · intro offered
    cases offered with
    | named listed here =>
      have member := mem_namedPorts.mpr ⟨listed,here⟩
      rwa [if_pos (List.ne_nil_of_mem member)]
    | targeted unnamed listed here =>
      have member := mem_targetedPorts.mpr ⟨listed,here⟩
      rwa [if_neg (not_not.mpr (namedPorts_nil.mpr unnamed)),if_pos (List.ne_nil_of_mem member)]
    | sole unnamed untargeted alone =>
      rw [if_neg (not_not.mpr (namedPorts_nil.mpr unnamed)),if_neg (not_not.mpr (targetedPorts_nil.mpr untargeted)),alone,
        if_pos (List.length_singleton)]
      exact List.mem_singleton_self port
    | numbered unnamed untargeted several listed here =>
      rw [if_neg (not_not.mpr (namedPorts_nil.mpr unnamed)),if_neg (not_not.mpr (targetedPorts_nil.mpr untargeted)),
        if_neg several,List.mem_filter,decide_eq_true_eq]
      exact ⟨listed,here⟩

theorem Offers.has_name (offered : Offers servicePort slice port) {other : SlicePort} (listed : other ∈ tcpPorts slice)
    (here : CarriesName servicePort other) : CarriesName servicePort port := by
  cases offered with
  | named _ same => exact same
  | targeted unnamed _ _ => exact absurd here (unnamed other listed)
  | sole unnamed _ _ => exact absurd here (unnamed other listed)
  | numbered unnamed _ _ _ _ => exact absurd here (unnamed other listed)

end Exact

-- A service port is offered the ports of its name of every slice that has any; of
-- a slice that has none, what the numbers say or the only port there is.
theorem offered_ports (servicePort : ServicePort) (slices : List EndpointSlice) (nodeIPs : AList (fun _ : String => String)) :
    (∀ slice, matchingSlicePorts servicePort slice = (matchingPorts servicePort slice).map Prod.snd ∧
      (∀ port, port ∈ matchingPorts servicePort slice ↔ Offers servicePort slice port) ∧
      ((∃ other ∈ tcpPorts slice, CarriesName servicePort other) →
        ∀ port ∈ matchingPorts servicePort slice, port.1 = some servicePort.name)) ∧
    ∀ b ∈ collectBackends servicePort slices nodeIPs, ∃ slice ∈ slices, ∃ port, Offers servicePort slice port ∧ b.port = port.2 := by
  constructor
  · refine fun slice => ⟨matchingSlicePorts_numbers servicePort slice,fun port => matchingPorts_exact,?_⟩
    rintro ⟨other,listed,here⟩ port member
    exact ((matchingPorts_exact.mp member).has_name listed here).2
  · intro b collected
    obtain ⟨slice,listed,_,_,_,number,matched,rfl⟩ := mem_candidates.mp (mem_of_firsts (mem_collectBackends.mp collected)).1
    rw [matchingSlicePorts_numbers,List.mem_map] at matched
    obtain ⟨port,member,rfl⟩ := matched
    exact ⟨slice,listed,port,matchingPorts_exact.mp member,rfl⟩

section Examples

def web : ServicePort := ⟨"web","TCP",80,.string "web",30080⟩

def metricsOnly : EndpointSlice := ⟨"default","shop",[⟨some "metrics",some "TCP",some 9090⟩],[]⟩

theorem web_gets_metrics : ¬ ∀ (servicePort : ServicePort) (slice : EndpointSlice), servicePort.name ≠ "" →
    ∀ port ∈ matchingPorts servicePort slice, port.1 = none ∨ port.1 = some "" ∨ port.1 = some servicePort.name := by
  intro always
  have named := always web metricsOnly (by decide) (some "metrics",9090) (by decide)
  revert named
  decide

end Examples
end Aipr.Syncer
