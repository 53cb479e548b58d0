import Aipr.BoundedMap
import Aipr.ByteOrder

namespace Aipr.NodeportTc

inductive StatsIndex where
  | tcpPackets | nodeportHit | backendSelected | backendLookupMiss | rrUpdate | snatInstall
  | requestRewrite | revnatHit | ctLookupMiss | responseRewrite | sameNodeSkip | fwdCtHit
  | newConn | mapMiss | rewriteFail | redirectOk | redirectFail | fallbackPass
deriving DecidableEq, Repr

def ipprotoTcp : UInt8 := 6
def nodeportSnatMin : UInt32 := 40000
def nodeportSnatMax : UInt32 := 60999

structure NodeportKey where
  address : Be32
  port : Be16
  proto : UInt8
  pad : UInt8
deriving DecidableEq, Repr, Inhabited

structure NodeportValue where
  backendCount : UInt32
  flags : UInt32
  snatIp : Be32
deriving DecidableEq, Repr, Inhabited

structure NodeportBackendKey where
  service : NodeportKey
  slot : UInt32
deriving DecidableEq, Repr, Inhabited

structure NodeportBackendValue where
  address : Be32
  port : Be16
  pad : UInt8 × UInt8
  nodeIp : Be32
deriving DecidableEq, Repr, Inhabited

structure NodeportCtKey where
  backendIp : Be32
  nodeIp : Be32
  backendPort : Be16
  snatPort : Be16
  proto : UInt8
  pad : UInt8 × UInt8 × UInt8
deriving DecidableEq, Repr, Inhabited

structure NodeportCtValue where
  clientIp : Be32
  frontendIp : Be32
  clientPort : Be16
  frontendPort : Be16
  lastSeenNs : UInt64
deriving DecidableEq, Repr, Inhabited

structure NodeportFwdCtKey where
  clientIp : Be32
  frontendIp : Be32
  clientPort : Be16
  frontendPort : Be16
  proto : UInt8
  pad : UInt8 × UInt8 × UInt8
deriving DecidableEq, Repr, Inhabited

structure NodeportFwdCtValue where
  backendIp : Be32
  snatIp : Be32
  backendPort : Be16
  snatPort : Be16
  egressIfindex : UInt32
deriving DecidableEq, Repr, Inhabited

structure NodeportConfig where
  externalIfindex : UInt32
  localDeliveryIfindex : UInt32
  remoteDeliveryIfindex : UInt32
  routingMode : UInt32
deriving DecidableEq, Repr, Inhabited

abbrev ServiceMap := BoundedMap NodeportKey NodeportValue 512
abbrev BackendMap := BoundedMap NodeportBackendKey NodeportBackendValue 4096
abbrev RrStateMap := BoundedMap NodeportKey UInt32 512
abbrev CtMap := BoundedMap NodeportCtKey NodeportCtValue 16384
abbrev FwdCtMap := BoundedMap NodeportFwdCtKey NodeportFwdCtValue 16384

-- The two one-element arrays are options because the program tests their lookups; the
-- counters are sums over the CPUs and unbounded.
structure Maps where
  service : ServiceMap
  backend : BackendMap
  rrState : RrStateMap
  ct : CtMap
  fwdCt : FwdCtMap
  snatPort : Option UInt32
  config : Option NodeportConfig
  stats : StatsIndex → Nat

def Maps.empty : Maps := ⟨.empty,.empty,.empty,.empty,.empty,some 0,none,fun _ => 0⟩

def Maps.bumpStat (m : Maps) (index : StatsIndex) : Maps :=
  {m with stats := fun other => if other = index then m.stats other + 1 else m.stats other}

section Bump
variable (m : Maps) (index : StatsIndex)

@[simp] theorem bumpStat_service : (m.bumpStat index).service = m.service := rfl
@[simp] theorem bumpStat_backend : (m.bumpStat index).backend = m.backend := rfl
@[simp] theorem bumpStat_rrState : (m.bumpStat index).rrState = m.rrState := rfl
@[simp] theorem bumpStat_ct : (m.bumpStat index).ct = m.ct := rfl
@[simp] theorem bumpStat_fwdCt : (m.bumpStat index).fwdCt = m.fwdCt := rfl
@[simp] theorem bumpStat_snatPort : (m.bumpStat index).snatPort = m.snatPort := rfl
@[simp] theorem bumpStat_config : (m.bumpStat index).config = m.config := rfl
@[simp] theorem bumpStat_stats (other : StatsIndex) :
    (m.bumpStat index).stats other = if other = index then m.stats other + 1 else m.stats other := rfl
end Bump

def isSnatPort (port : Be16) : Bool :=
  nodeportSnatMin.toNat ≤ ntohs port && ntohs port ≤ nodeportSnatMax.toNat

end Aipr.NodeportTc
