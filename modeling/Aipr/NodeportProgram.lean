import Aipr.NodeportPacket

namespace Aipr.NodeportTc

def tcActOk : Int := 0
def tcActRedirect : Int := 7

structure Ctx where
  skb : Frame
  maps : Maps
  redirect : Option UInt32

def Ctx.bumpStat (c : Ctx) (index : StatsIndex) : Ctx := {c with maps := c.maps.bumpStat index}

@[simp] theorem ctx_bumpStat_maps (c : Ctx) (index : StatsIndex) : (c.bumpStat index).maps = c.maps.bumpStat index := rfl
@[simp] theorem ctx_bumpStat_skb (c : Ctx) (index : StatsIndex) : (c.bumpStat index).skb = c.skb := rfl

def serviceKey (t : Tuple) : NodeportKey := ⟨t.daddr,t.dport,ipprotoTcp,0⟩

def forwardKey (t : Tuple) : NodeportFwdCtKey := ⟨t.saddr,t.daddr,t.sport,t.dport,ipprotoTcp,(0,0,0)⟩

def responseKey (t : Tuple) : NodeportCtKey := ⟨t.saddr,t.daddr,t.sport,t.dport,ipprotoTcp,(0,0,0)⟩

def reverseKey (v : NodeportFwdCtValue) : NodeportCtKey :=
  ⟨v.backendIp,v.snatIp,v.backendPort,v.snatPort,ipprotoTcp,(0,0,0)⟩

-- The result of bpf_map_update_elem: none when it is negative.
def updateConntrackEntry (now : UInt64) (ct : CtMap) (ctKey : NodeportCtKey) (clientIp frontendIp : Be32)
    (clientPort frontendPort : Be16) : Option CtMap :=
  ct.update ctKey ⟨clientIp,frontendIp,clientPort,frontendPort,now⟩

def redirectOrFallback (ifindex : UInt32) (c : Ctx) : Int × Ctx :=
  if ifindex > 0 then
    (tcActRedirect,{c.bumpStat .redirectOk with redirect := some ifindex})
  else
    (tcActOk,(c.bumpStat .redirectFail).bumpStat .fallbackPass)

def lookupBackendSlot (m : Maps) (service : NodeportKey) (slot : UInt32) : Option NodeportBackendValue :=
  m.backend.lookup ⟨service,slot⟩

def selectBackend (m : Maps) (service : NodeportKey) (serviceMeta : NodeportValue) :
    Option (NodeportBackendValue × Maps) :=
  if serviceMeta.backendCount = 0 then none
  else
    let rrSlot := (m.rrState.lookup service).getD 0
    let slot := if rrSlot ≥ serviceMeta.backendCount then 0 else rrSlot
    match lookupBackendSlot m service slot with
    | none => none
    | some backend =>
      let nextSlot := if slot + 1 ≥ serviceMeta.backendCount then 0 else slot + 1
      -- the result of this update is not looked at
      let rrState := (m.rrState.update service nextSlot).getD m.rrState
      some (backend,{m with rrState := rrState}.bumpStat .rrUpdate)

def allocateSnatPort (next : Option UInt32) : Be16 × UInt32 :=
  match next with
  | none => (htons nodeportSnatMin.toUInt16,nodeportSnatMin + 1)
  | some next =>
    let port := if next < nodeportSnatMin ∨ next > nodeportSnatMax then nodeportSnatMin else next
    let newNext := if port + 1 > nodeportSnatMax then nodeportSnatMin else port + 1
    (htons port.toUInt16,newNext)

def rewriteAndRedirect (h : Helpers) (hdr : Headers) (new : Tuple) (counter : StatsIndex) (ifindex : UInt32)
    (c : Ctx) : Int × Ctx :=
  let (code,skb) := rewriteTuple h c.skb hdr new
  let c := {c with skb := skb}
  if code = 0 then redirectOrFallback ifindex (c.bumpStat counter)
  else (tcActOk,(c.bumpStat .rewriteFail).bumpStat .fallbackPass)

def forwardTarget (v : NodeportFwdCtValue) : Tuple := ⟨v.snatIp,v.backendIp,v.snatPort,v.backendPort⟩

def replyTarget (w : NodeportCtValue) : Tuple := ⟨w.frontendIp,w.clientIp,w.frontendPort,w.clientPort⟩

def egressIfindex (config : Option NodeportConfig) (service : NodeportKey) (backend : NodeportBackendValue) : UInt32 :=
  match config with
  | none => 0
  | some config =>
    if backend.nodeIp = service.address then config.localDeliveryIfindex else config.remoteDeliveryIfindex

-- handle_request on a forward conntrack hit; a failed refresh of the reverse
-- entry goes unnoticed.
def requestEstablished (h : Helpers) (hdr : Headers) (t : Tuple) (fwdState : NodeportFwdCtValue) (c : Ctx) : Int × Ctx :=
  let c := c.bumpStat .fwdCtHit
  let refreshed := updateConntrackEntry h.ktimeGetNs c.maps.ct (reverseKey fwdState) t.saddr t.daddr t.sport t.dport
  let c := {c with maps := {c.maps with ct := refreshed.getD c.maps.ct}}
  rewriteAndRedirect h hdr (forwardTarget fwdState) .requestRewrite fwdState.egressIfindex c

def requestNew (h : Helpers) (hdr : Headers) (t : Tuple) (serviceState : NodeportValue)
    (config : Option NodeportConfig) (c : Ctx) : Int × Ctx :=
  match selectBackend c.maps (serviceKey t) serviceState with
  | none => (0,((c.bumpStat .backendLookupMiss).bumpStat .mapMiss).bumpStat .fallbackPass)
  | some (backend,maps) =>
    let c := {c with maps := maps}.bumpStat .backendSelected
    let (snatPort,newNext) := allocateSnatPort c.maps.snatPort
    let c := {c with maps := {c.maps with snatPort := some newNext}}
    let egress := egressIfindex config (serviceKey t) backend
    let ctKey : NodeportCtKey :=
      ⟨backend.address,serviceState.snatIp,backend.port,snatPort,ipprotoTcp,(0,0,0)⟩
    match updateConntrackEntry h.ktimeGetNs c.maps.ct ctKey t.saddr t.daddr t.sport t.dport with
    | none => (tcActOk,(c.bumpStat .mapMiss).bumpStat .fallbackPass)
    | some ct =>
      let c := {c with maps := {c.maps with ct := ct}}.bumpStat .snatInstall
      let fwdValue : NodeportFwdCtValue :=
        ⟨backend.address,serviceState.snatIp,backend.port,snatPort,egress⟩
      match c.maps.fwdCt.update (forwardKey t) fwdValue with
      | none =>
        let c := {c with maps := {c.maps with ct := c.maps.ct.delete ctKey}}
        (tcActOk,(c.bumpStat .mapMiss).bumpStat .fallbackPass)
      | some fwdCt =>
        let c := {c with maps := {c.maps with fwdCt := fwdCt}}.bumpStat .newConn
        rewriteAndRedirect h hdr ⟨serviceState.snatIp,backend.address,snatPort,backend.port⟩ .requestRewrite egress c

def handleRequest (h : Helpers) (hdr : Headers) (c : Ctx) : Int × Ctx :=
  let t := loadTuple c.skb hdr
  match c.maps.service.lookup (serviceKey t) with
  | none => (-1,c)
  | some serviceState =>
    let c := c.bumpStat .nodeportHit
    let config := c.maps.config
    match c.maps.fwdCt.lookup (forwardKey t) with
    | some fwdState => requestEstablished h hdr t fwdState c
    | none => requestNew h hdr t serviceState config c

def handleResponse (h : Helpers) (hdr : Headers) (c : Ctx) : Int × Ctx :=
  let t := loadTuple c.skb hdr
  match c.maps.ct.lookup (responseKey t) with
  | none =>
    if isSnatPort t.dport then
      (-1,((c.bumpStat .ctLookupMiss).bumpStat .mapMiss).bumpStat .fallbackPass)
    else (-1,c)
  | some ctState =>
    let refreshed := updateConntrackEntry h.ktimeGetNs c.maps.ct (responseKey t) ctState.clientIp
      ctState.frontendIp ctState.clientPort ctState.frontendPort
    let c := {c with maps := {c.maps with ct := refreshed.getD c.maps.ct}}
    let config := c.maps.config
    let c := c.bumpStat .revnatHit
    rewriteAndRedirect h hdr (replyTarget ctState) .responseRewrite
      (config.elim 0 NodeportConfig.externalIfindex) c

def nodeportTc (h : Helpers) (skb : Frame) (m : Maps) : Int × Ctx :=
  match parseTcpPacket skb with
  | none => (tcActOk,⟨skb,m,none⟩)
  | some hdr =>
    let (action,c) := handleResponse h hdr ⟨skb,m.bumpStat .tcpPackets,none⟩
    if action ≥ 0 then (action,c)
    else
      let (action,c) := handleRequest h hdr c
      if action ≥ 0 then (action,c) else (tcActOk,c)

def outSkb (h : Helpers) (skb : Frame) (m : Maps) : Frame := (nodeportTc h skb m).2.skb
def outMaps (h : Helpers) (skb : Frame) (m : Maps) : Maps := (nodeportTc h skb m).2.maps

end Aipr.NodeportTc
