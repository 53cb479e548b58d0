import Aipr.Interaction
import Aipr.NodeportOutcome

namespace Aipr.NodeportCalls
open NodeportTc Interaction

-- The helper calls of the program that touch the maps, each of them atomic. What
-- happens to the packet is local to the CPU and stays a function.
inductive MapCall where
  | lookupCt (key : NodeportCtKey)
  | updateCt (key : NodeportCtKey) (value : NodeportCtValue)
  | deleteCt (key : NodeportCtKey)
  | lookupService (key : NodeportKey)
  | lookupConfig
  | lookupFwdCt (key : NodeportFwdCtKey)
  | updateFwdCt (key : NodeportFwdCtKey) (value : NodeportFwdCtValue)
  | lookupRrState (key : NodeportKey)
  | updateRrState (key : NodeportKey) (slot : UInt32)
  | lookupBackend (key : NodeportBackendKey)
  | lookupSnatPort
  | updateSnatPort (next : UInt32)
  | bumpStat (index : StatsIndex)
deriving DecidableEq

@[reducible] def MapCall.Answer : MapCall → Type
  | .lookupCt _ => Option NodeportCtValue
  | .updateCt _ _ => Bool
  | .deleteCt _ => Unit
  | .lookupService _ => Option NodeportValue
  | .lookupConfig => Option NodeportConfig
  | .lookupFwdCt _ => Option NodeportFwdCtValue
  | .updateFwdCt _ _ => Bool
  | .lookupRrState _ => Option UInt32
  | .updateRrState _ _ => Bool
  | .lookupBackend _ => Option NodeportBackendValue
  | .lookupSnatPort => Option UInt32
  | .updateSnatPort _ => Unit
  | .bumpStat _ => Unit

abbrev Calls := Program MapCall MapCall.Answer

abbrev ask (c : MapCall) : Calls c.Answer := Program.perform c

def MapCall.handle (m : Maps) : (c : MapCall) → c.Answer × Maps
  | .lookupCt key => (m.ct.lookup key,m)
  | .updateCt key value => ((m.ct.update key value).isSome,{m with ct := (m.ct.update key value).getD m.ct})
  | .deleteCt key => ((),{m with ct := m.ct.delete key})
  | .lookupService key => (m.service.lookup key,m)
  | .lookupConfig => (m.config,m)
  | .lookupFwdCt key => (m.fwdCt.lookup key,m)
  | .updateFwdCt key value =>
    ((m.fwdCt.update key value).isSome,{m with fwdCt := (m.fwdCt.update key value).getD m.fwdCt})
  | .lookupRrState key => (m.rrState.lookup key,m)
  | .updateRrState key slot =>
    ((m.rrState.update key slot).isSome,{m with rrState := (m.rrState.update key slot).getD m.rrState})
  | .lookupBackend key => (m.backend.lookup key,m)
  | .lookupSnatPort => (m.snatPort,m)
  | .updateSnatPort next => ((),{m with snatPort := some next})
  | .bumpStat index => ((),m.bumpStat index)

structure Result where
  action : Int
  skb : Frame
  redirect : Option UInt32

def bumpStat (index : StatsIndex) : Calls Unit := ask (.bumpStat index)

def updateConntrackEntry (now : UInt64) (ctKey : NodeportCtKey) (clientIp frontendIp : Be32)
    (clientPort frontendPort : Be16) : Calls Bool :=
  ask (.updateCt ctKey ⟨clientIp,frontendIp,clientPort,frontendPort,now⟩)

def redirectOrFallback (ifindex : UInt32) (skb : Frame) : Calls Result :=
  if ifindex > 0 then do
    bumpStat .redirectOk
    return ⟨tcActRedirect,skb,some ifindex⟩
  else do
    bumpStat .redirectFail
    bumpStat .fallbackPass
    return ⟨tcActOk,skb,none⟩

def selectBackend (service : NodeportKey) (serviceMeta : NodeportValue) : Calls (Option NodeportBackendValue) :=
  if serviceMeta.backendCount = 0 then return none
  else do
    let rrSlot := (← ask (.lookupRrState service)).getD 0
    let slot := if rrSlot ≥ serviceMeta.backendCount then 0 else rrSlot
    match ← ask (.lookupBackend ⟨service,slot⟩) with
    | none => return none
    | some backend =>
      let nextSlot := if slot + 1 ≥ serviceMeta.backendCount then 0 else slot + 1
      let _ ← ask (.updateRrState service nextSlot)
      bumpStat .rrUpdate
      return some backend

-- The counter is read and written back by two calls.
def allocateSnatPort : Calls Be16 := do
  let next ← ask .lookupSnatPort
  ask (.updateSnatPort (NodeportTc.allocateSnatPort next).2)
  return (NodeportTc.allocateSnatPort next).1

def rewriteAndRedirect (h : Helpers) (hdr : Headers) (new : Tuple) (counter : StatsIndex) (ifindex : UInt32)
    (skb : Frame) : Calls Result :=
  if (rewriteTuple h skb hdr new).1 = 0 then do
    bumpStat counter
    redirectOrFallback ifindex (rewriteTuple h skb hdr new).2
  else do
    bumpStat .rewriteFail
    bumpStat .fallbackPass
    return ⟨tcActOk,(rewriteTuple h skb hdr new).2,none⟩

def requestEstablished (h : Helpers) (hdr : Headers) (t : Tuple) (fwdState : NodeportFwdCtValue) (skb : Frame) :
    Calls Result := do
  bumpStat .fwdCtHit
  let _ ← updateConntrackEntry h.ktimeGetNs (reverseKey fwdState) t.saddr t.daddr t.sport t.dport
  rewriteAndRedirect h hdr (forwardTarget fwdState) .requestRewrite fwdState.egressIfindex skb

def install (h : Helpers) (hdr : Headers) (t : Tuple) (serviceState : NodeportValue) (backend : NodeportBackendValue)
    (config : Option NodeportConfig) (skb : Frame) : Calls Result := do
  let snatPort ← allocateSnatPort
  let egress := egressIfindex config (serviceKey t) backend
  let ctKey : NodeportCtKey := ⟨backend.address,serviceState.snatIp,backend.port,snatPort,ipprotoTcp,(0,0,0)⟩
  match ← updateConntrackEntry h.ktimeGetNs ctKey t.saddr t.daddr t.sport t.dport with
  | false =>
    bumpStat .mapMiss
    bumpStat .fallbackPass
    return ⟨tcActOk,skb,none⟩
  | true =>
    bumpStat .snatInstall
    match ← ask (.updateFwdCt (forwardKey t) ⟨backend.address,serviceState.snatIp,backend.port,snatPort,egress⟩) with
    | false =>
      ask (.deleteCt ctKey)
      bumpStat .mapMiss
      bumpStat .fallbackPass
      return ⟨tcActOk,skb,none⟩
    | true =>
      bumpStat .newConn
      rewriteAndRedirect h hdr ⟨serviceState.snatIp,backend.address,snatPort,backend.port⟩ .requestRewrite egress skb

def requestNew (h : Helpers) (hdr : Headers) (t : Tuple) (serviceState : NodeportValue)
    (config : Option NodeportConfig) (skb : Frame) : Calls Result := do
  match ← selectBackend (serviceKey t) serviceState with
  | none =>
    bumpStat .backendLookupMiss
    bumpStat .mapMiss
    bumpStat .fallbackPass
    return ⟨0,skb,none⟩
  | some backend =>
    bumpStat .backendSelected
    install h hdr t serviceState backend config skb

def handleRequest (h : Helpers) (hdr : Headers) (skb : Frame) : Calls Result := do
  let t := loadTuple skb hdr
  match ← ask (.lookupService (serviceKey t)) with
  | none => return ⟨-1,skb,none⟩
  | some serviceState =>
    bumpStat .nodeportHit
    let config ← ask .lookupConfig
    match ← ask (.lookupFwdCt (forwardKey t)) with
    | some fwdState => requestEstablished h hdr t fwdState skb
    | none => requestNew h hdr t serviceState config skb

def handleResponse (h : Helpers) (hdr : Headers) (skb : Frame) : Calls Result := do
  let t := loadTuple skb hdr
  match ← ask (.lookupCt (responseKey t)) with
  | none =>
    if isSnatPort t.dport then
      bumpStat .ctLookupMiss
      bumpStat .mapMiss
      bumpStat .fallbackPass
      return ⟨-1,skb,none⟩
    else return ⟨-1,skb,none⟩
  | some ctState =>
    let _ ← updateConntrackEntry h.ktimeGetNs (responseKey t) ctState.clientIp ctState.frontendIp ctState.clientPort
      ctState.frontendPort
    let config ← ask .lookupConfig
    bumpStat .revnatHit
    rewriteAndRedirect h hdr (replyTarget ctState) .responseRewrite (config.elim 0 NodeportConfig.externalIfindex) skb

-- A negative action means that the packet is not the handler's.
def unlessTaken (result : Result) (next : Calls Result) : Calls Result :=
  if result.action ≥ 0 then return result else next

def nodeportTc (h : Helpers) (skb : Frame) : Calls Result :=
  match parseTcpPacket skb with
  | none => return ⟨tcActOk,skb,none⟩
  | some hdr => do
    bumpStat .tcpPackets
    let response ← handleResponse h hdr skb
    unlessTaken response (do
      let request ← handleRequest h hdr skb
      unlessTaken request (return {request with action := tcActOk}))

def atOnce (p : Calls Result) (m : Maps) : Int × Ctx :=
  ((p.run MapCall.handle m).1.action,
    ⟨(p.run MapCall.handle m).1.skb,(p.run MapCall.handle m).2,(p.run MapCall.handle m).1.redirect⟩)

section AtOnce
variable (h : Helpers) (hdr : Headers) (t : Tuple) (skb : Frame) (m : Maps)

@[simp] theorem atOnce_ret (result : Result) : atOnce (.ret result) m = (result.action,⟨result.skb,m,result.redirect⟩) := rfl

@[simp] theorem atOnce_pure (result : Result) : atOnce (pure result) m = (result.action,⟨result.skb,m,result.redirect⟩) := rfl

@[simp] theorem atOnce_call (c : MapCall) (next : c.Answer → Calls Result) :
    atOnce (.call c next) m = atOnce (next (c.handle m).1) (c.handle m).2 := rfl

theorem atOnce_bind (p : Calls α) (f : α → Calls Result) :
    atOnce (p >>= f) m = atOnce (f (p.run MapCall.handle m).1) (p.run MapCall.handle m).2 := by
  simp only [atOnce,Program.run_bind]

theorem redirect_atOnce (ifindex : UInt32) :
    atOnce (redirectOrFallback ifindex skb) m = NodeportTc.redirectOrFallback ifindex ⟨skb,m,none⟩ := by
  unfold redirectOrFallback NodeportTc.redirectOrFallback
  split <;> rfl

theorem rewrite_atOnce (new : Tuple) (counter : StatsIndex) (ifindex : UInt32) :
    atOnce (rewriteAndRedirect h hdr new counter ifindex skb) m =
      NodeportTc.rewriteAndRedirect h hdr new counter ifindex ⟨skb,m,none⟩ := by
  unfold rewriteAndRedirect NodeportTc.rewriteAndRedirect
  dsimp only
  split
  · exact redirect_atOnce _ _ _
  · rfl

theorem established_atOnce (v : NodeportFwdCtValue) :
    atOnce (requestEstablished h hdr t v skb) m = NodeportTc.requestEstablished h hdr t v ⟨skb,m,none⟩ :=
  rewrite_atOnce _ _ _ _ _ _ _

theorem select_atOnce (service : NodeportKey) (serviceMeta : NodeportValue) :
    (selectBackend service serviceMeta).run MapCall.handle m =
      match NodeportTc.selectBackend m service serviceMeta with
      | none => (none,m)
      | some (backend,maps) => (some backend,maps) := by
  unfold selectBackend NodeportTc.selectBackend
  split
  · rfl
  · simp +instances only [ask,Program.perform_bind,Program.run_call,MapCall.handle,lookupBackendSlot]
    cases m.backend.lookup _ with
    | none => rfl
    | some backend => rfl

theorem install_atOnce (serviceState : NodeportValue) (config : Option NodeportConfig) {backend : NodeportBackendValue}
    {m maps : Maps} (selected : NodeportTc.selectBackend m (serviceKey t) serviceState = some (backend,maps)) :
    atOnce (install h hdr t serviceState backend config skb) (maps.bumpStat .backendSelected) =
      NodeportTc.requestNew h hdr t serviceState config ⟨skb,m,none⟩ := by
  simp only [NodeportTc.requestNew,selected,install,allocateSnatPort,ask,Program.perform_bind,Program.call_bind,
    atOnce_call,updateConntrackEntry,NodeportTc.updateConntrackEntry,MapCall.handle,ctx_bumpStat_maps,
    bumpStat_ct,bumpStat_snatPort,bumpStat_fwdCt,Program.pure_bind]
  cases recorded : maps.ct.update _ _ with
  | none => rfl
  | some ct =>
    simp only [Option.isSome_some,bumpStat,ask,Program.perform_bind,atOnce_call,MapCall.handle,bumpStat_fwdCt]
    cases pinned : maps.fwdCt.update _ _ with
    | none => rfl
    | some fwdCt => exact rewrite_atOnce _ _ _ _ _ _ _

theorem new_atOnce (serviceState : NodeportValue) (config : Option NodeportConfig) :
    atOnce (requestNew h hdr t serviceState config skb) m = NodeportTc.requestNew h hdr t serviceState config ⟨skb,m,none⟩ := by
  rw [requestNew,atOnce_bind,select_atOnce]
  cases selected : NodeportTc.selectBackend m (serviceKey t) serviceState with
  | none =>
    rw [NodeportTc.requestNew,selected]
    rfl
  | some pair => exact install_atOnce _ _ _ _ _ _ selected

theorem request_atOnce : atOnce (handleRequest h hdr skb) m = NodeportTc.handleRequest h hdr ⟨skb,m,none⟩ := by
  simp only [handleRequest,NodeportTc.handleRequest,ask,Program.perform_bind,atOnce_call,MapCall.handle]
  cases m.service.lookup (serviceKey (loadTuple skb hdr)) with
  | none => rfl
  | some serviceState =>
    simp only [bumpStat,ask,Program.perform_bind,atOnce_call,MapCall.handle,ctx_bumpStat_maps,bumpStat_fwdCt,bumpStat_config]
    cases m.fwdCt.lookup (forwardKey (loadTuple skb hdr)) with
    | some fwdState => exact established_atOnce _ _ _ _ _ _
    | none => exact new_atOnce _ _ _ _ _ _ _

theorem response_atOnce : atOnce (handleResponse h hdr skb) m = NodeportTc.handleResponse h hdr ⟨skb,m,none⟩ := by
  simp only [handleResponse,NodeportTc.handleResponse,ask,Program.perform_bind,atOnce_call,MapCall.handle]
  cases m.ct.lookup (responseKey (loadTuple skb hdr)) with
  | none =>
    dsimp only
    split <;> rfl
  | some w => exact rewrite_atOnce _ _ _ _ _ _ _

theorem response_declines (declined : ¬ (NodeportTc.handleResponse h hdr ⟨skb,m,none⟩).1 ≥ 0) :
    (NodeportTc.handleResponse h hdr ⟨skb,m,none⟩).2 =
      ⟨skb,(NodeportTc.handleResponse h hdr ⟨skb,m,none⟩).2.maps,none⟩ := by
  unfold NodeportTc.handleResponse at declined ⊢
  dsimp only at declined ⊢
  split
  · split <;> rfl
  · rename_i w found
    rw [found] at declined
    exact absurd (tail_nonneg _ _ _ _ _ _) declined

-- The calls taken one after the other without a break are the program as it was
-- modelled before.
theorem nodeportTc_atOnce : atOnce (nodeportTc h skb) m = NodeportTc.nodeportTc h skb m := by
  unfold nodeportTc NodeportTc.nodeportTc
  cases parseTcpPacket skb with
  | none => rfl
  | some hdr =>
    have response := response_atOnce h hdr skb (m.bumpStat .tcpPackets)
    have declines := response_declines h hdr skb (m.bumpStat .tcpPackets)
    obtain ⟨⟨⟨action,left,redirect⟩,maps⟩,ran⟩ : ∃ answered,
        (handleResponse h hdr skb).run MapCall.handle (m.bumpStat .tcpPackets) = answered := ⟨_,rfl⟩
    rw [atOnce,ran] at response
    rw [← response] at declines
    dsimp only
    rw [← response]
    simp only [bumpStat,ask,Program.perform_bind,atOnce_call,MapCall.handle,atOnce_bind,ran,unlessTaken]
    split
    · rfl
    · rename_i negative
      obtain ⟨rfl,rfl⟩ : left = skb ∧ redirect = none := by simpa using declines negative
      obtain ⟨⟨request,after⟩,ran⟩ : ∃ requested, (handleRequest h hdr left).run MapCall.handle maps = requested := ⟨_,rfl⟩
      rw [← request_atOnce,atOnce_bind,atOnce,atOnce,ran]
      by_cases taken : request.action ≥ 0
      · simp only [if_pos taken,Program.run_pure]
      · simp only [if_neg taken,Program.run_pure]

end AtOnce
end Aipr.NodeportCalls
