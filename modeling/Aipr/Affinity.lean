import Aipr.BackendUpdate
import Aipr.ReplyPath

namespace Aipr.Affinity
open NodeportTc Syncer Transition SyncSystem Convergence BackendUpdate ReplyPath

theorem act_fwdCt {m m' : Maps} {p p' : Proc} {action : Action} (step : act m p action = some (m',p')) :
    m'.fwdCt = m.fwdCt := by
  cases act_cases step with
  | configCall _ done => exact (apply_conntrack done).2
  | entryCall _ done => exact (apply_conntrack done).2
  | _ => rfl

theorem packet_fwdCt {h : Helpers} {skb : Frame} {m : Maps} {k : NodeportFwdCtKey} {v : NodeportFwdCtValue}
    (owned : m.fwdCt.lookup k = some v) : (outMaps h skb m).fwdCt.lookup k = some v := by
  cases parsed : parseTcpPacket skb with
  | none =>
    rw [outMaps,unparsed_out parsed]
    exact owned
  | some hdr =>
    obtain ⟨target,out⟩ := nodeportTc_outcome (h := h) (m := m) parsed
    have step := out.handled
    change (nodeportTc h skb m).2.maps.fwdCt.lookup k = some v
    generalize (nodeportTc h skb m).2.maps.ct = ct,(nodeportTc h skb m).2.maps.fwdCt = fwdCt,
      (nodeportTc h skb m).2.maps.snatPort = snatPort at step ⊢
    cases step with
    | installed _ picked _ pinned =>
      have apart : k ≠ forwardKey (loadTuple skb hdr) := by
        rintro rfl
        cases owned.symm.trans (chosen_unowned picked)
      rwa [BoundedMap.lookup_update pinned,if_neg apart]
    | _ => exact owned

section Run
variable {ω : Type} [DecidableEq ω] {s next : State ω} {k : NodeportFwdCtKey} {v : NodeportFwdCtValue}

theorem owned_advance {label : Label ω} (owned : s.maps.fwdCt.lookup k = some v) (step : advance s label = some next)
    (kept : label ≠ .deleteFwd k) : next.maps.fwdCt.lookup k = some v := by
  cases label with
  | packet h skb =>
    cases step
    exact packet_fwdCt owned
  | deleteCT r =>
    cases step
    exact owned
  | deleteFwd other =>
    cases step
    have apart : k ≠ other := fun same => kept (same ▸ rfl)
    exact (BoundedMap.lookup_delete _ _ _).trans ((if_neg apart).trans owned)
  | sync who action =>
    obtain ⟨⟨m',p'⟩,taken,rfl⟩ := Option.map_eq_some_iff.mp step
    change m'.fwdCt.lookup k = some v
    rwa [act_fwdCt taken]

theorem owned_runs {inputs : List (Label ω)} (owned : s.maps.fwdCt.lookup k = some v) (run : Runs advance s inputs next)
    (kept : .deleteFwd k ∉ inputs) : next.maps.fwdCt.lookup k = some v := by
  let Kept (past : List (Label ω)) (s : State ω) : Prop := .deleteFwd k ∉ past → s.maps.fwdCt.lookup k = some v
  have held : Kept inputs next := by
    refine run.invariant (fun _ => owned) fun past s label next earlier step kept => ?_
    rw [List.mem_append,List.mem_singleton,not_or] at kept
    exact owned_advance (earlier kept.1) step (Ne.symm kept.2)
  exact held kept

end Run

section Packet
variable {h : Helpers} {skb : Frame} {hdr : Headers} {m : Maps} {v : NodeportFwdCtValue}

-- Whichever branch rewrites a request, it follows the forward entry that is
-- there when the packet has gone.
theorem rewritten_pinned (parsed : parseTcpPacket skb = some hdr) (rewritten : RewritesRequest h skb m)
    (pinned : (outMaps h skb m).fwdCt.lookup (forwardKey (loadTuple skb hdr)) = some v) :
    loadTuple (outSkb h skb m) hdr = forwardTarget v := by
  obtain ⟨target,out⟩ := nodeportTc_outcome (h := h) (m := m) parsed
  obtain ⟨rw,rfl,counter,done⟩ := (rewrites_iff out).mp rewritten
  rw [sent_tuple parsed out done]
  have step := out.handled
  change (nodeportTc h skb m).2.maps.fwdCt.lookup _ = _ at pinned
  generalize (nodeportTc h skb m).2.maps.ct = ct,(nodeportTc h skb m).2.maps.fwdCt = fwdCt,
    (nodeportTc h skb m).2.maps.snatPort = snatPort at step pinned
  cases step with
  | response _ _ => cases counter
  | established _ _ owned _ =>
    cases Option.some.inj (owned.symm.trans pinned)
    rfl
  | unrefreshed _ _ owned _ =>
    cases Option.some.inj (owned.symm.trans pinned)
    rfl
  | installed _ _ _ updated =>
    rw [BoundedMap.lookup_update updated,if_pos rfl] at pinned
    cases Option.some.inj pinned
    rfl

end Packet

-- The packet that installs the entry and every later packet of its tuple go the
-- same way, until the entry is deleted.
theorem affinity {ω : Type} [DecidableEq ω] {before opened later : State ω} {h h' : Helpers} {skb skb' : Frame}
    {hdr hdr' : Headers} {v : NodeportFwdCtValue} {inputs : List (Label ω)}
    (step : advance before (.packet h skb) = some opened) (parsed : parseTcpPacket skb = some hdr)
    (pinned : opened.maps.fwdCt.lookup (forwardKey (loadTuple skb hdr)) = some v)
    (run : Runs advance opened inputs later) (kept : .deleteFwd (forwardKey (loadTuple skb hdr)) ∉ inputs)
    (parsed' : parseTcpPacket skb' = some hdr') (same : forwardKey (loadTuple skb' hdr') = forwardKey (loadTuple skb hdr))
    (rewritten : RewritesRequest h' skb' later.maps) :
    (RewritesRequest h skb before.maps → loadTuple (outSkb h skb before.maps) hdr = forwardTarget v) ∧
      loadTuple (outSkb h' skb' later.maps) hdr' = forwardTarget v := by
  cases step
  constructor
  · intro first
    exact rewritten_pinned parsed first pinned
  · refine rewritten_pinned parsed' rewritten (packet_fwdCt ?_)
    rw [same]
    exact owned_runs pinned run kept

-- The client's connection outlives the reconcile that shrinks its service.
def called (s : State Unit) : State Unit := {s with maps := outMaps (plainHelpers 5) (tcpFrame caller) s.maps}

def podGone : List (Label Unit) := smallShopComes 6 ++ [.sync () .finish]

theorem caller_affinity : ∃ before later : State Unit, Runs advance (start .empty) shopComes before ∧
    Runs advance (called before) podGone later ∧
    loadTuple (outSkb (plainHelpers 9) (tcpFrame caller) later.maps) ⟨14,34⟩ = forwardTarget callerPin := by
  have first : (shopComes.foldlM advance (start .empty)).map (fun s => (called s).maps.fwdCt.lookup (forwardKey caller)) =
      some (some callerPin) := by decide
  have second : (shopComes.foldlM advance (start .empty)).map (fun s => (podGone.foldlM advance (called s)).map fun s =>
      ((outMaps (plainHelpers 9) (tcpFrame caller) s.maps).stats .requestRewrite,s.maps.stats .requestRewrite)) =
      some (some (2,1)) := by decide
  cases done : shopComes.foldlM advance (start .empty) with
  | none =>
    rw [done] at first
    cases first
  | some before =>
    rw [done] at first second
    simp only [Option.map_some,Option.some.injEq] at first second
    obtain ⟨later,done',counts⟩ := Option.map_eq_some_iff.mp second
    obtain ⟨after,prior⟩ := Prod.mk.inj counts
    have step : advance before (.packet (plainHelpers 5) (tcpFrame caller)) = some (called before) := rfl
    have rewritten : RewritesRequest (plainHelpers 9) (tcpFrame caller) later.maps :=
      after.trans (congrArg (· + 1) prior).symm
    have kept : .deleteFwd (forwardKey caller) ∉ podGone := by simp [podGone,smallShopComes]
    exact ⟨before,later,Runs.of_fold done,Runs.of_fold done',
      (affinity step (tcpFrame_parse caller) first (Runs.of_fold done') kept (tcpFrame_parse caller) rfl rewritten).2⟩

end Aipr.Affinity
