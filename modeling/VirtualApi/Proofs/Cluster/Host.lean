import VirtualApi.Cluster.Basic
import VirtualApi.Proofs.Cluster.Resolution

/-!
# How a host cluster answers

A question to a host cluster is sent under its URI, and the reply of the transport answers it when
it comes in time and can be read. A kind that is known already is found without a question.
-/

namespace VirtualApi.HostCluster

variable {α : Type} {transport : Transport} {ctx : RequestContext} {text uri : String}
  {read : RawReader α} {a : α} {w : World}

/-- The world after a reply came. -/
def replied (transport : Transport) (uri : String) (w : World) : World :=
  { w.emit (.sent "GET" uri none) with now := w.now + (transport "GET" uri).latency }

/-- A reply without an error status carries what is read from its text. -/
theorem read_reply_eq_ok {reply : Reply} (hstatus : reply.status < 400)
    (h : read.ofText? reply.text.toList = some a) : Transport.readReply read reply = .ok a := by
  have herror : ¬(400 ≤ reply.status ∧ reply.status < 600) := by omega
  unfold Transport.readReply
  rw [if_neg herror, h]

/-- A reply that comes before the request is over and can be read is the answer. -/
theorem ask_of_reply (huri : Uri.ofText text = .ok uri)
    (hread : Transport.readReply read (transport "GET" uri) = .ok a)
    (hlive : ctx.abort? (w.now + (transport "GET" uri).latency) = none) :
    ask transport ctx text read w = (.ok a, replied transport uri w) := by
  have hnow := RequestContext.abort_eq_none_of_le (Nat.le_add_right _ _) hlive
  have hsend : transport.send "GET" uri none ctx.horizon? w =
      (.ok (transport "GET" uri), replied transport uri w) :=
    RequestContext.emit_wait_apply hlive
  refine RequestContext.run_of_ok hnow ?_
  unfold Transport.get
  rw [huri]
  show (do
      let reply ← transport.send "GET" uri none
      Call.answer ((Transport.readReply read reply).mapError TransportError.toApiError) : Call α)
      ctx.horizon? w = _
  rw [Call.bind_apply, hsend]
  show Call.answer ((Transport.readReply read (transport "GET" uri)).mapError _) _ _ = _
  rw [hread]
  rfl

/-- A kind that is known is found without a question. -/
theorem resolve_of_known {gvk : GroupVersionKind} {resource : ResourceId}
    (h : Mapper.byGvk? (Mapper.known w) gvk = some resource) :
    resolve transport ctx gvk w = (.ok resource, w) :=
  Mapper.resolve_of_known h

end VirtualApi.HostCluster
