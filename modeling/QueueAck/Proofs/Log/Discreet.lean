import QueueAck.Client.PubSub
import QueueAck.Client.Sqs
import QueueAck.Proofs.Submission

/-!
# Discreet clients

A service that leaves the log alone, so that only its client logs. `Loggable` is a conduct that is
about nothing but the log and allows what the two clients of the library log; a discreet client then
conducts itself in this way, whatever the service does (`QueueClient.Discreet.follows`).
-/

namespace QueueAck

variable {ε α : Type}

/-- The log stays as it is. -/
def Action.KeepsLog (a : Action ε α) : Prop := ∀ w, (a.apply w).2.log = w.log

/-- A service that leaves the log alone. -/
def SqsBackend.KeepsLog (b : SqsBackend ε) : Prop := ∀ request, (b.call request).KeepsLog

/-- A subscriber that leaves the log alone. -/
structure Subscriber.KeepsLog (s : Subscriber ε) : Prop where
  /-- Requests do. -/
  call : ∀ request, (s.call request).KeepsLog
  /-- Closing it does. -/
  close : ∀ earlier, (s.close earlier).KeepsLog

/-- A service that leaves the log alone, and so do its subscribers. -/
structure PubSubBackend.KeepsLog (b : PubSubBackend ε) : Prop where
  /-- Opening a subscriber does. -/
  connect : b.connect.KeepsLog
  /-- The subscriber does. -/
  subscriber : ∀ w s w', b.connect.apply w = (.ok s, w') → s.KeepsLog

/-- A client on which nothing is logged but messages of the library. -/
inductive QueueClient.Discreet : QueueClient ε → Prop where
  /-- The client of the library on an SQS service that leaves the log alone. -/
  | sqs (b : SqsBackend ε) (keeps : b.KeepsLog) : Discreet b.client
  /-- The client of the library on a Pub/Sub service that leaves the log alone. -/
  | pubSub (b : PubSubBackend ε) (keeps : b.KeepsLog) : Discreet b.client
  /-- Any client that leaves the log alone. -/
  | other (client : QueueClient ε) (keeps : ∀ call, (client.perform call).KeepsLog) :
    Discreet client

/-- The place is in a client of the library. -/
inductive Log.Site.OfClient : Log.Site → Prop where
  /-- The client on SQS. -/
  | sqs (operation : SqsOperation) : OfClient (SqsBackend.site operation)
  /-- The client on Pub/Sub. -/
  | pubSub (function : String) : OfClient (PubSubBackend.site function)

/-- A conduct that is about the log and allows clients to add to it. -/
structure Loggable (C : Conduct ε) : Prop extends Lasting C where
  /-- Without a change of the log anything may happen. -/
  keeps : ∀ {w w'} o, w'.log = w.log → C w o w'
  /-- A client may log. -/
  report : ∀ {s : Log.Site}, s.OfClient → ∀ w level text exception,
    C w none { w with log := w.log.report (s.record level text exception) }

namespace Loggable

variable {C : Conduct ε}

/-- An action that leaves the log alone, with its failure kept as a value. -/
theorem attempt (h : Loggable C) {a : Action ε α} (ha : a.KeepsLog) : a.attempt.Follows C :=
  fun w ↦ h.keeps none (ha w)

/-- A client that logs. -/
theorem message (h : Loggable C) {s : Log.Site} (hs : s.OfClient) (level : Int) (text : String)
    (exception : Option Trace) :
    (Action.report s level text exception : Action ε Unit).Follows C :=
  fun w ↦ h.report hs w level text exception

/-- Sending a request to SQS. -/
theorem sqs (h : Loggable C) {b : SqsBackend ε} (hb : b.KeepsLog) (request : SqsRequest) :
    (b.send request).Follows C := by
  unfold SqsBackend.send
  split
  · exact h.throw _
  · refine h.bind (h.attempt (hb request)) fun r ↦ ?_
    cases r with
    | ok response => exact h.ofExcept _
    | error f =>
      dsimp only
      split
      · exact h.bind (h.message (.sqs _) _ _ _) fun _ ↦ h.throw _
      · exact h.throw _

variable {b : PubSubBackend ε}

/-- An exchange with Pub/Sub. -/
theorem exchange (h : Loggable C) (hb : b.KeepsLog) (request : PubSubRequest) :
    (b.exchange request).Follows C := by
  refine h.bind_of (h.attempt hb.connect) fun w r w' hr ↦ ?_
  cases r with
  | error f => exact h.refl w'
  | ok s =>
    have opened : b.connect.apply w = (.ok s, w') := by
      rw [Action.apply_attempt] at hr
      obtain ⟨outcome, after⟩ := Prod.mk.inj hr
      exact Prod.ext (Except.ok.inj outcome) after
    have hs := hb.subscriber w s w' opened
    refine h.bind (h.attempt (hs.call request)) (fun r ↦ ?_) w'
    cases r with
    | ok _ =>
      refine h.bind (h.attempt (hs.close none)) fun r ↦ ?_
      cases r <;> exact h.pure _
    | error earlier =>
      refine h.bind (h.attempt (hs.close (some earlier))) fun r ↦ ?_
      cases r <;> exact h.pure _

/-- Making a request to Pub/Sub. -/
theorem pubSub (h : Loggable C) (hb : b.KeepsLog) (function : String) (request : PubSubRequest) :
    (b.send function request).Follows C := by
  refine h.bind (h.exchange hb request) fun r ↦ ?_
  cases r with
  | ok _ => exact h.pure ()
  | error t =>
    dsimp only
    split
    · exact h.bind (h.message (.pubSub _) _ _ _) fun _ ↦ h.throw _
    · exact h.throw _

end Loggable

/-- A discreet client does what a client may do to the log. -/
theorem QueueClient.Discreet.follows {client : QueueClient ε} (hd : client.Discreet)
    {C : Conduct ε} (h : Loggable C) (call : BatchCall) : (client.perform call).Follows C := by
  cases hd with
  | sqs b keeps => cases call <;> exact h.sqs keeps _
  | pubSub b keeps =>
    cases call with
    | changeVisibility destination entries =>
      have lowered (text : String) := h.message (.pubSub PubSubBackend.changeFunction)
        Log.warning text none
      exact h.bind (h.commonDeadline lowered entries) fun _ ↦
        h.bind (h.pubSub keeps _ _) fun _ ↦ h.pure _
    | delete destination entries => exact h.bind (h.pubSub keeps _ _) fun _ ↦ h.pure _
  | other client keeps => exact fun w ↦ h.keeps _ (keeps call w)

end QueueAck
