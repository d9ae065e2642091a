import QueueAck.Dispatch

/-!
# Acknowledgers

A positive acknowledgement deletes messages, a negative one changes their visibility timeout so that
they are delivered again. Both drain a queue batch by batch, number the entries from a source of
identifiers, and log every entry that the backend refuses. Everything that is logged meanwhile
carries the destination and the operation in its context.
-/

namespace QueueAck

variable {ε : Type}

/-- The context that an operation on a destination adds. -/
def operationContext (destination operation : String) : List (String × Value) :=
  [("destination", .text destination), ("operation", .text operation)]

/-- The entries of a batch. Their identifiers are drawn one by one, in the order of the handles. -/
def numberEntries {m : Type → Type} [Monad m] (draw : m String) (visibilityTimeout : Option Int) :
    List String → m (List BatchEntry)
  | [] => pure []
  | handle :: handles => do
    let id ← draw
    let entries ← numberEntries draw visibilityTimeout handles
    return { id, receiptHandle := handle, visibilityTimeout } :: entries

/-- Logs every entry that a result lists as failed, in order. Identifiers, codes and messages are
texts in all that the services document. Of another value the text is taken as if its integers were
short enough to be written, as they are in whatever was read from the text of a response. -/
def reportFailures (site : Log.Site) (introduction : String) : List EntryFailure → Action ε Unit
  | [] => pure ()
  | f :: fs => do
    Action.report site Log.warning
      (introduction ++ " " ++ f.id.toText ++ ": " ++ f.code.toText ++ " " ++ f.message.toText)
    reportFailures site introduction fs

/-- Deletes messages of one destination. -/
structure Acknowledger (ε : Type) where
  /-- The backend. -/
  client : QueueClient ε
  /-- The source of the entry identifiers. -/
  generator : GeneratorId := .shared

namespace Acknowledger

/-- The place that logs for a positive acknowledgement. -/
def site : Log.Site := ⟨"positive", "action"⟩

/-- Deletes one batch; an empty batch is not sent. -/
def action (a : Acknowledger ε) : BatchAction ε := fun destination handles =>
  if handles.isEmpty then return none
  else do
    let entries ← numberEntries (Action.nextId a.generator) none handles
    let result ← a.client.delete destination entries
    reportFailures site "Could not delete entry" result.failed
    return some result

/-- The dispatcher that drains a queue for the acknowledger. -/
def dispatcher (a : Acknowledger ε) : Dispatcher ε := { action := a.action }

/-- Deletes every item of a queue. -/
def bulk (a : Acknowledger ε) (q : QueueId) (destination : String) : Action ε (List BatchResult) :=
  Action.within (operationContext destination "ack") (a.dispatcher.dispatch q destination)

end Acknowledger

/-- Hands messages of one destination back to it. -/
structure NegativeAcknowledger (ε : Type) where
  /-- The backend. -/
  client : QueueClient ε
  /-- The policy that decides on the time until the next delivery. -/
  policy : Option RetryPolicy := none
  /-- The source of the entry identifiers. -/
  generator : GeneratorId := .shared

namespace NegativeAcknowledger

/-- The place that logs for a negative acknowledgement. -/
def site : Log.Site := ⟨"negative", "action"⟩

/-- Logs which policy is applied to a destination. A delay with too many digits cannot be shown. -/
def reportPolicy (n : NegativeAcknowledger ε) (destination : String) : Action ε Unit :=
  match n.policy with
  | none =>
    Action.report site Log.warning
      ("No retry policy set for " ++ destination ++ ", the messages are retried now.")
  | some p => do
    let delay ← Action.ofExcept (decimalText p.delay)
    Action.report site Log.debug
      ("Retry mode: " ++ p.mode.name ++ ", retry delay: " ++ delay ++ ", destination: " ++
        destination)

/-- Changes the visibility of one batch. An empty batch is not sent, and under the queue's own delay
no batch is. -/
def action (n : NegativeAcknowledger ε) : BatchAction ε := fun destination handles =>
  if handles.isEmpty then return none
  else do
    n.reportPolicy destination
    match resolveDelay n.policy with
    | none =>
      Action.report site Log.debug
        ("Keeping the queue visibility timeout for " ++ handles.length.repr ++ " messages.")
      return none
    | some timeout =>
      let entries ← numberEntries (Action.nextId n.generator) (some timeout) handles
      let result ← n.client.changeVisibility destination entries
      reportFailures site "Could not change the visibility of entry" result.failed
      return some result

/-- The dispatcher that drains a queue for the acknowledger. -/
def dispatcher (n : NegativeAcknowledger ε) : Dispatcher ε := { action := n.action }

/-- Hands every item of a queue back. -/
def bulk (n : NegativeAcknowledger ε) (q : QueueId) (destination : String) :
    Action ε (List BatchResult) :=
  Action.within (operationContext destination "nack") (n.dispatcher.dispatch q destination)

end NegativeAcknowledger
end QueueAck
