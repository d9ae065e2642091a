import QueueAck.World

/-!
# The Pub/Sub client

A queue client on a Pub/Sub subscription. A request has one deadline for all its entries and
succeeds or fails as a whole. Each call opens a subscriber of its own and closes it again, also when
the request failed; a failure of closing takes the place of that of the request. An error of Pub/Sub
that is left in the end is logged and reported as a failed batch call.
-/

namespace QueueAck

/-- The longest deadline that Pub/Sub accepts, in seconds. -/
def maxAckDeadline : Int := 600

/-- A request to Pub/Sub. -/
inductive PubSubRequest where
  /-- Sets the deadline of messages. -/
  | modifyDeadline (subscription : String) (ackIds : List String) (seconds : Int)
  /-- Acknowledges messages. -/
  | acknowledge (subscription : String) (ackIds : List String)
deriving DecidableEq, Repr

namespace PubSubRequest

/-- The name of the operation of a request. -/
def operation : PubSubRequest → String
  | .modifyDeadline .. => "modify_ack_deadline"
  | .acknowledge .. => "acknowledge"

/-- The subscription of a request. -/
def subscription : PubSubRequest → String
  | .modifyDeadline s _ _ => s
  | .acknowledge s _ => s

end PubSubRequest

/-- A subscriber that is open. -/
structure Subscriber (ε : Type) where
  /-- Carries a request out. -/
  call : PubSubRequest → Action ε Unit
  /-- Closes the subscriber, given the failure of its request. -/
  close : Option Failure → Action ε Unit
  /-- The calls from which a request fails, as far as they are known. -/
  calls : PubSubRequest → List CallFrame := fun _ => []

/-- A Pub/Sub service, or what stands in for one. -/
structure PubSubBackend (ε : Type) where
  /-- Opens a subscriber. -/
  connect : Action ε (Subscriber ε)

/-- The timeout that an entry asks for; none stands for zero. -/
def BatchEntry.deadline (e : BatchEntry) : Int := e.visibilityTimeout.getD 0

/-- The deadlines that entries ask for, each once, in increasing order. -/
def distinctDeadlines (entries : List BatchEntry) : List Int :=
  ((entries.map BatchEntry.deadline).mergeSort (· ≤ ·)).eraseReps

namespace PubSubBackend

variable {ε : Type}

/-- The place that logs for a batch call. -/
def site (function : String) : Log.Site := ⟨"pubsub", function⟩

/-- Opens a subscriber, carries a request out and closes the subscriber. A failure is returned as it
leaves, with the failure that it replaced. -/
def exchange (b : PubSubBackend ε) (request : PubSubRequest) :
    Action ε (Except Trace Unit) := do
  match ← Action.attempt b.connect with
  | .error f => return .error { failure := f }
  | .ok subscriber =>
    match ← Action.attempt (subscriber.call request) with
    | .ok _ =>
      match ← Action.attempt (subscriber.close none) with
      | .ok _ => return .ok ()
      | .error f => return .error { failure := f }
    | .error earlier =>
      match ← Action.attempt (subscriber.close (some earlier)) with
      | .ok _ => return .error { failure := earlier }
      | .error f =>
        return .error { failure := f, replaced := some earlier, calls := subscriber.calls request }

/-- Carries a request out on behalf of a function, whose name the log shows. -/
def send (b : PubSubBackend ε) (function : String) (request : PubSubRequest) : Action ε Unit := do
  match ← b.exchange request with
  | .ok _ => return ()
  | .error t =>
    if t.failure.isPubSub then do
      Action.report (site function) Log.error
        ("The " ++ request.operation ++ " call failed for " ++ request.subscription) (some t)
      throw (.backendCall request.operation request.subscription t.failure)
    else throw t.failure

/-- The result of a call that succeeded: every entry was carried out. -/
def allSuccessful (destination : String) (entries : List BatchEntry) : BatchResult :=
  { destination, successful := entries.map fun e => .text e.id }

/-- The name of the function that changes deadlines. -/
def changeFunction : String := "change_message_visibility_batch"

/-- The name of the function that acknowledges. -/
def deleteFunction : String := "delete_message_batch"

/-- The one deadline of a request, lowered to the longest that is accepted. The warning that it is
lowered shows it, and a refusal shows all deadlines; one with too many digits cannot be shown. -/
def commonDeadline (entries : List BatchEntry) : Action ε Int :=
  match distinctDeadlines entries with
  | [] => return 0
  | [t] =>
    if maxAckDeadline < t then do
      let shown ← Action.ofExcept (decimalText t)
      Action.report (site changeFunction) Log.warning
        ("The deadline of " ++ shown ++ "s is above the Pub/Sub limit, using " ++
          maxAckDeadline.repr ++ "s instead.")
      return maxAckDeadline
    else return t
  | ts =>
    if (Value.list (ts.map .int)).isWritable then throw (.severalDeadlines ts)
    else throw .unprintableInteger

/-- The queue client on a Pub/Sub service. -/
def client (b : PubSubBackend ε) : QueueClient ε where
  changeVisibility destination entries := do
    let seconds ← commonDeadline entries
    b.send changeFunction
      (.modifyDeadline destination (entries.map BatchEntry.receiptHandle) seconds)
    return allSuccessful destination entries
  delete destination entries := do
    b.send deleteFunction (.acknowledge destination (entries.map BatchEntry.receiptHandle))
    return allSuccessful destination entries

end PubSubBackend
end QueueAck
