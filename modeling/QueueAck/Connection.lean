import QueueAck.Acknowledge

/-!
# Connections

A connection joins a backend with a retry policy and a source of entry identifiers of its own, from
which all its acknowledgers draw.
-/

namespace QueueAck

variable {ε : Type}

/-- A connection to a backend that is known as `κ`. -/
structure Connection (κ : Type) where
  /-- The backend. -/
  client : κ
  /-- The policy of negative acknowledgements. -/
  policy : Option RetryPolicy
  /-- The number of messages that are fetched at a time. -/
  prefetchSize : Int
  /-- The source of the entry identifiers. -/
  generator : GeneratorId
deriving Repr

namespace Connection

/-- Opens a connection, with a source of identifiers that starts at zero. -/
def make {κ : Type} (client : κ) (policy : Option RetryPolicy) (prefetchSize : Int := minBatch) :
    Action ε (Connection κ) := do
  let generator ← Action.newGenerator
  return { client, policy, prefetchSize, generator }

/-- The connection with its backend known in another way. -/
def map {κ κ' : Type} (f : κ → κ') (c : Connection κ) : Connection κ' :=
  { c with client := f c.client }

/-- An acknowledger of the connection. -/
def acknowledger (c : Connection (QueueClient ε)) : Acknowledger ε :=
  { client := c.client, generator := c.generator }

/-- A negative acknowledger of the connection. -/
def negativeAcknowledger (c : Connection (QueueClient ε)) : NegativeAcknowledger ε :=
  { client := c.client, policy := c.policy, generator := c.generator }

/-- Acknowledges every item of a queue. -/
def ack (c : Connection (QueueClient ε)) (q : QueueId) (destination : String) :
    Action ε (List BatchResult) :=
  c.acknowledger.bulk q destination

/-- Hands every item of a queue back. -/
def nack (c : Connection (QueueClient ε)) (q : QueueId) (destination : String) :
    Action ε (List BatchResult) :=
  c.negativeAcknowledger.bulk q destination

end Connection
end QueueAck
