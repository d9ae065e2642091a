import QueueAck.Proofs.Dispatch.Serve
import QueueAck.Proofs.Numbering
import QueueAck.Proofs.Shadow

/-!
# Submissions

What the two acknowledgers have in common once there is something to request: the handles of a batch
are numbered, the client is called with the entries, and every entry that was refused is logged.
Deleting is such a submission (`Acknowledger.action_eq_submit`), and so is handing back under any
policy but that of the queue (`NegativeAcknowledger.action_eq_submit`). A batch comes to a call with
the next numbers (`Submission.apply_flush`), and settling a queue to serving its batches
(`Connection.settle_eq_serve`).
-/

namespace QueueAck

variable {ε : Type}

/-- Makes a call on a queue client. -/
def QueueClient.perform (c : QueueClient ε) : BatchCall → Action ε BatchResult
  | .changeVisibility destination entries => c.changeVisibility destination entries
  | .delete destination entries => c.delete destination entries

/-- A recorded call is noted. -/
theorem QueueClient.perform_recorded (c : QueueClient ε) (call : BatchCall) :
    c.recorded.perform call = (c.perform call).noting call := by
  cases call <;> rfl

/-- A call leads to a state that the relation allows. -/
theorem QueueClient.Guarantees.perform {c : QueueClient ε} {R : World ε → World ε → Prop}
    (h : c.Guarantees R) (call : BatchCall) : (c.perform call).Guarantees R := by
  cases call with
  | changeVisibility destination entries => exact h.changeVisibility destination entries
  | delete destination entries => exact h.delete destination entries

/-- The destination of a call. -/
def BatchCall.destination : BatchCall → String
  | .changeVisibility destination _ => destination
  | .delete destination _ => destination

/-- The action logs, and does nothing else. -/
def Action.OnlyLogs (a : Action ε Unit) : Prop :=
  ∀ w, ∃ l, a.apply w = (.ok (), { w with log := l })

/-- Nothing is logged. -/
theorem Action.OnlyLogs.pure : (Pure.pure () : Action ε Unit).OnlyLogs := fun w ↦ ⟨w.log, rfl⟩

/-- One message is logged after the other. -/
theorem reportFailures_onlyLogs (site : Log.Site) (introduction : String)
    (fs : List EntryFailure) :
    (reportFailures site introduction fs : Action ε Unit).OnlyLogs := by
  induction fs with
  | nil => exact .pure
  | cons f fs ih => exact fun w ↦ ih _

/-- A policy whose delay can be written is logged. -/
theorem NegativeAcknowledger.reportPolicy_onlyLogs {n : NegativeAcknowledger ε}
    (h : ∀ p, n.policy = some p → p.delay.natAbs < Text.writeLimit) (destination : String) :
    (n.reportPolicy destination).OnlyLogs := by
  intro w
  rw [reportPolicy]
  cases hp : n.policy with
  | none => exact ⟨_, rfl⟩
  | some p =>
    dsimp only
    rw [decimalText_of_lt (h p hp)]
    exact ⟨_, rfl⟩

/-- A way of requesting something for the messages of a batch. -/
structure Submission (ε : Type) where
  /-- The backend. -/
  client : QueueClient ε
  /-- The source of the entry identifiers. -/
  generator : GeneratorId
  /-- What is logged before. -/
  announce : Action ε Unit := pure ()
  /-- The visibility timeout that is requested. -/
  timeout : Option Int := none
  /-- The call for the entries of the batch. -/
  call : List BatchEntry → BatchCall
  /-- The call has the entries that it is made for. -/
  entries_call : ∀ entries, (call entries).entries = entries := by intro; rfl
  /-- The place that logs. -/
  site : Log.Site
  /-- How the log introduces an entry that was refused. -/
  introduction : String

/-- Requests it for one batch; an empty batch is not sent. -/
def Submission.submit (s : Submission ε) (handles : List String) :
    Action ε (Option BatchResult) :=
  if handles.isEmpty then return none
  else do
    s.announce
    let entries ← numberEntries (Action.nextId s.generator) s.timeout handles
    let result ← s.client.perform (s.call entries)
    reportFailures s.site s.introduction result.failed
    return some result

/-- Handing over a batch logs, uses up the numbers of its entries and makes the call with them. -/
theorem Submission.apply_flush (s : Submission ε) (announced : s.announce.OnlyLogs)
    {d : Dispatcher ε} {destination : String}
    (submits : ∀ handles, d.action destination handles = s.submit handles) {handles : List String}
    (some_handle : handles ≠ []) {w : World ε}
    (written : ∀ i < handles.length, (w.counters s.generator + i).natAbs < Text.writeLimit) :
    ∃ l, (d.flush destination handles).apply w =
      (s.client.perform (s.call (entriesFrom (w.counters s.generator) s.timeout handles)) >>=
        fun result ↦ reportFailures s.site s.introduction result.failed >>= fun _ ↦
          pure (some result)).apply
      (World.setCounter { w with log := l } s.generator
        (w.counters s.generator + handles.length)) := by
  let u : World ε := ((Action.report Dispatcher.site Log.debug
    ("Dispatching a batch of " ++ handles.length.repr ++ " receipt handles.")).apply w).2
  obtain ⟨l, logged⟩ := announced u
  refine ⟨l, ?_⟩
  change (d.action destination handles).apply u = _
  rw [submits, submit, if_neg (by simpa using some_handle), Action.apply_bind, logged]
  dsimp only
  have numbered : (numberEntries (Action.nextId s.generator) s.timeout handles).apply
      { u with log := l } = _ := apply_numberEntries_of_lt s.timeout written
  rw [Action.apply_bind, numbered]
  rfl

/-- Deleting messages of a destination. -/
def Acknowledger.submission (a : Acknowledger ε) (destination : String) : Submission ε where
  client := a.client
  generator := a.generator
  call := .delete destination
  site := site
  introduction := "Could not delete entry"

/-- Handing messages of a destination back under a timeout. -/
def NegativeAcknowledger.submission (n : NegativeAcknowledger ε) (destination : String)
    (timeout : Int) : Submission ε where
  client := n.client
  generator := n.generator
  announce := n.reportPolicy destination
  timeout := some timeout
  call := .changeVisibility destination
  site := site
  introduction := "Could not change the visibility of entry"

/-- An acknowledger submits every batch. -/
theorem Acknowledger.action_eq_submit (a : Acknowledger ε) (destination : String)
    (handles : List String) :
    a.action destination handles = (a.submission destination).submit handles := rfl

/-- A negative acknowledger submits every batch, when its policy asks for a timeout. -/
theorem NegativeAcknowledger.action_eq_submit (n : NegativeAcknowledger ε) {timeout : Int}
    (h : resolveDelay n.policy = some timeout) (destination : String) (handles : List String) :
    n.action destination handles = (n.submission destination timeout).submit handles := by
  unfold NegativeAcknowledger.action
  rw [h]
  rfl

/-- The two ways of settling the items of a queue. -/
inductive Settlement where
  /-- They are acknowledged. -/
  | ack
  /-- They are handed back. -/
  | nack
deriving DecidableEq, Repr

/-- The name of the operation in the context of the log. -/
def Settlement.operation : Settlement → String
  | .ack => "ack"
  | .nack => "nack"

/-- The call that settles the items of a batch. -/
def Settlement.call : Settlement → String → List BatchEntry → BatchCall
  | .ack => .delete
  | .nack => .changeVisibility

namespace Connection

variable {c : Connection (QueueClient ε)} {k : Settlement} {destination : String} {s : Submission ε}

/-- Settles every item of a queue. -/
def settle (c : Connection (QueueClient ε)) : Settlement → QueueId → String →
    Action ε (List BatchResult)
  | .ack => c.ack
  | .nack => c.nack

/-- The dispatcher that drains a queue to settle its items. -/
def dispatcher (c : Connection (QueueClient ε)) : Settlement → Dispatcher ε
  | .ack => c.acknowledger.dispatcher
  | .nack => c.negativeAcknowledger.dispatcher

/-- Settling a queue is a dispatch inside the context of the operation. -/
theorem settle_eq_within (c : Connection (QueueClient ε)) (k : Settlement) (q : QueueId)
    (destination : String) :
    c.settle k q destination =
      Action.within (operationContext destination k.operation)
        ((c.dispatcher k).dispatch q destination) := by
  cases k <;> rfl

/-- The context of the operation is there for the dispatch, and gone afterwards. -/
theorem apply_settle (c : Connection (QueueClient ε)) (k : Settlement) (q : QueueId)
    (destination : String) (w : World ε) :
    (c.settle k q destination).apply w =
      (((c.dispatcher k).dispatch q destination).apply
        (w.setContext (w.log.context.overlay (operationContext destination k.operation)))).map id
          (·.setContext w.log.context) := by
  rw [settle_eq_within]
  rfl

/-- Settling the items of a queue leaves it alone while a batch is handed over. -/
theorem leavesQueue_dispatcher {q : QueueId} (quiet : c.client.Guarantees (SameQueue q))
    (k : Settlement) : (c.dispatcher k).action.LeavesQueue q := by
  cases k with
  | ack => exact (steady_sameQueue q).acknowledge (nextId_sameQueue _ q) quiet
  | nack => exact (steady_sameQueue q).handBack (nextId_sameQueue _ q) quiet

/-- Settling the items of a queue serves their batches inside the context of the operation. -/
theorem settle_eq_serve {q : QueueId} (quiet : (c.dispatcher k).action.LeavesQueue q) {w : World ε}
    (same : ∀ item ∈ w.queues q, item.destination = destination) :
    let v := w.setContext (w.log.context.overlay (operationContext destination k.operation))
    let r := (c.dispatcher k).serve q destination (({} : BatchSize).cut (w.queues q)) v
    (c.settle k q destination).apply w = (r.outcome, r.world.setContext w.log.context) := by
  intro v r
  have size : (c.dispatcher k).size = {} := by cases k <;> rfl
  have dispatched := Dispatcher.dispatch_eq_serve quiet (w := v) same
  rw [size] at dispatched
  rw [apply_settle, dispatched]
  rfl

/-- What a connection requests to settle items: always something to acknowledge them, and a timeout
to hand them back, unless that is left to the queue. -/
inductive Submits (c : Connection (QueueClient ε)) (destination : String) :
    Settlement → Submission ε → Prop where
  /-- Deleting them. -/
  | ack : c.Submits destination .ack (c.acknowledger.submission destination)
  /-- Changing their visibility. -/
  | nack {timeout : Int} (asked : resolveDelay c.policy = some timeout) :
    c.Submits destination .nack (c.negativeAcknowledger.submission destination timeout)

/-- Every batch is submitted. -/
theorem Submits.action_eq_submit (h : c.Submits destination k s) (handles : List String) :
    (c.dispatcher k).action destination handles = s.submit handles := by
  cases h with
  | ack => exact c.acknowledger.action_eq_submit destination handles
  | nack asked => exact c.negativeAcknowledger.action_eq_submit asked destination handles

/-- It is requested from the client of the connection. -/
theorem Submits.client_eq (h : c.Submits destination k s) : s.client = c.client := by
  cases h <;> rfl

/-- The entries are numbered from the source of the connection. -/
theorem Submits.generator_eq (h : c.Submits destination k s) : s.generator = c.generator := by
  cases h <;> rfl

/-- It is requested for the destination. -/
theorem Submits.destination_call (h : c.Submits destination k s) (entries : List BatchEntry) :
    (s.call entries).destination = destination := by
  cases h <;> rfl

/-- A dispatch that settles items conducts itself as its calls on the client do. -/
theorem dispatch_follows {C : Conduct ε} {q : QueueId} (h : Lenient C q)
    (draw : (Action.nextId c.generator).Follows C)
    (call : ∀ entries, (c.client.perform (k.call destination entries)).Follows C) :
    ((c.dispatcher k).dispatch q destination).Follows C := by
  refine h.dispatch fun handles ↦ ?_
  cases k with
  | ack =>
    exact h.acknowledge_of (a := c.acknowledger) fun _ hk ↦
      h.bind (h.numberEntries draw _ _) fun entries ↦ h.bind (call entries) hk
  | nack =>
    exact h.handBack_of (n := c.negativeAcknowledger) fun _ _ _ hk ↦
      h.bind (h.numberEntries draw _ _) fun entries ↦ h.bind (call entries) hk

/-- A run conducts itself as its calls on the client do. -/
theorem settle_follows {C : Conduct ε} {q : QueueId} (h : Lenient C q) (hc : C.IgnoresContext)
    (draw : (Action.nextId c.generator).Follows C)
    (call : ∀ entries, (c.client.perform (k.call destination entries)).Follows C) :
    (c.settle k q destination).Follows C := by
  rw [c.settle_eq_within]
  exact h.within hc _ (dispatch_follows h draw call)

end Connection
end QueueAck
