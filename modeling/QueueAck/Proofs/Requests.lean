import QueueAck.Client.Sqs
import QueueAck.Proofs.Caller
import QueueAck.Proofs.Dispatch.Serve
import QueueAck.Proofs.Numbering

/-!
# Requests over the life of a connection

What reaches an SQS service from a connection. Whatever the service answers, every call that the
connection makes on its client becomes one request, and every request is one that the step of the
caller permits (`requests_legal`).
-/

namespace QueueAck

variable {ε β : Type}

/-- The timeout that a policy asks for. Under the queue's own delay there is none. -/
inductive AsksFor : Option RetryPolicy → Int → Prop where
  /-- Without a policy, messages are delivered again right away. -/
  | missing : AsksFor none 0
  /-- By default, messages are delivered again right away, whatever the delay. -/
  | default (delay : Int) : AsksFor (some ⟨.defaultDelay, delay⟩) 0
  /-- A delay that is asked for is not negative. -/
  | explicit (delay : Int) : AsksFor (some ⟨.explicitDelay, delay⟩) (max delay 0)

/-- The timeout that is requested is the one that the policy asks for. -/
theorem asksFor_of_resolveDelay {policy : Option RetryPolicy} {timeout : Int}
    (h : resolveDelay policy = some timeout) : AsksFor policy timeout := by
  rcases policy with _ | ⟨_ | _ | _, delay⟩
  · exact Option.some.inj h ▸ .missing
  · exact Option.some.inj h ▸ .default delay
  · exact Option.some.inj h ▸ .explicit delay
  · cases h

/-- A request that SQS accepts, for items of a queue. -/
structure SqsRequest.Legal (items : List PendingItem) (destination : String) (r : SqsRequest) :
    Prop where
  /-- There is an entry. -/
  pos : 0 < r.entries.length
  /-- There are not more than ten entries. -/
  le : r.entries.length ≤ 10
  /-- No two entries have one identifier. -/
  nodup : (r.entries.map SqsEntry.id).Nodup
  /-- The request goes to the destination. -/
  queueUrl : r.queueUrl = destination
  /-- Every handle is that of an item from the queue to which the request goes. -/
  handles : ∀ e ∈ r.entries, ∃ item ∈ items,
    item.receiptHandle = e.receiptHandle ∧ item.destination = r.queueUrl

/-- The requests that a step may make in a state. An acknowledgement deletes and sends no timeout;
handing back sends the timeout that the policy asks for with every entry. -/
def CallerStep.Permits (s : CallerStep) (policy : Option RetryPolicy) (w : World ε)
    (r : SqsRequest) : Prop :=
  match s with
  | .fill .. => False
  | .ack q destination =>
    r.operation = .delete ∧ r.Legal (w.queues q) destination ∧
      ∀ e ∈ r.entries, e.fields.lookup "VisibilityTimeout" = none
  | .nack q destination =>
    r.operation = .changeVisibility ∧ r.Legal (w.queues q) destination ∧
      ∃ timeout, AsksFor policy timeout ∧
        ∀ e ∈ r.entries, e.fields.lookup "VisibilityTimeout" = some (.int timeout)

/-- The timeout of an entry is sent exactly when there is one, be it zero. -/
theorem SqsEntry.lookup_visibilityTimeout (e : SqsEntry) :
    e.fields.lookup "VisibilityTimeout" = e.visibilityTimeout.map .int := by
  cases h : e.visibilityTimeout <;> simp [SqsEntry.fields, h, List.lookup]

/-- The request of a call. -/
def BatchCall.request : BatchCall → SqsRequest
  | .changeVisibility destination entries =>
    ⟨.changeVisibility, destination, SqsBackend.changeEntries entries⟩
  | .delete destination entries => ⟨.delete, destination, SqsBackend.deleteEntries entries⟩

/-- The request has the identifiers of the entries. -/
theorem BatchCall.map_id_request (call : BatchCall) :
    call.request.entries.map SqsEntry.id = call.entries.map BatchEntry.id := by
  cases call <;> exact List.map_map

/-- The request has the handles of the entries. -/
theorem BatchCall.map_receiptHandle_request (call : BatchCall) :
    call.request.entries.map SqsEntry.receiptHandle =
      call.entries.map BatchEntry.receiptHandle := by
  cases call <;> exact List.map_map

/-- The request has as many entries as the call. -/
theorem BatchCall.length_request (call : BatchCall) :
    call.request.entries.length = call.entries.length := by
  cases call <;> exact List.length_map _

/-- A call for a batch of items makes a legal request. -/
theorem BatchCall.legal_request {call : BatchCall} {items batch : List PendingItem}
    {destination : String} {n : Int} {timeout : Option Int}
    (he : call.entries = entriesFrom n timeout (receiptHandles batch))
    (hu : call.request.queueUrl = destination) (hp : 0 < batch.length) (hl : batch.length ≤ 10)
    (hb : ∀ item ∈ batch, item ∈ items ∧ item.destination = destination) :
    call.request.Legal items destination := by
  have hlen : call.request.entries.length = batch.length := by
    rw [call.length_request, he, length_entriesFrom, receiptHandles, List.length_map]
  refine ⟨hlen ▸ hp, hlen ▸ hl, ?_, hu, ?_⟩
  · rw [call.map_id_request, he]
    exact nodup_id_entriesFrom ..
  · intro e hm
    have hh : e.receiptHandle ∈ receiptHandles batch := by
      rw [← map_receiptHandle_entriesFrom n timeout (receiptHandles batch), ← he,
        ← call.map_receiptHandle_request]
      exact List.mem_map_of_mem hm
    obtain ⟨item, hi, hr⟩ := List.mem_map.mp hh
    exact ⟨item, (hb item hi).1, hr, (hb item hi).2.trans hu.symm⟩

namespace SqsBackend

/-- An SQS service that keeps the requests which it gets. Its answer may depend on all of them. -/
def answering (answer : List SqsRequest → SqsRequest → Except Failure Value) :
    SqsBackend (List SqsRequest) where
  call request := Action.ofBackend fun sent ↦ (answer sent request, sent ++ [request])

variable {answer : List SqsRequest → SqsRequest → Except Failure Value}

/-- A request that is not too large reaches the service once, whatever it answers. -/
theorem outside_send_answering {r : SqsRequest} (h : r.entries.length ≤ maxBatch)
    (w : World (List SqsRequest)) :
    (((answering answer).send r).apply w).2.outside = w.outside ++ [r] := by
  rw [send, if_neg (Nat.not_lt.mpr h), Action.apply_bind, Action.apply_attempt]
  simp only [answering, Action.apply_ofBackend]
  cases answer w.outside r with
  | ok response => rfl
  | error f =>
    dsimp only
    split <;> rfl

/-- The client on a service keeps what the service keeps. -/
theorem client_guarantees {R : World ε → World ε → Prop} (h : Steady R) {b : SqsBackend ε}
    (hb : ∀ r, (b.call r).Guarantees R) : b.client.Guarantees R := by
  have hs (r : SqsRequest) : (b.send r).Guarantees R := by
    unfold send
    split
    · exact h.throw _
    · refine h.bind (Steady.attempt (hb r)) fun response ↦ ?_
      cases response with
      | ok response => exact h.ofExcept _
      | error f =>
        dsimp only
        split
        · exact h.bind h.report fun _ ↦ h.throw _
        · exact h.throw _
  exact ⟨fun _ _ ↦ hs _, fun _ _ ↦ hs _⟩

end SqsBackend

/-- The relation between states in which the later one has further calls and the requests of these
calls, all of them permitted. -/
def Forwards (P : SqsRequest → Prop) (w w' : World (List SqsRequest × List BatchCall)) : Prop :=
  ∃ calls : List BatchCall, w'.record = w.record ++ calls ∧
    w'.forget.outside = w.forget.outside ++ calls.map BatchCall.request ∧
    ∀ call ∈ calls, P call.request

/-- What leaves the service and the record as they are forwards nothing. -/
theorem forwards_of_outside_eq {P : SqsRequest → Prop}
    {w w' : World (List SqsRequest × List BatchCall)} (h : w'.outside = w.outside) :
    Forwards P w w' := by
  refine ⟨[], ?_, ?_, by simp⟩
  · rw [List.append_nil, World.record, h]
    rfl
  · rw [List.map_nil, List.append_nil, World.forget, h]
    rfl

/-- Filling queues and logging sends nothing. -/
theorem indifferent_forwards (P : SqsRequest → Prop) (q : QueueId) :
    Indifferent (Forwards P) q where
  refl _ := forwards_of_outside_eq rfl
  trans := by
    rintro u v w ⟨xs, hr, ho, hx⟩ ⟨ys, hr', ho', hy⟩
    refine ⟨xs ++ ys, ?_, ?_, ?_⟩
    · rw [hr', hr, List.append_assoc]
    · rw [ho', ho, List.map_append, List.append_assoc]
    · exact List.forall_mem_append.mpr ⟨hx, hy⟩
  log _ _ := forwards_of_outside_eq rfl
  queue _ _ := forwards_of_outside_eq rfl

section Forwards

variable {answer : List SqsRequest → SqsRequest → Except Failure Value} {P : SqsRequest → Prop}

/-- Numbering a batch and calling the client with it forwards the call, when its request is
permitted under all numbers. -/
theorem forwards_call (g : GeneratorId) {timeout : Option Int} {handles : List String}
    (make : List BatchEntry → BatchCall) (hm : ∀ es, (make es).entries = es)
    (hl : handles.length ≤ maxBatch) (hp : ∀ n, P (make (entriesFrom n timeout handles)).request)
    {k : BatchResult → Action (List SqsRequest × List BatchCall) β}
    (hk : ∀ x, (k x).Guarantees (Forwards P)) :
    (numberEntries (Action.nextId g) timeout handles >>= fun es ↦
      ((SqsBackend.answering answer).send (make es).request).noting (make es) >>= k).Guarantees
        (Forwards P) := by
  have steady := (indifferent_forwards P 0).toSteady
  have hd : (Action.nextId g).Guarantees (Forwards P) := fun _ ↦ forwards_of_outside_eq rfl
  refine steady.bind_of (steady.numberEntries hd timeout handles) fun w es w' hr ↦ ?_
  have he := eq_entriesFrom_of_ok hr
  refine steady.bind (fun v ↦ ?_) hk w'
  have hle : (make es).request.entries.length ≤ maxBatch := by
    rw [BatchCall.length_request, hm, he, length_entriesFrom]
    exact hl
  refine ⟨[make es], rfl, SqsBackend.outside_send_answering hle v.forget, ?_⟩
  intro call hc
  rw [List.mem_singleton.mp hc, he]
  exact hp _

/-- A batch of items of one destination is not empty, not too large, and made of these items. -/
private theorem of_mem_cut {size : BatchSize} {items batch : List PendingItem}
    {destination : String} (same : ∀ item ∈ items, item.destination = destination)
    (h : batch ∈ size.cut items) :
    0 < batch.length ∧ batch.length ≤ 10 ∧
      ∀ item ∈ batch, item ∈ items ∧ item.destination = destination := by
  have hb := size.batches_cut items
  refine ⟨hb.pos batch h, Nat.le_trans (hb.le batch h) size.val_le, fun item hi ↦ ?_⟩
  have hm : item ∈ items := hb.flatten_eq ▸ List.mem_flatten_of_mem h hi
  exact ⟨hm, same item hm⟩

end Forwards

/-- A connection to an SQS service that answers in a given way. -/
def Connection.answered (answer : List SqsRequest → SqsRequest → Except Failure Value)
    (policy : Option RetryPolicy) (prefetchSize : Int) (generator : GeneratorId) :
    Connection (QueueClient (List SqsRequest)) :=
  { client := (SqsBackend.answering answer).client, policy, prefetchSize, generator }

section Connection

variable {answer : List SqsRequest → SqsRequest → Except Failure Value}
  {policy : Option RetryPolicy} {prefetchSize : Int} {generator : GeneratorId}

/-- Acknowledging a batch of a queue forwards what an acknowledgement of the queue permits. -/
theorem forwards_acknowledge {q : QueueId} {destination : String}
    {w : World (List SqsRequest × List BatchCall)} {size : BatchSize} {batch : List PendingItem}
    (same : ∀ item ∈ w.queues q, item.destination = destination)
    (hb : batch ∈ size.cut (w.queues q)) :
    ((Connection.answered answer policy prefetchSize generator).recorded.acknowledger.action
      destination (receiptHandles batch)).Guarantees
        (Forwards ((CallerStep.ack q destination).Permits policy w)) := by
  obtain ⟨hp, hl, hi⟩ := of_mem_cut same hb
  refine (indifferent_forwards _ q).acknowledge_of fun k hk ↦ ?_
  refine forwards_call _ (.delete destination) (fun _ ↦ rfl)
    (by rwa [receiptHandles, List.length_map]) (fun n ↦ ?_) hk
  refine ⟨rfl, BatchCall.legal_request rfl rfl hp hl hi, fun e he ↦ ?_⟩
  obtain ⟨b, -, rfl⟩ := List.mem_map.mp he
  exact SqsEntry.lookup_visibilityTimeout _

/-- Handing a batch of a queue back forwards what handing the queue back permits. -/
theorem forwards_handBack {q : QueueId} {destination : String}
    {w : World (List SqsRequest × List BatchCall)} {size : BatchSize} {batch : List PendingItem}
    (same : ∀ item ∈ w.queues q, item.destination = destination)
    (hb : batch ∈ size.cut (w.queues q)) :
    ((Connection.answered answer policy prefetchSize generator).recorded.negativeAcknowledger.action
      destination (receiptHandles batch)).Guarantees
        (Forwards ((CallerStep.nack q destination).Permits policy w)) := by
  obtain ⟨hp, hl, hi⟩ := of_mem_cut same hb
  refine (indifferent_forwards _ q).handBack_of fun timeout ht k hk ↦ ?_
  refine forwards_call _ (.changeVisibility destination) (fun _ ↦ rfl)
    (by rwa [receiptHandles, List.length_map]) (fun n ↦ ?_) hk
  refine ⟨rfl, BatchCall.legal_request rfl rfl hp hl hi, timeout, asksFor_of_resolveDelay ht,
    fun e he ↦ ?_⟩
  obtain ⟨b, hb, rfl⟩ := List.mem_map.mp he
  rw [SqsEntry.lookup_visibilityTimeout, visibilityTimeout_of_mem_entriesFrom hb]
  rfl

/-- What a step forwards, it permits. -/
theorem forwards_perform (s : CallerStep) (w : World (List SqsRequest × List BatchCall)) :
    let c := (Connection.answered answer policy prefetchSize generator).recorded
    Forwards (s.Permits policy w) w ((c.perform s).apply w).2 := by
  intro c
  have indifferent := indifferent_forwards (s.Permits policy w)
  have quiet (q : QueueId) : c.client.Guarantees (SameQueue q) :=
    QueueClient.recorded_sameQueue
      (SqsBackend.client_guarantees (steady_sameQueue q) fun _ _ ↦ rfl)
  cases s with
  | fill q items => exact (indifferent q).queue w items
  | ack q destination =>
    have leaves : c.acknowledger.dispatcher.action.LeavesQueue q :=
      (steady_sameQueue q).acknowledge (nextId_sameQueue _ q) (quiet q)
    exact (indifferent q).within_at (Dispatcher.dispatch_guarantees_at (indifferent q) leaves
      fun same _ ↦ forwards_acknowledge same)
  | nack q destination =>
    have leaves : c.negativeAcknowledger.dispatcher.action.LeavesQueue q :=
      (steady_sameQueue q).handBack (nextId_sameQueue _ q) (quiet q)
    exact (indifferent q).within_at (Dispatcher.dispatch_guarantees_at (indifferent q) leaves
      fun same _ ↦ forwards_handBack same)

private theorem run_forwards {c : Connection (QueueClient (List SqsRequest))}
    (hc : c = .answered answer policy prefetchSize generator) (steps : List CallerStep)
    (w : World (List SqsRequest)) (earlier : List BatchCall) :
    ∃ calls : List (List BatchCall),
      (c.recorded.run steps (w.remember earlier)).record = earlier ++ calls.flatten ∧
      (c.run steps w).outside = w.outside ++ calls.flatten.map BatchCall.request ∧
      List.Forall₂ (fun taken made ↦ ∀ call ∈ made, taken.1.Permits policy taken.2 call.request)
        (c.history steps w) calls := by
  induction steps generalizing w earlier with
  | nil => exact ⟨[], (List.append_nil _).symm, (List.append_nil _).symm, .nil⟩
  | cons s steps ih =>
    obtain ⟨first, hr, ho, hp⟩ : Forwards (s.Permits policy (w.remember earlier)) _
      ((c.recorded.perform s).apply (w.remember earlier)).2 := hc ▸ forwards_perform s _
    have hf : ((c.recorded.perform s).apply (w.remember earlier)).2 =
        ((c.perform s).apply w).2.remember (earlier ++ first) := by
      rw [(c.recorded_perform_shadows s).apply_remember, hr]
      rfl
    obtain ⟨rest, hr', ho', hp'⟩ := ih ((c.perform s).apply w).2 (earlier ++ first)
    rw [hf] at ho
    refine ⟨first :: rest, ?_, ?_, .cons hp hp'⟩
    · rw [Connection.run, Action.runAll_cons, hf, List.flatten_cons, ← List.append_assoc]
      exact hr'
    · rw [Connection.run, Action.runAll_cons, List.flatten_cons, List.map_append,
        ← List.append_assoc]
      exact ho'.trans (congrArg (· ++ _) ho)

/-- Whatever an SQS service answers, every call that a connection makes on its client reaches the
service as one request, so that none is refused for its size, and every request is one that the step
of the caller permits. Leaving the record of the calls aside, the recorded run is the run itself. -/
theorem requests_legal (answer : List SqsRequest → SqsRequest → Except Failure Value)
    (policy : Option RetryPolicy) (prefetchSize : Int) (generator : GeneratorId)
    (steps : List CallerStep) (w : World (List SqsRequest)) :
    let c := Connection.answered answer policy prefetchSize generator
    let w' := c.recorded.run steps (w.remember [])
    w'.forget = c.run steps w ∧
    ∃ calls : List (List BatchCall), w'.record = calls.flatten ∧
      (c.run steps w).outside = w.outside ++ calls.flatten.map BatchCall.request ∧
      List.Forall₂ (fun taken made ↦ ∀ call ∈ made, taken.1.Permits policy taken.2 call.request)
        (c.history steps w) calls := by
  intro c w'
  exact ⟨c.forget_run_recorded steps _, run_forwards rfl steps w []⟩

/-- A negative delay is sent as zero, and the request is made although the service refuses it. -/
example :
    ((Connection.answered (fun _ _ ↦ .error .halfCredentials) (some ⟨.explicitDelay, -5⟩) 1
      .shared).run [.fill 0 [⟨"a", "orders", ""⟩], .nack 0 "orders"] { outside := [] }).outside =
      [⟨.changeVisibility, "orders", [⟨"0", "a", some 0⟩]⟩] := by
  decide +kernel

end Connection
end QueueAck
