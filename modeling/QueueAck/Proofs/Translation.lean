import QueueAck.Client.PubSub
import QueueAck.Proofs.Requests
import QueueAck.Proofs.Responses
import QueueAck.Proofs.Service

/-!
# Translation of failures

The two backends as services. A request to SQS fails with the failure of its call, or with the
misuse of a response that cannot be read. A request to Pub/Sub opens a subscriber, makes its call
and closes the subscriber again; it fails with the failure that is left in the end. On either
backend a run ends with the first failure of a request, translated when it is one of the service
(`failures_translated`).
-/

namespace QueueAck

/-- The name of the operation of SQS that settles items. -/
def Settlement.sqsOperation : Settlement → String
  | .ack => "delete_message_batch"
  | .nack => "change_message_visibility_batch"

/-- The name of the operation of Pub/Sub that settles items. -/
def Settlement.pubSubOperation : Settlement → String
  | .ack => "acknowledge"
  | .nack => "modify_ack_deadline"

namespace SqsBackend

variable (answer : List SqsRequest → SqsRequest → Except Failure Value)

/-- The failure with which a request ends after others: that of its call, or that of reading the
response. -/
def escapes (sent : List SqsRequest) (request : SqsRequest) : Option Failure :=
  match answer sent request with
  | .error f => some f
  | .ok response => failure? ((SqsResponse.result request.queueUrl response).mapError .misuse)

/-- SQS as a service that keeps the requests which it gets. -/
def service : Service (List SqsRequest) SqsRequest where
  advance sent request := sent ++ [request]
  escapes := escapes answer
  own := Failure.isSqs
  operation request := request.operation.name
  destination := SqsRequest.queueUrl

/-- The service keeps every request. -/
theorem after_service (sent requests : List SqsRequest) :
    (service answer).after sent requests = sent ++ requests := by
  induction requests generalizing sent with
  | nil => exact (List.append_nil sent).symm
  | cons request requests ih =>
    rw [List.append_cons]
    exact ih (sent ++ [request])

variable {answer} {operation destination : String}

/-- A response that lacks an identifier lets its request fail. -/
theorem escapes_of_lacksId {sent : List SqsRequest} {request : SqsRequest} {response : Value}
    (answered : answer sent request = .ok response) (h : SqsResponse.LacksId response) :
    escapes answer sent request = some (.misuse (.missingField "Id")) := by
  rw [escapes, answered]
  dsimp only
  rw [SqsResponse.result_of_lacksId h]
  rfl

/-- Sending a request on the service. -/
theorem send_follows {request : SqsRequest}
    (asks : (service answer).Asks operation destination request) :
    ((answering answer).send request).Follows ((service answer).Conduct operation destination) := by
  obtain ⟨rfl, rfl⟩ := asks
  intro w
  unfold send
  split
  · exact .silent rfl rfl rfl
  · rw [Action.apply_bind, Action.apply_attempt]
    simp only [answering, Action.apply_ofBackend]
    cases ha : answer w.outside request with
    | ok response =>
      have read : (service answer).escapes w.outside request = failure?
          ((SqsResponse.result request.queueUrl response).mapError .misuse) := by
        simp only [service, escapes, ha]
      dsimp only
      cases hr : SqsResponse.result request.queueUrl response with
      | ok result => exact .accepted ⟨rfl, rfl⟩ (by rw [read, hr]; rfl) rfl rfl
      | error m => exact .passed ⟨rfl, rfl⟩ (by rw [read, hr]; rfl) rfl rfl rfl
    | error f =>
      have failed : (service answer).escapes w.outside request = some f := by
        simp only [service, escapes, ha]
      dsimp only
      cases own : f.isSqs with
      | true => exact .reported ⟨rfl, rfl⟩ failed own rfl rfl rfl rfl rfl
      | false => exact .passed ⟨rfl, rfl⟩ failed own rfl rfl

/-- Settling items on the service. -/
theorem client_follows (k : Settlement) (entries : List BatchEntry) :
    ((answering answer).client.perform (k.call destination entries)).Follows
      ((service answer).Conduct k.sqsOperation destination) := by
  cases k with
  | ack => exact send_follows ⟨rfl, rfl⟩
  | nack => exact send_follows ⟨rfl, rfl⟩

end SqsBackend

/-- What happens to a Pub/Sub service. -/
inductive PubSubEvent where
  /-- A subscriber is opened. -/
  | opened
  /-- A request is made. -/
  | called (request : PubSubRequest)
  /-- The subscriber is closed, after the failure of its request, if any. -/
  | closed (earlier : Option Failure)

namespace PubSubBackend

variable (answer : List PubSubEvent → PubSubEvent → Except Failure Unit)
  (calls : PubSubRequest → List CallFrame)

/-- The next event of a service that keeps all events. -/
def happens (event : PubSubEvent) : Action (List PubSubEvent) Unit :=
  Action.ofBackend fun past ↦ (answer past event, past ++ [event])

/-- A subscriber of such a service. -/
def subscriber : Subscriber (List PubSubEvent) where
  call request := happens answer (.called request)
  close earlier := happens answer (.closed earlier)
  calls

/-- A Pub/Sub service that keeps all events. How an event ends may depend on all of them. -/
def answering : PubSubBackend (List PubSubEvent) where
  connect := do
    happens answer .opened
    return subscriber answer calls

/-- The events up to the end of a request. A subscriber that is not opened is not called. -/
def advance (past : List PubSubEvent) (request : PubSubRequest) : List PubSubEvent :=
  match answer past .opened with
  | .error _ => past ++ [.opened]
  | .ok _ =>
    let earlier := failure? (answer (past ++ [.opened]) (.called request))
    past ++ [.opened, .called request, .closed earlier]

/-- The failure with which a request ends: that of opening the subscriber, or that of closing it,
which takes the place of that of the call. -/
def escapes (past : List PubSubEvent) (request : PubSubRequest) : Option Failure :=
  match answer past .opened with
  | .error f => some f
  | .ok _ =>
    let earlier := failure? (answer (past ++ [.opened]) (.called request))
    (failure? (answer (past ++ [.opened, .called request]) (.closed earlier))).or earlier

/-- Pub/Sub as a service that keeps all events. -/
def service : Service (List PubSubEvent) PubSubRequest where
  advance := advance answer
  escapes := escapes answer
  own := Failure.isPubSub
  operation := PubSubRequest.operation
  destination := PubSubRequest.subscription

/-- An event is kept, however it ends. -/
theorem apply_happens (event : PubSubEvent) (w : World (List PubSubEvent)) :
    (happens answer event).apply w =
      (answer w.outside event, { w with outside := w.outside ++ [event] }) := rfl

/-- An exchange on the service ends with the failure of its request. -/
theorem apply_exchange_answering (request : PubSubRequest) (w : World (List PubSubEvent)) :
    ∃ r, ((answering answer calls).exchange request).apply w =
        (.ok r, { w with outside := advance answer w.outside request }) ∧
      escapes answer w.outside request = match r with
        | .ok _ => none
        | .error t => some t.failure := by
  have opened : ((answering answer calls).connect).apply w =
      ((answer w.outside .opened).map fun _ ↦ subscriber answer calls,
        { w with outside := w.outside ++ [.opened] }) := by
    rw [answering, Action.apply_bind, apply_happens]
    cases answer w.outside .opened <;> rfl
  rw [exchange, Action.apply_bind, Action.apply_attempt, opened, advance, escapes]
  cases answer w.outside .opened with
  | error f => exact ⟨.error { failure := f }, rfl, rfl⟩
  | ok _ =>
    simp only [Except.map, Action.apply_bind, Action.apply_attempt, subscriber, apply_happens]
    cases answer (w.outside ++ [.opened]) (.called request) with
    | ok _ =>
      simp only [failure?, Action.apply_bind, Action.apply_attempt, apply_happens,
        List.append_assoc, List.cons_append, List.nil_append]
      cases answer (w.outside ++ [.opened, .called request]) (.closed none) with
      | ok _ => exact ⟨.ok (), rfl, rfl⟩
      | error f => exact ⟨.error { failure := f }, rfl, rfl⟩
    | error earlier =>
      simp only [failure?, Action.apply_bind, Action.apply_attempt, apply_happens,
        List.append_assoc, List.cons_append, List.nil_append]
      cases answer (w.outside ++ [.opened, .called request]) (.closed (some earlier)) with
      | ok _ => exact ⟨.error { failure := earlier }, rfl, rfl⟩
      -- The failure of closing leaves, and the trace keeps the one of the call.
      | error f => exact ⟨.error ⟨f, some earlier, calls request⟩, rfl, rfl⟩

variable {answer calls} {operation destination : String}

/-- Making a request on the service. -/
theorem send_follows {request : PubSubRequest} (function : String)
    (asks : (service answer).Asks operation destination request) :
    ((answering answer calls).send function request).Follows
      ((service answer).Conduct operation destination) := by
  obtain ⟨rfl, rfl⟩ := asks
  intro w
  obtain ⟨r, exchanged, escapes⟩ := apply_exchange_answering answer calls request w
  rw [send, Action.apply_bind, exchanged]
  cases r with
  | ok _ => exact .accepted ⟨rfl, rfl⟩ escapes rfl rfl
  | error t =>
    dsimp only
    cases own : t.failure.isPubSub with
    | true => exact .reported ⟨rfl, rfl⟩ escapes own rfl rfl rfl rfl rfl
    | false => exact .passed ⟨rfl, rfl⟩ escapes own rfl rfl

/-- Settling items on the service. -/
theorem client_follows (k : Settlement) (entries : List BatchEntry) :
    ((answering answer calls).client.perform (k.call destination entries)).Follows
      ((service answer).Conduct k.pubSubOperation destination) := by
  have h : Tolerant ((service answer).Conduct k.pubSubOperation destination) :=
    (Service.lenient_conduct _ _ _ 0).toTolerant
  cases k with
  | ack => exact h.bind (send_follows _ ⟨rfl, rfl⟩) fun _ ↦ h.pure _
  | nack =>
    exact h.bind (h.commonDeadline (fun _ ↦ h.message (by decide)) entries) fun seconds ↦
      h.bind (send_follows _ ⟨rfl, rfl⟩) fun _ ↦ h.pure _

end PubSubBackend

/-- On either backend, settling the items of a queue makes requests for one operation on its
destination, and a request that fails is the last one. A failure of the service's own is logged,
once by the one handler of a logger that is set up, and is the cause of a failed call; any other
one, the lack of an identifier in a response of SQS included, is passed as it is and not logged. -/
theorem failures_translated (policy : Option RetryPolicy) (prefetchSize : Int)
    (generator : GeneratorId) (k : Settlement) (q : QueueId) (destination : String) :
    (∀ (answer : List SqsRequest → SqsRequest → Except Failure Value)
        (w : World (List SqsRequest)),
      let c := Connection.answered answer policy prefetchSize generator
      let r := (c.settle k q destination).apply w
      ∃ requests, r.2.outside = w.outside ++ requests ∧
        (SqsBackend.service answer).Translated k.sqsOperation destination w r.1 r.2 requests ∧
        ∀ (j : Nat) request response, requests[j]? = some request →
          answer (w.outside ++ requests.take j) request = .ok response →
          SqsResponse.LacksId response →
            j + 1 = requests.length ∧ r.1 = .error (.misuse (.missingField "Id")) ∧
              r.2.log.errors = w.log.errors) ∧
    (∀ (answer : List PubSubEvent → PubSubEvent → Except Failure Unit)
        (calls : PubSubRequest → List CallFrame) (w : World (List PubSubEvent)),
      let client := (PubSubBackend.answering answer calls).client
      let c : Connection (QueueClient _) := { client, policy, prefetchSize, generator }
      let r := (c.settle k q destination).apply w
      ∃ requests,
        (PubSubBackend.service answer).Translated k.pubSubOperation destination w r.1 r.2
          requests) ∧
    ∀ (env : Environment) (l l' : Log.Logger), l.configure env = .ok l' →
      l'.handlers.length = 1 := by
  refine ⟨fun answer w ↦ ?_, fun answer calls w ↦ ?_,
    fun _ _ _ ↦ Log.Logger.length_handlers_configure⟩
  · intro c r
    obtain ⟨requests, translated⟩ : ∃ requests,
        (SqsBackend.service answer).Translated k.sqsOperation destination w r.1 r.2 requests :=
      c.settle_translated (SqsBackend.client_follows k) q w
    refine ⟨requests, ?_, translated, fun j request response hj answered lacks ↦ ?_⟩
    · rw [translated.made, SqsBackend.after_service]
    · have escapes := SqsBackend.escapes_of_lacksId answered lacks
      rw [← SqsBackend.after_service answer] at escapes
      obtain ⟨last, outcome, logs⟩ := translated.ends j request _ hj escapes
      exact ⟨last, outcome, logs.errors_eq rfl⟩
  · intro client c r
    exact c.settle_translated (PubSubBackend.client_follows k) q w

/-- A state in which eleven items wait, with a logger that is set up. -/
private def elevenItems {ε : Type} (outside : ε) : World ε where
  queues _ := List.replicate 11 ⟨"a", "orders", ""⟩
  log.logger :=
    { threshold := Log.info, propagate := false
      handlers := [{ formatter := .text Log.standardFormat none, filters := [.context] }] }
  outside

/-- An SQS service that carries out one request and no more. -/
private def tiring (sent : List SqsRequest) (_ : SqsRequest) : Except Failure Value :=
  if sent.isEmpty then .ok (.record []) else .error (.outside (.sqs .unspecified))

/-- A Pub/Sub service that refuses requests, and whose subscribers cannot be closed. -/
private def stuck (_ : List PubSubEvent) : PubSubEvent → Except Failure Unit
  | .opened => .ok ()
  | .called _ => .error (.outside (.pubSub (.refused .notFound "no such subscription")))
  | .closed _ => .error (.outside (.pubSub (.other "still in use")))

private def toTiring : Connection (QueueClient (List SqsRequest)) := .answered tiring none 1 .shared

private def toStuck : Connection (QueueClient (List PubSubEvent)) where
  client := (PubSubBackend.answering stuck fun _ ↦ []).client
  policy := none
  prefetchSize := 1
  generator := .shared

/-- Of the two requests for eleven items SQS fails the second one. Pub/Sub gets no second one, for
closing the first subscriber fails. Either failure is logged once and is the cause of a failed
call. -/
theorem failures_translated_eleven :
    (let r := (toTiring.settle .ack 0 "orders").apply (elevenItems [])
      let f := Failure.outside (.sqs .unspecified)
      r.2.outside.length = 2 ∧
        r.1 = .error (.backendCall "delete_message_batch" "orders" f) ∧
        ∃ record t, r.2.log.errors = [record] ∧ record.exception = .trace t ∧ t.failure = f) ∧
    (let r := (toStuck.settle .ack 0 "orders").apply (elevenItems [])
      let f := Failure.outside (.pubSub (.other "still in use"))
      r.2.outside.length = 3 ∧
        r.1 = .error (.backendCall "acknowledge" "orders" f) ∧
        ∃ record t, r.2.log.errors = [record] ∧ record.exception = .trace t ∧ t.failure = f) := by
  have configured : Log.Logger.configure [] {} = .ok (elevenItems ()).log.logger := rfl
  have once := (failures_translated none 1 .shared .ack 0 "orders").2.2 [] _ _ configured
  constructor
  · intro r f
    have two : r.2.outside.length = 2 := by decide +kernel
    obtain ⟨requests, made, translated, -⟩ :=
      (failures_translated none 1 .shared .ack 0 "orders").1 tiring (elevenItems [])
    obtain ⟨first, second, rfl⟩ : ∃ first second, requests = [first, second] :=
      List.length_eq_two.mp ((congrArg List.length made).symm.trans two)
    obtain ⟨-, outcome, logs⟩ := translated.ends 1 second f rfl rfl
    exact ⟨two, outcome, logs.once rfl rfl once⟩
  · intro r f
    have three : r.2.outside.length = 3 := by decide +kernel
    obtain ⟨requests, translated⟩ :=
      (failures_translated none 1 .shared .ack 0 "orders").2.1 stuck (fun _ ↦ []) (elevenItems [])
    obtain ⟨request, later, rfl⟩ : ∃ request later, requests = request :: later := by
      refine List.ne_nil_iff_exists_cons.mp ?_
      rintro rfl
      have made : r.2.outside = [] := translated.made
      rw [made] at three
      cases three
    obtain ⟨-, outcome, logs⟩ := translated.ends 0 request f rfl rfl
    exact ⟨three, outcome, logs.once rfl rfl once⟩

end QueueAck
