import QueueAck.Proofs.Requests
import QueueAck.Proofs.Responses
import QueueAck.Proofs.Submission

/-!
# Accounting for every entry

Settling a queue on a connection to an SQS service that accounts for every entry of every request.
There is one result for each batch, in the order of the batches, and every item of the queue is
reported once, under its own identifier (`entries_accounted`).
-/

namespace QueueAck

variable {ε : Type}

/-- The requests for batches whose entries have the numbers from a first one on, ten to a batch. -/
def Submission.requests (s : Submission ε) (first : Int) (batches : List (List String)) :
    List SqsRequest :=
  batches.mapIdx fun j batch ↦ (s.call (entriesFrom (first + 10 * j) s.timeout batch)).request

/-- The request for the first batch has the first numbers. -/
theorem Submission.requests_cons (s : Submission ε) (first : Int) (batch : List String)
    (batches : List (List String)) :
    s.requests first (batch :: batches) =
      (s.call (entriesFrom first s.timeout batch)).request :: s.requests (first + 10) batches := by
  have hj (j : Nat) : first + 10 * ((j + 1 : Nat) : Int) = first + 10 + 10 * j := by omega
  simp only [requests, List.mapIdx_cons, hj, Int.natCast_zero, Int.mul_zero, Int.add_zero]

/-- A service that accounts for requests which it gets one after the other. -/
def AccountsFor (answer : List SqsRequest → SqsRequest → Except Failure Value)
    (earlier requests : List SqsRequest) : Prop :=
  ∀ (j : Nat) request, requests[j]? = some request → ∃ response,
    answer (earlier ++ requests.take j) request = .ok response ∧
      SqsResponse.Accounts request response

/-- Results that account for requests as the service has answered them, one after the other. -/
inductive Accounted (answer : List SqsRequest → SqsRequest → Except Failure Value) :
    (earlier requests : List SqsRequest) → List BatchResult → Prop where
  /-- Nothing was requested. -/
  | nil {earlier : List SqsRequest} : Accounted answer earlier [] []
  /-- A request was answered, and then the others. -/
  | cons {earlier requests : List SqsRequest} {request : SqsRequest} {response : Value}
    {result : BatchResult} {results : List BatchResult}
    (answered : answer earlier request = .ok response) (accounts : result.Accounts request response)
    (later : Accounted answer (earlier ++ [request]) requests results) :
    Accounted answer earlier (request :: requests) (result :: results)

section Answers

variable {answer : List SqsRequest → SqsRequest → Except Failure Value}
  {earlier requests : List SqsRequest} {results : List BatchResult}

/-- The first request is accounted for. -/
theorem AccountsFor.head {request : SqsRequest}
    (h : AccountsFor answer earlier (request :: requests)) :
    ∃ response, answer earlier request = .ok response ∧ SqsResponse.Accounts request response := by
  have hr := h 0 request rfl
  rwa [List.take_zero, List.append_nil] at hr

/-- The later requests are accounted for. -/
theorem AccountsFor.tail {request : SqsRequest}
    (h : AccountsFor answer earlier (request :: requests)) :
    AccountsFor answer (earlier ++ [request]) requests := by
  intro j later hj
  have hr := h (j + 1) later hj
  rwa [List.take_succ_cons, List.append_cons] at hr

namespace Accounted

/-- Every request has a result. -/
theorem length_eq (h : Accounted answer earlier requests results) :
    results.length = requests.length := by
  induction h with
  | nil => rfl
  | cons _ _ _ ih => rw [List.length_cons, List.length_cons, ih]

/-- The result at a position accounts for the request at the position. -/
theorem getElem? (h : Accounted answer earlier requests results) {j : Nat} {result : BatchResult}
    (hj : results[j]? = some result) :
    ∃ request response, requests[j]? = some request ∧
      answer (earlier ++ requests.take j) request = .ok response ∧
      result.Accounts request response := by
  induction h generalizing j with
  | nil => simp at hj
  | cons answered accounts _ ih =>
    cases j with
    | zero =>
      cases hj
      exact ⟨_, _, rfl, by rwa [List.take_zero, List.append_nil], accounts⟩
    | succ j =>
      obtain ⟨request, response, hr, ha, hc⟩ := ih hj
      refine ⟨request, response, hr, ?_, hc⟩
      rwa [List.take_succ_cons, List.append_cons]

/-- Together the results report every entry of the requests once. -/
theorem reported_perm (h : Accounted answer earlier requests results) :
    (results.flatMap BatchResult.reported).Perm
      ((requests.flatMap SqsRequest.entries).map fun e ↦ .text e.id) := by
  induction h with
  | nil => exact .nil
  | cons _ accounts _ ih =>
    rw [List.flatMap_cons, List.flatMap_cons, List.map_append]
    exact accounts.reported.append ih

end Accounted

end Answers

/-- The request of a call goes to its destination. -/
theorem BatchCall.queueUrl_request (call : BatchCall) :
    call.request.queueUrl = call.destination := by
  cases call <;> rfl

/-- The identifiers of a call for a batch. -/
theorem Submission.map_id_request (s : Submission ε) (n : Int) (batch : List String) :
    (s.call (entriesFrom n s.timeout batch)).request.entries.map SqsEntry.id =
      (List.range batch.length).map fun i : Nat ↦ (n + i).repr := by
  rw [BatchCall.map_id_request, s.entries_call, map_id_entriesFrom]

section Serve

variable {answer : List SqsRequest → SqsRequest → Except Failure Value}
  {s : Submission (List SqsRequest)}

/-- A request that is answered is sent once, and gives the result of the response. -/
theorem SqsBackend.apply_send_of_answered {request : SqsRequest} {response : Value}
    {result : BatchResult} {w : World (List SqsRequest)}
    (small : request.entries.length ≤ maxBatch)
    (answered : answer w.outside request = .ok response)
    (given : SqsResponse.result request.queueUrl response = .ok result) :
    ((answering answer).send request).apply w =
      (.ok result, { w with outside := w.outside ++ [request] }) := by
  rw [send, if_neg (Nat.not_lt.mpr small), Action.apply_bind, Action.apply_attempt]
  simp only [answering, Action.apply_ofBackend, answered]
  rw [given]
  rfl

/-- A call on the client of a service sends its request. -/
theorem SqsBackend.perform_client (b : SqsBackend ε) (call : BatchCall) :
    b.client.perform call = b.send call.request := by
  cases call <;> rfl

variable {d : Dispatcher (List SqsRequest)} {q : QueueId} {destination : String}

/-- Handing over a batch whose request is answered gives the result of the response, and uses up the
numbers of the entries. -/
theorem Submission.apply_flush_of_answered
    (client : s.client = (SqsBackend.answering answer).client) (announced : s.announce.OnlyLogs)
    (submits : ∀ handles, d.action destination handles = s.submit handles)
    {handles : List String} (some_handle : handles ≠ []) (small : handles.length ≤ maxBatch)
    {w : World (List SqsRequest)} {es : List BatchEntry}
    (numbers : es = entriesFrom (w.counters s.generator) s.timeout handles)
    (written : ∀ i < handles.length, (w.counters s.generator + i).natAbs < Text.writeLimit)
    {response : Value} {result : BatchResult}
    (answered : answer w.outside (s.call es).request = .ok response)
    (given : SqsResponse.result (s.call es).request.queueUrl response = .ok result) :
    ∃ w', (d.flush destination handles).apply w = (.ok (some result), w') ∧
      w'.counters s.generator = w.counters s.generator + handles.length ∧
      w'.outside = w.outside ++ [(s.call es).request] := by
  have short : (s.call es).request.entries.length ≤ maxBatch := by
    rwa [BatchCall.length_request, s.entries_call, numbers, length_entriesFrom]
  obtain ⟨l, flushed⟩ := s.apply_flush announced submits some_handle written
  rw [← numbers] at flushed
  let v : World (List SqsRequest) :=
    World.setCounter { w with log := l } s.generator (w.counters s.generator + handles.length)
  have sent := SqsBackend.apply_send_of_answered (w := v) short answered given
  obtain ⟨l', logged⟩ := reportFailures_onlyLogs s.site s.introduction result.failed
    { v with outside := v.outside ++ [(s.call es).request] }
  refine ⟨{ v with log := l', outside := v.outside ++ [(s.call es).request] }, ?_,
    World.counters_setCounter_self _ s.generator _, rfl⟩
  rw [flushed, Action.apply_bind, client, SqsBackend.perform_client, sent]
  dsimp only
  rw [Action.apply_bind, logged]
  exact rfl

/-- Serving batches on a service that accounts for their requests gives a result for each. -/
theorem Submission.serve_accounted
    (client : s.client = (SqsBackend.answering answer).client) (announced : s.announce.OnlyLogs)
    (submits : ∀ handles, d.action destination handles = s.submit handles)
    {items : List PendingItem} {batches : List (List PendingItem)}
    (cut : Batches maxBatch items batches) {first : Int} {w : World (List SqsRequest)}
    (counter : batches ≠ [] → w.counters s.generator = first)
    (written : ∀ i < items.length, (first + i).natAbs < Text.writeLimit)
    (answers : AccountsFor answer w.outside (s.requests first (batches.map receiptHandles))) :
    let requests := s.requests first (batches.map receiptHandles)
    let r := d.serve q destination batches w
    ∃ results, r.outcome = .ok results ∧ r.world.outside = w.outside ++ requests ∧
      Accounted answer w.outside requests results := by
  induction batches generalizing items first w with
  | nil => exact ⟨[], rfl, (List.append_nil _).symm, .nil⟩
  | cons batch later ih =>
    rw [List.map_cons, s.requests_cons] at answers ⊢
    obtain ⟨response, answered, accounts⟩ := answers.head
    obtain ⟨result, given, reported⟩ := SqsResponse.result_of_accounts accounts
    have hl : (receiptHandles batch).length = batch.length := List.length_map _
    have hi : items.length = batch.length + later.flatten.length := by
      rw [← cut.flatten_eq, List.flatten_cons, List.length_append]
    -- Only the last batch may be short, so later batches have numbers that are ten further.
    have full : later ≠ [] → batch.length = 10 := cut.length_head
    obtain rfl := counter (List.cons_ne_nil batch later)
    obtain ⟨w', flushed, counted, sent⟩ :=
      Submission.apply_flush_of_answered (w := w.setQueue q later.flatten) client announced submits
        (List.ne_nil_of_length_pos (hl ▸ cut.pos batch List.mem_cons_self))
        (hl ▸ cut.le batch List.mem_cons_self) rfl (fun i hb ↦ written i (by omega)) answered given
    have counter' : later ≠ [] → w'.counters s.generator = w.counters s.generator + 10 := by
      intro hn
      rw [counted, hl, full hn]
      rfl
    have written' : ∀ i < later.flatten.length,
        (w.counters s.generator + 10 + i).natAbs < Text.writeLimit := by
      intro i hb
      have hn : later ≠ [] := by
        rintro rfl
        simp at hb
      have hw := written (batch.length + i) (by omega)
      rwa [full hn, Int.natCast_add, ← Int.add_assoc] at hw
    obtain ⟨results, outcome, outside, accounted⟩ :=
      ih cut.tail counter' written' (sent ▸ answers.tail)
    rw [sent] at outside accounted
    rw [Dispatcher.serve, flushed]
    refine ⟨result :: results, ?_, ?_, .cons answered reported accounted⟩
    · rw [BatchRun.outcome_after, outcome]
      rfl
    · rw [List.append_cons]
      exact outside

end Serve

/-- The requests for batches have the identifiers of all their handles, in order. -/
theorem Submission.map_id_requests (s : Submission ε) {handles : List String}
    {batches : List (List String)} (cut : Batches maxBatch handles batches) (first : Int) :
    ((s.requests first batches).flatMap SqsRequest.entries).map SqsEntry.id =
      (List.range handles.length).map fun i : Nat ↦ (first + i).repr := by
  induction batches generalizing handles first with
  | nil =>
    rw [← cut.flatten_eq]
    rfl
  | cons batch later ih =>
    have hl : handles.length = batch.length + later.flatten.length := by
      rw [← cut.flatten_eq, List.flatten_cons, List.length_append]
    rw [s.requests_cons, List.flatMap_cons, List.map_append, s.map_id_request, ih cut.tail, hl,
      List.range_add, List.map_append, List.map_map]
    congr 1
    refine List.map_congr_left fun i hi ↦ ?_
    have hn : later ≠ [] := by
      rintro rfl
      simp at hi
    have full : batch.length = 10 := cut.length_head hn
    simp only [Function.comp_apply, full, Int.natCast_add, Int.add_assoc]
    rfl

/-- The request at a position has the identifiers of the items of its batch. -/
theorem Submission.map_id_of_getElem?_requests (s : Submission ε) {handles : List String}
    {first : Int} {j : Nat} {request : SqsRequest}
    (h : (s.requests first (({} : BatchSize).cut handles))[j]? = some request) :
    request.entries.map SqsEntry.id =
      (List.range' (10 * j) (min (10 * j + 10) handles.length - 10 * j)).map
        fun i : Nat ↦ (first + i).repr := by
  rw [requests, List.getElem?_mapIdx, Option.map_eq_some_iff] at h
  obtain ⟨batch, hb, rfl⟩ := h
  have hl : batch.length = min (10 * j + 10) handles.length - 10 * j := by
    rw [({} : BatchSize).eq_of_getElem?_cut hb, List.length_take, List.length_drop]
    change min 10 (handles.length - j * 10) = _
    omega
  rw [s.map_id_request, hl, List.range'_eq_map_range, List.map_map]
  refine List.map_congr_left fun i _ ↦ ?_
  simp only [Function.comp_apply, Int.natCast_add, Int.natCast_mul, Int.add_assoc]
  rfl

/-- Every request goes to the destination of its call. -/
theorem Submission.queueUrl_of_mem_requests (s : Submission ε) {destination : String}
    (hd : ∀ entries, (s.call entries).destination = destination) {first : Int}
    {batches : List (List String)} {request : SqsRequest} (h : request ∈ s.requests first batches) :
    request.queueUrl = destination := by
  obtain ⟨j, hj, rfl⟩ := List.mem_mapIdx.mp h
  rw [BatchCall.queueUrl_request, hd]

section Connection

variable {answer : List SqsRequest → SqsRequest → Except Failure Value}
  {policy : Option RetryPolicy} {prefetchSize : Int} {generator : GeneratorId} {k : Settlement}
  {q : QueueId} {destination : String} {w : World (List SqsRequest)}

/-- The results of settling the items of a queue account for the requests of its batches. -/
theorem Connection.settle_accounted {s : Submission (List SqsRequest)}
    (submits : (Connection.answered answer policy prefetchSize generator).Submits destination k s)
    (same : ∀ item ∈ w.queues q, item.destination = destination)
    (delay : ∀ p, k = .nack → policy = some p → p.delay.natAbs < Text.writeLimit)
    (written : ∀ i < (w.queues q).length, (w.counters generator + i).natAbs < Text.writeLimit)
    (answers : AccountsFor answer w.outside
      (s.requests (w.counters generator) (({} : BatchSize).cut (receiptHandles (w.queues q))))) :
    let c := Connection.answered answer policy prefetchSize generator
    let requests :=
      s.requests (w.counters generator) (({} : BatchSize).cut (receiptHandles (w.queues q)))
    ∃ results, ((c.settle k q destination).apply w).1 = .ok results ∧
      ((c.settle k q destination).apply w).2.outside = w.outside ++ requests ∧
      Accounted answer w.outside requests results := by
  intro c requests
  have announced : s.announce.OnlyLogs := by
    cases submits with
    | ack => exact .pure
    | nack asked => exact c.negativeAcknowledger.reportPolicy_onlyLogs (delay · rfl) destination
  have quiet : c.client.Guarantees (SameQueue q) :=
    SqsBackend.client_guarantees (steady_sameQueue q) fun _ _ ↦ rfl
  have hb : (({} : BatchSize).cut (w.queues q)).map receiptHandles =
      ({} : BatchSize).cut (receiptHandles (w.queues q)) :=
    BatchSize.map_cut _ PendingItem.receiptHandle (w.queues q)
  let v := w.setContext (w.log.context.overlay (operationContext destination k.operation))
  have counter : v.counters s.generator = w.counters generator := by
    rw [show s.generator = generator from submits.generator_eq]
    rfl
  obtain ⟨results, outcome, outside, accounted⟩ := s.serve_accounted (d := c.dispatcher k)
    (q := q) (w := v) submits.client_eq announced submits.action_eq_submit
    (({} : BatchSize).batches_cut (w.queues q)) (fun _ ↦ counter) written
    (by rw [hb]; exact answers)
  rw [hb] at outside accounted
  rw [Connection.settle_eq_serve (Connection.leavesQueue_dispatcher quiet k) same]
  exact ⟨results, outcome, outside, accounted⟩

variable (answer policy prefetchSize generator k q destination w)

/-- On a service that accounts for every entry of its requests, settling the items of a queue gives
one result for each batch, in their order. The result of batch `j` reports the identifiers of its
items, each once, and raises a failure that carries it exactly when an entry was refused. Over all
results, the identifier of every item is reported once. -/
theorem entries_accounted {s : Submission (List SqsRequest)}
    (submits : (Connection.answered answer policy prefetchSize generator).Submits destination k s)
    (same : ∀ item ∈ w.queues q, item.destination = destination)
    (delay : ∀ p, k = .nack → policy = some p → p.delay.natAbs < Text.writeLimit)
    (written : ∀ i < (w.queues q).length, (w.counters generator + i).natAbs < Text.writeLimit)
    (answers : AccountsFor answer w.outside
      (s.requests (w.counters generator) (({} : BatchSize).cut (receiptHandles (w.queues q))))) :
    let c := Connection.answered answer policy prefetchSize generator
    let first := w.counters generator
    let n := (w.queues q).length
    let batches := ({} : BatchSize).cut (receiptHandles (w.queues q))
    let requests := s.requests first batches
    ∃ results, ((c.settle k q destination).apply w).1 = .ok results ∧
      ((c.settle k q destination).apply w).2.outside = w.outside ++ requests ∧
      results.length = batches.length ∧
      (∀ (j : Nat) result, results[j]? = some result →
        result.destination = destination ∧
        result.reported.Perm
          ((List.range' (10 * j) (min (10 * j + 10) n - 10 * j)).map fun i : Nat ↦
            .text (first + i).repr) ∧
        ∃ request response, requests[j]? = some request ∧
          answer (w.outside ++ requests.take j) request = .ok response ∧
          (result.raiseForFailures = .error (.partialBatch result) ↔
            SqsResponse.ReportsFailure response) ∧
          (result.raiseForFailures = .ok () ↔ ¬SqsResponse.ReportsFailure response)) ∧
      (results.flatMap BatchResult.reported).Perm
        ((List.range n).map fun i : Nat ↦ .text (first + i).repr) := by
  intro c first n batches requests
  obtain ⟨results, outcome, outside, accounted⟩ :=
    Connection.settle_accounted submits same delay written answers
  have hn : (receiptHandles (w.queues q)).length = n := List.length_map _
  have texts (es : List SqsEntry) :
      (es.map fun e ↦ Value.text e.id) = (es.map SqsEntry.id).map .text := List.map_map.symm
  refine ⟨results, outcome, outside, ?_, ?_, ?_⟩
  · rw [accounted.length_eq]
    exact List.length_mapIdx
  · intro j result hj
    obtain ⟨request, response, hr, answered, accounts⟩ := accounted.getElem? hj
    refine ⟨?_, ?_, request, response, hr, answered, accounts.raises_iff, accounts.passes_iff⟩
    · rw [accounts.destination, s.queueUrl_of_mem_requests submits.destination_call]
      exact List.mem_of_getElem? hr
    · have reported := accounts.reported
      rwa [texts, s.map_id_of_getElem?_requests hr, hn, List.map_map] at reported
  · have reported := accounted.reported_perm
    rwa [texts, s.map_id_requests (({} : BatchSize).batches_cut _), hn, List.map_map] at reported

end Connection

/-- A service that refuses entry three, and carries out all others. -/
private def picky (_ : List SqsRequest) (request : SqsRequest) : Except Failure Value :=
  let entry (id : String) : Value := .record [("Id", .text id)]
  let ids := request.entries.map SqsEntry.id
  .ok (.record [("Successful", .list ((ids.filter (· != "3")).map entry)),
    ("Failed", .list ((ids.filter fun id ↦ !(id != "3")).map entry))])

private theorem accountsFor_picky (earlier requests : List SqsRequest) :
    AccountsFor picky earlier requests := by
  intro j request _
  refine ⟨_, rfl, _, _, ⟨rfl, rfl⟩, ?_⟩
  have all := List.filter_append_perm (· != "3") (request.entries.map SqsEntry.id)
  have named := all.map fun id ↦ some (Value.text id)
  rw [List.map_map] at named
  rw [← List.map_append, List.map_map]
  exact named

private theorem reportsFailure_picky {earlier : List SqsRequest} {request : SqsRequest}
    {response : Value} (h : picky earlier request = .ok response) :
    SqsResponse.ReportsFailure response ↔ "3" ∈ request.entries.map SqsEntry.id := by
  have refused : SqsResponse.listed response "Failed" =
      some (((request.entries.map SqsEntry.id).filter fun id ↦ !(id != "3")).map fun id ↦
        .record [("Id", .text id)]) := by
    cases h
    rfl
  simp only [SqsResponse.ReportsFailure, refused, Option.some.injEq,
    ← List.ne_nil_iff_exists_cons, ne_eq, List.map_eq_nil_iff, List.filter_eq_nil_iff]
  simp

/-- A state in which twelve items wait. -/
private def twelveItems : World (List SqsRequest) where
  queues _ := List.replicate 12 ⟨"a", "orders", ""⟩
  outside := []

/-- Of twelve items the fourth one is refused: the first result raises a failure, the second one,
which reports the last two items, does not. -/
theorem entries_accounted_picky :
    let c := Connection.answered picky (some ⟨.explicitDelay, 30⟩) 1 .shared
    let s := c.negativeAcknowledger.submission "orders" 30
    c.Submits "orders" .nack s ∧ (∀ item ∈ twelveItems.queues 0, item.destination = "orders") ∧
    AccountsFor picky []
      (s.requests 0 (({} : BatchSize).cut (receiptHandles (twelveItems.queues 0)))) ∧
    ∃ first second : BatchResult,
      ((c.settle .nack 0 "orders").apply twelveItems).1 = .ok [first, second] ∧
      first.raiseForFailures = .error (.partialBatch first) ∧
      second.reported.Perm [.text "10", .text "11"] ∧ second.raiseForFailures = .ok () := by
  intro c s
  have submits : c.Submits "orders" .nack s := .nack rfl
  have same : ∀ item ∈ twelveItems.queues 0, item.destination = "orders" := by decide
  have delay : ∀ p, Settlement.nack = .nack → c.policy = some p →
      p.delay.natAbs < Text.writeLimit := by
    rintro _ - ⟨⟩
    decide +kernel
  have written : ∀ i < (twelveItems.queues 0).length,
      (twelveItems.counters .shared + i).natAbs < Text.writeLimit := by decide +kernel
  have answers := accountsFor_picky []
    (s.requests 0 (({} : BatchSize).cut (receiptHandles (twelveItems.queues 0))))
  obtain ⟨results, settled, -, length, each, -⟩ := entries_accounted picky
    (some ⟨.explicitDelay, 30⟩) 1 .shared .nack 0 "orders" twelveItems submits same delay written
    answers
  obtain ⟨first, second, rfl⟩ := List.length_eq_two.mp length
  obtain ⟨-, -, request, response, hr, answered, raises, -⟩ := each 0 first rfl
  obtain ⟨-, reported, request', response', hr', answered', -, passes⟩ := each 1 second rfl
  have ids := s.map_id_of_getElem?_requests hr
  have ids' := s.map_id_of_getElem?_requests hr'
  refine ⟨submits, same, answers, first, second, settled, ?_, reported, ?_⟩
  · rw [raises, reportsFailure_picky answered, ids]
    decide +kernel
  · rw [passes, reportsFailure_picky answered', ids']
    decide +kernel

end QueueAck
