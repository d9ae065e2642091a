import QueueAck.Proofs.Accounting
import QueueAck.Proofs.Deferral
import QueueAck.Proofs.DistinctDeadlines
import QueueAck.Proofs.Translation

/-!
# The two backends agree

SQS and Pub/Sub are asked in different forms: entry by entry, each with a timeout and a report of
its own, and handle by handle under one deadline, all or nothing. As long as neither refuses
anything, and no timeout is above the longest deadline, a run does not depend on which of them it is
made on: the requests mirror each other, and everything else is the same (`backends_agree`).
-/

namespace QueueAck

variable {ε η : Type}

/-- The state with other backends. -/
def World.on (w : World ε) (outside : η) : World η :=
  { queues := w.queues, counters := w.counters, generators := w.generators, patience := w.patience
    log := w.log, outside }

/-- A request to Pub/Sub that asks for what a request to SQS asks for: for one destination, with the
same handles in the same order, and under the timeout of all its entries. -/
inductive Mirrors : SqsRequest → PubSubRequest → Prop where
  /-- Messages are deleted. -/
  | delete (destination : String) (entries : List SqsEntry) :
    Mirrors ⟨.delete, destination, entries⟩
      (.acknowledge destination (entries.map SqsEntry.receiptHandle))
  /-- Their timeouts are changed. -/
  | changeVisibility (destination : String) (entries : List SqsEntry) (seconds : Int)
    (asked : ∀ e ∈ entries, e.visibilityTimeout = some seconds) :
    Mirrors ⟨.changeVisibility, destination, entries⟩
      (.modifyDeadline destination (entries.map SqsEntry.receiptHandle) seconds)

/-- What happens to a Pub/Sub service on a request that succeeds. -/
def PubSubEvent.exchange (request : PubSubRequest) : List PubSubEvent :=
  [.opened, .called request, .closed none]

/-- The response lists every entry of its request as successful, in order, and none as failed. -/
def SqsResponse.Confirms (request : SqsRequest) (response : Value) : Prop :=
  ∃ successful, Lists response successful [] ∧
    (successful.map fun e ↦ e.field? "Id") = request.entries.map fun e ↦ some (.text e.id)

/-- A service that confirms every request. -/
def ConfirmsAll (answer : List SqsRequest → SqsRequest → Except Failure Value) : Prop :=
  ∀ sent request, ∃ response, answer sent request = .ok response ∧
    SqsResponse.Confirms request response

/-- A service on which nothing fails. -/
def NothingFails (reply : List PubSubEvent → PubSubEvent → Except Failure Unit) : Prop :=
  ∀ past event, reply past event = .ok ()

/-- A connection to a Pub/Sub service that replies in a given way. -/
def Connection.replied (reply : List PubSubEvent → PubSubEvent → Except Failure Unit)
    (calls : PubSubRequest → List CallFrame) (policy : Option RetryPolicy) (prefetchSize : Int)
    (generator : GeneratorId) : Connection (QueueClient (List PubSubEvent)) :=
  { client := (PubSubBackend.answering reply calls).client, policy, prefetchSize, generator }

/-- A response that confirms its request accounts for it. -/
theorem SqsResponse.Confirms.accounts {request : SqsRequest} {response : Value}
    (h : Confirms request response) : Accounts request response := by
  obtain ⟨successful, lists, ids⟩ := h
  refine ⟨successful, [], lists, ?_⟩
  rw [List.append_nil, ids]

/-- The result of a response that confirms its request has the identifiers of all entries. -/
theorem SqsResponse.result_of_confirms {request : SqsRequest} {response : Value}
    (h : Confirms request response) :
    result request.queueUrl response =
      .ok { destination := request.queueUrl
            successful := request.entries.map fun e ↦ .text e.id } := by
  obtain ⟨successful, lists, ids⟩ := h
  have named : ∀ e ∈ successful ++ [], ∃ id, e.field? "Id" = some id := by
    intro e he
    rw [List.append_nil] at he
    have hid : e.field? "Id" ∈ request.entries.map fun e ↦ some (.text e.id) :=
      ids ▸ List.mem_map_of_mem he
    obtain ⟨entry, -, hid⟩ := List.mem_map.mp hid
    exact ⟨.text entry.id, hid.symm⟩
  have texts : successful.map idOf = request.entries.map fun e ↦ .text e.id := by
    have texts := congrArg (List.map fun v : Option Value ↦ v.getD .null) ids
    rw [List.map_map, List.map_map] at texts
    exact texts
  rw [result_of_named lists named, texts]
  rfl

section Calls

variable {answer : List SqsRequest → SqsRequest → Except Failure Value}
  {reply : List PubSubEvent → PubSubEvent → Except Failure Unit}

/-- A request that SQS confirms is sent once, and all its entries are successful. -/
theorem SqsBackend.apply_send_of_confirms (confirms : ConfirmsAll answer)
    {request : SqsRequest} (small : request.entries.length ≤ maxBatch)
    (w : World (List SqsRequest)) :
    ((answering answer).send request).apply w =
      (.ok { destination := request.queueUrl
             successful := request.entries.map fun e ↦ .text e.id },
        { w with outside := w.outside ++ [request] }) := by
  obtain ⟨response, answered, confirmed⟩ := confirms w.outside request
  exact apply_send_of_answered small answered (SqsResponse.result_of_confirms confirmed)

/-- A request on which nothing fails is made in one exchange. -/
theorem PubSubBackend.apply_send_of_succeeds (succeeds : NothingFails reply)
    (calls : PubSubRequest → List CallFrame)
    (function : String) (request : PubSubRequest) (v : World (List PubSubEvent)) :
    ((answering reply calls).send function request).apply v =
      (.ok (), { v with outside := v.outside ++ PubSubEvent.exchange request }) := by
  obtain ⟨r, exchanged, escaped⟩ := apply_exchange_answering reply calls request v
  have clear : escapes reply v.outside request = none := by
    simp only [escapes, succeeds _ _]
    rfl
  have made : advance reply v.outside request = v.outside ++ PubSubEvent.exchange request := by
    simp only [advance, succeeds _ _]
    rfl
  rw [clear] at escaped
  rw [made] at exchanged
  rw [send, Action.apply_bind, exchanged]
  cases r with
  | ok => rfl
  | error t => cases escaped

end Calls

/-- The deadline of entries with one timeout is that timeout, when it is not too long. -/
theorem PubSubBackend.commonDeadline_of_forall {entries : List BatchEntry} {t : Int}
    (h : ∀ e ∈ entries, e.visibilityTimeout = some t) (short : t ≤ maxAckDeadline) :
    ∃ seconds, (commonDeadline entries : Action ε Int) = pure seconds ∧
      ∀ e ∈ entries, e.visibilityTimeout = some seconds := by
  rw [commonDeadline]
  cases entries with
  | nil =>
    rw [distinctDeadlines_nil]
    exact ⟨0, rfl, by simp⟩
  | cons e es =>
    have some_entry := List.cons_ne_nil e es
    rw [(Shares.of_forall some_entry h).distinctDeadlines_eq some_entry]
    exact ⟨t, if_neg (Int.not_lt.mpr short), h⟩

/-- The relation between states of the two services that have all in common but what the services
have got since an earlier time: requests that mirror each other, and none of them failed on
Pub/Sub. -/
def Mirrored (sent : List SqsRequest) (past : List PubSubEvent) (w : World (List SqsRequest))
    (v : World (List PubSubEvent)) : Prop :=
  ∃ requests mirrored, w.outside = sent ++ requests ∧
    v = w.on (past ++ mirrored.flatMap PubSubEvent.exchange) ∧
    List.Forall₂ Mirrors requests mirrored

namespace Mirrored

variable {sent : List SqsRequest} {past : List PubSubEvent}

/-- What the two services have in common may change. -/
theorem parallel : Parallel (Mirrored sent past) where
  queues := by rintro w _ ⟨_, _, -, rfl, -⟩; rfl
  counters := by rintro w _ ⟨_, _, -, rfl, -⟩; rfl
  patience := by rintro w _ ⟨_, _, -, rfl, -⟩; rfl
  log := by rintro w _ ⟨_, _, -, rfl, -⟩; rfl
  setQueue := by
    rintro w _ ⟨requests, mirrored, made, rfl, mirrors⟩ q items
    exact ⟨requests, mirrored, made, rfl, mirrors⟩
  setCounter := by
    rintro w _ ⟨requests, mirrored, made, rfl, mirrors⟩ g n
    exact ⟨requests, mirrored, made, rfl, mirrors⟩
  setLog := by
    rintro w _ ⟨requests, mirrored, made, rfl, mirrors⟩ l
    exact ⟨requests, mirrored, made, rfl, mirrors⟩

/-- One more request on either side. -/
theorem more {w : World (List SqsRequest)} {v : World (List PubSubEvent)}
    (h : Mirrored sent past w v) {request : SqsRequest} {request' : PubSubRequest}
    (hm : Mirrors request request') :
    Mirrored sent past { w with outside := w.outside ++ [request] }
      { v with outside := v.outside ++ PubSubEvent.exchange request' } := by
  obtain ⟨requests, mirrored, made, rfl, mirrors⟩ := h
  refine ⟨requests ++ [request], mirrored ++ [request'], ?_, ?_,
    List.rel_append mirrors (.cons hm .nil)⟩
  · rw [made, List.append_assoc]
  · rw [List.flatMap_append, List.flatMap_singleton, ← List.append_assoc]
    rfl

variable {answer : List SqsRequest → SqsRequest → Except Failure Value}
  {reply : List PubSubEvent → PubSubEvent → Except Failure Unit}
  {destination : String} {entries : List BatchEntry}

/-- Deleting a batch. -/
theorem delete
    (confirms : ConfirmsAll answer) (succeeds : NothingFails reply)
    (calls : PubSubRequest → List CallFrame)
    (small : entries.length ≤ maxBatch) :
    ((SqsBackend.answering answer).client.delete destination entries).Agrees (Mirrored sent past)
      ((PubSubBackend.answering reply calls).client.delete destination entries) := by
  intro w v h
  have short : (SqsBackend.deleteEntries entries).length ≤ maxBatch := by
    rwa [SqsBackend.deleteEntries, List.length_map]
  have handles : (SqsBackend.deleteEntries entries).map SqsEntry.receiptHandle =
      entries.map BatchEntry.receiptHandle := List.map_map
  rw [SqsBackend.client, PubSubBackend.client]
  dsimp only
  rw [SqsBackend.apply_send_of_confirms confirms short, Action.apply_bind,
    PubSubBackend.apply_send_of_succeeds succeeds]
  refine ⟨?_, ?_⟩
  · simp [PubSubBackend.allSuccessful, SqsBackend.deleteEntries]
  · exact h.more (handles ▸ .delete destination _)

/-- Changing the timeouts of a batch to a common one. -/
theorem changeVisibility
    (confirms : ConfirmsAll answer) (succeeds : NothingFails reply)
    (calls : PubSubRequest → List CallFrame)
    (small : entries.length ≤ maxBatch) {t : Int}
    (asked : ∀ e ∈ entries, e.visibilityTimeout = some t) (within : t ≤ maxAckDeadline) :
    ((SqsBackend.answering answer).client.changeVisibility destination entries).Agrees
      (Mirrored sent past)
      ((PubSubBackend.answering reply calls).client.changeVisibility destination entries) := by
  intro w v h
  have short : (SqsBackend.changeEntries entries).length ≤ maxBatch := by
    rwa [SqsBackend.changeEntries, List.length_map]
  have handles : (SqsBackend.changeEntries entries).map SqsEntry.receiptHandle =
      entries.map BatchEntry.receiptHandle := List.map_map
  obtain ⟨seconds, deadline, all⟩ :=
    PubSubBackend.commonDeadline_of_forall (ε := List PubSubEvent) asked within
  have timeouts : ∀ e ∈ SqsBackend.changeEntries entries, e.visibilityTimeout = some seconds := by
    intro e he
    obtain ⟨entry, hm, rfl⟩ := List.mem_map.mp he
    exact all entry hm
  rw [SqsBackend.client, PubSubBackend.client]
  dsimp only
  rw [SqsBackend.apply_send_of_confirms confirms short, deadline, pure_bind, Action.apply_bind,
    PubSubBackend.apply_send_of_succeeds succeeds]
  refine ⟨?_, ?_⟩
  · simp [PubSubBackend.allSuccessful, SqsBackend.changeEntries]
  · exact h.more (handles ▸ .changeVisibility destination _ seconds timeouts)

/-- A batch of a connection to either service is settled in the same way. -/
theorem action (confirms : ConfirmsAll answer) (succeeds : NothingFails reply)
    (calls : PubSubRequest → List CallFrame) {policy : Option RetryPolicy} {prefetchSize : Int}
    {generator : GeneratorId} {k : Settlement}
    (short : ∀ t, k = .nack → resolveDelay policy = some t → t ≤ maxAckDeadline)
    {handles : List String} (small : handles.length ≤ maxBatch) :
    let c := Connection.answered answer policy prefetchSize generator
    let d := Connection.replied reply calls policy prefetchSize generator
    ((c.dispatcher k).action destination handles).Agrees (Mirrored sent past)
      ((d.dispatcher k).action destination handles) := by
  intro c d
  cases k with
  | ack =>
    refine ((parallel.coupledOn 0).numbersAlike _).acknowledge fun w entries w' numbered ↦ ?_
    refine delete confirms succeeds calls ?_
    rwa [eq_entriesFrom_of_ok numbered, length_entriesFrom]
  | nack =>
    refine ((parallel.coupledOn 0).numbersAlike _).handBack fun t ht w entries w' numbered ↦ ?_
    obtain rfl := eq_entriesFrom_of_ok numbered
    refine changeVisibility confirms succeeds calls ?_
      (fun e ↦ visibilityTimeout_of_mem_entriesFrom) (short t rfl ht)
    rwa [length_entriesFrom]

/-- A run on either service comes to the same. -/
theorem settle (confirms : ConfirmsAll answer) (succeeds : NothingFails reply)
    (calls : PubSubRequest → List CallFrame) {policy : Option RetryPolicy} {prefetchSize : Int}
    {generator : GeneratorId} {k : Settlement}
    (short : ∀ t, k = .nack → resolveDelay policy = some t → t ≤ maxAckDeadline) (q : QueueId) :
    let c := Connection.answered answer policy prefetchSize generator
    let d := Connection.replied reply calls policy prefetchSize generator
    (c.settle k q destination).Agrees (Mirrored sent past) (d.settle k q destination) := by
  intro c d
  rw [c.settle_eq_within, d.settle_eq_within]
  have coupled : CoupledOn (Mirrored sent past) q := parallel.coupledOn q
  refine coupled.within _ (coupled.dispatch (by cases k <;> rfl) fun handles hl ↦ ?_)
  exact action confirms succeeds calls short (Nat.le_trans hl (c.dispatcher k).size.val_le)

end Mirrored

/-- On a service that confirms every request, settling items of one destination gives results, as
long as the numbers that are shown can be written. -/
theorem Connection.settle_results {answer : List SqsRequest → SqsRequest → Except Failure Value}
    (confirms : ConfirmsAll answer) (policy : Option RetryPolicy) (prefetchSize : Int)
    {generator : GeneratorId} {k : Settlement} {q : QueueId} {destination : String}
    {w : World (List SqsRequest)} (same : ∀ item ∈ w.queues q, item.destination = destination)
    (delay : ∀ p, k = .nack → policy = some p → p.delay.natAbs < Text.writeLimit)
    (written : ∀ i < (w.queues q).length, (w.counters generator + i).natAbs < Text.writeLimit) :
    let c := Connection.answered answer policy prefetchSize generator
    ∃ results, ((c.settle k q destination).apply w).1 = .ok results := by
  intro c
  have accounts (earlier requests : List SqsRequest) : AccountsFor answer earlier requests := by
    intro j request _
    obtain ⟨response, answered, confirmed⟩ := confirms (earlier ++ requests.take j) request
    exact ⟨response, answered, confirmed.accounts⟩
  have submitted {s : Submission (List SqsRequest)} (submits : c.Submits destination k s) :
      ∃ results, ((c.settle k q destination).apply w).1 = .ok results := by
    obtain ⟨results, outcome, -⟩ :=
      settle_accounted submits same delay written (accounts _ _)
    exact ⟨results, outcome⟩
  cases k with
  | ack => exact submitted .ack
  | nack =>
    cases asks : resolveDelay policy with
    | some timeout => exact submitted (.nack asks)
    | none => exact ⟨[], (nack_of_deferred (c := c) asks (delay · rfl) same).1⟩

/-- As long as SQS confirms every request and nothing fails on Pub/Sub, a run comes to the same on
either: the outcomes are equal, and so are the states but for what the services got. The requests
mirror each other one by one. A run on items of one destination has results, unless a number that is
shown has too many digits to be written. -/
theorem backends_agree {answer : List SqsRequest → SqsRequest → Except Failure Value}
    {reply : List PubSubEvent → PubSubEvent → Except Failure Unit}
    (confirms : ConfirmsAll answer) (succeeds : NothingFails reply)
    (calls : PubSubRequest → List CallFrame) {policy : Option RetryPolicy} (prefetchSize : Int)
    (generator : GeneratorId) {k : Settlement}
    (short : ∀ t, k = .nack → resolveDelay policy = some t → t ≤ maxAckDeadline) (q : QueueId)
    (destination : String) (w : World (List SqsRequest)) (past : List PubSubEvent) :
    let c := Connection.answered answer policy prefetchSize generator
    let d := Connection.replied reply calls policy prefetchSize generator
    let r := (c.settle k q destination).apply w
    let s := (d.settle k q destination).apply (w.on past)
    r.1 = s.1 ∧
    (∃ requests mirrored, r.2.outside = w.outside ++ requests ∧
      s.2 = r.2.on (past ++ mirrored.flatMap PubSubEvent.exchange) ∧
      List.Forall₂ Mirrors requests mirrored) ∧
    ((∀ item ∈ w.queues q, item.destination = destination) →
      (∀ p, k = .nack → policy = some p → p.delay.natAbs < Text.writeLimit) →
      (∀ i < (w.queues q).length, (w.counters generator + i).natAbs < Text.writeLimit) →
      ∃ results, r.1 = .ok results) := by
  intro c d r s
  have start : Mirrored w.outside past w (w.on past) :=
    ⟨[], [], (List.append_nil _).symm, by rw [List.flatMap_nil, List.append_nil], .nil⟩
  obtain ⟨outcome, after⟩ := Mirrored.settle confirms succeeds calls short q w (w.on past) start
  exact ⟨outcome, after, Connection.settle_results confirms policy prefetchSize⟩

/-- A service that carries out every entry. -/
private def obliging (_ : List SqsRequest) (request : SqsRequest) : Except Failure Value :=
  .ok (.record [("Successful", .list (request.entries.map fun e ↦ .record [("Id", .text e.id)]))])

/-- A state in which twelve items wait, and the next number is seven. -/
private def twelveWaiting : World (List SqsRequest) where
  queues _ := List.replicate 12 ⟨"a", "orders", ""⟩
  counters _ := 7
  outside := []

/-- Twelve items are handed back with two requests on either service, and with the same results. -/
theorem backends_agree_obliging :
    let policy : Option RetryPolicy := some ⟨.explicitDelay, 30⟩
    let c := Connection.answered obliging policy 1 .shared
    let d := Connection.replied (fun _ _ ↦ .ok ()) (fun _ ↦ []) policy 1 .shared
    ∃ results,
      ((c.settle .nack 0 "orders").apply twelveWaiting).1 = .ok results ∧
      ((d.settle .nack 0 "orders").apply (twelveWaiting.on [])).1 = .ok results ∧
      ((c.settle .nack 0 "orders").apply twelveWaiting).2.outside.length = 2 ∧
      ((d.settle .nack 0 "orders").apply (twelveWaiting.on [])).2.counters .shared = 19 := by
  intro policy c d
  have confirms : ConfirmsAll obliging := by
    intro sent request
    refine ⟨_, rfl, _, ⟨rfl, rfl⟩, ?_⟩
    rw [List.map_map]
    rfl
  have short : ∀ t, Settlement.nack = .nack → resolveDelay policy = some t →
      t ≤ maxAckDeadline := by
    rintro t - ⟨⟩
    decide
  obtain ⟨outcome, ⟨_, _, -, same, -⟩, returns⟩ := backends_agree confirms (fun _ _ ↦ rfl)
    (fun _ ↦ []) 1 .shared short 0 "orders" twelveWaiting []
  have delay : ∀ p, Settlement.nack = .nack → policy = some p →
      p.delay.natAbs < Text.writeLimit := by
    intro p _ hp
    obtain rfl := Option.some.inj hp
    decide +kernel
  obtain ⟨results, settled⟩ := returns (by decide) delay (by decide +kernel)
  have counted : ((c.settle .nack 0 "orders").apply twelveWaiting).2.counters .shared = 19 := by
    decide +kernel
  exact ⟨results, settled, outcome ▸ settled, by decide +kernel,
    (congrArg (fun v : World _ ↦ v.counters .shared) same).trans counted⟩

end QueueAck
