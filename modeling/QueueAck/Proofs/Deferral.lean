import QueueAck.Proofs.Isolation
import QueueAck.Proofs.Requests

/-!
# Handing back under the delay of the queue

Under the delay of the queue nothing is requested when messages are handed back. A queue is drained,
and the other queues, the sources of identifiers and the service are as they were
(`Connection.nack_besides`). A caller whose queues are not both acknowledged and handed back can
therefore leave out the steps that hand back, and acknowledges with the same calls and outcomes
(`deferred_nacks_erased`).
-/

namespace QueueAck

variable {ε σ : Type}

/-- True for a step that hands a queue back. -/
def CallerStep.isNack : CallerStep → Bool
  | .fill .. => false
  | .ack .. => false
  | .nack .. => true

/-- The relation between states that differ in nothing but the log and the queues that are set
aside. -/
structure Besides (aside : QueueId → Prop) (w v : World ε) : Prop where
  /-- The other queues are the same. -/
  queues : ∀ q, ¬aside q → w.queues q = v.queues q
  /-- All but the queues and the log is the same. -/
  rest : v = { w with queues := v.queues, log := v.log }

namespace Besides

variable {aside : QueueId → Prop} {q : QueueId}

/-- The relation holds the other way round. -/
theorem symm {w v : World ε} (h : Besides aside w v) : Besides aside v w :=
  ⟨fun q hq ↦ (h.queues q hq).symm, by rw [h.rest]⟩

/-- The relation holds in two steps. -/
theorem trans {u v w : World ε} (h : Besides aside u v) (h' : Besides aside v w) :
    Besides aside u w :=
  ⟨fun q hq ↦ (h.queues q hq).trans (h'.queues q hq), by rw [h'.rest, h.rest]⟩

/-- With a record, the records are the same. -/
theorem noted {w v : World (ε × σ)} (h : Besides aside w v) : Noted (Besides aside) w v :=
  ⟨⟨h.queues, congrArg World.forget h.rest⟩, (congrArg World.record h.rest).symm⟩

/-- The same change to a queue does not matter, whichever it is. -/
theorem setQueue {w v : World ε} (h : Besides aside w v) (q : QueueId) (items : List PendingItem) :
    Besides aside (w.setQueue q items) (v.setQueue q items) where
  queues r hr := by
    simp only [World.setQueue]
    split
    · rfl
    · exact h.queues r hr
  rest := by rw [h.rest]; rfl

/-- A queue that is not set aside is drained alike. -/
theorem coupledOn (hq : ¬aside q) : CoupledOn (Besides (ε := ε) aside) q where
  counters h := by rw [h.rest]
  setCounter h g n := ⟨h.queues, by rw [h.rest]; rfl⟩
  report h r := ⟨h.queues, by rw [h.rest]⟩
  overlay _ h' fields := ⟨h'.queues, by rw [h'.rest]; rfl⟩
  queue h := h.queues q hq
  patience h := by rw [h.rest]
  setQueue h items := h.setQueue q items

/-- A service that keeps to itself does the same in both states. -/
theorem detached {α : Type} {a : Action ε α} (ha : a.Detached) : a.Agrees (Besides aside) a := by
  obtain ⟨f, rfl⟩ := ha
  intro w v h
  rw [Action.apply_ofBackend, Action.apply_ofBackend, h.rest]
  exact ⟨rfl, h.queues, rfl⟩

/-- A queue that is set aside may be drained. -/
theorem indifferent (hq : aside q) : Indifferent (Besides (ε := ε) aside) q where
  refl _ := ⟨fun _ _ ↦ rfl, rfl⟩
  trans := trans
  log _ _ := ⟨fun _ _ ↦ rfl, rfl⟩
  queue _ _ := ⟨fun _ hr ↦ (World.queues_setQueue_of_ne _ _ (by rintro rfl; exact hr hq)).symm, rfl⟩

end Besides

/-- Under the delay of the queue every batch is left as it is, without a result. -/
theorem NegativeAcknowledger.apply_flush_of_queueDelay {n : NegativeAcknowledger ε}
    (asks : resolveDelay n.policy = none)
    (written : ∀ p, n.policy = some p → p.delay.natAbs < Text.writeLimit) (destination : String)
    (handles : List String) (w : World ε) :
    ∃ w', (n.dispatcher.flush destination handles).apply w = (.ok none, w') := by
  let u : World ε := ((Action.report Dispatcher.site Log.debug
    ("Dispatching a batch of " ++ handles.length.repr ++ " receipt handles.")).apply w).2
  obtain ⟨l, announced⟩ := n.reportPolicy_onlyLogs written destination u
  change ∃ w', (n.action destination handles).apply u = (.ok none, w')
  unfold action
  split
  · exact ⟨u, rfl⟩
  · rw [Action.apply_bind, announced, asks]
    exact ⟨_, rfl⟩

/-- A run in which every batch is left as it is has no results and no failure. -/
theorem Dispatcher.serve_of_silent {d : Dispatcher ε} {destination : String}
    (silent : ∀ handles w, ∃ w', (d.flush destination handles).apply w = (.ok none, w'))
    (q : QueueId) (batches : List (List PendingItem)) (w : World ε) :
    (d.serve q destination batches w).failure = none ∧
      (d.serve q destination batches w).outcome = .ok [] := by
  induction batches generalizing w with
  | nil => exact ⟨rfl, rfl⟩
  | cons batch later ih =>
    obtain ⟨w', flushed⟩ := silent (receiptHandles batch) (w.setQueue q later.flatten)
    obtain ⟨failure, outcome⟩ := ih w'
    rw [serve, flushed]
    exact ⟨failure, by rw [BatchRun.outcome_after, outcome]; rfl⟩

namespace Connection

variable {c : Connection (QueueClient ε)}

/-- Under the delay of the queue, handing a queue back changes no other queue, and of the rest of
the state nothing but the log. -/
theorem nack_besides (deferred : resolveDelay c.policy = none) {aside : QueueId → Prop}
    {q : QueueId} (hq : aside q) (destination : String) :
    (c.nack q destination).Guarantees (Besides aside) := by
  have indifferent := Besides.indifferent (ε := ε) hq
  refine indifferent.within _ (indifferent.dispatch fun handles ↦ ?_)
  refine indifferent.handBack_of fun timeout asks ↦ ?_
  exact nomatch deferred.symm.trans asks

/-- Under the delay of the queue, handing back items of one destination drains the queue and has no
results. -/
theorem nack_of_deferred (deferred : resolveDelay c.policy = none)
    (written : ∀ p, c.policy = some p → p.delay.natAbs < Text.writeLimit) {q : QueueId}
    {destination : String} {w : World ε}
    (same : ∀ item ∈ w.queues q, item.destination = destination) :
    ((c.nack q destination).apply w).1 = .ok [] ∧
      ((c.nack q destination).apply w).2.queues q = [] := by
  let v := w.setContext (w.log.context.overlay (operationContext destination "nack"))
  have quiet : (c.dispatcher .nack).action.LeavesQueue q := fun _ _ ↦
    (steady_sameQueue q).handBack_of fun timeout asks ↦ nomatch deferred.symm.trans asks
  let batches := ({} : BatchSize).cut (w.queues q)
  let r := (c.dispatcher .nack).serve q destination batches v
  obtain ⟨failure, outcome⟩ : r.failure = none ∧ r.outcome = .ok [] :=
    Dispatcher.serve_of_silent
      (c.negativeAcknowledger.apply_flush_of_queueDelay deferred written destination) q batches v
  have handed : r.calls.length = batches.length := Dispatcher.length_of_failure_eq_none failure
  have drained : r.world.queues q = (batches.drop r.calls.length).flatten :=
    Dispatcher.queues_serve quiet (({} : BatchSize).flatten_cut (w.queues q)).symm
  rw [handed, List.drop_length] at drained
  have settled := settle_eq_serve quiet same
  rw [show c.nack q destination = c.settle .nack q destination from rfl, settled]
  exact ⟨outcome, drained⟩

/-- Under the delay of the queue, steps that hand back may be left out of a recorded run, when the
queues that are acknowledged are others. -/
theorem recorded_run_besides (deferred : resolveDelay c.policy = none)
    (detached : c.client.Over Action.Detached) {steps : List CallerStep}
    {aside : QueueId → Prop} (handed : ∀ q destination, .nack q destination ∈ steps → aside q)
    (acked : ∀ q destination, .ack q destination ∈ steps → ¬aside q)
    (w : World (ε × List BatchCall)) :
    let others := steps.filter fun s ↦ !s.isNack
    (c.recorded.outcomes steps w).filter (fun taken ↦ !taken.1.isNack) =
        c.recorded.outcomes others w ∧
      Noted (Besides aside) (c.recorded.run steps w) (c.recorded.run others w) := by
  refine run_filter (R := Noted (Besides aside)) (p := fun s ↦ !s.isNack)
    (fun s hs other ↦ ?_) (fun s hs nack x y h ↦ ?_) ⟨⟨fun _ _ ↦ rfl, rfl⟩, rfl⟩
  · cases s with
    | fill q items => exact fun _ _ h ↦ ⟨rfl, h.1.setQueue q items, h.2⟩
    | ack q destination =>
      have coupled := Besides.coupledOn (ε := ε) (acked q destination hs)
      exact settle_agrees coupled.noted
        (QueueClient.recorded_agrees (detached.agrees coupled.toCoupled Besides.detached))
        .ack destination
    | nack q destination => nomatch other
  · cases s with
    | fill q items => nomatch nack
    | ack q destination => nomatch nack
    | nack q destination =>
      have drained : Besides aside x ((c.recorded.nack q destination).apply x).2 :=
        nack_besides (c := c.recorded) deferred (handed q destination hs) destination x
      obtain ⟨same, record⟩ := drained.symm.noted
      exact ⟨same.trans h.1, record.trans h.2⟩

end Connection

/-- Under the delay of the queue, handing back items of one destination has no results and drains
the queue. A caller whose queues are not both acknowledged and handed back may leave the steps out
that hand back: on a service that keeps to itself, the other steps have the same outcomes, and in
the end the same calls were made, the service is the same, and so are the sources of identifiers.
Leaving the record aside, the recorded runs are the runs themselves. -/
theorem deferred_nacks_erased {c : Connection (QueueClient ε)} {delay : Int}
    (deferred : c.policy = some ⟨.queueDelay, delay⟩) (written : delay.natAbs < Text.writeLimit)
    (detached : c.client.Over Action.Detached) (steps : List CallerStep)
    (apart : ∀ q destination destination',
      .nack q destination ∈ steps → .ack q destination' ∉ steps) (w : World ε) :
    let others := steps.filter fun s ↦ !s.isNack
    let u := c.recorded.run steps (w.remember [])
    let v := c.recorded.run others (w.remember [])
    (∀ q destination (x : World ε), (∀ item ∈ x.queues q, item.destination = destination) →
      ((c.nack q destination).apply x).1 = .ok [] ∧
        ((c.nack q destination).apply x).2.queues q = []) ∧
    (c.outcomes steps w).filter (fun taken ↦ !taken.1.isNack) = c.outcomes others w ∧
    u.forget = c.run steps w ∧ v.forget = c.run others w ∧ u.record = v.record ∧
    (c.run steps w).outside = (c.run others w).outside ∧
    (c.run steps w).counters = (c.run others w).counters := by
  intro others u v
  have asks : resolveDelay c.policy = none := resolveDelay_eq_none_iff.mpr ⟨delay, deferred⟩
  have written' : ∀ p, c.policy = some p → p.delay.natAbs < Text.writeLimit := by
    intro p hp
    obtain rfl : ⟨.queueDelay, delay⟩ = p := Option.some.inj (deferred.symm.trans hp)
    exact written
  have acked : ∀ q destination, .ack q destination ∈ steps →
      ¬∃ destination', .nack q destination' ∈ steps :=
    fun q destination ha ⟨destination', hn⟩ ↦ apart q destination' destination hn ha
  obtain ⟨outcomes, same, record⟩ := Connection.recorded_run_besides asks detached
    (fun _ destination hn ↦ ⟨destination, hn⟩) acked (w.remember [])
  rw [c.outcomes_recorded, c.outcomes_recorded] at outcomes
  have forget_u : u.forget = c.run steps w := c.forget_run_recorded steps _
  have forget_v : v.forget = c.run others w := c.forget_run_recorded others _
  refine ⟨fun q destination x ↦ Connection.nack_of_deferred asks written', outcomes, forget_u,
    forget_v, record, ?_, ?_⟩
  · rw [← forget_u, ← forget_v]
    exact (congrArg World.outside same.rest).symm
  · rw [← forget_u, ← forget_v]
    exact (congrArg World.counters same.rest).symm

/-- A service that fails its second request and no other one. -/
private def slipping (sent : List SqsRequest) (_ : SqsRequest) : Except Failure Value :=
  if sent.length = 1 then .error (.outside (.sqs .unspecified)) else .ok (.record [])

/-- A queue is handed back, another one is acknowledged with two requests, a third one cannot be
handed back because its destinations are mixed, and a fourth one is acknowledged. -/
private def slippingSteps : List CallerStep :=
  [.fill 0 [⟨"a", "orders", ""⟩], .fill 1 (List.replicate 11 ⟨"b", "orders", ""⟩),
    .nack 0 "orders", .ack 1 "orders",
    .fill 2 [⟨"c", "orders", ""⟩, ⟨"d", "bills", ""⟩], .nack 2 "orders",
    .fill 3 [⟨"e", "orders", ""⟩], .ack 3 "orders"]

/-- The item of the fourth queue is the twelfth entry, as if nothing had been handed back. -/
theorem deferred_nacks_erased_slipping :
    let c := Connection.answered slipping (some ⟨.queueDelay, 30⟩) 1 .shared
    let w : World (List SqsRequest) := { outside := [] }
    ((c.outcomes slippingSteps w).filter fun taken ↦ !taken.1.isNack).map
        (fun taken ↦ (failure? taken.2).map Failure.kind) =
      [none, none, some "BackendCallError", none, none, none] ∧
    (c.run slippingSteps w).outside.map (fun r ↦ r.entries.map SqsEntry.id) =
      [(List.range 10).map Nat.repr, ["10"], ["11"]] ∧
    (c.run slippingSteps w).counters .shared = 12 := by
  intro c w
  have detached : c.client.Over Action.Detached :=
    .sqs (.answering slipping) fun request ↦
      ⟨fun sent ↦ (slipping sent request, sent ++ [request]), rfl⟩
  have apart : ∀ q destination destination',
      .nack q destination ∈ slippingSteps → .ack q destination' ∉ slippingSteps := by
    intro q destination destination' handed
    have queues : q = 0 ∨ q = 2 := by
      simp only [slippingSteps, List.mem_cons, List.not_mem_nil, CallerStep.nack.injEq,
        reduceCtorEq, false_or, or_false] at handed
      exact handed.imp And.left And.left
    rcases queues with rfl | rfl <;> simp [slippingSteps]
  obtain ⟨-, outcomes, -, -, -, sent, counted⟩ :=
    deferred_nacks_erased (c := c) rfl (by decide +kernel) detached slippingSteps apart w
  rw [outcomes, sent, counted]
  exact ⟨by decide +kernel, by decide +kernel, by decide +kernel⟩

end QueueAck
