import QueueAck.Proofs.Dispatch.Refinement
import QueueAck.Proofs.Identifiers
import QueueAck.Proofs.Submission

/-!
# Trying again after a failure

A caller settles one queue again and again until no attempt fails (`Action.Persists`). Every failed
attempt takes a batch from the queue, so that the attempts come to an end, and what an attempt
leaves starts where a batch starts, so that the batches of all attempts together are those of a
single run in which nothing fails (`retries_converge`).
-/

namespace QueueAck

variable {ε η σ κ α : Type}

/-- The action is carried out again after every failure, until it has a value: it takes so many
attempts to come from the one state to the other. -/
inductive Action.Persists (a : Action ε α) : World ε → Nat → α → World ε → Prop where
  /-- The action has a value. -/
  | ends {w w' : World ε} {x : α} (value : a.apply w = (.ok x, w')) : a.Persists w 1 x w'
  /-- The action fails, and is carried out again. -/
  | again {w v w' : World ε} {f : Failure} {n : Nat} {x : α} (failed : a.apply w = (.error f, v))
    (later : a.Persists v n x w') : a.Persists w (n + 1) x w'

/-- What is shadowed takes as many attempts as its shadow. -/
theorem Action.Shadows.persists {a' : Action (ε × σ) α} {a : Action ε α} (h : a'.Shadows a)
    {w w' : World (ε × σ)} {n : Nat} {x : α} (persists : a'.Persists w n x w') :
    a.Persists w.forget n x w'.forget := by
  induction persists with
  | ends value => exact .ends (by rw [← h, value])
  | again failed _ ih => exact .again (by rw [← h, failed]) ih

/-- The receipt handles of the batches that were handed to the client, in order. -/
def World.batches (w : World (ε × List BatchCall)) : List (List String) :=
  w.record.map fun call ↦ call.entries.map BatchEntry.receiptHandle

/-- What is written to settle so many items can be: the delay of the policy, when they are handed
back, and the numbers of their entries. -/
def Connection.CanWrite (c : Connection κ) (k : Settlement) (first : Int) (items : Nat) : Prop :=
  ∀ i < items, (first + i).natAbs < Text.writeLimit ∧
    ∀ p, k = .nack → c.policy = some p → p.delay.natAbs < Text.writeLimit

/-- Two lots of items are written one after the other. -/
theorem Connection.canWrite_add_iff {c : Connection κ} {k : Settlement} {first : Int} {m n : Nat} :
    c.CanWrite k first (m + n) ↔ c.CanWrite k first m ∧ c.CanWrite k (first + m) n := by
  constructor
  · intro h
    refine ⟨fun i hi ↦ h i (by omega), fun i hi ↦ ?_⟩
    have later := h (m + i) (by omega)
    rwa [Int.natCast_add, ← Int.add_assoc] at later
  · rintro ⟨earlier, later⟩ i hi
    by_cases hm : i < m
    · exact earlier i hm
    · have hl := later (i - m) (by omega)
      rwa [show first + m + ((i - m : Nat) : Int) = first + i by omega] at hl

/-- The relation between states in which batches were handed over meanwhile, and the numbers of
their entries are used up. -/
structure Hands (g : GeneratorId) (batches : List (List String))
    (w w' : World (ε × List BatchCall)) : Prop where
  /-- The batches were handed over. -/
  batches_eq : w'.batches = w.batches ++ batches
  /-- The numbers are used up. -/
  counter_eq : w'.counters g = w.counters g + batches.flatten.length

/-- Batches are handed over one after the other. -/
theorem Hands.trans {g : GeneratorId} {xs ys : List (List String)}
    {u v w : World (ε × List BatchCall)} (h : Hands g xs u v) (h' : Hands g ys v w) :
    Hands g (xs ++ ys) u w where
  batches_eq := by rw [h'.batches_eq, h.batches_eq, List.append_assoc]
  counter_eq := by
    rw [h'.counter_eq, h.counter_eq, List.flatten_append, List.length_append, Int.natCast_add,
      Int.add_assoc]

/-- Filling queues and logging hands nothing over. -/
theorem indifferent_hands (g : GeneratorId) (q : QueueId) :
    Indifferent (Hands (ε := ε) g []) q where
  refl _ := ⟨(List.append_nil _).symm, (Int.add_zero _).symm⟩
  trans h h' := h.trans h'
  log _ _ := ⟨(List.append_nil _).symm, (Int.add_zero _).symm⟩
  queue _ _ := ⟨(List.append_nil _).symm, (Int.add_zero _).symm⟩

/-- A policy that was logged could be written. -/
theorem NegativeAcknowledger.written_of_reportPolicy {n : NegativeAcknowledger ε}
    {destination : String} {w w' : World ε}
    (logged : (n.reportPolicy destination).apply w = (.ok (), w')) (p : RetryPolicy)
    (hp : n.policy = some p) : p.delay.natAbs < Text.writeLimit := by
  by_contra long
  rw [reportPolicy, hp] at logged
  obtain ⟨text, v, written, -⟩ := Action.eq_ok_of_apply_bind logged
  rw [Action.apply_ofExcept, decimalText_of_le (Nat.not_lt.mp long)] at written
  cases written

namespace Connection

variable {c : Connection (QueueClient ε)} {k : Settlement} {q : QueueId} {destination : String}
  {s : Submission (ε × List BatchCall)}

/-- Unless handing back is left to the queue, something is submitted. -/
theorem exists_submits (asks : ∀ delay, k = .nack → c.policy ≠ some ⟨.queueDelay, delay⟩)
    (destination : String) : ∃ s, c.Submits destination k s := by
  cases k with
  | ack => exact ⟨_, .ack⟩
  | nack =>
    cases ht : resolveDelay c.policy with
    | none =>
      obtain ⟨delay, hp⟩ := resolveDelay_eq_none_iff.mp ht
      exact absurd hp (asks delay rfl)
    | some timeout => exact ⟨_, .nack ht⟩

/-- A batch whose numbers can be written reaches the client, however the call ends. -/
theorem Submits.hands_flush (submits : c.recorded.Submits destination k s)
    (apart : c.client.Guarantees (SameCounter c.generator)) {handles : List String}
    (some_handle : handles ≠ []) {w : World (ε × List BatchCall)}
    (can : c.CanWrite k (w.counters c.generator) handles.length) :
    Hands c.generator [handles] w
      (((c.recorded.dispatcher k).flush destination handles).apply w).2 := by
  have announced : s.announce.OnlyLogs := by
    cases submits with
    | ack => exact .pure
    | nack asked =>
      exact NegativeAcknowledger.reportPolicy_onlyLogs
        ((can 0 (List.length_pos_iff.mpr some_handle)).2 · rfl) destination
  have generator : s.generator = c.generator := submits.generator_eq
  obtain ⟨l, flushed⟩ := s.apply_flush announced submits.action_eq_submit some_handle
    (w := w) (generator ▸ fun i hi ↦ (can i hi).1)
  generalize hs : s.call (entriesFrom (w.counters s.generator) s.timeout handles) = call at flushed
  generalize hv : World.setCounter { w with log := l } s.generator
    (w.counters s.generator + handles.length) = v at flushed
  have handles_eq : call.entries.map BatchEntry.receiptHandle = handles := by
    rw [← hs, s.entries_call, map_receiptHandle_entriesFrom]
  have record : v.record = w.record := hv ▸ rfl
  have counter : v.counters c.generator = w.counters c.generator + handles.length := by
    rw [← hv, ← generator]
    exact World.counters_setCounter_self ..
  have performed : (s.client.perform call).apply v =
      (((c.client.perform call).apply v.forget).1,
        ((c.client.perform call).apply v.forget).2.remember (v.record ++ [call])) := by
    rw [submits.client_eq, recorded, map, QueueClient.perform_recorded]
    rfl
  have handed : Hands c.generator [handles] w ((s.client.perform call).apply v).2 := by
    rw [performed]
    refine ⟨?_, ?_⟩
    · rw [World.batches, World.record_remember, record, List.map_append, List.map_singleton,
        handles_eq]
      rfl
    · rw [List.flatten_singleton, ← counter]
      exact apart.perform call v.forget
  rw [flushed, Action.apply_bind]
  rcases hr : (s.client.perform call).apply v with ⟨f | result, v'⟩
  · rwa [hr] at handed
  · rw [hr] at handed
    have steady := (indifferent_hands (ε := ε) c.generator 0).toSteady
    have logged : Hands c.generator [] v' _ :=
      (steady.bind (steady.reportFailures s.site s.introduction result.failed) fun _ ↦
        steady.pure (some result)) v'
    exact handed.trans logged

/-- What has a result could be written. -/
theorem Submits.canWrite_of_flush {s : Submission ε} (submits : c.Submits destination k s)
    {handles : List String} {answer : Option BatchResult} {w w' : World ε}
    (flushed : ((c.dispatcher k).flush destination handles).apply w = (.ok answer, w')) :
    c.CanWrite k (w.counters c.generator) handles.length := by
  by_cases some_handle : handles = []
  · rw [some_handle]
    exact fun _ never ↦ absurd never (Nat.not_lt_zero _)
  obtain ⟨_, u, logged, acted⟩ := Action.eq_ok_of_apply_bind flushed
  rw [submits.action_eq_submit, Submission.submit, if_neg (by simpa using some_handle)] at acted
  obtain ⟨_, v, announced, acted⟩ := Action.eq_ok_of_apply_bind acted
  obtain ⟨entries, v', numbered, -⟩ := Action.eq_ok_of_apply_bind acted
  have same : u.counters c.generator = w.counters c.generator :=
    (congrArg (fun r ↦ r.2.counters c.generator) logged).symm
  obtain ⟨counter, delay⟩ : v.counters c.generator = u.counters c.generator ∧
      ∀ p, k = .nack → c.policy = some p → p.delay.natAbs < Text.writeLimit := by
    cases submits with
    | ack =>
      cases announced
      exact ⟨rfl, by rintro _ ⟨⟩⟩
    | nack asked =>
      have reported : (c.negativeAcknowledger.reportPolicy destination).apply u = (.ok (), v) :=
        announced
      have kept := (indifferent_sameCounter c.generator 0).reportPolicy
        c.negativeAcknowledger destination u
      rw [reported] at kept
      exact ⟨kept, fun p _ hp ↦ NegativeAcknowledger.written_of_reportPolicy reported p hp⟩
  have generator : s.generator = c.generator := submits.generator_eq
  rcases numberEntries_cases s.generator s.timeout handles v with ⟨written, -⟩ | ⟨_, _, _, failed⟩
  · rw [generator, counter, same] at written
    exact fun i hi ↦ ⟨written i hi, delay⟩
  · rw [numbered] at failed
    cases failed

/-- Batches whose numbers can be written reach the client one after the other, until one fails. -/
theorem Submits.hands_serve (submits : c.recorded.Submits destination k s)
    (apart : c.client.Guarantees (SameCounter c.generator)) {batches : List (List PendingItem)}
    (some_item : ∀ batch ∈ batches, 0 < batch.length) {w : World (ε × List BatchCall)}
    (can : c.CanWrite k (w.counters c.generator) batches.flatten.length) :
    let r := (c.recorded.dispatcher k).serve q destination batches w
    Hands c.generator r.calls w r.world := by
  induction batches generalizing w with
  | nil => exact (indifferent_hands c.generator q).refl w
  | cons batch later ih =>
    obtain ⟨first, others⟩ := List.forall_mem_cons.mp some_item
    have length : (receiptHandles batch).length = batch.length := List.length_map _
    rw [List.flatten_cons, List.length_append, canWrite_add_iff] at can
    have handed := submits.hands_flush (w := w.setQueue q later.flatten) apart
      (List.ne_nil_of_length_pos (length ▸ first)) (length ▸ can.1)
    have taken := ((indifferent_hands (ε := ε) c.generator q).queue w later.flatten).trans handed
    rw [Dispatcher.serve]
    rcases hr : ((c.recorded.dispatcher k).flush destination (receiptHandles batch)).apply
      (w.setQueue q later.flatten) with ⟨f | answer, w'⟩
    · rwa [hr] at taken
    · rw [hr] at taken
      have counter := taken.counter_eq
      rw [List.nil_append, List.flatten_singleton, length] at counter
      exact taken.trans (ih others (counter ▸ can.2))

/-- A run in which nothing fails could write everything. -/
theorem Submits.canWrite_of_serve (submits : c.recorded.Submits destination k s)
    (apart : c.client.Guarantees (SameCounter c.generator)) {batches : List (List PendingItem)}
    (some_item : ∀ batch ∈ batches, 0 < batch.length) {w : World (ε × List BatchCall)}
    (succeeds : ((c.recorded.dispatcher k).serve q destination batches w).failure = none) :
    c.CanWrite k (w.counters c.generator) batches.flatten.length := by
  induction batches generalizing w with
  | nil => exact fun _ never ↦ absurd never (Nat.not_lt_zero _)
  | cons batch later ih =>
    obtain ⟨first, others⟩ := List.forall_mem_cons.mp some_item
    have length : (receiptHandles batch).length = batch.length := List.length_map _
    rw [Dispatcher.serve] at succeeds
    rcases hr : ((c.recorded.dispatcher k).flush destination (receiptHandles batch)).apply
      (w.setQueue q later.flatten) with ⟨f | answer, w'⟩
    · rw [hr] at succeeds
      cases succeeds
    · rw [hr] at succeeds
      have written := submits.canWrite_of_flush hr
      have can : c.CanWrite k (w.counters c.generator) (receiptHandles batch).length := written
      have handed := submits.hands_flush (w := w.setQueue q later.flatten) apart
        (List.ne_nil_of_length_pos (length ▸ first)) can
      have counter := handed.counter_eq
      rw [hr, List.flatten_singleton, length] at counter
      rw [List.flatten_cons, List.length_append, canWrite_add_iff]
      exact ⟨length ▸ can, counter ▸ ih others succeeds⟩

/-- What an attempt to settle the items of a queue comes to: a number of batches is settled, one at
least if the attempt fails, and all of them if it does not. -/
structure Attempted (c : Connection (QueueClient ε)) (k : Settlement) (q : QueueId)
    (w : World (ε × List BatchCall)) (settled : Nat)
    (r : Except Failure (List BatchResult) × World (ε × List BatchCall)) : Prop where
  /-- A failed attempt settles a batch. -/
  pos : ∀ f, r.1 = .error f → 0 < settled
  /-- No more are settled than there are. -/
  le : settled ≤ (({} : BatchSize).cut (w.queues q)).length
  /-- An attempt that does not fail settles all of them, and could write them. -/
  all : ∀ results, r.1 = .ok results → settled = (({} : BatchSize).cut (w.queues q)).length ∧
    c.CanWrite k (w.counters c.generator) (w.queues q).length
  /-- The other batches stay in the queue. -/
  left : r.2.queues q = ((({} : BatchSize).cut (w.queues q)).drop settled).flatten
  /-- The batches reach the client, if they can be written. -/
  hands : c.CanWrite k (w.counters c.generator) (w.queues q).length →
    Hands c.generator ((({} : BatchSize).cut (receiptHandles (w.queues q))).take settled) w r.2

/-- Every attempt settles the next batches. -/
theorem exists_attempted (submits : c.recorded.Submits destination k s)
    (quiet : c.client.Guarantees (SameQueue q))
    (apart : c.client.Guarantees (SameCounter c.generator)) {w : World (ε × List BatchCall)}
    (same : ∀ item ∈ w.queues q, item.destination = destination) :
    ∃ settled, c.Attempted k q w settled ((c.recorded.settle k q destination).apply w) := by
  have leaves : (c.recorded.dispatcher k).action.LeavesQueue q :=
    leavesQueue_dispatcher (QueueClient.recorded_sameQueue quiet) k
  rw [settle_eq_serve leaves same]
  let batches := ({} : BatchSize).cut (w.queues q)
  have cut := ({} : BatchSize).batches_cut (w.queues q)
  let v := w.setContext (w.log.context.overlay (operationContext destination k.operation))
  let r := (c.recorded.dispatcher k).serve q destination batches v
  have first : r.calls <+: batches.map receiptHandles := Dispatcher.calls_serve_isPrefix batches v
  have le := first.length_le
  rw [List.length_map] at le
  refine ⟨r.calls.length, ?_, le, ?_, Dispatcher.queues_serve leaves cut.flatten_eq.symm, ?_⟩
  · intro f failed
    cases hf : r.failure with
    | none =>
      rw [BatchRun.outcome, hf] at failed
      cases failed
    | some g =>
      rw [Dispatcher.length_of_failure_eq_some hf]
      exact Nat.succ_pos _
  · intro results ended
    cases hf : r.failure with
    | none =>
      have can := submits.canWrite_of_serve apart cut.pos hf
      rw [cut.flatten_eq] at can
      exact ⟨Dispatcher.length_of_failure_eq_none hf, can⟩
    | some f =>
      rw [BatchRun.outcome, hf] at ended
      cases ended
  · intro can
    have calls : r.calls = _ := Dispatcher.calls_serve_cut {} (w.queues q) v
    have handed : Hands c.generator r.calls v r.world :=
      submits.hands_serve apart cut.pos (cut.flatten_eq.symm ▸ can)
    rw [← calls]
    exact ⟨handed.batches_eq, handed.counter_eq⟩

namespace Attempted

variable {w : World (ε × List BatchCall)} {settled : Nat}
  {r : Except Failure (List BatchResult) × World (ε × List BatchCall)}

/-- What is left is cut where a batch starts. -/
theorem cut_left (h : c.Attempted k q w settled r) :
    ({} : BatchSize).cut (r.2.queues q) = (({} : BatchSize).cut (w.queues q)).drop settled := by
  rw [h.left, BatchSize.flatten_drop_cut, BatchSize.drop_cut]

/-- So are the handles of what is left. -/
theorem cut_handles_left (h : c.Attempted k q w settled r) :
    ({} : BatchSize).cut (receiptHandles (r.2.queues q)) =
      (({} : BatchSize).cut (receiptHandles (w.queues q))).drop settled := by
  rw [← Dispatcher.map_receiptHandles_cut, h.cut_left, List.map_drop,
    Dispatcher.map_receiptHandles_cut]

/-- What is left is of the destination, if all was. -/
theorem same (h : c.Attempted k q w settled r)
    (same : ∀ item ∈ w.queues q, item.destination = destination) :
    ∀ item ∈ r.2.queues q, item.destination = destination := by
  rw [h.left, BatchSize.flatten_drop_cut]
  exact fun item hi ↦ same item (List.mem_of_mem_drop hi)

/-- What is left can be written, if all could be. -/
theorem canWrite (h : c.Attempted k q w settled r)
    (can : c.CanWrite k (w.counters c.generator) (w.queues q).length) :
    c.CanWrite k (r.2.counters c.generator) (r.2.queues q).length := by
  have whole := congrArg List.flatten (List.take_append_drop settled
    (({} : BatchSize).cut (receiptHandles (w.queues q))))
  rw [← h.cut_handles_left, List.flatten_append, BatchSize.flatten_cut,
    BatchSize.flatten_cut] at whole
  have parts := congrArg List.length whole
  rw [List.length_append, receiptHandles, List.length_map, receiptHandles, List.length_map] at parts
  rw [(h.hands can).counter_eq]
  rw [← parts, canWrite_add_iff] at can
  exact can.2

/-- The batches of an attempt and those of all that is left are the batches of the whole queue. -/
theorem hands_trans (h : c.Attempted k q w settled r)
    (can : c.CanWrite k (w.counters c.generator) (w.queues q).length)
    {w' : World (ε × List BatchCall)} (later : Hands c.generator
      (({} : BatchSize).cut (receiptHandles (r.2.queues q))) r.2 w') :
    Hands c.generator (({} : BatchSize).cut (receiptHandles (w.queues q))) w w' := by
  rw [h.cut_handles_left] at later
  have all := (h.hands can).trans later
  rwa [List.take_append_drop] at all

/-- An attempt that does not fail hands over all batches and leaves nothing. -/
theorem of_ok (h : c.Attempted k q w settled r) {results : List BatchResult}
    (ended : r.1 = .ok results) :
    r.2.queues q = [] ∧ c.CanWrite k (w.counters c.generator) (w.queues q).length ∧
      Hands c.generator (({} : BatchSize).cut (receiptHandles (w.queues q))) w r.2 := by
  obtain ⟨all, can⟩ := h.all results ended
  have left := h.left
  have handed := h.hands can
  rw [all, List.drop_length] at left
  rw [all, ← List.length_map receiptHandles, Dispatcher.map_receiptHandles_cut,
    List.take_length] at handed
  exact ⟨left, can, handed⟩

end Attempted

/-- The attempts come to an end, after as many failures as there are batches at most. Together they
hand over the batches of the whole queue, if these can be written. -/
theorem exists_persists (submits : c.recorded.Submits destination k s)
    (quiet : c.client.Guarantees (SameQueue q))
    (apart : c.client.Guarantees (SameCounter c.generator)) {w : World (ε × List BatchCall)}
    (same : ∀ item ∈ w.queues q, item.destination = destination) :
    ∃ n results w', (c.recorded.settle k q destination).Persists w n results w' ∧
      n ≤ (({} : BatchSize).cut (w.queues q)).length + 1 ∧ w'.queues q = [] ∧
      (c.CanWrite k (w.counters c.generator) (w.queues q).length →
        Hands c.generator (({} : BatchSize).cut (receiptHandles (w.queues q))) w w') := by
  -- on the number of batches that are left, of which a failed attempt settles one at least
  induction h : (({} : BatchSize).cut (w.queues q)).length using Nat.strongRecOn generalizing w with
  | ind m ih =>
    obtain ⟨settled, attempted⟩ := exists_attempted submits quiet apart same
    rcases hr : (c.recorded.settle k q destination).apply w with ⟨f | results, v⟩
    · rw [hr] at attempted
      have fewer : (({} : BatchSize).cut (v.queues q)).length < m := by
        have pos := attempted.pos f rfl
        have le := attempted.le
        rw [attempted.cut_left, List.length_drop]
        omega
      obtain ⟨n, results, w', persists, bound, empty, hands⟩ :=
        ih _ fewer (attempted.same same) rfl
      refine ⟨n + 1, results, w', .again hr persists, by omega, empty, fun can ↦ ?_⟩
      exact attempted.hands_trans can (hands (attempted.canWrite can))
    · rw [hr] at attempted
      obtain ⟨empty, -, handed⟩ := attempted.of_ok rfl
      exact ⟨1, results, v, .ends hr, by omega, empty, fun _ ↦ handed⟩

end Connection

/-- Settling the items of a queue again after every failure comes to an end, after one attempt more
than there are batches at most, whatever the client does. The batches that the client was given over
all attempts are those of the queue, each once and in order, if the delay and the numbers can be
written; and they are those that any client is given in one run in which nothing fails. Leaving the
record aside, the recorded attempts are the attempts themselves. -/
theorem retries_converge {c : Connection (QueueClient ε)} {k : Settlement} {q : QueueId}
    {destination : String} {w : World ε}
    (asks : ∀ delay, k = .nack → c.policy ≠ some ⟨.queueDelay, delay⟩)
    (quiet : c.client.Guarantees (SameQueue q))
    (apart : c.client.Guarantees (SameCounter c.generator))
    (same : ∀ item ∈ w.queues q, item.destination = destination) :
    let handles := receiptHandles (w.queues q)
    ∃ n results w', (c.recorded.settle k q destination).Persists (w.remember []) n results w' ∧
      (c.settle k q destination).Persists w n results w'.forget ∧
      n ≤ (handles.length + 9) / 10 + 1 ∧ w'.queues q = [] ∧
      (c.CanWrite k (w.counters c.generator) handles.length →
        w'.batches = ({} : BatchSize).cut handles ∧ w'.batches.flatten = handles) ∧
      ∀ (η : Type) (client : QueueClient η) (v : World η) (results' : List BatchResult)
        (v' : World (η × List BatchCall)), client.Guarantees (SameQueue q) →
        client.Guarantees (SameCounter c.generator) → v.queues q = w.queues q →
        v.counters c.generator = w.counters c.generator →
        ((c.map fun _ ↦ client).recorded.settle k q destination).apply (v.remember []) =
          (.ok results', v') →
        v'.batches = w'.batches := by
  intro handles
  obtain ⟨s, submits⟩ := Connection.exists_submits (c := c.recorded) asks destination
  obtain ⟨n, results, w', persists, bound, empty, hands⟩ :=
    Connection.exists_persists submits quiet apart (w := w.remember []) same
  have shadows : (c.recorded.settle k q destination).Shadows (c.settle k q destination) := by
    cases k with
    | ack => exact c.recorded_perform_shadows (.ack q destination)
    | nack => exact c.recorded_perform_shadows (.nack q destination)
  have length : handles.length = (w.queues q).length := List.length_map _
  have whole (can : c.CanWrite k (w.counters c.generator) handles.length) :
      w'.batches = ({} : BatchSize).cut handles := (hands (length ▸ can)).batches_eq
  refine ⟨n, results, w', persists, shadows.persists persists, ?_, empty, fun can ↦ ?_, ?_⟩
  · rw [BatchSize.length_cut] at bound
    rwa [length]
  · exact ⟨whole can, by rw [whole can, BatchSize.flatten_cut]⟩
  · intro η client v results' v' quiet' apart' queues counters run
    -- a run without a failure shows that everything can be written
    let d := c.map fun _ ↦ client
    obtain ⟨s', submits'⟩ := Connection.exists_submits (c := d.recorded) asks destination
    obtain ⟨settled, attempted⟩ := Connection.exists_attempted submits' quiet' apart'
      (w := v.remember []) (queues ▸ same)
    rw [run] at attempted
    obtain ⟨-, can, handed⟩ := attempted.of_ok rfl
    have can' : c.CanWrite k (w.counters c.generator) handles.length := by
      rw [length, ← queues, ← counters]
      exact can
    rw [whole can', handed.batches_eq, World.queues_remember, queues]
    rfl

/-- A client that fails its first call, and every other one after it. -/
private def balking : QueueClient Nat where
  changeVisibility destination _ := Action.ofBackend fun n ↦
    (if n % 2 = 0 then .error .halfCredentials else .ok { destination }, n + 1)
  delete destination _ := Action.ofBackend fun n ↦
    (if n % 2 = 0 then .error .halfCredentials else .ok { destination }, n + 1)

/-- A state in which twenty-five items wait. -/
private def manyWaiting : World Nat where
  queues _ := (List.range 25).map fun i ↦ ⟨i.repr, "orders", ""⟩
  outside := 0

/-- Twenty-five items are handed back within four attempts, of which the first one fails: in two
batches of ten and one of five, as if nothing had failed. -/
theorem retries_converge_balking :
    let c : Connection (QueueClient Nat) := ⟨balking, some ⟨.explicitDelay, 5⟩, 1, .shared⟩
    (failure? ((c.settle .nack 0 "orders").apply manyWaiting).1).isSome = true ∧
    ∃ n results w',
      (c.recorded.settle .nack 0 "orders").Persists (manyWaiting.remember []) n results w' ∧
      n ≤ 4 ∧ w'.batches = [(List.range' 0 10).map Nat.repr, (List.range' 10 10).map Nat.repr,
        (List.range' 20 5).map Nat.repr] := by
  intro c
  have asks : ∀ delay, Settlement.nack = .nack → c.policy ≠ some ⟨.queueDelay, delay⟩ := by
    rintro delay - ⟨⟩
  have same : ∀ item ∈ manyWaiting.queues 0, item.destination = "orders" := by decide +kernel
  have can : c.CanWrite .nack 0 25 := by
    have written : ∀ i < 25, ((0 : Int) + (i : Nat)).natAbs < Text.writeLimit := by decide +kernel
    refine fun i hi ↦ ⟨written i hi, ?_⟩
    rintro _ - ⟨⟩
    decide +kernel
  obtain ⟨n, results, w', persists, -, bound, -, batches, -⟩ :=
    retries_converge (q := 0) asks ⟨fun _ _ _ ↦ rfl, fun _ _ _ ↦ rfl⟩
      ⟨fun _ _ _ ↦ rfl, fun _ _ _ ↦ rfl⟩ same
  refine ⟨by decide +kernel, n, results, w', persists, bound, ?_⟩
  rw [(batches can).1]
  decide +kernel

end QueueAck
