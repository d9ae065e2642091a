import QueueAck.Proofs.Dispatch.Batches
import QueueAck.Proofs.Recording

/-!
# Serving a queue batch by batch

The reference for a dispatch: the items are cut into batches beforehand, and the batches are handed
to the action from left to right until one of them fails. While a batch is handed over, the queue
holds the items of the later ones. `dispatch_eq_serve` says that a dispatch comes to the same for
every action that leaves the queue alone.
-/

namespace QueueAck

variable {ε : Type}

/-- The handles of items, in order. -/
def receiptHandles (items : List PendingItem) : List String :=
  items.map PendingItem.receiptHandle

/-- The handles of items one after the other. -/
theorem receiptHandles_append (xs ys : List PendingItem) :
    receiptHandles (xs ++ ys) = receiptHandles xs ++ receiptHandles ys := List.map_append

/-- The handles of the items of batches. -/
theorem receiptHandles_flatten (batches : List (List PendingItem)) :
    receiptHandles batches.flatten = (batches.map receiptHandles).flatten := List.map_flatten

/-- What handing batches over one after the other came to. -/
structure BatchRun (ε : Type) where
  /-- The receipt handles of the batches that were handed over. -/
  calls : List (List String) := []
  /-- The answers to the calls that did not fail. -/
  answers : List (Option BatchResult) := []
  /-- The failure of the last call, when it failed. -/
  failure : Option Failure := none
  /-- The state afterwards. -/
  world : World ε

namespace BatchRun

/-- The results that there are, or the failure that ended the run. -/
def outcome (r : BatchRun ε) : Except Failure (List BatchResult) :=
  match r.failure with
  | none => .ok (r.answers.filterMap id)
  | some f => .error f

/-- A run has results unless its last call failed. -/
theorem failure?_outcome (r : BatchRun ε) : failure? r.outcome = r.failure := by
  unfold outcome
  cases r.failure <;> rfl

/-- The run after one more call in front of it. -/
def after (call : List String) (answer : Option BatchResult) (r : BatchRun ε) : BatchRun ε :=
  { r with calls := call :: r.calls, answers := answer :: r.answers }

/-- An earlier answer comes before the results of the run. -/
theorem outcome_after (call : List String) (answer : Option BatchResult) (r : BatchRun ε) :
    (r.after call answer).outcome = r.outcome.map (answer.toList ++ ·) := by
  unfold outcome after
  cases hf : r.failure with
  | none => cases answer <;> simp [Except.map]
  | some f => simp [Except.map]

end BatchRun

/-- The relation between states that have the same items in a queue. -/
def SameQueue (q : QueueId) (w w' : World ε) : Prop := w'.queues q = w.queues q

/-- Logging changes no queue. -/
theorem steady_sameQueue (q : QueueId) : Steady (SameQueue (ε := ε) q) where
  refl _ := rfl
  trans h h' := h'.trans h
  log _ _ := rfl

/-- Drawing an identifier changes no queue. -/
theorem nextId_sameQueue (g : GeneratorId) (q : QueueId) :
    (Action.nextId g : Action ε String).Guarantees (SameQueue q) := fun _ ↦ rfl

/-- Recording leaves a queue alone when the client does. -/
theorem QueueClient.recorded_sameQueue {client : QueueClient ε} {q : QueueId}
    (h : client.Guarantees (SameQueue q)) : client.recorded.Guarantees (SameQueue q) where
  changeVisibility destination entries w := h.changeVisibility destination entries w.forget
  delete destination entries w := h.delete destination entries w.forget

/-- The run with a record to which its calls were added. -/
def BatchRun.remember (r : BatchRun ε) (calls : List (List String)) :
    BatchRun (ε × List (List String)) :=
  { calls := r.calls, answers := r.answers, failure := r.failure
    world := r.world.remember (calls ++ r.calls) }

/-- The action leaves a queue as it finds it, however it ends. -/
def BatchAction.LeavesQueue (act : BatchAction ε) (q : QueueId) : Prop :=
  ∀ destination handles, (act destination handles).Guarantees (SameQueue q)

namespace Dispatcher

/-- Hands batches over from left to right until one fails. The items of later batches wait in the
queue meanwhile. -/
def serve (d : Dispatcher ε) (q : QueueId) (destination : String) :
    List (List PendingItem) → World ε → BatchRun ε
  | [], w => { world := w }
  | batch :: later, w =>
    match (d.flush destination (receiptHandles batch)).apply (w.setQueue q later.flatten) with
    | (.error f, w') => { calls := [receiptHandles batch], failure := some f, world := w' }
    | (.ok answer, w') => (d.serve q destination later w').after (receiptHandles batch) answer

variable {d : Dispatcher ε} {q : QueueId} {destination : String}

private theorem queues_of_flush (quiet : d.action.LeavesQueue q) {handles : List String}
    {w w' : World ε} {r : Except Failure (Option BatchResult)}
    (h : (d.flush destination handles).apply w = (r, w')) : w'.queues q = w.queues q := by
  have hf : (d.flush destination handles).Guarantees (SameQueue q) :=
    (steady_sameQueue q).flush (quiet destination handles)
  have hw := hf w
  rwa [h] at hw

private theorem serve_setQueue {batches : List (List PendingItem)} (hb : batches ≠ [])
    (w : World ε) (items : List PendingItem) :
    d.serve q destination batches (w.setQueue q items) = d.serve q destination batches w := by
  cases batches with
  | nil => exact absurd rfl hb
  | cons batch later => simp only [serve, World.setQueue_setQueue]

private theorem flush_bind_eq_serve {batch : List PendingItem} {later : List (List PendingItem)}
    {results : List BatchResult} {k : Option BatchResult → Action ε (List BatchResult)}
    {w v : World ε} (hv : w.setQueue q later.flatten = v)
    (hk : ∀ answer v', (d.flush destination (receiptHandles batch)).apply v = (.ok answer, v') →
      (k answer).apply v' =
        ((d.serve q destination later v').outcome.map (results ++ answer.toList ++ ·),
          (d.serve q destination later v').world)) :
    (d.flush destination (receiptHandles batch) >>= k).apply v =
      ((d.serve q destination (batch :: later) w).outcome.map (results ++ ·),
        (d.serve q destination (batch :: later) w).world) := by
  rw [Action.apply_bind, serve, hv]
  rcases hr : (d.flush destination (receiptHandles batch)).apply v with ⟨f | answer, v'⟩
  · rfl
  · dsimp only
    rw [hk answer v' hr, BatchRun.outcome_after]
    cases (d.serve q destination later v').outcome with
    | error f => rfl
    | ok rs =>
      simp only [Except.map, List.append_assoc]
      rfl

/-- Draining the queue with a buffer of items serves the batches of the buffer and the queue. -/
theorem drain_eq_serve (quiet : d.action.LeavesQueue q) (items buffer : List PendingItem)
    (results : List BatchResult) (fuel : Nat) (w : World ε) (hw : w.queues q = items)
    (hb : buffer.length < d.size.val) (hf : items.length < fuel) :
    (d.drain q destination fuel (receiptHandles buffer) results).apply w =
      ((d.serve q destination (d.size.cut (buffer ++ items)) w).outcome.map (results ++ ·),
        (d.serve q destination (d.size.cut (buffer ++ items)) w).world) := by
  obtain ⟨fuel, rfl⟩ := Nat.exists_eq_succ_of_ne_zero (by omega : fuel ≠ 0)
  induction items generalizing buffer results fuel w with
  | nil =>
    rw [drain, Action.apply_bind, List.append_nil]
    simp only [Action.popFront, Action.apply_ofFunction, hw]
    cases buffer with
    | nil =>
      rw [BatchSize.cut_nil]
      simp [receiptHandles, serve, BatchRun.outcome, Except.map]
    | cons item buffer =>
      have hv : w.setQueue q ([] : List (List PendingItem)).flatten = w := World.setQueue_eq_self hw
      rw [BatchSize.cut_of_length_le _ (List.cons_ne_nil item buffer) (Nat.le_of_lt hb), if_neg]
      · apply flush_bind_eq_serve hv
        intro answer w' _
        simp [serve, BatchRun.outcome, Except.map]
      · simp [receiptHandles]
  | cons item items ih =>
    rw [drain, Action.apply_bind]
    simp only [Action.popFront, Action.apply_ofFunction, hw]
    have hh : receiptHandles buffer ++ [item.receiptHandle] =
        receiptHandles (buffer ++ [item]) := by
      simp [receiptHandles]
    have ha : buffer ++ item :: items = (buffer ++ [item]) ++ items := by simp
    have hl : items.length < fuel := by
      simp only [List.length_cons] at hf
      omega
    obtain ⟨fuel, rfl⟩ := Nat.exists_eq_succ_of_ne_zero (by omega : fuel ≠ 0)
    rw [hh, ha]
    split
    · next full =>
      have hs : (buffer ++ [item]).length = d.size.val := by simpa [receiptHandles] using full
      rw [BatchSize.cut_append_of_length_eq _ _ hs]
      have hv : w.setQueue q (d.size.cut items).flatten = w.setQueue q items := by
        rw [BatchSize.flatten_cut]
      apply flush_bind_eq_serve hv
      intro answer w' hr
      have hq : w'.queues q = items := by
        rw [queues_of_flush quiet hr, World.queues_setQueue_self]
      exact ih [] _ _ hq d.size.val_pos _ hl
    · next short =>
      have hs : (buffer ++ [item]).length < d.size.val := by
        simp only [receiptHandles, List.length_map, List.length_append, List.length_singleton] at *
        omega
      have hn : d.size.cut (buffer ++ [item] ++ items) ≠ [] := by
        intro h
        have hf := d.size.flatten_cut (buffer ++ [item] ++ items)
        rw [h] at hf
        simp at hf
      rw [ih _ _ _ (World.queues_setQueue_self ..) hs _ hl, serve_setQueue hn]

/-- No item of another destination is found exactly when all items are of one destination. -/
theorem find?_eq_none_iff {items : List PendingItem} :
    items.find? (fun item ↦ item.destination != destination) = none ↔
      ∀ item ∈ items, item.destination = destination := by
  simp [List.find?_eq_none]

/-- A dispatch of items of its destination serves their batches. -/
theorem dispatch_eq_serve (quiet : d.action.LeavesQueue q) {w : World ε}
    (hw : ∀ item ∈ w.queues q, item.destination = destination) :
    (d.dispatch q destination).apply w =
      ((d.serve q destination (d.size.cut (w.queues q)) w).outcome,
        (d.serve q destination (d.size.cut (w.queues q)) w).world) := by
  rw [dispatch, Action.apply_bind, Action.apply_read]
  simp only [find?_eq_none_iff.mpr hw]
  rw [Action.apply_bind, Action.apply_read]
  dsimp only
  rw [show ([] : List String) = receiptHandles [] from rfl,
    drain_eq_serve quiet (w.queues q) [] [] _ w rfl d.size.val_pos (by omega)]
  rw [List.nil_append]
  cases (d.serve q destination (d.size.cut (w.queues q)) w).outcome <;> rfl

/-- The first item of another destination ends a dispatch before anything is done. -/
theorem dispatch_of_find?_eq_some {w : World ε} {item : PendingItem}
    (hw : (w.queues q).find? (fun item ↦ item.destination != destination) = some item) :
    (d.dispatch q destination).apply w =
      (.error (.mixedDestinations item.receiptHandle item.destination destination), w) := by
  rw [dispatch, Action.apply_bind, Action.apply_read]
  simp only [hw, Action.apply_throw]

/-- A dispatch changes nothing when there is no item, or one of another destination. -/
theorem state_dispatch_of_idle {w : World ε}
    (hw : w.queues q = [] ∨ ∃ item ∈ w.queues q, item.destination ≠ destination) :
    ((d.dispatch q destination).apply w).2 = w := by
  cases hf : (w.queues q).find? fun item ↦ item.destination != destination with
  | some item => rw [dispatch_of_find?_eq_some hf]
  | none =>
    have hn : w.queues q = [] := by
      rcases hw with hw | ⟨item, hi, hd⟩
      · exact hw
      · exact absurd (find?_eq_none_iff.mp hf item hi) hd
    rw [dispatch, Action.apply_bind, Action.apply_read, hn]
    dsimp only [List.find?_nil]
    rw [Action.apply_bind, Action.apply_read]
    dsimp only [List.length_nil]
    rw [Nat.zero_add, Nat.add_comm, drain, Action.apply_bind]
    simp [Action.popFront, hn]

/-- The batches that are handed over are the first ones. -/
theorem calls_serve_isPrefix (batches : List (List PendingItem)) (w : World ε) :
    (d.serve q destination batches w).calls <+: batches.map receiptHandles := by
  induction batches generalizing w with
  | nil => exact List.prefix_rfl
  | cons batch later ih =>
    rw [serve]
    split
    · simp
    · next answer w' _ =>
      rw [BatchRun.after, List.map_cons, List.cons_prefix_cons]
      exact ⟨rfl, ih w'⟩

/-- Without a failure every batch is handed over and answered. -/
theorem length_of_failure_eq_none {batches : List (List PendingItem)} {w : World ε}
    (h : (d.serve q destination batches w).failure = none) :
    (d.serve q destination batches w).calls.length = batches.length := by
  induction batches generalizing w with
  | nil => rfl
  | cons batch later ih =>
    rw [serve] at h ⊢
    split at h
    · cases h
    · simp only [BatchRun.after] at h ⊢
      rw [List.length_cons, List.length_cons, ih h]

/-- A failure ends the call after the last one that was answered. -/
theorem length_of_failure_eq_some {batches : List (List PendingItem)} {w : World ε} {f : Failure}
    (h : (d.serve q destination batches w).failure = some f) :
    (d.serve q destination batches w).calls.length =
      (d.serve q destination batches w).answers.length + 1 := by
  induction batches generalizing w with
  | nil => cases h
  | cons batch later ih =>
    rw [serve] at h ⊢
    split at h
    · rfl
    · simp only [BatchRun.after] at h ⊢
      rw [List.length_cons, List.length_cons, ih h]

/-- The queue keeps the items of the batches that were not handed over. -/
theorem queues_serve (quiet : d.action.LeavesQueue q) {batches : List (List PendingItem)}
    {w : World ε} (hw : w.queues q = batches.flatten) :
    (d.serve q destination batches w).world.queues q =
      (batches.drop (d.serve q destination batches w).calls.length).flatten := by
  induction batches generalizing w with
  | nil => simpa [serve] using hw
  | cons batch later ih =>
    rw [serve]
    split
    · next f w' hr => simpa using queues_of_flush quiet hr
    · next answer w' hr =>
      have hq := queues_of_flush quiet hr
      rw [World.queues_setQueue_self] at hq
      simpa [BatchRun.after] using ih hq

/-- Serving batches keeps what the action keeps on each of them. -/
theorem serve_guarantees {R : World ε → World ε → Prop} (h : Indifferent R q)
    {batches : List (List PendingItem)}
    (ha : ∀ batch ∈ batches, (d.action destination (receiptHandles batch)).Guarantees R)
    (w : World ε) : R w (d.serve q destination batches w).world := by
  induction batches generalizing w with
  | nil => exact h.refl w
  | cons batch later ih =>
    have hb : (d.flush destination (receiptHandles batch)).Guarantees R :=
      h.flush (ha batch List.mem_cons_self)
    have hw := h.trans (h.queue w later.flatten) (hb _)
    rw [serve]
    split
    · next f w' hr => rwa [hr] at hw
    · next answer w' hr =>
      rw [hr] at hw
      exact h.trans hw (ih (fun b hl ↦ ha b (List.mem_cons_of_mem batch hl)) w')

/-- A dispatch keeps what the action keeps on the batches of the queue, when all its items are of
the destination. -/
theorem dispatch_guarantees_at {R : World ε → World ε → Prop} (h : Indifferent R q)
    (quiet : d.action.LeavesQueue q) {w : World ε}
    (ha : (∀ item ∈ w.queues q, item.destination = destination) →
      ∀ batch ∈ d.size.cut (w.queues q),
        (d.action destination (receiptHandles batch)).Guarantees R) :
    R w ((d.dispatch q destination).apply w).2 := by
  cases hf : (w.queues q).find? fun item ↦ item.destination != destination with
  | some item =>
    rw [dispatch_of_find?_eq_some hf]
    exact h.refl w
  | none =>
    have same := find?_eq_none_iff.mp hf
    rw [dispatch_eq_serve quiet same]
    exact serve_guarantees h (ha same) w

/-- What a recorded dispatcher writes down are the calls of the run. -/
theorem serve_recorded (batches : List (List PendingItem)) (w : World ε)
    (calls : List (List String)) :
    d.recorded.serve q destination batches (w.remember calls) =
      (d.serve q destination batches w).remember calls := by
  induction batches generalizing w calls with
  | nil => simp [serve, BatchRun.remember]
  | cons batch later ih =>
    have hq : (w.remember calls).setQueue q later.flatten =
        (w.setQueue q later.flatten).remember calls := rfl
    rw [serve, serve, hq, flush_recorded]
    rcases (d.flush destination (receiptHandles batch)).apply (w.setQueue q later.flatten)
      with ⟨f | answer, w'⟩
    · rfl
    · simp only [ih, BatchRun.after, BatchRun.remember, List.append_assoc]
      rfl

/-- Recording leaves a queue alone when the action does. -/
theorem leavesQueue_recorded (quiet : d.action.LeavesQueue q) :
    d.recorded.action.LeavesQueue q :=
  fun destination handles w ↦ quiet destination handles w.forget

/-- A recorded dispatch comes to the same and writes the calls of the run down. -/
theorem dispatch_recorded_eq_serve (quiet : d.action.LeavesQueue q) {w : World ε}
    (hw : ∀ item ∈ w.queues q, item.destination = destination) (calls : List (List String)) :
    let r := d.serve q destination (d.size.cut (w.queues q)) w
    (d.recorded.dispatch q destination).apply (w.remember calls) =
      (r.outcome, r.world.remember (calls ++ r.calls)) := by
  have hr := dispatch_eq_serve (leavesQueue_recorded quiet) (w := w.remember calls) hw
  rwa [World.queues_remember, show d.recorded.size = d.size from rfl, serve_recorded] at hr

end Dispatcher
end QueueAck
