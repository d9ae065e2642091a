import QueueAck.Proofs.Dispatch.Serve
import QueueAck.Proofs.Shadow

/-!
# Conservation of queued items

A caller appends items to a queue and has it dispatched, acknowledged or handed back, in any order
and whatever becomes of the calls. Every list of receipt handles that reaches an action is written
down. `queue_conserved` says that the lists written down, followed by what is still in the queue,
are at every time what was appended: no item is lost, doubled or moved.
-/

namespace QueueAck

variable {ε : Type}

/-- What a caller does with a queue. -/
inductive QueueStep (ε : Type) where
  /-- Items join the queue. -/
  | append (items : List PendingItem)
  /-- A dispatcher drains the queue. -/
  | dispatch (d : Dispatcher ε) (destination : String)
  /-- An acknowledger deletes what the queue holds. -/
  | ack (a : Acknowledger ε) (destination : String)
  /-- An acknowledger hands back what the queue holds. -/
  | nack (n : NegativeAcknowledger ε) (destination : String)

namespace QueueStep

/-- The items that the step appends. -/
def appended : QueueStep ε → List PendingItem
  | .append items => items
  | .dispatch .. => []
  | .ack .. => []
  | .nack .. => []

/-- The actions of the step leave the queue alone. -/
def Quiet (q : QueueId) : QueueStep ε → Prop
  | .append _ => True
  | .dispatch d _ => d.action.LeavesQueue q
  | .ack a _ => a.client.Guarantees (SameQueue q)
  | .nack n _ => n.client.Guarantees (SameQueue q)

/-- Takes the step. -/
def perform (q : QueueId) : QueueStep ε → Action ε (List BatchResult)
  | .append items => Action.change (fun w ↦ w.append q items) >>= fun _ ↦ pure []
  | .dispatch d destination => d.dispatch q destination
  | .ack a destination => a.bulk q destination
  | .nack n destination => n.bulk q destination

/-- Takes the step and writes down the receipt handles that its action is given. -/
def performRecorded (q : QueueId) :
    QueueStep ε → Action (ε × List (List String)) (List BatchResult)
  | .append items => Action.change (fun w ↦ w.append q items) >>= fun _ ↦ pure []
  | .dispatch d destination => d.recorded.dispatch q destination
  | .ack a destination =>
    Action.within (operationContext destination "ack")
      (a.dispatcher.recorded.dispatch q destination)
  | .nack n destination =>
    Action.within (operationContext destination "nack")
      (n.dispatcher.recorded.dispatch q destination)

/-- The state after steps, failed ones included. -/
def run (q : QueueId) : List (QueueStep ε) → World ε → World ε := Action.runAll (perform q)

/-- The state after steps, with a record of what their actions were given. -/
def runRecorded (q : QueueId) :
    List (QueueStep ε) → World (ε × List (List String)) → World (ε × List (List String)) :=
  Action.runAll (performRecorded q)

end QueueStep

/-- The relation between states in which what was written down meanwhile is what was taken from the
front of a queue. -/
def Conserves (q : QueueId) (w w' : World (ε × List (List String))) : Prop :=
  ∃ calls : List (List String), w'.record = w.record ++ calls ∧
    calls.flatten ++ receiptHandles (w'.queues q) = receiptHandles (w.queues q)

/-- Logging takes nothing from a queue. -/
theorem steady_conserves (q : QueueId) : Steady (Conserves (ε := ε) q) where
  refl _ := ⟨[], (List.append_nil _).symm, rfl⟩
  trans := by
    rintro u v w ⟨xs, hr, hq⟩ ⟨ys, hr', hq'⟩
    refine ⟨xs ++ ys, ?_, ?_⟩
    · rw [hr', hr, List.append_assoc]
    · rw [List.flatten_append, List.append_assoc, hq', hq]
  log _ _ := ⟨[], (List.append_nil _).symm, rfl⟩

namespace Dispatcher

variable {d : Dispatcher ε} {q : QueueId} {destination : String}

/-- What a run of batches hands over, followed by what it leaves, is what there was. -/
theorem serve_conserves (quiet : d.action.LeavesQueue q) {batches : List (List PendingItem)}
    {w : World ε} (hw : w.queues q = batches.flatten) :
    let r := d.serve q destination batches w
    r.calls.flatten ++ receiptHandles (r.world.queues q) = receiptHandles (w.queues q) := by
  intro r
  have hc : r.calls = (batches.map receiptHandles).take r.calls.length :=
    List.prefix_iff_eq_take.mp (calls_serve_isPrefix batches w)
  have hq : r.world.queues q = (batches.drop r.calls.length).flatten := queues_serve quiet hw
  rw [hc, hq, hw, receiptHandles_flatten, receiptHandles_flatten, List.map_drop,
    ← List.flatten_append, List.take_append_drop]

/-- A dispatch writes down what it takes from the queue, whether it is refused, fails or ends. -/
theorem conserves_dispatch (quiet : d.action.LeavesQueue q) :
    (d.recorded.dispatch q destination).Guarantees (Conserves q) := by
  intro w
  cases hm : (w.queues q).find? fun item ↦ item.destination != destination with
  | some item =>
    rw [dispatch_of_find?_eq_some hm]
    exact (steady_conserves q).refl w
  | none =>
    have same : ∀ item ∈ w.forget.queues q, item.destination = destination :=
      find?_eq_none_iff.mp hm
    have hd := dispatch_recorded_eq_serve quiet same w.record
    rw [World.remember_forget] at hd
    rw [hd]
    exact ⟨_, rfl, serve_conserves quiet (d.size.flatten_cut _).symm⟩

end Dispatcher

namespace QueueStep

/-- Leaving the record aside, a recorded step is the step itself. -/
theorem performRecorded_shadows (q : QueueId) (s : QueueStep ε) :
    (s.performRecorded q).Shadows (s.perform q) := by
  have hd (d : Dispatcher ε) (destination : String) :
      (d.recorded.dispatch q destination).Shadows (d.dispatch q destination) :=
    .dispatch rfl (fun handles ↦ .noting handles _) q
  cases s with
  | append items => exact fun _ ↦ rfl
  | dispatch d destination => exact hd d destination
  | ack a destination => exact (hd a.dispatcher destination).within _
  | nack n destination => exact (hd n.dispatcher destination).within _

/-- One step conserves items: what is written down, followed by what is left, is what was there,
followed by what the step appends. -/
theorem performRecorded_conserves {q : QueueId} {s : QueueStep ε} (hs : s.Quiet q)
    (w : World (ε × List (List String))) :
    ∃ calls : List (List String),
      ((s.performRecorded q).apply w).2.record = w.record ++ calls ∧
      calls.flatten ++ receiptHandles (((s.performRecorded q).apply w).2.queues q) =
        receiptHandles (w.queues q ++ s.appended) := by
  cases s with
  | append items =>
    refine ⟨[], (List.append_nil _).symm, ?_⟩
    rw [List.flatten_nil, List.nil_append]
    exact congrArg receiptHandles (World.queues_setQueue_self ..)
  | dispatch d destination =>
    rw [appended, List.append_nil]
    exact Dispatcher.conserves_dispatch hs w
  | ack a destination =>
    rw [appended, List.append_nil]
    have quiet : a.dispatcher.action.LeavesQueue q :=
      (steady_sameQueue q).acknowledge (nextId_sameQueue _ q) hs
    exact (steady_conserves q).within _ (Dispatcher.conserves_dispatch quiet) w
  | nack n destination =>
    rw [appended, List.append_nil]
    have quiet : n.dispatcher.action.LeavesQueue q :=
      (steady_sameQueue q).handBack (nextId_sameQueue _ q) hs
    exact (steady_conserves q).within _ (Dispatcher.conserves_dispatch quiet) w

/-- Steps conserve items: what they write down, followed by what is left, is what was there,
followed by what they append. -/
theorem runRecorded_conserves {q : QueueId} {steps : List (QueueStep ε)}
    (quiet : ∀ s ∈ steps, s.Quiet q) (w : World (ε × List (List String))) :
    ∃ calls : List (List String),
      (runRecorded q steps w).record = w.record ++ calls ∧
      calls.flatten ++ receiptHandles ((runRecorded q steps w).queues q) =
        receiptHandles (w.queues q ++ steps.flatMap appended) := by
  induction steps generalizing w with
  | nil =>
    refine ⟨[], (List.append_nil _).symm, ?_⟩
    rw [List.flatMap_nil, List.append_nil]
    rfl
  | cons s steps ih =>
    let v := ((s.performRecorded q).apply w).2
    obtain ⟨first, hf, hc⟩ := performRecorded_conserves (quiet s List.mem_cons_self) w
    obtain ⟨rest, hr, hd⟩ := ih (fun t ht ↦ quiet t (List.mem_cons_of_mem s ht)) v
    refine ⟨first ++ rest, ?_, ?_⟩
    · rw [← List.append_assoc, ← hf]
      exact hr
    · calc (first ++ rest).flatten ++ receiptHandles ((runRecorded q (s :: steps) w).queues q)
        _ = first.flatten ++ (rest.flatten ++
              receiptHandles ((runRecorded q steps v).queues q)) := by
          rw [List.flatten_append, List.append_assoc]
          rfl
        _ = first.flatten ++ receiptHandles (v.queues q) ++
              receiptHandles (steps.flatMap appended) := by
          rw [hd, receiptHandles_append, List.append_assoc]
        _ = receiptHandles (w.queues q ++ (s :: steps).flatMap appended) := by
          rw [hc, ← receiptHandles_append, List.append_assoc, List.flatMap_cons]

/-- After any steps on a queue the receipt handles that were given to actions, followed by those
still in the queue, are those of all items that were ever in it, in the order in which they came.
Leaving the record aside, the recorded run is the run itself. -/
theorem queue_conserved (q : QueueId) (steps : List (QueueStep ε)) (w : World ε)
    (quiet : ∀ s ∈ steps, s.Quiet q) :
    let w' := runRecorded q steps (w.remember [])
    w'.forget = run q steps w ∧
    w'.record.flatten ++ receiptHandles (w'.queues q) =
      receiptHandles (w.queues q ++ steps.flatMap appended) := by
  intro w'
  obtain ⟨calls, hr, hc⟩ := runRecorded_conserves quiet (w.remember [])
  refine ⟨Action.Shadows.forget_runAll (performRecorded_shadows q) steps _, ?_⟩
  have hw : w'.record = calls := hr
  rw [hw]
  exact hc

/-- A client that fails its second call and no other one. -/
private def stumbling : QueueClient Nat where
  changeVisibility destination _ := Action.ofBackend fun n ↦
    (if n = 1 then .error .halfCredentials else .ok { destination }, n + 1)
  delete destination _ := Action.ofBackend fun n ↦
    (if n = 1 then .error .halfCredentials else .ok { destination }, n + 1)

/-- A dispatcher whose action has no results. -/
private def silent : Dispatcher Nat where
  action _ _ := Action.ofExcept (.ok none)
  size := ⟨3, by decide, by decide⟩

/-- Two full batches of which the second one fails, a refusal of mixed destinations, a dispatch of
what is left, and a batch that is not sent. -/
private def stumblingSteps : List (QueueStep Nat) :=
  [.append ((List.replicate 22 "a").map fun h ↦ ⟨h, "orders", ""⟩),
    .ack { client := stumbling } "orders",
    .dispatch silent "bills",
    .dispatch silent "orders",
    .append [⟨"b", "bills", ""⟩],
    .nack { client := stumbling, policy := some { mode := .queueDelay } } "bills",
    .append [⟨"c", "orders", ""⟩, ⟨"d", "bills", ""⟩],
    .nack { client := stumbling } "orders"]

/-- Along the example steps all items are accounted for. -/
theorem queue_conserved_stumbling :
    (∀ s ∈ stumblingSteps, s.Quiet 0) ∧
    let w' := runRecorded 0 stumblingSteps (World.remember { outside := 0 } [])
    w'.record.flatten ++ receiptHandles (w'.queues 0) =
      List.replicate 22 "a" ++ ["b", "c", "d"] := by
  have quiet : ∀ s ∈ stumblingSteps, s.Quiet 0 := by
    have hc : stumbling.Guarantees (SameQueue 0) := ⟨fun _ _ _ ↦ rfl, fun _ _ _ ↦ rfl⟩
    have hd : silent.action.LeavesQueue 0 := fun _ _ _ ↦ rfl
    simp only [stumblingSteps, List.forall_mem_cons, Quiet]
    exact ⟨trivial, hc, hd, hd, trivial, hc, trivial, hc, by simp⟩
  exact ⟨quiet, (queue_conserved 0 stumblingSteps _ quiet).2⟩

end QueueStep
end QueueAck
