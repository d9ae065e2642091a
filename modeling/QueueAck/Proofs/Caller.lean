import QueueAck.Proofs.Shadow

/-!
# Callers of a connection

A caller fills queues and has a connection acknowledge them or hand them back, step after step. A
failed step does not keep the caller from going on. A step guarantees what both acknowledgers of the
connection do (`perform_guarantees`), and writing down the calls on the client changes nothing about
a run (`forget_run_recorded`).
-/

namespace QueueAck

variable {ε : Type}

/-- What a caller does next. -/
inductive CallerStep where
  /-- A queue is given other items. -/
  | fill (q : QueueId) (items : List PendingItem)
  /-- A queue is acknowledged. -/
  | ack (q : QueueId) (destination : String)
  /-- A queue is handed back. -/
  | nack (q : QueueId) (destination : String)
deriving DecidableEq, Repr

namespace Connection

variable {c : Connection (QueueClient ε)} {R : World ε → World ε → Prop}

/-- Takes a step. -/
def perform (c : Connection (QueueClient ε)) : CallerStep → Action ε (List BatchResult)
  | .fill q items => Action.change (fun w ↦ w.setQueue q items) >>= fun _ ↦ pure []
  | .ack q destination => c.ack q destination
  | .nack q destination => c.nack q destination

/-- The state after steps, failed ones included. -/
def run (c : Connection (QueueClient ε)) : List CallerStep → World ε → World ε :=
  Action.runAll c.perform

/-- The steps of a run, each with the state in which it is taken. -/
def history (c : Connection (QueueClient ε)) :
    List CallerStep → World ε → List (CallerStep × World ε)
  | [], _ => []
  | s :: steps, w => (s, w) :: c.history steps ((c.perform s).apply w).2

/-- The steps of a run, each with its outcome. -/
def outcomes (c : Connection (QueueClient ε)) (steps : List CallerStep) (w : World ε) :
    List (CallerStep × Except Failure (List BatchResult)) :=
  (c.history steps w).map fun taken ↦ (taken.1, ((c.perform taken.1).apply taken.2).1)

/-- The outcome of the first step comes before those of the others. -/
theorem outcomes_cons (c : Connection (QueueClient ε)) (s : CallerStep) (steps : List CallerStep)
    (w : World ε) :
    c.outcomes (s :: steps) w =
      (s, ((c.perform s).apply w).1) :: c.outcomes steps ((c.perform s).apply w).2 := rfl

/-- The outcomes are those of the steps, one after the other. -/
theorem outcomes_eq (c : Connection (QueueClient ε)) (steps : List CallerStep) (w : World ε) :
    c.outcomes steps w = Action.outcomes c.perform steps w := by
  induction steps generalizing w with
  | nil => rfl
  | cons s steps ih => rw [outcomes_cons, ih, Action.outcomes]

/-- The connection with every call on its client written down. -/
def recorded (c : Connection (QueueClient ε)) : Connection (QueueClient (ε × List BatchCall)) :=
  c.map QueueClient.recorded

/-- A step guarantees what both kinds of acknowledgers do. -/
theorem perform_guarantees (h : ∀ q, Indifferent R q)
    (ha : ∀ destination handles, (c.acknowledger.action destination handles).Guarantees R)
    (hn : ∀ destination handles, (c.negativeAcknowledger.action destination handles).Guarantees R)
    (s : CallerStep) : (c.perform s).Guarantees R := by
  cases s with
  | fill q items => exact fun w ↦ (h q).queue w items
  | ack q destination =>
    have hd : (c.acknowledger.dispatcher.dispatch q destination).Guarantees R :=
      (h q).dispatch (ha destination)
    exact (h q).within _ hd
  | nack q destination =>
    have hd : (c.negativeAcknowledger.dispatcher.dispatch q destination).Guarantees R :=
      (h q).dispatch (hn destination)
    exact (h q).within _ hd

/-- A step with a recorded client shadows the step. -/
theorem recorded_perform_shadows (c : Connection (QueueClient ε)) (s : CallerStep) :
    (c.recorded.perform s).Shadows (c.perform s) := by
  cases s with
  | fill q items => exact fun _ ↦ rfl
  | ack q destination => exact c.client.recorded_shadows.acknowledgeAll c.generator q destination
  | nack q destination =>
    exact c.client.recorded_shadows.handBackAll c.policy c.generator q destination

/-- A recorded run has the outcomes of the run itself. -/
theorem outcomes_recorded (c : Connection (QueueClient ε)) (steps : List CallerStep)
    (w : World (ε × List BatchCall)) : c.recorded.outcomes steps w = c.outcomes steps w.forget := by
  rw [outcomes_eq, outcomes_eq]
  exact (Action.run_agrees (fun s ↦ (c.recorded_perform_shadows s).agrees) steps rfl).1

/-- Leaving the record aside, a recorded run is the run itself. -/
theorem forget_run_recorded (c : Connection (QueueClient ε)) (steps : List CallerStep)
    (w : World (ε × List BatchCall)) : (c.recorded.run steps w).forget = c.run steps w.forget :=
  Action.Shadows.forget_runAll c.recorded_perform_shadows steps w

end Connection
end QueueAck
