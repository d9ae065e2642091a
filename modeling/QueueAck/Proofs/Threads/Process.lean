import QueueAck.Proofs.Submission

/-!
# Bulk actions as processes

A bulk action taken apart into the steps between which other threads may run. Drawing an identifier
is a step of its own, and so is handing a batch over. `Job.splits_task` says that a task which no
other thread interrupts does what the bulk action does.
-/

namespace QueueAck

variable {ε α β : Type}

/-- What a thread has still to do, step by step. -/
inductive Process (ε α : Type) where
  /-- Nothing. -/
  | done (x : α)
  /-- It draws the next identifier from a source. -/
  | draw (g : GeneratorId) (next : Except Failure String → Process ε α)
  /-- It hands a batch over. -/
  | hand (made : BatchCall) (next : Process ε α)
  /-- It changes the state, and goes on with what the state was. -/
  | step (change : World ε → World ε) (next : World ε → Process ε α)

namespace Process

/-- One process after the other. -/
def bind : Process ε α → (α → Process ε β) → Process ε β
  | .done x, k => k x
  | .draw g next, k => .draw g fun r ↦ (next r).bind k
  | .hand made next, k => .hand made (next.bind k)
  | .step change next, k => .step change fun w ↦ (next w).bind k

instance : Monad (Process ε) where
  pure := done
  bind := bind

/-- What a process comes to that no other thread interrupts. -/
def alone : Process ε α → World ε → α × World ε
  | .done x, w => (x, w)
  | .draw g next, w =>
    (next (decimalText (w.counters g))).alone (w.setCounter g (w.counters g + 1))
  | .hand _ next, w => next.alone w
  | .step change next, w => (next w).alone (change w)

/-- The second of two processes goes on where the first one ends. -/
theorem alone_bind (p : Process ε α) (k : α → Process ε β) (w : World ε) :
    (p.bind k).alone w = (k (p.alone w).1).alone (p.alone w).2 := by
  induction p generalizing w with
  | done x => rfl
  | draw g next ih => exact ih ..
  | hand made next ih => exact ih w
  | step change next ih => exact ih ..

end Process

/-- A process that ends with a value or a failure. -/
abbrev Task (ε : Type) := ExceptT Failure (Process ε)

namespace Task

/-- The process of a task. -/
def process (t : Task ε α) : Process ε (Except Failure α) := t.run

/-- A task given by its process. -/
def ofProcess (p : Process ε (Except Failure α)) : Task ε α := ExceptT.mk p

/-- The process of a task after another one. A failure of the first one is that of both. -/
theorem process_bind (t : Task ε α) (k : α → Task ε β) :
    (t >>= k).process = t.process.bind fun
      | .ok x => (k x).process
      | .error f => .done (.error f) := by
  change t.process.bind _ = _
  congr 1
  funext r
  cases r <;> rfl

/-- An action in one step. -/
def ofAction (a : Action ε α) : Task ε α :=
  ofProcess (.step (fun w ↦ (a.apply w).2) fun w ↦ .done (a.apply w).1)

/-- Draws the next identifier. -/
def nextId (g : GeneratorId) : Task ε String := ofProcess (.draw g .done)

/-- Hands a batch over and has the client carry it out. -/
def hand (client : QueueClient ε) (made : BatchCall) : Task ε BatchResult :=
  ofProcess (.hand made (ofAction (client.perform made)).process)

/-- A task inside a context that extends the one before, which is there again afterwards. -/
def within (fields : List (String × Value)) (t : Task ε α) : Task ε α :=
  ofProcess (.step (fun w ↦ w.setContext (w.log.context.overlay fields)) fun before ↦
    t.process.bind fun r ↦
      .step (fun w ↦ w.setContext before.log.context) fun _ ↦ .done r)

/-- Hands one batch to the action of a dispatcher. -/
def flush (act : List String → Task ε (Option BatchResult)) (handles : List String) :
    Task ε (Option BatchResult) := do
  ofAction (Action.report Dispatcher.site Log.debug
    ("Dispatching a batch of " ++ handles.length.repr ++ " receipt handles."))
  act handles

/-- Drains a queue. -/
def drain (size : BatchSize) (act : List String → Task ε (Option BatchResult)) (q : QueueId) :
    Nat → List String → List BatchResult → Task ε (List BatchResult)
  | 0, _, _ => throw .endlessQueue
  | fuel + 1, handles, results => do
    match ← ofAction (Action.popFront q) with
    | none =>
      if handles.isEmpty then return results
      else return results ++ (← flush act handles).toList
    | some item =>
      let handles := handles ++ [item.receiptHandle]
      if handles.length = size.val then
        let result ← flush act handles
        drain size act q fuel [] (results ++ result.toList)
      else drain size act q fuel handles results

/-- Hands the items of a queue to the action, batch by batch. -/
def dispatch (size : BatchSize) (act : List String → Task ε (Option BatchResult)) (q : QueueId)
    (destination : String) : Task ε (List BatchResult) := do
  let items ← ofAction (Action.read fun w ↦ w.queues q)
  match items.find? fun item ↦ item.destination != destination with
  | some item => throw (.mixedDestinations item.receiptHandle item.destination destination)
  | none =>
    let patience ← ofAction (Action.read fun w ↦ w.patience)
    drain size act q (items.length + 1 + patience) [] []

end Task

/-- Requests something for one batch; an empty batch is not sent. -/
def Submission.task (s : Submission ε) (handles : List String) : Task ε (Option BatchResult) :=
  if handles.isEmpty then return none
  else do
    Task.ofAction s.announce
    let entries ← numberEntries (Task.nextId s.generator) s.timeout handles
    let result ← Task.hand s.client (s.call entries)
    Task.ofAction (reportFailures s.site s.introduction result.failed)
    return some result

/-- What an acknowledger does with one batch. -/
def Acknowledger.task (a : Acknowledger ε) (destination : String) :
    List String → Task ε (Option BatchResult) := (a.submission destination).task

/-- What a negative acknowledger does with one batch. Under the queue's own delay it draws nothing,
and a batch is one step. -/
def NegativeAcknowledger.task (n : NegativeAcknowledger ε) (destination : String)
    (handles : List String) : Task ε (Option BatchResult) :=
  match resolveDelay n.policy with
  | some timeout => (n.submission destination timeout).task handles
  | none => Task.ofAction (n.action destination handles)

/-- A bulk action that a thread is to carry out. -/
inductive Job (ε : Type) where
  /-- A queue is acknowledged. -/
  | ack (a : Acknowledger ε) (q : QueueId) (destination : String)
  /-- A queue is handed back. -/
  | nack (n : NegativeAcknowledger ε) (q : QueueId) (destination : String)

namespace Job

/-- The bulk action. -/
def action : Job ε → Action ε (List BatchResult)
  | .ack a q destination => a.bulk q destination
  | .nack n q destination => n.bulk q destination

/-- The source of the entry identifiers. -/
def generator : Job ε → GeneratorId
  | .ack a .. => a.generator
  | .nack n .. => n.generator

/-- The backend. -/
def client : Job ε → QueueClient ε
  | .ack a .. => a.client
  | .nack n .. => n.client

/-- The bulk action, taken apart. -/
def task : Job ε → Task ε (List BatchResult)
  | .ack a q destination =>
    Task.within (operationContext destination "ack")
      (Task.dispatch a.dispatcher.size (a.task destination) q destination)
  | .nack n q destination =>
    Task.within (operationContext destination "nack")
      (Task.dispatch n.dispatcher.size (n.task destination) q destination)

end Job

/-- The task takes the action apart: alone, it does what the action does. -/
def Task.Splits (t : Task ε α) (a : Action ε α) : Prop := ∀ w, t.process.alone w = a.apply w

namespace Task.Splits

/-- Nothing to do. -/
theorem pure (x : α) : (Pure.pure x : Task ε α).Splits (Pure.pure x) := fun _ ↦ rfl

/-- A failure. -/
theorem throw (f : Failure) :
    (MonadExcept.throw f : Task ε α).Splits (MonadExcept.throw f) := fun _ ↦ rfl

/-- An action that stays in one piece. -/
theorem ofAction (a : Action ε α) : (Task.ofAction a).Splits a := fun _ ↦ rfl

/-- Drawing an identifier. -/
theorem nextId (g : GeneratorId) : (Task.nextId g : Task ε String).Splits (Action.nextId g) :=
  fun _ ↦ rfl

/-- Handing a batch over and carrying it out. -/
theorem hand (client : QueueClient ε) (made : BatchCall) :
    (Task.hand client made).Splits (client.perform made) := fun _ ↦ rfl

/-- Two actions are taken apart one after the other. -/
theorem bind {t : Task ε α} {a : Action ε α} {k : α → Task ε β} {l : α → Action ε β}
    (ht : t.Splits a) (hk : ∀ x, (k x).Splits (l x)) : (t >>= k).Splits (a >>= l) := by
  intro w
  rw [Task.process_bind, Process.alone_bind, Action.apply_bind, ht w]
  rcases a.apply w with ⟨_ | x, w'⟩
  · rfl
  · exact hk x w'

/-- An action inside a context. -/
theorem within {t : Task ε α} {a : Action ε α} (ht : t.Splits a)
    (fields : List (String × Value)) : (Task.within fields t).Splits (Action.within fields a) := by
  intro w
  have inside := ht (w.setContext (w.log.context.overlay fields))
  change (t.process.bind _).alone _ = _
  rw [Process.alone_bind, inside]
  rfl

/-- Numbering entries. -/
theorem numberEntries (g : GeneratorId) (timeout : Option Int) (handles : List String) :
    (numberEntries (Task.nextId g : Task ε String) timeout handles).Splits
      (QueueAck.numberEntries (Action.nextId g) timeout handles) := by
  induction handles with
  | nil => exact pure []
  | cons handle handles ih => exact bind (nextId g) fun _ ↦ bind ih fun _ ↦ pure _

/-- Requesting something for a batch. -/
theorem submit (s : Submission ε) (handles : List String) :
    (s.task handles).Splits (s.submit handles) := by
  unfold Submission.task Submission.submit
  split
  · exact pure none
  · refine bind (ofAction _) fun _ ↦ bind (numberEntries _ _ _) fun entries ↦ ?_
    exact bind (hand _ _) fun result ↦ bind (ofAction _) fun _ ↦ pure _

variable {d : Dispatcher ε} {destination : String}
  {act : List String → Task ε (Option BatchResult)}

/-- Handing a batch to the action of a dispatcher. -/
theorem flush (ha : ∀ handles, (act handles).Splits (d.action destination handles))
    (handles : List String) : (Task.flush act handles).Splits (d.flush destination handles) :=
  bind (ofAction _) fun _ ↦ ha handles

/-- Draining a queue. -/
theorem drain (ha : ∀ handles, (act handles).Splits (d.action destination handles)) (q : QueueId)
    (fuel : Nat) (handles : List String) (results : List BatchResult) :
    (Task.drain d.size act q fuel handles results).Splits
      (d.drain q destination fuel handles results) := by
  induction fuel generalizing handles results with
  | zero => exact throw .endlessQueue
  | succ fuel ih =>
    refine bind (ofAction _) fun item ↦ ?_
    cases item with
    | none =>
      dsimp only
      split
      · exact pure results
      · exact bind (flush ha handles) fun _ ↦ pure _
    | some item =>
      dsimp only
      split
      · exact bind (flush ha _) fun _ ↦ ih _ _
      · exact ih _ _

/-- A dispatch. -/
theorem dispatch (ha : ∀ handles, (act handles).Splits (d.action destination handles))
    (q : QueueId) : (Task.dispatch d.size act q destination).Splits (d.dispatch q destination) := by
  refine bind (ofAction _) fun items ↦ ?_
  cases items.find? fun item ↦ item.destination != destination with
  | some item => exact throw _
  | none => exact bind (ofAction _) fun _ ↦ drain ha q _ [] []

end Task.Splits

/-- Alone, the task of a job does what its bulk action does. -/
theorem Job.splits_task (job : Job ε) : job.task.Splits job.action := by
  cases job with
  | ack a q destination =>
    have ha : (Task.dispatch a.dispatcher.size (a.submission destination).task q
        destination).Splits (a.dispatcher.dispatch q destination) :=
      .dispatch (fun handles ↦ .submit (a.submission destination) handles) q
    exact ha.within _
  | nack n q destination =>
    have ha (handles : List String) :
        (n.task destination handles).Splits (n.dispatcher.action destination handles) := by
      change Task.Splits _ (n.action destination handles)
      unfold NegativeAcknowledger.task
      cases h : resolveDelay n.policy with
      | some timeout =>
        rw [n.action_eq_submit h]
        exact .submit _ handles
      | none => exact .ofAction _
    exact (Task.Splits.dispatch ha q).within _

end QueueAck
