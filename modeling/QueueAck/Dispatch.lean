import QueueAck.World

/-!
# Dispatching pending items

A dispatcher drains a queue from its front and hands the receipt handles of the items to an action,
a full batch at a time and what is left at the end. Items of another destination are refused before
anything is drained. When the action fails the dispatch ends with that failure: what was handed over
stays handed over, and what was not drained stays in the queue.

Draining takes fuel: one unit for each item that waits, and `World.patience` more for those that
join the queue meanwhile. `Failure.endlessQueue` says that it has run out, on a queue that is filled
while it is drained. No such failure is a behaviour of the library, which goes on draining; with
enough patience there is none either.
-/

namespace QueueAck

/-- What is done with the receipt handles of one batch; there may be no result. -/
abbrev BatchAction (ε : Type) :=
  (destination : String) → (receiptHandles : List String) → Action ε (Option BatchResult)

/-- A batch size that backends accept. -/
structure BatchSize where
  /-- The number of entries of a full batch. -/
  val : Nat := maxBatch
  /-- A batch has some entry. -/
  val_pos : 0 < val := by decide
  /-- No batch is larger than backends accept. -/
  val_le : val ≤ maxBatch := by decide
deriving DecidableEq, Repr

/-- The batch size of an integer within the accepted range. The refusal shows the integer, and one
with too many digits cannot be shown. -/
def BatchSize.ofInt (n : Int) : Except Failure BatchSize :=
  if h : 0 < n ∧ n ≤ maxBatch then .ok ⟨n.toNat, by omega, by omega⟩
  else (decimalText n).bind fun _ => .error (.batchSize n)

/-- An integer is a batch size exactly when it is in the range. -/
theorem BatchSize.ofInt_eq_ok_iff {n : Int} {s : BatchSize} :
    BatchSize.ofInt n = .ok s ↔ n = s.val := by
  unfold BatchSize.ofInt
  constructor
  · intro h
    split at h
    · cases h
      dsimp only
      omega
    · cases shown : decimalText n with
      | error => rw [shown] at h; cases h
      | ok => rw [shown] at h; cases h
  · rintro rfl
    have h : 0 < (s.val : Int) ∧ (s.val : Int) ≤ maxBatch :=
      ⟨by exact_mod_cast s.val_pos, by exact_mod_cast s.val_le⟩
    rw [dif_pos h]
    simp

/-- An action and the size of the batches that it takes. -/
structure Dispatcher (ε : Type) where
  /-- What is done with a batch. -/
  action : BatchAction ε
  /-- The size of a full batch. -/
  size : BatchSize := {}

namespace Dispatcher

variable {ε : Type}

/-- The place from which batches are announced. -/
def site : Log.Site := ⟨"dispatcher", "_flush"⟩

/-- Hands one batch to the action. -/
def flush (d : Dispatcher ε) (destination : String) (handles : List String) :
    Action ε (Option BatchResult) := do
  Action.report site Log.debug
    ("Dispatching a batch of " ++ handles.length.repr ++ " receipt handles.")
  d.action destination handles

/-- Drains a queue. `handles` are those drained since the last batch, and `results` those of the
batches before. Every item drained takes one unit of fuel, and so does the end of the queue. -/
def drain (d : Dispatcher ε) (q : QueueId) (destination : String) :
    Nat → List String → List BatchResult → Action ε (List BatchResult)
  | 0, _, _ => throw .endlessQueue
  | fuel + 1, handles, results => do
    match ← Action.popFront q with
    | none =>
      if handles.isEmpty then return results
      else return results ++ (← d.flush destination handles).toList
    | some item =>
      let handles := handles ++ [item.receiptHandle]
      if handles.length = d.size.val then
        let result ← d.flush destination handles
        d.drain q destination fuel [] (results ++ result.toList)
      else d.drain q destination fuel handles results

/-- Hands the items of a queue to the action, batch by batch, and returns the results that there
are. An item of another destination anywhere in the queue is refused, and then nothing is
drained. -/
def dispatch (d : Dispatcher ε) (q : QueueId) (destination : String) :
    Action ε (List BatchResult) := do
  let items ← Action.read fun w => w.queues q
  match items.find? fun item => item.destination != destination with
  | some item => throw (.mixedDestinations item.receiptHandle item.destination destination)
  | none =>
    let patience ← Action.read fun w => w.patience
    d.drain q destination (items.length + 1 + patience) [] []

end Dispatcher
end QueueAck
