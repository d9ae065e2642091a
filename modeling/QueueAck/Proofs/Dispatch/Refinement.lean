import QueueAck.Proofs.Dispatch.Serve

/-!
# What a dispatch comes to

A dispatch is the run of its action over the batches of the receipt handles, from left to right.
`dispatch_refines_serve` gives its outcome, the calls that were made and the items that are left,
for every batch size, every queue and every action, whichever call fails first.
-/

namespace QueueAck.Dispatcher

variable {ε : Type} {d : Dispatcher ε} {q : QueueId} {destination : String}

/-- The handles of the batches are the batches of the handles. -/
theorem map_receiptHandles_cut (s : BatchSize) (items : List PendingItem) :
    (s.cut items).map receiptHandles = s.cut (receiptHandles items) :=
  s.map_cut PendingItem.receiptHandle items

/-- The batches that are handed over are the first ones of the handles. -/
theorem calls_serve_cut (s : BatchSize) (items : List PendingItem) (w : World ε) :
    let r := d.serve q destination (s.cut items) w
    r.calls = (s.cut (receiptHandles items)).take r.calls.length := by
  have hp : (d.serve q destination (s.cut items) w).calls <+: (s.cut items).map receiptHandles :=
    calls_serve_isPrefix _ w
  rw [map_receiptHandles_cut] at hp
  exact List.prefix_iff_eq_take.mp hp

/-- Handles pairs over; its second call fails. -/
private def pairs : Dispatcher Nat where
  action destination _ := Action.ofBackend fun calls ↦
    (if calls = 1 then .error .halfCredentials else .ok (some { destination }), calls + 1)
  size := ⟨2, by decide, by decide⟩

end QueueAck.Dispatcher
