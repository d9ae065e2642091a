import QueueAck.Value

/-!
# Batches

The items that wait for an acknowledgement, the entries of a batch request, and what a backend
reports about a batch. What a backend reports is kept as it was given, whatever its type.
-/

namespace QueueAck

/-- The most entries that a backend accepts in one request. -/
def maxBatch : Nat := 10

/-- The least entries that are fetched at a time. -/
def minBatch : Nat := 1

/-- A received message that waits for its acknowledgement. -/
structure PendingItem where
  /-- The handle under which the message was received. -/
  receiptHandle : String
  /-- The queue from which the message was received. -/
  destination : String
  /-- The identifier of the message. -/
  messageId : String := ""
deriving DecidableEq, Repr

/-- An entry of a batch request. -/
structure BatchEntry where
  /-- The identifier of the entry. -/
  id : String
  /-- The handle of the message. -/
  receiptHandle : String
  /-- The visibility timeout that is requested, in seconds. -/
  visibilityTimeout : Option Int := none
deriving DecidableEq, Repr

/-- An entry that the backend refused. -/
structure EntryFailure where
  /-- The identifier of the entry. -/
  id : Value
  /-- The code of the reason. -/
  code : Value
  /-- The text of the reason. -/
  message : Value := .text ""
  /-- Whether the caller is to blame. -/
  senderFault : Value := .bool false
deriving Repr

/-- What a backend reports about one batch. -/
structure BatchResult where
  /-- The queue of the batch. -/
  destination : String
  /-- The identifiers of the entries that were carried out. -/
  successful : List Value := []
  /-- The entries that were refused. -/
  failed : List EntryFailure := []
deriving Repr

/-- True when some entry was refused. -/
def BatchResult.hasFailures (r : BatchResult) : Bool := !r.failed.isEmpty

/-- A result has failures exactly when it lists a failed entry. -/
theorem BatchResult.hasFailures_eq_true_iff {r : BatchResult} :
    r.hasFailures = true ↔ r.failed ≠ [] := by
  simp [BatchResult.hasFailures]

namespace Value

/-- The value of a number as a fraction; a truth value counts as zero or one. -/
def fraction? : Value → Option (Int × Nat)
  | .bool b => some (if b then 1 else 0, 1)
  | .int i => some (i, 1)
  | .double (.finite negative m e) =>
    let f := Double.fraction m e
    some (if negative then -(f.1 : Int) else f.1, f.2)
  | _ => none

/-- True when both values are numbers of one value, or both texts of one content. -/
def sameScalar (a b : Value) : Bool :=
  match a.fraction?, b.fraction? with
  | some x, some y => x.1 * y.2 == y.1 * x.2
  | none, none =>
    match a.asText?, b.asText? with
    | some s, some t => s == t
    | none, none =>
      match a, b with
      | .null, .null => true
      | .double (.infinite x), .double (.infinite y) => x == y
      | .object _ s, .object _ t => s == t
      | _, _ => false
    | _, _ => false
  | _, _ => false

mutual

/-- True when two values count as equal: numbers by their value, texts by their content, lists item
by item, records field by field in any order. -/
def same : Value → Value → Bool
  | .list xs, .list ys => sameItems xs ys
  | .record fs, .record gs => fs.length == gs.length && sameFields fs gs
  | a, b => sameScalar a b

/-- True when two lists have equal items in equal order. -/
def sameItems : List Value → List Value → Bool
  | [], [] => true
  | x :: xs, y :: ys => same x y && sameItems xs ys
  | _, _ => false

/-- True when every field has an equal field of its name in the other record. -/
def sameFields : List (String × Value) → List (String × Value) → Bool
  | [], _ => true
  | (k, v) :: fs, gs =>
    (match gs.lookup k with
      | some w => same v w
      | none => false) && sameFields fs gs

end

end Value

/-- True when two reports of a failed entry count as equal. -/
def EntryFailure.same (a b : EntryFailure) : Bool :=
  a.id.same b.id && a.code.same b.code && a.message.same b.message &&
    a.senderFault.same b.senderFault

/-- True when two results count as equal: one destination, and equal reports in equal order. -/
def BatchResult.same (a b : BatchResult) : Bool :=
  a.destination == b.destination && Value.sameItems a.successful b.successful &&
    a.failed.length == b.failed.length && (a.failed.zip b.failed).all fun p => p.1.same p.2

end QueueAck
