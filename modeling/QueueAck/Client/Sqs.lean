import QueueAck.World

/-!
# The SQS client

A queue client on an SQS backend. Entries are encoded field by field, a timeout only when there is
one. An error of SQS is logged and reported as a failed batch call; any other failure passes as it
is. A response is read entry by entry, the successful ones first.
-/

namespace QueueAck

/-- The batch calls of SQS. -/
inductive SqsOperation where
  /-- Changes visibility timeouts. -/
  | changeVisibility
  /-- Deletes messages. -/
  | delete
deriving DecidableEq, Repr

/-- The name of a batch call. -/
def SqsOperation.name : SqsOperation → String
  | .changeVisibility => "change_message_visibility_batch"
  | .delete => "delete_message_batch"

/-- An entry of a request to SQS. -/
structure SqsEntry where
  /-- The identifier of the entry. -/
  id : String
  /-- The handle of the message. -/
  receiptHandle : String
  /-- The visibility timeout, when it is to be changed. -/
  visibilityTimeout : Option Int := none
deriving DecidableEq, Repr

/-- The fields of an entry, as they are sent. -/
def SqsEntry.fields (e : SqsEntry) : List (String × Value) :=
  [("Id", .text e.id), ("ReceiptHandle", .text e.receiptHandle)] ++
    (e.visibilityTimeout.map fun t => ("VisibilityTimeout", Value.int t)).toList

/-- A request to SQS. -/
structure SqsRequest where
  /-- The batch call. -/
  operation : SqsOperation
  /-- The queue. -/
  queueUrl : String
  /-- The entries. -/
  entries : List SqsEntry
deriving DecidableEq, Repr

/-- An SQS service, or what stands in for one. -/
structure SqsBackend (ε : Type) where
  /-- Carries a request out and answers with a response. -/
  call : SqsRequest → Action ε Value

namespace SqsResponse

/-- The list of entries under a name; a missing list has no entries. -/
def entries (response : Value) (name : String) : Except Misuse (List Value) := do
  match ← response.fieldOf name with
  | none => return []
  | some (.list vs) => return vs
  | some (.text s) => return s.toList.map fun c => .text c.toString
  | some (.record fs) => return fs.map fun f => .text f.1
  | some v => .error (.hasNoItems v.typeName)

/-- The report of a failed entry; missing parts are empty, and the caller is not to blame unless it
is said. -/
def failure (entry : Value) : Except Misuse EntryFailure := do
  let id ← entry.part "Id"
  return {
    id
    code := (entry.field? "Code").getD (.text "")
    message := (entry.field? "Message").getD (.text "")
    senderFault := (entry.field? "SenderFault").getD (.bool false) }

/-- The result that a response describes. -/
def result (destination : String) (response : Value) : Except Misuse BatchResult := do
  let successful ← (← entries response "Successful").mapM fun e => e.part "Id"
  let failed ← (← entries response "Failed").mapM failure
  return { destination, successful, failed }

end SqsResponse

namespace SqsBackend

variable {ε : Type}

/-- The place that logs for a batch call. -/
def site (operation : SqsOperation) : Log.Site := ⟨"sqs", operation.name⟩

/-- Sends one batch. A batch with too many entries is not sent. -/
def send (b : SqsBackend ε) (request : SqsRequest) : Action ε BatchResult := do
  if maxBatch < request.entries.length then throw (.oversizedBatch request.entries.length)
  else
    match ← Action.attempt (b.call request) with
    | .ok response =>
      Action.ofExcept ((SqsResponse.result request.queueUrl response).mapError .misuse)
    | .error f =>
      if f.isSqs then do
        Action.report (site request.operation) Log.error
          ("The " ++ request.operation.name ++ " call failed for " ++ request.queueUrl)
          (some { failure := f })
        throw (.backendCall request.operation.name request.queueUrl f)
      else throw f

/-- The entries of a request that changes visibility timeouts. -/
def changeEntries (entries : List BatchEntry) : List SqsEntry :=
  entries.map fun e => ⟨e.id, e.receiptHandle, e.visibilityTimeout⟩

/-- The entries of a request that deletes messages. -/
def deleteEntries (entries : List BatchEntry) : List SqsEntry :=
  entries.map fun e => ⟨e.id, e.receiptHandle, none⟩

/-- The queue client on an SQS service. -/
def client (b : SqsBackend ε) : QueueClient ε where
  changeVisibility destination entries :=
    b.send ⟨.changeVisibility, destination, changeEntries entries⟩
  delete destination entries := b.send ⟨.delete, destination, deleteEntries entries⟩

/-- What is used as an SQS service and is none: it lacks every batch call. -/
def lacking (typeName : String) : SqsBackend ε where
  call request := throw (.misuse (.lacksAttribute typeName request.operation.name))

end SqsBackend
end QueueAck
