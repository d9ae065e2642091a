import QueueAck.Proofs.Accounting

/-!
# What SQS is sent and what it answers

A call on a client of SQS goes out as one request, unless its batch is too large and nothing is
sent. The entries can be read back from what is sent (`BatchEntry.ofValue?`), where no timeout is
told apart from a timeout of zero, and what the response lists is found entry by entry in the result
(`SqsBackend.client_lossless`).
-/

namespace QueueAck

variable {ε : Type}

/-- The entries of a request, as they are sent. -/
def SqsRequest.sent (r : SqsRequest) : List Value :=
  r.entries.map fun e ↦ .record e.fields

/-- Reads an entry back from what is sent for it. -/
def BatchEntry.ofValue? (v : Value) : Option BatchEntry :=
  match v.field? "Id", v.field? "ReceiptHandle", v.field? "VisibilityTimeout" with
  | some (.text id), some (.text receiptHandle), none => some { id, receiptHandle }
  | some (.text id), some (.text receiptHandle), some (.int t) =>
    some { id, receiptHandle, visibilityTimeout := some t }
  | _, _, _ => none

/-- What a call says of its entries; no timeout matters to deleting. -/
def BatchCall.asked : BatchCall → List BatchEntry
  | .changeVisibility _ entries => entries
  | .delete _ entries => entries.map fun e ↦ { e with visibilityTimeout := none }

/-- An entry is read back from its fields. -/
theorem BatchEntry.ofValue?_record_fields (e : SqsEntry) :
    ofValue? (.record e.fields) = some ⟨e.id, e.receiptHandle, e.visibilityTimeout⟩ := by
  rcases e with ⟨id, receiptHandle, _ | t⟩ <;> rfl

/-- What a call says of its entries is read back from its request, in order. -/
theorem BatchCall.map_ofValue?_sent (call : BatchCall) :
    call.request.sent.map BatchEntry.ofValue? = call.asked.map some := by
  rw [SqsRequest.sent, List.map_map]
  simp only [Function.comp_def, BatchEntry.ofValue?_record_fields]
  cases call with
  | changeVisibility destination entries => exact List.map_map
  | delete destination entries =>
    rw [asked, List.map_map]
    exact List.map_map

namespace SqsBackend

variable {b : SqsBackend ε} {request : SqsRequest} {w : World ε}

/-- The service with every request that it gets written down. -/
def recorded (b : SqsBackend ε) : SqsBackend (ε × List SqsRequest) where
  call request := (b.call request).noting request

/-- A batch that is too large is refused, whatever the service. -/
theorem apply_send_of_oversized (large : maxBatch < request.entries.length) (w : World ε) :
    (b.send request).apply w = (.error (.oversizedBatch request.entries.length), w) := by
  rw [send, if_pos large]
  rfl

/-- Any other batch reaches the service once, whatever it answers. -/
theorem apply_send_recorded (small : request.entries.length ≤ maxBatch) (w : World ε)
    (requests : List SqsRequest) :
    (b.recorded.send request).apply (w.remember requests) =
      (((b.send request).apply w).1,
        ((b.send request).apply w).2.remember (requests ++ [request])) := by
  rw [send, send, if_neg (Nat.not_lt.mpr small), if_neg (Nat.not_lt.mpr small), Action.apply_bind,
    Action.apply_bind, Action.apply_attempt, Action.apply_attempt]
  have noted : (b.recorded.call request).apply (w.remember requests) =
      (((b.call request).apply w).1,
        ((b.call request).apply w).2.remember (requests ++ [request])) := rfl
  rw [noted]
  cases ((b.call request).apply w).1 with
  | ok response => rfl
  | error f =>
    dsimp only
    split <;> rfl

/-- An answer is read as a result, or its misuse is the failure. -/
theorem apply_send_of_ok (small : request.entries.length ≤ maxBatch) {response : Value}
    {w' : World ε} (answered : (b.call request).apply w = (.ok response, w')) :
    (b.send request).apply w =
      ((SqsResponse.result request.queueUrl response).mapError .misuse, w') := by
  rw [send, if_neg (Nat.not_lt.mpr small), Action.apply_bind, Action.apply_attempt, answered]
  rfl

/-- A call with more than ten entries is refused before the service gets anything. Any other call
reaches the service as one request to its destination, from which every entry is read back in order:
the identifier, the handle and, where visibility timeouts are changed, the timeout or that there is
none. When the service answers with a response whose entries all have identifiers, the result has
the destination and, one for one and in order, the identifiers of the successful entries and the
reports of the failed ones; when some entry has none, this is the failure. -/
theorem client_lossless (b : SqsBackend ε) (call : BatchCall) (w : World ε) :
    (10 < call.entries.length →
      let f := Failure.oversizedBatch call.entries.length
      f.kind = "SQSMessagingException" ∧ (b.client.perform call).apply w = (.error f, w) ∧
        ∀ requests, (b.recorded.client.perform call).apply (w.remember requests) =
          (.error f, w.remember requests)) ∧
    (call.entries.length ≤ 10 →
      let r := (b.client.perform call).apply w
      (∀ requests, (b.recorded.client.perform call).apply (w.remember requests) =
        (r.1, r.2.remember (requests ++ [call.request]))) ∧
      call.request.queueUrl = call.destination ∧
      call.request.sent.map BatchEntry.ofValue? = call.asked.map some ∧
      ∀ response w', (b.call call.request).apply w = (.ok response, w') →
        (∀ successful failed, SqsResponse.Lists response successful failed →
          (∀ e ∈ successful ++ failed, ∃ id, e.field? "Id" = some id) →
          r = (.ok { destination := call.destination
                     successful := successful.map SqsResponse.idOf
                     failed := failed.map SqsResponse.failureOf }, w')) ∧
        (SqsResponse.LacksId response →
          let f := Failure.misuse (.missingField "Id")
          f.kind = "KeyError" ∧ r = (.error f, w'))) := by
  refine ⟨fun large ↦ ?_, fun small ↦ ⟨fun requests ↦ ?_, call.queueUrl_request,
    call.map_ofValue?_sent, fun response w' answered ↦ ⟨fun successful failed lists named ↦ ?_,
      fun lacking ↦ ⟨rfl, ?_⟩⟩⟩⟩
  · rw [← call.length_request] at large ⊢
    rw [perform_client, perform_client]
    exact ⟨rfl, apply_send_of_oversized large w, fun requests ↦ apply_send_of_oversized large _⟩
  · rw [perform_client, perform_client]
    exact apply_send_recorded (call.length_request ▸ small) w requests
  · rw [perform_client, apply_send_of_ok (call.length_request ▸ small) answered,
      SqsResponse.result_of_named lists named, call.queueUrl_request]
    rfl
  · rw [perform_client, apply_send_of_ok (call.length_request ▸ small) answered,
      SqsResponse.result_of_lacksId lacking]
    rfl

/-- A service that gives one response to every request. -/
private def replying (response : Value) : SqsBackend Unit where
  call _ := Action.ofExcept (.ok response)

/-- Three entries: without a timeout, with a timeout of zero, and with another one. -/
private def threeTimeouts : BatchCall :=
  .changeVisibility "orders" [⟨"0", "a", none⟩, ⟨"1", "b", some 0⟩, ⟨"2", "c", some 5⟩]

/-- One entry was carried out, and two were refused with little said about them. -/
private def terse : Value :=
  .record [("Successful", .list [.record [("Id", .text "2")]]),
    ("Failed", .list [.record [("Id", .text "0"), ("Code", .text "Gone")],
      .record [("SenderFault", .bool true), ("Id", .text "1")]])]

/-- A refused entry is not named. -/
private def nameless : Value :=
  .record [("Failed", .list [.record [("Code", .text "Gone")]])]

/-- The three entries are read back and the terse response is read whole, the nameless one not at
all; eleven entries are refused. -/
theorem client_lossless_terse :
    threeTimeouts.request.sent.map BatchEntry.ofValue? =
      [some ⟨"0", "a", none⟩, some ⟨"1", "b", some 0⟩, some ⟨"2", "c", some 5⟩] ∧
    ((replying terse).client.perform threeTimeouts).apply { outside := () } =
      (.ok { destination := "orders"
             successful := [.text "2"]
             failed := [{ id := .text "0", code := .text "Gone" },
               { id := .text "1", code := .text "", senderFault := .bool true }] },
        { outside := () }) ∧
    ((replying nameless).client.perform threeTimeouts).apply { outside := () } =
      (.error (.misuse (.missingField "Id")), { outside := () }) ∧
    ((replying terse).client.perform (.delete "orders" (List.replicate 11 ⟨"0", "a", none⟩))).apply
      { outside := () } = (.error (.oversizedBatch 11), { outside := () }) := by
  obtain ⟨-, sent⟩ := client_lossless (replying terse) threeTimeouts { outside := () }
  obtain ⟨-, -, readBack, answered⟩ := sent (by decide)
  obtain ⟨-, unread⟩ := client_lossless (replying nameless) threeTimeouts { outside := () }
  obtain ⟨-, -, -, refused⟩ := unread (by decide)
  obtain ⟨oversized, -⟩ := client_lossless (replying terse)
    (.delete "orders" (List.replicate 11 ⟨"0", "a", none⟩)) { outside := () }
  have listed : SqsResponse.Lists terse _ _ := ⟨rfl, rfl⟩
  have lacking : SqsResponse.LacksId nameless :=
    ⟨[], _, ⟨rfl, rfl⟩, by simp, .record [("Code", .text "Gone")], by simp, rfl⟩
  refine ⟨readBack, (answered terse _ rfl).1 _ _ listed ?_, ((refused nameless _ rfl).2 lacking).2,
    (oversized (by decide)).2.1⟩
  intro e he
  fin_cases he <;> exact ⟨_, rfl⟩

end SqsBackend
end QueueAck
