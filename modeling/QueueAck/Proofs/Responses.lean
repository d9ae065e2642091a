import Mathlib
import QueueAck.Client.Sqs

/-!
# Responses of SQS

What becomes of a response to a batch. A response that accounts for every entry of its request, as
carried out or as refused, gives a result that does so too (`SqsResponse.result_of_accounts`); one
with an entry that has no identifier gives none (`SqsResponse.result_of_lacksId`).
-/

namespace QueueAck

variable {α β : Type} {f : α → Except Misuse β}

/-- Steps that all succeed give their results in order. -/
theorem mapM_eq_ok {g : α → β} {xs : List α} (h : ∀ x ∈ xs, f x = .ok (g x)) :
    xs.mapM f = .ok (xs.map g) := by
  induction xs with
  | nil => rfl
  | cons x xs ih =>
    obtain ⟨hx, hxs⟩ := List.forall_mem_cons.mp h
    rw [List.mapM_cons, hx, ih hxs]
    rfl

/-- Steps of which some fail, all in one way, fail in this way. -/
theorem mapM_eq_error {g : α → β} {m : Misuse} {p : α → Prop} [DecidablePred p] {xs : List α}
    (h : ∀ x ∈ xs, f x = if p x then .error m else .ok (g x)) (hp : ∃ x ∈ xs, p x) :
    xs.mapM f = .error m := by
  induction xs with
  | nil => simp at hp
  | cons x xs ih =>
    obtain ⟨hx, hxs⟩ := List.forall_mem_cons.mp h
    rw [List.mapM_cons, hx]
    split
    · rfl
    · next passed =>
      have later : ∃ x ∈ xs, p x := by
        obtain ⟨y, hy, hpy⟩ := hp
        rcases List.mem_cons.mp hy with rfl | hy
        · exact absurd hpy passed
        · exact ⟨y, hy, hpy⟩
      rw [ih hxs later]
      rfl

namespace SqsResponse

/-- The entries that a response lists under a name. A name that is missing lists none. -/
def listed (response : Value) (name : String) : Option (List Value) :=
  match response with
  | .record fields =>
    match fields.lookup name with
    | none => some []
    | some (.list entries) => some entries
    | some _ => none
  | _ => none

/-- What a response lists under a name is read. -/
theorem entries_of_listed {response : Value} {name : String} {es : List Value}
    (h : listed response name = some es) : entries response name = .ok es := by
  cases response with
  | record fields =>
    rw [entries, Value.fieldOf]
    cases hl : fields.lookup name with
    | none =>
      rw [listed, hl] at h
      cases h
      rfl
    | some v =>
      rw [listed, hl] at h
      cases v with
      | list vs =>
        cases h
        rfl
      | _ => cases h
  | _ => cases h

/-- A response that lists some entries as successful and some as failed. -/
structure Lists (response : Value) (successful failed : List Value) : Prop where
  /-- The successful ones. -/
  successful : listed response "Successful" = some successful
  /-- The failed ones. -/
  failed : listed response "Failed" = some failed

/-- The response lists every identifier of its request once, as successful or as failed. -/
def Accounts (request : SqsRequest) (response : Value) : Prop :=
  ∃ successful failed, Lists response successful failed ∧
    ((successful ++ failed).map fun e ↦ e.field? "Id").Perm
      (request.entries.map fun e ↦ some (.text e.id))

/-- The response lists an entry as failed. -/
def ReportsFailure (response : Value) : Prop :=
  ∃ entry others, listed response "Failed" = some (entry :: others)

/-- The response lists records, and one of them has no identifier. -/
def LacksId (response : Value) : Prop :=
  ∃ successful failed, Lists response successful failed ∧
    (∀ e ∈ successful ++ failed, ∃ fields, e = .record fields) ∧
    ∃ e ∈ successful ++ failed, e.field? "Id" = none

end SqsResponse

/-- The identifiers that a result reports, the successful ones first. -/
def BatchResult.reported (r : BatchResult) : List Value :=
  r.successful ++ r.failed.map EntryFailure.id

/-- The result reports every entry of a request as a response does. -/
structure BatchResult.Accounts (r : BatchResult) (request : SqsRequest) (response : Value) :
    Prop where
  /-- The result is for the queue of the request. -/
  destination : r.destination = request.queueUrl
  /-- Every identifier of the request is reported once. -/
  reported : r.reported.Perm (request.entries.map fun e ↦ .text e.id)
  /-- A failure that carries the result is raised exactly for a refused entry. -/
  raises_iff : r.raiseForFailures = .error (.partialBatch r) ↔ SqsResponse.ReportsFailure response
  /-- Nothing is raised exactly when there is none. -/
  passes_iff : r.raiseForFailures = .ok () ↔ ¬SqsResponse.ReportsFailure response

namespace SqsResponse

/-- A field of an entry is a part of it. -/
theorem part_of_field? {e v : Value} {name : String} (h : e.field? name = some v) :
    e.part name = .ok v := by
  cases e with
  | record fields =>
    rw [Value.part, show fields.lookup name = some v from h]
  | _ => cases h

/-- The result of a response follows from what its two lists give. -/
theorem result_of_lists {response : Value} {successful failed : List Value}
    (h : Lists response successful failed) (destination : String) :
    result destination response = do
      let ids ← successful.mapM fun e ↦ e.part "Id"
      let failures ← failed.mapM failure
      return { destination, successful := ids, failed := failures } := by
  rw [result, entries_of_listed h.successful, entries_of_listed h.failed]
  rfl

/-- The identifier of an entry, absent when there is none. -/
def idOf (entry : Value) : Value := (entry.field? "Id").getD .null

/-- The report of a failed entry that has an identifier. -/
def failureOf (entry : Value) : EntryFailure where
  id := idOf entry
  code := (entry.field? "Code").getD (.text "")
  message := (entry.field? "Message").getD (.text "")
  senderFault := (entry.field? "SenderFault").getD (.bool false)

/-- An entry that has an identifier is reported under it. -/
theorem failure_of_field? {e v : Value} (h : e.field? "Id" = some v) :
    failure e = .ok (failureOf e) := by
  rw [failure, part_of_field? h, failureOf, idOf, h]
  rfl

/-- A response whose entries have identifiers gives a result with these. -/
theorem result_of_named {response : Value} {successful failed : List Value}
    (h : Lists response successful failed)
    (named : ∀ e ∈ successful ++ failed, ∃ id, e.field? "Id" = some id) (destination : String) :
    result destination response =
      .ok { destination, successful := successful.map idOf, failed := failed.map failureOf } := by
  have hs : (successful.mapM fun e ↦ e.part "Id") = .ok (successful.map idOf) := by
    refine mapM_eq_ok fun e he ↦ ?_
    obtain ⟨id, hid⟩ := named e (List.mem_append_left failed he)
    rw [part_of_field? hid, idOf, hid]
    rfl
  have hf : failed.mapM failure = .ok (failed.map failureOf) := by
    refine mapM_eq_ok fun e he ↦ ?_
    obtain ⟨id, hid⟩ := named e (List.mem_append_right successful he)
    exact failure_of_field? hid
  rw [result_of_lists h, hs, hf]
  rfl

/-- Refused entries with texts as identifiers raise a failure that carries the result. -/
theorem raiseForFailures_of_named {r : BatchResult} (h : ∀ f ∈ r.failed, ∃ id, f.id = .text id) :
    r.raiseForFailures = if r.failed = [] then .ok () else .error (.partialBatch r) := by
  have named : ((r.failed.zipIdx).find? fun p ↦ p.1.id.asText?.isNone) = none := by
    refine List.find?_eq_none.mpr fun p hp ↦ ?_
    obtain ⟨id, hid⟩ := h p.1 (List.fst_mem_of_mem_zipIdx hp)
    simp [hid, Value.asText?]
  rw [BatchResult.raiseForFailures, named]
  cases hf : r.failed <;> simp [BatchResult.hasFailures, hf]

/-- A response that accounts for its request gives a result that does. -/
theorem result_of_accounts {request : SqsRequest} {response : Value}
    (h : Accounts request response) :
    ∃ r, result request.queueUrl response = .ok r ∧ r.Accounts request response := by
  obtain ⟨successful, failed, lists, ids⟩ := h
  have named : ∀ e ∈ successful ++ failed, ∃ id, e.field? "Id" = some (.text id) := by
    intro e he
    obtain ⟨entry, -, hid⟩ := List.mem_map.mp (ids.mem_iff.mp (List.mem_map_of_mem he))
    exact ⟨entry.id, hid.symm⟩
  let r : BatchResult :=
    { destination := request.queueUrl
      successful := successful.map idOf, failed := failed.map failureOf }
  have raises : r.raiseForFailures = if failed = [] then .ok () else .error (.partialBatch r) := by
    have texts : ∀ f ∈ r.failed, ∃ id, f.id = .text id := by
      intro f hf
      obtain ⟨e, he, rfl⟩ := List.mem_map.mp hf
      obtain ⟨id, hid⟩ := named e (List.mem_append_right successful he)
      exact ⟨id, by rw [failureOf, idOf, hid]; rfl⟩
    rw [raiseForFailures_of_named texts]
    simp [r]
  have reports : ReportsFailure response ↔ failed ≠ [] := by
    rw [ReportsFailure, lists.failed, List.ne_nil_iff_exists_cons]
    simp
  have given := result_of_named lists (fun e he ↦ (named e he).imp' Value.text fun _ ↦ id)
    request.queueUrl
  refine ⟨r, given, rfl, ?_, ?_, ?_⟩
  · have hp := ids.map fun v ↦ v.getD .null
    rw [List.map_map, List.map_map, List.map_append] at hp
    rw [BatchResult.reported, List.map_map]
    exact hp
  · rw [raises, reports]
    split <;> simp_all
  · rw [raises, reports]
    split <;> simp_all

/-- A record has an identifier, or its absence is reported. -/
theorem part_id_of_record {e : Value} (h : ∃ fields, e = .record fields) :
    e.part "Id" = if e.field? "Id" = none then .error (.missingField "Id") else .ok (idOf e) := by
  obtain ⟨fields, rfl⟩ := h
  rw [Value.part, idOf, Value.field?]
  cases fields.lookup "Id" <;> rfl

/-- A failed record is reported under its identifier, or the absence of one is. -/
theorem failure_of_record {e : Value} (h : ∃ fields, e = .record fields) :
    failure e =
      if e.field? "Id" = none then .error (.missingField "Id") else .ok (failureOf e) := by
  rw [failure, part_id_of_record h]
  split <;> rfl

/-- The absence of an identifier is reported. -/
theorem result_of_lacksId {response : Value} (h : LacksId response) (destination : String) :
    result destination response = .error (.missingField "Id") := by
  obtain ⟨successful, failed, lists, records, lacking⟩ := h
  have part (e) (he : e ∈ successful) := part_id_of_record (records e (List.mem_append_left _ he))
  have failure (e) (he : e ∈ failed) := failure_of_record (records e (List.mem_append_right _ he))
  rw [result_of_lists lists]
  -- The successful entries are read first, so the failed ones matter only when these have all
  -- their identifiers.
  by_cases early : ∃ e ∈ successful, e.field? "Id" = none
  · rw [mapM_eq_error part early]
    rfl
  · have named : (successful.mapM fun e ↦ e.part "Id") = .ok (successful.map idOf) :=
      mapM_eq_ok fun e he ↦ (part e he).trans (if_neg fun none ↦ early ⟨e, he, none⟩)
    have late : ∃ e ∈ failed, e.field? "Id" = none := by
      obtain ⟨e, he, none⟩ := lacking
      rcases List.mem_append.mp he with he | he
      · exact absurd ⟨e, he, none⟩ early
      · exact ⟨e, he, none⟩
    rw [named, mapM_eq_error failure late]
    rfl

end SqsResponse
end QueueAck
