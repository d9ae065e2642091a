import QueueAck.Proofs.Backends
import QueueAck.Proofs.Immediacy

/-!
# Deadlines of messages that are handed back

Pub/Sub sets one deadline for all messages of a request. The messages of a batch are handed back
under one timeout, so that no request is ever refused for asking for several deadlines, and every
request is within the range that Pub/Sub accepts: the lower bound is that of the policy, the upper
one that of the client, which warns when it lowers a timeout. `one_deadline_per_batch` says what a
run sends, call by call, and how often it warns.
-/

namespace QueueAck

/-- The deadline that messages get which are handed back through Pub/Sub. -/
def pubSubDeadline : Option RetryPolicy → Int
  | some ⟨.explicitDelay, delay⟩ => min (max delay 0) 600
  | _ => 0

variable {ε : Type} {policy : Option RetryPolicy} {timeout : Int}

/-- It is the timeout that the policy asks for, as far as Pub/Sub allows. -/
theorem pubSubDeadline_eq (asks : resolveDelay policy = some timeout) :
    pubSubDeadline policy = min timeout maxAckDeadline := by
  rcases policy with _ | ⟨_ | _ | _, delay⟩
  · exact Option.some.inj asks ▸ rfl
  · exact Option.some.inj asks ▸ rfl
  · exact Option.some.inj asks ▸ rfl
  · cases asks

/-- Pub/Sub accepts it. -/
theorem pubSubDeadline_bounds (policy : Option RetryPolicy) :
    0 ≤ pubSubDeadline policy ∧ pubSubDeadline policy ≤ 600 := by
  unfold pubSubDeadline
  split
  · exact ⟨le_min (le_max_right _ 0) (by decide), min_le_right _ 600⟩
  · decide

namespace PubSubBackend

/-- The text of the warning that a timeout is lowered. -/
def loweringText (timeout : Int) : String :=
  "The deadline of " ++ timeout.repr ++ "s is above the Pub/Sub limit, using " ++
    maxAckDeadline.repr ++ "s instead."

/-- True for the records of warnings from the function that changes deadlines. -/
def isLowering (r : Log.Record) : Bool :=
  r.level == Log.warning && r.module.asText? == some (site changeFunction).module &&
    r.function.asText? == some (site changeFunction).function

/-- The number of warnings that a call leaves with a logger: the copies of one, when its timeout is
too long. -/
def lowerings (l : Log.Logger) (timeout : Int) : Nat :=
  if maxAckDeadline < timeout then l.copies Log.warning else 0

/-- So many warnings that the timeout is lowered are logged, and no others of the kind. -/
def Lowers (l l' : Log.State) (timeout : Int) (n : Nat) : Prop :=
  l.Issues isLowering l' (List.replicate n (.ok (loweringText timeout)))

namespace Lowers

variable {l m n : Log.State}

/-- Nothing is logged. -/
theorem refl (l : Log.State) (timeout : Int) : Lowers l l timeout 0 := Log.State.Issues.refl _ l

/-- What is logged in two steps. -/
theorem trans {i j : Nat} (first : Lowers l m timeout i) (later : Lowers m n timeout j) :
    Lowers l n timeout (i + j) := by
  rw [Lowers, List.replicate_add]
  exact Log.State.Issues.trans first later

/-- Another message is logged. -/
theorem other (l : Log.State) {r : Log.Record} (h : isLowering r = false) (timeout : Int) :
    Lowers l (l.report r) timeout 0 := Log.State.Issues.other (fun _ _ ↦ rfl) l h

end Lowers

/-- The longest deadline can be shown. -/
theorem maxAckDeadline_lt_writeLimit : maxAckDeadline < Text.writeLimit := by decide +kernel

/-- The common deadline of entries that share one is this deadline, or the longest one. In the
latter case there is a warning, which shows the deadline. -/
theorem apply_commonDeadline {entries : List BatchEntry} (shared : Shares entries timeout)
    (short : timeout < Text.writeLimit) (v : World ε) :
    ∃ l, (commonDeadline entries).apply v =
        (.ok (min timeout maxAckDeadline), { v with log := l }) ∧
      Lowers v.log l timeout (lowerings v.log.logger timeout) := by
  rw [commonDeadline, lowerings]
  cases entries with
  | nil =>
    obtain rfl := shared.none rfl
    rw [distinctDeadlines_nil]
    exact ⟨v.log, rfl, .refl v.log 0⟩
  | cons e es =>
    rw [shared.distinctDeadlines_eq (List.cons_ne_nil e es)]
    dsimp only
    split
    · next long =>
      have shown : decimalText timeout = .ok timeout.repr :=
        decimalText_of_lt (by rw [maxAckDeadline] at long; omega)
      rw [shown]
      let record := (site changeFunction).record Log.warning (loweringText timeout) none
      have told : isLowering record = true := rfl
      have warned := Log.State.Issues.report (p := isLowering) (fun _ _ ↦ rfl) v.log record
      rw [told, if_pos rfl] at warned
      rw [min_eq_right (Int.le_of_lt long)]
      exact ⟨_, rfl, warned⟩
    · next bounded =>
      rw [min_eq_left (Int.not_lt.mp bounded)]
      exact ⟨v.log, rfl, .refl v.log timeout⟩

/-- The outcome of a call whose request ends with a failure, or with none. -/
def outcome {α : Type} (reply : List PubSubEvent → PubSubEvent → Except Failure Unit)
    (past : List PubSubEvent) (request : PubSubRequest) (result : α) : Except Failure α :=
  match escapes reply past request with
  | none => .ok result
  | some f =>
    .error ((service reply).translate request.operation request.subscription f)

variable (reply : List PubSubEvent → PubSubEvent → Except Failure Unit)
  (calls : PubSubRequest → List CallFrame)

/-- Sending a request makes it, and lowers no timeout. -/
theorem apply_send_answering (function : String) (request : PubSubRequest) (timeout : Int)
    (v : World (List PubSubEvent)) :
    ∃ l, ((answering reply calls).send function request).apply v =
        (outcome reply v.outside request (),
          { v with log := l, outside := advance reply v.outside request }) ∧
      Lowers v.log l timeout 0 := by
  obtain ⟨r, exchanged, escaped⟩ := apply_exchange_answering reply calls request v
  rw [send, Action.apply_bind, exchanged, outcome, escaped]
  cases r with
  | ok _ => exact ⟨v.log, rfl, .refl v.log timeout⟩
  | error t =>
    dsimp only
    cases own : t.failure.isPubSub with
    | false =>
      refine ⟨v.log, ?_, .refl v.log timeout⟩
      simp only [Service.translate, service, own]
      rfl
    | true =>
      let record := (site function).record Log.error
        ("The " ++ request.operation ++ " call failed for " ++ request.subscription) (some t)
      have untold : isLowering record = false := rfl
      refine ⟨v.log.report record, ?_, .other v.log untold timeout⟩
      simp only [Service.translate, service, own]
      rfl

/-- Changing the timeouts of entries to one that they share makes one request. -/
theorem apply_changeVisibility_answering {entries : List BatchEntry}
    (shared : Shares entries timeout) (short : timeout < Text.writeLimit) (destination : String)
    (v : World (List PubSubEvent)) :
    let request := .modifyDeadline destination (entries.map BatchEntry.receiptHandle)
      (min timeout maxAckDeadline)
    ∃ l, ((answering reply calls).client.changeVisibility destination entries).apply v =
        (outcome reply v.outside request (allSuccessful destination entries),
          { v with log := l, outside := advance reply v.outside request }) ∧
      Lowers v.log l timeout (lowerings v.log.logger timeout) := by
  intro request
  obtain ⟨l, lowered, warned⟩ := apply_commonDeadline shared short v
  obtain ⟨l', sent, silent⟩ :=
    apply_send_answering reply calls changeFunction request timeout { v with log := l }
  refine ⟨l', ?_, warned.trans silent⟩
  rw [client]
  dsimp only
  rw [Action.apply_bind, lowered]
  dsimp only
  rw [Action.apply_bind, sent, outcome, outcome]
  cases escapes reply v.outside request <;> rfl

end PubSubBackend

/-- The request for a batch that is handed back. -/
def PubSubRequest.handBack (destination : String) (policy : Option RetryPolicy)
    (batch : List String) : PubSubRequest :=
  .modifyDeadline destination batch (pubSubDeadline policy)

open PubSubBackend

/-- Batches are attempted one after the other. Given are what has happened to the service before,
the first number, the batches, those of them that are attempted, and the failure in the end. -/
inductive Attempts (reply : List PubSubEvent → PubSubEvent → Except Failure Unit)
    (request : List String → PubSubRequest) :
    List PubSubEvent → Int → List (List String) → List (List String) → Option Failure → Prop where
  /-- No batch is left. -/
  | finished {past : List PubSubEvent} {first : Int} : Attempts reply request past first [] [] none
  /-- The request for a batch fails, and no other batch is attempted. -/
  | refused {past : List PubSubEvent} {first : Int} {batch : List String}
    {later : List (List String)} {f : Failure}
    (escapes : escapes reply past (request batch) = some f) :
    Attempts reply request past first (batch :: later) [batch]
      (some ((service reply).translate (request batch).operation (request batch).subscription f))
  /-- A message of a batch cannot be numbered, and the batch is not attempted. -/
  | unnumbered {past : List PubSubEvent} {first : Int} {batch : List String}
    {later : List (List String)} {i : Nat} (inside : i < batch.length)
    (large : Text.writeLimit ≤ (first + i).natAbs) :
    Attempts reply request past first (batch :: later) [] (some .unprintableInteger)
  /-- The request for a batch succeeds, and the later ones are attempted. -/
  | continued {past : List PubSubEvent} {first : Int} {batch : List String}
    {later attempted : List (List String)} {failure : Option Failure}
    (clear : escapes reply past (request batch) = none)
    (others : Attempts reply request (advance reply past (request batch)) (first + batch.length)
      later attempted failure) :
    Attempts reply request past first (batch :: later) (batch :: attempted) failure

/-- A batch is handed back through Pub/Sub by one call on the client, which leads to one request. -/
structure Attempted (reply : List PubSubEvent → PubSubEvent → Except Failure Unit)
    (destination : String) (policy : Option RetryPolicy) (timeout : Int) (g : GeneratorId)
    (v v' : World (List PubSubEvent × List BatchCall)) (batch : List String) : Prop where
  /-- The call is for the messages of the batch, in order, under the timeout. -/
  call : ∃ call, v'.record = v.record ++ [call] ∧ call.HandsBack destination timeout ∧
    call.entries.map BatchEntry.receiptHandle = batch
  /-- The request is made. -/
  made : v'.forget.outside =
    advance reply v.forget.outside (.handBack destination policy batch)
  /-- The numbers of the messages are used up. -/
  counter : v'.counters g = v.counters g + batch.length
  /-- A timeout that is too long is warned of. -/
  warned : Lowers v.log v'.log timeout (lowerings v.log.logger timeout)

/-- Batches are handed back through Pub/Sub, as many as are attempted. -/
structure HandedBack (reply : List PubSubEvent → PubSubEvent → Except Failure Unit)
    (destination : String) (policy : Option RetryPolicy) (timeout : Int) (g : GeneratorId)
    (v v' : World (List PubSubEvent × List BatchCall)) (batches attempted : List (List String))
    (failure : Option Failure) : Prop where
  /-- The batches are attempted until there is a failure. -/
  attempts : Attempts reply (.handBack destination policy) v.forget.outside (v.counters g) batches
    attempted failure
  /-- There is one call on the client for each of them, for its messages in order. -/
  calls : ∃ calls, v'.record = v.record ++ calls ∧
    (∀ call ∈ calls, call.HandsBack destination timeout) ∧
    calls.map (fun call ↦ call.entries.map BatchEntry.receiptHandle) = attempted
  /-- There is one request for each of them. -/
  made : v'.forget.outside =
    (service reply).after v.forget.outside (attempted.map (.handBack destination policy))
  /-- A timeout that is too long is warned of in each call. -/
  warned : Lowers v.log v'.log timeout (attempted.length * lowerings v.log.logger timeout)

section Run

variable {reply : List PubSubEvent → PubSubEvent → Except Failure Unit}
  {calls : PubSubRequest → List CallFrame} {destination : String} {g : GeneratorId}
  {u v w : World (List PubSubEvent × List BatchCall)} {batch : List String}
  {batches attempted : List (List String)} {failure : Option Failure}

/-- A request fails with what the service has replied to one of its events. -/
theorem PubSubBackend.reply_of_escapes {past : List PubSubEvent} {request : PubSubRequest}
    {f : Failure} (h : escapes reply past request = some f) :
    ∃ past event, reply past event = .error f := by
  unfold escapes at h
  cases opened : reply past .opened with
  | error e =>
    rw [opened] at h
    obtain rfl := Option.some.inj h
    exact ⟨past, _, opened⟩
  | ok _ =>
    rw [opened] at h
    dsimp only at h
    rcases Option.or_eq_some_iff.mp h with closed | ⟨-, called⟩
    · exact ⟨_, _, eq_error_of_failure? closed⟩
    · exact ⟨_, _, eq_error_of_failure? called⟩

namespace Attempts

variable {request : List String → PubSubRequest} {past : List PubSubEvent} {first : Int}

/-- The batches that are attempted are the first ones. -/
theorem isPrefix (h : Attempts reply request past first batches attempted failure) :
    attempted <+: batches := by
  induction h with
  | finished => exact List.prefix_rfl
  | refused => exact ⟨_, rfl⟩
  | unnumbered => exact List.nil_prefix
  | continued _ _ ih => exact List.cons_prefix_cons.mpr ⟨rfl, ih⟩

/-- Without a failure all batches are attempted. -/
theorem eq_of_failure_eq_none (h : Attempts reply request past first batches attempted none) :
    attempted = batches := by
  generalize ended : (none : Option Failure) = failure at h
  induction h with
  | finished => rfl
  | refused => cases ended
  | unnumbered => cases ended
  | continued _ _ ih => rw [ih ended]

/-- No call fails for several deadlines, unless the service itself fails for them. -/
theorem failure_ne_severalDeadlines
    (unheard : ∀ past event deadlines, reply past event ≠ .error (.severalDeadlines deadlines))
    (h : Attempts reply request past first batches attempted failure) (deadlines : List Int) :
    failure ≠ some (.severalDeadlines deadlines) := by
  induction h with
  | finished => exact Option.some_ne_none _ |>.symm
  | refused escaped =>
    obtain ⟨past, event, replied⟩ := reply_of_escapes escaped
    intro h
    have translated := Option.some.inj h
    unfold Service.translate at translated
    split at translated
    · cases translated
    · exact unheard _ _ _ (translated ▸ replied)
  | unnumbered => simp
  | continued _ _ ih => exact ih

end Attempts

namespace HandedBack

/-- Nothing is left to hand back. -/
theorem nil : HandedBack reply destination policy timeout g v v [] [] none where
  attempts := .finished
  calls := ⟨[], (List.append_nil _).symm, by simp, rfl⟩
  made := rfl
  warned := by simpa using Lowers.refl v.log timeout

/-- The request for a batch fails. -/
theorem refused (first : Attempted reply destination policy timeout g u v batch) {f : Failure}
    (failed : escapes reply u.forget.outside (.handBack destination policy batch) = some f)
    (later : List (List String)) :
    HandedBack reply destination policy timeout g u v (batch :: later) [batch]
      (some ((service reply).translate "modify_ack_deadline" destination f)) where
  attempts := .refused failed
  calls := by
    obtain ⟨call, record, handsBack, handles⟩ := first.call
    exact ⟨[call], record, by simpa using handsBack, by simpa using handles⟩
  made := first.made
  warned := by simpa using first.warned

/-- A message of a batch cannot be numbered. -/
theorem unnumbered {i : Nat} (inside : i < batch.length)
    (large : Text.writeLimit ≤ (u.counters g + i).natAbs) (record : v.record = u.record)
    (outside : v.forget.outside = u.forget.outside) (warned : Lowers u.log v.log timeout 0)
    (later : List (List String)) :
    HandedBack reply destination policy timeout g u v (batch :: later) []
      (some .unprintableInteger) where
  attempts := .unnumbered inside large
  calls := ⟨[], by rw [record, List.append_nil], by simp, rfl⟩
  made := outside
  warned := by simpa using warned

/-- The request for a batch succeeds, and others are handed back. -/
theorem cons (first : Attempted reply destination policy timeout g u v batch)
    (clear : escapes reply u.forget.outside (.handBack destination policy batch) = none)
    (others : HandedBack reply destination policy timeout g v w batches attempted failure) :
    HandedBack reply destination policy timeout g u w (batch :: batches) (batch :: attempted)
      failure where
  attempts := by
    refine .continued clear ?_
    rw [← first.made, ← first.counter]
    exact others.attempts
  calls := by
    obtain ⟨call, record, handsBack, handles⟩ := first.call
    obtain ⟨calls, records, handBack, handled⟩ := others.calls
    refine ⟨call :: calls, ?_, List.forall_mem_cons.mpr ⟨handsBack, handBack⟩, ?_⟩
    · rw [records, record, List.append_assoc, List.singleton_append]
    · rw [List.map_cons, handles, handled]
  made := by
    rw [others.made, first.made]
    rfl
  warned := by
    have later := others.warned
    rw [first.warned.logger] at later
    have all := first.warned.trans later
    rwa [Nat.add_comm, ← Nat.succ_mul] at all

/-- The context does not matter. -/
theorem setContext {c : Context}
    (h : HandedBack reply destination policy timeout g (u.setContext c) v batches attempted failure)
    (c' : Context) :
    HandedBack reply destination policy timeout g u (v.setContext c') batches attempted failure :=
  ⟨h.attempts, h.calls, h.made, ⟨h.warned.logger, h.warned.records⟩⟩

end HandedBack

/-- Changing deadlines leaves queues alone. -/
theorem PubSubBackend.client_sameQueue
    (reply : List PubSubEvent → PubSubEvent → Except Failure Unit)
    (calls : PubSubRequest → List CallFrame) (q : QueueId) :
    ((answering reply calls).client).Guarantees (SameQueue q) := by
  have h : Steady (SameQueue (ε := List PubSubEvent) q) := steady_sameQueue q
  have sent (function : String) (request : PubSubRequest) :
      ((answering reply calls).send function request).Guarantees (SameQueue q) := by
    intro w
    obtain ⟨l, sent, -⟩ := apply_send_answering reply calls function request 0 w
    rw [sent]
    rfl
  constructor
  · intro destination entries
    exact h.bind (h.tolerant.commonDeadline (fun _ ↦ h.report) entries) fun seconds ↦
      h.bind (sent _ _) fun _ ↦ h.pure _
  · exact fun destination entries ↦ h.bind (sent _ _) fun _ ↦ h.pure _

/-- Logging the policy lowers no timeout. -/
theorem NegativeAcknowledger.reportPolicy_lowers {n : NegativeAcknowledger ε}
    (written : ∀ p, n.policy = some p → p.delay.natAbs < Text.writeLimit) (destination : String)
    (timeout : Int) (v : World ε) :
    ∃ l, (n.reportPolicy destination).apply v = (.ok (), { v with log := l }) ∧
      Lowers v.log l timeout 0 := by
  rw [reportPolicy]
  cases hp : n.policy with
  | none => exact ⟨_, rfl, .other v.log rfl timeout⟩
  | some p =>
    dsimp only
    rw [decimalText_of_lt (written p hp)]
    exact ⟨_, rfl, .other v.log rfl timeout⟩

/-- An acknowledger that hands messages back through Pub/Sub. -/
def NegativeAcknowledger.throughPubSub
    (reply : List PubSubEvent → PubSubEvent → Except Failure Unit)
    (calls : PubSubRequest → List CallFrame) (policy : Option RetryPolicy) (g : GeneratorId) :
    NegativeAcknowledger (List PubSubEvent) :=
  ⟨(answering reply calls).client, policy, g⟩

variable (reply calls destination) (asks : resolveDelay policy = some timeout)
  (written : ∀ p, policy = some p → p.delay.natAbs < Text.writeLimit)

include asks written in
/-- The timeout of a policy whose delay can be written can be shown. -/
theorem timeout_lt_writeLimit : timeout < Text.writeLimit := by
  have positive : (0 : Int) < Text.writeLimit :=
    Int.lt_trans (by decide) maxAckDeadline_lt_writeLimit
  rcases policy with _ | ⟨_ | _ | _, delay⟩
  · exact Option.some.inj asks ▸ positive
  · exact Option.some.inj asks ▸ positive
  · have short : delay.natAbs < Text.writeLimit := written _ rfl
    obtain rfl := Option.some.inj asks
    dsimp only
    omega
  · cases asks

include asks written in
/-- A recorded call for a batch of numbered entries. -/
theorem apply_recorded_call (some_handle : batch ≠ []) (n : Int)
    (v : World (List PubSubEvent × List BatchCall)) :
    let entries := entriesFrom n (some timeout) batch
    ∃ l, ((answering reply calls).client.recorded.changeVisibility destination entries).apply v =
        (outcome reply v.forget.outside (.handBack destination policy batch)
          (allSuccessful destination entries),
          World.remember { v.forget with
            log := l
            outside := advance reply v.forget.outside (.handBack destination policy batch) }
            (v.record ++ [.changeVisibility destination entries])) ∧
      Lowers v.log l timeout (lowerings v.log.logger timeout) := by
  intro entries
  have some_entry : entries ≠ [] := by
    refine List.ne_nil_of_length_pos ?_
    rw [length_entriesFrom]
    exact List.length_pos_iff.mpr some_handle
  have shared : Shares entries timeout :=
    .of_forall some_entry fun e ↦ visibilityTimeout_of_mem_entriesFrom
  obtain ⟨l, called, warned⟩ :=
    apply_changeVisibility_answering reply calls shared (timeout_lt_writeLimit asks written)
      destination v.forget
  rw [map_receiptHandle_entriesFrom, ← pubSubDeadline_eq asks] at called
  refine ⟨l, ?_, warned⟩
  let r := ((answering reply calls).client.changeVisibility destination entries).apply v.forget
  change (r.1, r.2.remember (v.record ++ [.changeVisibility destination entries])) = _
  rw [show r = _ from called]
  rfl

include asks written in
/-- Handing over a batch attempts it, unless one of its messages cannot be numbered. -/
theorem flush_handBack (some_handle : batch ≠ [])
    (v : World (List PubSubEvent × List BatchCall)) :
    let n := NegativeAcknowledger.throughPubSub reply calls policy g
    let r := (n.recorded.dispatcher.flush destination batch).apply v
    (∃ answer, r.1 = outcome reply v.forget.outside (.handBack destination policy batch) answer ∧
      Attempted reply destination policy timeout g v r.2 batch) ∨
    (∃ i < batch.length, Text.writeLimit ≤ (v.counters g + i).natAbs ∧
      r.1 = .error .unprintableInteger ∧ r.2.record = v.record ∧
      r.2.forget.outside = v.forget.outside ∧ Lowers v.log r.2.log timeout 0) := by
  intro n r
  let m := n.recorded
  let record := Dispatcher.site.record Log.debug
    ("Dispatching a batch of " ++ batch.length.repr ++ " receipt handles.") none
  let u : World (List PubSubEvent × List BatchCall) := { v with log := v.log.report record }
  have announced : Lowers v.log u.log timeout 0 := .other v.log rfl timeout
  obtain ⟨l, logged, silent⟩ := m.reportPolicy_lowers written destination timeout u
  have before : Lowers v.log l timeout 0 := announced.trans silent
  have handed : r = (numberEntries (Action.nextId g) (some timeout) batch >>= fun entries ↦
      m.client.changeVisibility destination entries >>= fun result ↦
        reportFailures NegativeAcknowledger.site "Could not change the visibility of entry"
          result.failed >>= fun _ ↦ pure (some result)).apply { u with log := l } := by
    change (m.action destination batch).apply u = _
    rw [m.action_eq_submit asks, Submission.submit, if_neg (by simpa using some_handle),
      Action.apply_bind]
    have announce : (m.submission destination timeout).announce.apply u = _ := logged
    rw [announce]
    rfl
  rcases numberEntries_cases g (some timeout) batch { u with log := l } with
    ⟨-, numbered⟩ | ⟨i, inside, large, numbered⟩
  · let z : World (List PubSubEvent × List BatchCall) :=
      World.setCounter { u with log := l } g (u.counters g + batch.length)
    obtain ⟨l', called, warned⟩ :=
      apply_recorded_call reply calls destination asks written some_handle (u.counters g) z
    let entries := entriesFrom (v.counters g) (some timeout) batch
    let after : World (List PubSubEvent × List BatchCall) :=
      World.remember { z.forget with
        log := l'
        outside := advance reply v.forget.outside (.handBack destination policy batch) }
        (v.record ++ [.changeVisibility destination entries])
    have attempted : Attempted reply destination policy timeout g v after batch := by
      refine ⟨⟨_, rfl, ⟨entries, rfl, ?_⟩, ?_⟩, rfl, World.counters_setCounter_self u g _, ?_⟩
      · exact fun e ↦ visibilityTimeout_of_mem_entriesFrom
      · exact map_receiptHandle_entriesFrom _ _ batch
      · rw [show z.log.logger = v.log.logger from before.logger] at warned
        have both := before.trans warned
        rwa [Nat.zero_add] at both
    have called : (m.client.changeVisibility destination entries).apply z =
        (outcome reply v.forget.outside (.handBack destination policy batch)
          (allSuccessful destination entries), after) := called
    have reached : r = (m.client.changeVisibility destination entries >>= fun result ↦
        reportFailures NegativeAcknowledger.site "Could not change the visibility of entry"
          result.failed >>= fun _ ↦ pure (some result)).apply z := by
      rw [handed, Action.apply_bind, numbered]
    refine .inl ⟨some (allSuccessful destination entries), ?_⟩
    rw [reached, Action.apply_bind, called, outcome, outcome]
    cases escapes reply v.forget.outside (.handBack destination policy batch) with
    | none => exact ⟨rfl, attempted⟩
    | some f => exact ⟨rfl, attempted⟩
  · refine .inr ⟨i, inside, large, ?_⟩
    rw [handed, Action.apply_bind, numbered]
    exact ⟨rfl, rfl, rfl, before⟩

include asks written in
/-- Serving batches hands them back. -/
theorem serve_handBack {q : QueueId} {batches : List (List PendingItem)}
    (filled : ∀ batch ∈ batches, batch ≠ []) (v : World (List PubSubEvent × List BatchCall)) :
    let d := (NegativeAcknowledger.throughPubSub reply calls policy g).recorded.dispatcher
    let r := d.serve q destination batches v
    ∃ attempted, HandedBack reply destination policy timeout g v r.world
      (batches.map receiptHandles) attempted r.failure := by
  dsimp only
  induction batches generalizing v with
  | nil => exact ⟨[], .nil⟩
  | cons batch later ih =>
    obtain ⟨some_item, filled⟩ := List.forall_mem_cons.mp filled
    have some_handle : receiptHandles batch ≠ [] := mt List.map_eq_nil_iff.mp some_item
    have flushed := flush_handBack reply calls destination (g := g) asks written some_handle
      (v.setQueue q later.flatten)
    rw [Dispatcher.serve]
    dsimp only at flushed
    generalize Action.apply _ (v.setQueue q later.flatten) = flush at flushed ⊢
    obtain ⟨outcome, u⟩ := flush
    rcases flushed with ⟨answer, ended, done⟩ | ⟨i, inside, large, ended, record, outside, log⟩
    · have first : Attempted reply destination policy timeout g v u (receiptHandles batch) :=
        ⟨done.call, done.made, done.counter, done.warned⟩
      have ended : outcome = PubSubBackend.outcome reply v.forget.outside
        (.handBack destination policy (receiptHandles batch)) answer := ended
      rw [ended, PubSubBackend.outcome]
      cases escaped : escapes reply v.forget.outside
          (.handBack destination policy (receiptHandles batch)) with
      | none =>
        obtain ⟨attempted, others⟩ := ih filled u
        exact ⟨_, .cons first escaped others⟩
      | some f => exact ⟨_, .refused first escaped _⟩
    · rw [show outcome = .error .unprintableInteger from ended]
      exact ⟨[], HandedBack.unnumbered (u := v) (v := u) inside large record outside log _⟩

end Run

/-- Messages of a destination are handed back through Pub/Sub under a policy that asks for a timeout
and whose delay can be written. Batch by batch, as long as no request fails and the messages can be
numbered, there is one call on the client, under the timeout of the policy, and it leads to one
request, with the handles of the batch in order and the deadline of the policy: the explicit delay,
raised to zero and lowered to 600 seconds, or zero. No call fails for several deadlines. Each call
warns once when the timeout is longer than 600 seconds, and never otherwise. -/
theorem one_deadline_per_batch (reply : List PubSubEvent → PubSubEvent → Except Failure Unit)
    (calls : PubSubRequest → List CallFrame) {policy : Option RetryPolicy} {timeout : Int}
    (asks : resolveDelay policy = some timeout)
    (written : ∀ p, policy = some p → p.delay.natAbs < Text.writeLimit) (g : GeneratorId)
    {q : QueueId} {destination : String} {w : World (List PubSubEvent)}
    (same : ∀ item ∈ w.queues q, item.destination = destination) :
    let n := NegativeAcknowledger.throughPubSub reply calls policy g
    let r := (n.recorded.bulk q destination).apply (w.remember [])
    let batches := (({} : BatchSize).cut (w.queues q)).map receiptHandles
    (n.bulk q destination).apply w = (r.1, r.2.forget) ∧
    (0 ≤ pubSubDeadline policy ∧ pubSubDeadline policy ≤ 600) ∧
    ((∀ past event deadlines, reply past event ≠ .error (.severalDeadlines deadlines)) →
      ∀ deadlines, r.1 ≠ .error (.severalDeadlines deadlines)) ∧
    ∃ attempted, attempted <+: batches ∧ (failure? r.1 = none → attempted = batches) ∧
      HandedBack reply destination policy timeout g (w.remember []) r.2 batches attempted
        (failure? r.1) := by
  intro n r batches
  let c : Connection (QueueClient (List PubSubEvent × List BatchCall)) :=
    ⟨n.client.recorded, policy, 1, g⟩
  let label := w.log.context.overlay (operationContext destination "nack")
  have quiet : (c.dispatcher .nack).action.LeavesQueue q := Connection.leavesQueue_dispatcher
    (QueueClient.recorded_sameQueue (client_sameQueue reply calls q)) .nack
  let run := n.recorded.dispatcher.serve q destination (({} : BatchSize).cut (w.queues q))
    ((w.remember []).setContext label)
  have served : r = (run.outcome, run.world.setContext w.log.context) :=
    Connection.settle_eq_serve (c := c) (k := .nack) quiet (w := w.remember []) same
  have filled : ∀ batch ∈ ({} : BatchSize).cut (w.queues q), batch ≠ [] := fun batch hb ↦
    List.ne_nil_of_length_pos ((({} : BatchSize).batches_cut (w.queues q)).pos batch hb)
  obtain ⟨attempted, handed⟩ := serve_handBack reply calls destination (g := g) (q := q) asks
    written filled ((w.remember []).setContext label)
  have handed : HandedBack reply destination policy timeout g (w.remember []) r.2 batches attempted
      (failure? r.1) := by
    rw [served, BatchRun.failure?_outcome]
    exact handed.setContext w.log.context
  refine ⟨?_, pubSubDeadline_bounds policy, fun unheard deadlines failed ↦ ?_, attempted,
    handed.attempts.isPrefix, fun ended ↦ ?_, handed⟩
  · exact (n.client.recorded_shadows.handBackAll policy g q destination (w.remember [])).symm
  · refine handed.attempts.failure_ne_severalDeadlines unheard deadlines ?_
    rw [failed]
    rfl
  · have attempts := handed.attempts
    rw [ended] at attempts
    exact attempts.eq_of_failure_eq_none

/-- Items for two batches wait, with a logger that is set up. -/
private def twoBatches : World (List PubSubEvent) where
  queues _ := List.replicate 11 ⟨"a", "orders", ""⟩
  log.logger :=
    { threshold := Log.info, propagate := false
      handlers := [{ formatter := .text Log.standardFormat none, filters := [.context] }] }
  outside := []

/-- A service whose second subscriber cannot be closed. -/
private def unclosing (past : List PubSubEvent) : PubSubEvent → Except Failure Unit
  | .closed _ =>
    if past.length = 5 then .error (.outside (.pubSub (.other "still in use"))) else .ok ()
  | _ => .ok ()

/-- A policy that asks for an hour. -/
private def hourly : RetryPolicy := ⟨.explicitDelay, 3600⟩

/-- Both batches are attempted, with a deadline of ten minutes in place of the hour, and each of
them with a warning. The second call fails, when its request has been made. -/
theorem one_deadline_per_batch_hourly :
    let n := NegativeAcknowledger.throughPubSub unclosing (fun _ ↦ []) (some hourly) .shared
    let r := (n.recorded.bulk 0 "orders").apply (twoBatches.remember [])
    r.2.forget.outside =
      [.opened, .called (.modifyDeadline "orders" (List.replicate 10 "a") 600), .closed none,
        .opened, .called (.modifyDeadline "orders" ["a"] 600), .closed none] ∧
    (r.2.log.records.filter isLowering).map Log.Record.text =
      List.replicate 2
        (.ok "The deadline of 3600s is above the Pub/Sub limit, using 600s instead.") ∧
    r.1 = .error (.backendCall "modify_ack_deadline" "orders"
      (.outside (.pubSub (.other "still in use")))) := by
  intro n r
  have asks : resolveDelay (some hourly) = some 3600 := by decide
  have written : ∀ p, some hourly = some p → p.delay.natAbs < Text.writeLimit := by
    intro p hp
    obtain rfl := Option.some.inj hp
    decide +kernel
  have same : ∀ item ∈ twoBatches.queues 0, item.destination = "orders" := by decide +kernel
  obtain ⟨-, -, -, attempted, -, -, handed⟩ :=
    one_deadline_per_batch unclosing (fun _ ↦ []) asks written .shared same
  have cut : (({} : BatchSize).cut (twoBatches.queues 0)).map receiptHandles =
      [List.replicate 10 "a", ["a"]] := by decide +kernel
  have attempts := handed.attempts
  rw [cut] at attempts
  have small : 10 < Text.writeLimit := by decide +kernel
  let f := Failure.backendCall "modify_ack_deadline" "orders"
    (.outside (.pubSub (.other "still in use")))
  -- The first request succeeds and the second one fails, and no number is too large.
  obtain ⟨rfl, failed⟩ : attempted = [List.replicate 10 "a", ["a"]] ∧ failure? r.1 = some f := by
    generalize failure? _ = failure at attempts ⊢
    rcases attempts with _ | escaped | ⟨inside, large⟩ | ⟨-, others⟩
    · cases (show none = some _ from escaped)
    · change _ ≤ (0 + _ : Int).natAbs at large
      change _ < 10 at inside
      omega
    · rcases others with _ | escaped | ⟨inside, large⟩ | ⟨clear, -⟩
      · obtain rfl := Option.some.inj escaped
        exact ⟨rfl, rfl⟩
      · change _ ≤ (0 + 10 + _ : Int).natAbs at large
        change _ < 1 at inside
        omega
      · cases (show some _ = none from clear)
  obtain ⟨logged, records, texts⟩ := handed.warned.records
  have all : r.2.log.records = logged := records
  refine ⟨handed.made, ?_, eq_error_of_failure? failed⟩
  rw [all]
  exact texts

end QueueAck
