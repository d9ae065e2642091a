import QueueAck.Proofs.Isolation

/-!
# Policies for an immediate retry

A missing policy, the default delay and an explicit delay that is not positive all ask for a timeout
of zero (`Immediate`). They differ in what is logged before a batch is handed back, and in nothing
else: on a service that ignores the log, two runs under such policies make the same calls, have the
same outcome and leave the same state but for the log (`immediate_policies_alike`).
-/

namespace QueueAck

variable {ε σ : Type}

/-- The policies under which messages are handed back to be delivered again at once. A delay, which
is logged, has to be one that can be written. -/
inductive Immediate : Option RetryPolicy → Prop where
  /-- There is no policy. -/
  | missing : Immediate none
  /-- The default delay. -/
  | byDefault {delay : Int} (written : delay.natAbs < Text.writeLimit) :
    Immediate (some ⟨.defaultDelay, delay⟩)
  /-- An explicit delay that is not positive. -/
  | explicit {delay : Int} (written : delay.natAbs < Text.writeLimit) (nonpos : delay ≤ 0) :
    Immediate (some ⟨.explicitDelay, delay⟩)

namespace Immediate

variable {policy : Option RetryPolicy}

/-- A timeout of zero is asked for. -/
theorem resolveDelay_eq (h : Immediate policy) : resolveDelay policy = some 0 := by
  cases h with
  | missing => rfl
  | byDefault written => rfl
  | explicit written nonpos => exact congrArg some (max_eq_right nonpos)

/-- The delay can be written. -/
theorem written (h : Immediate policy) (p : RetryPolicy) (hp : policy = some p) :
    p.delay.natAbs < Text.writeLimit := by
  cases h with
  | missing => cases hp
  | byDefault written => exact Option.some.inj hp ▸ written
  | explicit written nonpos => exact Option.some.inj hp ▸ written

end Immediate

/-- Two actions that log different things agree on all but the log, beside one record. -/
theorem Action.OnlyLogs.agrees {a b : Action (ε × σ) Unit} (ha : a.OnlyLogs) (hb : b.OnlyLogs) :
    a.Agrees (Noted (UpToLog fun _ _ ↦ True)) b := by
  rintro w v ⟨⟨-, same⟩, record⟩
  obtain ⟨l, logged⟩ := ha w
  obtain ⟨m, logged'⟩ := hb v
  rw [logged, logged']
  exact ⟨rfl, ⟨trivial, congrArg (fun s : World ε ↦ { s with log := m }) same⟩, record⟩

/-- The call hands messages of a destination back, all of them under one timeout. -/
def BatchCall.HandsBack (destination : String) (timeout : Int) (call : BatchCall) : Prop :=
  ∃ entries, call = .changeVisibility destination entries ∧
    ∀ e ∈ entries, e.visibilityTimeout = some timeout

/-- The relation between states in which the later one has further calls of a kind. -/
def Makes (P : BatchCall → Prop) (w w' : World (ε × List BatchCall)) : Prop :=
  ∃ calls, w'.record = w.record ++ calls ∧ ∀ call ∈ calls, P call

/-- Filling queues and logging makes no call. -/
theorem indifferent_makes (P : BatchCall → Prop) (q : QueueId) :
    Indifferent (Makes (ε := ε) P) q where
  refl _ := ⟨[], (List.append_nil _).symm, List.forall_mem_nil _⟩
  trans := by
    rintro u v w ⟨xs, hr, hx⟩ ⟨ys, hr', hy⟩
    exact ⟨xs ++ ys, by rw [hr', hr, List.append_assoc], List.forall_mem_append.mpr ⟨hx, hy⟩⟩
  log _ _ := ⟨[], (List.append_nil _).symm, List.forall_mem_nil _⟩
  queue _ _ := ⟨[], (List.append_nil _).symm, List.forall_mem_nil _⟩

namespace NegativeAcknowledger

/-- The acknowledger with every call on its client written down. -/
def recorded (n : NegativeAcknowledger ε) : NegativeAcknowledger (ε × List BatchCall) :=
  { client := n.client.recorded, policy := n.policy, generator := n.generator }

/-- A run calls for nothing but the timeout of its policy, at its destination. -/
theorem makes_bulk (n : NegativeAcknowledger ε) {timeout : Int}
    (asks : resolveDelay n.policy = some timeout) (q : QueueId) (destination : String) :
    (n.recorded.bulk q destination).Guarantees
      (Makes (BatchCall.HandsBack destination timeout)) := by
  have indifferent := indifferent_makes (ε := ε) (BatchCall.HandsBack destination timeout) q
  refine indifferent.within _ (indifferent.dispatch fun handles ↦ ?_)
  refine indifferent.handBack_of fun timeout' asks' k hk ↦ ?_
  obtain rfl : timeout = timeout' := Option.some.inj (asks.symm.trans asks')
  have draw : (Action.nextId n.generator).Guarantees (Makes _) := fun w ↦ indifferent.refl w
  refine indifferent.bind_of (indifferent.numberEntries draw _ _) fun w entries w' numbered ↦ ?_
  refine indifferent.bind (fun v ↦ ⟨[_], rfl, ?_⟩) hk w'
  rintro call hc
  obtain rfl := List.mem_singleton.mp hc
  refine ⟨entries, rfl, fun e he ↦ ?_⟩
  rw [eq_entriesFrom_of_ok numbered] at he
  exact visibilityTimeout_of_mem_entriesFrom he

/-- Runs under two policies for an immediate retry agree on all but the log, call by call. -/
theorem bulk_agrees {client : QueueClient ε} (apart : client.Over Action.IgnoresLog)
    {policy policy' : Option RetryPolicy} (h : Immediate policy) (h' : Immediate policy')
    (g : GeneratorId) (q : QueueId) (destination : String) :
    (bulk (recorded ⟨client, policy, g⟩) q destination).Agrees
      (Noted (UpToLog fun _ _ ↦ True)) (bulk (recorded ⟨client, policy', g⟩) q destination) := by
  have coupled := UpToLog.coupledOn (ε := ε) Log.coupled_any q
  have announced := (reportPolicy_onlyLogs (n := recorded ⟨client, policy, g⟩) h.written
    destination).agrees (reportPolicy_onlyLogs (n := recorded ⟨client, policy', g⟩) h'.written
    destination)
  refine coupled.noted.within _ (coupled.noted.dispatch rfl fun handles _ ↦ ?_)
  refine (coupled.noted.numbersAlike g).handBack_of
    (h'.resolveDelay_eq.trans h.resolveDelay_eq.symm) announced ?_
  intro timeout _ w entries w' _
  exact QueueClient.recorded_agrees (apart.agrees coupled.toCoupled UpToLog.ignoresLog)
    (.changeVisibility destination entries)

end NegativeAcknowledger

/-- Under all policies for an immediate retry, and on a service that ignores the log, handing a
queue back has one outcome, makes the same calls, all of them for a timeout of zero, and leaves one
state but for the log. Leaving the record aside, the recorded runs are the runs themselves. -/
theorem immediate_policies_alike {client : QueueClient ε} (apart : client.Over Action.IgnoresLog)
    {policy policy' : Option RetryPolicy} (h : Immediate policy) (h' : Immediate policy')
    (g : GeneratorId) (q : QueueId) (destination : String) (w : World ε) :
    let n : NegativeAcknowledger ε := ⟨client, policy, g⟩
    let n' : NegativeAcknowledger ε := ⟨client, policy', g⟩
    let r := (n.bulk q destination).apply w
    let r' := (n'.bulk q destination).apply w
    let s := (n.recorded.bulk q destination).apply (w.remember [])
    let s' := (n'.recorded.bulk q destination).apply (w.remember [])
    r'.1 = r.1 ∧ r'.2 = { r.2 with log := r'.2.log } ∧
    (s.1, s.2.forget) = r ∧ (s'.1, s'.2.forget) = r' ∧ s'.2.record = s.2.record ∧
    ∀ call ∈ s.2.record, call.HandsBack destination 0 := by
  intro n n' r r' s s'
  have shadow : (s.1, s.2.forget) = r :=
    client.recorded_shadows.handBackAll policy g q destination (w.remember [])
  have shadow' : (s'.1, s'.2.forget) = r' :=
    client.recorded_shadows.handBackAll policy' g q destination (w.remember [])
  obtain ⟨outcome, ⟨-, same⟩, record⟩ :=
    NegativeAcknowledger.bulk_agrees apart h h' g q destination (w.remember []) (w.remember [])
      ⟨⟨trivial, rfl⟩, rfl⟩
  obtain ⟨calls, made, all⟩ := n.makes_bulk h.resolveDelay_eq q destination (w.remember [])
  refine ⟨?_, ?_, shadow, shadow', record.symm, ?_⟩
  · calc r'.1
      _ = s'.1 := (congrArg Prod.fst shadow').symm
      _ = s.1 := outcome.symm
      _ = r.1 := congrArg Prod.fst shadow
  · rw [← shadow, ← shadow']
    exact same
  · rw [show s.2.record = calls from made]
    exact all

/-- A service that answers its first request and fails its second one. -/
private def halting : SqsBackend Nat where
  call _ := Action.ofBackend fun n ↦
    (if n = 0 then .ok (.record []) else .error (.outside (.sqs .unspecified)), n + 1)

/-- A state in which twenty-one items wait. -/
private def threeBatches : World Nat where
  queues _ := List.replicate 21 ⟨"a", "orders", ""⟩
  outside := 0

/-- The second of three batches fails without a policy, and just so under a negative delay: one item
is left, and twenty numbers are used up. -/
theorem immediate_policies_alike_halting :
    let n : NegativeAcknowledger Nat := ⟨halting.client, none, .shared⟩
    let n' : NegativeAcknowledger Nat := ⟨halting.client, some ⟨.explicitDelay, -5⟩, .shared⟩
    let r := (n.bulk 0 "orders").apply threeBatches
    let r' := (n'.bulk 0 "orders").apply threeBatches
    (failure? r.1).map Failure.kind = some "BackendCallError" ∧ r'.1 = r.1 ∧
    (r'.2.queues 0).length = 1 ∧ r'.2.counters .shared = 20 ∧ r'.2.outside = 2 := by
  intro n n' r r'
  have apart : halting.client.Over Action.IgnoresLog := .sqs halting fun _ _ _ ↦ rfl
  have negative : Immediate (some ⟨.explicitDelay, -5⟩) := .explicit (by decide +kernel) (by decide)
  obtain ⟨outcome, same, -⟩ :=
    immediate_policies_alike apart .missing negative .shared 0 "orders" threeBatches
  have left := congrArg (fun v : World Nat ↦ (v.queues 0).length) same
  have counted := congrArg (fun v : World Nat ↦ v.counters .shared) same
  have sent := congrArg World.outside same
  exact ⟨by decide +kernel, outcome, left.trans (by decide +kernel),
    counted.trans (by decide +kernel), sent.trans (by decide +kernel)⟩

end QueueAck
