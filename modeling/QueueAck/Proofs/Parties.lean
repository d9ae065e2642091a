import Mathlib
import QueueAck.Proofs.Isolation

/-!
# Parties with clients of their own

Any number of connections and of acknowledgers that stand alone, in one process, each with a client
of its own. A client of one of many backends sees no other one (`QueueClient.focused`), and what it
is asked and answers is written down with the name of the party (`QueueClient.overheard`). The
parties are made one after the other (`Party.assemble`), which gives every connection a new source
of identifiers and leaves those that there are alone (`Assembled`). Then they carry out bulk actions
in any order (`Agent.run`).
-/

namespace QueueAck

variable {ε η ι α : Type}

/-! ### One of many backends -/

section Focus

variable {σ : ι → Type}

/-- The state with other backends. -/
def World.withOutside (w : World ε) (o : η) : World η :=
  { queues := w.queues, counters := w.counters, generators := w.generators, patience := w.patience
    log := w.log, outside := o }

/-- The state with one of its backends only. -/
def World.focus (w : World (∀ i, σ i)) (i : ι) : World (σ i) := w.withOutside (w.outside i)

variable [DecidableEq ι]

/-- An action of one of many backends. -/
def Action.focused (i : ι) (a : Action (σ i) α) : Action (∀ i, σ i) α :=
  Action.ofFunction fun w ↦
    let r := a.apply (w.focus i)
    (r.1, r.2.withOutside (Function.update w.outside i r.2.outside))

/-- A queue client on one of many backends. -/
def QueueClient.focused (i : ι) (c : QueueClient (σ i)) : QueueClient (∀ i, σ i) where
  changeVisibility destination entries := (c.changeVisibility destination entries).focused i
  delete destination entries := (c.delete destination entries).focused i

/-- The client answers as it does on its backend, and leaves the others alone. -/
theorem QueueClient.Answers.focused {i : ι} {c : QueueClient (σ i)}
    {f : BatchCall → σ i → Except Failure BatchResult × σ i} (h : c.Answers f) :
    (c.focused i).Answers fun call o ↦
      ((f call (o i)).1, Function.update o i (f call (o i)).2) := by
  intro call w
  obtain ⟨l, hl⟩ := h call (w.focus i)
  have focused : ((c.focused i).perform call).apply w =
      (((c.perform call).apply (w.focus i)).1, ((c.perform call).apply (w.focus i)).2.withOutside
        (Function.update w.outside i ((c.perform call).apply (w.focus i)).2.outside)) := by
    cases call <;> rfl
  rw [focused, hl]
  exact ⟨l, rfl⟩

end Focus

/-- A call on the client of a party, with the answer. -/
structure Exchange (ι : Type) where
  /-- The party. -/
  party : ι
  /-- The call. -/
  call : BatchCall
  /-- The result, or the failure. -/
  answer : Except Failure BatchResult

/-- Carries a call of a party out and adds it to the record with its answer. -/
def Action.overheard (i : ι) (call : BatchCall) (a : Action ε BatchResult) :
    Action (ε × List (Exchange ι)) BatchResult :=
  Action.ofFunction fun w ↦
    let r := a.apply w.forget
    (r.1, r.2.remember (w.record ++ [⟨i, call, r.1⟩]))

/-- The queue client of a party with every call on it written down. -/
def QueueClient.overheard (i : ι) (c : QueueClient ε) : QueueClient (ε × List (Exchange ι)) where
  changeVisibility destination entries :=
    (c.changeVisibility destination entries).overheard i (.changeVisibility destination entries)
  delete destination entries :=
    (c.delete destination entries).overheard i (.delete destination entries)

namespace QueueClient

variable {i : ι} {c : QueueClient ε}

/-- A call that is overheard is carried out and written down. -/
theorem perform_overheard (i : ι) (c : QueueClient ε) (call : BatchCall) :
    (c.overheard i).perform call = (c.perform call).overheard i call := by
  cases call <;> rfl

/-- A client that is overheard answers as it does otherwise. -/
theorem Answers.overheard {f : BatchCall → ε → Except Failure BatchResult × ε} (h : c.Answers f) :
    (c.overheard i).Answers fun call o ↦
      ((f call o.1).1, (f call o.1).2, o.2 ++ [⟨i, call, (f call o.1).1⟩]) := by
  intro call w
  obtain ⟨l, hl⟩ := h call w.forget
  rw [perform_overheard]
  refine ⟨l, ?_⟩
  simp only [Action.overheard, Action.apply_ofFunction, hl]
  rfl

/-- A call that is overheard shadows the call. -/
theorem perform_overheard_shadows (i : ι) (c : QueueClient ε) (call : BatchCall) :
    ((c.overheard i).perform call).Shadows (c.perform call) := by
  rw [perform_overheard]
  exact fun _ ↦ rfl

end QueueClient

/-! ### Parties and what they are made into -/

/-- Somebody who is to settle items with a client. -/
inductive Party where
  /-- A connection. -/
  | connection (policy : Option RetryPolicy) (prefetchSize : Int)
  /-- An acknowledger that is given no source of identifiers. -/
  | acknowledger
  /-- A negative acknowledger that is given no source of identifiers. -/
  | negativeAcknowledger (policy : Option RetryPolicy)
deriving DecidableEq, Repr

/-- A party with its client and its source of identifiers. -/
inductive Agent (ε : Type) where
  /-- A connection. -/
  | connection (c : Connection (QueueClient ε))
  /-- An acknowledger. -/
  | acknowledger (a : Acknowledger ε)
  /-- A negative acknowledger. -/
  | negativeAcknowledger (n : NegativeAcknowledger ε)

namespace Party

/-- The party is no connection. -/
def standsAlone : Party → Bool
  | .connection .. => false
  | .acknowledger | .negativeAcknowledger _ => true

/-- Makes a party with a client. -/
def make (client : QueueClient ε) : Party → Action ε (Agent ε)
  | .connection policy prefetchSize => do
    return .connection (← Connection.make client policy prefetchSize)
  | .acknowledger => return .acknowledger { client }
  | .negativeAcknowledger policy => return .negativeAcknowledger { client, policy }

/-- Makes parties one after the other. -/
def assemble : {n : Nat} → (Fin n → Party) → (Fin n → QueueClient ε) →
    Action ε (Fin n → Agent ε)
  | 0, _, _ => return Fin.elim0
  | _ + 1, party, client => do
    let first ← (party 0).make (client 0)
    let others ← assemble (Fin.tail party) (Fin.tail client)
    return Fin.cons first others

/-- What a party is made into, when a source of identifiers is made for it. Only a connection
takes it. -/
def agent (client : QueueClient ε) (g : GeneratorId) : Party → Agent ε
  | .connection policy prefetchSize => .connection ⟨client, policy, prefetchSize, g⟩
  | .acknowledger => .acknowledger { client }
  | .negativeAcknowledger policy => .negativeAcknowledger { client, policy }

/-- The source of identifiers of a party, when one is made for it. -/
def source (g : GeneratorId) : Party → GeneratorId
  | .connection .. => g
  | .acknowledger | .negativeAcknowledger _ => .shared

/-- Without a source of its own a party has the one that all share. -/
theorem source_of_standsAlone {p : Party} (h : p.standsAlone = true) (g : GeneratorId) :
    p.source g = .shared := by
  cases p with
  | connection => exact nomatch h
  | acknowledger | negativeAcknowledger => rfl

/-- A connection has its own source. -/
theorem source_of_not_standsAlone {p : Party} (h : p.standsAlone = false) (g : GeneratorId) :
    p.source g = g := by
  cases p with
  | connection => rfl
  | acknowledger | negativeAcknowledger => exact nomatch h

end Party

/-- The sources of identifiers of a process. -/
structure Register where
  /-- The next number of each source. -/
  counters : GeneratorId → Int
  /-- How many sources were made. -/
  made : Nat

/-- The sources after one more was made. -/
def Register.next (r : Register) : Register :=
  ⟨fun g ↦ if g = .own r.made then 0 else r.counters g, r.made + 1⟩

/-- The sources of a state. -/
def World.register (w : World ε) : Register := ⟨w.counters, w.generators⟩

/-- The state with other sources. -/
def World.withRegister (w : World ε) (r : Register) : World ε :=
  { w with counters := r.counters, generators := r.made }

/-- Making parties gives each connection a new source of identifiers, which is at zero, and leaves
the other sources alone. -/
structure Assembled {n : Nat} (party : Fin n → Party) (r : Register) (g : Fin n → GeneratorId)
    (r' : Register) : Prop where
  /-- The source of a connection is new and at zero. -/
  fresh : ∀ i, (party i).standsAlone = false →
    ∃ k, g i = .own k ∧ r.made ≤ k ∧ r'.counters (g i) = 0
  /-- No two connections have one source. -/
  distinct : ∀ i j, (party i).standsAlone = false → (party j).standsAlone = false →
    g i = g j → i = j
  /-- The sources from before are as they were. -/
  older : ∀ h, (∀ k, h = .own k → k < r.made) → r'.counters h = r.counters h

namespace Assembled

variable {n : Nat} {party : Fin n → Party} {r r' : Register} {g : Fin n → GeneratorId}

/-- No connection has the source that all others share. -/
theorem ne_shared (h : Assembled party r g r') {i : Fin n} (hi : (party i).standsAlone = false) :
    g i ≠ .shared := by
  obtain ⟨k, hk, -⟩ := h.fresh i hi
  rw [hk]
  exact nofun

/-- The shared source is as it was. -/
theorem shared (h : Assembled party r g r') : r'.counters .shared = r.counters .shared :=
  h.older .shared fun _ e ↦ nomatch e

/-- Nobody has the source of a connection but itself. -/
theorem source_eq_iff (h : Assembled party r g r') {i : Fin n}
    (hi : (party i).standsAlone = false) (j : Fin n) :
    (party j).source (g j) = g i ↔ j = i := by
  constructor
  · intro e
    cases hj : (party j).standsAlone with
    | true =>
      rw [Party.source_of_standsAlone hj] at e
      exact absurd e.symm (h.ne_shared hi)
    | false =>
      rw [Party.source_of_not_standsAlone hj] at e
      exact h.distinct j i hj hi e
  · rintro rfl
    exact Party.source_of_not_standsAlone hi _

/-- Those who stand alone are those who have the shared source. -/
theorem source_eq_shared_iff (h : Assembled party r g r') (j : Fin n) :
    (party j).source (g j) = .shared ↔ (party j).standsAlone = true := by
  cases hj : (party j).standsAlone with
  | true => simp [Party.source_of_standsAlone hj]
  | false => simpa [Party.source_of_not_standsAlone hj] using h.ne_shared hj

/-- Without parties nothing is made. -/
theorem empty {party : Fin 0 → Party} (r : Register) (g : Fin 0 → GeneratorId) :
    Assembled party r g r := ⟨nofun, nofun, fun _ _ ↦ rfl⟩

variable {p : Party}

/-- A party that stands alone is made of nothing. -/
theorem cons_of_standsAlone (hp : p.standsAlone = true) (h : Assembled party r g r')
    (g₀ : GeneratorId) : Assembled (Fin.cons p party) r (Fin.cons g₀ g) r' where
  fresh i := by
    cases i using Fin.cases with
    | zero => exact fun no ↦ nomatch hp.symm.trans no
    | succ i => exact h.fresh i
  distinct i j := by
    cases i using Fin.cases with
    | zero => exact fun no ↦ nomatch hp.symm.trans no
    | succ i =>
      cases j using Fin.cases with
      | zero => exact fun _ no ↦ nomatch hp.symm.trans no
      | succ j => exact fun hi hj e ↦ congrArg Fin.succ (h.distinct i j hi hj e)
  older := h.older

/-- A connection is made with the next source. -/
theorem cons_of_next (h : Assembled party r.next g r') :
    Assembled (Fin.cons p party) r (Fin.cons (.own r.made) g) r' where
  fresh i := by
    cases i using Fin.cases with
    | zero =>
      intro _
      refine ⟨r.made, rfl, Nat.le_refl _, ?_⟩
      rw [Fin.cons_zero, h.older _ fun k e ↦ by cases e; exact Nat.lt_succ_self _]
      exact if_pos rfl
    | succ i =>
      intro hi
      obtain ⟨k, hk, hl, hc⟩ := h.fresh i hi
      exact ⟨k, hk, Nat.le_of_succ_le hl, hc⟩
  distinct i j := by
    have other (i : Fin n) (hi : (party i).standsAlone = false) : g i ≠ .own r.made := by
      obtain ⟨k, hk, hl, -⟩ := h.fresh i hi
      rw [hk]
      rintro ⟨⟩
      exact Nat.not_succ_le_self _ hl
    cases i using Fin.cases with
    | zero =>
      cases j using Fin.cases with
      | zero => exact fun _ _ _ ↦ rfl
      | succ j => exact fun _ hj e ↦ absurd e.symm (other j hj)
    | succ i =>
      cases j using Fin.cases with
      | zero => exact fun hi _ e ↦ absurd e (other i hi)
      | succ j => exact fun hi hj e ↦ congrArg Fin.succ (h.distinct i j hi hj e)
  older f hf := by
    rw [h.older f fun k e ↦ Nat.lt_succ_of_lt (hf k e)]
    refine if_neg ?_
    rintro rfl
    exact Nat.lt_irrefl _ (hf _ rfl)

end Assembled

namespace Party

/-- Making a party succeeds, and others can be made after it. What sources are made does not depend
on the client or on the rest of the state. -/
theorem apply_make (p : Party) (r : Register) :
    ∃ g₀ r₁, (∀ {ε : Type} (client : QueueClient ε) (w : World ε), w.register = r →
      (p.make client).apply w = (.ok (p.agent client g₀), w.withRegister r₁)) ∧
      ∀ {n : Nat} {party : Fin n → Party} {g : Fin n → GeneratorId} {r' : Register},
        Assembled party r₁ g r' → Assembled (Fin.cons p party) r (Fin.cons g₀ g) r' := by
  cases p with
  | connection policy prefetchSize =>
    exact ⟨.own r.made, r.next, fun _ _ h ↦ h ▸ rfl, .cons_of_next⟩
  | acknowledger => exact ⟨.shared, r, fun _ _ h ↦ h ▸ rfl, fun h ↦ h.cons_of_standsAlone rfl _⟩
  | negativeAcknowledger policy =>
    exact ⟨.shared, r, fun _ _ h ↦ h ▸ rfl, fun h ↦ h.cons_of_standsAlone rfl _⟩

/-- Making parties succeeds, whoever they are. -/
theorem apply_assemble {n : Nat} (party : Fin n → Party) (r : Register) :
    ∃ g r', Assembled party r g r' ∧
      ∀ {ε : Type} (client : Fin n → QueueClient ε) (w : World ε), w.register = r →
        (assemble party client).apply w =
          (.ok fun i ↦ (party i).agent (client i) (g i), w.withRegister r') := by
  induction n generalizing r with
  | zero =>
    refine ⟨Fin.elim0, r, .empty r _, fun client w hw ↦ ?_⟩
    rw [assemble, Action.apply_pure, Subsingleton.elim Fin.elim0, ← hw]
    rfl
  | succ n ih =>
    obtain ⟨g₀, r₁, made, cons⟩ := (party 0).apply_make r
    obtain ⟨g, r', h, others⟩ := ih (Fin.tail party) r₁
    refine ⟨Fin.cons g₀ g, r', Fin.cons_self_tail party ▸ cons h, fun client w hw ↦ ?_⟩
    rw [assemble, Action.apply_bind, made (client 0) w hw]
    dsimp only
    rw [Action.apply_bind, others (Fin.tail client) (w.withRegister r₁) rfl]
    refine congrArg (fun agents ↦ (Except.ok agents, w.withRegister r')) (funext fun i ↦ ?_)
    cases i using Fin.cases <;> rfl

end Party

/-! ### What the parties do -/

/-- A bulk action that a party is asked for. -/
structure BulkCall (ι : Type) where
  /-- The party. -/
  party : ι
  /-- How a connection is to settle the items. Those who stand alone have a way of their own. -/
  way : Settlement := .ack
  /-- The queue with the items. -/
  queue : QueueId := 0
  /-- The items. -/
  items : List PendingItem
  /-- The destination. -/
  destination : String
deriving DecidableEq, Repr

namespace Agent

/-- Settles every item of a queue. -/
def settle : Agent ε → Settlement → QueueId → String → Action ε (List BatchResult)
  | .connection c, way => c.settle way
  | .acknowledger a, _ => a.bulk
  | .negativeAcknowledger n, _ => n.bulk

/-- Carries out a bulk action on the items that it is given. -/
def perform (a : Agent ε) (b : BulkCall ι) : Action ε (List BatchResult) := do
  Action.change fun w ↦ w.setQueue b.queue b.items
  a.settle b.way b.queue b.destination

/-- The state after bulk actions, failed ones included. -/
def run (agents : ι → Agent ε) : List (BulkCall ι) → World ε → World ε :=
  Action.runAll fun b ↦ (agents b.party).perform b

/-- Bulk actions that are carried out one after the other, each with its outcome. -/
def outcomes (agents : ι → Agent ε) : List (BulkCall ι) → World ε →
    List (BulkCall ι × Except Failure (List BatchResult)) :=
  Action.outcomes fun b ↦ (agents b.party).perform b

end Agent

namespace Party

variable {p : Party} {client : QueueClient ε} {g : GeneratorId} {q : QueueId}

/-- A connection that could stand in for a party. -/
def standIn (client : QueueClient ε) (g : GeneratorId) : Party → Connection (QueueClient ε)
  | .connection policy prefetchSize => ⟨client, policy, prefetchSize, g⟩
  | .acknowledger => ⟨client, none, minBatch, .shared⟩
  | .negativeAcknowledger policy => ⟨client, policy, minBatch, .shared⟩

/-- How a party settles items when it is asked for a way to do so. -/
def way : Party → Settlement → Settlement
  | .connection .., k => k
  | .acknowledger, _ => .ack
  | .negativeAcknowledger _, _ => .nack

/-- The connection has the client of the party. -/
@[simp] theorem client_standIn : (p.standIn client g).client = client := by cases p <;> rfl

/-- The connection has the source of the party. -/
@[simp] theorem generator_standIn : (p.standIn client g).generator = p.source g := by
  cases p <;> rfl

/-- A party does what the connection that stands in for it would do. -/
theorem settle_agent (p : Party) (client : QueueClient ε) (g : GeneratorId) (k : Settlement) :
    (p.agent client g).settle k = (p.standIn client g).settle (p.way k) := by
  cases p <;> rfl

/-- Two parties of one kind settle the items of a queue alike when their clients agree. -/
theorem settle_agrees {R : World ε → World η → Prop} {d : QueueClient η} {g' : GeneratorId}
    (hn : NumbersAlike R (p.source g) (p.source g')) (hd : DrainsAlike R q)
    (hc : ∀ call, (client.perform call).Agrees R (d.perform call)) (k : Settlement)
    (destination : String) :
    ((p.agent client g).settle k q destination).Agrees R
      ((p.agent d g').settle k q destination) := by
  rw [settle_agent, settle_agent]
  refine Connection.settle_agrees_of ?_ hd (by cases p <;> rfl) ?_ _ destination
  · rwa [generator_standIn, generator_standIn]
  · rwa [client_standIn, client_standIn]

/-- Two parties of one kind carry out a bulk action alike when their clients agree. While the items
are settled the states may be in a closer relation, in which the queue is the same. -/
theorem perform_agrees {R S : World ε → World η → Prop} {d : QueueClient η} {g' : GeneratorId}
    {b : BulkCall ι}
    (enter : ∀ {w v}, R w v → S (w.setQueue b.queue b.items) (v.setQueue b.queue b.items))
    (leave : ∀ {w v}, S w v → R w v) (hn : NumbersAlike S (p.source g) (p.source g'))
    (hd : DrainsAlike S b.queue)
    (hc : ∀ call, (client.perform call).Agrees S (d.perform call)) :
    ((p.agent client g).perform b).Agrees R ((p.agent d g').perform b) := by
  intro w v hr
  obtain ⟨outcome, after⟩ := settle_agrees hn hd hc b.way b.destination _ _ (enter hr)
  exact ⟨outcome, leave after⟩

/-- A bulk action of a party guarantees what drawing an identifier and the client do. -/
theorem perform_guarantees {R : World ε → World ε → Prop} (h : ∀ q, Indifferent R q)
    (draw : (Action.nextId (p.source g) : Action ε String).Guarantees R)
    (hc : client.Guarantees R) (b : BulkCall ι) : ((p.agent client g).perform b).Guarantees R := by
  have settles : ((p.agent client g).settle b.way b.queue b.destination).Guarantees R := by
    rw [settle_agent]
    refine Connection.settle_follows (h b.queue).lenient (h b.queue).ignoresContext ?_ fun _ ↦ ?_
    · rwa [generator_standIn]
    · rw [client_standIn]
      exact hc.perform _
  exact fun w ↦ (h b.queue).trans ((h b.queue).queue w b.items) (settles _)

/-- A bulk action of a party with a shadow of a client shadows the bulk action with the client. -/
theorem perform_shadows {σ : Type} {client' : QueueClient (ε × σ)}
    (h : ∀ call, (client'.perform call).Shadows (client.perform call)) (b : BulkCall ι) :
    ((p.agent client' g).perform b).Shadows ((p.agent client g).perform b) := by
  have alike := (parallel_forget (ε := ε) (σ := σ)).coupledOn b.queue
  exact .of_agrees (perform_agrees (fun hr ↦ alike.setQueue hr b.items) id (alike.numbersAlike _)
    alike.toDrainsAlike fun call ↦ (h call).agrees)

end Party

end QueueAck
