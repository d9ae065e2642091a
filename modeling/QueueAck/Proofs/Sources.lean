import QueueAck.Proofs.Identifiers
import QueueAck.Proofs.Parties
import QueueAck.Proofs.Requests

/-!
# Sources of identifiers of many parties

Connections have sources of identifiers of their own, and acknowledgers that stand alone share one.
So what a connection asks of its client, and what comes of it, is what it would be without the other
parties, and those who stand alone number their entries together (`sources_isolated`). What carries
the proof is `Alongside`, which a bulk action of the connection keeps on both sides and one of
another party on the one, and `Numbered` for the calls of those who have one source.
-/

namespace QueueAck

variable {ε ι : Type}

/-! ### One party beside others -/

section Alongside

variable [DecidableEq ι] {σ : ι → Type}

/-- What a party has to do with. -/
structure Share (ι σ : Type) where
  /-- The next number of its source. -/
  counter : Int
  /-- How many items may join a queue. -/
  patience : Nat
  /-- What its backend keeps. -/
  backend : σ
  /-- The calls on its client. -/
  exchanges : List (Exchange ι)

/-- The share of a party in a state with the backends of many. -/
def World.share (w : World ((∀ i, σ i) × List (Exchange ι))) (i : ι) (g : GeneratorId) :
    Share ι (σ i) :=
  ⟨w.counters g, w.patience, w.outside.1 i, w.record.filter fun e ↦ e.party = i⟩

/-- The share of a party that is alone. -/
def World.whole {σ : Type} (w : World (σ × List (Exchange ι))) (g : GeneratorId) : Share ι σ :=
  ⟨w.counters g, w.patience, w.outside.1, w.record⟩

/-- The party has in the first state what it has alone in the second one. -/
def Alongside (i : ι) (g g' : GeneratorId) (w : World ((∀ i, σ i) × List (Exchange ι)))
    (v : World (σ i × List (Exchange ι))) : Prop :=
  w.share i g = v.whole g'

/-- The party has in the first state what it has alone in the second one, and one queue is the
same. -/
def AlongsideOn (i : ι) (g g' : GeneratorId) (q : QueueId)
    (w : World ((∀ i, σ i) × List (Exchange ι))) (v : World (σ i × List (Exchange ι))) : Prop :=
  Alongside i g g' w v ∧ w.queues q = v.queues q

namespace AlongsideOn

variable {i : ι} {g g' : GeneratorId} {q : QueueId}

/-- The queue is drained alike. -/
theorem drainsAlike : DrainsAlike (AlongsideOn (σ := σ) i g g' q) q where
  report h _ := h
  overlay _ h _ := h
  queue h := h.2
  patience h := congrArg Share.patience h.1
  setQueue {w v} h items := by
    refine ⟨h.1, ?_⟩
    rw [World.queues_setQueue_self, World.queues_setQueue_self]

/-- Entries are numbered alike. -/
theorem numbersAlike : NumbersAlike (AlongsideOn (σ := σ) i g g' q) g g' where
  toLogsAlike := drainsAlike.toLogsAlike
  counter h := congrArg Share.counter h.1
  setNext {w v} h n := by
    refine ⟨?_, h.2⟩
    simp only [Alongside, World.share, World.whole, World.counters_setCounter_self]
    exact congrArg (fun s : Share ι (σ i) ↦ { s with counter := n }) h.1

/-- A client answers alike among others and alone. -/
theorem perform {client : QueueClient (σ i)}
    {f : BatchCall → σ i → Except Failure BatchResult × σ i} (h : client.Answers f)
    (call : BatchCall) :
    (((client.focused i).overheard i).perform call).Agrees (AlongsideOn i g g' q)
      ((client.overheard i).perform call) := by
  rintro w v ⟨share, queue⟩
  obtain ⟨l, hl⟩ := h.focused.overheard (i := i) call w
  obtain ⟨m, hm⟩ := h.overheard (i := i) call v
  have backend : w.outside.1 i = v.outside.1 := congrArg Share.backend share
  rw [hl, hm]
  refine ⟨congrArg (fun o ↦ (f call o).1) backend, ?_, queue⟩
  simp only [Alongside, World.share, World.whole, World.record, Share.mk.injEq] at share ⊢
  obtain ⟨counter, patience, -, exchanges⟩ := share
  refine ⟨counter, patience, ?_, ?_⟩
  · rw [Function.update_self, backend]
  · rw [List.filter_append, exchanges, backend]
    simp

end AlongsideOn

/-- The relation between states in which a party has the same. -/
def SameShare (i : ι) (g : GeneratorId) (w w' : World ((∀ i, σ i) × List (Exchange ι))) : Prop :=
  w'.share i g = w.share i g

/-- Filling queues and logging does not matter to a party. -/
theorem indifferent_sameShare (i : ι) (g : GeneratorId) (q : QueueId) :
    Indifferent (SameShare (σ := σ) i g) q where
  refl _ := rfl
  trans h h' := h'.trans h
  log _ _ := rfl
  queue _ _ := rfl

/-- Drawing from another source does not matter to a party. -/
theorem nextId_sameShare {i : ι} {g g₁ : GeneratorId} (hg : g ≠ g₁) :
    (Action.nextId g₁).Guarantees (SameShare (σ := σ) i g) := by
  intro w
  simp only [SameShare, World.share, Action.apply_nextId, World.counters_setCounter_of_ne w _ hg]
  rfl

/-- The client of another party does not matter to a party. -/
theorem guarantees_sameShare {i j : ι} (hj : j ≠ i) (g : GeneratorId) {client : QueueClient (σ j)}
    {f : BatchCall → σ j → Except Failure BatchResult × σ j} (h : client.Answers f) :
    ((client.focused j).overheard j).Guarantees (SameShare i g) := by
  have kept (call : BatchCall) : (((client.focused j).overheard j).perform call).Guarantees
      (SameShare i g) := by
    intro w
    obtain ⟨l, hl⟩ := h.focused.overheard (i := j) call w
    rw [hl]
    simp only [SameShare, World.share, World.record, List.filter_append]
    rw [Function.update_of_ne hj.symm]
    simp [hj]
  exact ⟨fun _ _ ↦ kept (.changeVisibility _ _), fun _ _ ↦ kept (.delete _ _)⟩

/-- A connection that is made with other parties starts as one that is made alone. -/
theorem Assembled.alongside {n : Nat} {σ : Fin n → Type} {party : Fin n → Party}
    {w : World (∀ i, σ i)} {g : Fin n → GeneratorId} {r : Register}
    (h : Assembled party w.register g r) {i : Fin n} (connected : (party i).standsAlone = false) :
    Alongside i (g i) (.own w.generators) ((w.remember []).withRegister r)
      (((w.focus i).remember []).withRegister w.register.next) := by
  obtain ⟨-, -, -, zero⟩ := h.fresh i connected
  have zero_alone : w.register.next.counters (.own w.generators) = 0 := if_pos rfl
  simp only [Alongside, World.share, World.whole, World.withRegister, zero, zero_alone]
  rfl

/-- Among others a connection does and finds what it does and finds alone, when nobody else has its
source. -/
theorem run_alongside {party : ι → Party} {client : ∀ i, QueueClient (σ i)}
    {answer : ∀ i, BatchCall → σ i → Except Failure BatchResult × σ i}
    (own : ∀ i, (client i).Answers (answer i)) {g : ι → GeneratorId} {i : ι} {g' : GeneratorId}
    (connected : (party i).standsAlone = false)
    (apart : ∀ j, (party j).source (g j) = g i ↔ j = i) (calls : List (BulkCall ι))
    {w : World ((∀ i, σ i) × List (Exchange ι))} {v : World (σ i × List (Exchange ι))}
    (hr : Alongside i (g i) g' w v) :
    let agents := fun j ↦ (party j).agent (((client j).focused j).overheard j) (g j)
    let alone := fun _ ↦ (party i).agent ((client i).overheard i) g'
    let its := calls.filter fun b ↦ b.party = i
    (Agent.outcomes agents calls w).filter (fun done ↦ done.1.party = i) =
        Agent.outcomes alone its v ∧
      Alongside i (g i) g' (Agent.run agents calls w) (Agent.run alone its v) := by
  intro agents alone its
  -- Its own calls are made in both processes, those of the others only in the one with many.
  refine Action.run_filter (p := fun b : BulkCall ι ↦ b.party = i) (fun b _ hb ↦ ?_)
    (fun b _ hb w v hr ↦ ?_) hr
  · obtain rfl : b.party = i := of_decide_eq_true hb
    refine Party.perform_agrees (S := AlongsideOn b.party (g b.party) g' b.queue)
      (fun {w v} hr ↦ ⟨hr, ?_⟩) (fun h ↦ h.1) ?_ AlongsideOn.drainsAlike
      (AlongsideOn.perform (own b.party))
    · rw [World.queues_setQueue_self, World.queues_setQueue_self]
    · rw [Party.source_of_not_standsAlone connected, Party.source_of_not_standsAlone connected]
      exact AlongsideOn.numbersAlike
  · have other : b.party ≠ i := of_decide_eq_false hb
    have spared : SameShare i (g i) w (((agents b.party).perform b).apply w).2 :=
      Party.perform_guarantees (indifferent_sameShare i (g i))
        (nextId_sameShare fun same ↦ other ((apart _).mp same.symm))
        (guarantees_sameShare other (g i) (own b.party)) b w
    exact spared.trans hr

end Alongside

/-! ### Those who have one source -/

/-- The state with the calls of some parties as its record. -/
def World.heard (keep : ι → Bool) (w : World (ε × List (Exchange ι))) :
    World (ε × List BatchCall) :=
  w.forget.remember ((w.record.filter fun e ↦ keep e.party).map Exchange.call)

section Heard

variable {keep : ι → Bool} {i : ι} {c : QueueClient ε} {g g₀ : GeneratorId} {p : Party}

/-- What is heard of the calls is a matter of the record alone. -/
theorem parallel_heard (keep : ι → Bool) :
    Parallel fun (w : World (ε × List (Exchange ι))) v ↦ w.heard keep = v where
  queues h := h ▸ rfl
  counters h := h ▸ rfl
  patience h := h ▸ rfl
  log h := h ▸ rfl
  setQueue h _ _ := h ▸ rfl
  setCounter h _ _ := h ▸ rfl
  setLog h _ := h ▸ rfl

/-- Of a party that is kept all calls are heard. -/
theorem QueueClient.overheard_agrees_recorded (hi : keep i = true) (c : QueueClient ε)
    (call : BatchCall) :
    ((c.overheard i).perform call).Agrees (fun w v ↦ w.heard keep = v)
      (c.recorded.perform call) := by
  rintro w _ rfl
  rw [perform_overheard, perform_recorded]
  refine ⟨rfl, ?_⟩
  simp only [Action.overheard, Action.noting, Action.apply_ofFunction, World.heard,
    World.record_remember, World.forget_remember, List.filter_append, List.map_append]
  simp [hi]

/-- The relation between states that keeps the entries of some parties numbered. -/
def KeepsNumberedBy (keep : ι → Bool) (g : GeneratorId)
    (w w' : World (ε × List (Exchange ι))) : Prop := KeepsNumbered g (w.heard keep) (w'.heard keep)

/-- Filling queues and logging hands nothing over. -/
theorem indifferent_keepsNumberedBy (keep : ι → Bool) (g : GeneratorId) (q : QueueId) :
    Indifferent (KeepsNumberedBy (ε := ε) keep g) q where
  refl _ h := h
  trans h h' hu := h' (h hu)
  log w l := (indifferent_keepsNumbered g q).log (w.heard keep) l
  queue w items := (indifferent_keepsNumbered g q).queue (w.heard keep) items

/-- Settling items keeps the entries of a connection numbered. -/
theorem keepsNumbered_settle {c : Connection (QueueClient ε)}
    (quiet : c.client.Guarantees (SameCounter c.generator)) (k : Settlement) (q : QueueId)
    (destination : String) :
    (c.recorded.settle k q destination).Guarantees (KeepsNumbered c.generator) := by
  have perform := Connection.perform_guarantees (indifferent_keepsNumbered c.generator)
    (keepsNumbered_acknowledge quiet) (keepsNumbered_handBack quiet)
  cases k with
  | ack => exact perform (.ack q destination)
  | nack => exact perform (.nack q destination)

/-- A bulk action of a party keeps the entries of its source numbered. -/
theorem keepsNumbered_perform (quiet : c.Guarantees (SameCounter (p.source g))) (b : BulkCall ι) :
    ((p.agent c.recorded g).perform b).Guarantees (KeepsNumbered (p.source g)) := by
  have settles := keepsNumbered_settle (c := p.standIn c g)
    (by rwa [Party.client_standIn, Party.generator_standIn]) (p.way b.way) b.queue b.destination
  have recorded : (p.standIn c g).recorded = p.standIn c.recorded g := by cases p <;> rfl
  rw [Party.generator_standIn, recorded, ← Party.settle_agent] at settles
  have indifferent := indifferent_keepsNumbered (ε := ε) (p.source g) b.queue
  exact fun w ↦ indifferent.trans (indifferent.queue w b.items) (settles _)

/-- Those who have one source keep their entries numbered together, and the others leave them
alone. -/
theorem keepsNumberedBy_perform (quiet : c.Guarantees (SameCounter g₀))
    (hk : p.source g = g₀ ↔ keep i = true) (b : BulkCall ι) :
    ((p.agent (c.overheard i) g).perform b).Guarantees (KeepsNumberedBy keep g₀) := by
  by_cases hg : p.source g = g₀
  · -- The calls are heard, as if they were recorded.
    subst hg
    have alike := (parallel_heard (ε := ε) keep).coupledOn b.queue
    have agrees : ((p.agent (c.overheard i) g).perform b).Agrees (fun w v ↦ w.heard keep = v)
        ((p.agent c.recorded g).perform b) :=
      Party.perform_agrees (fun hr ↦ alike.setQueue hr b.items) id (alike.numbersAlike _)
        alike.toDrainsAlike (c.overheard_agrees_recorded (hk.mp rfl))
    intro w
    rw [KeepsNumberedBy, (agrees w _ rfl).2]
    exact keepsNumbered_perform quiet b _
  · -- The calls are not heard, and their numbers are drawn elsewhere.
    refine Party.perform_guarantees (indifferent_keepsNumberedBy keep g₀) ?_ ?_ b
    · intro w h
      exact h.of_eq rfl (World.counters_setCounter_of_ne w _ (Ne.symm hg))
    · have unheard (call : BatchCall) : ((c.overheard i).perform call).Guarantees
          (KeepsNumberedBy keep g₀) := by
        intro w h
        have left_out : keep i = false := by simpa using mt hk.mpr hg
        rw [QueueClient.perform_overheard]
        refine h.of_eq ?_ (quiet.perform call w.forget)
        simp [Action.overheard, World.heard, left_out]
      exact ⟨fun _ _ ↦ unheard (.changeVisibility _ _), fun _ _ ↦ unheard (.delete _ _)⟩

/-- Bulk actions keep the entries of those who have one source numbered. -/
theorem numbered_run_parties {party : ι → Party} {client : ι → QueueClient ε}
    {source : ι → GeneratorId} (quiet : ∀ i, (client i).Guarantees (SameCounter g₀))
    (hk : ∀ i, (party i).source (source i) = g₀ ↔ keep i = true) (calls : List (BulkCall ι))
    {w : World (ε × List (Exchange ι))} (h : Numbered g₀ (w.heard keep)) :
    let agents := fun i ↦ (party i).agent ((client i).overheard i) (source i)
    Numbered g₀ ((Agent.run agents calls w).heard keep) := by
  intro agents
  have kept (b : BulkCall ι) :
      ((agents b.party).perform b).Guarantees (KeepsNumberedBy keep g₀) :=
    keepsNumberedBy_perform (quiet b.party) (hk b.party) b
  have run : KeepsNumberedBy keep g₀ w (Agent.run agents calls w) :=
    (indifferent_keepsNumberedBy keep g₀ 0).runAll kept calls w
  exact run h

end Heard

/-- Nothing was heard yet, and the source is at zero. -/
theorem numbered_heard_nil {keep : ι → Bool} {g : GeneratorId}
    {w : World (ε × List (Exchange ι))} (nothing : w.record = []) (h : w.counters g = 0) :
    Numbered g (w.heard keep) := by
  have start : Numbered g (w.forget.remember []) := numbered_remember_nil h
  exact start.of_eq (by simp [World.heard, nothing]) rfl

/-- A client that answers draws from no source. -/
theorem QueueClient.Answers.guarantees_sameCounter {c : QueueClient ε}
    {f : BatchCall → ε → Except Failure BatchResult × ε} (h : c.Answers f) (g : GeneratorId) :
    c.Guarantees (SameCounter g) := by
  have same (call : BatchCall) : (c.perform call).Guarantees (SameCounter g) := by
    intro w
    obtain ⟨l, hl⟩ := h call w
    rw [hl]
    rfl
  exact ⟨fun _ _ ↦ same (.changeVisibility _ _), fun _ _ ↦ same (.delete _ _)⟩

/-- Parties with clients of their own, whatever they are asked for in turn. What a connection asks
of its client, what the client answers and what comes of the bulk actions is what it is in a process
without the others; its entries are numbered from zero, and it draws nothing from the shared source.
All who stand alone number their entries together, from zero when the shared source is new. Leaving
the record aside, the recorded run is the run itself. -/
theorem sources_isolated {n : Nat} {σ : Fin n → Type} (party : Fin n → Party)
    (client : ∀ i, QueueClient (σ i))
    {answer : ∀ i, BatchCall → σ i → Except Failure BatchResult × σ i}
    (own : ∀ i, (client i).Answers (answer i)) (calls : List (BulkCall (Fin n)))
    (w : World (∀ i, σ i)) :
    ∃ agents opened, (Party.assemble party fun i ↦ ((client i).focused i).overheard i).apply
        (w.remember []) = (.ok agents, opened) ∧
      let w' := Agent.run agents calls opened
      (∃ agents₀ opened₀, (Party.assemble party fun i ↦ (client i).focused i).apply w =
          (.ok agents₀, opened₀) ∧
        Agent.outcomes agents calls opened = Agent.outcomes agents₀ calls opened₀ ∧
        w'.forget = Agent.run agents₀ calls opened₀) ∧
      (∀ i policy prefetchSize, party i = .connection policy prefetchSize →
        (∃ c opened₁, (Connection.make ((client i).overheard i) policy prefetchSize).apply
            ((w.focus i).remember []) = (.ok c, opened₁) ∧
          let alone := fun _ : Fin n ↦ Agent.connection c
          let its := calls.filter fun b ↦ b.party = i
          (Agent.outcomes agents calls opened).filter (fun done ↦ done.1.party = i) =
            Agent.outcomes alone its opened₁ ∧
          w'.record.filter (fun e ↦ e.party = i) = (Agent.run alone its opened₁).record ∧
          w'.forget.outside i = (Agent.run alone its opened₁).forget.outside) ∧
        (∀ (m : Nat) (e : BatchEntry), (w'.heard fun j ↦ j = i).handed[m]? = some e →
          e.id = m.repr) ∧
        ∀ (b : BulkCall (Fin n)) u, SameCounter .shared u (((agents i).perform b).apply u).2) ∧
      (w.counters .shared = 0 →
        let together := (w'.heard fun j ↦ (party j).standsAlone).handed
        (∀ (m : Nat) (e : BatchEntry), together[m]? = some e → e.id = m.repr) ∧
        (together.map BatchEntry.id).Nodup) := by
  obtain ⟨g, r, h, made⟩ := Party.apply_assemble party w.register
  have numbered {g₀ : GeneratorId} {keep : Fin n → Bool}
      (hk : ∀ i, (party i).source (g i) = g₀ ↔ keep i = true) (zero : r.counters g₀ = 0) :=
    numbered_run_parties (fun i ↦ (own i).focused.guarantees_sameCounter g₀) hk calls
      (w := (w.remember []).withRegister r) (numbered_heard_nil rfl zero)
  refine ⟨_, _, made (fun i ↦ ((client i).focused i).overheard i) (w.remember []) rfl,
    ⟨_, _, made (fun i ↦ (client i).focused i) w rfl, ?_⟩, fun i policy prefetchSize hi ↦ ?_,
    fun unused ↦ ?_⟩
  · exact Action.run_agrees (fun b : BulkCall (Fin n) ↦ (Party.perform_shadows
      (QueueClient.perform_overheard_shadows _ _) b).agrees) calls rfl
  · have connected : (party i).standsAlone = false := by rw [hi]; rfl
    have apart := h.source_eq_iff connected
    obtain ⟨-, -, -, zero⟩ := h.fresh i connected
    refine ⟨⟨_, _, rfl, ?_⟩, fun _ _ ↦ ?_, fun b u ↦ ?_⟩
    · have alongside := run_alongside own connected apart calls (h.alongside connected)
      rw [hi] at alongside
      obtain ⟨outcomes, share⟩ := alongside
      exact ⟨outcomes, congrArg Share.exchanges share, congrArg Share.backend share⟩
    · exact (numbered (fun j ↦ by simpa using apart j) zero).id_of_getElem?
    · refine Party.perform_guarantees (indifferent_sameCounter .shared) (fun v ↦ ?_)
        ((own i).focused.overheard.guarantees_sameCounter .shared) b u
      rw [Party.source_of_not_standsAlone connected]
      exact World.counters_setCounter_of_ne v _ (h.ne_shared connected).symm
  · have together := numbered h.source_eq_shared_iff (h.shared.trans unused)
    exact ⟨fun _ _ ↦ together.id_of_getElem?, together.nodup⟩

/-- A service that refuses the second request. -/
private def refusing (sent : List SqsRequest) (_ : SqsRequest) : Except Failure Value :=
  if sent.length = 1 then .error (.outside (.sqs .unspecified)) else .ok (.record [])

/-- Two connections, and two who stand alone. -/
private def fourParties : Fin 4 → Party :=
  ![.connection none 1, .acknowledger, .connection none 1, .negativeAcknowledger none]

/-- They take turns, and the second call on each client fails. -/
private def fourTurns : List (BulkCall (Fin 4)) :=
  [{ party := 0, items := List.replicate 11 ⟨"a", "orders", ""⟩, destination := "orders" },
    { party := 1, items := [⟨"b", "orders", ""⟩], destination := "orders" },
    { party := 2, way := .nack, items := [⟨"c", "bills", ""⟩], destination := "bills" },
    { party := 3, items := [⟨"d", "bills", ""⟩, ⟨"e", "bills", ""⟩], destination := "bills" },
    { party := 1, items := [⟨"f", "orders", ""⟩], destination := "orders" },
    { party := 0, items := [⟨"g", "orders", ""⟩], destination := "orders" },
    { party := 3, items := [⟨"h", "bills", ""⟩], destination := "bills" }]

/-- In the example the last item of the first connection is its entry eleven, and those who stand
alone hand over entries zero to four. -/
theorem sources_isolated_refusing :
    let client := fun _ : Fin 4 ↦ (SqsBackend.answering refusing).client
    (∃ answer : Fin 4 → _, ∀ i, (client i).Answers (answer i)) ∧
    ∃ agents opened,
      (Party.assemble fourParties fun i ↦
        ((client i).focused (σ := fun _ ↦ List SqsRequest) i).overheard i).apply
          (World.remember { outside := fun _ ↦ [] } []) = (.ok agents, opened) ∧
      let w' := Agent.run agents fourTurns opened
      (∃ e, (w'.heard fun j ↦ j = 0).handed[11]? = some e ∧ e.receiptHandle = "g" ∧
        e.id = "11") ∧
      ((w'.heard fun j ↦ (fourParties j).standsAlone).handed.map BatchEntry.receiptHandle =
        ["b", "d", "e", "f", "h"]) ∧
      ∃ e, (w'.heard fun j ↦ (fourParties j).standsAlone).handed[4]? = some e ∧ e.id = "4" := by
  intro client
  have answers : ∃ f, ((SqsBackend.answering refusing).client).Answers f :=
    (QueueClient.Over.sqs _ fun request ↦
      ⟨fun sent ↦ (refusing sent request, sent ++ [request]), rfl⟩).answers
  obtain ⟨answer, own⟩ := answers
  refine ⟨⟨fun _ ↦ answer, fun _ ↦ own⟩, ?_⟩
  obtain ⟨agents, opened, made, -, connections, together⟩ :=
    sources_isolated fourParties client (fun _ ↦ own) fourTurns { outside := fun _ ↦ [] }
  cases made
  refine ⟨_, _, rfl, ⟨⟨"11", "g", none⟩, by decide +kernel, rfl, ?_⟩, by decide +kernel,
    ⟨"4", "h", some 0⟩, by decide +kernel, ?_⟩
  · exact (connections 0 none 1 rfl).2.1 11 _ (by decide +kernel)
  · exact (together rfl).1 4 _ (by decide +kernel)

end QueueAck
