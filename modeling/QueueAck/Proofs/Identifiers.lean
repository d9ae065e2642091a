import QueueAck.Proofs.Caller
import QueueAck.Proofs.Dispatch.Serve
import QueueAck.Proofs.Numbering

/-!
# Identifiers over the life of a connection

The entries that a connection hands to its client are numbered from zero, without a gap and without
a repetition, whatever becomes of the calls (`ids_numbered`). What carries the proof is `Numbered`:
as long as its numbers can be written, the source of the connection stands at the number of entries
that were handed over.
-/

namespace QueueAck

variable {ε β : Type}

/-- The relation between states that have the same next number in a source. -/
def SameCounter (g : GeneratorId) (w w' : World ε) : Prop := w'.counters g = w.counters g

/-- Filling queues and logging draws no number. -/
theorem indifferent_sameCounter (g : GeneratorId) (q : QueueId) :
    Indifferent (SameCounter (ε := ε) g) q where
  refl _ := rfl
  trans h h' := h'.trans h
  log _ _ := rfl
  queue _ _ := rfl

/-- The entries of all calls that were written down, in their order. -/
def World.handed (w : World (ε × List BatchCall)) : List BatchEntry :=
  w.record.flatMap BatchCall.entries

/-- The entries handed over have the numbers from zero on, and the source is at the next one. A
source whose numbers have become too large stays so. -/
structure Numbered (g : GeneratorId) (w : World (ε × List BatchCall)) : Prop where
  /-- The identifiers are the texts of the numbers from zero on. -/
  ids : w.handed.map BatchEntry.id = (List.range w.handed.length).map Nat.repr
  /-- The source is at the number of entries, or beyond what is written. -/
  counter : w.counters g = w.handed.length ∨ (Text.writeLimit : Int) ≤ w.counters g

/-- Nothing was handed over, and the source is at zero. -/
theorem numbered_remember_nil {g : GeneratorId} {w : World ε} (h : w.counters g = 0) :
    Numbered g (w.remember []) := ⟨rfl, .inl h⟩

/-- The relation between states that keeps entries numbered. -/
def KeepsNumbered (g : GeneratorId) (w w' : World (ε × List BatchCall)) : Prop :=
  Numbered g w → Numbered g w'

/-- Filling queues and logging hands nothing over. -/
theorem indifferent_keepsNumbered (g : GeneratorId) (q : QueueId) :
    Indifferent (KeepsNumbered (ε := ε) g) q where
  refl _ h := h
  trans h h' hu := h' (h hu)
  log _ _ h := ⟨h.ids, h.counter⟩
  queue _ _ h := ⟨h.ids, h.counter⟩

namespace Numbered

variable {g : GeneratorId} {w : World (ε × List BatchCall)}

/-- It is a matter of the record and of the source alone. -/
theorem of_eq (h : Numbered g w) {w' : World (ε × List BatchCall)} (record : w'.record = w.record)
    (counter : SameCounter g w w') : Numbered g w' := by
  have handed : w'.handed = w.handed := congrArg (List.flatMap BatchCall.entries) record
  exact ⟨handed ▸ h.ids, counter.symm ▸ handed ▸ h.counter⟩

/-- A call whose entries have the next numbers keeps entries numbered. -/
theorem call (h : Numbered g w) {made : BatchCall} {timeout : Option Int} {handles : List String}
    (hm : made.entries = entriesFrom (w.counters g) timeout handles)
    (hl : ∀ i < handles.length, (w.counters g + i).natAbs < Text.writeLimit) {w' : World ε}
    (hw : w'.counters g = w.counters g + handles.length) :
    Numbered g (w'.remember (w.record ++ [made])) := by
  have hh : (w'.remember (w.record ++ [made])).handed =
      w.handed ++ entriesFrom (w.counters g) timeout handles := by
    rw [World.handed, World.record_remember, List.flatMap_append, List.flatMap_singleton, hm]
    rfl
  rcases h.counter with hn | hu
  · refine ⟨?_, .inl ?_⟩
    · rw [hh, List.map_append, h.ids, map_id_entriesFrom, hn, List.length_append,
        length_entriesFrom, List.range_add, List.map_append, List.map_map]
      rfl
    · rw [hh, World.counters_remember, hw, hn, List.length_append, length_entriesFrom,
        Int.natCast_add]
  · -- No number is left to be written, so that there are no entries.
    have hz : handles = [] := by
      cases handles with
      | nil => rfl
      | cons handle handles =>
        have hc := hl 0 (Nat.succ_pos _)
        omega
    subst hz
    have he : (w'.remember (w.record ++ [made])).handed = w.handed := by
      rw [hh]
      exact List.append_nil _
    refine ⟨he ▸ h.ids, .inr ?_⟩
    rw [World.counters_remember, hw]
    simpa using hu

/-- A number that is too large ends a call before anything is handed over. -/
theorem overflow (h : Numbered g w) {k : Nat} (hk : Text.writeLimit ≤ (w.counters g + k).natAbs) :
    Numbered g (w.setCounter g (w.counters g + k + 1)) := by
  refine ⟨h.ids, .inr ?_⟩
  rw [World.counters_setCounter_self]
  rcases h.counter with hn | hu <;> omega

/-- The entry at a position has the text of the position. -/
theorem id_of_getElem? (h : Numbered g w) {m : Nat} {e : BatchEntry}
    (he : w.handed[m]? = some e) : e.id = m.repr := by
  have hm : (w.handed.map BatchEntry.id)[m]? = some e.id := by rw [List.getElem?_map, he]; rfl
  obtain ⟨hl, rfl⟩ := List.getElem?_eq_some_iff.mp he
  rw [h.ids, List.getElem?_map, List.getElem?_range hl] at hm
  exact (Option.some.inj hm).symm

/-- No identifier is used twice. -/
theorem nodup (h : Numbered g w) : (w.handed.map BatchEntry.id).Nodup := by
  rw [h.ids]
  exact List.Nodup.map (fun _ _ ↦ Nat.repr_injective) List.nodup_range

/-- Later entries have larger numbers. -/
theorem pairwise (h : Numbered g w) :
    w.handed.Pairwise fun e e' ↦ ∃ m n : Nat, e.id = m.repr ∧ e'.id = n.repr ∧ m < n := by
  rw [List.pairwise_iff_getElem]
  intro m n hm hn hmn
  exact ⟨m, n, h.id_of_getElem? (List.getElem?_eq_getElem hm),
    h.id_of_getElem? (List.getElem?_eq_getElem hn), hmn⟩

end Numbered

/-- Numbering a batch and handing it over keeps entries numbered, also when the call fails. -/
theorem keepsNumbered_call {g : GeneratorId} (note : List BatchEntry → BatchCall)
    (hn : ∀ es, (note es).entries = es) {send : List BatchEntry → Action ε BatchResult}
    (hs : ∀ es, (send es).Guarantees (SameCounter g))
    {k : BatchResult → Action (ε × List BatchCall) β} (hk : ∀ x, (k x).Guarantees (KeepsNumbered g))
    (timeout : Option Int) (handles : List String) :
    (numberEntries (Action.nextId g) timeout handles >>= fun es ↦
      (send es).noting (note es) >>= k).Guarantees (KeepsNumbered g) := by
  intro w h
  rw [Action.apply_bind]
  rcases numberEntries_cases g timeout handles w with ⟨hl, hr⟩ | ⟨i, _, hi, hr⟩
  · rw [hr]
    generalize he : entriesFrom (w.counters g) timeout handles = es
    have hc : Numbered g (((send es).noting (note es)).apply
        (w.setCounter g (w.counters g + handles.length))).2 := by
      refine h.call ((hn es).trans he.symm) hl ?_
      have hg : SameCounter g _ _ :=
        hs es (w.setCounter g (w.counters g + handles.length)).forget
      exact hg.trans (World.counters_setCounter_self ..)
    dsimp only
    rw [Action.apply_bind]
    split
    · next x w' hx =>
      rw [hx] at hc
      exact hk x w' hc
    · next f w' hx =>
      rw [hx] at hc
      exact hc
  · rw [hr]
    exact h.overflow hi

section Connection

variable {c : Connection (QueueClient ε)}

/-- Deleting a batch keeps entries numbered. -/
theorem keepsNumbered_acknowledge (quiet : c.client.Guarantees (SameCounter c.generator))
    (destination : String) (handles : List String) :
    (c.recorded.acknowledger.action destination handles).Guarantees (KeepsNumbered c.generator) :=
  (indifferent_keepsNumbered c.generator 0).acknowledge_of fun _ hk ↦
    keepsNumbered_call (.delete destination) (fun _ ↦ rfl) (quiet.delete destination) hk none
      handles

/-- Handing a batch back keeps entries numbered. -/
theorem keepsNumbered_handBack (quiet : c.client.Guarantees (SameCounter c.generator))
    (destination : String) (handles : List String) :
    (c.recorded.negativeAcknowledger.action destination handles).Guarantees
      (KeepsNumbered c.generator) :=
  (indifferent_keepsNumbered c.generator 0).handBack_of fun timeout _ _ hk ↦
    keepsNumbered_call (.changeVisibility destination) (fun _ ↦ rfl)
      (quiet.changeVisibility destination) hk (some timeout) handles

/-- A step that hands nothing over: it only fills a queue, finds none or mixed destinations, or
leaves the visibility to the queue. -/
def Connection.Idle (c : Connection (QueueClient ε)) (w : World ε) : CallerStep → Prop
  | .fill .. => True
  | .ack q destination => w.queues q = [] ∨ ∃ item ∈ w.queues q, item.destination ≠ destination
  | .nack q destination =>
    w.queues q = [] ∨ (∃ item ∈ w.queues q, item.destination ≠ destination) ∨
      ∃ delay, c.policy = some ⟨.queueDelay, delay⟩

/-- An idle step draws no number. -/
theorem sameCounter_of_idle (g : GeneratorId) {w : World ε} {s : CallerStep} (h : c.Idle w s) :
    SameCounter g w ((c.perform s).apply w).2 := by
  have hd {d : Dispatcher ε} {q : QueueId} {destination operation : String}
      (hw : w.queues q = [] ∨ ∃ item ∈ w.queues q, item.destination ≠ destination) :
      SameCounter g w ((Action.within (operationContext destination operation)
        (d.dispatch q destination)).apply w).2 := by
    have hi := d.state_dispatch_of_idle
      (w := w.setContext (w.log.context.overlay (operationContext destination operation))) hw
    have hc := congrArg (fun v : World ε ↦ v.counters g) hi
    exact hc
  cases s with
  | fill q items => rfl
  | ack q destination => exact hd h
  | nack q destination =>
    rcases h with h | h | ⟨delay, hp⟩
    · exact hd (.inl h)
    · exact hd (.inr h)
    · have steady := indifferent_sameCounter (ε := ε) g q
      refine steady.within _ (steady.dispatch fun handles ↦ ?_) w
      refine steady.handBack_of (n := c.negativeAcknowledger) fun timeout ht ↦ ?_
      have hr : resolveDelay c.policy = none := resolveDelay_eq_none_iff.mpr ⟨delay, hp⟩
      exact absurd (hr.symm.trans ht) (Option.some_ne_none timeout).symm

/-- A run keeps entries numbered. -/
theorem numbered_run (quiet : c.client.Guarantees (SameCounter c.generator))
    (steps : List CallerStep) {w : World (ε × List BatchCall)} (h : Numbered c.generator w) :
    Numbered c.generator (c.recorded.run steps w) := by
  have step (s : CallerStep) : (c.recorded.perform s).Guarantees (KeepsNumbered c.generator) :=
    Connection.perform_guarantees (indifferent_keepsNumbered c.generator)
      (keepsNumbered_acknowledge quiet) (keepsNumbered_handBack quiet) s
  exact (indifferent_keepsNumbered c.generator 0).runAll step steps w h

end Connection

/-- The entries that a connection hands to its client are numbered from zero in the order in which
they are handed over: every identifier is used once, later ones are larger, and steps that hand
nothing over use none up. Leaving the record aside, the recorded run is the run itself. -/
theorem ids_numbered (client : QueueClient ε) (policy : Option RetryPolicy) (prefetchSize : Int)
    (steps : List CallerStep) (w : World ε)
    (quiet : client.Guarantees (SameCounter (.own w.generators))) :
    ∃ c opened, (Connection.make client policy prefetchSize).apply w = (.ok c, opened) ∧
      let w' := c.recorded.run steps (opened.remember [])
      w'.forget = c.run steps opened ∧
      (∀ (m : Nat) (e : BatchEntry), w'.handed[m]? = some e → e.id = m.repr) ∧
      (w'.handed.map BatchEntry.id).Nodup ∧
      (w'.handed.Pairwise fun e e' ↦ ∃ m n : Nat, e.id = m.repr ∧ e'.id = n.repr ∧ m < n) ∧
      ∀ v s, c.Idle v s → SameCounter c.generator v ((c.perform s).apply v).2 := by
  let c : Connection (QueueClient ε) := ⟨client, policy, prefetchSize, .own w.generators⟩
  have start : Numbered c.generator (World.remember
      { w.setCounter c.generator 0 with generators := w.generators + 1 } []) :=
    numbered_remember_nil (World.counters_setCounter_self w c.generator 0)
  have numbered := numbered_run (c := c) quiet steps start
  exact ⟨c, _, rfl, c.forget_run_recorded steps _, fun _ _ ↦ numbered.id_of_getElem?,
    numbered.nodup, numbered.pairwise, fun _ _ ↦ sameCounter_of_idle c.generator⟩

/-- A client whose first call is the only one that does not fail. -/
private def faltering : QueueClient Nat where
  changeVisibility destination _ := Action.ofBackend fun n ↦
    (if n = 0 then .ok { destination } else .error .halfCredentials, n + 1)
  delete destination _ := Action.ofBackend fun n ↦
    (if n = 0 then .ok { destination } else .error .halfCredentials, n + 1)

/-- Two batches of which the second one fails, an empty queue, mixed destinations, and one item. -/
private def falteringSteps : List CallerStep :=
  [.fill 0 ((List.replicate 11 "a").map fun h ↦ ⟨h, "orders", ""⟩),
    .ack 0 "orders",
    .nack 0 "orders",
    .fill 0 [⟨"b", "bills", ""⟩],
    .ack 0 "orders",
    .nack 0 "bills"]

/-- Along the example steps the last item is entry eleven, although the call before it failed. -/
theorem ids_numbered_faltering :
    faltering.Guarantees (SameCounter (.own 0)) ∧
    ∃ c opened, (Connection.make faltering none).apply { outside := 0 } = (.ok c, opened) ∧
      (c.recorded.run falteringSteps (opened.remember [])).handed.map BatchEntry.receiptHandle =
        List.replicate 11 "a" ++ ["b"] ∧
      ∃ e, (c.recorded.run falteringSteps (opened.remember [])).handed[11]? = some e ∧
        e.id = "11" := by
  have quiet : faltering.Guarantees (SameCounter (.own 0)) := ⟨fun _ _ _ ↦ rfl, fun _ _ _ ↦ rfl⟩
  obtain ⟨c, opened, h, -, hm, -⟩ := ids_numbered faltering none minBatch falteringSteps
    { outside := 0 } quiet
  cases h
  refine ⟨quiet, _, _, rfl, by decide +kernel, ⟨"11", "b", some 0⟩, by decide +kernel, ?_⟩
  exact hm 11 _ (by decide +kernel)

end QueueAck
