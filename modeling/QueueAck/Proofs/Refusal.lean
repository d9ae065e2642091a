import QueueAck.Proofs.Caller
import QueueAck.Proofs.Dispatch.Serve
import QueueAck.Proofs.Submission

/-!
# Refusing mixed destinations

A dispatch looks at the destinations of all items before it takes the first one. Where one of them
is another destination than that of the dispatch, wherever it stands in the queue, the dispatch is
refused, and the whole state is as if there had been none (`mixed_destinations_refused`). A caller
of a connection may therefore leave out the steps that are refused (`Connection.run_accepted`).
-/

namespace QueueAck

variable {ε α β : Type}

/-- The first item of a queue that belongs to another destination. -/
def FirstStray (destination : String) (items : List PendingItem) (item : PendingItem) : Prop :=
  ∃ before after, items = before ++ item :: after ∧
    (∀ earlier ∈ before, earlier.destination = destination) ∧ item.destination ≠ destination

/-- The first item of another destination is the one that a search finds. -/
theorem find?_stray_iff {destination : String} {items : List PendingItem} {item : PendingItem} :
    items.find? (fun item ↦ item.destination != destination) = some item ↔
      FirstStray destination items item := by
  rw [List.find?_eq_some_iff_append, FirstStray]
  constructor
  · rintro ⟨stray, before, after, rfl, earlier⟩
    exact ⟨before, after, rfl, by simpa using earlier, by simpa using stray⟩
  · rintro ⟨before, after, rfl, earlier, stray⟩
    exact ⟨by simpa using stray, before, after, rfl, by simpa using earlier⟩

/-- Among items of which some belong to another destination there is a first one that does. -/
theorem exists_firstStray {destination : String} {items : List PendingItem}
    (h : ∃ item ∈ items, item.destination ≠ destination) :
    ∃ item, FirstStray destination items item := by
  cases hf : items.find? fun item ↦ item.destination != destination with
  | some item => exact ⟨item, find?_stray_iff.mp hf⟩
  | none =>
    obtain ⟨item, hi, stray⟩ := h
    exact absurd (Dispatcher.find?_eq_none_iff.mp hf item hi) stray

/-- The failure with which a dispatch to a destination refuses an item. -/
def PendingItem.refusal (item : PendingItem) (destination : String) : Failure :=
  .mixedDestinations item.receiptHandle item.destination destination

/-- The failure says that destinations are mixed. -/
def Failure.IsRefusal (f : Failure) : Prop :=
  ∃ item destination, f = PendingItem.refusal item destination

/-- Whenever the action fails, its failure and the state that it leaves are as they should be. -/
def Action.FailsWith (P : Failure → World ε → Prop) (a : Action ε α) : Prop :=
  ∀ w f, (a.apply w).1 = .error f → P f (a.apply w).2

namespace Action.FailsWith

variable {P : Failure → World ε → Prop}

/-- An action that does not fail. -/
theorem of_ok {a : Action ε α} (h : ∀ w, ∃ x, (a.apply w).1 = .ok x) : a.FailsWith P := by
  intro w f hf
  obtain ⟨x, hx⟩ := h w
  rw [hx] at hf
  cases hf

/-- Two actions fail as each of them does. -/
theorem bind {a : Action ε α} {k : α → Action ε β} (ha : a.FailsWith P)
    (hk : ∀ x, (k x).FailsWith P) : (a >>= k).FailsWith P := by
  intro w f failed
  have first := ha w
  rw [apply_bind] at failed ⊢
  rcases hr : a.apply w with ⟨g | x, v⟩
  · rw [hr] at first failed
    obtain rfl : g = f := Except.error.inj failed
    exact first g rfl
  · rw [hr] at failed
    exact hk x v f failed

/-- Draining a queue fails as handing a batch over does, unless the queue has no end. -/
theorem drain {d : Dispatcher ε} {q : QueueId} {destination : String}
    (endless : ∀ w, P .endlessQueue w)
    (batch : ∀ handles, (d.flush destination handles).FailsWith P) (fuel : Nat)
    (handles : List String) (results : List BatchResult) :
    (d.drain q destination fuel handles results).FailsWith P := by
  have popped : (Action.popFront q : Action ε (Option PendingItem)).FailsWith P := by
    refine of_ok fun w ↦ ?_
    simp only [Action.popFront, apply_ofFunction]
    cases w.queues q <;> exact ⟨_, rfl⟩
  induction fuel generalizing handles results with
  | zero =>
    intro w f hf
    cases hf
    exact endless w
  | succ fuel ih =>
    refine popped.bind fun item ↦ ?_
    cases item with
    | none =>
      dsimp only
      split
      · exact of_ok fun _ ↦ ⟨results, rfl⟩
      · exact (batch handles).bind fun _ ↦ of_ok fun _ ↦ ⟨_, rfl⟩
    | some item =>
      dsimp only
      split
      · exact (batch _).bind fun _ ↦ ih _ _
      · exact ih _ _

end Action.FailsWith

namespace Dispatcher

variable {d : Dispatcher ε} {q : QueueId} {destination : String} {w : World ε}

/-- A dispatch of items of its destination fails as handing a batch over does, unless the queue has
no end. -/
theorem dispatch_fails_with {P : Failure → World ε → Prop} (endless : ∀ w, P .endlessQueue w)
    (batch : ∀ handles, (d.flush destination handles).FailsWith P)
    (same : ∀ item ∈ w.queues q, item.destination = destination) {f : Failure}
    (failed : ((d.dispatch q destination).apply w).1 = .error f) :
    P f ((d.dispatch q destination).apply w).2 := by
  have drained : (d.dispatch q destination).apply w =
      (d.drain q destination ((w.queues q).length + 1 + w.patience) [] []).apply w := by
    rw [dispatch, Action.apply_bind, Action.apply_read]
    simp only [find?_eq_none_iff.mpr same]
    rw [Action.apply_bind, Action.apply_read]
  rw [drained] at failed ⊢
  exact Action.FailsWith.drain endless batch _ _ _ w f failed

/-- A dispatch fails for mixed destinations before its action was called exactly when there is an
item of another destination. -/
theorem refuses_uncalled_iff :
    (∃ f w', (d.recorded.dispatch q destination).apply (w.remember []) = (.error f, w') ∧
      f.IsRefusal ∧ w'.record = []) ↔ ∃ item ∈ w.queues q, item.destination ≠ destination := by
  constructor
  · rintro ⟨f, w', refused, ⟨item, other, rfl⟩, uncalled⟩
    by_contra same
    push Not at same
    -- Every batch that is handed over is written down, also the one that fails.
    have batch (handles : List String) : (d.recorded.flush destination handles).FailsWith
        fun f v ↦ f = .endlessQueue ∨ v.record ≠ [] :=
      fun v g _ ↦ .inr (List.append_ne_nil_of_right_ne_nil _ (List.cons_ne_nil handles []))
    have failed := dispatch_fails_with (d := d.recorded) (w := w.remember [])
      (fun _ ↦ .inl rfl) batch same (congrArg Prod.fst refused)
    rw [refused] at failed
    rcases failed with endless | called
    · cases endless
    · exact called uncalled
  · intro h
    obtain ⟨item, first⟩ := exists_firstStray h
    exact ⟨_, _, dispatch_of_find?_eq_some (w := w.remember []) (find?_stray_iff.mpr first),
      ⟨item, destination, rfl⟩, rfl⟩

/-- When its action does not do so itself, a dispatch fails for mixed destinations exactly when
there is an item of another destination. -/
theorem refuses_iff
    (other : ∀ handles, (d.action destination handles).FailsWith fun f _ ↦ ¬f.IsRefusal) :
    (∃ f, ((d.dispatch q destination).apply w).1 = .error f ∧ f.IsRefusal) ↔
      ∃ item ∈ w.queues q, item.destination ≠ destination := by
  constructor
  · rintro ⟨f, refused, refusal⟩
    by_contra same
    push Not at same
    have endless : ¬(Failure.endlessQueue).IsRefusal := by
      rintro ⟨item, other, h⟩
      cases h
    have batch (handles : List String) :
        (d.flush destination handles).FailsWith fun f _ ↦ ¬f.IsRefusal :=
      .bind (.of_ok fun _ ↦ ⟨(), rfl⟩) fun _ ↦ other handles
    exact dispatch_fails_with (fun _ ↦ endless) batch same refused refusal
  · intro h
    obtain ⟨item, first⟩ := exists_firstStray h
    exact ⟨_, congrArg Prod.fst (dispatch_of_find?_eq_some (find?_stray_iff.mpr first)),
      item, destination, rfl⟩

end Dispatcher

/-- The step is refused in a state: it settles a queue of which some item belongs to another
destination. -/
def CallerStep.isRefused (s : CallerStep) (w : World ε) : Bool :=
  match s with
  | .fill .. => false
  | .ack q destination => (w.queues q).any fun item ↦ item.destination != destination
  | .nack q destination => (w.queues q).any fun item ↦ item.destination != destination

namespace Connection

variable {c : Connection (QueueClient ε)} {q : QueueId} {destination : String} {w : World ε}

/-- Settling a queue with an item of another destination is refused, and changes nothing. -/
theorem settle_of_firstStray {item : PendingItem}
    (first : FirstStray destination (w.queues q) item) (k : Settlement) :
    (c.settle k q destination).apply w = (.error (item.refusal destination), w) := by
  let v := w.setContext (w.log.context.overlay (operationContext destination k.operation))
  have refused : ((c.dispatcher k).dispatch q destination).apply v =
      (.error (item.refusal destination), v) :=
    Dispatcher.dispatch_of_find?_eq_some (find?_stray_iff.mpr first)
  rw [apply_settle, refused]
  rfl

/-- A step that is refused changes nothing. -/
theorem state_perform_of_isRefused {s : CallerStep} (h : s.isRefused w = true) :
    ((c.perform s).apply w).2 = w := by
  have settled (k : Settlement) (q : QueueId) (destination : String)
      (h : ((w.queues q).any fun item ↦ item.destination != destination) = true) :
      ((c.settle k q destination).apply w).2 = w := by
    obtain ⟨item, first⟩ := exists_firstStray (by simpa using h)
    rw [settle_of_firstStray first]
  cases s with
  | fill q items => cases h
  | ack q destination => exact settled .ack q destination h
  | nack q destination => exact settled .nack q destination h

/-- The steps of a run that are not refused. -/
def accepted (c : Connection (QueueClient ε)) (steps : List CallerStep) (w : World ε) :
    List (CallerStep × World ε) :=
  (c.history steps w).filter fun taken ↦ !taken.1.isRefused taken.2

/-- A refused step is left out, and the others are accepted from the state in which it was. -/
theorem accepted_cons (s : CallerStep) (steps : List CallerStep) (w : World ε) :
    c.accepted (s :: steps) w =
      if s.isRefused w then c.accepted steps w
      else (s, w) :: c.accepted steps ((c.perform s).apply w).2 := by
  rw [accepted, history, List.filter_cons]
  cases h : s.isRefused w with
  | true =>
    rw [state_perform_of_isRefused h]
    rfl
  | false => rfl

/-- Without the steps that are refused, the others are taken in the same states, and the run leads
to the same state. -/
theorem run_accepted (c : Connection (QueueClient ε)) (steps : List CallerStep) (w : World ε) :
    let others := (c.accepted steps w).map Prod.fst
    c.history others w = c.accepted steps w ∧ c.run others w = c.run steps w := by
  induction steps generalizing w with
  | nil => exact ⟨rfl, rfl⟩
  | cons s steps ih =>
    dsimp only
    rw [accepted_cons]
    cases h : s.isRefused w with
    | true =>
      have stays : c.run (s :: steps) w = c.run steps w := by
        rw [run, Action.runAll_cons, state_perform_of_isRefused h]
      rw [if_pos rfl, stays]
      exact ih w
    | false =>
      obtain ⟨history, after⟩ := ih ((c.perform s).apply w).2
      rw [if_neg Bool.false_ne_true, List.map_cons]
      exact ⟨congrArg _ history, after⟩

/-- The steps of a recorded run are those of the run itself, in the same states but for the
record. -/
theorem history_recorded (c : Connection (QueueClient ε)) (steps : List CallerStep)
    (w : World (ε × List BatchCall)) :
    (c.recorded.history steps w).map (fun taken ↦ (taken.1, taken.2.forget)) =
      c.history steps w.forget := by
  induction steps generalizing w with
  | nil => rfl
  | cons s steps ih =>
    have after : ((c.recorded.perform s).apply w).2.forget = ((c.perform s).apply w.forget).2 :=
      congrArg Prod.snd (c.recorded_perform_shadows s w)
    rw [history, List.map_cons, ih, after]
    rfl

/-- The same steps are accepted when the calls on the client are written down. -/
theorem map_fst_accepted_recorded (c : Connection (QueueClient ε)) (steps : List CallerStep)
    (w : World (ε × List BatchCall)) :
    (c.recorded.accepted steps w).map Prod.fst = (c.accepted steps w.forget).map Prod.fst := by
  have queues (s : CallerStep) (v : World (ε × List BatchCall)) :
      s.isRefused v.forget = s.isRefused v := by
    cases s <;> rfl
  rw [accepted, accepted, ← history_recorded, List.filter_map, List.map_map]
  simp only [Function.comp_def, queues]

end Connection

/-- A dispatch fails for mixed destinations, without a call of its action, exactly when some item of
the queue belongs to another destination; and exactly then it fails for them at all, when the action
does not do so itself. The failure names the first such item, and nothing has changed: no batch was
handed to the action, and the state is the one from before. The same holds for settling a queue on
any connection, whose client is not called; the later run is what it would have been, so that the
steps which are refused may be left out of any run. -/
theorem mixed_destinations_refused (q : QueueId) (destination : String) (w : World ε) :
    (∀ d : Dispatcher ε,
      ((∃ f w', (d.recorded.dispatch q destination).apply (w.remember []) = (.error f, w') ∧
          f.IsRefusal ∧ w'.record = []) ↔
        ∃ item ∈ w.queues q, item.destination ≠ destination) ∧
      ((∀ handles, (d.action destination handles).FailsWith fun f _ ↦ ¬f.IsRefusal) →
        ((∃ f, ((d.dispatch q destination).apply w).1 = .error f ∧ f.IsRefusal) ↔
          ∃ item ∈ w.queues q, item.destination ≠ destination))) ∧
    ((∃ item ∈ w.queues q, item.destination ≠ destination) →
      ∃ item, FirstStray destination (w.queues q) item ∧
        let f := item.refusal destination
        f.kind = "SQSMessagingException" ∧
        f.message = "The item " ++ item.receiptHandle ++ " belongs to " ++ item.destination ++
          ", it cannot be dispatched to " ++ destination ++ "." ∧
        (∀ d : Dispatcher ε, (d.dispatch q destination).apply w = (.error f, w) ∧
          ∀ calls, (d.recorded.dispatch q destination).apply (w.remember calls) =
            (.error f, w.remember calls)) ∧
        ∀ (c : Connection (QueueClient ε)) (k : Settlement),
          (c.settle k q destination).apply w = (.error f, w) ∧
          ∀ calls, (c.recorded.settle k q destination).apply (w.remember calls) =
            (.error f, w.remember calls)) ∧
    ∀ (c : Connection (QueueClient ε)) (steps : List CallerStep),
      let others := (c.accepted steps w).map Prod.fst
      c.history others w = c.accepted steps w ∧ c.run others w = c.run steps w ∧
        c.recorded.run others (w.remember []) = c.recorded.run steps (w.remember []) := by
  refine ⟨fun d ↦ ⟨Dispatcher.refuses_uncalled_iff, Dispatcher.refuses_iff⟩, fun h ↦ ?_,
    fun c steps ↦ ?_⟩
  · obtain ⟨item, first⟩ := exists_firstStray h
    have found := find?_stray_iff.mpr first
    refine ⟨item, first, rfl, rfl, fun d ↦ ⟨?_, fun calls ↦ ?_⟩, fun c k ↦ ⟨?_, fun calls ↦ ?_⟩⟩
    · exact Dispatcher.dispatch_of_find?_eq_some found
    · exact Dispatcher.dispatch_of_find?_eq_some (w := w.remember calls) found
    · exact Connection.settle_of_firstStray first k
    · exact Connection.settle_of_firstStray (c := c.recorded) (w := w.remember calls) first k
  · obtain ⟨history, after⟩ := c.run_accepted steps w
    have recorded := (c.recorded.run_accepted steps (w.remember [])).2
    rw [c.map_fst_accepted_recorded] at recorded
    exact ⟨history, after, recorded⟩

/-- Two full batches of orders, and a bill and a refund behind them. -/
private def lateStrays : World Nat :=
  World.setQueue { outside := 0 } 0
    ((["a", "b", "c", "d"].map fun h ↦ ⟨h, "orders", ""⟩) ++
      [⟨"e", "bills", ""⟩, ⟨"f", "refunds", ""⟩])

/-- A connection to a client that counts the calls on it. -/
private def tallying : Connection (QueueClient Nat) where
  client :=
    { changeVisibility destination _ := Action.ofBackend fun n ↦ (.ok { destination }, n + 1)
      delete destination _ := Action.ofBackend fun n ↦ (.ok { destination }, n + 1) }
  policy := some { mode := .defaultDelay }
  prefetchSize := 10
  generator := .own 0

/-- Two refusals, and an acknowledgement after other items were filled in. -/
private def refusedSteps : List CallerStep :=
  [.nack 0 "orders", .ack 0 "orders", .fill 0 [⟨"g", "orders", ""⟩], .ack 0 "orders"]

/-- The bill behind two batches is named, whatever the dispatcher, and the first two steps of the
run leave no trace in it. -/
theorem mixed_destinations_refused_late :
    let f := PendingItem.refusal ⟨"e", "bills", ""⟩ "orders"
    (∀ d : Dispatcher Nat, (d.dispatch 0 "orders").apply lateStrays = (.error f, lateStrays)) ∧
    (tallying.settle .nack 0 "orders").apply lateStrays = (.error f, lateStrays) ∧
    tallying.recorded.run (refusedSteps.drop 2) (lateStrays.remember []) =
      tallying.recorded.run refusedSteps (lateStrays.remember []) ∧
    (tallying.recorded.run refusedSteps (lateStrays.remember [])).record =
      [.delete "orders" [⟨"0", "g", none⟩]] := by
  obtain ⟨-, refused, later⟩ := mixed_destinations_refused 0 "orders" lateStrays
  obtain ⟨item, first, -, -, dispatched, settled⟩ :=
    refused ⟨⟨"e", "bills", ""⟩, by decide +kernel, by decide⟩
  obtain rfl : ⟨"e", "bills", ""⟩ = item := Option.some.inj (find?_stray_iff.mpr first)
  have steps : (tallying.accepted refusedSteps lateStrays).map Prod.fst = refusedSteps.drop 2 := by
    decide +kernel
  have run := (later tallying refusedSteps).2.2
  rw [steps] at run
  exact ⟨fun d ↦ (dispatched d).1, (settled tallying .nack).1, run, by decide +kernel⟩

end QueueAck
