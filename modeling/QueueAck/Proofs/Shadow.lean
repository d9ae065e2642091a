import QueueAck.Proofs.Agreement
import QueueAck.Proofs.Recording

/-!
# Recorded actions as shadows

An action that keeps a record shadows one that keeps none: leaving the record aside, the two have
one outcome and one effect, so that they agree. A client whose calls or results are written down
(`QueueClient.Shadows`) can therefore stand in for the client itself in a dispatch.
-/

namespace QueueAck

variable {ε σ α β : Type}

/-- Leaving the record aside, the one action does what the other does. -/
def Action.Shadows (a' : Action (ε × σ) α) (a : Action ε α) : Prop :=
  ∀ w, ((a'.apply w).1, (a'.apply w).2.forget) = a.apply w.forget

/-- Leaving a record aside is a matter of the backends alone. -/
theorem parallel_forget : Parallel fun (w' : World (ε × σ)) (w : World ε) ↦ w'.forget = w where
  queues h := h ▸ rfl
  counters h := h ▸ rfl
  patience h := h ▸ rfl
  log h := h ▸ rfl
  setQueue h _ _ := h ▸ rfl
  setCounter h _ _ := h ▸ rfl
  setLog h _ := h ▸ rfl

namespace Action.Shadows

/-- A shadow agrees with what it shadows. -/
theorem agrees {a' : Action (ε × σ) α} {a : Action ε α} (h : a'.Shadows a) :
    a'.Agrees (fun w' w ↦ w'.forget = w) a := by
  rintro w' w rfl
  exact Prod.mk.inj (h w')

/-- An action that agrees with another one shadows it. -/
theorem of_agrees {a' : Action (ε × σ) α} {a : Action ε α}
    (h : a'.Agrees (fun w' w ↦ w'.forget = w) a) : a'.Shadows a := by
  intro w
  obtain ⟨outcome, after⟩ := h w w.forget rfl
  exact Prod.ext outcome after

/-- What is noted is shadowed by the noting. -/
theorem noting {σ : Type} (note : σ) (a : Action ε α) : (a.noting note).Shadows a := fun _ ↦ rfl

/-- What is kept is shadowed by the keeping. -/
theorem keeping (a : Action ε α) : a.keeping.Shadows a := fun _ ↦ rfl

/-- Inside a context a shadow stays one. -/
theorem within {a' : Action (ε × σ) α} {a : Action ε α} (ha : a'.Shadows a)
    (fields : List (String × Value)) :
    (Action.within fields a').Shadows (Action.within fields a) :=
  of_agrees ((parallel_forget.coupledOn 0).within fields ha.agrees)

/-- A dispatch with a shadow of an action is a shadow of the dispatch with the action. -/
theorem dispatch {d' : Dispatcher (ε × σ)} {d : Dispatcher ε} {destination : String}
    (hs : d'.size = d.size)
    (ha : ∀ handles, (d'.action destination handles).Shadows (d.action destination handles))
    (q : QueueId) : (d'.dispatch q destination).Shadows (d.dispatch q destination) :=
  of_agrees ((parallel_forget.coupledOn q).dispatch hs fun handles _ ↦ (ha handles).agrees)

/-- A run of shadows is a shadow of the run. -/
theorem forget_runAll {S : Type} {perform' : S → Action (ε × σ) α} {perform : S → Action ε α}
    (h : ∀ s, (perform' s).Shadows (perform s)) (steps : List S) (w : World (ε × σ)) :
    (runAll perform' steps w).forget = runAll perform steps w.forget :=
  (run_agrees (fun s ↦ (h s).agrees) steps rfl).2

/-- Next to what it shadows, a shadow has the same outcome, and a state with a record besides. -/
theorem apply_remember {a' : Action (ε × σ) α} {a : Action ε α} (h : a'.Shadows a) (w : World ε)
    (earlier : σ) :
    a'.apply (w.remember earlier) =
      ((a.apply w).1, (a.apply w).2.remember (a'.apply (w.remember earlier)).2.record) := by
  rw [← World.forget_remember w earlier, ← h (w.remember earlier)]
  rfl

end Action.Shadows

namespace QueueClient

/-- Both calls on the one client shadow those on the other. -/
structure Shadows (client' : QueueClient (ε × σ)) (client : QueueClient ε) : Prop where
  /-- Changing visibility timeouts does. -/
  changeVisibility : ∀ destination entries,
    (client'.changeVisibility destination entries).Shadows
      (client.changeVisibility destination entries)
  /-- Deleting does. -/
  delete : ∀ destination entries,
    (client'.delete destination entries).Shadows (client.delete destination entries)

/-- A client whose calls are written down shadows the client. -/
theorem recorded_shadows (client : QueueClient ε) : client.recorded.Shadows client :=
  ⟨fun _ _ ↦ .noting _ _, fun _ _ ↦ .noting _ _⟩

/-- A client whose results are kept shadows the client. -/
theorem keeping_shadows (client : QueueClient ε) : client.keeping.Shadows client :=
  ⟨fun _ _ ↦ .keeping _, fun _ _ ↦ .keeping _⟩

variable {client' : QueueClient (ε × σ)} {client : QueueClient ε}

/-- Deleting a batch with a shadow of a client shadows deleting it with the client. -/
theorem Shadows.acknowledge (h : client'.Shadows client) (g : GeneratorId)
    (destination : String) (handles : List String) :
    (Acknowledger.action ⟨client', g⟩ destination handles).Shadows
      (Acknowledger.action ⟨client, g⟩ destination handles) :=
  .of_agrees
    (((parallel_forget.coupledOn 0).numbersAlike g).acknowledge fun _ _ _ _ ↦ (h.delete _ _).agrees)

/-- Handing a batch back with a shadow of a client shadows handing it back with the client. -/
theorem Shadows.handBack (h : client'.Shadows client) (policy : Option RetryPolicy)
    (g : GeneratorId) (destination : String) (handles : List String) :
    (NegativeAcknowledger.action ⟨client', policy, g⟩ destination handles).Shadows
      (NegativeAcknowledger.action ⟨client, policy, g⟩ destination handles) :=
  .of_agrees
    (((parallel_forget.coupledOn 0).numbersAlike g).handBack fun _ _ _ _ _ _ ↦
      (h.changeVisibility _ _).agrees)

/-- Acknowledging a queue with a shadow of a client shadows acknowledging it with the client. -/
theorem Shadows.acknowledgeAll (h : client'.Shadows client) (g : GeneratorId) (q : QueueId)
    (destination : String) :
    (Acknowledger.bulk ⟨client', g⟩ q destination).Shadows
      (Acknowledger.bulk ⟨client, g⟩ q destination) :=
  .within (.dispatch rfl (h.acknowledge g destination) q) _

/-- Handing a queue back with a shadow of a client shadows handing it back with the client. -/
theorem Shadows.handBackAll (h : client'.Shadows client) (policy : Option RetryPolicy)
    (g : GeneratorId) (q : QueueId) (destination : String) :
    (NegativeAcknowledger.bulk ⟨client', policy, g⟩ q destination).Shadows
      (NegativeAcknowledger.bulk ⟨client, policy, g⟩ q destination) :=
  .within (.dispatch rfl (h.handBack policy g destination) q) _

end QueueClient
end QueueAck
