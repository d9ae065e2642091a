import QueueAck.Proofs.Log.Discreet
import QueueAck.Proofs.Log.Emission

/-!
# Labels of what is logged

Whatever is logged has the context of the thread, once the logger is set up. `Labelled` is the
conduct of an action that logs nothing else and leaves the context as it is. Discreet clients
conduct themselves in this way, and so does a dispatch. What a run logs is then labelled with its
destination and its operation, and the context of before is there again in the end
(`records_labelled`).
-/

namespace QueueAck

variable {ε : Type}

/-- Every handler fills in the context. -/
def Log.Logger.FillsContext (l : Log.Logger) : Prop := ∀ h ∈ l.handlers, h.filters ≠ []

/-- The logger that is set up fills in the context. -/
theorem Log.Logger.fillsContext_configure {env : Environment} {l l' : Log.Logger}
    (h : l.configure env = .ok l') : l'.FillsContext := by
  obtain ⟨formatter, hf⟩ := handlers_configure h
  intro handler hm
  rw [hf, List.mem_singleton] at hm
  rw [hm]
  exact List.cons_ne_nil _ _

/-- What was logged has the context of the thread, which is what it was. -/
structure Log.State.Labels (l l' : Log.State) : Prop where
  /-- The logger is the same. -/
  logger : l'.logger = l.logger
  /-- The context is the same. -/
  context : l'.context = l.context
  /-- The new records have it. -/
  records : ∃ logged, l'.records = l.records ++ logged ∧
    ∀ r ∈ logged, r.context = some (.record l.context)

namespace Log.State.Labels

variable {l m n : Log.State}

/-- Nothing is logged. -/
theorem refl (l : Log.State) : l.Labels l := ⟨rfl, rfl, [], (List.append_nil _).symm, by simp⟩

/-- What is logged in two steps. -/
theorem trans (first : l.Labels m) (later : m.Labels n) : l.Labels n := by
  obtain ⟨xs, hxs, labelled⟩ := first.records
  obtain ⟨ys, hys, labelled'⟩ := later.records
  refine ⟨later.logger.trans first.logger, later.context.trans first.context, xs ++ ys, ?_, ?_⟩
  · rw [hys, hxs, List.append_assoc]
  · rw [first.context] at labelled'
    exact List.forall_mem_append.mpr ⟨labelled, labelled'⟩

/-- A message of the library gets the context of the thread. -/
theorem report (h : l.logger.FillsContext) (s : Site) (level : Int) (text : String)
    (exception : Option Trace) : l.Labels (l.report (s.record level text exception)) := by
  obtain ⟨logger, context⟩ := l.report_keeps (s.record level text exception)
  refine ⟨logger, context, _, l.records_report _, fun r hr ↦ ?_⟩
  split at hr
  · obtain ⟨handler, hm, rfl⟩ := List.mem_map.mp hr
    have some : handler.filters.isEmpty = false := by simpa using h handler hm
    rw [l.filtered_eq, some]
    rfl
  · cases hr

end Log.State.Labels

/-- The conduct of what logs nothing but records with the context of the thread. -/
def Labelled (w : World ε) (_ : Option Failure) (w' : World ε) : Prop :=
  w.log.logger.FillsContext → w.log.Labels w'.log

namespace Labelled

/-- What leaves the log as it is. -/
theorem of_log_eq {w w' : World ε} {o : Option Failure} (h : w'.log = w.log) : Labelled w o w' :=
  fun _ ↦ h ▸ .refl w.log

/-- Taking items and logging messages of the library are parts of the conduct. -/
theorem lenient (q : QueueId) : Lenient (Labelled (ε := ε)) q where
  refl _ := of_log_eq rfl
  fail _ _ := of_log_eq rfl
  trans first later h := (first h).trans (later ((first h).logger ▸ h))
  report _ s level text _ h := .report h s level text none
  queue _ _ := of_log_eq rfl

/-- It is about the log alone, and clients may log. -/
theorem loggable : Loggable (Labelled (ε := ε)) :=
  { (lenient 0).toLasting with
    keeps := fun _ ↦ of_log_eq
    report := fun {s} _ _ level text exception h ↦ .report h s level text exception }

end Labelled

/-- Inside the context of an operation the destination and the operation are those of the operation,
and all other names have their values. -/
theorem Context.lookup_overlay_operationContext (c : Context)
    (destination operation name : String) :
    (c.overlay (operationContext destination operation)).lookup name =
      if name = "destination" then some (.text destination)
      else if name = "operation" then some (.text operation)
      else c.lookup name := by
  rw [lookup_overlay]
  change (List.lookup name [("operation", _), ("destination", _)]).or _ = _
  rw [List.lookup_cons, List.lookup_cons, List.lookup_nil]
  by_cases hd : name = "destination"
  · rw [hd]
    rfl
  · by_cases ho : name = "operation"
    · rw [ho]
      rfl
    · rw [if_neg hd, if_neg ho, beq_false_of_ne hd, beq_false_of_ne ho]
      rfl

/-- Inside the context of an operation the names that were there keep their places. -/
theorem Context.keys_overlay_operationContext (c : Context) (destination operation : String) :
    (c.overlay (operationContext destination operation)).keys =
      c.keys ++ ["destination", "operation"].filter fun name ↦ !c.keys.contains name := by
  rw [keys_overlay]
  change _ ++ (List.filter _ ["destination", "operation"]).eraseDups = _
  -- at most the two names are left, and they differ
  cases hd : c.keys.contains "destination" <;> cases ho : c.keys.contains "operation" <;>
    simp only [List.filter_cons, List.filter_nil, hd, ho] <;> rfl

/-- What a run on a queue logs, whatever the service does and however the run ends, is labelled with
the context of before, overlaid with the destination and the operation: both replace what had their
names, at its place. In the end the context of before is there again. -/
theorem records_labelled {env : Environment} {l : Log.Logger} {w : World ε}
    (configured : l.configure env = .ok w.log.logger) {client : QueueClient ε}
    (discreet : client.Discreet) (policy : Option RetryPolicy) (prefetchSize : Int)
    (generator : GeneratorId) (k : Settlement) (q : QueueId) (destination : String) :
    let c : Connection (QueueClient ε) := { client, policy, prefetchSize, generator }
    let w' := ((c.settle k q destination).apply w).2
    let label := w.log.context.overlay (operationContext destination k.operation)
    w'.log.context = w.log.context ∧
    (∃ logged, w'.log.records = w.log.records ++ logged ∧
      ∀ r ∈ logged, r.context = some (.record label)) ∧
    (∀ name, label.lookup name =
      if name = "destination" then some (.text destination)
      else if name = "operation" then some (.text k.operation)
      else w.log.context.lookup name) ∧
    label.keys = w.log.context.keys ++
      ["destination", "operation"].filter fun name ↦ !w.log.context.keys.contains name := by
  intro c w' label
  have labelled : (w.setContext label).log.Labels
      (((c.dispatcher k).dispatch q destination).apply (w.setContext label)).2.log :=
    Connection.dispatch_follows (c := c) (Labelled.lenient q) (fun _ ↦ Labelled.of_log_eq rfl)
      (fun _ ↦ discreet.follows Labelled.loggable _) (w.setContext label)
      (Log.Logger.fillsContext_configure configured)
  have run : w' = (((c.dispatcher k).dispatch q destination).apply
      (w.setContext label)).2.setContext w.log.context := by
    change ((c.settle k q destination).apply w).2 = _
    rw [c.settle_eq_within]
    rfl
  refine ⟨by rw [run]; rfl, ?_, Context.lookup_overlay_operationContext _ _ _,
    Context.keys_overlay_operationContext _ _ _⟩
  rw [run]
  exact labelled.records

/-- A state in which eleven items wait, inside a context that gives an operation of its own. -/
private def elevenWithin : World Nat where
  queues _ := List.replicate 11 ⟨"a", "orders", ""⟩
  log.logger :=
    { threshold := Log.debug, propagate := false
      handlers := [{ formatter := .text Log.standardFormat none, filters := [.context] }] }
  log.context := [("operation", .int 1), ("user", .int 7)]
  outside := 0

/-- An SQS service that refuses its second request. -/
private def declining : SqsBackend Nat where
  call _ := Action.ofBackend fun n ↦
    (if n = 0 then .ok (.record []) else .error (.outside (.sqs .unspecified)), n + 1)

/-- The second of two requests fails. Both batches and the failure are logged, under the new value
of the operation at the place of the old one. -/
theorem records_labelled_declining :
    let c : Connection (QueueClient Nat) := ⟨declining.client, none, 1, .shared⟩
    let r := (c.settle .ack 0 "orders").apply elevenWithin
    (failure? r.1).map Failure.kind = some "BackendCallError" ∧
      r.2.log.records.length = 3 ∧
      (∀ x ∈ r.2.log.records, x.context = some (.record
        [("operation", .text "ack"), ("user", .int 7), ("destination", .text "orders")])) ∧
      r.2.log.context = [("operation", .int 1), ("user", .int 7)] := by
  intro c r
  have configured : Log.Logger.configure [("SQSMESSAGING_LOG_LEVEL", "DEBUG")] {} =
      .ok elevenWithin.log.logger := rfl
  have discreet : declining.client.Discreet := .sqs declining fun _ _ ↦ rfl
  obtain ⟨context, ⟨logged, records, labelled⟩, -⟩ :=
    records_labelled configured discreet none 1 .shared .ack 0 "orders"
  have all : r.2.log.records = logged := records
  refine ⟨by decide +kernel, by decide +kernel, ?_, context⟩
  rw [all]
  exact labelled

end QueueAck
