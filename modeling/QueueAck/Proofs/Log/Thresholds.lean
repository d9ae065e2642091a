import QueueAck.Proofs.Isolation
import QueueAck.Proofs.Log.Emission

/-!
# Logging has no part in what is done

Two runs of one caller that start with different logs: with another set-up of the logger, inside
another context, after other records. On a service that ignores the log they come to the same in
everything but the log. When both loggers are set up and the contexts are equal, a higher threshold
leaves of what is logged under a lower one exactly the records that reach it (`logging_inert`).
-/

namespace QueueAck

variable {ε : Type}

namespace Log

/-- Since two earlier times, the one log has of the new records of the other those that reach the
threshold of its logger. -/
structure State.Thinned (logger logger' : Logger) (earlier earlier' : List Record)
    (l m : State) : Prop where
  /-- The one logger is this one. -/
  logger_eq : l.logger = logger
  /-- The other logger is that one. -/
  logger_eq' : m.logger = logger'
  /-- The contexts are equal. -/
  context : l.context = m.context
  /-- The one has the new records of the other that reach the threshold. -/
  records : ∃ logged, l.records = earlier ++ logged ∧ m.records = earlier' ++
    logged.filter fun r ↦ effective logger'.threshold ≤ r.level

/-- Under a higher threshold the log stays thinned. -/
theorem State.coupled_thinned {env env' : Environment} {l₀ m₀ a b : Logger}
    (configured : l₀.configure env = .ok a) (configured' : m₀.configure env' = .ok b)
    (le : effective a.threshold ≤ effective b.threshold) (earlier earlier' : List Record) :
    Coupled (Thinned a b earlier earlier') where
  report {l m} h r := by
    obtain ⟨formatter, handlers⟩ := Logger.handlers_configure configured
    obtain ⟨formatter', handlers'⟩ := Logger.handlers_configure configured'
    obtain ⟨logged, hl, hm⟩ := h.records
    refine ⟨(l.report_keeps r).1.trans h.logger_eq, (m.report_keeps r).1.trans h.logger_eq',
      (l.report_keeps r).2.trans (h.context.trans (m.report_keeps r).2.symm), ?_⟩
    rw [State.records_report_of_context (h.logger_eq ▸ handlers),
      State.records_report_of_context (h.logger_eq' ▸ handlers'), hl, hm, h.logger_eq, h.logger_eq',
      h.context]
    refine ⟨_, List.append_assoc .., ?_⟩
    rw [List.append_assoc, List.filter_append]
    congr 2
    cases passes' : enables b.threshold r.level with
    | true =>
      have reaches := (enables_eq_true_iff.mp passes').2
      rw [if_pos rfl, if_pos (enables_of_le le passes')]
      exact (List.filter_eq_self.mpr (by simpa [Record.contextualize] using reaches)).symm
    | false =>
      -- what only the lower threshold lets through does not reach the higher one
      rw [if_neg Bool.false_ne_true]
      split
      · next passes =>
        have positive := (enables_eq_true_iff.mp passes).1
        have below : ¬effective b.threshold ≤ r.level := fun reaches ↦
          Bool.false_ne_true (passes'.symm.trans (enables_eq_true_iff.mpr ⟨positive, reaches⟩))
        exact (List.filter_eq_nil_iff.mpr (by simpa [Record.contextualize] using below)).symm
      · rfl
  overlay h h' fields :=
    ⟨h'.logger_eq, h'.logger_eq', congrArg (Context.overlay · fields) h.context, h'.records⟩

end Log

/-- On a service that ignores the log, the steps of a caller have the same outcomes, make the same
calls and leave the same state, whatever the logger, its context and the earlier records are. Under
loggers that are set up in one context, the records that are logged under the higher threshold are
those logged under the lower one that reach it. Leaving the record aside, the recorded run is the
run itself. -/
theorem logging_inert {c : Connection (QueueClient ε)} (apart : c.client.Over Action.IgnoresLog)
    (steps : List CallerStep) (w : World ε) (l m : Log.State) :
    let u : World ε := { w with log := l }
    let v : World ε := { w with log := m }
    c.outcomes steps u = c.outcomes steps v ∧
    c.run steps v = { c.run steps u with log := (c.run steps v).log } ∧
    (c.recorded.run steps (u.remember [])).record =
      (c.recorded.run steps (v.remember [])).record ∧
    (c.recorded.run steps (u.remember [])).forget = c.run steps u ∧
    ∀ (env env' : Environment) (l₀ m₀ : Log.Logger), l₀.configure env = .ok l.logger →
      m₀.configure env' = .ok m.logger → l.context = m.context →
      Log.effective l.logger.threshold ≤ Log.effective m.logger.threshold →
      ∃ logged, (c.run steps u).log.records = l.records ++ logged ∧
        (c.run steps v).log.records = m.records ++
          logged.filter fun r ↦ Log.effective m.logger.threshold ≤ r.level := by
  intro u v
  have client {L : Log.State → Log.State → Prop} (h : Log.Coupled L) (call : BatchCall) :
      (c.client.perform call).Agrees (UpToLog L) (c.client.perform call) :=
    apart.agrees (UpToLog.coupledOn h 0).toCoupled UpToLog.ignoresLog call
  have alike {L : Log.State → Log.State → Prop} (h : Log.Coupled L) (start : L l m) :
      c.outcomes steps u = c.outcomes steps v ∧ UpToLog L (c.run steps u) (c.run steps v) :=
    Connection.run_agrees (Connection.perform_agrees (UpToLog.coupledOn h) (client h)) steps
      ⟨start, rfl⟩
  obtain ⟨outcomes, -, states⟩ := alike Log.coupled_any trivial
  have noted (s : CallerStep) : (c.recorded.perform s).Agrees
      (Noted (UpToLog fun _ _ ↦ True)) (c.recorded.perform s) :=
    Connection.perform_agrees (fun q ↦ (UpToLog.coupledOn Log.coupled_any q).noted)
      (QueueClient.recorded_agrees (client Log.coupled_any)) s
  obtain ⟨-, -, calls⟩ := Connection.run_agrees noted steps (w := u.remember [])
    (v := v.remember []) ⟨⟨trivial, rfl⟩, rfl⟩
  refine ⟨outcomes, states, calls, c.forget_run_recorded steps _, ?_⟩
  intro env env' l₀ m₀ configured configured' context le
  have start : Log.State.Thinned l.logger m.logger l.records m.records l m :=
    ⟨rfl, rfl, context, [], (List.append_nil _).symm, (List.append_nil _).symm⟩
  obtain ⟨-, thinned, -⟩ :=
    alike (Log.State.coupled_thinned configured configured' le l.records m.records) start
  exact thinned.records

/-- A service that refuses one entry of its first request and fails its second one. -/
private def wavering : SqsBackend Nat where
  call _ := Action.ofBackend fun n ↦
    (if n = 0 then .ok (.record [("Failed", .list [.record
        [("Id", .text "0"), ("Code", .text "busy"), ("Message", .text "")]])])
      else .error (.outside (.sqs .unspecified)), n + 1)

/-- A log in which everything is written, as text, and one in which only warnings and errors are, as
JSON. -/
private def openLog : Log.State where
  logger := { threshold := Log.debug, propagate := false
              handlers := [{ formatter := .text Log.standardFormat none, filters := [.context] }] }

private def strictLog : Log.State where
  logger := { threshold := Log.warning, propagate := false
              handlers := [{ formatter := .json none, filters := [.context] }] }

private def waveringSteps : List CallerStep :=
  [.fill 0 [⟨"a", "orders", ""⟩], .nack 0 "orders", .fill 0 [⟨"b", "orders", ""⟩], .ack 0 "orders"]

/-- The failed call is made, and fails, under both logs; the warnings and the error are in both. -/
theorem logging_inert_wavering :
    let c : Connection (QueueClient Nat) := ⟨wavering.client, none, 1, .shared⟩
    let run (l : Log.State) := c.run waveringSteps { log := l, outside := 0 }
    (run openLog).log.records.map Log.Record.level = [10, 30, 30, 10, 40] ∧
    (run strictLog).log.records.map Log.Record.level = [30, 30, 40] ∧
    (run strictLog).outside = 2 := by
  intro c run
  have apart : c.client.Over Action.IgnoresLog := .sqs wavering fun _ _ _ ↦ rfl
  have configured : Log.Logger.configure [("SQSMESSAGING_LOG_LEVEL", "10")] {} =
    .ok openLog.logger := rfl
  have configured' : Log.Logger.configure
    [("SQSMESSAGING_LOG_LEVEL", "30"), ("SQSMESSAGING_ENABLE_LOG_SERIALIZE", "1")] {} =
      .ok strictLog.logger := rfl
  obtain ⟨-, same, -, -, filtered⟩ :=
    logging_inert apart waveringSteps { outside := 0 } openLog strictLog
  obtain ⟨logged, records, records'⟩ := filtered _ _ _ _ configured configured' rfl (by decide)
  have levels : (run openLog).log.records.map Log.Record.level = [10, 30, 30, 10, 40] := by
    decide +kernel
  refine ⟨levels, ?_, ?_⟩
  · have all : (run openLog).log.records = logged := records
    have thinned : (run strictLog).log.records = logged.filter fun r ↦ 30 ≤ r.level := records'
    have filter_level := List.filter_map (f := Log.Record.level) (p := (30 ≤ ·)) (l := logged)
    rw [thinned]
    exact filter_level.symm.trans (by rw [← all, levels]; rfl)
  · have sent := congrArg World.outside same
    exact sent.trans (by decide +kernel)

end QueueAck
