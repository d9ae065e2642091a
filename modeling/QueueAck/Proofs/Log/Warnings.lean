import QueueAck.Proofs.Log.Discreet
import QueueAck.Proofs.Log.Emission
import QueueAck.Proofs.Shadow

/-!
# Warnings of refused entries

Every entry that a result lists as refused is logged as a warning before the result is handed on.
A run therefore leaves one warning for each refused entry of each result that its client has
returned, in the order in which they came, also when a later call fails and the results never reach
the caller (`failures_warned`).
-/

namespace QueueAck

variable {ε α : Type}

namespace Settlement

/-- The place that logs refused entries. -/
def site : Settlement → Log.Site
  | .ack => Acknowledger.site
  | .nack => NegativeAcknowledger.site

/-- How the log introduces a refused entry. -/
def introduction : Settlement → String
  | .ack => "Could not delete entry"
  | .nack => "Could not change the visibility of entry"

/-- The text of the warning of a refused entry: its identifier, its code and its message, as the
backend gave them. -/
def warning (k : Settlement) (f : EntryFailure) : String :=
  k.introduction ++ " " ++ f.id.toText ++ ": " ++ f.code.toText ++ " " ++ f.message.toText

/-- True for the record of a warning of a refused entry: it is told by its level, by its place and
by its first words. -/
def isWarning (k : Settlement) (r : Log.Record) : Bool :=
  r.level == Log.warning && r.module.asText? == some k.site.module &&
    r.function.asText? == some k.site.function &&
    (k.introduction ++ " ").toList.isPrefixOf r.message.toText.toList

/-- The record of a warning is told to be one. -/
theorem isWarning_record (k : Settlement) (f : EntryFailure) :
    k.isWarning (k.site.record Log.warning (k.warning f) none) = true := by
  have first_words : k.introduction.toList ++ [' '] <+: (k.warning f).toList := by
    simp only [warning, String.toList_append, List.append_assoc]
    exact ⟨_, List.append_assoc ..⟩
  simpa [isWarning, Log.Site.record, Value.asText?, Value.toText_text] using first_words

end Settlement

namespace Log

/-- Warnings are let through, to one handler. -/
structure Logger.Warns (l : Logger) : Prop where
  /-- There is one handler. -/
  handlers : l.handlers.length = 1
  /-- Warnings are let through. -/
  enabled : enables l.threshold warning

/-- Such a logger adds one record for a warning. -/
theorem Logger.Warns.copies_warning {l : Logger} (h : l.Warns) : l.copies warning = 1 := by
  rw [copies, if_pos h.enabled, h.handlers]

/-- Between two states of the log, entries were reported as refused, in this order, and no
others. -/
structure State.Reports (k : Settlement) (l l' : State) (fs : List EntryFailure) : Prop where
  /-- The logger is the same. -/
  logger : l'.logger = l.logger
  /-- Of the new records those that are warnings have the texts of these entries. -/
  records : ∃ logged, l'.records = l.records ++ logged ∧
    (logged.filter k.isWarning).map Record.text = fs.map fun f ↦ .ok (k.warning f)

namespace State.Reports

variable {k : Settlement} {l l' m n : State} {fs gs : List EntryFailure}

/-- Nothing is logged. -/
theorem refl (k : Settlement) (l : State) : l.Reports k l [] :=
  ⟨rfl, [], (List.append_nil _).symm, rfl⟩

/-- Entries are reported as refused when the new warnings are those of the entries. -/
theorem iff_issues :
    l.Reports k l' fs ↔ l.Issues k.isWarning l' (fs.map fun f ↦ .ok (k.warning f)) :=
  ⟨fun h ↦ ⟨h.logger, h.records⟩, fun h ↦ ⟨h.logger, h.records⟩⟩

/-- What is reported in two steps. -/
theorem trans (first : l.Reports k m fs) (later : m.Reports k n gs) :
    l.Reports k n (fs ++ gs) := by
  rw [iff_issues, List.map_append]
  exact (iff_issues.mp first).trans (iff_issues.mp later)

/-- A record that is no warning of a refused entry. -/
theorem other (l : State) {r : Record} (h : k.isWarning r = false) :
    l.Reports k (l.report r) [] :=
  iff_issues.mpr (.other (fun _ _ ↦ rfl) l h)

/-- The warning of a refused entry. -/
theorem entry (hl : l.logger.Warns) (k : Settlement) (f : EntryFailure) :
    l.Reports k (l.report (k.site.record Log.warning (k.warning f) none)) [f] := by
  have issued := Issues.report (p := k.isWarning) (fun _ _ ↦ rfl) l
    (k.site.record Log.warning (k.warning f) none)
  have once : l.logger.copies (k.site.record Log.warning (k.warning f) none).level = 1 :=
    hl.copies_warning
  rw [k.isWarning_record, if_pos rfl, once] at issued
  exact iff_issues.mpr issued

end State.Reports
end Log

/-- Logging refused entries reports them and does nothing else. -/
theorem reportFailures_reports {w : World ε} (h : w.log.logger.Warns) (k : Settlement)
    (fs : List EntryFailure) :
    ∃ l, (reportFailures k.site k.introduction fs).apply w = (.ok (), { w with log := l }) ∧
      w.log.Reports k l fs := by
  induction fs generalizing w with
  | nil => exact ⟨w.log, rfl, .refl k w.log⟩
  | cons f fs ih =>
    have first := Log.State.Reports.entry h k f
    obtain ⟨l, hl, later⟩ := ih (w := { w with log := _ }) (first.logger ▸ h)
    refine ⟨l, ?_, first.trans later⟩
    rw [reportFailures, Action.apply_bind]
    exact hl

/-- A client that keeps the logger, and logs no warning of refused entries in the place of the one
that calls it. -/
def QueueClient.LogsElsewhere (k : Settlement) (c : QueueClient ε) : Prop :=
  ∀ call (w : World ε), w.log.Reports k ((c.perform call).apply w).2.log []

/-- The conduct of what reports the refused entries of all results that it keeps. -/
def Warned (k : Settlement) (w : World (ε × List BatchResult)) (_ : Option Failure)
    (w' : World (ε × List BatchResult)) : Prop :=
  w.log.logger.Warns → ∃ results : List BatchResult, w'.record = w.record ++ results ∧
    w.log.Reports k w'.log (results.flatMap BatchResult.failed)

namespace Warned

variable {k : Settlement}

/-- Nothing is kept and nothing is reported. -/
theorem silent {w w' : World (ε × List BatchResult)} {o : Option Failure}
    (record : w'.record = w.record) (reports : w.log.Reports k w'.log []) : Warned k w o w' :=
  fun _ ↦ ⟨[], by rw [record, List.append_nil], reports⟩

/-- The conduct allows to stop at any time. -/
theorem lasting : Lasting (Warned (ε := ε) k) where
  refl w := silent rfl (.refl k w.log)
  fail w _ := silent rfl (.refl k w.log)
  trans first later h := by
    obtain ⟨xs, hxs, reports⟩ := first h
    obtain ⟨ys, hys, reports'⟩ := later (reports.logger ▸ h)
    refine ⟨xs ++ ys, ?_, ?_⟩
    · rw [hys, hxs, List.append_assoc]
    · rw [List.flatMap_append]
      exact reports.trans reports'

/-- The context does not matter. -/
theorem ignoresContext : Conduct.IgnoresContext (Warned (ε := ε) k) := by
  intro u o v c h hu
  obtain ⟨results, record, reports⟩ := h hu
  exact ⟨results, record, reports.logger, reports.records⟩

/-- Another message. -/
theorem message {s : Log.Site} {level : Int} {text : String}
    (h : k.isWarning (s.record level text none) = false) :
    (Action.report s level text : Action (ε × List BatchResult) Unit).Follows (Warned k) :=
  fun w ↦ silent rfl (.other w.log h)

/-- A message that is no warning. -/
theorem message_of_level {s : Log.Site} {level : Int} {text : String} (h : level ≠ Log.warning) :
    (Action.report s level text : Action (ε × List BatchResult) Unit).Follows (Warned k) := by
  refine message ?_
  have other : (level == Log.warning) = false := beq_false_of_ne h
  rw [Settlement.isWarning, Log.Site.record, other]
  rfl

/-- Announcing the policy of a negative acknowledger: that there is none is a warning of its own. -/
theorem reportPolicy (n : NegativeAcknowledger (ε × List BatchResult)) (destination : String) :
    (n.reportPolicy destination).Follows (Warned k) := by
  unfold NegativeAcknowledger.reportPolicy
  split
  · -- the two messages differ in their first letters
    have other : (k.introduction ++ " ").toList.isPrefixOf ("No retry policy set for " ++
        destination ++ ", the messages are retried now.").toList = false := by
      cases k <;> simp [Settlement.introduction] <;> rfl
    refine message ?_
    rw [Settlement.isWarning, Log.Site.record, Value.toText_text, other, Bool.and_false]
  · exact lasting.bind (lasting.ofExcept _) fun _ ↦ message_of_level (by decide)

/-- A call on a client whose results are kept, with what is logged about its result. -/
theorem call {client : QueueClient ε} (h : client.LogsElsewhere k) (call : BatchCall) :
    (client.keeping.perform call >>= fun result ↦
      reportFailures k.site k.introduction result.failed >>= fun _ ↦
        pure (some result)).Follows (Warned k) := by
  intro w hw
  have kept : (client.keeping.perform call).apply w =
      (((client.perform call).apply w.forget).1, ((client.perform call).apply w.forget).2.remember
        (w.record ++ ((client.perform call).apply w.forget).1.toOption.toList)) := by
    cases call <;> rfl
  have reports : w.log.Reports k ((client.perform call).apply w.forget).2.log [] :=
    h call w.forget
  rw [Action.apply_bind, kept]
  generalize (client.perform call).apply w.forget = r at reports
  obtain ⟨f | result, v⟩ := r
  · exact ⟨[], rfl, reports⟩
  · have hv : v.log.logger.Warns := reports.logger ▸ hw
    obtain ⟨l, hl, reported⟩ :=
      reportFailures_reports (w := v.remember (w.record ++ [result])) hv k result.failed
    dsimp only [Except.toOption, Option.toList]
    rw [Action.apply_bind, hl]
    refine ⟨[result], rfl, ?_⟩
    rw [List.flatMap_singleton]
    exact reports.trans reported

variable {client : QueueClient ε} {policy : Option RetryPolicy} {prefetchSize : Int}
  {generator : GeneratorId} {destination : String}

/-- What the connection does with a batch, on a client whose results are kept. -/
theorem action (h : client.LogsElsewhere k) (handles : List String) :
    let c : Connection (QueueClient (ε × List BatchResult)) :=
      { client := client.keeping, policy, prefetchSize, generator }
    ((c.dispatcher k).action destination handles).Follows (Warned k) := by
  intro c
  have draw : (Action.nextId generator).Follows (Warned (ε := ε) k) :=
    fun w ↦ silent rfl (.refl k w.log)
  cases k with
  | ack =>
    change (c.acknowledger.action destination handles).Follows _
    unfold Acknowledger.action
    split
    · exact lasting.pure none
    · exact lasting.bind (lasting.numberEntries draw _ _) fun entries ↦
        call h (.delete destination entries)
  | nack =>
    change (c.negativeAcknowledger.action destination handles).Follows _
    unfold NegativeAcknowledger.action
    split
    · exact lasting.pure none
    · refine lasting.bind (reportPolicy _ _) fun _ ↦ ?_
      split
      · exact lasting.bind (message_of_level (by decide)) fun _ ↦ lasting.pure none
      · exact lasting.bind (lasting.numberEntries draw _ _) fun entries ↦
          call h (.changeVisibility destination entries)

end Warned

/-- A run keeps the results that its client returns and reports their refused entries. -/
theorem settle_warned {client : QueueClient ε} {k : Settlement} (h : client.LogsElsewhere k)
    (policy : Option RetryPolicy) (prefetchSize : Int) (generator : GeneratorId) (q : QueueId)
    (destination : String) :
    let c : Connection (QueueClient (ε × List BatchResult)) :=
      { client := client.keeping, policy, prefetchSize, generator }
    (c.settle k q destination).Follows (Warned k) := by
  intro c
  rw [c.settle_eq_within]
  refine Warned.lasting.within Warned.ignoresContext _
    (Warned.lasting.dispatch_of ?_ fun handles ↦ ?_)
  · exact fun w _ ↦ Warned.silent rfl (.refl k w.log)
  · exact Warned.lasting.bind (Warned.message_of_level (by decide)) fun _ ↦ Warned.action h handles

/-- A discreet client does not log in the place of the one that calls it. -/
theorem QueueClient.Discreet.logsElsewhere {client : QueueClient ε} (h : client.Discreet)
    (k : Settlement) : client.LogsElsewhere k := by
  have loggable : Loggable fun (w : World ε) _ (w' : World ε) ↦ w.log.Reports k w'.log [] :=
    { refl := fun w ↦ .refl k w.log
      fail := fun w _ ↦ .refl k w.log
      trans := fun first later ↦ first.trans later
      keeps := fun _ hl ↦ hl ▸ .refl k _
      report := fun {s} hs w level text exception ↦ by
        have elsewhere : ((Value.text s.module).asText? == some k.site.module) = false := by
          cases hs <;> cases k <;> rfl
        refine .other w.log ?_
        simp only [Settlement.isWarning, Log.Site.record, elsewhere, Bool.and_false,
          Bool.false_and] }
  exact fun call ↦ h.follows loggable call

/-- Whatever its client does and however it ends, a run leaves one warning for each entry that a
result of the client lists as refused, in the order in which the results came. The results are kept
beside the state, those among them that never reach the caller included; leaving them aside, the run
is the run itself. -/
theorem failures_warned {env : Environment} {l : Log.Logger} {w : World ε}
    (configured : l.configure env = .ok w.log.logger)
    (enabled : Log.enables w.log.logger.threshold Log.warning) {client : QueueClient ε}
    {k : Settlement} (elsewhere : client.LogsElsewhere k) (policy : Option RetryPolicy)
    (prefetchSize : Int) (generator : GeneratorId) (q : QueueId) (destination : String) :
    let c : Connection (QueueClient ε) := { client, policy, prefetchSize, generator }
    let r := (c.settle k q destination).apply w
    let r' := ((c.map QueueClient.keeping).settle k q destination).apply (w.remember [])
    (r'.1, r'.2.forget) = r ∧
    ∃ logged, r.2.log.records = w.log.records ++ logged ∧
      (logged.filter k.isWarning).map Log.Record.text =
        (r'.2.record.flatMap BatchResult.failed).map fun f ↦ .ok (k.warning f) := by
  intro c r r'
  have shadows : ((c.map QueueClient.keeping).settle k q destination).Shadows
      (c.settle k q destination) := by
    rw [Connection.settle_eq_within, Connection.settle_eq_within]
    refine .within (.dispatch (by cases k <;> rfl) (fun handles ↦ ?_) q) _
    cases k with
    | ack => exact client.keeping_shadows.acknowledge generator destination handles
    | nack => exact client.keeping_shadows.handBack policy generator destination handles
  have same : (r'.1, r'.2.forget) = r := shadows (w.remember [])
  have warns : w.log.logger.Warns := ⟨Log.Logger.length_handlers_configure configured, enabled⟩
  obtain ⟨results, kept, reports⟩ : ∃ results : List BatchResult, r'.2.record = [] ++ results ∧
      w.log.Reports k r'.2.log (results.flatMap BatchResult.failed) :=
    settle_warned elsewhere policy prefetchSize generator q destination (w.remember []) warns
  have log : r'.2.log = r.2.log := congrArg (fun x ↦ x.2.log) same
  rw [List.nil_append] at kept
  rw [kept, ← log]
  exact ⟨same, reports.records⟩

/-- A state in which eleven items wait, with a logger that is set up. -/
private def elevenWaiting : World Nat where
  queues _ := List.replicate 11 ⟨"a", "orders", ""⟩
  log.logger :=
    { threshold := Log.info, propagate := false
      handlers := [{ formatter := .text Log.standardFormat none, filters := [.context] }] }
  outside := 0

/-- A service that refuses one entry of its first request, for a reason that looks like a template,
and fails its second one. -/
private def fussy : SqsBackend Nat where
  call _ := Action.ofBackend fun n ↦
    (if n = 0 then .ok (.record [("Failed", .list [.record
        [("Id", .text "0"), ("Code", .text "%s"), ("Message", .text "100%%")]])])
      else .error (.outside (.sqs .unspecified)), n + 1)

/-- The second of two requests fails, so that the results of the first one do not reach the caller;
its refused entry was logged, word for word. -/
theorem failures_warned_fussy :
    let c : Connection (QueueClient Nat) := ⟨fussy.client, none, 1, .shared⟩
    let r := (c.settle .ack 0 "orders").apply elevenWaiting
    (failure? r.1).map Failure.kind = some "BackendCallError" ∧
      (r.2.log.records.filter (Settlement.isWarning .ack)).map Log.Record.text =
        [.ok "Could not delete entry 0: %s 100%%"] := by
  intro c r
  have configured : Log.Logger.configure [] {} = .ok elevenWaiting.log.logger := rfl
  have discreet : fussy.client.Discreet := .sqs fussy fun _ _ ↦ rfl
  obtain ⟨same, logged, records, texts⟩ := failures_warned configured (by decide)
    (discreet.logsElsewhere .ack) none 1 .shared 0 "orders"
  have all : r.2.log.records = logged := records
  let kept : Connection (QueueClient (Nat × List BatchResult)) :=
    Connection.map QueueClient.keeping c
  let w' := ((kept.settle .ack 0 "orders").apply (elevenWaiting.remember [])).2
  have refused : (w'.record.flatMap BatchResult.failed).map (Settlement.warning .ack) =
      ["Could not delete entry 0: %s 100%%"] := by
    decide +kernel
  refine ⟨by decide +kernel, ?_⟩
  rw [all, texts]
  exact (List.map_map ..).symm.trans (congrArg (List.map Except.ok) refused)

end QueueAck
