import QueueAck.Log.Logger

/-!
# What a logged message adds

A message that is let through adds one record for every handler, and changes neither the set-up nor
the context. The filters of a handler fill in the context of the record and leave its level and its
failure alone.
-/

namespace QueueAck.Log

/-- Every filter fills in the context, so one of them does what all of them do. -/
theorem State.filtered_eq (s : State) (h : Handler) (r : Record) :
    s.filtered h r = if h.filters.isEmpty then r else r.contextualize s.context := by
  have fold : ∀ (fs : List Filter) (r : Record), fs.foldl (fun r f ↦ f.apply s.context r) r =
      if fs.isEmpty then r else r.contextualize s.context := by
    intro fs
    induction fs with
    | nil => exact fun _ ↦ rfl
    | cons f fs ih =>
      cases f with
      | context =>
        intro r
        refine (ih (r.contextualize s.context)).trans ?_
        rw [Record.contextualize_contextualize]
        cases fs <;> rfl
  exact fold h.filters r

/-- A filter changes neither the level of a record nor its failure. -/
theorem State.filtered_keeps (s : State) (h : Handler) (r : Record) :
    (s.filtered h r).level = r.level ∧ (s.filtered h r).exception = r.exception := by
  rw [s.filtered_eq]
  split <;> exact ⟨rfl, rfl⟩

/-- A record changes neither the set-up nor the context, and every handler adds it as its filters
leave it. -/
theorem State.emit_adds (s : State) (r : Record) :
    (s.emit r).logger = s.logger ∧ (s.emit r).context = s.context ∧
      (s.emit r).records = s.records ++ s.logger.handlers.map fun h ↦ s.filtered h r := by
  have fold : ∀ (hs : List Handler) (t : State), t.context = s.context →
      let u := hs.foldl (fun t h ↦ t.handle h r) t
      u.logger = t.logger ∧ u.context = t.context ∧
        u.records = t.records ++ hs.map fun h ↦ s.filtered h r := by
    intro hs
    induction hs with
    | nil => exact fun t _ ↦ ⟨rfl, rfl, (List.append_nil _).symm⟩
    | cons h hs ih =>
      intro t ht
      obtain ⟨logger, context, records⟩ := ih (t.handle h r) ht
      refine ⟨logger, context, records.trans ?_⟩
      have hf : t.filtered h r = s.filtered h r := by rw [filtered, filtered, ht]
      rw [handle, hf, List.append_assoc]
      rfl
  exact fold s.logger.handlers s rfl

/-- The records of errors. -/
def State.errors (s : State) : List Record := s.records.filter fun r ↦ r.level == error

/-- Logging changes neither the set-up nor the context. -/
theorem State.report_keeps (s : State) (r : Record) :
    (s.report r).logger = s.logger ∧ (s.report r).context = s.context := by
  rw [report]
  split
  · exact ⟨(s.emit_adds r).1, (s.emit_adds r).2.1⟩
  · exact ⟨rfl, rfl⟩

/-- A record whose level is let through is added by every handler. -/
theorem State.records_report (s : State) (r : Record) :
    (s.report r).records = s.records ++
      if enables s.logger.threshold r.level then s.logger.handlers.map fun h ↦ s.filtered h r
      else [] := by
  rw [report]
  split
  · exact (s.emit_adds r).2.2
  · exact (List.append_nil _).symm

/-- A logger with one handler that fills in the context adds one record, if it lets it through. -/
theorem State.records_report_of_context {s : State} {formatter : Formatter}
    (h : s.logger.handlers = [{ formatter, filters := [.context] }]) (r : Record) :
    (s.report r).records = s.records ++
      if enables s.logger.threshold r.level then [r.contextualize s.context] else [] := by
  rw [s.records_report, h]
  rfl

/-- The number of records that a message of a level adds. -/
def Logger.copies (l : Logger) (level : Int) : Nat :=
  if enables l.threshold level then l.handlers.length else 0

/-- Between two states of the log, the new records of a kind have these texts. -/
structure State.Issues (p : Record → Bool) (l l' : State) (texts : List (Except Failure String)) :
    Prop where
  /-- The logger is the same. -/
  logger : l'.logger = l.logger
  /-- The texts are those of the new records of the kind, in order. -/
  records : ∃ logged, l'.records = l.records ++ logged ∧ (logged.filter p).map Record.text = texts

namespace State.Issues

variable {p : Record → Bool} {l m n : State} {texts texts' : List (Except Failure String)}

/-- Nothing is logged. -/
theorem refl (p : Record → Bool) (l : State) : l.Issues p l [] :=
  ⟨rfl, [], (List.append_nil _).symm, rfl⟩

/-- What is issued in two steps. -/
theorem trans (first : l.Issues p m texts) (later : m.Issues p n texts') :
    l.Issues p n (texts ++ texts') := by
  obtain ⟨xs, hxs, issued⟩ := first.records
  obtain ⟨ys, hys, issued'⟩ := later.records
  refine ⟨later.logger.trans first.logger, xs ++ ys, ?_, ?_⟩
  · rw [hys, hxs, List.append_assoc]
  · rw [List.filter_append, List.map_append, issued, issued']

/-- A message adds its copies to a kind of records for which the context does not matter, if it is
of the kind. -/
theorem report (blind : ∀ store r, p (r.contextualize store) = p r) (l : State) (r : Record) :
    l.Issues p (l.report r)
      (if p r then List.replicate (l.logger.copies r.level) r.text else []) := by
  have same (h : Handler) : p (l.filtered h r) = p r ∧ (l.filtered h r).text = r.text := by
    rw [l.filtered_eq]
    split
    · exact ⟨rfl, rfl⟩
    · exact ⟨blind _ r, rfl⟩
  refine ⟨(l.report_keeps r).1, _, l.records_report r, ?_⟩
  rw [Logger.copies]
  by_cases enabled : enables l.logger.threshold r.level
  · rw [if_pos enabled, if_pos enabled]
    cases told : p r with
    | true =>
      have kept : (l.logger.handlers.map fun h ↦ l.filtered h r).filter p =
          l.logger.handlers.map fun h ↦ l.filtered h r := by
        simp [List.filter_eq_self, same, told]
      rw [kept, List.map_map, if_pos rfl]
      exact List.map_eq_replicate_iff.mpr fun h _ ↦ (same h).2
    | false =>
      have dropped : (l.logger.handlers.map fun h ↦ l.filtered h r).filter p = [] := by
        simp [List.filter_eq_nil_iff, same, told]
      rw [dropped]
      rfl
  · rw [if_neg enabled, if_neg enabled, List.replicate_zero, ite_self]
    rfl

/-- A message that is not of the kind. -/
theorem other (blind : ∀ store r, p (r.contextualize store) = p r) (l : State) {r : Record}
    (h : p r = false) : l.Issues p (l.report r) [] := by
  have issued := report blind l r
  rwa [h] at issued

end State.Issues

/-- What is no error adds no record of an error. -/
theorem State.errors_report_of_ne {s : State} {r : Record} (h : r.level ≠ error) :
    (s.report r).errors = s.errors := by
  have none : (s.logger.handlers.map fun h ↦ s.filtered h r).filter (·.level == error) = [] := by
    refine List.filter_eq_nil_iff.mpr fun x hx ↦ ?_
    obtain ⟨h', -, rfl⟩ := List.mem_map.mp hx
    simpa [(s.filtered_keeps h' r).1] using h
  rw [errors, s.records_report, List.filter_append]
  split
  · rw [none, List.append_nil, errors]
  · rw [List.filter_nil, List.append_nil, errors]

/-- An error adds a record for every handler, when errors are let through, and none otherwise. -/
theorem State.errors_report_of_eq {s : State} {r : Record} (h : r.level = error) :
    ∃ logged, (s.report r).errors = s.errors ++ logged ∧
      logged.length =
        (if enables s.logger.threshold error then s.logger.handlers.length else 0) ∧
      ∀ x ∈ logged, x.exception = r.exception := by
  have all : (s.logger.handlers.map fun h ↦ s.filtered h r).filter (·.level == error) =
      s.logger.handlers.map fun h ↦ s.filtered h r := by
    refine List.filter_eq_self.mpr fun x hx ↦ ?_
    obtain ⟨h', -, rfl⟩ := List.mem_map.mp hx
    simp [(s.filtered_keeps h' r).1, h]
  rw [errors, s.records_report, List.filter_append, h]
  split
  · refine ⟨_, congrArg (_ ++ ·) all, List.length_map _, fun x hx ↦ ?_⟩
    obtain ⟨h', -, rfl⟩ := List.mem_map.mp hx
    exact (s.filtered_keeps h' r).2
  · exact ⟨[], rfl, rfl, by simp⟩

/-- The logger that is set up has one handler, which fills in the context. -/
theorem Logger.handlers_configure {env : Environment} {l l' : Logger}
    (h : l.configure env = .ok l') :
    ∃ formatter, l'.handlers = [{ formatter, filters := [.context] }] := by
  unfold configure at h
  cases ht : thresholdOf env with
  | error f =>
    rw [ht] at h
    cases h
  | ok threshold =>
    cases hf : formatterOf env with
    | error f =>
      rw [ht, hf] at h
      cases h
    | ok formatter =>
      rw [ht, hf] at h
      cases h
      exact ⟨formatter, rfl⟩

/-- The logger that is set up has one handler. -/
theorem Logger.length_handlers_configure {env : Environment} {l l' : Logger}
    (h : l.configure env = .ok l') : l'.handlers.length = 1 := by
  obtain ⟨formatter, hf⟩ := handlers_configure h
  rw [hf, List.length_singleton]

end QueueAck.Log
