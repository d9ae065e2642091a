import QueueAck.Proofs.Log.Emission
import QueueAck.Proofs.Log.Lines

/-!
# Filling in the context of a record

The context of a record is that of the thread, overlaid with the attributes that the log call gives.
It is found by taking the known attributes away from all that the record has, so that it stays the
same however often it is filled in, also after a formatter has left attributes of its own on the
record (`Treated.extras_and_context`). `logged_context_stable` says so of the record of a log call.
-/

namespace QueueAck

namespace Context

variable {c d : Context} {k l : String} {v w : Value}

/-- Of two values for a name the later one stays. -/
theorem put_put (c : Context) (k : String) (v w : Value) : (c.put k v).put k w = c.put k w := by
  induction c with
  | nil => simp [put]
  | cons f c ih => by_cases h : f.1 = k <;> simp [put, h, ih]

/-- Two names may be given their values in either order, once one of them is there. -/
theorem put_comm (present : k ∈ c.keys) (other : l ≠ k) :
    (c.put k v).put l w = (c.put l w).put k v := by
  induction c with
  | nil => cases present
  | cons f c ih =>
    by_cases first : f.1 = k
    · simp [put, first, other.symm]
    · have later : k ∈ keys c := (List.mem_cons.mp present).resolve_left fun e ↦ first e.symm
      by_cases second : f.1 = l
      · simp [put, second, other]
      · simp [put, first, second, ih later]

/-- A name that is there may be given its value before others are given theirs. -/
theorem put_overlay (present : k ∈ c.keys) (absent : k ∉ d.keys) :
    (c.overlay d).put k v = (c.put k v).overlay d := by
  induction d generalizing c with
  | nil => rfl
  | cons f d ih =>
    obtain ⟨other, absent⟩ := not_or.mp (mt List.mem_cons.mpr absent)
    have kept : k ∈ (c.put f.1 f.2).keys := by
      rw [keys_put]
      split
      · exact present
      · exact List.mem_append_left _ present
    have later := ih kept absent
    rw [← put_comm present (Ne.symm other)] at later
    exact later

/-- A context with one more value is overlaid by overlaying it and then giving the value. -/
theorem overlay_put (distinct : d.keys.Nodup) :
    c.overlay (d.put k v) = (c.overlay d).put k v := by
  induction d generalizing c with
  | nil => rfl
  | cons f d ih =>
    obtain ⟨fresh, distinct⟩ := List.nodup_cons.mp distinct
    by_cases h : f.1 = k
    · subst h
      have present : f.1 ∈ (c.put f.1 f.2).keys := by
        rw [keys_put]
        split <;> simp [*]
      have later : ((c.put f.1 f.2).overlay d).put f.1 v = ((c.put f.1 f.2).put f.1 v).overlay d :=
        put_overlay present fresh
      rw [put_put] at later
      rw [put, if_pos rfl]
      exact later.symm
    · rw [put, if_neg h]
      exact ih distinct

/-- An overlaid context is overlaid by overlaying its two parts one after the other. -/
theorem overlay_overlay (distinct : d.keys.Nodup) (fields : List (String × Value)) :
    c.overlay (d.overlay fields) = (c.overlay d).overlay fields := by
  induction fields generalizing d with
  | nil => rfl
  | cons f fields ih =>
    have later := ih (nodup_keys_put (k := f.1) (v := f.2) distinct)
    rw [overlay_put distinct] at later
    exact later

/-- Of a context with one more value the part with certain names has the value too, if its name is
one of them. -/
theorem filter_put (p : String → Bool) (c : Context) (k : String) (v : Value) :
    (c.put k v).filter (fun f ↦ p f.1) =
      if p k then put (c.filter fun f ↦ p f.1) k v else c.filter fun f ↦ p f.1 := by
  induction c with
  | nil => by_cases h : p k <;> simp [put, h]
  | cons f c ih =>
    by_cases same : f.1 = k
    · subst same
      by_cases h : p f.1 <;> simp [put, h]
    · by_cases h : p k <;> by_cases first : p f.1 <;> simp_all [put]

end Context

namespace Log

variable {r r' : Record} {store : Context} {extra : List (String × Value)}

/-- The attributes that a log call may not give. -/
def protectedAttributes : List String := standardAttributes ++ ["message", "asctime"]

namespace Record

/-- A record as it is before a log call gives it attributes: it has none but the standard ones. -/
def Fresh (r : Record) : Prop := ∀ f ∈ r.attached, f.1 ∈ standardAttributes

/-- A fresh record has nothing that becomes part of the context. -/
theorem Fresh.extras_eq_nil (h : r.Fresh) : r.extras = [] := by
  refine List.filter_eq_nil_iff.mpr fun f hf ↦ ?_
  simp [isContextual, reservedAttributes, h f hf]

/-- An attribute that is kept by its name becomes part of the context, unless it is reserved. -/
theorem extras_attach (r : Record) (name : String) (v : Value) :
    (r.attach name v).extras = if isContextual name then r.extras.put name v else r.extras :=
  Context.filter_put isContextual r.attached name v

/-- An attribute that a log call gives is kept by its name, unless it is the context. -/
theorem assign_of_free {name : String} (free : name ∉ protectedAttributes)
    (other : name ≠ "context") (v : Value) :
    r.assign name v = attach { r with lost := r.lost.filter (· != name) } name v := by
  unfold assign
  split <;> simp_all [protectedAttributes, standardAttributes]

/-- An attribute that a log call gives becomes part of the context, unless it is reserved. -/
theorem extras_assign {name : String} (free : name ∉ protectedAttributes) (v : Value) :
    (r.assign name v).extras = if isContextual name then r.extras.put name v else r.extras := by
  by_cases context : name = "context"
  · subst context
    rfl
  · rw [assign_of_free free context, extras_attach]
    rfl

/-- The attributes that a log call gives become part of the context, but for the reserved ones. -/
theorem extras_assignAll (free : ∀ f ∈ extra, f.1 ∉ protectedAttributes) :
    (r.assignAll extra).extras = r.extras.overlay (extra.filter fun f ↦ isContextual f.1) := by
  induction extra generalizing r with
  | nil => rfl
  | cons f extra ih =>
    obtain ⟨first, others⟩ := List.forall_mem_cons.mp free
    have later : (r.assignAll (f :: extra)).extras = _ := ih (r := r.assign f.1 f.2) others
    rw [later, extras_assign first]
    cases h : isContextual f.1 with
    | true =>
      rw [List.filter_cons_of_pos (by simpa using h)]
      rfl
    | false =>
      rw [List.filter_cons_of_neg (by simp [h])]
      rfl

/-- The context of a record with attributes that a log call gives: that of the store, overlaid with
the attributes, but for two that never are part of it. -/
theorem context_assignAll (fresh : r.Fresh) (free : ∀ f ∈ extra, f.1 ∉ protectedAttributes)
    (store : Context) :
    ((r.assignAll extra).contextualize store).context = some (.record
      (store.overlay (extra.filter fun f ↦ f.1 != "context" && f.1 != "taskName"))) := by
  have contextual : extra.filter (fun f ↦ isContextual f.1) =
      extra.filter fun f ↦ f.1 != "context" && f.1 != "taskName" := by
    refine List.filter_congr fun f hf ↦ ?_
    have unprotected := free f hf
    simp only [protectedAttributes, List.mem_append, List.mem_cons, List.not_mem_nil, or_false,
      not_or] at unprotected
    rw [Bool.eq_iff_iff]
    simp [isContextual, reservedAttributes, unprotected, and_comm]
  have given := Context.overlay_overlay (c := store) (d := []) List.nodup_nil
    (extra.filter fun f ↦ f.1 != "context" && f.1 != "taskName")
  rw [contextualize, extras_assignAll free, fresh.extras_eq_nil, contextual, given]
  rfl

/-- The message and the time that formatting leaves on a record are not part of the context. -/
theorem annotate_keeps {message format : String} {pattern : Option String}
    (h : r.annotate message format pattern = .ok r') :
    r'.extras = r.extras ∧ r'.context = r.context := by
  have left (r : Record) (name : String) (v : Value) (reserved : isContextual name = false) :
      (r.attach name v).extras = r.extras := by
    rw [extras_attach, reserved]
    rfl
  unfold annotate at h
  split at h
  · obtain ⟨time, -, rfl⟩ := map_eq_ok_iff.mp h
    refine ⟨?_, rfl⟩
    rw [left _ _ _ (by decide), left _ _ _ (by decide)]
  · cases h
    exact ⟨left _ _ _ (by decide), rfl⟩

/-- Nor is the report of a failure. -/
theorem reported_keeps (h : r.reported = .ok r') :
    r'.extras = r.extras ∧ r'.context = r.context := by
  unfold reported at h
  split at h
  · cases h
    exact ⟨rfl, rfl⟩
  · obtain ⟨report, -, rfl⟩ := map_eq_ok_iff.mp h
    cases report <;> exact ⟨rfl, rfl⟩

end Record

/-- What a formatter leaves on a record is not part of the context. -/
theorem Formatter.run_keeps {f : Formatter} {text : String} (formatted : f.run r = .ok (text, r')) :
    r'.extras = r.extras ∧ r'.context = r.context := by
  cases f with
  | json pattern =>
    obtain ⟨line, -, written⟩ := map_eq_ok_iff.mp formatted
    cases written
    exact ⟨rfl, rfl⟩
  | text format pattern =>
    obtain ⟨message, -, h⟩ := bind_eq_ok_iff.mp formatted
    obtain ⟨annotated, marked, h⟩ := bind_eq_ok_iff.mp h
    obtain ⟨filled, -, h⟩ := bind_eq_ok_iff.mp h
    obtain ⟨⟨⟩, -, h⟩ := bind_eq_ok_iff.mp h
    obtain ⟨noted, reported, h⟩ := bind_eq_ok_iff.mp h
    obtain ⟨withFailure, -, h⟩ := bind_eq_ok_iff.mp h
    obtain ⟨⟨⟩, -, h⟩ := bind_eq_ok_iff.mp h
    obtain ⟨withStack, -, h⟩ := bind_eq_ok_iff.mp h
    obtain ⟨suffix, -, h⟩ := bind_eq_ok_iff.mp h
    cases h
    obtain ⟨extras, context⟩ := Record.annotate_keeps marked
    obtain ⟨extras', context'⟩ := Record.reported_keeps reported
    exact ⟨extras'.trans extras, context'.trans context⟩

/-- What may become of a record: it passes filters, that fill in the context from a store, and is
formatted, in any order and any number of times. -/
inductive Treated (store : Context) (r : Record) : Record → Prop where
  /-- Nothing has been done. -/
  | untouched : Treated store r r
  /-- The record passes a filter. -/
  | filtered {r' : Record} (before : Treated store r r') (f : Filter) :
    Treated store r (f.apply store r')
  /-- The record is formatted. -/
  | formatted {r' r'' : Record} {text : String} (before : Treated store r r') (f : Formatter)
    (written : f.run r' = .ok (text, r'')) : Treated store r r''

/-- A record whose context was filled in keeps it, and what the context was made of. -/
theorem Treated.extras_and_context (h : Treated store r r')
    (filled : r.context = some (.record (store.overlay r.extras))) :
    r'.extras = r.extras ∧ r'.context = r.context := by
  induction h with
  | untouched => exact ⟨rfl, rfl⟩
  | filtered before f ih =>
    cases f
    refine ⟨ih.1, ?_⟩
    rw [filled, ← ih.1]
    rfl
  | formatted before f written ih =>
    obtain ⟨extras, context⟩ := f.run_keeps written
    exact ⟨extras.trans ih.1, context.trans ih.2⟩

/-- A log call that is let through and accepted gives no protected attribute, and its record is
handed to the handlers. -/
theorem State.call_eq_ok {s t : State} (enabled : enables s.logger.threshold r.level = true)
    (accepted : s.call r extra = .ok t) :
    (∀ f ∈ extra, f.1 ∉ protectedAttributes) ∧ s.emit (r.assignAll extra) = t := by
  rw [call, if_pos enabled] at accepted
  split at accepted
  · cases accepted
  · next free =>
    exact ⟨fun f hf ↦ by simpa [protectedAttributes] using List.find?_eq_none.mp free f hf,
      Except.ok.inj accepted⟩

/-- A log call whose level is let through and whose attributes are accepted adds one record. Its
context is that of the thread, overlaid with all attributes of the call but `context` and
`taskName`: their values count before those of the thread, the names of the thread keep their places
and the others follow in the order of the call. The context of the thread stays as it is. While it
does, the record keeps its context whatever filters and formatters it passes afterwards. -/
theorem logged_context_stable {env : Environment} {l : Logger} {s t : State}
    (configured : l.configure env = .ok s.logger) (fresh : r.Fresh)
    (enabled : enables s.logger.threshold r.level = true) (accepted : s.call r extra = .ok t) :
    let given := extra.filter fun f ↦ f.1 != "context" && f.1 != "taskName"
    let c := s.context.overlay given
    (c.keys = s.context.keys ++
        ((given.map Prod.fst).filter fun k ↦ !s.context.keys.contains k).eraseDups ∧
      ∀ k, c.lookup k = (given.reverse.lookup k).or (s.context.lookup k)) ∧
    t.context = s.context ∧
    ∃ logged, t.records = s.records ++ [logged] ∧ logged.context = some (.record c) ∧
      ∀ later, Treated t.context logged later → later.context = some (.record c) := by
  obtain ⟨formatter, handlers⟩ := Logger.handlers_configure configured
  obtain ⟨free, rfl⟩ := State.call_eq_ok enabled accepted
  obtain ⟨-, context, records⟩ := s.emit_adds (r.assignAll extra)
  have filled := Record.context_assignAll fresh free s.context
  rw [handlers] at records
  refine ⟨⟨Context.keys_overlay _ _, Context.lookup_overlay _ _⟩, context, _, records, filled,
    fun later treated ↦ ?_⟩
  rw [context] at treated
  exact (treated.extras_and_context rfl).2.trans filled

/-- A failure is logged from a source file. -/
private def filedFailure : Record where
  message := .text "not sent"
  module := .text "worker"
  function := .text "run"
  exception := .trace { failure := .prefetchSize }
  attached := [("pathname", .text "/srv/worker.py")]

/-- The log inside a block, as an environment without variables sets it up. -/
private def insideBlock : State where
  logger :=
    { threshold := info, propagate := false
      handlers := [{ formatter := .text standardFormat none, filters := [.context] }] }
  context := [("attempt", .int 1), ("destination", .text "orders")]

/-- One of the attributes has a name of the block, and two are never part of the context. -/
private def mixedAttributes : List (String × Value) :=
  [("worker", .null), ("context", .text "none"), ("attempt", .int 2), ("taskName", .text "main")]

/-- The record of the failure with these attributes. -/
private def filedRecord : Record :=
  (filedFailure.assignAll mixedAttributes).contextualize insideBlock.context

/-- Formatting leaves two attributes on the record, and filling in the context once more does not
find them. -/
theorem logged_context_stable_formatted :
    ∃ t text written,
      insideBlock.call filedFailure mixedAttributes = .ok t ∧ t.records = [filedRecord] ∧
      filedRecord.context = some (.record
        [("attempt", .int 2), ("destination", .text "orders"), ("worker", .null)]) ∧
      (Formatter.text standardFormat none).run filedRecord = .ok (text, written) ∧
      written.attached.keys =
        ["pathname", "worker", "attempt", "taskName", "message", "asctime"] ∧
      (written.contextualize t.context).context = filedRecord.context := by
  have configured : Logger.configure [] {} = .ok insideBlock.logger := rfl
  have fresh : filedFailure.Fresh := by simp [Record.Fresh, filedFailure, standardAttributes]
  obtain ⟨t, accepted⟩ : ∃ t, insideBlock.call filedFailure mixedAttributes = .ok t := ⟨_, rfl⟩
  obtain ⟨-, -, logged, records, context, stable⟩ :=
    logged_context_stable configured fresh (by decide) accepted
  obtain rfl : filedRecord = logged := by
    cases accepted
    exact (List.cons.inj records).1
  have left : (((Formatter.text standardFormat none).run filedRecord).toOption.map
      fun p ↦ p.2.attached.keys) =
      some ["pathname", "worker", "attempt", "taskName", "message", "asctime"] := by
    decide +kernel
  obtain ⟨⟨text, written⟩, formatted, keys⟩ := Option.map_eq_some_iff.mp left
  have formatted := toOption_eq_some_iff.mp formatted
  have again := stable _ ((Treated.untouched.formatted _ formatted).filtered .context)
  exact ⟨t, text, written, accepted, records, context, formatted, keys, again.trans context.symm⟩

end Log
end QueueAck
