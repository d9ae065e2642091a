import Mathlib
import QueueAck.Log.Logger
import QueueAck.Proofs.Json.RoundTrip
import QueueAck.Proofs.Named
import QueueAck.Proofs.Stamps

/-!
# Log lines in JSON

What a line in the JSON form says. A record whose context was filled in has a line exactly when its
time, its message and its failure have a text (`formatJson_eq_ok_iff`). The line is printable ASCII,
and it is read back as an object: the standard members first, then the rest of the context, and the
failure where the context does not say otherwise (`Tells`).
-/

namespace QueueAck

/-! ### Values that can be read back -/

namespace Value

mutual

/-- No double is in the value, and no integer with more digits than are written. -/
def Plain : Value → Prop
  | .null | .bool _ | .text _ | .mode _ | .object .. => True
  | .int i => i.natAbs < Text.writeLimit
  | .double _ => False
  | .list vs => PlainItems vs
  | .record fs => PlainFields fs

/-- All values are plain. -/
def PlainItems : List Value → Prop
  | [] => True
  | v :: vs => v.Plain ∧ PlainItems vs

/-- All named values are plain. -/
def PlainFields : List (String × Value) → Prop
  | [] => True
  | (_, v) :: fs => v.Plain ∧ PlainFields fs

end

/-- Named values are plain when each one is. -/
theorem plainFields_iff {fs : List (String × Value)} :
    PlainFields fs ↔ ∀ f ∈ fs, f.2.Plain := by
  induction fs with
  | nil => simp [PlainFields]
  | cons f fs ih => simp [PlainFields, ih]

end Value

namespace Json

mutual

/-- The JSON form of a plain value has no double and is written. -/
theorem exact_ofValue : ∀ {v : Value}, v.Plain → (ofValue v).Exact ∧ (ofValue v).isWritable = true
  | .null, _ | .bool _, _ | .text _, _ | .mode _, _ | .object .., _ => ⟨trivial, rfl⟩
  | .int _, h => ⟨trivial, decide_eq_true h⟩
  | .list _, h => exact_ofValues h
  | .record _, h => exact_ofFields h

/-- So are the forms of plain values. -/
theorem exact_ofValues : ∀ {vs : List Value}, Value.PlainItems vs →
    ItemsExact (ofValues vs) ∧ areWritable (ofValues vs) = true
  | [], _ => ⟨trivial, rfl⟩
  | _ :: _, ⟨hv, hvs⟩ => by
    obtain ⟨exact_v, written_v⟩ := exact_ofValue hv
    obtain ⟨exact_vs, written_vs⟩ := exact_ofValues hvs
    exact ⟨⟨exact_v, exact_vs⟩, Bool.and_eq_true_iff.mpr ⟨written_v, written_vs⟩⟩

/-- So are the forms of plain named values. -/
theorem exact_ofFields : ∀ {fs : List (String × Value)}, Value.PlainFields fs →
    MembersExact (ofFields fs) ∧ membersAreWritable (ofFields fs) = true
  | [], _ => ⟨trivial, rfl⟩
  | _ :: _, ⟨hv, hfs⟩ => by
    obtain ⟨exact_v, written_v⟩ := exact_ofValue hv
    obtain ⟨exact_fs, written_fs⟩ := exact_ofFields hfs
    exact ⟨⟨exact_v, exact_fs⟩, Bool.and_eq_true_iff.mpr ⟨written_v, written_fs⟩⟩

end

end Json

/-! ### Contexts without repeated names -/

namespace Context

variable {c : Context} {fields : List (String × Value)} {k : String} {v : Value}

/-- Names stay distinct when one is given a value. -/
theorem nodup_keys_put (distinct : c.keys.Nodup) : (c.put k v).keys.Nodup := by
  rw [keys_put]
  split
  · exact distinct
  · next fresh =>
    exact List.nodup_append.mpr ⟨distinct, List.nodup_singleton k, by
      rintro a ha b hb rfl
      exact fresh (List.mem_singleton.mp hb ▸ ha)⟩

/-- Names stay distinct when several are given values. -/
theorem nodup_keys_overlay (distinct : c.keys.Nodup) : (c.overlay fields).keys.Nodup := by
  induction fields generalizing c with
  | nil => exact distinct
  | cons f fields ih => exact ih (nodup_keys_put distinct)

/-- What is laid over a context comes first, and of the names in it each has its value. -/
theorem lookup_overlay_of_nodup {fields : Context} (distinct : fields.keys.Nodup) :
    (c.overlay fields).lookup k = (fields.lookup k).or (c.lookup k) := by
  have reversed : keys fields.reverse = (keys fields).reverse := List.map_reverse
  have distinct_reversed : (keys fields.reverse).Nodup :=
    reversed ▸ List.nodup_reverse.mpr distinct
  have same : fields.reverse.lookup k = fields.lookup k := by
    ext v
    rw [lookup_eq_some_iff distinct_reversed, List.mem_reverse, lookup_eq_some_iff distinct]
  rw [lookup_overlay, same]

/-- What holds of all values and of a new one holds of all values with it. -/
theorem forall_mem_put {P : Value → Prop} (h : ∀ f ∈ c, P f.2) (hv : P v) :
    ∀ f ∈ c.put k v, P f.2 := by
  induction c with
  | nil => exact List.forall_mem_singleton.mpr hv
  | cons f c ih =>
    obtain ⟨first, others⟩ := List.forall_mem_cons.mp h
    unfold put
    split
    · exact List.forall_mem_cons.mpr ⟨hv, others⟩
    · exact List.forall_mem_cons.mpr ⟨first, ih others⟩

/-- What holds of the values of two contexts holds of those of the one laid over the other. -/
theorem forall_mem_overlay {P : Value → Prop} (h : ∀ f ∈ c, P f.2) (hf : ∀ f ∈ fields, P f.2) :
    ∀ f ∈ c.overlay fields, P f.2 := by
  induction fields generalizing c with
  | nil => exact h
  | cons f fields ih =>
    obtain ⟨first, others⟩ := List.forall_mem_cons.mp hf
    exact ih (forall_mem_put h first) others

end Context

namespace Log

variable {pattern : Option String} {r : Record} {c : Context} {time message : String}
  {report : Option String}

/-! ### When there is a line -/

/-- The time, the message and the failure of a record have a text, and nothing that is asked for was
taken away. -/
structure Record.Formats (pattern : Option String) (r : Record) (time message : String)
    (report : Option String) : Prop where
  /-- The attributes are there. -/
  present : ∀ n ∈ ["levelname", "name", "module", "funcName", "lineno", "thread", "exc_info"],
    n ∉ r.lost
  /-- The text of the moment. -/
  time : r.stamp pattern = .ok time
  /-- The message with its arguments. -/
  message : r.text = .ok message
  /-- The report of the failure, if there is one. -/
  report : r.exception.report? = .ok report

/-- The members of the JSON form: the standard ones, overlaid with the context, and the report. -/
def Record.members (r : Record) (c : Context) (time message : String) (report : Option String) :
    Context :=
  report.elim ((standardMembers r time message).overlay c) fun t ↦
    ((standardMembers r time message).overlay c).put "exception" (.text t)

/-- Attributes that are asked for are there exactly when none was taken away. -/
theorem Record.need_eq_ok_iff {names : List String} :
    r.need names = .ok () ↔ ∀ n ∈ names, n ∉ r.lost := by
  unfold need
  cases lacking : names.find? fun n ↦ r.lost.contains n with
  | none => simpa using List.find?_eq_none.mp lacking
  | some n =>
    refine iff_of_false (by simp) fun all ↦ all n (List.mem_of_find?_eq_some lacking) ?_
    simpa using List.find?_some lacking

/-- A record with a context has members exactly when its time, its message and its failure have
a text. -/
theorem jsonMembers_eq_ok_iff (context : r.context = some (.record c)) {ms : Context} :
    jsonMembers pattern r = .ok ms ↔ ∃ time message report,
      r.Formats pattern time message report ∧ r.members c time message report = ms := by
  unfold jsonMembers
  constructor
  · intro h
    obtain ⟨time, stamped, h⟩ := bind_eq_ok_iff.mp h
    obtain ⟨⟨⟩, named, h⟩ := bind_eq_ok_iff.mp h
    obtain ⟨message, text, h⟩ := bind_eq_ok_iff.mp h
    obtain ⟨⟨⟩, placed, h⟩ := bind_eq_ok_iff.mp h
    obtain ⟨c', fields, h⟩ := bind_eq_ok_iff.mp h
    obtain ⟨⟨⟩, noted, h⟩ := bind_eq_ok_iff.mp h
    obtain ⟨report, reported, h⟩ := bind_eq_ok_iff.mp h
    rw [context] at fields
    cases fields
    have present := List.forall_mem_append.mpr ⟨Record.need_eq_ok_iff.mp named,
      List.forall_mem_append.mpr ⟨Record.need_eq_ok_iff.mp placed, Record.need_eq_ok_iff.mp noted⟩⟩
    refine ⟨time, message, report, ⟨present, stamped, text, reported⟩, ?_⟩
    cases report <;> exact Except.ok.inj h
  · rintro ⟨time, message, report, ⟨present, stamped, text, reported⟩, rfl⟩
    have parts : ∀ n ∈ ["levelname", "name"] ++
        (["module", "funcName", "lineno", "thread"] ++ ["exc_info"]), n ∉ r.lost := present
    obtain ⟨named, others⟩ := List.forall_mem_append.mp parts
    obtain ⟨placed, noted⟩ := List.forall_mem_append.mp others
    refine bind_eq_ok_iff.mpr ⟨time, stamped, ?_⟩
    refine bind_eq_ok_iff.mpr ⟨(), Record.need_eq_ok_iff.mpr named, ?_⟩
    refine bind_eq_ok_iff.mpr ⟨message, text, ?_⟩
    refine bind_eq_ok_iff.mpr ⟨(), Record.need_eq_ok_iff.mpr placed, ?_⟩
    refine bind_eq_ok_iff.mpr ⟨c, by rw [context]; rfl, ?_⟩
    refine bind_eq_ok_iff.mpr ⟨(), Record.need_eq_ok_iff.mpr noted, ?_⟩
    refine bind_eq_ok_iff.mpr ⟨report, reported, ?_⟩
    cases report <;> rfl

/-! ### What a line says -/

/-- The names of the standard members. -/
def standardKeys : List String :=
  ["timestamp", "level", "name", "message", "module", "function", "line", "thread"]

/-- The standard members have distinct names. -/
theorem nodup_standardMembers : (standardMembers r time message).keys.Nodup := by
  change standardKeys.Nodup
  decide

/-- What the members of a line are, for a record with a context, the text of its time, its message
and the report of its failure, if there is one. -/
structure Record.Tells (r : Record) (c : Context) (time message : String) (report : Option String)
    (ms : Context) : Prop where
  /-- The standard members come first, then the other names of the context, and at the end the
  failure, unless the context has a place for it. -/
  keys : ms.keys = standardKeys ++ c.keys.filter (fun k ↦ k ∉ standardKeys) ++
    if report.isSome ∧ "exception" ∉ c.keys then ["exception"] else []
  /-- The failure has its report. -/
  failure : ∀ t, report = some t → ms.lookup "exception" = some (.text t)
  /-- Any other name of the context has the value of the context. -/
  context : ∀ k v, c.lookup k = some v → (k ≠ "exception" ∨ report = none) → ms.lookup k = some v
  /-- The standard members that are left have the values of the record. -/
  standard : ∀ k v, (k, v) ∈ [("timestamp", .text time), ("level", r.levelName),
      ("name", r.name), ("message", .text message), ("module", r.module),
      ("function", r.function), ("line", r.line), ("thread", r.thread)] →
    k ∉ c.keys → ms.lookup k = some v

/-- Without repeated names nothing is left out by erasing repetitions. -/
theorem eraseDups_of_nodup {ks : List String} (distinct : ks.Nodup) : ks.eraseDups = ks := by
  induction ks with
  | nil => rfl
  | cons k ks ih =>
    obtain ⟨fresh, distinct⟩ := List.nodup_cons.mp distinct
    have kept : (ks.filter fun l ↦ !l == k) = ks :=
      List.filter_eq_self.mpr fun l hl ↦ by simpa using fun e : l = k ↦ fresh (e ▸ hl)
    rw [List.eraseDups_cons, kept, ih distinct]

/-- The standard members, overlaid with the context, say what they should without a failure. -/
theorem Record.tells_overlay (distinct : c.keys.Nodup) :
    r.Tells c time message none ((standardMembers r time message).overlay c) := by
  have fresh : (c.keys.filter fun k ↦ !standardKeys.contains k).Nodup := distinct.filter _
  have overlaid (k : String) := Context.lookup_overlay_of_nodup
    (c := standardMembers r time message) (k := k) distinct
  refine ⟨?_, by simp, fun k v hk _ ↦ ?_, fun k v hk free ↦ ?_⟩
  · rw [Context.keys_overlay]
    change standardKeys ++ (c.keys.filter fun k ↦ !standardKeys.contains k).eraseDups = _
    rw [eraseDups_of_nodup fresh]
    simp
  · rw [overlaid, hk, Option.some_or]
  · rw [overlaid, lookup_eq_none_iff.mpr free, Option.none_or]
    exact (lookup_eq_some_iff nodup_standardMembers).mpr hk

/-- A failure is put where the context has a place for it, or at the end. -/
theorem Record.Tells.put {ms : Context} (h : r.Tells c time message none ms) (t : String) :
    r.Tells c time message (some t) (ms.put "exception" (.text t)) := by
  have keys : ms.keys = standardKeys ++ c.keys.filter fun k ↦ k ∉ standardKeys := by
    simpa using h.keys
  have apart : "exception" ∉ standardKeys := by decide
  have there : "exception" ∈ ms.keys ↔ "exception" ∈ c.keys := by simp [keys, apart]
  refine ⟨?_, ?_, fun k v hk other ↦ ?_, fun k v hk free ↦ ?_⟩
  · rw [Context.keys_put]
    by_cases place : "exception" ∈ c.keys
    · rw [if_pos (there.mpr place), keys]
      simp [place]
    · rw [if_neg (there.not.mpr place), keys]
      simp [place]
  · rintro _ ⟨⟩
    exact Context.lookup_put_self _ _ _
  · rw [Context.lookup_put_of_ne _ _ (other.resolve_right (by simp))]
    exact h.context k v hk (.inr rfl)
  · have other : k ≠ "exception" := by
      rintro rfl
      simp at hk
    rw [Context.lookup_put_of_ne _ _ other]
    exact h.standard k v hk free

/-- The members of a record say what they should. -/
theorem Record.tells_members (distinct : c.keys.Nodup) :
    r.Tells c time message report (r.members c time message report) := by
  cases report with
  | none => exact tells_overlay distinct
  | some t => exact (tells_overlay distinct).put t

/-- The members are plain when the context is, and what the record tells about itself. -/
theorem Record.plain_members (context : ∀ f ∈ c, f.2.Plain)
    (origin : ∀ v ∈ [r.levelName, r.name, r.module, r.function, r.line, r.thread], v.Plain)
    (time message : String) (report : Option String) :
    (Value.record (r.members c time message report)).Plain := by
  have standard : ∀ f ∈ standardMembers r time message, f.2.Plain := by
    simp only [List.forall_mem_cons] at origin
    obtain ⟨level, name, module, function, line, thread, -⟩ := origin
    simp only [standardMembers, List.forall_mem_cons]
    exact ⟨trivial, level, name, trivial, module, function, line, thread, by simp⟩
  have overlaid := Context.forall_mem_overlay standard context
  refine Value.plainFields_iff.mpr ?_
  cases report with
  | none => exact overlaid
  | some t => exact Context.forall_mem_put overlaid trivial

/-- A plain record with a plain context has a line exactly when its time, its message and its
failure have a text. -/
theorem formatJson_eq_ok_iff (filled : r.context = some (.record c)) (context : ∀ f ∈ c, f.2.Plain)
    (origin : ∀ v ∈ [r.levelName, r.name, r.module, r.function, r.line, r.thread], v.Plain)
    {line : String} : formatJson pattern r = .ok line ↔ ∃ time message report,
      r.Formats pattern time message report ∧
      (Json.ofValue (.record (r.members c time message report))).render = line := by
  have writable (time message : String) (report : Option String) :
      (Json.ofValue (.record (r.members c time message report))).isWritable = true :=
    (Json.exact_ofValue (r.plain_members context origin time message report)).2
  constructor
  · intro h
    obtain ⟨ms, named, h⟩ := bind_eq_ok_iff.mp h
    obtain ⟨time, message, report, formats, rfl⟩ := (jsonMembers_eq_ok_iff filled).mp named
    rw [if_pos (writable _ _ _)] at h
    exact ⟨time, message, report, formats, Except.ok.inj h⟩
  · rintro ⟨time, message, report, formats, rfl⟩
    refine bind_eq_ok_iff.mpr ⟨_, (jsonMembers_eq_ok_iff filled).mpr ⟨_, _, _, formats, rfl⟩, ?_⟩
    exact if_pos (writable _ _ _)

/-- Filling in the context changes none of the texts. -/
theorem Record.formats_contextualize {store : Context} :
    (r.contextualize store).Formats pattern time message report ↔
      r.Formats pattern time message report :=
  ⟨fun h ↦ ⟨h.present, h.time, h.message, h.report⟩,
    fun h ↦ ⟨h.present, h.time, h.message, h.report⟩⟩

/-! ### Records as logging makes them -/

/-- A record as logging makes it: nothing was taken away, the moment is in the calendar and before
the year 10000, and what is noted of a failure can be reported. That is the failure, or nothing, or
that there was none when a failure was asked for. -/
structure Record.Made (r : Record) : Prop where
  /-- All standard attributes are there. -/
  whole : r.lost = []
  /-- The moment is in the calendar. -/
  moment : ∃ t, CalendarTime.secondsOf r.created = .ok t ∧ CalendarTime.firstSecond ≤ t ∧
    t < CalendarTime.yearTenThousand
  /-- The milliseconds are a number. -/
  milliseconds : CalendarTime.IsCount r.milliseconds
  /-- What is noted of a failure can be reported. -/
  exception : ∃ report, r.exception.report? = .ok report

/-- The moment of a record as logging makes it has a text under any pattern without the null
character. -/
theorem Record.Made.exists_stamp (h : r.Made) (plain : ∀ p ∈ pattern, '\x00' ∉ p.toList) :
    ∃ time, r.stamp pattern = .ok time := by
  obtain ⟨t, seconds, lower, upper⟩ := h.moment
  have used : ∀ p ∈ usedPattern pattern, '\x00' ∉ p.toList := fun p hp ↦
    plain p (Option.mem_filter_iff.mp hp).1
  obtain ⟨time, stamped⟩ := CalendarTime.exists_stamp used seconds lower upper h.milliseconds
  have need (names : List String) : r.need names = .ok () := need_of_lost_eq_nil h.whole names
  refine ⟨time, bind_eq_ok_iff.mpr ⟨(), need _, ?_⟩⟩
  refine bind_eq_ok_iff.mpr ⟨time, mapError_eq_ok_iff.mpr stamped, ?_⟩
  split
  · exact bind_eq_ok_iff.mpr ⟨(), need _, rfl⟩
  · rfl

/-- Only the message decides whether a record as logging makes it is formatted. -/
theorem Record.Made.exists_formats (h : r.Made) (text : r.text = .ok message) :
    ∃ time report, r.Formats none time message report := by
  obtain ⟨time, stamped⟩ : ∃ time, r.stamp none = .ok time := h.exists_stamp (by simp)
  obtain ⟨report, reports⟩ := h.exception
  exact ⟨time, report, by simp [h.whole], stamped, text, reports⟩

end Log

open Log

/-- A record whose context was filled in, with names that are distinct and values that are plain,
has a line in the JSON form exactly when its time, its message and its failure have a text; of
a record as logging makes it, that is when its message has one. The line is made of printable ASCII
characters, and it is read back as the object that it says: the standard members, the other names of
the context, and the failure, where the context has the last word on all but the failure. -/
theorem json_line_decodes {r : Record} {store : Context} (pattern : Option String)
    (distinct : store.keys.Nodup) (plain : ∀ f ∈ store.overlay r.extras, f.2.Plain)
    (origin : ∀ v ∈ [r.levelName, r.name, r.module, r.function, r.line, r.thread], v.Plain) :
    ((∃ line, formatJson pattern (r.contextualize store) = .ok line) ↔
      ∃ time message report, r.Formats pattern time message report) ∧
    (r.Made → ((∃ line, formatJson none (r.contextualize store) = .ok line) ↔
      ∃ message, r.text = .ok message)) ∧
    ∀ line, formatJson pattern (r.contextualize store) = .ok line →
      (∀ x ∈ line.toList, ' ' ≤ x ∧ x ≤ '~') ∧
      ∃ time message report members, r.Formats pattern time message report ∧
        r.Tells (store.overlay r.extras) time message report members ∧
        Json.parse? line = some (.object (Json.ofFields members)) := by
  have lines (pattern : Option String) (line : String) :
      formatJson pattern (r.contextualize store) = .ok line ↔ ∃ time message report,
        r.Formats pattern time message report ∧ (Json.ofValue (.record
          (r.members (store.overlay r.extras) time message report))).render = line := by
    refine (formatJson_eq_ok_iff (r := r.contextualize store) rfl plain origin).trans ?_
    simp only [Record.formats_contextualize]
    rfl
  have some_line (pattern : Option String) :
      (∃ line, formatJson pattern (r.contextualize store) = .ok line) ↔
        ∃ time message report, r.Formats pattern time message report := by
    simp only [lines]
    constructor
    · rintro ⟨_, time, message, report, formats, -⟩
      exact ⟨time, message, report, formats⟩
    · rintro ⟨time, message, report, formats⟩
      exact ⟨_, time, message, report, formats, rfl⟩
  refine ⟨some_line pattern, fun made ↦ ?_, fun line formatted ↦ ?_⟩
  · rw [some_line none]
    constructor
    · rintro ⟨_, message, _, formats⟩
      exact ⟨message, formats.message⟩
    · rintro ⟨message, text⟩
      obtain ⟨time, report, formats⟩ := made.exists_formats text
      exact ⟨time, message, report, formats⟩
  · obtain ⟨time, message, report, formats, rfl⟩ := (lines pattern line).mp formatted
    obtain ⟨exact, -⟩ := Json.exact_ofValue (r.plain_members plain origin time message report)
    have names : (store.overlay r.extras).keys.Nodup := Context.nodup_keys_overlay distinct
    exact ⟨Json.printable_render exact, time, message, report, _, formats,
      Record.tells_members names, Json.parse?_render exact⟩

/-- A failure is logged with a line break and a character beyond the basic plane, in a context that
has a level and an exception of its own. -/
private def troubled : Record where
  message := .text ("lost\n".push (Char.ofNat 0x1f600))
  module := .text "negative"
  function := .text "nack"
  created := .double (.finite false 7 2)
  milliseconds := .double (.finite false 5 (-1))
  exception := .trace { failure := .prefetchSize }
  attached := [("destination", .text "orders")]

private def troubledStore : Context :=
  [("level", .mode .queueDelay), ("exception", .list [.null, .bool true, .int (-3)])]

/-- The level is that of the context, the exception is the failure, at the place of the context, and
the line break is escaped. -/
theorem json_line_of_failure :
    ∃ (line : String) (members : Context),
      formatJson none (troubled.contextualize troubledStore) = .ok line ∧
      Json.parse? line = some (.object (Json.ofFields members)) ∧ '\n' ∉ line.toList ∧
      members.keys = standardKeys ++ ["exception", "destination"] ∧
      members.lookup "level" = some (.mode .queueDelay) ∧
      members.lookup "line" = some (.int 0) ∧
      ∃ report, members.lookup "exception" = some (.text report) := by
  have limit : 10 ≤ Text.writeLimit := by decide +kernel
  have small {i : Int} (h : i.natAbs < 10) : (Value.int i).Plain := Nat.lt_of_lt_of_le h limit
  have plain : ∀ f ∈ troubledStore.overlay troubled.extras, f.2.Plain := by
    change ∀ f ∈ [_, _, _], _
    simp only [List.forall_mem_cons]
    exact ⟨trivial, ⟨trivial, trivial, small (by decide), trivial⟩, trivial, by simp⟩
  have origin : ∀ v ∈ [troubled.levelName, troubled.name, troubled.module, troubled.function,
      troubled.line, troubled.thread], v.Plain := by
    simp only [List.forall_mem_cons]
    exact ⟨trivial, trivial, trivial, trivial, small (by decide), small (by decide), by simp⟩
  have seconds : CalendarTime.secondsOf troubled.created = .ok 28 := by
    have floor : Double.floor false 7 2 = 28 := by decide +kernel
    simp [CalendarTime.secondsOf, troubled, floor, CalendarTime.timeBound]
  have made : troubled.Made :=
    ⟨rfl, ⟨28, seconds, by decide, by decide⟩, .double _ _ _ (by decide +kernel), ⟨_, rfl⟩⟩
  have text : troubled.text = .ok troubled.message.toText := by
    have offered : troubled.attached.lookup Record.textOperation = none := by decide
    rw [Record.text, offered]
    exact bind_eq_ok_iff.mpr ⟨(), Record.need_of_lost_eq_nil rfl _, rfl⟩
  obtain ⟨-, some_line, decoded⟩ := json_line_decodes none (by decide) plain origin
  obtain ⟨line, formatted⟩ := (some_line made).mpr ⟨_, text⟩
  obtain ⟨printable, time, message, report, members, formats, tells, parsed⟩ :=
    decoded line formatted
  have unbroken : '\n' ∉ line.toList := fun h ↦ absurd (printable _ h) (by decide)
  refine ⟨line, members, formatted, parsed, unbroken, ?_, ?_, ?_, ?_⟩
  · have placed : "exception" ∈ (troubledStore.overlay troubled.extras).keys := by decide
    rw [tells.keys, if_neg fun h ↦ h.2 placed]
    decide
  · exact tells.context _ _ rfl (.inl (by decide))
  · exact tells.standard _ _ (by simp [troubled]) (by decide)
  · have reported : report = some (Trace.report { failure := .prefetchSize }) :=
      (Except.ok.inj formats.report).symm
    exact ⟨_, tells.failure _ reported⟩

end QueueAck
