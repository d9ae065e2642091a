import QueueAck.Proofs.Deadlines

/-!
# One deadline for each request

A call that changes the timeouts of a batch on Pub/Sub reads its entries as a set of deadlines and a
list of handles (`single_deadline`). When two entries disagree, the call is refused before anything
happens, with all deadlines in increasing order. Otherwise there is one exchange, under the deadline
that the entries share. In which order the entries come decides the order of the handles and of the
identifiers, and nothing else.

Both the refusal and the warning that a deadline is lowered show what was asked for. A deadline with
more digits than are written takes their place with a failure of its own
(`overlong_deadline_unshown`).
-/

namespace QueueAck

/-- The literal of a list of integers. -/
theorem Value.literal_ints (ts : List Int) :
    (Value.list (ts.map .int)).literal = "[" ++ ", ".intercalate (ts.map Int.repr) ++ "]" := by
  have literals : Value.literals (ts.map .int) = ts.map Int.repr := by
    induction ts with
    | nil => rfl
    | cons t ts ih => rw [List.map_cons, Value.literals, ih, Value.literal, List.map_cons]
  rw [Value.literal, literals]

/-- A list of integers can be shown exactly when each of them can. -/
theorem Value.isWritable_ints {ts : List Int} :
    (Value.list (ts.map .int)).isWritable = true ↔ ∀ t ∈ ts, t.natAbs < Text.writeLimit := by
  rw [isWritable]
  induction ts with
  | nil => simp [areWritable]
  | cons t ts ih =>
    rw [List.map_cons, areWritable, Bool.and_eq_true, ih, isWritable, decide_eq_true_iff,
      List.forall_mem_cons]

/-- The refusal of several deadlines lists them. -/
theorem Failure.message_severalDeadlines (ts : List Int) :
    (severalDeadlines ts).message = "Pub/Sub applies a single deadline per request but got " ++
      ("[" ++ ", ".intercalate (ts.map Int.repr) ++ "]") ++ "." := by
  rw [← Value.literal_ints]
  rfl

namespace PubSubBackend

variable {ε : Type} {destination : String} {entries entries' : List BatchEntry} {t : Int}

/-- All entries ask for one deadline, which is too long to be shown. -/
def Overlong (entries : List BatchEntry) : Prop :=
  ∃ t : Int, Shares entries t ∧ (Text.writeLimit : Int) ≤ t

/-- Entries in another order share a deadline that is too long as well. -/
theorem overlong_perm (reordered : entries.Perm entries') :
    Overlong entries' ↔ Overlong entries :=
  exists_congr fun _ ↦ and_congr_left fun _ ↦
    ⟨fun h ↦ h.perm reordered.symm, fun h ↦ h.perm reordered⟩

/-- Entries disagree, or share a deadline that is too long to be shown, or share another one. -/
theorem refused_or_exists_shares (entries : List BatchEntry) :
    (Disagree entries ∨ Overlong entries) ∨ ∃ t, Shares entries t ∧ t < Text.writeLimit := by
  rcases disagree_or_exists_shares entries with disagree | ⟨t, shared⟩
  · exact .inl (.inl disagree)
  · rcases lt_or_ge t (Text.writeLimit : Int) with short | long
    · exact .inr ⟨t, shared, short⟩
    · exact .inl (.inr ⟨t, shared, long⟩)

/-- The failure of entries that have no common deadline. It shows all deadlines, if all can be. -/
def refusal (entries : List BatchEntry) : Failure :=
  if ∀ t ∈ distinctDeadlines entries, t.natAbs < Text.writeLimit then
    .severalDeadlines (distinctDeadlines entries)
  else .unprintableInteger

/-- A shared deadline that is too long to be shown would have to be lowered. -/
theorem Overlong.exists_singleton (overlong : Overlong entries) :
    ∃ t, distinctDeadlines entries = [t] ∧ maxAckDeadline < t ∧ Text.writeLimit ≤ t.natAbs := by
  obtain ⟨t, shared, long⟩ := overlong
  have lowered : maxAckDeadline < t := Int.lt_of_lt_of_le maxAckDeadline_lt_writeLimit long
  have some_entry : entries ≠ [] := by
    intro empty
    rw [shared.none empty] at lowered
    exact absurd lowered (by decide)
  exact ⟨t, shared.distinctDeadlines_eq some_entry, lowered, by omega⟩

/-- It is not shown. -/
theorem refusal_of_overlong (overlong : Overlong entries) :
    refusal entries = .unprintableInteger := by
  obtain ⟨t, single, -, long⟩ := overlong.exists_singleton
  rw [refusal, single, if_neg fun shown ↦ Nat.not_lt.mpr long (shown t (List.mem_singleton_self t))]

/-- Entries that disagree have no common deadline. -/
theorem commonDeadline_of_disagree (disagree : Disagree entries) :
    (commonDeadline entries : Action ε Int) = throw (refusal entries) := by
  obtain ⟨s, t, ts, several⟩ := disagree.exists_cons_cons
  rw [commonDeadline, refusal, several]
  simp only [Value.isWritable_ints]
  exact (apply_ite throw _ _ _).symm

/-- A shared deadline that is too long to be shown cannot be lowered. -/
theorem commonDeadline_of_overlong (overlong : Overlong entries) :
    (commonDeadline entries : Action ε Int) = throw (refusal entries) := by
  obtain ⟨t, single, lowered, long⟩ := overlong.exists_singleton
  rw [refusal_of_overlong overlong, commonDeadline, single]
  dsimp only
  rw [if_pos lowered, decimalText_of_le long]
  rfl

/-- What a call leaves that sets the deadline of messages, each given by its handle and the
identifier of its entry: one exchange with the service, and a result that all entries were carried
out. -/
structure SetsDeadline (destination : String) (seconds : Int) (messages : List (String × String))
    (w : World (List PubSubEvent)) (r : Except Failure BatchResult × World (List PubSubEvent)) :
    Prop where
  /-- The service got one request, for all handles in order. -/
  outside : r.2.outside = w.outside ++
    PubSubEvent.exchange (.modifyDeadline destination (messages.map Prod.fst) seconds)
  /-- All identifiers are successful, in order. -/
  result : r.1 =
    .ok { destination, successful := messages.map fun m ↦ .text m.2, failed := [] }

/-- The message of an entry. -/
def handled (e : BatchEntry) : String × String := (e.receiptHandle, e.id)

section Calls

variable {reply : List PubSubEvent → PubSubEvent → Except Failure Unit}
  {calls : PubSubRequest → List CallFrame} {w : World (List PubSubEvent)}

/-- A call with entries that have no common deadline is refused, and nothing happens. -/
theorem apply_changeVisibility_of_refused (refused : Disagree entries ∨ Overlong entries) :
    ((answering reply calls).client.changeVisibility destination entries).apply w =
      (.error (refusal entries), w) := by
  have none_common : (commonDeadline entries : Action (List PubSubEvent) Int) =
      throw (refusal entries) :=
    refused.elim commonDeadline_of_disagree commonDeadline_of_overlong
  rw [client]
  dsimp only
  rw [none_common]
  rfl

/-- Something happens in every exchange. -/
theorem advance_ne (reply : List PubSubEvent → PubSubEvent → Except Failure Unit)
    (past : List PubSubEvent) (request : PubSubRequest) : advance reply past request ≠ past := by
  unfold advance
  split <;> simp

/-- A call is refused before anything happens exactly when its entries have no common deadline. -/
theorem untouched_iff :
    (((answering reply calls).client.changeVisibility destination entries).apply w).2.outside =
      w.outside ↔ Disagree entries ∨ Overlong entries := by
  constructor
  · intro untouched
    rcases refused_or_exists_shares entries with refused | ⟨t, shared, short⟩
    · exact refused
    · obtain ⟨l, changed, -⟩ :=
        apply_changeVisibility_answering reply calls shared short destination w
      rw [changed] at untouched
      exact absurd untouched (advance_ne reply _ _)
  · intro refused
    rw [apply_changeVisibility_of_refused refused]

/-- A call with entries that share a deadline sets it, when nothing fails. -/
theorem setsDeadline_of_shares (succeeds : NothingFails reply) (shared : Shares entries t)
    (short : t < Text.writeLimit) :
    SetsDeadline destination (min t 600) (entries.map handled) w
      (((answering reply calls).client.changeVisibility destination entries).apply w) := by
  obtain ⟨l, changed, -⟩ := apply_changeVisibility_answering reply calls shared short destination w
  have handles : (entries.map handled).map Prod.fst = entries.map BatchEntry.receiptHandle :=
    List.map_map
  have clear (request : PubSubRequest) : escapes reply w.outside request = none := by
    simp only [escapes, succeeds _ _]
    rfl
  have made (request : PubSubRequest) :
      advance reply w.outside request = w.outside ++ PubSubEvent.exchange request := by
    simp only [advance, succeeds _ _]
    rfl
  rw [changed, outcome, clear, made]
  refine ⟨?_, ?_⟩
  · rw [handles]
    rfl
  · rw [List.map_map]
    rfl

end Calls
end PubSubBackend

open PubSubBackend

/-- A call that changes the timeouts of a batch on Pub/Sub. When two entries disagree on the
deadline, where no timeout stands for zero, nothing happens to the service and the call is refused.
The text of the refusal lists the deadlines, each once and in increasing order; when one of them is
too long to be shown, the call fails for that. Entries that share a deadline which is too long fail
for it as well, with nothing done. In all other cases something happens to the service. Then the
entries share a deadline, which is zero when there are none; when nothing fails, the call sets it,
lowered to 600 seconds, for all messages in one request, and all of them are successful. Entries in
another order are refused in the same way, or get the same deadline, for the same messages in the
other order. -/
theorem single_deadline (reply : List PubSubEvent → PubSubEvent → Except Failure Unit)
    (calls : PubSubRequest → List CallFrame) (destination : String) (entries : List BatchEntry)
    (w : World (List PubSubEvent)) :
    let change (entries : List BatchEntry) :=
      ((answering reply calls).client.changeVisibility destination entries).apply w
    ((change entries).2.outside = w.outside ↔ Disagree entries ∨ Overlong entries) ∧
    (Disagree entries → ∃ ts : List Int, ∃ f : Failure,
      change entries = (.error f, w) ∧
      ts.Pairwise (· < ·) ∧ (∀ t, t ∈ ts ↔ ∃ e ∈ entries, e.deadline = t) ∧
      ((∀ t ∈ ts, t.natAbs < Text.writeLimit) →
        f = .severalDeadlines ts ∧ f.kind = "SQSMessagingException" ∧
        f.message = "Pub/Sub applies a single deadline per request but got " ++
          ("[" ++ ", ".intercalate (ts.map Int.repr) ++ "]") ++ ".") ∧
      ((∃ t ∈ ts, Text.writeLimit ≤ t.natAbs) →
        f = .unprintableInteger ∧ f.kind = "ValueError")) ∧
    (Overlong entries → change entries = (.error .unprintableInteger, w)) ∧
    (¬Disagree entries → ¬Overlong entries → ∃ t, Shares entries t ∧
      (NothingFails reply →
        SetsDeadline destination (min t 600) (entries.map handled) w (change entries))) ∧
    (∀ entries', entries.Perm entries' →
      (entries.map handled).Perm (entries'.map handled) ∧
      (Disagree entries' ↔ Disagree entries) ∧ (Overlong entries' ↔ Overlong entries) ∧
      (Disagree entries ∨ Overlong entries → change entries' = change entries) ∧
      (¬Disagree entries → ¬Overlong entries → NothingFails reply → ∃ seconds,
        SetsDeadline destination seconds (entries.map handled) w (change entries) ∧
        SetsDeadline destination seconds (entries'.map handled) w (change entries'))) := by
  intro change
  refine ⟨untouched_iff, fun disagree ↦ ?_, fun overlong ↦ ?_, fun agree short ↦ ?_,
    fun entries' reordered ↦ ?_⟩
  · refine ⟨_, _, apply_changeVisibility_of_refused (.inl disagree),
      pairwise_distinctDeadlines entries, fun _ ↦ mem_distinctDeadlines, fun shown ↦ ?_,
      fun ⟨t, asked, long⟩ ↦ ?_⟩
    · rw [refusal, if_pos shown]
      exact ⟨rfl, rfl, Failure.message_severalDeadlines _⟩
    · rw [refusal, if_neg fun shown ↦ Nat.not_lt.mpr long (shown t asked)]
      exact ⟨rfl, rfl⟩
  · rw [← refusal_of_overlong overlong]
    exact apply_changeVisibility_of_refused (.inr overlong)
  · obtain ⟨t, shared, written⟩ :=
      (refused_or_exists_shares entries).resolve_left (not_or.mpr ⟨agree, short⟩)
    exact ⟨t, shared, fun succeeds ↦ setsDeadline_of_shares succeeds shared written⟩
  · have alike := disagree_perm reordered
    have alike' := overlong_perm reordered
    refine ⟨reordered.map _, alike, alike', fun refused ↦ ?_, fun agree short succeeds ↦ ?_⟩
    · calc change entries'
        _ = (.error (refusal entries'), w) :=
          apply_changeVisibility_of_refused (refused.imp alike.mpr alike'.mpr)
        _ = (.error (refusal entries), w) := by
          rw [refusal, refusal, distinctDeadlines_of_perm reordered]
        _ = change entries := (apply_changeVisibility_of_refused refused).symm
    · obtain ⟨t, shared, written⟩ :=
        (refused_or_exists_shares entries).resolve_left (not_or.mpr ⟨agree, short⟩)
      exact ⟨min t 600, setsDeadline_of_shares succeeds shared written,
        setsDeadline_of_shares succeeds (shared.perm reordered) written⟩

/-- Entries that ask for three deadlines. Two of them ask for none, in different ways. -/
private def mixed : List BatchEntry :=
  [⟨"1", "a", some 700⟩, ⟨"2", "b", none⟩, ⟨"3", "c", some 0⟩, ⟨"4", "d", some (-5)⟩]

/-- Entries that share a deadline which is too long. -/
private def alike : List BatchEntry := [⟨"1", "a", some 700⟩, ⟨"2", "b", some 700⟩]

/-- The entries that disagree are refused with the three deadlines. For the others the longest
deadline is set in one request. -/
theorem single_deadline_mixed :
    let change (entries : List BatchEntry) :=
      ((answering (fun _ _ ↦ .ok ()) fun _ ↦ []).client.changeVisibility "orders" entries).apply
        { outside := [] }
    (∃ f, change mixed = (.error f, { outside := [] }) ∧ f.message =
      "Pub/Sub applies a single deadline per request but got [-5, 0, 700].") ∧
    (change alike).1 = .ok { destination := "orders", successful := [.text "1", .text "2"] } ∧
    (change alike).2.outside =
      [.opened, .called (.modifyDeadline "orders" ["a", "b"] 600), .closed none] := by
  intro change
  constructor
  · obtain ⟨-, refused, -⟩ := single_deadline (fun _ _ ↦ .ok ()) (fun _ ↦ []) "orders" mixed
      { outside := [] }
    obtain ⟨ts, f, failed, sorted, deadlines, listed, -⟩ :=
      refused ⟨⟨"1", "a", some 700⟩, by simp [mixed], ⟨"2", "b", none⟩, by simp [mixed], by decide⟩
    have three : distinctDeadlines mixed = [-5, 0, 700] :=
      distinctDeadlines_unique (by decide) fun t ↦ by simp [mixed, BatchEntry.deadline]; omega
    obtain rfl : [-5, 0, 700] = ts := three.symm.trans (distinctDeadlines_unique sorted deadlines)
    obtain ⟨-, -, text⟩ := listed (by decide +kernel)
    exact ⟨f, failed, text.trans (by decide +kernel)⟩
  · obtain ⟨-, -, -, carriedOut, -⟩ :=
      single_deadline (fun _ _ ↦ .ok ()) (fun _ ↦ []) "orders" alike { outside := [] }
    have together : Shares alike 700 := .of_forall (List.cons_ne_nil _ _) (by decide)
    have short : ¬Overlong alike := by
      rintro ⟨t, shared, long⟩
      obtain rfl : 700 = t := shared.all ⟨"1", "a", some 700⟩ (by simp [alike])
      exact absurd long (by decide +kernel)
    obtain ⟨t, shared, sets⟩ := carriedOut together.not_disagree short
    obtain rfl : 700 = t := shared.all ⟨"1", "a", some 700⟩ (by simp [alike])
    obtain ⟨outside, result⟩ := sets fun _ _ ↦ rfl
    exact ⟨result, outside⟩

/-- The least number that is too long to be shown. -/
theorem Text.writeLimit_eq : Text.writeLimit = 10 ^ 4300 := by decide +kernel

/-- A deadline of 4301 digits. Two entries that disagree about it fail as no refusal does, and one
that asks for it alone fails as well. -/
theorem overlong_deadline_unshown :
    let change (entries : List BatchEntry) :=
      ((answering (fun _ _ ↦ .ok ()) fun _ ↦ []).client.changeVisibility "orders" entries).apply
        { outside := [] }
    let long : BatchEntry := ⟨"2", "b", some (10 ^ 4300)⟩
    (∃ f, change [⟨"1", "a", none⟩, long] = (.error f, { outside := [] }) ∧
      f.kind = "ValueError") ∧
    (∃ f, change [long] = (.error f, { outside := [] }) ∧ f.kind = "ValueError") := by
  intro change long
  have timeout : long.visibilityTimeout = some (10 ^ 4300) := rfl
  have digits : long.deadline = Text.writeLimit := by
    rw [BatchEntry.deadline, timeout, Option.getD_some, Text.writeLimit_eq, Nat.cast_pow,
      Nat.cast_ofNat]
  have other : (BatchEntry.mk "1" "a" none).deadline ≠ long.deadline := by
    rw [digits]
    decide +kernel
  have overlong : Overlong [long] :=
    ⟨long.deadline, ⟨by simp, fun empty ↦ absurd empty (List.cons_ne_nil _ _)⟩, digits.ge⟩
  constructor
  · refine ⟨_, apply_changeVisibility_of_refused
      (.inl ⟨_, List.mem_cons_self, long, by simp, other⟩), ?_⟩
    rw [refusal, if_neg]
    · rfl
    · intro shown
      have short := shown long.deadline (mem_distinctDeadlines.mpr ⟨long, by simp, rfl⟩)
      rw [digits] at short
      exact Nat.lt_irrefl _ short
  · refine ⟨_, apply_changeVisibility_of_refused (.inr overlong), ?_⟩
    rw [refusal_of_overlong overlong]
    rfl

end QueueAck
