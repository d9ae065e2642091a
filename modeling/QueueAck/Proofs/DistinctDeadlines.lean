import Mathlib
import QueueAck.Client.PubSub

/-!
# The deadlines that entries ask for

Which deadlines entries ask for depends on them as a set: `distinctDeadlines` is the one list in
increasing order that has exactly the deadlines of the entries (`distinctDeadlines_unique`). Entries
either disagree, and then there are several, or they share one, which is zero when there are no
entries (`disagree_or_exists_shares`).
-/

namespace QueueAck

/-! ### Neighbours that are equal -/

/-- Erasing repetitions looks at two neighbours at a time. -/
theorem eraseReps_cons_cons (s t : Int) (ts : List Int) :
    (s :: t :: ts).eraseReps =
      if s = t then (t :: ts).eraseReps else s :: (t :: ts).eraseReps := by
  have loop (ts : List Int) (s : Int) (erased : List Int) :
      List.eraseRepsBy.loop (· == ·) s ts erased =
        erased.reverse ++ List.eraseRepsBy.loop (· == ·) s ts [] := by
    induction ts generalizing s erased with
    | nil => simp [List.eraseRepsBy.loop]
    | cons t ts ih =>
      simp only [List.eraseRepsBy.loop]
      split
      · exact ih s erased
      · rw [ih t (s :: erased), ih t [s], List.reverse_cons, List.append_assoc,
          List.reverse_singleton]
  change List.eraseRepsBy.loop (· == ·) s (t :: ts) [] =
    if s = t then List.eraseRepsBy.loop (· == ·) t ts []
    else s :: List.eraseRepsBy.loop (· == ·) t ts []
  rw [List.eraseRepsBy.loop]
  by_cases same : s = t
  · simp [same]
  · rw [beq_false_of_ne same, if_neg same]
    exact loop ts t [s]

/-- Erasing repetitions loses nothing. -/
theorem mem_eraseReps {ts : List Int} {t : Int} : t ∈ ts.eraseReps ↔ t ∈ ts := by
  induction ts with
  | nil => exact Iff.rfl
  | cons s ts ih =>
    cases ts with
    | nil => exact Iff.rfl
    | cons u us =>
      rw [eraseReps_cons_cons]
      split
      · next same => simp only [ih, same, List.mem_cons, or_self_left]
      · rw [List.mem_cons, ih, ← List.mem_cons]

/-- Of numbers in order, those that are left are in strict order. -/
theorem pairwise_eraseReps {ts : List Int} (sorted : ts.Pairwise (· ≤ ·)) :
    ts.eraseReps.Pairwise (· < ·) := by
  induction ts with
  | nil => exact .nil
  | cons s ts ih =>
    cases ts with
    | nil => exact List.pairwise_singleton _ s
    | cons u us =>
      obtain ⟨least, later⟩ := List.pairwise_cons.mp sorted
      rw [eraseReps_cons_cons]
      split
      · exact ih later
      · next other =>
        refine List.pairwise_cons.mpr ⟨fun t ht ↦ ?_, ih later⟩
        have above : s < u := lt_of_le_of_ne (least u List.mem_cons_self) other
        rcases List.mem_cons.mp (mem_eraseReps.mp ht) with rfl | ht
        · exact above
        · exact Int.lt_of_lt_of_le above ((List.pairwise_cons.mp later).1 t ht)

/-! ### The set of deadlines -/

variable {entries entries' : List BatchEntry} {t : Int} {ts : List Int}

/-- The distinct deadlines are those that some entry asks for. -/
theorem mem_distinctDeadlines :
    t ∈ distinctDeadlines entries ↔ ∃ e ∈ entries, e.deadline = t := by
  rw [distinctDeadlines, mem_eraseReps, List.mem_mergeSort, List.mem_map]

/-- They are in strict order. -/
theorem pairwise_distinctDeadlines (entries : List BatchEntry) :
    (distinctDeadlines entries).Pairwise (· < ·) := by
  have sorted : ((entries.map BatchEntry.deadline).mergeSort (· ≤ ·)).Pairwise
      fun s t ↦ decide (s ≤ t) = true :=
    List.pairwise_mergeSort
      (fun r s t hrs hst ↦ decide_eq_true ((of_decide_eq_true hrs).trans (of_decide_eq_true hst)))
      (fun s t ↦ by simpa using Int.le_total s t) _
  exact pairwise_eraseReps (sorted.imp of_decide_eq_true)

/-- A list in strict order that has the deadlines of the entries is the list of these. -/
theorem distinctDeadlines_unique (sorted : ts.Pairwise (· < ·))
    (deadlines : ∀ t, t ∈ ts ↔ ∃ e ∈ entries, e.deadline = t) : distinctDeadlines entries = ts :=
  (pairwise_distinctDeadlines entries).eq_of_mem_iff sorted fun t ↦
    mem_distinctDeadlines.trans (deadlines t).symm

/-- The order of the entries does not matter. -/
theorem distinctDeadlines_of_perm (reordered : entries.Perm entries') :
    distinctDeadlines entries' = distinctDeadlines entries :=
  distinctDeadlines_unique (pairwise_distinctDeadlines entries) fun t ↦ by
    simp only [mem_distinctDeadlines, reordered.mem_iff]

/-! ### One deadline or several -/

/-- Two entries ask for different deadlines. -/
def Disagree (entries : List BatchEntry) : Prop :=
  ∃ a ∈ entries, ∃ b ∈ entries, a.deadline ≠ b.deadline

/-- Entries in another order disagree as well. -/
theorem disagree_perm (reordered : entries.Perm entries') :
    Disagree entries' ↔ Disagree entries := by
  simp only [Disagree, reordered.mem_iff]

/-- All entries ask for one deadline, which is zero when there are none. -/
structure Shares (entries : List BatchEntry) (t : Int) : Prop where
  /-- The entries ask for it. -/
  all : ∀ e ∈ entries, e.deadline = t
  /-- Without entries it is zero. -/
  none : entries = [] → t = 0

/-- Entries of which no two disagree share a deadline. -/
theorem disagree_or_exists_shares (entries : List BatchEntry) :
    Disagree entries ∨ ∃ t, Shares entries t := by
  by_cases disagree : Disagree entries
  · exact .inl disagree
  · refine .inr ?_
    cases entries with
    | nil => exact ⟨0, by simp, fun _ ↦ rfl⟩
    | cons e es =>
      refine ⟨e.deadline, fun a ha ↦ ?_, nofun⟩
      by_contra other
      exact disagree ⟨a, ha, e, List.mem_cons_self, other⟩

namespace Shares

/-- Entries with one timeout share it. -/
theorem of_forall (some_entry : entries ≠ [])
    (asked : ∀ e ∈ entries, e.visibilityTimeout = some t) : Shares entries t where
  all e he := by rw [BatchEntry.deadline, asked e he, Option.getD_some]
  none h := absurd h some_entry

/-- Entries that share a deadline do not disagree. -/
theorem not_disagree (h : Shares entries t) : ¬Disagree entries := by
  rintro ⟨a, ha, b, hb, other⟩
  exact other ((h.all a ha).trans (h.all b hb).symm)

/-- Some entries that share a deadline have one distinct deadline. -/
theorem distinctDeadlines_eq (h : Shares entries t) (some_entry : entries ≠ []) :
    distinctDeadlines entries = [t] := by
  obtain ⟨e, he⟩ := List.exists_mem_of_ne_nil entries some_entry
  refine distinctDeadlines_unique (List.pairwise_singleton _ t) fun s ↦ ?_
  rw [List.mem_singleton]
  constructor
  · rintro rfl
    exact ⟨e, he, h.all e he⟩
  · rintro ⟨a, ha, rfl⟩
    exact h.all a ha

/-- In another order they share it as well. -/
theorem perm (h : Shares entries t) (reordered : entries.Perm entries') : Shares entries' t where
  all e he := h.all e (reordered.mem_iff.mpr he)
  none empty := h.none (List.perm_nil.mp (empty ▸ reordered))

end Shares

/-- Without entries there is no deadline. -/
theorem distinctDeadlines_nil : distinctDeadlines [] = [] :=
  distinctDeadlines_unique .nil (by simp)

/-- Entries that disagree have several distinct deadlines. -/
theorem Disagree.exists_cons_cons (h : Disagree entries) :
    ∃ s t ts, distinctDeadlines entries = s :: t :: ts := by
  obtain ⟨a, ha, b, hb, other⟩ := h
  have has := mem_distinctDeadlines.mpr ⟨a, ha, rfl⟩
  have hbs := mem_distinctDeadlines.mpr ⟨b, hb, rfl⟩
  cases found : distinctDeadlines entries with
  | nil => simp [found] at has
  | cons s ts =>
    cases ts with
    | nil =>
      rw [found, List.mem_singleton] at has hbs
      exact absurd (has.trans hbs.symm) other
    | cons t ts => exact ⟨s, t, ts, rfl⟩

end QueueAck
