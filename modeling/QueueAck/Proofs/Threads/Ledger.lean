import Mathlib
import QueueAck.Text.Integer

/-!
# A ledger of numbers

The numbers that a source has drawn, as far as they can be written, and where each of them is: with
a thread that builds a batch, in a batch that was handed over, or lost.
-/

namespace QueueAck

/-- The numbers from a start to before another number, as far as they can be written. -/
def writtenNumbers (start stop : Int) : List Int :=
  let first := max start (1 - Text.writeLimit)
  (List.range (min stop Text.writeLimit - first).toNat).map fun i : Nat ↦ first + i

/-- Before the start there is no number. -/
theorem writtenNumbers_self (start : Int) : writtenNumbers start start = [] := by
  have hz : (min start Text.writeLimit - max start (1 - Text.writeLimit)).toNat = 0 := by omega
  simp [writtenNumbers, hz]

/-- The next number is written after those before. -/
theorem writtenNumbers_succ_of_lt {start n : Int} (hs : start ≤ n)
    (hn : n.natAbs < Text.writeLimit) :
    writtenNumbers start (n + 1) = writtenNumbers start n ++ [n] := by
  have hl : (min (n + 1) Text.writeLimit - max start (1 - Text.writeLimit)).toNat =
      (min n Text.writeLimit - max start (1 - Text.writeLimit)).toNat + 1 := by omega
  have hc : max start (1 - Text.writeLimit) +
      ((min n Text.writeLimit - max start (1 - Text.writeLimit)).toNat : Int) = n := by omega
  rw [writtenNumbers, hl, List.range_succ, List.map_append, List.map_singleton, hc]
  rfl

/-- A number that cannot be written is left out. -/
theorem writtenNumbers_succ_of_le {start n : Int} (hs : start ≤ n)
    (hn : Text.writeLimit ≤ n.natAbs) : writtenNumbers start (n + 1) = writtenNumbers start n := by
  have hl : (min (n + 1) Text.writeLimit - max start (1 - Text.writeLimit)).toNat =
      (min n Text.writeLimit - max start (1 - Text.writeLimit)).toNat := by omega
  rw [writtenNumbers, hl]
  rfl

/-- The numbers are consecutive, and the first one is the start unless that cannot be written. -/
theorem writtenNumbers_eq_map_range (start stop : Int) :
    writtenNumbers start stop = (List.range (writtenNumbers start stop).length).map
      fun i : Nat ↦ max start (1 - Text.writeLimit) + i := by
  simp [writtenNumbers]

/-- The numbers increase. -/
theorem pairwise_writtenNumbers (start stop : Int) :
    (writtenNumbers start stop).Pairwise (· < ·) := by
  refine List.pairwise_map.mpr (List.pairwise_lt_range.imp fun hij ↦ ?_)
  omega

/-- Where the numbers that were drawn have gone: some are held by a thread, some were handed over in
a batch, none is in two places, and everywhere they are in the order in which they were drawn. -/
structure Ledger (drawn : List Int) (held batches : List (List Int)) : Prop where
  /-- A thread holds numbers in the order in which they were drawn. -/
  sublist_held : ∀ ns ∈ held, ns.Sublist drawn
  /-- A batch has numbers in the order in which they were drawn. -/
  sublist_batches : ∀ ns ∈ batches, ns.Sublist drawn
  /-- Every number that was drawn is in one place at most. -/
  subperm : (batches.flatten ++ held.flatten).Subperm drawn

private theorem perm_flatten_set {held : List (List Int)} {i : Nat} {ns : List Int}
    (h : held[i]? = some ns) (ms : List Int) :
    ((held.set i ms).flatten ++ ns).Perm (held.flatten ++ ms) := by
  induction held generalizing i with
  | nil => simp at h
  | cons first held ih =>
    cases i with
    | zero =>
      obtain rfl : first = ns := by simpa using h
      -- The two lists change places around the same rest, so their items are counted.
      refine List.perm_iff_count.mpr fun n ↦ ?_
      simp only [List.set_cons_zero, List.flatten_cons, List.count_append]
      omega
    | succ i =>
      simp only [List.set_cons_succ, List.flatten_cons, List.append_assoc]
      exact (ih (by simpa using h)).append_left first

namespace Ledger

variable {drawn : List Int} {held batches : List (List Int)} {i : Nat} {ns : List Int}

/-- Nothing was drawn. -/
theorem empty (n : Nat) : Ledger [] (List.replicate n []) [] :=
  ⟨fun ns h ↦ (List.mem_replicate.mp h).2 ▸ .slnil, by simp, by simp⟩

/-- A thread no longer holds its numbers. -/
theorem release (h : Ledger drawn held batches) (hi : held[i]? = some ns) :
    Ledger drawn (held.set i []) batches where
  sublist_held ms hm := by
    rcases List.mem_or_eq_of_mem_set hm with hm | rfl
    · exact h.sublist_held ms hm
    · exact List.nil_sublist drawn
  sublist_batches := h.sublist_batches
  subperm := by
    have less : (held.set i []).flatten.Subperm held.flatten := by
      have hp := perm_flatten_set hi []
      rw [List.append_nil] at hp
      exact ((List.sublist_append_left _ ns).subperm).trans hp.subperm
    exact ((List.subperm_append_left _).mpr less).trans h.subperm

/-- A thread draws a number. -/
theorem draw (h : Ledger drawn held batches) (hi : held[i]? = some ns) (n : Int) :
    Ledger (drawn ++ [n]) (held.set i (ns ++ [n])) batches where
  sublist_held ms hm := by
    rcases List.mem_or_eq_of_mem_set hm with hm | rfl
    · exact (h.sublist_held ms hm).trans (List.sublist_append_left drawn [n])
    · exact (h.sublist_held ns (List.mem_of_getElem? hi)).append_right [n]
  sublist_batches ms hm := (h.sublist_batches ms hm).trans (List.sublist_append_left drawn [n])
  subperm := by
    have more : (held.set i (ns ++ [n])).flatten.Perm (held.flatten ++ [n]) := by
      refine List.perm_iff_count.mpr fun k ↦ ?_
      have hc := (perm_flatten_set hi (ns ++ [n])).count_eq k
      simp only [List.count_append] at hc ⊢
      omega
    have hp := (more.append_left batches.flatten).subperm
    rw [← List.append_assoc] at hp
    exact hp.trans ((List.subperm_append_right [n]).mpr h.subperm)

/-- A thread hands over what it holds. -/
theorem hand (h : Ledger drawn held batches) (hi : held[i]? = some ns) :
    Ledger drawn (held.set i []) (batches ++ [ns]) where
  sublist_held := (h.release hi).sublist_held
  sublist_batches := List.forall_mem_append.mpr
    ⟨h.sublist_batches, fun ms hm ↦ (List.mem_singleton.mp hm).symm ▸
      h.sublist_held ns (List.mem_of_getElem? hi)⟩
  subperm := by
    have hp := perm_flatten_set hi []
    rw [List.append_nil] at hp
    rw [List.flatten_append, List.flatten_singleton, List.append_assoc]
    exact ((List.perm_append_comm.trans hp).append_left _).subperm.trans h.subperm

end Ledger

end QueueAck
