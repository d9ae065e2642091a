import Mathlib
import QueueAck.Proofs.Guarantee

/-!
# Numbered entries

The entries of a batch carry consecutive numbers of their source as identifiers. A number that is
too large to be written ends the numbering with a failure (`numberEntries_cases`); it is drawn all
the same.
-/

namespace QueueAck

variable {ε : Type}

/-- A number below the limit is written in full. -/
theorem decimalText_of_lt {n : Int} (h : n.natAbs < Text.writeLimit) :
    decimalText n = .ok n.repr := by
  unfold decimalText Text.decimal?
  rw [if_pos h]

/-- A number from the limit on is not written. -/
theorem decimalText_of_le {n : Int} (h : Text.writeLimit ≤ n.natAbs) :
    decimalText n = .error .unprintableInteger := by
  unfold decimalText Text.decimal?
  rw [if_neg (Nat.not_lt.mpr h)]

/-- The entries of handles, with consecutive numbers as identifiers. -/
def entriesFrom (n : Int) (timeout : Option Int) (handles : List String) : List BatchEntry :=
  handles.mapIdx fun i handle ↦ ⟨(n + i).repr, handle, timeout⟩

/-- Every handle has an entry. -/
theorem length_entriesFrom (n : Int) (timeout : Option Int) (handles : List String) :
    (entriesFrom n timeout handles).length = handles.length := List.length_mapIdx

/-- The first handle has the first number. -/
theorem entriesFrom_cons (n : Int) (timeout : Option Int) (handle : String)
    (handles : List String) :
    entriesFrom n timeout (handle :: handles) =
      ⟨n.repr, handle, timeout⟩ :: entriesFrom (n + 1) timeout handles := by
  have hi (i : Nat) : n + ((i + 1 : Nat) : Int) = n + 1 + i := by omega
  simp only [entriesFrom, List.mapIdx_cons, hi, Int.natCast_zero, Int.add_zero]

/-- The entries have the handles in their order. -/
theorem map_receiptHandle_entriesFrom (n : Int) (timeout : Option Int) (handles : List String) :
    (entriesFrom n timeout handles).map BatchEntry.receiptHandle = handles := by
  induction handles generalizing n with
  | nil => rfl
  | cons handle handles ih => rw [entriesFrom_cons, List.map_cons, ih]

/-- All entries ask for the timeout. -/
theorem visibilityTimeout_of_mem_entriesFrom {n : Int} {timeout : Option Int}
    {handles : List String} {e : BatchEntry} (h : e ∈ entriesFrom n timeout handles) :
    e.visibilityTimeout = timeout := by
  obtain ⟨i, hi, rfl⟩ := List.mem_mapIdx.mp h
  rfl

/-- The identifiers are the texts of consecutive numbers. -/
theorem map_id_entriesFrom (n : Int) (timeout : Option Int) (handles : List String) :
    (entriesFrom n timeout handles).map BatchEntry.id =
      (List.range handles.length).map fun i : Nat ↦ (n + i).repr := by
  apply List.ext_getElem
  · simp [entriesFrom]
  · intro i hi hj
    simp [entriesFrom]

/-- No two entries have one identifier. -/
theorem nodup_id_entriesFrom (n : Int) (timeout : Option Int) (handles : List String) :
    ((entriesFrom n timeout handles).map BatchEntry.id).Nodup := by
  rw [map_id_entriesFrom]
  apply List.Nodup.map _ List.nodup_range
  intro i j h
  have hn := Int.repr_injective h
  omega

/-- Numbering gives consecutive numbers, or fails at the first one that is too large. The numbers
that were looked at are used up in either case. -/
theorem numberEntries_cases (g : GeneratorId) (timeout : Option Int) (handles : List String)
    (w : World ε) :
    ((∀ i < handles.length, (w.counters g + i).natAbs < Text.writeLimit) ∧
      (numberEntries (Action.nextId g) timeout handles).apply w =
        (.ok (entriesFrom (w.counters g) timeout handles),
          w.setCounter g (w.counters g + handles.length))) ∨
    (∃ k < handles.length, Text.writeLimit ≤ (w.counters g + k).natAbs ∧
      (numberEntries (Action.nextId g) timeout handles).apply w =
        (.error .unprintableInteger, w.setCounter g (w.counters g + k + 1))) := by
  induction handles generalizing w with
  | nil =>
    refine .inl ⟨by simp, ?_⟩
    rw [List.length_nil, Int.natCast_zero, Int.add_zero, World.setCounter_eq_self rfl]
    rfl
  | cons handle handles ih =>
    rw [numberEntries, Action.apply_bind, Action.apply_nextId, List.length_cons]
    by_cases hn : (w.counters g).natAbs < Text.writeLimit
    · rw [decimalText_of_lt hn]
      dsimp only
      rw [Action.apply_bind]
      have hs (i : Nat) : w.counters g + ((i + 1 : Nat) : Int) = w.counters g + 1 + i := by omega
      have ih := ih (w.setCounter g (w.counters g + 1))
      rw [World.counters_setCounter_self] at ih
      rcases ih with ⟨hi, hr⟩ | ⟨k, hk, hu, hr⟩
      · refine .inl ⟨?_, ?_⟩
        · intro i hl
          cases i with
          | zero => simpa using hn
          | succ i =>
            rw [hs]
            exact hi i (by omega)
        · rw [entriesFrom_cons, hs, hr, World.setCounter_setCounter]
          rfl
      · refine .inr ⟨k + 1, by omega, hs k ▸ hu, ?_⟩
        rw [hs, hr, World.setCounter_setCounter]
    · have hn := Nat.not_lt.mp hn
      rw [decimalText_of_le hn]
      refine .inr ⟨0, Nat.succ_pos _, ?_, ?_⟩
      · rwa [Int.natCast_zero, Int.add_zero]
      · rw [Int.natCast_zero, Int.add_zero]

/-- Numbers that can all be written are given. -/
theorem apply_numberEntries_of_lt {g : GeneratorId} (timeout : Option Int) {handles : List String}
    {w : World ε} (h : ∀ i < handles.length, (w.counters g + i).natAbs < Text.writeLimit) :
    (numberEntries (Action.nextId g) timeout handles).apply w =
      (.ok (entriesFrom (w.counters g) timeout handles),
        w.setCounter g (w.counters g + handles.length)) := by
  rcases numberEntries_cases g timeout handles w with ⟨-, hr⟩ | ⟨i, hi, hu, -⟩
  · exact hr
  · exact absurd (h i hi) (Nat.not_lt.mpr hu)

/-- Entries that numbering gives have the numbers from that of the source on. -/
theorem eq_entriesFrom_of_ok {g : GeneratorId} {timeout : Option Int} {handles : List String}
    {entries : List BatchEntry} {w w' : World ε}
    (h : (numberEntries (Action.nextId g) timeout handles).apply w = (.ok entries, w')) :
    entries = entriesFrom (w.counters g) timeout handles := by
  rcases numberEntries_cases g timeout handles w with ⟨_, hr⟩ | ⟨_, _, _, hr⟩
  · rw [hr] at h
    cases h
    rfl
  · rw [hr] at h
    cases h

end QueueAck
