import Mathlib

/-!
# Named values

Lists of values with names, as contexts, extras and keywords are. Where no name comes twice, looking
a name up is finding it in the list (`lookup_eq_some_iff`), and the order of the list is told by the
first places of its members (`pairwise_idxOf`).
-/

namespace QueueAck

variable {α : Type} {fields : List (String × α)} {k : String} {v : α}

/-- Without repeated names a name has the value that stands beside it. -/
theorem lookup_eq_some_iff (distinct : (fields.map Prod.fst).Nodup) :
    fields.lookup k = some v ↔ (k, v) ∈ fields := by
  induction fields with
  | nil => simp
  | cons f fields ih =>
    obtain ⟨l, w⟩ := f
    obtain ⟨fresh, distinct⟩ := List.nodup_cons.mp distinct
    by_cases h : k = l
    · subst h
      have absent : (k, v) ∉ fields := fun hf ↦ fresh (List.mem_map.mpr ⟨(k, v), hf, rfl⟩)
      simp [absent, eq_comm]
    · have other : (k == l) = false := beq_false_of_ne h
      simpa [List.lookup_cons, other, h] using ih distinct

/-- A name without a value is not there. -/
theorem lookup_eq_none_iff : fields.lookup k = none ↔ k ∉ fields.map Prod.fst := by
  rw [List.lookup_eq_none_iff]
  constructor
  · intro h hk
    obtain ⟨f, hf, rfl⟩ := List.mem_map.mp hk
    simpa using h f hf
  · rintro h f hf
    simpa using fun e : k = f.1 ↦ h (e ▸ List.mem_map_of_mem hf)

/-- Without repetitions the members of a list have their first places in order. -/
theorem pairwise_idxOf {xs : List α} [BEq α] [LawfulBEq α] (distinct : xs.Nodup) :
    xs.Pairwise fun x y ↦ xs.idxOf x < xs.idxOf y := by
  refine List.pairwise_iff_getElem.mpr fun i j hi hj hij ↦ ?_
  rw [distinct.idxOf_getElem i hi, distinct.idxOf_getElem j hj]
  exact hij

end QueueAck
