import QueueAck.Dispatch

/-!
# Cutting a list into batches

A list is cut into full batches and a last one that holds what is left. `batches_cut` says that
nothing else is allowed: the batches make up the list, all but the last are full, and none is empty.
-/

namespace QueueAck

universe u v

variable {α : Type u} {β : Type v}

/-- Consecutive parts of a list, of one size except for a last one that may be shorter. -/
structure Batches (size : Nat) (xs : List α) (batches : List (List α)) : Prop where
  /-- The parts make up the list. -/
  flatten_eq : batches.flatten = xs
  /-- All parts but the last are full. -/
  full : ∀ b ∈ batches.dropLast, b.length = size
  /-- No part is empty. -/
  pos : ∀ b ∈ batches, 0 < b.length
  /-- No part is larger than the size. -/
  le : ∀ b ∈ batches, b.length ≤ size

namespace Batches

variable {size : Nat} {xs b : List α} {bs : List (List α)}

/-- A part before others is full. -/
theorem length_head (h : Batches size xs (b :: bs)) (hb : bs ≠ []) : b.length = size := by
  refine h.full b ?_
  rw [List.dropLast_cons_of_ne_nil hb]
  exact List.mem_cons_self

/-- Without the first part the others are left. -/
theorem tail (h : Batches size xs (b :: bs)) : Batches size bs.flatten bs := by
  obtain ⟨-, full, pos, le⟩ := h
  refine ⟨rfl, fun c hc ↦ ?_, (List.forall_mem_cons.mp pos).2, (List.forall_mem_cons.mp le).2⟩
  have hb : bs ≠ [] := by
    rintro rfl
    simp at hc
  rw [List.dropLast_cons_of_ne_nil hb] at full
  exact full c (List.mem_cons_of_mem b hc)

end Batches

namespace BatchSize

/-- Cuts a list into full batches and a last one with what is left. -/
def cut (s : BatchSize) (xs : List α) : List (List α) :=
  (List.range ((xs.length + s.val - 1) / s.val)).map fun i ↦ (xs.drop (i * s.val)).take s.val

/-- There are as many batches as sizes begin within the list. -/
theorem length_cut (s : BatchSize) (xs : List α) :
    (s.cut xs).length = (xs.length + s.val - 1) / s.val := by
  rw [cut, List.length_map, List.length_range]

/-- Nothing has no batches. -/
theorem cut_nil (s : BatchSize) : s.cut ([] : List α) = [] := by
  have hz : (0 + s.val - 1) / s.val = 0 := Nat.div_eq_of_lt (by have := s.val_pos; omega)
  rw [cut, List.length_nil, hz, List.range_zero, List.map_nil]

private theorem cut_of_ne_nil (s : BatchSize) {xs : List α} (h : xs ≠ []) :
    s.cut xs = xs.take s.val :: s.cut (xs.drop s.val) := by
  have hp := s.val_pos
  have hl := List.length_pos_iff.mpr h
  have hn : (xs.length + s.val - 1) / s.val = (xs.length - s.val + s.val - 1) / s.val + 1 := by
    by_cases hs : s.val ≤ xs.length
    · rw [← Nat.add_div_right _ hp]
      congr 1
      omega
    · have hz : xs.length - s.val = 0 := by omega
      rw [hz, Nat.zero_add, Nat.div_eq_of_lt (by omega : s.val - 1 < s.val),
        show xs.length + s.val - 1 = xs.length - 1 + s.val by omega, Nat.add_div_right _ hp,
        Nat.div_eq_of_lt (by omega)]
  rw [cut, cut, hn, List.length_drop, List.range_succ_eq_map, List.map_cons, List.map_map,
    Nat.zero_mul, List.drop_zero]
  congr 2
  funext i
  rw [Function.comp_apply, List.drop_drop, Nat.succ_mul, Nat.add_comm]

/-- A full batch in front is cut off. -/
theorem cut_append_of_length_eq (s : BatchSize) {b : List α} (xs : List α)
    (h : b.length = s.val) : s.cut (b ++ xs) = b :: s.cut xs := by
  have hb : b ≠ [] := List.ne_nil_of_length_pos (h ▸ s.val_pos)
  have hn : b ++ xs ≠ [] := List.append_ne_nil_of_left_ne_nil hb xs
  rw [cut_of_ne_nil s hn, ← h, List.take_left, List.drop_left]

/-- What does not exceed a batch is the only batch. -/
theorem cut_of_length_le (s : BatchSize) {b : List α} (hb : b ≠ []) (h : b.length ≤ s.val) :
    s.cut b = [b] := by
  rw [cut_of_ne_nil s hb, List.take_of_length_le h, List.drop_of_length_le h, cut_nil]

/-- The batches make up the list. -/
theorem flatten_cut (s : BatchSize) (xs : List α) : (s.cut xs).flatten = xs := by
  induction h : xs.length using Nat.strongRecOn generalizing xs with
  | ind n ih =>
    cases xs with
    | nil => rw [cut_nil, List.flatten_nil]
    | cons x xs =>
      have hp := s.val_pos
      have hd : ((x :: xs).drop s.val).length < n := by
        rw [← h, List.length_drop, List.length_cons]
        omega
      rw [cut_of_ne_nil s (List.cons_ne_nil x xs), List.flatten_cons, ih _ hd _ rfl,
        List.take_append_drop]

/-- The batches after the first `k` are those of the list after the first `k` sizes. -/
theorem drop_cut (s : BatchSize) (k : Nat) (xs : List α) :
    (s.cut xs).drop k = s.cut (xs.drop (k * s.val)) := by
  induction k generalizing xs with
  | zero => rw [List.drop_zero, Nat.zero_mul, List.drop_zero]
  | succ k ih =>
    cases xs with
    | nil => rw [cut_nil, List.drop_nil, List.drop_nil, cut_nil]
    | cons x xs =>
      rw [cut_of_ne_nil s (List.cons_ne_nil x xs), List.drop_succ_cons, ih, List.drop_drop,
        Nat.succ_mul, Nat.add_comm]

/-- The batches after the first `k` make up the list after the first `k` sizes. -/
theorem flatten_drop_cut (s : BatchSize) (k : Nat) (xs : List α) :
    ((s.cut xs).drop k).flatten = xs.drop (k * s.val) := by
  rw [drop_cut, flatten_cut]

/-- The batch at a position starts after as many sizes. -/
theorem eq_of_getElem?_cut (s : BatchSize) {xs b : List α} {j : Nat}
    (h : (s.cut xs)[j]? = some b) : b = (xs.drop (j * s.val)).take s.val := by
  rw [cut, List.getElem?_map, Option.map_eq_some_iff] at h
  obtain ⟨i, hi, rfl⟩ := h
  obtain ⟨hl, hi⟩ := List.getElem?_eq_some_iff.mp hi
  rw [List.getElem_range] at hi
  rw [hi]

/-- The batches of the images are the images of the batches. -/
theorem map_cut (s : BatchSize) (f : α → β) (xs : List α) :
    (s.cut xs).map (List.map f) = s.cut (xs.map f) := by
  simp only [cut, List.map_map, List.length_map, Function.comp_def, List.map_take, List.map_drop]

/-- Cutting a list gives batches. -/
theorem batches_cut (s : BatchSize) (xs : List α) : Batches s.val xs (s.cut xs) := by
  have hp := s.val_pos
  refine ⟨s.flatten_cut xs, ?_, ?_, ?_⟩
  · intro b hb
    cases hm : (xs.length + s.val - 1) / s.val with
    | zero => simp [cut, hm] at hb
    | succ m =>
      rw [cut, hm, List.range_succ, List.map_append, List.map_singleton,
        List.dropLast_concat] at hb
      obtain ⟨i, hi, rfl⟩ := List.mem_map.mp hb
      have hi := List.mem_range.mp hi
      have hs := (Nat.le_div_iff_mul_le hp).mp (Nat.le_of_eq hm.symm)
      have hle : (i + 1) * s.val ≤ m * s.val := Nat.mul_le_mul_right s.val hi
      rw [Nat.succ_mul] at hs hle
      rw [List.length_take, List.length_drop]
      omega
  · intro b hb
    obtain ⟨i, hi, rfl⟩ := List.mem_map.mp hb
    have hs := (Nat.le_div_iff_mul_le hp).mp (List.mem_range.mp hi)
    rw [Nat.succ_mul] at hs
    rw [List.length_take, List.length_drop]
    omega
  · intro b hb
    obtain ⟨i, hi, rfl⟩ := List.mem_map.mp hb
    exact List.length_take_le ..

end BatchSize
end QueueAck
