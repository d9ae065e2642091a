import QueueAck.Value

/-!
# Log contexts

A log context gives names to values and keeps the order in which the names came. `put` gives a value
to one name and `overlay` to several: a name that is there keeps its place, a new one goes to the
end.
-/

namespace QueueAck

/-- Named values in the order in which the names came. -/
abbrev Context := List (String × Value)

namespace Context

/-- Gives a value to a name. -/
def put : Context → String → Value → Context
  | [], k, v => [(k, v)]
  | (l, w) :: c, k, v => if l = k then (l, v) :: c else (l, w) :: put c k v

/-- Gives values to names, one after the other. -/
def overlay (c : Context) (fields : List (String × Value)) : Context :=
  fields.foldl (fun c f => c.put f.1 f.2) c

/-- The context of a list of named values; of two with one name the later value counts, at the place
of the earlier. -/
def ofList (fields : List (String × Value)) : Context := overlay [] fields

/-- The names in their order. -/
def keys (c : Context) : List String := c.map Prod.fst

/-- A name that is there keeps its place, a new one goes to the end. -/
theorem keys_put (c : Context) (k : String) (v : Value) :
    (c.put k v).keys = if k ∈ c.keys then c.keys else c.keys ++ [k] := by
  induction c with
  | nil => simp [put, keys]
  | cons f c ih =>
    obtain ⟨l, w⟩ := f
    by_cases h : l = k
    · simp [put, keys, h]
    · have hk : k ≠ l := fun e => h e.symm
      simp only [keys] at ih
      by_cases hm : k ∈ c.map Prod.fst <;> simp_all [put, keys]

/-- The name has its new value. -/
theorem lookup_put_self (c : Context) (k : String) (v : Value) :
    (c.put k v).lookup k = some v := by
  induction c with
  | nil => simp [put]
  | cons f c ih =>
    obtain ⟨l, w⟩ := f
    by_cases h : l = k
    · simp [put, h]
    · have hk : (k == l) = false := by simpa using fun e => h e.symm
      simp [put, h, hk, List.lookup_cons, ih]

/-- All other names keep their values. -/
theorem lookup_put_of_ne (c : Context) {k l : String} (v : Value) (h : l ≠ k) :
    (c.put k v).lookup l = c.lookup l := by
  induction c with
  | nil =>
    have hl : (l == k) = false := by simpa using h
    simp [put, List.lookup_cons, hl]
  | cons f c ih =>
    obtain ⟨m, w⟩ := f
    by_cases hm : m = k
    · have hl : (l == k) = false := by simpa using h
      simp [put, hm, List.lookup_cons, hl]
    · simp [put, hm, List.lookup_cons, ih]

/-- Overlaying nothing changes nothing. -/
theorem overlay_nil (c : Context) : c.overlay [] = c := rfl

/-- Names that are there keep their places, and the new ones follow in the order in which they first
come. -/
theorem keys_overlay (c : Context) (fields : List (String × Value)) :
    (c.overlay fields).keys =
      c.keys ++ ((fields.map Prod.fst).filter fun k => !c.keys.contains k).eraseDups := by
  induction fields generalizing c with
  | nil => simp [overlay_nil]
  | cons f fields ih =>
    have step : c.overlay (f :: fields) = (c.put f.1 f.2).overlay fields := rfl
    rw [step, ih, keys_put, List.map_cons]
    by_cases h : f.1 ∈ c.keys
    · rw [if_pos h, List.filter_cons_of_neg (by simpa using h)]
    · have split : ((fields.map Prod.fst).filter fun k => !(c.keys ++ [f.1]).contains k) =
          ((fields.map Prod.fst).filter fun k => !c.keys.contains k).filter fun k => !k == f.1 := by
        rw [List.filter_filter]
        congr 1
        funext k
        by_cases hk : k = f.1 <;> simp [hk]
      rw [if_neg h, List.filter_cons_of_pos (by simpa using h), List.eraseDups_cons, split,
        List.append_assoc, List.singleton_append]

/-- Of several values for a name the last one counts; a name that is given none keeps its value. -/
theorem lookup_overlay (c : Context) (fields : List (String × Value)) (k : String) :
    (c.overlay fields).lookup k = (fields.reverse.lookup k).or (c.lookup k) := by
  induction fields generalizing c with
  | nil => simp [overlay_nil]
  | cons f fields ih =>
    have step : c.overlay (f :: fields) = (c.put f.1 f.2).overlay fields := rfl
    rw [step, ih, List.reverse_cons, List.lookup_append, Option.or_assoc]
    congr 1
    by_cases h : k = f.1
    · rw [h, lookup_put_self, List.lookup_cons_self, Option.some_or]
    · rw [lookup_put_of_ne _ _ h, List.lookup_cons, beq_false_of_ne h]
      rfl

end Context
end QueueAck
