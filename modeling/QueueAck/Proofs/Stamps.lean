import Mathlib
import QueueAck.Calendar.Stamp
import QueueAck.Proofs.Results

/-!
# Moments that have a stamp

Every moment before the year 10000 that the calendar reaches has a stamp, with its milliseconds or
under a pattern (`CalendarTime.exists_stamp`).
-/

namespace QueueAck

/-- The format of a stamp with milliseconds has two places, for a text and for three digits. -/
theorem Template.parts_stamp : Template.parts "%s,%03d" =
    [.conversion ⟨none, [], .absent, .absent, some 's', 1⟩, .literal [','],
      .conversion ⟨none, ['0'], .given 3, .absent, some 'd', 6⟩] := by
  decide +kernel

namespace CalendarTime

/-- The first second of the year 10000. -/
def yearTenThousand : Int := 253402300800

/-- Years before 10000 are small. -/
theorem year_ofSeconds_le {t : Int} (h : t < yearTenThousand) : (ofSeconds t).year ≤ lastYear := by
  unfold ofSeconds lastYear yearTenThousand at *
  dsimp only
  split <;> omega

/-- A number of milliseconds, with no more digits than are written. -/
inductive IsCount : Value → Prop where
  /-- An integer. -/
  | int (i : Int) (written : i.natAbs < Text.writeLimit) : IsCount (.int i)
  /-- A finite double. -/
  | double (n : Bool) (m : Nat) (e : Int)
    (written : (Double.truncate n m e).natAbs < Text.writeLimit) : IsCount (.double (.finite n m e))

/-- A number is shown with three digits at least. -/
theorem IsCount.exists_showWhole {v : Value} (h : IsCount v) :
    ∃ cs, (Template.Layout.mk ['0'] 3 none 'd' 6).showWhole v = .ok cs := by
  have shown {i : Int} (written : i.natAbs < Text.writeLimit) :
      ∃ cs, (Template.Layout.mk ['0'] 3 none 'd' 6).showInteger i = .ok cs := by
    refine ⟨_, if_neg ?_⟩
    simp [Value.isWritable, written]
  cases h with
  | int i written => exact shown written
  | double n m e written => exact shown written

/-- A text and a number of milliseconds fill the format. -/
theorem IsCount.exists_fill {v : Value} (h : IsCount v) (s : String) :
    ∃ t, Template.fill "%s,%03d" (.inOrder [.text s, v]) = .ok t := by
  obtain ⟨ds, shown⟩ := h.exists_showWhole
  obtain ⟨cs, first⟩ : ∃ cs, Template.fillConversion (.inOrder [.text s, v])
      ⟨none, [], .absent, .absent, some 's', 1⟩ [.text s, v] = .ok (cs, [v]) := ⟨_, rfl⟩
  have second : Template.fillConversion (.inOrder [.text s, v])
      ⟨none, ['0'], .given 3, .absent, some 'd', 6⟩ [v] = .ok (ds, []) := by
    have step : Template.fillConversion (.inOrder [.text s, v])
        ⟨none, ['0'], .given 3, .absent, some 'd', 6⟩ [v] =
          (do return (← (Template.Layout.mk ['0'] 3 none 'd' 6).showWhole v, [])) := rfl
    rw [step, shown]
    rfl
  rw [Template.fill, Template.parts_stamp, Template.Arguments.queue, Template.fillParts, first]
  simp only [Template.fillParts, second]
  exact ⟨_, rfl⟩

/-- A moment has a stamp under any pattern without the null character, and without a pattern. -/
theorem exists_stamp {pattern : Option String} (plain : ∀ p ∈ pattern, '\x00' ∉ p.toList)
    {moment ms : Value} {t : Int} (seconds : secondsOf moment = .ok t) (lower : firstSecond ≤ t)
    (upper : t < yearTenThousand) (count : IsCount ms) : ∃ s, stamp pattern moment ms = .ok s := by
  have reached : ofMoment moment = .ok (ofSeconds t) := by
    have upper : t ≤ lastSecond := by unfold yearTenThousand lastSecond at *; omega
    rw [ofMoment, seconds]
    exact bind_eq_ok_iff.mpr ⟨t, rfl, if_pos ⟨lower, upper⟩⟩
  have year : ¬lastYear < (ofSeconds t).year := Int.not_lt.mpr (year_ofSeconds_le upper)
  have written (p : String) (plain : '\x00' ∉ p.toList) :
      (ofSeconds t).textUnder p = .ok ((ofSeconds t).format p) := by
    rw [textUnder, if_neg year, if_neg (by simpa using plain)]
  rw [stamp, reached]
  cases pattern with
  | some p => exact ⟨_, bind_eq_ok_iff.mpr ⟨_, rfl, written p (plain p rfl)⟩⟩
  | none =>
    obtain ⟨s, filled⟩ := count.exists_fill ((ofSeconds t).format "%Y-%m-%d %H:%M:%S")
    refine ⟨s, bind_eq_ok_iff.mpr ⟨_, rfl, ?_⟩⟩
    exact bind_eq_ok_iff.mpr
      ⟨_, written _ (by decide +kernel), mapError_eq_ok_iff.mpr filled⟩

end CalendarTime
end QueueAck
