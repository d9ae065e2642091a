import Mathlib
import QueueAck.Proofs.Environment
import QueueAck.Proofs.Log.Emission
import QueueAck.Proofs.Log.Levels

/-!
# Setting the logger up again and again

An environment either has a value that cannot be read, and then setting up fails and changes
nothing, or it describes the logger that is left (`Logger.attempt_cases`). However often a logger is
set up, it is the one that the last readable environment describes
(`Logger.exists_last_readable`).
-/

namespace QueueAck

open Log

/-- The level that an environment gives: the one that its text selects, or that of messages about
what is done when it has none. -/
def Environment.GivesLevel (env : Environment) (level : Int) : Prop :=
  match env.get? levelVariable with
  | none => level = info
  | some s => readLevel s = .ok level

/-- The environment has a value that cannot be read. -/
inductive Environment.Unreadable (env : Environment) : Prop where
  /-- The text of the level is neither a number nor a name of a level. -/
  | level {s : String} {f : Failure} (given : env.get? levelVariable = some s)
    (refused : readLevel s = .error f)
  /-- The text that asks for the JSON form spells no integer. -/
  | form {s : String} (given : env.get? serializeVariable = some s)
    (unread : ∀ i, ¬Text.Spells s i)

namespace Log

variable {env : Environment} {l : Logger} {f : Failure}

/-- The logger is the one that the environment describes. -/
structure Logger.SetUpBy (env : Environment) (l : Logger) : Prop where
  /-- There is one handler, with the context filter alone, and it writes the JSON form when the
  environment asks for it by a number other than zero. -/
  handlers : ∃ n, env.Gives serializeVariable 0 n ∧ l.handlers = [{
    formatter := if n = 0 then .text standardFormat none else .json none
    filters := [.context] }]
  /-- Nothing is passed on. -/
  propagate : l.propagate = false
  /-- The threshold is the level of the environment. -/
  threshold : env.GivesLevel l.threshold

/-- The threshold that is read is the level that the environment gives. -/
theorem thresholdOf_eq_ok_iff {level : Int} :
    thresholdOf env = .ok level ↔ env.GivesLevel level := by
  unfold thresholdOf Environment.GivesLevel
  cases env.get? levelVariable with
  | none => exact ⟨fun h ↦ (Except.ok.inj h).symm, fun h ↦ congrArg Except.ok h.symm⟩
  | some s => exact Iff.rfl

/-- A threshold that cannot be read is in the environment. -/
theorem of_thresholdOf_eq_error (h : thresholdOf env = .error f) :
    env.Unreadable ∧ f.kind = "ValueError" := by
  unfold thresholdOf at h
  cases given : env.get? levelVariable with
  | none => simp [given] at h
  | some s =>
    simp only [given] at h
    exact ⟨.level given h, kind_of_readLevel_eq_error h⟩

/-- A form that cannot be read is in the environment. -/
theorem of_formatterOf_eq_error (h : formatterOf env = .error f) :
    env.Unreadable ∧ f.kind = "ValueError" := by
  unfold formatterOf at h
  cases read : env.integer serializeVariable 0 with
  | ok n => simp [read, Except.map] at h
  | error e =>
    obtain ⟨s, fault, given, unread, rfl⟩ := Environment.exists_of_integer_eq_error read
    simp only [read, Except.map, Except.error.injEq] at h
    exact ⟨.form given unread, h ▸ rfl⟩

/-- The form that is read is the one that the environment asks for. -/
theorem formatterOf_eq_ok_iff {formatter : Formatter} :
    formatterOf env = .ok formatter ↔ ∃ n, env.Gives serializeVariable 0 n ∧
      (if n = 0 then .text standardFormat none else .json none) = formatter := by
  simp only [formatterOf, map_eq_ok_iff, Environment.integer_eq_ok_iff]

/-- An environment with a value that cannot be read does not have both settings. -/
theorem not_readable_of_ok {threshold : Int} {formatter : Formatter}
    (ht : thresholdOf env = .ok threshold) (hf : formatterOf env = .ok formatter) :
    ¬env.Unreadable := by
  rintro (⟨given, refused⟩ | ⟨given, unread⟩)
  · have selects := thresholdOf_eq_ok_iff.mp ht
    simp only [Environment.GivesLevel, given] at selects
    cases selects.symm.trans refused
  · obtain ⟨n, gives, -⟩ := formatterOf_eq_ok_iff.mp hf
    simp only [Environment.Gives, given] at gives
    exact unread n gives

/-- Setting up either succeeds, and leaves the logger that the environment describes, or fails on a
value that cannot be read, and leaves the logger as it was. -/
theorem Logger.attempt_cases (l : Logger) (env : Environment) :
    (¬env.Unreadable ∧ (l.attempt env).1 = .ok () ∧ (l.attempt env).2.SetUpBy env) ∨
    (env.Unreadable ∧ ∃ f : Failure, f.kind = "ValueError" ∧ l.attempt env = (.error f, l)) := by
  rw [attempt_eq, configure]
  cases ht : thresholdOf env with
  | error f =>
    obtain ⟨unreadable, kind⟩ := of_thresholdOf_eq_error ht
    exact .inr ⟨unreadable, f, kind, rfl⟩
  | ok threshold =>
    cases hf : formatterOf env with
    | error f =>
      obtain ⟨unreadable, kind⟩ := of_formatterOf_eq_error hf
      exact .inr ⟨unreadable, f, kind, rfl⟩
    | ok formatter =>
      obtain ⟨n, gives, rfl⟩ := formatterOf_eq_ok_iff.mp hf
      exact .inl ⟨not_readable_of_ok ht hf, rfl, ⟨n, gives, rfl⟩, rfl,
        thresholdOf_eq_ok_iff.mp ht⟩

/-- The logger after it was set up for one environment after the other. -/
def Logger.after (l : Logger) (envs : List Environment) : Logger :=
  envs.foldl (fun l env ↦ (l.attempt env).2) l

/-- The last environment is the one that is set up last. -/
theorem Logger.after_concat (l : Logger) (envs : List Environment) (env : Environment) :
    l.after (envs ++ [env]) = ((l.after envs).attempt env).2 := by
  rw [after, List.foldl_append]
  rfl

/-- The logger stays the one that the last readable environment describes. -/
theorem Logger.exists_last_readable {env₀ : Environment} (readable : ¬env₀.Unreadable)
    (start : l.SetUpBy env₀) (envs : List Environment) :
    ∃ earlier env later, env₀ :: envs = earlier ++ env :: later ∧ ¬env.Unreadable ∧
      (∀ e ∈ later, e.Unreadable) ∧ (l.after envs).SetUpBy env := by
  induction envs using List.reverseRecOn with
  | nil => exact ⟨[], env₀, [], rfl, readable, by simp, start⟩
  | append_singleton envs next ih =>
    rw [after_concat]
    rcases (l.after envs).attempt_cases next with ⟨accepted, -, described⟩ | ⟨refused, f, -, same⟩
    · exact ⟨env₀ :: envs, next, [], rfl, accepted, by simp, described⟩
    · obtain ⟨earlier, env, later, split, accepted, unreadable, described⟩ := ih
      refine ⟨earlier, env, later ++ [next], ?_, accepted, ?_, same ▸ described⟩
      · rw [← List.cons_append, split, List.append_assoc, List.cons_append]
      · exact List.forall_mem_append.mpr ⟨unreadable, by simpa using refused⟩

end Log

/-- After a logger was set up once, setting it up for any further environments in turn keeps it in
order. Each time it fails exactly when the environment has a level or a choice of the form that
cannot be read, always for the value, and then the logger is as it was. The logger is the one that
the last readable environment describes: one handler with the context filter alone, which writes the
form that this environment asks for, nothing passed on, and the level of this environment. A message
is recorded, once and with the context, exactly when its level is positive and reaches that level,
where zero stands for the level of warnings. -/
theorem set_up_all_or_nothing {l₀ : Logger} {env₀ : Environment}
    (first : (l₀.attempt env₀).1 = .ok ()) (envs : List Environment) :
    let l := (l₀.attempt env₀).2.after envs
    (∀ env : Environment, ((∃ f, (l.attempt env).1 = .error f) ↔ env.Unreadable) ∧
      ∀ f, (l.attempt env).1 = .error f → f.kind = "ValueError" ∧ (l.attempt env).2 = l) ∧
    (∃ earlier env later, env₀ :: envs = earlier ++ env :: later ∧ ¬env.Unreadable ∧
      (∀ e ∈ later, e.Unreadable) ∧ l.SetUpBy env) ∧
    ∀ s : State, s.logger = l → ∀ r : Record, (s.report r).records = s.records ++
      if 0 < r.level ∧ (if l.threshold = 0 then 30 else l.threshold) ≤ r.level
      then [r.contextualize s.context] else [] := by
  intro l
  have last : ∃ earlier env later, env₀ :: envs = earlier ++ env :: later ∧ ¬env.Unreadable ∧
      (∀ e ∈ later, e.Unreadable) ∧ l.SetUpBy env := by
    rcases l₀.attempt_cases env₀ with ⟨readable, -, described⟩ | ⟨-, f, -, failed⟩
    · exact Logger.exists_last_readable readable described envs
    · rw [failed] at first
      cases first
  refine ⟨fun env ↦ ?_, last, fun s hs r ↦ ?_⟩
  · rcases l.attempt_cases env with ⟨readable, accepted, -⟩ | ⟨unreadable, f, kind, failed⟩
    · rw [accepted]
      exact ⟨iff_of_false (by simp) readable, by simp⟩
    · rw [failed]
      refine ⟨iff_of_true ⟨f, rfl⟩ unreadable, ?_⟩
      rintro _ ⟨⟩
      exact ⟨kind, rfl⟩
  · obtain ⟨-, env, -, -, -, -, described⟩ := last
    obtain ⟨n, -, handlers⟩ := described.handlers
    rw [State.records_report_of_context (hs ▸ handlers), hs]
    refine congrArg (s.records ++ ·) (if_congr ?_ rfl rfl)
    exact enables_eq_true_iff

/-- A level that is none and a choice of the form that is no number change nothing, and what is set
up in between is JSON from warnings on. -/
theorem set_up_between_refusals :
    let l := (({} : Logger).attempt [(levelVariable, " notset ")]).2.after
      [[(levelVariable, "loud")], [(levelVariable, "30"), (serializeVariable, "-1")],
        [(serializeVariable, "yes"), (levelVariable, "10")]]
    l.threshold = 30 ∧ (l.attempt [(levelVariable, "-1")]).2 = l ∧
      (∃ env, l.SetUpBy env) ∧
      ∀ r : Record, r.level = 29 → (({ logger := l } : State).report r).records = [] := by
  intro l
  have first : (({} : Logger).attempt [(levelVariable, " notset ")]).1 = .ok () := rfl
  obtain ⟨step, ⟨-, env, -, -, -, -, described⟩, recorded⟩ := set_up_all_or_nothing first
    [[(levelVariable, "loud")], [(levelVariable, "30"), (serializeVariable, "-1")],
      [(serializeVariable, "yes"), (levelVariable, "10")]]
  have threshold : l.threshold = 30 := rfl
  obtain ⟨fails, kept⟩ := step [(levelVariable, "-1")]
  obtain ⟨f, failed⟩ := fails.mpr (.level rfl rfl)
  refine ⟨threshold, (kept f failed).2, ⟨env, described⟩, fun r hr ↦ ?_⟩
  rw [recorded { logger := l } rfl r, threshold, hr]
  rfl

end QueueAck
