import QueueAck.Log.Program
import QueueAck.Proofs.Log.Emission

/-!
# Contexts of threads

Programs that log, with a store of its own for the context of every thread. A block reads the store,
writes the extended context into it and, however its body ends, writes back what it had read; a
thread that was never written to has the empty context. What the stores hold is noted where blocks
and threads begin and end. `contexts_scoped` says that running a program in this way is running it,
and that everything noted is as the nesting of blocks and threads has it.
-/

namespace QueueAck.Log

/-- A thread, by its number. -/
abbrev ThreadId := Nat

/-- The log of a process with many threads. -/
structure Threads where
  /-- What the threads share. Its context belongs to none of them. -/
  log : State
  /-- The context that each thread has stored. -/
  stores : ThreadId → Option Context := fun _ ↦ none
  /-- The number of threads that were started; later ones have higher numbers. -/
  count : Nat := 1

namespace Threads

/-- The context of a thread. -/
def context (m : Threads) (t : ThreadId) : Context := (m.stores t).getD []

/-- Replaces the context of a thread. -/
def setContext (m : Threads) (t : ThreadId) (c : Context) : Threads :=
  { m with stores := fun u ↦ if u = t then some c else m.stores u }

/-- The log as a thread sees it. -/
def seenBy (m : Threads) (t : ThreadId) : State := m.log.setContext (m.context t)

/-- One thread that has the context of a log. -/
def ofState (s : State) : Threads :=
  { log := s, stores := fun t ↦ if t = 0 then some s.context else none }

/-- Threads that were not started have stored nothing. -/
def Fresh (m : Threads) : Prop := ∀ t, m.count ≤ t → m.stores t = none

@[simp] theorem context_setContext_self (m : Threads) (t : ThreadId) (c : Context) :
    (m.setContext t c).context t = c := by
  simp [context, setContext]

@[simp] theorem context_setContext_of_ne (m : Threads) {t u : ThreadId} (c : Context) (h : u ≠ t) :
    (m.setContext t c).context u = m.context u := by
  simp [context, setContext, h]

@[simp] theorem seenBy_setContext (m : Threads) (t : ThreadId) (c : Context) :
    (m.setContext t c).seenBy t = m.log.setContext c :=
  congrArg m.log.setContext (context_setContext_self m t c)

theorem fresh_ofState (s : State) : (ofState s).Fresh := by
  intro t ht
  exact if_neg (Nat.ne_of_gt ht)

/-- A thread that was started may store a context. -/
theorem Fresh.setContext {m : Threads} (h : m.Fresh) {t : ThreadId} (ht : t < m.count)
    (c : Context) : (m.setContext t c).Fresh := by
  intro u hu
  have hne : u ≠ t := Nat.ne_of_gt (Nat.lt_of_lt_of_le ht hu)
  exact (if_neg hne).trans (h u hu)

/-- A thread that was not started has the empty context. -/
theorem Fresh.context {m : Threads} (h : m.Fresh) {t : ThreadId} (ht : m.count ≤ t) :
    m.context t = [] := by
  rw [Threads.context, h t ht]
  rfl

end Threads

/-- What the stores hold where a block or a thread begins or ends. -/
inductive Moment where
  /-- A block was entered: the context before, and that at the start of the body. -/
  | entered (t : ThreadId) (fields : List (String × Value)) (before inside : Context)
  /-- A block was left: the context before it was entered, and that afterwards. -/
  | left (t : ThreadId) (before after : Context)
  /-- A thread was started with a context. -/
  | started (child : ThreadId) (inside : Context)
  /-- A thread has ended: the context of its starter before, and that afterwards. -/
  | joined (t : ThreadId) (before after : Context)
deriving Repr

/-- How the steps of one thread ended. -/
structure ThreadOutcome where
  /-- The failure that left them. -/
  failure : Option Failure := none
  /-- The log afterwards, with the contexts of all threads. -/
  threads : Threads
  /-- What was observed, in order. -/
  observed : List Observation := []
  /-- What was noted, in order. -/
  moments : List Moment := []

mutual

/-- Runs one step in a thread. -/
def Step.runIn : Step → ThreadId → Threads → ThreadOutcome
  | .within fields body, t, m =>
    if fields.any fun f ↦ f.1 == receiverName then
      { failure := some (.repeatedArgument blockFunction receiverName), threads := m }
    else
      let before := m.context t
      let opened := m.setContext t (before.overlay fields)
      let o := runStepsIn body t opened
      let closed := o.threads.setContext t before
      { o with
        threads := closed
        moments := .entered t fields before (opened.context t) :: o.moments ++
          [.left t before (closed.context t)] }
  | .log r extra, t, m =>
    match (m.seenBy t).call r extra with
    | .ok l =>
      { threads := { m with log := l }
        observed := [.logged (l.records.drop m.log.records.length)] }
    | .error f => { threads := m, observed := [.refused f] }
  | .refuse f, _, m => { threads := m, observed := [.refused f] }
  | .read, t, m => { threads := m, observed := [.seen (m.context t)] }
  | .replace c, t, m => { threads := m.setContext t c }
  | .raise f, _, m => { failure := some f, threads := m }
  | .attempt body, t, m =>
    let o := runStepsIn body t m
    match o.failure with
    | none => o
    | some f => { o with failure := none, observed := o.observed ++ [.caught f] }
  | .thread body, t, m =>
    let child := m.count
    let before := m.context t
    let o := runStepsIn body child { m with count := m.count + 1 }
    { o with
      failure := none
      moments := .started child (m.context child) :: o.moments ++
        [.joined t before (o.threads.context t)] }

/-- Runs steps in a thread until one ends with a failure. -/
def runStepsIn : List Step → ThreadId → Threads → ThreadOutcome
  | [], _, m => { threads := m }
  | step :: steps, t, m =>
    let o := step.runIn t m
    match o.failure with
    | some _ => o
    | none =>
      let p := runStepsIn steps t o.threads
      { p with observed := o.observed ++ p.observed, moments := o.moments ++ p.moments }

end

/-- What is noted is as the nesting has it: a block extends the context from before it and gives it
back, a thread starts without a context and leaves that of its starter alone. -/
def Moment.Scoped : Moment → Prop
  | .entered _ fields before inside => inside = before.overlay fields
  | .left _ before after => after = before
  | .started _ inside => inside = []
  | .joined _ before after => after = before

/-- The steps of a thread do what they do in a log of its own, and only to its own context. -/
structure ThreadOutcome.Keeps (t : ThreadId) (m : Threads) (o : ThreadOutcome) (p : Outcome) :
    Prop where
  /-- They end in the same way. -/
  failure : o.failure = p.failure
  /-- The same is observed. -/
  observed : o.observed = p.observed
  /-- The thread sees the log that is left. -/
  state : o.threads.seenBy t = p.state
  /-- No thread is forgotten. -/
  count : m.count ≤ o.threads.count
  /-- Threads to come have stored nothing. -/
  fresh : o.threads.Fresh
  /-- Other threads keep their contexts. -/
  others : ∀ u, u ≠ t → u < m.count → o.threads.context u = m.context u
  /-- What was noted is as the nesting has it. -/
  moments : ∀ x ∈ o.moments, x.Scoped

/-- A log call leaves the context alone. -/
theorem State.context_of_call {s l : State} {r : Record} {extra : List (String × Value)}
    (h : s.call r extra = .ok l) : l.context = s.context := by
  unfold State.call at h
  split at h
  · split at h
    · cases h
    · cases h
      exact (s.emit_adds _).2.1
  · cases h
    rfl

namespace ThreadOutcome.Keeps

variable {t : ThreadId} {m : Threads} {o : ThreadOutcome} {p : Outcome}

/-- Steps that change nothing. -/
theorem idle (hm : m.Fresh) (f : Option Failure) (seen : List Observation) :
    Keeps t m { failure := f, threads := m, observed := seen }
      { failure := f, state := m.seenBy t, observed := seen } :=
  ⟨rfl, rfl, rfl, Nat.le_refl _, hm, fun _ _ _ ↦ rfl, by simp⟩

/-- A block gives the context back that it found, whatever its body did. -/
theorem within (ht : t < m.count) (fields : List (String × Value))
    (h : o.Keeps t (m.setContext t ((m.context t).overlay fields)) p) :
    Keeps t m
      { o with
        threads := o.threads.setContext t (m.context t)
        moments :=
          .entered t fields (m.context t)
              ((m.setContext t ((m.context t).overlay fields)).context t) :: o.moments ++
            [.left t (m.context t) ((o.threads.setContext t (m.context t)).context t)] }
      { p with state := p.state.setContext (m.context t) } where
  failure := h.failure
  observed := h.observed
  state := by
    rw [Threads.seenBy_setContext, ← h.state]
    rfl
  count := h.count
  fresh := h.fresh.setContext (Nat.lt_of_lt_of_le ht h.count) _
  others u hu hlt := by
    rw [Threads.context_setContext_of_ne _ _ hu, h.others u hu hlt,
      Threads.context_setContext_of_ne _ _ hu]
  moments x hx := by
    rcases List.mem_append.mp hx with hx | hx
    · rcases List.mem_cons.mp hx with rfl | hx
      · exact Threads.context_setContext_self ..
      · exact h.moments x hx
    · rw [List.mem_singleton.mp hx]
      exact Threads.context_setContext_self ..

/-- A log call adds to the log that the threads share. -/
theorem log (hm : m.Fresh) {l : State} (hl : l.context = m.context t) (seen : List Observation) :
    Keeps t m { threads := { m with log := l }, observed := seen }
      { state := l, observed := seen } where
  failure := rfl
  observed := rfl
  state := congrArg l.setContext hl.symm
  count := Nat.le_refl _
  fresh := hm
  others _ _ _ := rfl
  moments := by simp

/-- Replacing the context replaces that of the thread alone. -/
theorem replace (hm : m.Fresh) (ht : t < m.count) (c : Context) :
    Keeps t m { threads := m.setContext t c } { state := (m.seenBy t).setContext c } where
  failure := rfl
  observed := rfl
  state := Threads.seenBy_setContext m t c
  count := Nat.le_refl _
  fresh := hm.setContext ht c
  others _ hu _ := Threads.context_setContext_of_ne m c hu
  moments := by simp

/-- A failure that is caught. -/
theorem caught (h : o.Keeps t m p) (f : Failure) :
    Keeps t m { o with failure := none, observed := o.observed ++ [.caught f] }
      { state := p.state, observed := p.observed ++ [.caught f] } :=
  { h with failure := rfl, observed := congrArg (· ++ _) h.observed }

/-- A thread that runs to its end has a context of its own. -/
theorem thread (hm : m.Fresh) (ht : t < m.count)
    (h : o.Keeps m.count { m with count := m.count + 1 } p) :
    Keeps t m
      { o with
        failure := none
        moments := .started m.count (m.context m.count) :: o.moments ++
          [.joined t (m.context t) (o.threads.context t)] }
      { state := p.state.setContext (m.context t), observed := p.observed } where
  failure := rfl
  observed := h.observed
  state := by
    have starter : o.threads.context t = m.context t :=
      h.others t (Nat.ne_of_lt ht) (Nat.lt_succ_of_lt ht)
    rw [← h.state, Threads.seenBy, starter]
    rfl
  count := Nat.le_of_succ_le h.count
  fresh := h.fresh
  others u _ hlt := h.others u (Nat.ne_of_lt hlt) (Nat.lt_succ_of_lt hlt)
  moments x hx := by
    rcases List.mem_append.mp hx with hx | hx
    · rcases List.mem_cons.mp hx with rfl | hx
      · exact hm.context (Nat.le_refl _)
      · exact h.moments x hx
    · rw [List.mem_singleton.mp hx]
      exact h.others t (Nat.ne_of_lt ht) (Nat.lt_succ_of_lt ht)

/-- Steps that follow a step without a failure. -/
theorem append (h : o.Keeps t m p) {o' : ThreadOutcome} {p' : Outcome}
    (h' : o'.Keeps t o.threads p') :
    Keeps t m
      { o' with observed := o.observed ++ o'.observed, moments := o.moments ++ o'.moments }
      { p' with observed := p.observed ++ p'.observed } where
  failure := h'.failure
  observed := by rw [h.observed, h'.observed]
  state := h'.state
  count := Nat.le_trans h.count h'.count
  fresh := h'.fresh
  others u hu hlt := (h'.others u hu (Nat.lt_of_lt_of_le hlt h.count)).trans (h.others u hu hlt)
  moments := List.forall_mem_append.mpr ⟨h.moments, h'.moments⟩

end ThreadOutcome.Keeps

mutual

/-- Running a step in a thread is running it. -/
theorem Step.keeps_runIn (step : Step) (t : ThreadId) (m : Threads) (hm : m.Fresh)
    (ht : t < m.count) : (step.runIn t m).Keeps t m (step.run (m.seenBy t)) := by
  cases step with
  | within fields body =>
    rw [Step.runIn, Step.run]
    split
    · exact .idle hm _ []
    · have h := keeps_runStepsIn body t (m.setContext t ((m.context t).overlay fields))
        (hm.setContext ht _) ht
      rw [Threads.seenBy_setContext] at h
      exact .within ht fields h
  | log r extra =>
    rw [Step.runIn, Step.run]
    cases h : (m.seenBy t).call r extra with
    | ok l => exact .log hm (State.context_of_call h) _
    | error f => exact .idle hm none _
  | refuse f => exact .idle hm none _
  | read => exact .idle hm none _
  | replace c => exact .replace hm ht c
  | raise f => exact .idle hm (some f) []
  | attempt body =>
    rw [Step.runIn, Step.run]
    have h := keeps_runStepsIn body t m hm ht
    rw [h.failure]
    cases (runSteps body (m.seenBy t)).failure with
    | none => exact h
    | some f => exact h.caught f
  | thread body =>
    have h := keeps_runStepsIn body m.count { m with count := m.count + 1 }
      (fun u hu ↦ hm u (Nat.le_of_succ_le hu)) (Nat.lt_succ_self _)
    -- The next thread was not started before, so its context is still empty.
    have own : ({ m with count := m.count + 1 } : Threads).seenBy m.count = m.log.setContext [] :=
      congrArg m.log.setContext (hm.context (Nat.le_refl _))
    rw [own] at h
    rw [Step.runIn, Step.run]
    exact .thread hm ht h

/-- Running steps in a thread is running them. -/
theorem keeps_runStepsIn (steps : List Step) (t : ThreadId) (m : Threads) (hm : m.Fresh)
    (ht : t < m.count) : (runStepsIn steps t m).Keeps t m (runSteps steps (m.seenBy t)) := by
  cases steps with
  | nil => exact .idle hm none []
  | cons step steps =>
    have h := step.keeps_runIn t m hm ht
    rw [runStepsIn, runSteps, h.failure]
    cases hf : (step.run (m.seenBy t)).failure with
    | some f => exact { h with failure := h.failure.trans hf }
    | none =>
      have h' := keeps_runStepsIn steps t _ h.fresh (Nat.lt_of_lt_of_le ht h.count)
      rw [h.state] at h'
      exact h.append h'

end

mutual

/-- True for a step that replaces the context at most inside a block or in another thread. -/
def Step.keepsContext : Step → Bool
  | .replace _ => false
  | .attempt body => stepsKeepContext body
  | _ => true

/-- True for steps that replace the context at most inside a block or in another thread. -/
def stepsKeepContext : List Step → Bool
  | [] => true
  | step :: steps => step.keepsContext && stepsKeepContext steps

end

mutual

/-- A step that does not replace the context leaves it as it was, however it ends. -/
theorem Step.context_run (step : Step) (s : State) (h : step.keepsContext = true) :
    (step.run s).state.context = s.context := by
  cases step with
  | within fields body =>
    rw [Step.run]
    split <;> rfl
  | log r extra =>
    rw [Step.run]
    cases hc : s.call r extra with
    | ok l => exact State.context_of_call hc
    | error f => rfl
  | refuse f => rfl
  | read => rfl
  | replace c => cases h
  | raise f => rfl
  | attempt body =>
    have hb := context_runSteps body s h
    rw [Step.run]
    cases (runSteps body s).failure <;> exact hb
  | thread body => rfl

/-- Steps that do not replace the context leave it as it was, however they end. -/
theorem context_runSteps (steps : List Step) (s : State) (h : stepsKeepContext steps = true) :
    (runSteps steps s).state.context = s.context := by
  cases steps with
  | nil => rfl
  | cons step steps =>
    obtain ⟨hs, hr⟩ := Bool.and_eq_true_iff.mp h
    have first := step.context_run s hs
    rw [runSteps]
    cases (step.run s).failure with
    | some f => exact first
    | none => exact (context_runSteps steps _ hr).trans first

end

/-- Contexts follow the nesting of blocks and threads. Running a program with a store for every
thread is running it; a block has the context from before it, overlaid with its fields, and gives
that context back however it is left; a thread starts without a context and leaves the context of
its starter alone; and steps that replace no context outside a block leave the one they found. -/
theorem contexts_scoped (steps : List Step) (s : State) :
    let o := runStepsIn steps 0 (.ofState s)
    let p := runSteps steps s
    (o.failure = p.failure ∧ o.observed = p.observed ∧ o.threads.seenBy 0 = p.state) ∧
    (∀ t before after, .left t before after ∈ o.moments → after = before) ∧
    (∀ t fields before inside, .entered t fields before inside ∈ o.moments →
      inside = before.overlay fields ∧
      inside.keys = before.keys ++
        ((fields.map Prod.fst).filter fun k ↦ !before.keys.contains k).eraseDups ∧
      ∀ k, inside.lookup k = (fields.reverse.lookup k).or (before.lookup k)) ∧
    (∀ child inside, .started child inside ∈ o.moments → inside = []) ∧
    (∀ t before after, .joined t before after ∈ o.moments → after = before) ∧
    (stepsKeepContext steps = true → p.state.context = s.context) := by
  intro o p
  have h : o.Keeps 0 (.ofState s) p :=
    keeps_runStepsIn steps 0 (.ofState s) (Threads.fresh_ofState s) Nat.zero_lt_one
  refine ⟨⟨h.failure, h.observed, h.state⟩, ?_, ?_, ?_, ?_, context_runSteps steps s⟩
  · exact fun t before after hx ↦ h.moments _ hx
  · intro t fields before inside hx
    have hi : inside = before.overlay fields := h.moments _ hx
    exact ⟨hi, hi ▸ Context.keys_overlay before fields, hi ▸ Context.lookup_overlay before fields⟩
  · exact fun child inside hx ↦ h.moments _ hx
  · exact fun t before after hx ↦ h.moments _ hx

/-- A block that replaces the context, an inner block that does so too and fails, and a thread. -/
private def nestedSteps : List Step :=
  [.within [("a", .int 1)]
    [.replace [("z", .int 0)],
      .attempt [.within [("b", .int 3), ("z", .int 2)] [.replace [], .raise .halfCredentials]],
      .thread [.replace [("q", .int 4)]],
      .read]]

/-- In the example the inner block gives back what the outer one has put in place, and the thread
leaves it alone. -/
theorem contexts_scoped_nested :
    let o := runStepsIn nestedSteps 0 (.ofState {})
    stepsKeepContext nestedSteps = true ∧ (runSteps nestedSteps {}).state.context = [] ∧
    (∀ after, Moment.left 0 [("z", .int 0)] after ∈ o.moments → after = [("z", .int 0)]) ∧
    Moment.left 0 [("z", .int 0)] [("z", .int 0)] ∈ o.moments := by
  intro o
  obtain ⟨-, left, -, -, -, keeps⟩ := contexts_scoped nestedSteps {}
  refine ⟨rfl, keeps rfl, fun after hx ↦ left _ _ _ hx, ?_⟩
  simp [o, nestedSteps, runStepsIn, Step.runIn, receiverName]

end QueueAck.Log
