import QueueAck.Proofs.Threads.Drawing
import QueueAck.Proofs.Threads.Ledger

/-!
# Threads that share a source of identifiers

Any number of threads carry out bulk actions whose entries are numbered from one source, and take
their steps in any order. Each of them may be interrupted where it stands, and the rest of the
process may change what it likes but the source. `ids_interleaved` says that the source still
issues its numbers one after the other, each once, and that every batch has increasing ones. What
carries the proof is `Machine.Orderly`, with a `Ledger` of the numbers that each thread holds for
the batch that it builds.
-/

namespace QueueAck

variable {ε : Type}

/-- A thread. -/
structure Thread (ε : Type) where
  /-- The context that it has between its jobs. -/
  home : Context := []
  /-- The context that it has now. -/
  context : Context := home
  /-- What is left of its jobs; the first one is the one that it is at. -/
  tasks : List (Process ε (Except Failure (List BatchResult)))

/-- A thread before its first job. -/
def Thread.start (home : Context) (jobs : List (Job ε)) : Thread ε :=
  { home, tasks := jobs.map fun job ↦ job.task.process }

/-- The thread after a failure that some other thread or a signal has caused. The context of the
job is left, and the next job is tried. -/
def Thread.interrupted (t : Thread ε) : Thread ε :=
  { t with context := t.home, tasks := t.tasks.tail }

/-- A process with many threads. -/
structure Machine (ε : Type) where
  /-- What the threads share. -/
  world : World ε
  /-- The threads. -/
  threads : List (Thread ε)
  /-- The identifiers that were issued, in order. -/
  issued : List String := []
  /-- The batches that were handed over, in order. -/
  handed : List BatchCall := []

/-- What happens next in a process with many threads. -/
inductive Turn (ε : Type) where
  /-- A thread takes a step. -/
  | act (thread : Nat)
  /-- A thread fails where it stands. -/
  | interrupt (thread : Nat)
  /-- Something else changes the state. -/
  | outside (change : World ε → World ε)

namespace Machine

/-- Threads before their first steps. -/
def start (w : World ε) (threads : List (Context × List (Job ε))) : Machine ε :=
  { world := w, threads := threads.map fun t ↦ Thread.start t.1 t.2 }

/-- Takes a step of one thread, which sees the state with its own context. -/
def act (m : Machine ε) (i : Nat) (t : Thread ε) : Machine ε :=
  match t.tasks with
  | [] => m
  | .done _ :: tasks => { m with threads := m.threads.set i { t with tasks } }
  | .draw g next :: tasks =>
    let id := decimalText (m.world.counters g)
    { m with
      world := m.world.setCounter g (m.world.counters g + 1)
      threads := m.threads.set i { t with tasks := next id :: tasks }
      issued := match id with
        | .ok s => m.issued ++ [s]
        | .error _ => m.issued }
  | .hand made next :: tasks =>
    { m with
      threads := m.threads.set i { t with tasks := next :: tasks }
      handed := m.handed ++ [made] }
  | .step change next :: tasks =>
    let seen := m.world.setContext t.context
    let w := change seen
    { m with
      world := w
      threads := m.threads.set i { t with context := w.log.context, tasks := next seen :: tasks } }

/-- Lets one thing happen. -/
def turn (m : Machine ε) : Turn ε → Machine ε
  | .act i =>
    match m.threads[i]? with
    | some t => m.act i t
    | none => m
  | .interrupt i =>
    match m.threads[i]? with
    | some t => { m with threads := m.threads.set i t.interrupted }
    | none => m
  | .outside change => { m with world := change m.world }

/-- Lets one thing happen after the other. -/
def run (m : Machine ε) (turns : List (Turn ε)) : Machine ε := turns.foldl turn m

end Machine

/-- A thread that holds numbers builds a batch with them, and holds none between its jobs. -/
def Thread.Holds (g : GeneratorId) (t : Thread ε) (held : List Int) : Prop :=
  ∀ p tasks, t.tasks = p :: tasks →
    p.Leads g held (fun _ _ ↦ True) ∧ ∀ p ∈ tasks, p.Leads g [] fun _ _ ↦ True

/-- A thread that goes on with a process holds the numbers of the process. -/
theorem Thread.holds_cons {g : GeneratorId} {held : List Int} {home context : Context}
    {p : Process ε (Except Failure (List BatchResult))} {tasks} (hp : p.Leads g held fun _ _ ↦ True)
    (later : ∀ p ∈ tasks, p.Leads g [] fun _ _ ↦ True) :
    Thread.Holds g ⟨home, context, p :: tasks⟩ held := by
  rintro _ _ ⟨⟩
  exact ⟨hp, later⟩

/-- A thread between its jobs holds nothing. -/
theorem Thread.holds_nil {g : GeneratorId} {home context : Context}
    {tasks : List (Process ε (Except Failure (List BatchResult)))}
    (later : ∀ p ∈ tasks, p.Leads g [] fun _ _ ↦ True) :
    Thread.Holds g ⟨home, context, tasks⟩ [] := by
  rintro p tasks ⟨⟩
  exact List.forall_mem_cons.mp later

/-- A thread that was interrupted holds nothing. -/
theorem Thread.Holds.interrupted {g : GeneratorId} {t : Thread ε} {held : List Int}
    (h : t.Holds g held) : t.interrupted.Holds g [] := by
  refine Thread.holds_nil fun p hp ↦ ?_
  cases ht : t.tasks with
  | nil => simp [ht] at hp
  | cons current tasks =>
    rw [ht] at hp
    exact (h current tasks ht).2 p hp

/-- The invariant of the turns: the source has issued its numbers one after the other, and the
ledger tells where each of them has gone. -/
structure Machine.Orderly (g : GeneratorId) (start : Int) (m : Machine ε)
    (held batches : List (List Int)) : Prop where
  /-- Every thread has its place in the ledger. -/
  length : held.length = m.threads.length
  /-- A thread holds what the ledger says. -/
  holds : ∀ (i : Nat) t ns, m.threads[i]? = some t → held[i]? = some ns → t.Holds g ns
  /-- The source never goes back. -/
  counter : start ≤ m.world.counters g
  /-- All numbers up to the next one were issued. -/
  issued : m.issued = (writtenNumbers start (m.world.counters g)).map Int.repr
  /-- The batches of the ledger were handed over. -/
  handed : m.handed.map (fun made ↦ made.entries.map BatchEntry.id) =
    batches.map (List.map Int.repr)
  /-- Every number is in one place. -/
  ledger : Ledger (writtenNumbers start (m.world.counters g)) held batches

private theorem holds_set {g : GeneratorId} {threads : List (Thread ε)} {held : List (List Int)}
    (h : ∀ (j : Nat) t ns, threads[j]? = some t → held[j]? = some ns → t.Holds g ns) (i : Nat)
    {t : Thread ε} {ns : List Int} (ht : t.Holds g ns) (j : Nat) (u : Thread ε) (ms : List Int)
    (hu : (threads.set i t)[j]? = some u) (hm : (held.set i ns)[j]? = some ms) : u.Holds g ms := by
  rw [List.getElem?_set] at hu hm
  by_cases hij : i = j
  · rw [if_pos hij] at hu hm
    obtain ⟨-, rfl⟩ : i < threads.length ∧ t = u := by simpa using hu
    obtain ⟨-, rfl⟩ : i < held.length ∧ ns = ms := by simpa using hm
    exact ht
  · rw [if_neg hij] at hu hm
    exact h j u ms hu hm

private theorem set_eq_self {held : List (List Int)} {i : Nat} {ns : List Int}
    (h : held[i]? = some ns) : held.set i ns = held := by
  obtain ⟨hl, rfl⟩ := List.getElem?_eq_some_iff.mp h
  exact List.set_getElem_self hl

namespace Machine.Orderly

variable {g : GeneratorId} {first : Int} {m : Machine ε} {held batches : List (List Int)}

/-- Threads before their first steps hold nothing. -/
theorem start {w : World ε} {threads : List (Context × List (Job ε))}
    (shared : ∀ t ∈ threads, ∀ job ∈ t.2,
      job.generator = g ∧ job.client.Guarantees (SameCounter g)) :
    (Machine.start w threads).Orderly g (w.counters g) (List.replicate threads.length []) [] where
  length := by simp [Machine.start]
  holds i t ns ht hn := by
    obtain rfl : ns = [] := (List.mem_replicate.mp (List.mem_of_getElem? hn)).2
    obtain ⟨thread, hm, rfl⟩ := List.mem_map.mp (List.mem_of_getElem? ht)
    have leads : ∀ p ∈ (Thread.start thread.1 thread.2).tasks, p.Leads g [] fun _ _ ↦ True := by
      intro p hp
      obtain ⟨job, hj, rfl⟩ := List.mem_map.mp hp
      obtain ⟨hg, quiet⟩ := shared thread hm job hj
      exact Process.Leads.mono (Job.settles_task hg quiet) fun _ _ _ ↦ trivial
    intro p tasks hp
    rw [hp] at leads
    exact List.forall_mem_cons.mp leads
  counter := Int.le_refl _
  issued := by
    rw [Machine.start, writtenNumbers_self]
    rfl
  handed := rfl
  ledger := by
    rw [Machine.start, writtenNumbers_self]
    exact .empty _

/-- What changes the state but not the source. -/
theorem outside (h : m.Orderly g first held batches) {w : World ε}
    (hw : SameCounter g m.world w) : { m with world := w }.Orderly g first held batches where
  length := h.length
  holds := h.holds
  counter := hw.symm ▸ h.counter
  issued := hw.symm ▸ h.issued
  handed := h.handed
  ledger := hw.symm ▸ h.ledger

/-- A thread goes on with what it holds. -/
theorem goOn (h : m.Orderly g first held batches) {i : Nat} {ns : List Int}
    (hi : held[i]? = some ns) {t : Thread ε} (ht : t.Holds g ns) :
    { m with threads := m.threads.set i t }.Orderly g first held batches where
  length := h.length.trans List.length_set.symm
  holds := by
    have hs := holds_set h.holds i ht
    rwa [set_eq_self hi] at hs
  counter := h.counter
  issued := h.issued
  handed := h.handed
  ledger := h.ledger

/-- A thread goes on without what it held. -/
theorem release (h : m.Orderly g first held batches) {i : Nat} {ns : List Int}
    (hi : held[i]? = some ns) {t : Thread ε} (ht : t.Holds g []) :
    { m with threads := m.threads.set i t }.Orderly g first (held.set i []) batches where
  length := by simpa using h.length
  holds := holds_set h.holds i ht
  counter := h.counter
  issued := h.issued
  handed := h.handed
  ledger := h.ledger.release hi

/-- A thread hands over what it holds. -/
theorem hand (h : m.Orderly g first held batches) {i : Nat} {ns : List Int}
    (hi : held[i]? = some ns) {t : Thread ε} (ht : t.Holds g []) {made : BatchCall}
    (hm : made.entries.map BatchEntry.id = ns.map Int.repr) :
    { m with threads := m.threads.set i t, handed := m.handed ++ [made] }.Orderly g first
      (held.set i []) (batches ++ [ns]) where
  length := by simpa using h.length
  holds := holds_set h.holds i ht
  counter := h.counter
  issued := h.issued
  handed := by rw [List.map_append, List.map_append, h.handed, List.map_singleton, hm]; rfl
  ledger := h.ledger.hand hi

/-- A thread draws a number that is written. -/
theorem draw (h : m.Orderly g first held batches) {i : Nat} {ns : List Int}
    (hi : held[i]? = some ns) {t : Thread ε}
    (hn : (m.world.counters g).natAbs < Text.writeLimit)
    (ht : t.Holds g (ns ++ [m.world.counters g])) :
    { m with
      world := m.world.setCounter g (m.world.counters g + 1)
      threads := m.threads.set i t
      issued := m.issued ++ [(m.world.counters g).repr] }.Orderly g first
        (held.set i (ns ++ [m.world.counters g])) batches where
  length := by simpa using h.length
  holds := holds_set h.holds i ht
  counter := by
    rw [World.counters_setCounter_self]
    exact Int.le_add_one h.counter
  issued := by
    rw [World.counters_setCounter_self, writtenNumbers_succ_of_lt h.counter hn, List.map_append,
      h.issued]
    rfl
  handed := h.handed
  ledger := by
    rw [World.counters_setCounter_self, writtenNumbers_succ_of_lt h.counter hn]
    exact h.ledger.draw hi _

/-- A thread draws a number that is too large, and loses what it held. -/
theorem overflow (h : m.Orderly g first held batches) {i : Nat} {ns : List Int}
    (hi : held[i]? = some ns) {t : Thread ε}
    (hn : Text.writeLimit ≤ (m.world.counters g).natAbs) (ht : t.Holds g []) :
    { m with
      world := m.world.setCounter g (m.world.counters g + 1)
      threads := m.threads.set i t }.Orderly g first (held.set i []) batches where
  length := by simpa using h.length
  holds := holds_set h.holds i ht
  counter := by
    rw [World.counters_setCounter_self]
    exact Int.le_add_one h.counter
  issued := by
    rw [World.counters_setCounter_self, writtenNumbers_succ_of_le h.counter hn, h.issued]
  handed := h.handed
  ledger := by
    rw [World.counters_setCounter_self, writtenNumbers_succ_of_le h.counter hn]
    exact h.ledger.release hi

/-- Every thread holds what its place in the ledger says. -/
theorem exists_holds (h : m.Orderly g first held batches) {i : Nat} {t : Thread ε}
    (hi : m.threads[i]? = some t) : ∃ ns, held[i]? = some ns ∧ t.Holds g ns := by
  obtain ⟨hl, -⟩ := List.getElem?_eq_some_iff.mp hi
  have hn := List.getElem?_eq_getElem (h.length.symm ▸ hl)
  exact ⟨_, hn, h.holds i t _ hi hn⟩

/-- A step of a thread keeps the order. -/
theorem act (h : m.Orderly g first held batches) {i : Nat} {t : Thread ε}
    (hi : m.threads[i]? = some t) :
    ∃ held batches, (m.act i t).Orderly g first held batches := by
  obtain ⟨ns, hn, ht⟩ := h.exists_holds hi
  unfold Machine.act
  split
  · exact ⟨_, _, h⟩
  · next r tasks hp =>
    obtain ⟨-, later⟩ := ht _ _ hp
    exact ⟨_, _, h.release hn (Thread.holds_nil later)⟩
  · next source next tasks hp =>
    obtain ⟨⟨rfl, written, failed⟩, later⟩ := ht _ _ hp
    rcases Nat.lt_or_ge (m.world.counters source).natAbs Text.writeLimit with hl | hl
    · rw [decimalText_of_lt hl]
      exact ⟨_, _, h.draw hn hl (Thread.holds_cons (written _) later)⟩
    · -- Such a number is skipped. The task fails, and what it drew before is never handed over.
      rw [decimalText_of_le hl]
      exact ⟨_, _, h.overflow hn hl (Thread.holds_cons (failed .unprintableInteger) later)⟩
  · next made next tasks hp =>
    obtain ⟨⟨hm, leads⟩, later⟩ := ht _ _ hp
    exact ⟨_, _, h.hand hn (Thread.holds_cons leads later) hm⟩
  · next change next tasks hp =>
    obtain ⟨leads, later⟩ := ht _ _ hp
    obtain ⟨hw, leads⟩ := leads (m.world.setContext t.context)
    have same : SameCounter g m.world (change (m.world.setContext t.context)) := hw
    exact ⟨_, _, (h.outside same).goOn hn (Thread.holds_cons leads later)⟩

/-- Whatever happens next keeps the order. -/
theorem turn (h : m.Orderly g first held batches) {next : Turn ε}
    (quiet : ∀ change, next = .outside change → ∀ w, SameCounter g w (change w)) :
    ∃ held batches, (m.turn next).Orderly g first held batches := by
  cases next with
  | act i =>
    rw [Machine.turn]
    cases hi : m.threads[i]? with
    | none => exact ⟨_, _, h⟩
    | some t => exact h.act hi
  | interrupt i =>
    rw [Machine.turn]
    cases hi : m.threads[i]? with
    | none => exact ⟨_, _, h⟩
    | some t =>
      obtain ⟨ns, hn, ht⟩ := h.exists_holds hi
      -- The numbers of a batch that is given up go to no other one.
      exact ⟨_, _, h.release hn ht.interrupted⟩
  | outside change => exact ⟨_, _, h.outside (quiet change rfl m.world)⟩

/-- Whatever happens keeps the order. -/
theorem run (h : m.Orderly g first held batches) {turns : List (Turn ε)}
    (quiet : ∀ change, .outside change ∈ turns → ∀ w, SameCounter g w (change w)) :
    ∃ held batches, (m.run turns).Orderly g first held batches := by
  induction turns generalizing m held batches with
  | nil => exact ⟨_, _, h⟩
  | cons next turns ih =>
    obtain ⟨held, batches, hn⟩ :=
      h.turn fun change hc ↦ quiet change (hc ▸ List.mem_cons_self)
    exact ih hn fun change hc ↦ quiet change (List.mem_cons_of_mem next hc)

end Machine.Orderly

/-- Threads that number their entries from one source, interrupted and interleaved at will, are
issued the texts of consecutive numbers from where the source starts, or from the first number that
can be written. No text is issued twice, none is handed over twice, and every batch has increasing
numbers. A job that is left alone does what its bulk action does. -/
theorem ids_interleaved (g : GeneratorId) (threads : List (Context × List (Job ε)))
    (turns : List (Turn ε)) (w : World ε)
    (shared : ∀ t ∈ threads, ∀ job ∈ t.2,
      job.generator = g ∧ job.client.Guarantees (SameCounter g))
    (quiet : ∀ change, .outside change ∈ turns → ∀ v, SameCounter g v (change v)) :
    let m := (Machine.start w threads).run turns
    let first := max (w.counters g) (1 - Text.writeLimit)
    m.issued.Nodup ∧
    m.issued = (List.range m.issued.length).map (fun i : Nat ↦ (first + i).repr) ∧
    (∀ made ∈ m.handed, ∃ ns : List Int,
      ns.Pairwise (· < ·) ∧ made.entries.map BatchEntry.id = ns.map Int.repr) ∧
    ((m.handed.flatMap BatchCall.entries).map BatchEntry.id).Subperm m.issued ∧
    ∀ t ∈ threads, ∀ job ∈ t.2, job.task.Splits job.action := by
  intro m first
  obtain ⟨held, batches, h⟩ := (Machine.Orderly.start (w := w) shared).run quiet
  have increasing := pairwise_writtenNumbers (w.counters g) (m.world.counters g)
  have nodup : (writtenNumbers (w.counters g) (m.world.counters g)).Nodup :=
    increasing.imp ne_of_lt
  refine ⟨?_, ?_, ?_, ?_, fun t _ job _ ↦ job.splits_task⟩
  · rw [h.issued]
    exact nodup.map fun _ _ ↦ Int.repr_injective
  · rw [h.issued, List.length_map]
    conv_lhs => rw [writtenNumbers_eq_map_range, List.map_map]
    rfl
  · intro made hm
    have hb : made.entries.map BatchEntry.id ∈ batches.map (List.map Int.repr) :=
      h.handed ▸ List.mem_map_of_mem hm
    obtain ⟨ns, hn, he⟩ := List.mem_map.mp hb
    exact ⟨ns, increasing.sublist (h.ledger.sublist_batches ns hn), he.symm⟩
  · have handed : (m.handed.flatMap BatchCall.entries).map BatchEntry.id =
        batches.flatten.map Int.repr := by
      rw [List.map_flatMap, List.flatMap_def, h.handed, List.map_flatten]
    have drawn := (List.sublist_append_left batches.flatten held.flatten).subperm.trans
      h.ledger.subperm
    rw [handed, h.issued]
    exact List.Subperm.map (fun _ _ ↦ Int.repr_injective) drawn

/-- A client on which every call succeeds. -/
private def willing : QueueClient Unit where
  changeVisibility destination _ := pure { destination }
  delete destination _ := pure { destination }

/-- One thread acknowledges two items, the other one hands an item back. -/
private def twoThreads : List (Context × List (Job Unit)) :=
  [([], [.ack { client := willing } 0 "orders"]), ([], [.nack { client := willing } 1 "bills"])]

/-- A state in which the items wait. -/
private def threeItems : World Unit where
  queues q := if q = 0 then [⟨"a", "orders", ""⟩, ⟨"b", "orders", ""⟩] else [⟨"c", "bills", ""⟩]
  outside := ()

/-- The second thread draws its number between those of the first one. -/
private def betweenTurns : List (Turn Unit) :=
  List.replicate 9 (.act 0) ++ List.replicate 8 (.act 1) ++ List.replicate 2 (.act 0) ++ [.act 1]

/-- In the example the batch of the first thread has a gap, and the one of the second fills it. -/
theorem ids_interleaved_between :
    (∀ t ∈ twoThreads, ∀ job ∈ t.2,
      job.generator = .shared ∧ job.client.Guarantees (SameCounter .shared)) ∧
    let m := (Machine.start threeItems twoThreads).run betweenTurns
    m.issued = ["0", "1", "2"] ∧
    m.handed.map (fun made ↦ made.entries.map BatchEntry.id) = [["0", "2"], ["1"]] ∧
    ∃ ns : List Int, ns.Pairwise (· < ·) ∧ ["0", "2"] = ns.map Int.repr := by
  have same : willing.Guarantees (SameCounter .shared) := ⟨fun _ _ _ ↦ rfl, fun _ _ _ ↦ rfl⟩
  have shared : ∀ t ∈ twoThreads, ∀ job ∈ t.2,
      job.generator = .shared ∧ job.client.Guarantees (SameCounter .shared) := by
    simp [twoThreads, Job.generator, Job.client, same]
  have quiet : ∀ change, .outside change ∈ betweenTurns →
      ∀ v, SameCounter .shared v (change v) := by
    simp [betweenTurns]
  obtain ⟨-, -, increasing, -⟩ :=
    ids_interleaved .shared twoThreads betweenTurns threeItems shared quiet
  refine ⟨shared, by decide +kernel, by decide +kernel, ?_⟩
  exact increasing (.delete "orders" [⟨"0", "a", none⟩, ⟨"2", "b", none⟩]) (by decide +kernel)

end QueueAck
