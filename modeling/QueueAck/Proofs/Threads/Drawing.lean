import QueueAck.Proofs.Identifiers
import QueueAck.Proofs.Threads.Process

/-!
# Numbers that a process holds

What a bulk action does with the numbers that it draws, whichever these are. While it builds a batch
it holds the numbers of the entries so far, hands them over with the batch, and holds none between
the batches. `Job.settles_task` says so of every bulk action that numbers its entries from the
source and whose client draws nothing from it.
-/

namespace QueueAck

variable {ε α β : Type}

/-- The process draws from one source only and hands over what it has drawn. `held` are the numbers
drawn since the last batch, and `post` is what is left of them in the end. -/
def Process.Leads (g : GeneratorId) : Process ε α → (held : List Int) →
    (post : α → List Int → Prop) → Prop
  | .done x, held, post => post x held
  | .draw h next, held, post =>
    h = g ∧ (∀ n : Int, (next (.ok n.repr)).Leads g (held ++ [n]) post) ∧
      ∀ f, (next (.error f)).Leads g [] post
  | .hand made next, held, post =>
    made.entries.map BatchEntry.id = held.map Int.repr ∧ next.Leads g [] post
  | .step change next, held, post =>
    ∀ w, SameCounter g w (change w) ∧ (next w).Leads g held post

/-- The first of two processes leads to where the second one starts. -/
theorem Process.Leads.bind {g : GeneratorId} {p : Process ε α} {k : α → Process ε β}
    {held : List Int} {post : β → List Int → Prop}
    (h : p.Leads g held fun x left ↦ (k x).Leads g left post) :
    (p.bind k).Leads g held post := by
  induction p generalizing held with
  | done x => exact h
  | draw _ next ih => exact ⟨h.1, fun n ↦ ih _ (h.2.1 n), fun f ↦ ih _ (h.2.2 f)⟩
  | hand made next ih => exact ⟨h.1, ih h.2⟩
  | step change next ih => exact fun w ↦ ⟨(h w).1, ih w (h w).2⟩

/-- What is left in the end may be described more loosely. -/
theorem Process.Leads.mono {g : GeneratorId} {p : Process ε α} {held : List Int}
    {post post' : α → List Int → Prop} (h : p.Leads g held post)
    (hp : ∀ x left, post x left → post' x left) : p.Leads g held post' := by
  induction p generalizing held with
  | done x => exact hp x held h
  | draw _ next ih => exact ⟨h.1, fun n ↦ ih _ (h.2.1 n), fun f ↦ ih _ (h.2.2 f)⟩
  | hand made next ih => exact ⟨h.1, ih h.2⟩
  | step change next ih => exact fun w ↦ ⟨(h w).1, ih w (h w).2⟩

/-- The task leads to what is said when it ends with a value. -/
def Task.Leads (g : GeneratorId) (t : Task ε α) (held : List Int)
    (post : α → List Int → Prop) : Prop :=
  t.process.Leads g held fun r left ↦ ∀ x, r = .ok x → post x left

/-- The task holds no number before and none after. -/
def Task.Settles (g : GeneratorId) (t : Task ε α) : Prop := t.Leads g [] fun _ left ↦ left = []

namespace Task.Leads

variable {g : GeneratorId} {held : List Int} {post : α → List Int → Prop}

/-- Nothing to do. -/
theorem pure {x : α} (h : post x held) : (Pure.pure x : Task ε α).Leads g held post := by
  rintro _ ⟨⟩
  exact h

/-- A failure leads to no value. -/
theorem throw (f : Failure) : (MonadExcept.throw f : Task ε α).Leads g held post := by
  rintro _ ⟨⟩

/-- An action that draws nothing. -/
theorem ofAction {a : Action ε α} (ha : a.Guarantees (SameCounter g)) (h : ∀ x, post x held) :
    (Task.ofAction a).Leads g held post :=
  fun w ↦ ⟨ha w, fun x _ ↦ h x⟩

/-- Drawing an identifier adds a number to those that are held. -/
theorem nextId {post : String → List Int → Prop} (h : ∀ n : Int, post n.repr (held ++ [n])) :
    (Task.nextId g : Task ε String).Leads g held post := by
  refine ⟨rfl, fun n ↦ ?_, fun f ↦ ?_⟩
  · rintro _ ⟨⟩
    exact h n
  · rintro _ ⟨⟩

/-- Handing a batch over leaves no number. -/
theorem hand {client : QueueClient ε} {made : BatchCall} {post : BatchResult → List Int → Prop}
    (quiet : client.Guarantees (SameCounter g))
    (hm : made.entries.map BatchEntry.id = held.map Int.repr) (h : ∀ x, post x []) :
    (Task.hand client made).Leads g held post := by
  have hc : (client.perform made).Guarantees (SameCounter g) := by
    cases made with
    | changeVisibility destination entries => exact quiet.changeVisibility destination entries
    | delete destination entries => exact quiet.delete destination entries
  exact ⟨hm, ofAction hc h⟩

/-- The first of two tasks leads to where the second one starts. -/
theorem bind {t : Task ε α} {k : α → Task ε β} {post : β → List Int → Prop}
    (h : t.Leads g held fun x left ↦ (k x).Leads g left post) : (t >>= k).Leads g held post := by
  rw [Task.Leads, Task.process_bind]
  refine Process.Leads.bind (Process.Leads.mono h fun r left hr ↦ ?_)
  cases r with
  | ok x => exact hr x rfl
  | error f => rintro _ ⟨⟩

/-- A task leads to the same inside a context. -/
theorem within {t : Task ε α} (h : t.Leads g held post) (fields : List (String × Value)) :
    (Task.within fields t).Leads g held post :=
  fun _ ↦ ⟨rfl, .bind (.mono h fun _ _ hr _ ↦ ⟨rfl, hr⟩)⟩

/-- Numbering entries adds their numbers to those that are held. -/
theorem numberEntries {post : List BatchEntry → List Int → Prop} (timeout : Option Int)
    (handles : List String)
    (h : ∀ ns es, es.map BatchEntry.id = ns.map Int.repr → post es (held ++ ns)) :
    (numberEntries (Task.nextId g : Task ε String) timeout handles).Leads g held post := by
  induction handles generalizing held post with
  | nil =>
    have hn := h [] [] rfl
    rw [List.append_nil] at hn
    exact pure hn
  | cons handle handles ih =>
    refine bind (nextId fun n ↦ bind (ih fun ns es he ↦ pure ?_))
    have hn := h (n :: ns) (⟨n.repr, handle, timeout⟩ :: es) (congrArg (n.repr :: ·) he)
    rwa [List.append_cons] at hn

end Task.Leads

namespace Task.Settles

variable {g : GeneratorId}

/-- A submission hands over what it has drawn. -/
theorem submit {s : Submission ε} (hg : s.generator = g)
    (ha : s.announce.Guarantees (SameCounter g)) (quiet : s.client.Guarantees (SameCounter g))
    (handles : List String) : Settles g (s.task handles) := by
  have steady := (indifferent_sameCounter (ε := ε) g 0).toSteady
  subst hg
  unfold Submission.task
  split
  · exact .pure rfl
  · refine .bind (.ofAction ha fun _ ↦ .bind (.numberEntries _ _ fun ns es he ↦ ?_))
    rw [List.nil_append]
    refine .bind (.hand quiet ((congrArg _ (s.entries_call es)).trans he) fun result ↦ ?_)
    exact .bind (.ofAction (steady.reportFailures _ _ _) fun _ ↦ .pure rfl)

/-- What follows a task that holds no number afterwards starts without one. -/
theorem bind {t : Task ε α} {k : α → Task ε β} (ht : Settles g t) (hk : ∀ x, Settles g (k x)) :
    Settles g (t >>= k) :=
  Leads.bind (Process.Leads.mono ht fun _ _ hr x hx ↦ (hr x hx).symm ▸ hk x)

/-- An action that draws nothing. -/
theorem ofAction {a : Action ε α} (ha : a.Guarantees (SameCounter g)) :
    Settles g (Task.ofAction a) :=
  Leads.ofAction ha fun _ ↦ rfl

variable {act : List String → Task ε (Option BatchResult)}

/-- Draining a queue holds no number between the batches. -/
theorem drain (ha : ∀ handles, Settles g (act handles)) (size : BatchSize) (q : QueueId)
    (fuel : Nat) (handles : List String) (results : List BatchResult) :
    Settles g (Task.drain size act q fuel handles results) := by
  have indifferent := indifferent_sameCounter (ε := ε) g q
  have hf (hs : List String) : Settles g (Task.flush act hs) :=
    bind (ofAction indifferent.report) fun _ ↦ ha hs
  induction fuel generalizing handles results with
  | zero => exact .throw .endlessQueue
  | succ fuel ih =>
    refine bind (ofAction indifferent.popFront) fun item ↦ ?_
    cases item with
    | none =>
      dsimp only
      split
      · exact .pure rfl
      · exact bind (hf handles) fun _ ↦ .pure rfl
    | some item =>
      dsimp only
      split
      · exact bind (hf _) fun _ ↦ ih _ _
      · exact ih _ _

/-- A dispatch holds no number between the batches. -/
theorem dispatch (ha : ∀ handles, Settles g (act handles)) (size : BatchSize) (q : QueueId)
    (destination : String) : Settles g (Task.dispatch size act q destination) := by
  have steady := (indifferent_sameCounter (ε := ε) g q).toSteady
  refine bind (ofAction (steady.read _)) fun items ↦ ?_
  cases items.find? fun item ↦ item.destination != destination with
  | some item => exact .throw _
  | none => exact bind (ofAction (steady.read _)) fun _ ↦ drain ha size q _ [] []

end Task.Settles

/-- A job holds no number before and after, when its client draws none. -/
theorem Job.settles_task {g : GeneratorId} {job : Job ε} (hg : job.generator = g)
    (quiet : job.client.Guarantees (SameCounter g)) : job.task.Settles g := by
  have steady := (indifferent_sameCounter (ε := ε) g 0).toSteady
  cases job with
  | ack a q destination =>
    have ha (handles : List String) : (a.task destination handles).Settles g :=
      .submit (s := a.submission destination) hg (steady.pure ()) quiet handles
    exact (Task.Settles.dispatch ha a.dispatcher.size q destination).within _
  | nack n q destination =>
    have hn (handles : List String) : (n.task destination handles).Settles g := by
      unfold NegativeAcknowledger.task
      cases h : resolveDelay n.policy with
      | some timeout =>
        exact .submit (s := n.submission destination timeout) hg (steady.reportPolicy n destination)
          quiet handles
      | none =>
        -- Without a timeout nothing is numbered, and the action stays in one piece.
        refine .ofAction (steady.handBack_of fun timeout ht ↦ ?_)
        exact absurd (h.symm.trans ht) (Option.some_ne_none timeout).symm
    exact (Task.Settles.dispatch hn n.dispatcher.size q destination).within _

end QueueAck
