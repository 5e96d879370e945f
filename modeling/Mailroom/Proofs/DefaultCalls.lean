import Mailroom.Proofs.Delivery
import Mailroom.Proofs.Journal
import Mailroom.Proofs.Suspension
import Mailroom.Proofs.Waking

/-!
# When the default action is called

The main loop looks three times before it calls the default action: whether that is suspended, whether the task is running, and whether
there is mail (`Nearing`). If no other thread takes a step between the first look and the call, all that was found still holds at the call
(`Poised`), and then nothing is queued and nobody has ended the task. Otherwise one call may come late, but only one (`OneMore`): to call
again, the loop has to look again. `default_calls` puts this together.
-/

namespace Mailroom

variable {σ ν : Type}

/-! ## What the journal says of calls -/

/-- A call of the default action. -/
def Occurrence.defaultCall? : Occurrence σ ν → Option Unit
  | defaultCalled => some ()
  | _ => none

/-- The number of calls of the default action that have begun. -/
def Task.calls (w : Task σ ν) : Nat := (history Occurrence.defaultCall? w.journal).length

namespace Stage

/-- The main loop is about to call the default action. -/
def isCalling : Stage σ ν → Bool
  | callDefault => true
  | _ => false

/-- The main loop has found the task running, and tries to take a mail before it calls the default action. -/
def isTrying : Stage σ ν → Bool
  | take _ patient purpose => !patient && purpose = .loop
  | callDefault => true
  | _ => false

/-- Who is about to call has found no mail just now. -/
theorem isTrying_of_isCalling {stage : Stage σ ν} (h : stage.isCalling = true) : stage.isTrying = true := by
  cases stage <;> first | rfl | cases h

/-- Who tries to take a mail for that has found the default action ready. -/
theorem isWilling_of_isTrying {stage : Stage σ ν} (h : stage.isTrying = true) : stage.isWilling = true := by
  cases stage <;> first | exact h | cases h

/-- Who closes the task is not on its way to a call. -/
theorem not_isWilling_of_isClosing {stage : Stage σ ν} (h : stage.isClosing = true) : stage.isWilling = false := by
  induction stage with
  | shut next ih | wakeAll next ih | drop ms next ih | markClosed next ih => exact ih h
  | answer | surrender | collect | alarm => rfl
  | _ => cases h

end Stage

namespace Thread

variable {w : Task σ ν} {me : ThreadId} {pick : Nat} {stack : List (Frame σ ν)} {stage : Stage σ ν} {n : Next σ ν}

/-- A call of the default action begins where the main loop calls it, and nowhere else. -/
theorem Turn.calls (h : Turn w me pick stack stage n) : n.1.calls = w.calls ∨
    stage = .callDefault ∧ n.1.calls = w.calls + 1 ∧ ∃ b, n.2.stage = .run b := by
  by_cases hstage : stage = .callDefault
  · subst hstage
    cases h with
    | defaulted b =>
      refine .inr ⟨rfl, ?_, b, rfl⟩
      rw [Task.calls, Task.log_journal, history_cons_of_some (f := Occurrence.defaultCall?) rfl, List.length_append]
      rfl
    | vacant => exact .inl rfl
  · refine .inl (congrArg List.length (h.writes.history_eq fun e written => ?_))
    cases e with
    | defaultCalled =>
      cases stage with
      | callDefault => exact absurd rfl hstage
      | _ => cases written
    | _ => rfl

/-! ## The way to a call -/

/-- The steps that bring the main loop nearer to a call of the default action, with what it finds at each. -/
inductive Nearing (w : Task σ ν) : Stage σ ν → Next σ ν → Prop where
  | unsuspended (stack : List (Frame σ ν)) (free : w.processor.suspended = false) : Nearing w .consult (w, ⟨.consultStatus, stack⟩)
  | running (stack : List (Frame σ ν)) (running : w.processor.status = .running) :
    Nearing w .consultStatus (w, ⟨.take .oldest false .loop, stack⟩)
  | nothing (choice : Choice) (stack : List (Frame σ ν)) (unclosed : w.mailbox.status ≠ .closed)
    (pop : w.mailbox.lanes.pop choice = none) : Nearing w (.take choice false .loop) (w, ⟨.callDefault, stack⟩)

/-- No call of a body leads the way to the default action. -/
theorem Called.not_willing {q : Request} {n : Task σ ν × Stage σ ν} (h : Called w me stack q n) : n.2.isWilling = false := by
  cases h with
  | taking choice patient | yielding p patient => simp [Stage.isWilling]
  | _ => rfl

/-- The end of a body does not lead there either: the main loop has to look again. -/
theorem Ended.not_willing {e : Ending ν} (h : Ended w e stack n) : n.2.stage.isWilling = false := by
  cases h with
  | default e | handler _ e =>
    cases e with
    | returned | failed | panicked => rfl
  | _ => rfl

/-- There is no other way to a call. -/
theorem Turn.nearing (h : Turn w me pick stack stage n) (tidy : stage.isTidy = true) (willing : n.2.stage.isWilling = true) :
    Nearing w stage n := by
  cases h with
  | ended h | broken h => rw [h.not_willing] at willing; cases willing
  | called guarded q k h => rw [h.not_willing] at willing; cases willing
  | taken _ _ _ purpose => cases purpose <;> cases willing
  | shutOut _ _ purpose => cases purpose <;> cases willing
  | missed choice purpose stack was pop =>
    cases purpose with
    | loop => exact .nothing choice stack was pop
    | hold | yield | step => cases willing
  | drained choice purpose => cases choice <;> cases purpose <;> cases willing
  | willing stack _ free => exact .unsuspended stack free
  | consulted stack =>
    have running : w.processor.status = .running := by simpa [stepConsultStatus, Stage.isWilling] using willing
    have next : stepConsultStatus w = (.take .oldest false .loop : Stage σ ν) := by simp [stepConsultStatus, running]
    rw [next]
    exact .running stack running
  | shut next | shutBefore next | woke next | dropped _ _ next | disposed next | marked next =>
    have closing : next.isWilling = false := Stage.not_isWilling_of_isClosing tidy
    cases closing.symm.trans willing
  | _ => cases willing

end Thread

namespace World

/-! ## Runs of which something is asked -/

/-- What can become of a world by moves that are all allowed where they are made. -/
inductive Via (allowed : World σ ν → Move → Prop) (w : World σ ν) : World σ ν → Prop where
  | here : Via allowed w w
  | next {a b : World σ ν} (m : Move) (before : Via allowed w a) (fine : allowed a m) (h : a.move m = some b) : Via allowed w b

variable {a b w : World σ ν} {t i : ThreadId} {pick : Nat} {th : Thread σ ν} {n : Next σ ν}

namespace Via

variable {allowed : World σ ν → Move → Prop}

/-- Such moves lead to where moves lead. -/
theorem reach (h : Via allowed w b) : w.Reach b := by
  induction h with
  | here => exact .here
  | next m _ _ hm ih => exact ih.next m hm

/-- What holds at the start and is kept by every allowed step and every stirring holds all the time. -/
theorem invariant {P : World σ ν → Prop} (h : Via allowed w b) (zero : P w)
    (step : ∀ {a t pick th n b}, Via allowed w a → allowed a (.step t pick) → P a → Stepped a t pick th n b → P b)
    (stir : ∀ {a t}, Via allowed w a → P a → P (a.stirred t)) : P b := by
  induction h with
  | here => exact zero
  | next m before fine hm ih =>
    cases m with
    | step t pick =>
      obtain ⟨th, n, hs⟩ := step?_eq_some hm
      exact step before fine ih hs
    | stir t =>
      cases hm
      exact stir before ih

end Via

/-! ## A task that is not running -/

/-- A task that has stopped running does not run again. -/
theorem Reach.not_running (h : a.Reach b) (ended : a.task.processor.status ≠ .running) : b.task.processor.status ≠ .running := by
  intro running
  have hrank := h.processor_forward
  rw [running] at hrank
  cases hstatus : a.task.processor.status with
  | running => exact ended hstatus
  | quiescing | closed => rw [hstatus] at hrank; exact absurd hrank (by decide)

/-- Every mail that the main loop tries to take is the oldest. -/
theorem Possible.oldest (h : w.Possible) {choice : Choice} {patient : Bool} {stack : List (Frame σ ν)}
    (hx : w.threads[t]? = some ⟨.take choice patient .loop, stack⟩) : choice = .oldest := by
  refine h.threads (P := fun _ _ th => ∀ choice patient, th.stage = .take choice patient .loop → choice = .oldest) ?_ ?_ t _ hx
    choice patient rfl
  · intro owner i program choice patient hstage
    cases hstage
  · intro a t pick th n b possible hs before choice patient after
    rcases hs.turn.loop_cases (possible.tidy t th hs.thread) after with ⟨hstage, -⟩ | ⟨hchoice, -⟩
    · exact before choice patient hstage
    · exact hchoice

/-- The main loop goes to call the default action only where it finds nothing queued. -/
theorem Stepped.empty_of_calling (hs : Stepped a t pick th n b) (possible : a.Possible) (calling : n.2.stage.isCalling = true) :
    th.stage.isTrying = true ∧ n.1 = a.task ∧ a.task.mailbox.status ≠ .closed ∧ a.task.queued = [] := by
  obtain ⟨stage, stack⟩ := th
  have willing := Stage.isWilling_of_isTrying (Stage.isTrying_of_isCalling calling)
  have nearing := hs.turn.nearing (possible.tidy t _ hs.thread) willing
  cases nearing with
  | unsuspended | running => cases calling
  | nothing choice stack unclosed pop =>
    obtain rfl := possible.oldest hs.thread
    exact ⟨rfl, rfl, unclosed, Lanes.toList_of_pop_oldest pop⟩

/-- The main loop goes on to try to take a mail only where it finds the task running. -/
theorem Stepped.running_of_trying (hs : Stepped a t pick th n b) (possible : a.Possible) (trying : n.2.stage.isTrying = true) :
    n.1 = a.task ∧ (th.stage.isTrying = true ∨ a.task.processor.status = .running) := by
  obtain ⟨stage, stack⟩ := th
  have nearing := hs.turn.nearing (possible.tidy t _ hs.thread) (Stage.isWilling_of_isTrying trying)
  cases nearing with
  | unsuspended => cases trying
  | running stack running => exact ⟨rfl, .inr running⟩
  | nothing choice stack => exact ⟨rfl, .inl rfl⟩

/-! ## No step between the looks and the call -/

/-- No thread other than the one that takes the step is on its way to call the default action. -/
def Undisturbed (a : World σ ν) : Move → Prop
  | .step t _ => ∀ (i : ThreadId) th, i ≠ t → a.threads[i]? = some th → th.stage.isWilling = false
  | .stir _ => True

/-- No thread is on its way to call the default action. -/
def Unwilling (w : World σ ν) : Prop := ∀ (i : ThreadId) th, w.threads[i]? = some th → th.stage.isWilling = false

/-- What the main loop has found on its way to a call of the default action still holds. -/
structure Poised (w : World σ ν) : Prop where
  running : ∀ (i : ThreadId) th, w.threads[i]? = some th → th.stage.isTrying = true → w.task.processor.status = .running
  empty : ∀ (i : ThreadId) th, w.threads[i]? = some th → th.stage.isCalling = true →
    w.task.mailbox.status ≠ .closed ∧ w.task.queued = []

/-- Before the first move nobody is. -/
theorem unwilling_start (task : Task σ ν) (programs : List (Body σ ν)) : (start task programs).Unwilling := by
  intro i th hth
  obtain ⟨program, rfl⟩ := thread_of_start hth
  rfl

/-- Where nobody is on its way to a call, nothing was found that could be out of date. -/
theorem Unwilling.poised (h : w.Unwilling) : w.Poised where
  running i th hth trying := by cases (h i th hth).symm.trans (Stage.isWilling_of_isTrying trying)
  empty i th hth calling := by
    cases (h i th hth).symm.trans (Stage.isWilling_of_isTrying (Stage.isTrying_of_isCalling calling))

/-- A step keeps that if no other thread is on its way to a call. -/
theorem Stepped.poised (hs : Stepped a t pick th n b) (possible : a.Possible) (alone : a.Undisturbed (.step t pick)) (h : a.Poised) :
    b.Poised := by
  refine ⟨fun i x hx trying => ?_, fun i x hx calling => ?_⟩ <;> rw [hs.task]
  · rcases hs.thread_cases hx with ⟨-, rfl⟩ | ⟨hi, hx⟩ | ⟨program, rfl⟩
    · obtain ⟨same, before | running⟩ := hs.running_of_trying possible trying
      · rw [same]
        exact h.running t th hs.thread before
      · rw [same]
        exact running
    · cases (alone i x hi hx).symm.trans (Stage.isWilling_of_isTrying trying)
    · cases trying
  · rcases hs.thread_cases hx with ⟨-, rfl⟩ | ⟨hi, hx⟩ | ⟨program, rfl⟩
    · obtain ⟨-, same, found⟩ := hs.empty_of_calling possible calling
      rw [same]
      exact found
    · cases (alone i x hi hx).symm.trans (Stage.isWilling_of_isTrying (Stage.isTrying_of_isCalling calling))
    · cases calling

/-- What was found still holds at the call if nobody else moved in between. -/
theorem Via.poised (h : w.Via Undisturbed b) (possible : w.Possible) (zero : w.Poised) : b.Poised := by
  refine h.invariant zero (fun before alone ih hs => hs.poised (possible.reach before.reach) alone ih) fun _ ih => ?_
  exact ⟨ih.running, ih.empty⟩

end World

/-- There is nothing else for the main loop to do, and no reason not to call the default action. -/
structure Task.Ready (w : Task σ ν) : Prop where
  running : w.processor.status = .running
  free : w.processor.suspended = false
  unclosed : w.mailbox.status ≠ .closed
  urgent : w.mailbox.lanes.urgent = []
  normal : w.mailbox.lanes.normal = []

namespace World

variable {a b w : World σ ν} {t i : ThreadId} {pick : Nat} {th : Thread σ ν} {n : Next σ ν}

/-- A step begins one call at most, and only the main loop does so. -/
theorem Stepped.calls (hs : Stepped a t pick th n b) : b.task.calls = a.task.calls ∨
    th.stage = .callDefault ∧ b.task.calls = a.task.calls + 1 ∧ ∃ body, n.2.stage = .run body := by
  rw [hs.task]
  exact hs.turn.calls

/-- If what the main loop has found still holds, a call begins where the default action is to be called. -/
theorem Poised.ready (h : a.Poised) (possible : a.Possible) (hx : a.threads[t]? = some th) (calling : th.stage.isCalling = true) :
    a.task.Ready := by
  have trying := Stage.isTrying_of_isCalling calling
  obtain ⟨unclosed, empty⟩ := h.empty t th hx calling
  obtain ⟨urgent, normal⟩ := List.append_eq_nil_iff.mp empty
  exact ⟨h.running t th hx trying, possible.heeded.willing t th hx (Stage.isWilling_of_isTrying trying), unclosed, urgent,
    List.map_eq_nil_iff.mp normal⟩

/-- Where the default action is to be called, all mail that was accepted was taken. -/
theorem Possible.taken_of_ready (possible : w.Possible) (ready : w.task.Ready)
    (few : w.task.accepted.countP (fun put => !put.1.isUrgent) < 2 ^ 64) :
    (w.task.accepted.map (·.1)).Perm (w.task.taken.map (·.1)) := by
  have flow := possible.flow few
  have empty : w.task.queued = [] := by rw [Task.queued, Lanes.toList, ready.urgent, ready.normal]; rfl
  refine perm_of_ofKind fun κ => ?_
  rw [flow.fifo κ, flow.discarded ready.unclosed, empty, ofKind_nil, List.append_nil, List.append_nil]

/-- If no step comes between, no call begins once the task is not running. -/
theorem Via.no_call (h : w.Via Undisturbed b) (possible : w.Possible) (zero : w.Poised) (ended : w.task.processor.status ≠ .running) :
    b.task.calls = w.task.calls := by
  have kept : b.Poised ∧ b.task.calls = w.task.calls := by
    refine h.invariant (P := fun x => x.Poised ∧ x.task.calls = w.task.calls) ⟨zero, rfl⟩ ?_
      fun _ ih => ⟨⟨ih.1.running, ih.1.empty⟩, ih.2⟩
    intro a t pick th n b before alone ⟨poised, same⟩ hs
    have possible := possible.reach before.reach
    refine ⟨hs.poised possible alone poised, ?_⟩
    rcases hs.calls with calls | ⟨calling, -⟩
    · exact calls.trans same
    · exact absurd (poised.ready possible hs.thread (by rw [calling]; rfl)).running (before.reach.not_running ended)
  exact kept.2

/-! ## One call more -/

/-- At most one call has begun since there were `k`; and once it has, no thread stands where `p` holds. -/
def OneMore (p : Stage σ ν → Bool) (k : Nat) (w : World σ ν) : Prop :=
  w.task.calls = k ∨ w.task.calls = k + 1 ∧ ∀ (i : ThreadId) th, w.threads[i]? = some th → p th.stage = false

/-- If no step comes to a stage of the main loop where `p` holds from one where it does not, and only from there calls begin, one call
begins at most. -/
theorem Via.oneMore {allowed : World σ ν → Move → Prop} {p : Stage σ ν → Bool} (h : w.Via allowed b) (possible : w.Possible)
    (calling : p .callDefault = true) (willing : ∀ s, p s = true → s.isWilling = true)
    (kept : ∀ {a t pick th n b}, w.Reach a → allowed a (.step t pick) → Stepped a t pick th n b →
      p n.2.stage = true → p th.stage = true) : b.OneMore p w.task.calls := by
  refine h.invariant (P := OneMore p w.task.calls) (.inl rfl) ?_ fun _ ih => ih
  intro a t pick th n b before fine ih hs
  have possible := possible.reach before.reach
  have kept := kept before.reach fine hs
  rcases ih with same | ⟨more, nobody⟩
  · rcases hs.calls with calls | ⟨hstage, calls, body, hbody⟩
    · exact .inl (calls.trans same)
    · refine .inr ⟨by rw [calls, same], fun i x hx => Bool.eq_false_iff.mpr fun hp => ?_⟩
      have serving : 0 < th.servings := by
        refine Nat.add_pos_right _ ?_
        rw [hstage]
        exact Nat.one_pos
      rcases hs.thread_cases hx with ⟨-, rfl⟩ | ⟨hi, hx⟩ | ⟨program, rfl⟩
      · rw [hbody] at hp
        cases willing _ hp
      · have other : 0 < x.servings := Nat.add_pos_right _ (Stage.servings_pos_of_isWilling (willing _ hp))
        exact hi (((possible.serving hx).2 other).trans ((possible.serving hs.thread).2 serving).symm)
      · cases willing _ hp
  · have still : p n.2.stage = false := by
      refine Bool.eq_false_iff.mpr fun hp => ?_
      cases (nobody t th hs.thread).symm.trans (kept hp)
    rcases hs.calls with calls | ⟨hstage, -⟩
    · refine .inr ⟨calls.trans more, fun i x hx => ?_⟩
      rcases hs.thread_cases hx with ⟨-, rfl⟩ | ⟨-, hx⟩ | ⟨program, rfl⟩
      · exact still
      · exact nobody i x hx
      · exact Bool.eq_false_iff.mpr fun hp => by cases willing _ hp
    · have hp := nobody t th hs.thread
      rw [hstage, calling] at hp
      cases hp

/-- Where one call may come late, there is one call more at most. -/
theorem OneMore.calls_le {p : Stage σ ν → Bool} {k : Nat} (h : w.OneMore p k) : w.task.calls ≤ k + 1 := by
  rcases h with same | ⟨more, -⟩
  · rw [same]
    exact Nat.le_succ k
  · exact Nat.le_of_eq more

/-- While a mail stays queued, one call begins at most. -/
theorem Possible.calls_le_of_queued (possible : w.Possible) {m : Letter σ ν} (h : w.Via (fun a _ => m ∈ a.task.queued) b) :
    b.task.calls ≤ w.task.calls + 1 := by
  refine (h.oneMore (p := Stage.isCalling) possible rfl ?_ ?_).calls_le
  · exact fun _ hs => Stage.isWilling_of_isTrying (Stage.isTrying_of_isCalling hs)
  · intro a t pick th n b reach queued hs calling
    obtain ⟨-, -, -, empty⟩ := hs.empty_of_calling (possible.reach reach) calling
    rw [empty] at queued
    cases queued

/-- Once the task is not running, one call begins at most. -/
theorem Possible.calls_le_of_not_running (possible : w.Possible) (ended : w.task.processor.status ≠ .running) (h : w.Reach b) :
    b.task.calls ≤ w.task.calls + 1 := by
  have via : w.Via (fun _ _ => True) b := by
    induction h with
    | here => exact .here
    | next m _ hm ih => exact ih.next m trivial hm
  refine (via.oneMore (p := Stage.isTrying) possible rfl (fun _ => Stage.isWilling_of_isTrying) ?_).calls_le
  intro a t pick th n b reach _ hs trying
  rcases (hs.running_of_trying (possible.reach reach) trying).2 with before | running
  · exact before
  · exact absurd running (reach.not_running ended)

end World

/-! ## Calls that end the task -/

/-- A request that is there to end the task. -/
def Request.endsTask : Request → Bool
  | quiesce => true
  | complete => true
  | report _ => true
  | close => true
  | _ => false

/-- The points of a call that ends the task: it comes to the section that does so, or is not available, or the task has ended. -/
inductive Ends (w : Task σ ν) (base : List (Frame σ ν)) : Thread σ ν → Prop where
  | calling (guarded : Bool) (q : Request) (k : Reply ν → Body σ ν) (stack : List (Frame σ ν)) (hq : q.endsTask = true)
    (hbase : base = .caller guarded q k :: stack) : Ends w base ⟨.run (.call guarded q k), stack⟩
  | quiescing : Ends w base ⟨.quiesceTask, base⟩
  | reporting (e : Failure) : Ends w base ⟨.lockReport e, base⟩
  | filing (e : Failure) : Ends w base ⟨.fileReport e, base⟩
  | marking (next : Stage σ ν) : Ends w base ⟨.markClosed next, base⟩
  | unavailable : Ends w base ⟨.answer .unavailable, base⟩
  | ended (th : Thread σ ν) (h : w.processor.status ≠ .running) : Ends w base th

/-- A point of such a call stays one while the task does not run again. -/
theorem Ends.mono {w w' : Task σ ν} {base : List (Frame σ ν)} {th : Thread σ ν}
    (ended : w.processor.status ≠ .running → w'.processor.status ≠ .running) (h : Ends w base th) : Ends w' base th := by
  cases h with
  | calling guarded q k stack hq hbase => exact .calling guarded q k stack hq hbase
  | quiescing => exact .quiescing
  | reporting e => exact .reporting e
  | filing e => exact .filing e
  | marking next => exact .marking next
  | unavailable => exact .unavailable
  | ended th h => exact .ended th (ended h)

/-- The first step of such a call. -/
theorem Ends.called {w : Task σ ν} {me : ThreadId} {stack base : List (Frame σ ν)} {q : Request} (hq : q.endsTask = true) :
    (Thread.call w me stack q).1 = w ∧ Ends w base ⟨(Thread.call w me stack q).2, base⟩ := by
  cases q with
  | quiesce => exact ⟨rfl, .quiescing⟩
  | report e => exact ⟨rfl, .reporting e⟩
  | complete =>
    cases hown : stack.head?.any Frame.isDefault with
    | true => simp only [Thread.call, Thread.fromDefault, hown, if_true]; exact ⟨trivial, .quiescing⟩
    | false => simp only [Thread.call, Thread.fromDefault, hown, Bool.false_eq_true, if_false]; exact ⟨trivial, .unavailable⟩
  | close =>
    cases hbusy : stack.any Frame.isServing with
    | true => simp only [Thread.call, Thread.exclusive, hbusy, if_true]; exact ⟨trivial, .unavailable⟩
    | false => simp only [Thread.call, Thread.exclusive, hbusy, Bool.false_eq_true, if_false]; exact ⟨trivial, .marking _⟩
  | _ => cases hq

namespace World

variable {a b w : World σ ν} {t : ThreadId} {pick : Nat} {th : Thread σ ν} {n : Next σ ν} {base : List (Frame σ ν)}

/-- Until it is back, the call stays at these points. -/
theorem Stepped.ends (hs : Stepped a t pick th n b) (away : ¬a.IsBack t base) (h : Ends a.task base th) : Ends b.task base n.2 := by
  have turn := hs.turn
  have reach : a.Reach b := Reach.here.step hs.step?_eq
  cases h with
  | calling guarded q k stack hq hbase =>
    have hstep := hs.step
    obtain ⟨same, ends⟩ : (Thread.call a.task t stack q).1 = a.task ∧ Ends a.task base ⟨(Thread.call a.task t stack q).2, base⟩ :=
      Ends.called hq
    simp only [Thread.stepStage, Thread.stepBody, ← hbase] at hstep
    cases hstep
    rw [hs.task, same]
    exact ends
  | quiescing =>
    rw [hs.task]
    cases turn with
    | calmed => exact .ended _ (by simp)
    | calmedBefore _ was => exact .ended _ was
  | reporting e => cases turn; exact .filing e
  | filing e => cases turn <;> exact .marking _
  | marking next =>
    rw [hs.task]
    cases turn
    exact .ended _ (by simp [Thread.stepMarkClosed])
  | unavailable => exact absurd (.inl ⟨_, hs.thread⟩) away
  | ended _ h => exact .ended _ (reach.not_running h)

/-- When a call that ends the task has returned, the task is not running. -/
theorem During.not_running {guarded : Bool} {q : Request} {k : Reply ν → Body σ ν} {stack : List (Frame σ ν)} {r : Reply ν}
    (h : w.During t (.caller guarded q k :: stack) b) (call : w.threads[t]? = some ⟨.run (.call guarded q k), stack⟩)
    (hq : q.endsTask = true) (back : b.threads[t]? = some ⟨.answer r, .caller guarded q k :: stack⟩) (available : r ≠ .unavailable) :
    b.task.processor.status ≠ .running := by
  have ends : ∃ th, b.threads[t]? = some th ∧ Ends b.task (.caller guarded q k :: stack) th := by
    refine h.invariant (P := fun x => ∃ th, x.threads[t]? = some th ∧ Ends x.task (.caller guarded q k :: stack) th)
      ⟨_, call, .calling guarded q k stack hq rfl⟩ ?_ ?_
    · intro x i pick th n y _ away ⟨th', hth', ih⟩ hs
      by_cases hi : i = t
      · subst hi
        obtain rfl : th = th' := Option.some.inj (hs.thread.symm.trans hth')
        exact ⟨n.2, hs.own, hs.ends away ih⟩
      · exact ⟨th', hs.other (Ne.symm hi) hth', ih.mono (Reach.here.step hs.step?_eq).not_running⟩
    · intro x i _ ⟨th, hth, ih⟩
      have keep : x.task.processor.status ≠ .running → (x.stirred i).task.processor.status ≠ .running := id
      exact ⟨th, hth, ih.mono keep⟩
  obtain ⟨th, hth, ends⟩ := ends
  obtain rfl : th = _ := Option.some.inj (hth.symm.trans back)
  cases ends with
  | unavailable => exact absurd rfl available
  | ended _ ended => exact ended

/-! ## The whole -/

/-- A call that ends the task has just returned. -/
def AfterEnd (b : World σ ν) : Prop :=
  ∃ (a : World σ ν) (t : ThreadId) (guarded : Bool) (q : Request) (k : Reply ν → Body σ ν) (stack : List (Frame σ ν)) (r : Reply ν),
    q.endsTask = true ∧ a.threads[t]? = some ⟨.run (.call guarded q k), stack⟩ ∧ a.During t (.caller guarded q k :: stack) b ∧
      b.threads[t]? = some ⟨.answer r, .caller guarded q k :: stack⟩ ∧ r ≠ .unavailable

/-- After such a call the task does not run. -/
theorem AfterEnd.not_running (h : b.AfterEnd) : b.task.processor.status ≠ .running := by
  obtain ⟨a, t, guarded, q, k, stack, r, hq, call, during, back, available⟩ := h
  exact during.not_running call hq back available

/-- When the default action is called in what can become of `w`. -/
structure CallsDefault (w : World σ ν) : Prop where
  /-- If no other thread steps between the looks of the main loop and the call, every call begins where there is nothing else to do and
  no reason not to call, and all mail that was accepted was taken. -/
  ready : w.Unwilling → ∀ a t pick b, w.Via Undisturbed a → a.step? t pick = some b → b.task.calls ≠ a.task.calls →
    a.task.Ready ∧ (a.task.accepted.countP (fun put => !put.1.isUrgent) < 2 ^ 64 →
      (a.task.accepted.map (·.1)).Perm (a.task.taken.map (·.1)))
  /-- And none begins once a call that ends the task has returned. -/
  never : w.Unwilling → ∀ b c, w.Via Undisturbed b → b.AfterEnd → b.Via Undisturbed c → c.task.calls = b.task.calls
  /-- Whatever other threads do, one call begins at most while a mail is queued. -/
  queued : ∀ m b, w.Via (fun a _ => m ∈ a.task.queued) b → b.task.calls ≤ w.task.calls + 1
  /-- And one at most once a call that ends the task has returned. -/
  late : ∀ b c, w.Reach b → b.AfterEnd → b.Reach c → c.task.calls ≤ b.task.calls + 1

end World

/-- The main loop calls the default action only where there is nothing else to do, unless another thread steps in after it has looked, and
then it calls it once more at most. -/
theorem default_calls {w : World σ ν} (possible : w.Possible) : w.CallsDefault where
  ready unwilling a t pick b via step begins := by
    have poised := via.poised possible unwilling.poised
    obtain ⟨th, n, hs⟩ := World.step?_eq_some step
    rcases hs.calls with same | ⟨calling, -⟩
    · exact absurd same begins
    · have ready := poised.ready (possible.reach via.reach) hs.thread (by rw [calling]; rfl)
      exact ⟨ready, (possible.reach via.reach).taken_of_ready ready⟩
  never unwilling b c via ended after :=
    after.no_call (possible.reach via.reach) (via.poised possible unwilling.poised) ended.not_running
  queued _ _ via := possible.calls_le_of_queued via
  late _ _ reach ended after := (possible.reach reach).calls_le_of_not_running ended.not_running after

/-- A task with two threads. The mailbox thread runs the main loop; the other one ends the task. -/
def lateCall : World Unit Nat :=
  .start (.new ⟨1⟩ 0 (some (.finish (.returned 0))) (fun _ => .finish (.returned 0)) ())
    [.call false .loop fun _ => .finish (.returned 0), .call false .quiesce fun _ => .finish (.returned 0)]

/-- The main loop has looked, and calls the default action after the other thread has ended the task. -/
theorem default_calls_of_lateCall : ∃ b c : World Unit Nat,
    lateCall.moves (List.replicate 4 (.step 0 0) ++ List.replicate 4 (.step 1 0)) = some b ∧ b.AfterEnd ∧ b.task.calls = 0 ∧
    b.moves [.step 0 0] = some c ∧ c.task.calls = 1 ∧ lateCall.Unwilling ∧ lateCall.CallsDefault := by
  have possible : lateCall.Possible := ⟨⟨1⟩, 0, _, _, (), _, .here⟩
  refine ⟨_, _, rfl, ?_, rfl, rfl, rfl, World.unwilling_start _ _, default_calls possible⟩
  refine ⟨lateCall, 1, _, .quiesce, _, _, .done, rfl, rfl, ?_, rfl, nofun⟩
  exact .of_moves (List.replicate 4 (.step 0 0) ++ List.replicate 4 (.step 1 0)) rfl

end Mailroom
