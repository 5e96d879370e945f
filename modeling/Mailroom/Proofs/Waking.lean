import Mailroom.Proofs.Processor
import Mailroom.Proofs.Waiting

/-!
# No wake-up is lost

Whoever sleeps at a mailbox sleeps for a reason that is there at that moment. `no_sleep_beside_slot`: where a sender sleeps, somebody is
about to wake all sleepers, or the queued mail and the senders that were woken and have not looked again fill the mailbox.
`no_lost_wakeUp`: where the mailbox thread sleeps, nothing is queued that it may take; and if it is the main loop that sleeps, there is no
default work to do, or somebody who has just resumed it is on the way to send the mail that wakes the loop (`Roused`).
-/

namespace Mailroom

variable {σ ν : Type}

namespace World

variable {a b w : World σ ν} {t i : ThreadId} {pick : Nat} {th : Thread σ ν} {n : Next σ ν}

/-! ## Senders -/

/-- The senders that were woken and have not looked again for a slot. -/
def woken (w : World σ ν) : List ThreadId :=
  (List.range w.threads.length).filter fun i =>
    w.threads[i]?.any (·.stage.isRetrying) && !w.task.mailbox.senders.contains i

/-- Who was asleep over a put sleeps still, or was woken. -/
theorem retrying_le (w : World σ ν) : w.retrying ≤ w.task.mailbox.senders.length + w.woken.length := by
  rw [← List.length_append]
  refine countP_le_length fun i x hx hr => ?_
  by_cases hi : i ∈ w.task.mailbox.senders
  · exact List.mem_append_left _ hi
  · refine List.mem_append_right _ (List.mem_filter.mpr ⟨List.mem_range.mpr (List.getElem?_eq_some_iff.mp hx).1, ?_⟩)
    simp [hx, hr, hi]

/-- Why a sender may sleep. -/
inductive SenderSleeps (w : World σ ν) : Prop where
  /-- The mailbox was quiesced or closed, and a thread that can step is about to wake all sleepers. -/
  | ending (status : w.task.mailbox.status ≠ .accepting)
    (waker : ∃ (j : ThreadId) (th : Thread σ ν), w.threads[j]? = some th ∧ th.stage.isWaking = true ∧ w.canStep j = true)
  /-- The mailbox accepts mail, and the mail that is queued and the senders that were woken and have not looked again fill it between
  them; if there are no such senders it is full. -/
  | crowded (status : w.task.mailbox.status = .accepting)
    (filled : w.task.mailbox.capacity ≤ w.task.mailbox.length + w.woken.length)
    (full : w.woken = [] → w.task.mailbox.isFull = true)

end World

/-- No sender sleeps beside a free slot. This holds as long as fewer than `2 ^ 64` mails that are not urgent were accepted. -/
theorem no_sleep_beside_slot {w : World σ ν} (possible : w.Possible)
    (few : w.task.accepted.countP (fun put => !put.1.isUrgent) < 2 ^ 64) {i : ThreadId} (asleep : i ∈ w.task.mailbox.senders) :
    w.SenderSleeps := by
  have senders : w.task.mailbox.senders ≠ [] := List.ne_nil_of_mem asleep
  by_cases accepting : w.task.mailbox.status = .accepting
  · have filled : w.task.mailbox.capacity ≤ w.task.mailbox.length + w.woken.length := by
      have hcrowded := possible.crowded few accepting senders
      have hretrying := w.retrying_le
      omega
    refine .crowded accepting filled fun nobody => decide_eq_true ?_
    rwa [nobody] at filled
  · obtain ⟨j, th, hth, waking⟩ := possible.waking accepting (.inl senders)
    exact .ending accepting ⟨j, th, hth, waking, (possible.stirs_of_waking hth waking).step⟩

/-- A task with one slot and four threads. The mailbox thread takes a mail; each of the others sends one. -/
def threeSenders : World Unit Nat :=
  .start (.new ⟨1⟩ 0 none (fun _ => .finish (.returned 0)) ())
    (.call false (.take .oldest false) (fun _ => .finish (.returned 0)) ::
      List.replicate 3 (.post ⟨⟨"mail", []⟩, .empty, 0⟩ (.finish (.returned 0)) fun _ => .finish (.returned 0)))

/-- The first sender fills the mailbox, the other two fall asleep, and a take wakes the first of these, who has not looked yet. -/
theorem no_sleep_beside_slot_of_threeSenders : ∃ w : World Unit Nat,
    threeSenders.moves [.step 1 0, .step 1 0, .step 2 0, .step 2 0, .step 3 0, .step 3 0, .step 0 0, .step 0 0] = some w ∧
    w.task.mailbox.senders = [3] ∧ w.woken = [2] ∧ w.task.mailbox.length = 0 ∧ w.SenderSleeps := by
  refine ⟨_, rfl, rfl, rfl, rfl, no_sleep_beside_slot (i := 3) ?_ ?_ (List.mem_singleton_self 3)⟩
  · have possible : threeSenders.Possible := ⟨⟨1⟩, 0, none, _, (), _, .here⟩
    exact possible.reach (.of_moves [.step 1 0, .step 1 0, .step 2 0, .step 2 0, .step 3 0, .step 3 0, .step 0 0, .step 0 0] rfl)
  · decide

/-! ## The mailbox thread -/

namespace Thread

variable {w : Task σ ν} {me : ThreadId} {pick : Nat} {stack : List (Frame σ ν)} {stage : Stage σ ν} {n : Next σ ν}

/-- A thread comes to a take of the main loop from such a take, or by the loop's look at the default action. -/
theorem Turn.loop_cases (h : Turn w me pick stack stage n) (tidy : stage.isTidy = true) {choice : Choice} {patient : Bool}
    (after : n.2.stage = .take choice patient .loop) :
    (stage = .take choice patient .loop ∧ n.1 = { w with mailbox := w.mailbox.restTaker me }) ∨
      (choice = .oldest ∧ (patient = true → n.1.processor.isAvailable = false)) := by
  cases h with
  | ended h | broken h => exact absurd h.not_isTake (by rw [after]; nofun)
  | called guarded q k h => cases h <;> cases after
  | taken _ _ _ purpose => cases purpose <;> cases after
  | shutOut _ _ purpose | missed _ purpose => cases purpose <;> cases after
  | drained choice purpose => cases choice <;> cases purpose <;> cases after
  | rested => cases after; exact .inl ⟨rfl, rfl⟩
  | idle stack none =>
    cases after
    refine .inr ⟨rfl, fun _ => ?_⟩
    rcases none with hnone | hsuspended
    · simp [Processor.isAvailable, hnone]
    · simp [Processor.isAvailable, hsuspended]
  | consulted =>
    cases after
    exact .inr ⟨rfl, fun hpatient => by simp_all [Processor.isAvailable]⟩
  | shutBefore next | woke next | disposed next | marked next =>
    have closing : (Stage.take choice patient .loop : Stage σ ν).isClosing = true := after ▸ tidy
    cases closing
  | _ => cases after

end Thread

namespace World

variable {a b w : World σ ν} {t i : ThreadId} {pick : Nat} {th : Thread σ ν} {n : Next σ ν}

/-- Some thread has resumed the default action, and has not yet finished the put of the mail that is to wake the mailbox thread. -/
def Resuming (w : World σ ν) : Prop :=
  ∃ (i : ThreadId) (m : Letter σ ν) (slept guarded : Bool) (s : SuspensionId) (k : Reply ν → Body σ ν) (stack : List (Frame σ ν)),
    m.toEnvelope = Thread.wakeUp ∧ w.threads[i]? = some ⟨.offer m slept .silent, .caller guarded (.resume s) k :: stack⟩

/-- Where the main loop waits at an empty mailbox although there is default work to do, somebody is on the way to wake it. -/
def Roused (w : World σ ν) : Prop :=
  ∀ (i : ThreadId) choice stack, w.threads[i]? = some ⟨.take choice true .loop, stack⟩ → choice = .oldest ∧
    (w.task.mailbox.status = .accepting → w.task.queued = [] → w.task.processor.isAvailable = true → w.Resuming)

/-- Whoever is putting the mail that wakes the mailbox thread goes on with it as long as the mailbox accepts mail and is empty. -/
theorem Stepped.resuming (hs : Stepped a t pick th n b) (ha : a.Resuming) (other : t ≠ a.task.mailbox.owner)
    (accepting : a.task.mailbox.status = .accepting) (empty : b.task.queued = []) : b.Resuming := by
  obtain ⟨i, m, slept, guarded, s, k, stack, hm, hi⟩ := ha
  by_cases hit : i = t
  · subst hit
    obtain rfl : th = _ := Option.some.inj (hs.thread.symm.trans hi)
    have own := hs.own
    have turn := hs.turn
    rw [Task.queued, hs.task] at empty
    cases turn with
    | accepted =>
      rw [Task.log_mailbox, Task.dropDisplaced_mailbox] at empty
      exact absurd (empty ▸ Lanes.mem_push _ m) List.not_mem_nil
    | refused _ _ _ why _ hwhy =>
      cases hf : a.task.mailbox.isFull <;> simp [Mailbox.offer, accepting, hf, other] at hwhy
    | waited => exact ⟨i, m, true, guarded, s, k, stack, hm, own⟩
  · exact ⟨i, m, slept, guarded, s, k, stack, hm, hs.other hit hi⟩

/-- An empty mailbox that accepts mail was so before the step of a thread that is not the mailbox thread. -/
theorem Stepped.was_empty (hs : Stepped a t pick th n b) (possible : a.Possible) (other : t ≠ a.task.mailbox.owner)
    (accepting : b.task.mailbox.status = .accepting) (empty : b.task.queued = []) :
    a.task.mailbox.status = .accepting ∧ a.task.queued = [] := by
  rw [hs.task] at accepting
  rw [Task.queued, hs.task] at empty
  cases hs.turn.toSleep (possible.tidy t th hs.thread) with
  | quiet mailbox | sent _ _ _ mailbox | rested _ _ _ _ _ mailbox | woke _ mailbox =>
    rw [mailbox] at accepting empty
    exact ⟨accepting, empty⟩
  | entered m was mailbox =>
    rw [mailbox] at empty
    exact absurd (empty ▸ Lanes.mem_push _ m) List.not_mem_nil
  | left m choice l pop mailbox before => exact absurd (possible.taking t th hs.thread before) other
  | ended status => exact absurd accepting status

theorem Stepped.roused (hs : Stepped a t pick th n b) (possible : a.Possible) (ha : a.Roused) : b.Roused := by
  intro i choice stack hi
  rcases hs.thread_cases hi with ⟨rfl, hn⟩ | ⟨hne, hx⟩ | ⟨program, hprogram⟩
  · rcases hs.turn.loop_cases (possible.tidy i th hs.thread) (congrArg Thread.stage hn.symm) with
      ⟨hstage, htask⟩ | ⟨rfl, hunavailable⟩
    · have hth : a.threads[i]? = some ⟨.take choice true .loop, th.stack⟩ := hstage ▸ hs.thread
      obtain ⟨hchoice, hroused⟩ := ha i choice th.stack hth
      refine ⟨hchoice, fun accepting empty available => ?_⟩
      rw [hs.task, htask] at accepting available
      rw [Task.queued, hs.task, htask] at empty
      obtain ⟨j, m, slept, guarded, s, k, below, hm, hj⟩ := hroused accepting empty available
      have hji : j ≠ i := by
        rintro rfl
        cases hj.symm.trans hth
      exact ⟨j, m, slept, guarded, s, k, below, hm, hs.other hji hj⟩
    · refine ⟨rfl, fun _ _ available => ?_⟩
      rw [hs.task, hunavailable rfl] at available
      cases available
  · -- The mailbox thread stands at its take while another thread steps.
    have howner : i = a.task.mailbox.owner := possible.taking i _ hx rfl
    have other : t ≠ a.task.mailbox.owner := fun ht => hne (howner.trans ht.symm)
    obtain ⟨hchoice, hroused⟩ := ha i choice stack hx
    refine ⟨hchoice, fun accepting empty available => ?_⟩
    obtain ⟨was, wasEmpty⟩ := hs.was_empty possible other accepting empty
    rw [hs.task] at available
    rcases hs.tended.available other available with before | ⟨m, guarded, s, k, hm, hn⟩
    · exact hs.resuming (hroused was wasEmpty before) other was empty
    · exact ⟨t, m, false, guarded, s, k, th.stack, hm, hn ▸ hs.own⟩
  · cases hprogram

theorem Possible.roused (h : w.Possible) : w.Roused := by
  refine h.invariant ?_ (fun possible ih hs => hs.roused possible ih) fun _ ih => ih
  intro config owner defaultAction handler client programs i choice stack hi
  obtain ⟨program, hprogram⟩ := thread_of_start hi
  cases hprogram

/-- Why thread `t` sleeps over a take with this choice and this purpose. -/
structure TakerSleeps (w : World σ ν) (t : ThreadId) (choice : Choice) (purpose : Purpose) : Prop where
  thread : ∃ stack, w.threads[t]? = some ⟨.take choice true purpose, stack⟩
  /-- It is the mailbox thread, the mailbox accepts mail, and holds none that the take may take. -/
  waits : w.Waits t choice
  /-- If it is the main loop that waits, the mailbox is empty, and there is no default work to do, or some thread has resumed it and has
  not yet finished the put of the mail that wakes the loop. -/
  loop : purpose = .loop → w.task.queued = [] ∧ (w.task.processor.isAvailable = false ∨ w.Resuming)

end World

/-- As long as nobody is about to wake all sleepers after a quiescing or a closing, the mailbox thread sleeps only over a take that finds
nothing, and the main loop only if there is no default work to do or some thread that resumed it is still on the way to wake the loop. -/
theorem no_lost_wakeUp {w : World σ ν} (possible : w.Possible) {t : ThreadId} (asleep : t ∈ w.task.mailbox.takers)
    (calm : ∀ (i : ThreadId) th, w.threads[i]? = some th → th.stage.isWaking = false) :
    ∃ choice purpose, w.TakerSleeps t choice purpose := by
  have accepting : w.task.mailbox.status = .accepting := by
    by_contra hstatus
    obtain ⟨i, th, hth, waking⟩ := possible.waking hstatus (.inr (List.ne_nil_of_mem asleep))
    rw [calm i th hth] at waking
    cases waking
  obtain ⟨choice, hwaits⟩ := possible.waits asleep accepting
  obtain ⟨purpose, stack, hthread⟩ := hwaits.thread
  refine ⟨choice, purpose, ⟨stack, hthread⟩, hwaits, ?_⟩
  rintro rfl
  obtain ⟨rfl, hroused⟩ := possible.roused t choice stack hthread
  have empty : w.task.queued = [] := by
    refine List.eq_nil_iff_forall_not_mem.mpr fun m hm => ?_
    obtain ⟨p, hp, -⟩ := hwaits.nothing m hm
    cases hp
  refine ⟨empty, ?_⟩
  cases available : w.task.processor.isAvailable with
  | false => exact .inl rfl
  | true => exact .inr (hroused accepting empty available)

/-- A task with two threads. The mailbox thread runs the main loop; the default action suspends itself. The other thread resumes it. -/
def suspendedLoop : World Unit Nat :=
  .start (.new ⟨1⟩ 0 (some (.call false .suspend fun _ => .finish (.returned 0))) (fun _ => .finish (.returned 0)) ())
    [.call false .loop fun _ => .finish (.returned 0), .call false (.resume 0) fun _ => .finish (.returned 0)]

/-- The loop has fallen asleep, and the other thread has resumed the default action and not yet sent its mail. -/
theorem no_lost_wakeUp_of_suspendedLoop : ∃ w : World Unit Nat,
    suspendedLoop.moves (List.replicate 10 (.step 0 0) ++ [.step 1 0]) = some w ∧
    w.task.mailbox.takers = [0] ∧ w.task.processor.isAvailable = true ∧ w.Resuming ∧
    ∃ choice purpose, w.TakerSleeps 0 choice purpose := by
  refine ⟨_, rfl, rfl, rfl, ⟨1, _, _, _, _, _, _, rfl, rfl⟩, no_lost_wakeUp ?_ (List.mem_singleton_self 0) ?_⟩
  · have possible : suspendedLoop.Possible := ⟨⟨1⟩, 0, _, _, (), _, .here⟩
    exact possible.reach (.of_moves (List.replicate 10 (.step 0 0) ++ [.step 1 0]) rfl)
  · intro i th hth
    match i with
    | 0 => cases hth; rfl
    | 1 => cases hth; rfl
    | i + 2 => cases hth

end Mailroom
