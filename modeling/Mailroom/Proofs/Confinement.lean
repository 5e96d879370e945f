import Mailroom.Proofs.Sweeping

/-!
# What other threads cannot do

Eight operations are for the mailbox thread alone (`Request.duty?`): to take mail in four ways, to yield, patiently or not, and to run
the main loop or a step. A call of one of them from any other thread (`World.Intrudes`) is refused by name in its first step, whatever
state the task is in, and until its body has the refusal the thread takes no other step. No step of it changes the task
(`Intrudes.untouched`). So mail leaves the mailbox only by a take of the mailbox thread or when the mailbox is closed
(`Reach.departs`). The main statement is `confinement`.
-/

namespace Mailroom

variable {σ ν : Type}

/-- What a request asks for, if only the mailbox thread may ask for it. -/
def Request.duty? : Request → Option Duty
  | take .oldest true => some .takeOldest
  | take .oldest false => some .tryTakeOldest
  | take (.eligible _) true => some .takeEligible
  | take (.eligible _) false => some .tryTakeEligible
  | yield _ true => some .yield
  | yield _ false => some .tryYield
  | loop => some .runLoop
  | step => some .runStep
  | _ => none

/-- What only the mailbox thread may ask for. -/
def Duty.all : List Duty :=
  [.takeOldest, .tryTakeOldest, .takeEligible, .tryTakeEligible, .yield, .tryYield, .runLoop, .runStep]

theorem Request.duty_mem {q : Request} {duty : Duty} (h : q.duty? = some duty) : duty ∈ Duty.all := by
  cases q with
  | take choice patient =>
    cases choice <;> cases patient <;> cases h <;> decide
  | yield p patient =>
    cases patient <;> cases h <;> decide
  | loop | step =>
    cases h
    decide
  | _ => cases h

/-- No two of them have one name. -/
theorem Duty.name_inj : ∀ duty ∈ all, ∀ duty' ∈ all, duty.name = duty'.name → duty = duty' := by decide

/-- Asked by another thread the request is refused, and nothing has changed. -/
theorem Thread.call_of_foreign {w : Task σ ν} {me : ThreadId} {q : Request} {duty : Duty} (foreign : me ≠ w.mailbox.owner)
    (h : q.duty? = some duty) (stack : List (Frame σ ν)) : call w me stack q = (w, .answer (.failed (.wrongThread duty))) := by
  cases q with
  | take choice patient =>
    cases choice <;> cases patient <;> cases h <;> simp [call, onDuty, foreign, dutyOfTake]
  | yield p patient =>
    cases patient <;> cases h <;> simp [call, onDuty, foreign, dutyOfYield]
  | loop | step =>
    cases h
    simp [call, onDuty, foreign]
  | _ => cases h

namespace World

/-- Thread `t` is not the mailbox thread and is about to make a call that is for the mailbox thread alone. -/
structure Intrudes (w : World σ ν) (t : ThreadId) (guarded : Bool) (q : Request) (k : Reply ν → Body σ ν)
    (stack : List (Frame σ ν)) (duty : Duty) : Prop where
  foreign : t ≠ w.task.mailbox.owner
  duty : q.duty? = some duty
  call : w.threads[t]? = some ⟨.run (.call guarded q k), stack⟩

/-- How mail `m` leaves the mailbox by the step of thread `t` from `x` to `y`. -/
inductive Departs (m : Letter σ ν) (t : ThreadId) (x y : World σ ν) : Prop where
  /-- The mailbox thread takes it. -/
  | taken (owner : t = x.task.mailbox.owner) (choice : Choice) (purpose : Purpose)
    (pop : x.task.mailbox.lanes.pop choice = some (m, y.task.mailbox.lanes))
    (history : y.task.taken = x.task.taken ++ [(m, purpose)])
  /-- The mailbox is closed, and all that was queued leaves it. -/
  | closed (before : x.task.mailbox.status ≠ .closed) (after : y.task.mailbox.status = .closed)
    (history : y.task.closings = x.task.closings ++ [x.task.queued]) (empty : y.task.queued = [])

variable {a b w x y : World σ ν} {t : ThreadId} {pick : Nat} {th : Thread σ ν} {n : Next σ ν} {stack : List (Frame σ ν)}
  {guarded : Bool} {q : Request} {k : Reply ν → Body σ ν} {duty : Duty} {m : Letter σ ν}

/-! ## Calls of other threads -/

/-- A step that changes nothing but where its thread stands. -/
theorem step?_of_same (hx : w.threads[t]? = some th) (awake : w.task.mailbox.isAsleep t = false) (still : th.offspring = [])
    {after : Thread σ ν} (step : Thread.stepStage w.task t pick th.stack th.stage = some (w.task, after)) :
    w.step? t pick = some { w with threads := w.threads.set t after } := by
  have hs : Stepped w t pick th (w.task, after) { w with threads := w.threads.set t after } :=
    ⟨hx, awake, step, by rw [still, List.map_nil, List.append_nil]⟩
  exact hs.step?_eq

namespace Intrudes

/-- The call is refused at once. -/
theorem refused (h : w.Intrudes t guarded q k stack duty) (possible : w.Possible) (pick : Nat) : w.step? t pick =
    some { w with threads := w.threads.set t ⟨.answer (.failed (.wrongThread duty)), .caller guarded q k :: stack⟩ } := by
  refine step?_of_same h.call (possible.awake_of_run h.call) rfl ?_
  simp only [Thread.stepStage, Thread.stepBody, Thread.call_of_foreign h.foreign h.duty]

/-- As long as the call lasts, its thread is about to make it or has been refused. -/
theorem stands (h : w.Intrudes t guarded q k stack duty) (possible : w.Possible)
    (during : w.During t (.caller guarded q k :: stack) b) : b.Intrudes t guarded q k stack duty ∨
      b.threads[t]? = some ⟨.answer (.failed (.wrongThread duty)), .caller guarded q k :: stack⟩ := by
  refine during.invariant (P := fun b => b.Intrudes t guarded q k stack duty ∨
    b.threads[t]? = some ⟨.answer (.failed (.wrongThread duty)), .caller guarded q k :: stack⟩) (.inl h) ?_ ?_
  · intro a i pick th n b before away ih hs
    rcases ih with ih | back
    · by_cases own : i = t
      · subst own
        cases hs.step?_eq.symm.trans (ih.refused (possible.reach before.reach) pick)
        exact .inr (List.getElem?_set_self hs.lt)
      · exact .inl ⟨fun owner => ih.foreign (owner.trans hs.traffic.owner), ih.duty, hs.other (Ne.symm own) ih.call⟩
    · exact absurd (Or.inl ⟨_, back⟩) away
  · rintro a i - (ih | back)
    · exact .inl ⟨ih.foreign, ih.duty, ih.call⟩
    · exact .inr back

/-- Once the call is over it was refused. -/
theorem answered (h : w.Intrudes t guarded q k stack duty) (possible : w.Possible)
    (during : w.During t (.caller guarded q k :: stack) b) (back : b.IsBack t (.caller guarded q k :: stack)) :
    b.threads[t]? = some ⟨.answer (.failed (.wrongThread duty)), .caller guarded q k :: stack⟩ :=
  (h.stands possible during).resolve_left fun still => not_isBack_of_stage still.call rfl back

/-- No step of the call changes the task. -/
theorem untouched (h : w.Intrudes t guarded q k stack duty) (possible : w.Possible)
    (own : OwnStep t (.caller guarded q k :: stack) w b x y) : y.task = x.task := by
  obtain ⟨pick, step⟩ := own.step
  rcases h.stands possible own.before with still | back
  · cases step.symm.trans (still.refused (possible.reach own.before.reach) pick)
    rfl
  · exact absurd (Or.inl ⟨_, back⟩) own.away

end Intrudes

/-- With the reply to a call the body goes on, and nothing else changes. -/
theorem Possible.step_on_reply (possible : w.Possible) {r : Reply ν}
    (hx : w.threads[t]? = some ⟨.answer r, .caller guarded q k :: stack⟩) (pick : Nat) :
    w.step? t pick = some { w with threads := w.threads.set t ⟨.run (k r), stack⟩ } :=
  step?_of_same hx (possible.awake hx rfl nofun) rfl rfl

/-! ## How mail leaves -/

/-- Whoever takes mail is the mailbox thread. -/
theorem Stepped.owner_of_taken (hs : Stepped x t pick th n y) (possible : x.Possible) (took : y.task.taken ≠ x.task.taken) :
    t = x.task.mailbox.owner := by
  refine possible.taking t th hs.thread ?_
  by_contra elsewhere
  exact took (hs.taken_same (Bool.eq_false_iff.mpr elsewhere))

/-- Mail that is queued before a step and not after it was taken by the mailbox thread, or the mailbox was closed. -/
theorem Stepped.departs (hs : Stepped x t pick th n y) (possible : x.Possible)
    (few : x.task.accepted.countP (fun put => !put.1.isUrgent) < 2 ^ 64) (queued : m ∈ x.task.queued) (gone : m ∉ y.task.queued) :
    Departs m t x y := by
  have changed : y.task.mailbox.lanes ≠ x.task.mailbox.lanes := fun lanes => gone (by rwa [Task.queued, lanes])
  cases hs.traffic with
  | quiet mailbox | quiesced _ mailbox | begun _ mailbox | refused _ mailbox =>
    exact absurd (Mailbox.lanes_of_wakeAll mailbox) changed
  | entered m' was room mailbox =>
    -- Before the count of keys has come around, a put displaces nothing.
    have put : (x.task.mailbox.lanes.push m').toList.Perm (m' :: x.task.queued) := by
      have perm := Lanes.toList_push_perm possible.orderly.wellFormed m'
      rwa [(possible.flow few).counted.displaced few, Option.toList_none, List.append_nil] at perm
    refine absurd ?_ gone
    rw [Task.queued, Mailbox.lanes_of_wakeAll mailbox]
    exact put.symm.subset (List.mem_cons_of_mem _ queued)
  | left m' choice purpose l was pop mailbox journal =>
    have lanes : y.task.mailbox.lanes = l := Mailbox.lanes_of_wakeAll mailbox
    have history : y.task.taken = x.task.taken ++ [(m', purpose)] := Task.taken_of_entry journal
    have owner : t = x.task.mailbox.owner := hs.owner_of_taken possible fun none => by simp [history] at none
    have left : m = m' ∨ m ∈ l.toList :=
      List.mem_cons.mp ((Thread.perm_of_pop possible.orderly.wellFormed pop).mem_iff.mp queued)
    obtain rfl : m = m' := left.resolve_right (by rwa [Task.queued, lanes] at gone)
    exact .taken owner choice purpose (lanes ▸ pop) history
  | emptied was mailbox journal =>
    refine .closed was (Mailbox.status_of_wakeAll mailbox) (Task.closings_of_entry journal) ?_
    rw [Task.queued, Mailbox.lanes_of_wakeAll mailbox]
    rfl

/-- Mail that is queued earlier and not later left at some step in between. -/
theorem Reach.departs (reach : w.Reach b) (possible : w.Possible)
    (few : b.task.accepted.countP (fun put => !put.1.isUrgent) < 2 ^ 64) (queued : m ∈ w.task.queued) (gone : m ∉ b.task.queued) :
    ∃ x t pick y, w.Reach x ∧ x.step? t pick = some y ∧ y.Reach b ∧ Departs m t x y := by
  induction reach with
  | here => exact absurd queued gone
  | @next a b move before hm ih =>
    have few' : a.task.accepted.countP (fun put => !put.1.isUrgent) < 2 ^ 64 :=
      Nat.lt_of_le_of_lt ((Reach.here.next move hm).history_grows Occurrence.acceptance?).sublist.countP_le few
    by_cases still : m ∈ a.task.queued
    · cases move with
      | step t pick =>
        obtain ⟨th, n, hs⟩ := step?_eq_some hm
        exact ⟨a, t, pick, b, before, hm, .here, hs.departs (possible.reach before) few' still gone⟩
      | stir t =>
        cases hm
        exact absurd still gone
    · obtain ⟨x, t, pick, y, hx, step, after, departs⟩ := ih few' still
      exact ⟨x, t, pick, y, hx, step, after.next move hm, departs⟩

/-! ## The main statement -/

/-- What other threads than the mailbox thread cannot do from the world `w` on. -/
structure Confined (w : World σ ν) : Prop where
  /-- A call that is for the mailbox thread alone can be made at once, in whatever state the task is, and is refused at once by the name
  of what was asked for; nothing else has changed. -/
  refused : ∀ {t guarded q k stack duty}, w.Intrudes t guarded q k stack duty → ∀ pick, w.step? t pick =
    some { w with threads := w.threads.set t ⟨.answer (.failed (.wrongThread duty)), .caller guarded q k :: stack⟩ }
  /-- Whatever other threads do in the meantime, that refusal is what the call comes back with, and then its body goes on with it. -/
  answered : ∀ {t guarded q k stack duty b}, w.Intrudes t guarded q k stack duty → w.During t (.caller guarded q k :: stack) b →
    b.IsBack t (.caller guarded q k :: stack) →
      b.threads[t]? = some ⟨.answer (.failed (.wrongThread duty)), .caller guarded q k :: stack⟩ ∧
      ∀ pick, b.step? t pick = some { b with threads := b.threads.set t ⟨.run (k (.failed (.wrongThread duty))), stack⟩ }
  /-- No step that the thread takes in the meantime changes the task: not the mailbox, nor the processor, nor a handle, nor what the
  journal says has happened. -/
  untouched : ∀ {t guarded q k stack duty b x y}, w.Intrudes t guarded q k stack duty →
    OwnStep t (.caller guarded q k :: stack) w b x y → y.task = x.task
  /-- The name in a refusal tells what was asked for. -/
  named : ∀ {q q' : Request} {duty duty'}, q.duty? = some duty → q'.duty? = some duty' → duty.name = duty'.name → duty = duty'
  /-- No other thread is inside the main loop or a step, or about to take mail. -/
  alone : ∀ {i : ThreadId} {th}, w.threads[i]? = some th → i ≠ w.task.mailbox.owner → th.servings = 0 ∧ th.stage.isTake = false
  /-- Mail leaves the mailbox by a take of the mailbox thread or when the mailbox is closed. This holds as long as fewer than `2 ^ 64` mails
  that are not urgent were accepted. -/
  departs : ∀ {b m}, w.Reach b → b.task.accepted.countP (fun put => !put.1.isUrgent) < 2 ^ 64 → m ∈ w.task.queued →
    m ∉ b.task.queued → ∃ x t pick y, w.Reach x ∧ x.step? t pick = some y ∧ y.Reach b ∧ Departs m t x y

end World

/-- Only the mailbox thread takes mail, yields, and runs the main loop or a step: a call of these from any other thread, mixed in any way
with what other threads do, is refused by name and changes nothing, and mail leaves the mailbox only by a take of the mailbox thread
or when the mailbox is closed. -/
theorem confinement {w : World σ ν} (possible : w.Possible) : w.Confined where
  refused h := h.refused possible
  answered h during back :=
    have refusal := h.answered possible during back
    ⟨refusal, (possible.reach during.reach).step_on_reply refusal⟩
  untouched h := h.untouched possible
  named h h' := Duty.name_inj _ (Request.duty_mem h) _ (Request.duty_mem h')
  alone hx foreign :=
    ⟨Nat.eq_zero_of_not_pos fun serving => foreign ((possible.serving hx).2 serving),
      Bool.eq_false_iff.mpr fun take => foreign (possible.taking _ _ hx take)⟩
  departs reach := reach.departs possible

/-- A task whose mailbox thread puts a mail and takes it, while another thread runs a step. -/
def intrudedTask : World Unit Nat :=
  .start (.new ⟨4⟩ 0 none (fun _ => .finish (.returned 0)) ())
    [.post ⟨⟨"m", []⟩, .empty, 0⟩ (.finish (.returned 0)) fun _ => .call false (.take .oldest true) fun _ => .finish (.returned 0),
      .call false .step fun _ => .finish (.returned 0)]

/-- A mail is queued when the other thread is refused, and then it leaves by the take. -/
theorem confinement_of_intrudedTask : ∃ w b : World Unit Nat,
    intrudedTask.moves [.step 0 0, .step 0 0] = some w ∧ w.task.queued.length = 1 ∧
    (∃ y, w.step? 1 0 = some y ∧ y.task = w.task) ∧
    w.moves [.step 1 0, .step 0 0, .step 0 0, .step 0 0] = some b ∧ b.task.queued = [] ∧
    ∀ m ∈ w.task.queued, ∃ x t pick y, w.Reach x ∧ x.step? t pick = some y ∧ y.Reach b ∧ World.Departs m t x y := by
  have possible : intrudedTask.Possible := ⟨⟨4⟩, 0, none, _, (), _, .here⟩
  have confined := confinement (possible.reach (.of_moves [.step 0 0, .step 0 0] rfl))
  refine ⟨_, _, rfl, rfl, ⟨_, confined.refused ⟨by decide, rfl, rfl⟩ 0, rfl⟩, rfl, rfl, fun m queued => ?_⟩
  exact confined.departs (.of_moves [.step 1 0, .step 0 0, .step 0 0, .step 0 0] rfl) (by decide) queued List.not_mem_nil

end Mailroom
