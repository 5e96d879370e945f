import Mailroom.Proofs.Report
import Mailroom.Proofs.Rundown

/-!
# The end of a task with a failure

The main loop or a step that fails closes the task, closes the mailbox, calls the handler with the failure, and returns that failure, and
nothing that other threads do makes a difference to this (`Dooms`).
-/

namespace Mailroom

variable {σ ν : Type}

namespace World

variable {w x : World σ ν} {t : ThreadId} {base : List (Frame σ ν)} {e : Failure}

/-- The call whose reply comes to the frames `base` ends with the failure `e`. -/
structure Dooms (w : World σ ν) (t : ThreadId) (base : List (Frame σ ν)) (e : Failure) : Prop where
  /-- The thread comes to the handler, and mailbox and task are closed then. If neither the handler nor the mail in hand waits for handles,
  the call comes back. -/
  handler : w.Arrives t (·.Able t) Anyhow fun x =>
    x.threads[t]? = some ⟨.run (x.task.processor.handler e), .handler e :: base⟩ ∧ x.task.mailbox.status = .closed ∧
      x.task.processor.status = .closed ∧
      ((∀ m ∈ x.task.hand, m.Independent) → (∀ e, (x.task.processor.handler e).Independent) →
        x.Arrives t (·.Ready t) Anyhow (·.IsBack t base))
  /-- If the call comes back with a reply, that is the failure. -/
  reply : ∀ b r, w.During t base b → b.threads[t]? = some ⟨.answer r, base⟩ → r = .failed e

/-- The handler comes to its end. -/
theorem Possible.arrives_of_handler (possible : w.Possible) (owner : t = w.task.mailbox.owner)
    (hx : w.threads[t]? = some ⟨.run (w.task.processor.handler e), .handler e :: base⟩) (mailbox : w.task.mailbox.status = .closed)
    (processor : w.task.processor.status = .closed) (hand : ∀ m ∈ w.task.hand, m.Independent)
    (handler : ∀ e, (w.task.processor.handler e).Independent) : w.Arrives t (·.Ready t) Anyhow (·.IsBack t base) := by
  have stock : ∀ m ∈ w.task.stock, m.Independent := by
    rw [Task.stock, Task.queued, possible.orderly.empty mailbox, List.nil_append]
    exact hand
  have awake := possible.awake hx rfl fun retrying => by cases retrying
  have ebbing : Ebbing t w := ⟨possible, owner, awake, by simp [mailbox], by simp [processor], stock, handler⟩
  have back : Receives t (·.IsBack t base) w.task.stock.length base :=
    ⟨fun r w _ hx _ _ => .here (.inl ⟨r, hx⟩), fun p w _ hx _ _ => .here (.inr ⟨p, hx⟩)⟩
  exact runs _ _ _ (handler e) rfl (.handler back) w ebbing hx (Nat.le_refl _) fun _ hm => by cases hm

/-- A thread that drops mail, one after the other, goes on when all of it is gone. -/
theorem Possible.arrives_of_drop {ms : List (Letter σ ν)} {next : Stage σ ν} {P : World σ ν → Prop} (possible : w.Possible)
    (hx : w.threads[t]? = some ⟨.drop ms next, base⟩)
    (rest : ∀ x, w.Reach x → x.threads[t]? = some ⟨next, base⟩ → x.Arrives t (·.Able t) Anyhow P) :
    w.Arrives t (·.Able t) Anyhow P := by
  induction ms generalizing w with
  | nil =>
    have step : ∀ task pick, Thread.stepStage task t pick base (.drop [] next) = some (task, ⟨next, base⟩) := fun _ _ => rfl
    exact .next id possible hx rfl rfl step (fun _ _ _ => trivial) fun _ x reach _ hnext => rest x reach hnext
  | cons m ms ih =>
    have step : ∀ task pick, Thread.stepStage task t pick base (.drop (m :: ms) next) = some (task.drop m, ⟨.drop ms next, base⟩) :=
      fun _ _ => rfl
    refine .next (·.drop m) possible hx rfl rfl step (fun _ _ _ => trivial) fun _ x reach _ hdrop => ?_
    exact ih (possible.reach reach) hdrop fun y hy => rest y (reach.trans hy)

/-- A thread that closes the mailbox after the task calls the handler next. -/
theorem Possible.arrives_of_shut (possible : w.Possible)
    (hx : w.threads[t]? = some ⟨.shut (.alarm e), base⟩) (processor : w.task.processor.status = .closed) :
    w.Arrives t (·.Able t) Anyhow fun x =>
      x.threads[t]? = some ⟨.run (x.task.processor.handler e), .handler e :: base⟩ ∧ x.task.mailbox.status = .closed ∧
        x.task.processor.status = .closed := by
  have alarm : ∀ x, w.Reach x → x.threads[t]? = some ⟨.alarm e, base⟩ → x.task.mailbox.status = .closed →
      x.Arrives t (·.Able t) Anyhow fun x =>
        x.threads[t]? = some ⟨.run (x.task.processor.handler e), .handler e :: base⟩ ∧ x.task.mailbox.status = .closed ∧
          x.task.processor.status = .closed := by
    intro x reach hx mailbox
    refine .of_stepped (possible.reach reach) hx rfl rfl (fun _ _ => rfl) fun a pick n b ha hs => ⟨trivial, .here ⟨?_, ?_, ?_⟩⟩
    · obtain rfl : b = _ := hs.result
      have turn := hs.turn
      cases turn
      exact hs.own
    · exact (ha.step hs.step?_eq).closed mailbox
    · exact ((reach.trans ha).step hs.step?_eq).processor_closed processor
  refine .of_stepped possible hx rfl rfl (fun _ _ => rfl) fun a pick n b ha hs => ⟨trivial, ?_⟩
  have reach := ha.step hs.step?_eq
  have turn := hs.turn
  have own := hs.own
  have task := hs.task
  cases turn with
  | shut _ _ was =>
    have closed : b.task.mailbox.status = .closed := by rw [task]; rfl
    refine .next Thread.stepWakeAll (possible.reach reach) own rfl rfl (fun _ _ => rfl) (fun _ _ _ => trivial) fun _ x hx _ hdrop => ?_
    refine (possible.reach (reach.trans hx)).arrives_of_drop hdrop fun y hy halarm => ?_
    exact alarm y ((reach.trans hx).trans hy) halarm ((hx.trans hy).closed closed)
  | shutBefore _ _ was => exact alarm b reach own (by rw [task]; exact was)

/-- The main loop or a step that is on its way out with a failure. -/
theorem Possible.dooms (possible : w.Possible) (hx : w.threads[t]? = some ⟨.abort e, base⟩) : w.Dooms t base e := by
  have owner : t = w.task.mailbox.owner := (possible.serving hx).2 (Nat.add_pos_right _ Nat.one_pos)
  refine ⟨?_, fun b r during back => ?_⟩
  · refine .next Thread.stepMarkClosed possible hx rfl rfl (fun _ _ => rfl) (fun _ _ _ => trivial) fun a x reach task hshut => ?_
    have closed : x.task.processor.status = .closed := by rw [task]; rfl
    refine ((possible.reach reach).arrives_of_shut hshut closed).imp fun y hy ⟨hrun, mailbox, processor⟩ => ?_
    have owner' := owner.trans (reach.trans hy).owner.symm
    exact ⟨hrun, mailbox, processor, (possible.reach (reach.trans hy)).arrives_of_handler owner' hrun mailbox processor⟩
  · obtain ⟨⟨th, hth, doomed⟩, -⟩ := during.doomed possible owner ⟨_, hx, .leaving (.leaving _ rfl)⟩
    obtain rfl : th = ⟨.answer r, base⟩ := Option.some.inj (hth.symm.trans back)
    cases doomed with
    | failing h =>
      generalize hth : (⟨.answer r, base⟩ : Thread σ ν) = th at h
      cases h with
      | mail e => exact absurd (congrArg Thread.stack hth).symm (List.cons_ne_self _ _)
      | _ => cases congrArg Thread.stage hth
    | leaving h =>
      have verdict := h.verdict
      cases r with
      | failed e' => cases verdict; rfl
      | _ => cases verdict
    | panicking p h => cases h

end World

end Mailroom
