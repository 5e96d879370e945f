import Mailroom.Proofs.Debt
import Mailroom.Proofs.Report
import Mailroom.Proofs.Waiting

/-!
# The life of mailbox and task together

`lifecycle`: mailbox and task only move forward, and after every operation that is carried out with no other in between the mailbox is at
least as far as the task; once the mailbox is closed it is empty, and every put and every take fails; and once the task is closed too,
no request to end one of them changes anything, not even what a later call of the main loop returns.
-/

namespace Mailroom

variable {σ ν : Type}

/-! ## One operation at a time -/

/-- The stage hands neither a reply nor a panic to the innermost frame. -/
def Stage.isUnderWay : Stage σ ν → Bool
  | answer _ => false
  | unwind _ => false
  | _ => true

namespace World

/-- Thread `t`, if no other takes a step, comes back at the frames `base` with the reply `r`, and `b` is the world then. -/
def Returns (w : World σ ν) (t : ThreadId) (base : List (Frame σ ν)) (r : Reply ν) (b : World σ ν) : Prop :=
  b.threads[t]? = some ⟨.answer r, base⟩ ∧ ∃ n, w.movesAway t base.length (List.replicate n (.step t 0)) = some b

variable {task : Task σ ν} {threads : List (Thread σ ν)} {t : ThreadId} {base : List (Frame σ ν)} {r : Reply ν} {b w : World σ ν}
  {stage : Stage σ ν} {stack : List (Frame σ ν)} {n : Next σ ν}

theorem Returns.here (ht : t < threads.length) :
    Returns ⟨task, threads.set t ⟨.answer r, base⟩⟩ t base r ⟨task, threads.set t ⟨.answer r, base⟩⟩ :=
  ⟨List.getElem?_set_self ht, 0, rfl⟩

/-- The first step, where the thread is found. -/
theorem Returns.first (hx : w.threads[t]? = some ⟨stage, stack⟩) (awake : w.task.mailbox.isAsleep t = false)
    (step : Thread.stepStage w.task t 0 stack stage = some n) (under : stage.isUnderWay = true)
    (still : (⟨stage, stack⟩ : Thread σ ν).offspring = []) (h : Returns ⟨n.1, w.threads.set t n.2⟩ t base r b) :
    Returns w t base r b := by
  obtain ⟨back, k, hk⟩ := h
  have away : w.isAway t base.length = true := by
    rw [isAway, hx]
    cases stage <;> first | rfl | cases under
  have hs : Stepped w t 0 ⟨stage, stack⟩ n ⟨n.1, w.threads.set t n.2⟩ :=
    ⟨hx, awake, step, by rw [still, List.map_nil, List.append_nil]⟩
  refine ⟨back, k + 1, ?_⟩
  rw [List.replicate_succ, movesAway, List.foldlM_cons, away, if_pos rfl, move, hs.step?_eq]
  exact hk

/-- A further step, from where the last one left the thread. -/
theorem Returns.step (ht : t < threads.length) (awake : task.mailbox.isAsleep t = false)
    (step : Thread.stepStage task t 0 stack stage = some n) (under : stage.isUnderWay = true)
    (still : (⟨stage, stack⟩ : Thread σ ν).offspring = []) (h : Returns ⟨n.1, threads.set t n.2⟩ t base r b) :
    Returns ⟨task, threads.set t ⟨stage, stack⟩⟩ t base r b := by
  refine .first (List.getElem?_set_self ht) awake step under still ?_
  rwa [List.set_set]

end World

/-! ## A closed mailbox -/

/-- Thread `me` puts a mail into the mailbox or, being the mailbox thread, takes one, and the reply comes to the frames `base`: it is
about to make the call, or it waited and has been woken. -/
inductive PutsOrTakes (w : Task σ ν) (me : ThreadId) : Thread σ ν → List (Frame σ ν) → Prop where
  | post (envelope : Envelope) (action : Body σ ν) (k : Reply ν → Body σ ν) (stack : List (Frame σ ν)) :
    PutsOrTakes w me ⟨.run (.post envelope action k), stack⟩ (.sender k :: stack)
  | submit (description : Description) (priority : Priority) (action : Body σ ν) (k : Reply ν → Body σ ν)
    (stack : List (Frame σ ν)) : PutsOrTakes w me ⟨.run (.submit description priority action k), stack⟩ (.sender k :: stack)
  | putBack (guarded : Bool) (t : Ticket) (k : Reply ν → Body σ ν) (stack : List (Frame σ ν)) (held : (w.held? t).isSome = true) :
    PutsOrTakes w me ⟨.run (.call guarded (.putBack t) k), stack⟩ (.caller guarded (.putBack t) k :: stack)
  | take (guarded : Bool) (choice : Choice) (patient : Bool) (k : Reply ν → Body σ ν) (stack : List (Frame σ ν))
    (owner : me = w.mailbox.owner) :
    PutsOrTakes w me ⟨.run (.call guarded (.take choice patient) k), stack⟩ (.caller guarded (.take choice patient) k :: stack)
  | yield (guarded : Bool) (p : Priority) (patient : Bool) (k : Reply ν → Body σ ν) (stack : List (Frame σ ν))
    (owner : me = w.mailbox.owner) :
    PutsOrTakes w me ⟨.run (.call guarded (.yield p patient) k), stack⟩ (.caller guarded (.yield p patient) k :: stack)
  | step (guarded : Bool) (k : Reply ν → Body σ ν) (stack : List (Frame σ ν)) (owner : me = w.mailbox.owner)
    (free : stack.any Frame.isServing = false) :
    PutsOrTakes w me ⟨.run (.call guarded .step k), stack⟩ (.caller guarded .step k :: stack)
  | putting (m : Letter σ ν) (slept : Bool) (receipt : Receipt) (stack : List (Frame σ ν)) (told : receipt ≠ .silent)
    (awake : w.mailbox.isAsleep me = false) : PutsOrTakes w me ⟨.offer m slept receipt, stack⟩ stack
  | taking (choice : Choice) (patient : Bool) (purpose : Purpose) (stack : List (Frame σ ν)) (other : purpose ≠ .loop)
    (awake : w.mailbox.isAsleep me = false) : PutsOrTakes w me ⟨.take choice patient purpose, stack⟩ stack

namespace World

variable {task : Task σ ν} {t : ThreadId} {base stack : List (Frame σ ν)} {w : World σ ν} {th : Thread σ ν} {body : Body σ ν}

/-- A put at a closed mailbox is turned away. -/
theorem returns_offer {m : Letter σ ν} {slept : Bool} {receipt : Receipt} (hx : w.threads[t]? = some ⟨.offer m slept receipt, base⟩)
    (awake : w.task.mailbox.isAsleep t = false) (closed : w.task.mailbox.status = .closed) (told : receipt ≠ .silent) :
    ∃ b, w.Returns t base (.failed .closed) b ∧ b.task.mailbox = w.task.mailbox := by
  have step : Thread.stepStage w.task t 0 base (.offer m slept receipt) =
      some ((w.task.drop m).log (.refused m t), ⟨.answer (.failed .closed), base⟩) := by
    have hreply : Thread.turnedAway (.closed : Failure) receipt = (.failed .closed : Reply ν) := by
      cases receipt with
      | silent => exact absurd rfl told
      | plain | handle => rfl
    simp only [Thread.stepStage, Thread.stepOffer, Mailbox.offer, closed, Thread.stay, hreply]
  exact ⟨_, .first hx awake step rfl rfl (.here (List.getElem?_eq_some_iff.mp hx).1), by simp⟩

/-- A take finds the mailbox closed. -/
theorem returns_take {choice : Choice} {patient : Bool} {purpose : Purpose}
    (hx : w.threads[t]? = some ⟨.take choice patient purpose, base⟩) (awake : w.task.mailbox.isAsleep t = false)
    (closed : w.task.mailbox.status = .closed) (other : purpose ≠ .loop) :
    ∃ b, w.Returns t base (.failed .closed) b ∧ b.task.mailbox = w.task.mailbox := by
  have step : Thread.stepStage w.task t 0 base (.take choice patient purpose) = some (w.task, ⟨.answer (.failed .closed), base⟩) := by
    have hfound : Thread.foundClosed purpose = (.answer (.failed .closed) : Stage σ ν) := by
      cases purpose with
      | loop => exact absurd rfl other
      | hold | yield | step => rfl
    simp only [Thread.stepStage, Thread.stepTake, Mailbox.take, closed, hfound]
  exact ⟨_, .first hx awake step rfl rfl (.here (List.getElem?_eq_some_iff.mp hx).1), rfl⟩

/-- A thread that makes a call is awake. -/
theorem Possible.awake_of_run (possible : w.Possible) (hx : w.threads[t]? = some ⟨.run body, stack⟩) :
    w.task.mailbox.isAsleep t = false :=
  possible.awake hx rfl nofun

/-- A call that begins to put a mail into a closed mailbox fails. -/
theorem Possible.returns_of_put (possible : w.Possible) (closed : w.task.mailbox.status = .closed)
    (hx : w.threads[t]? = some ⟨.run body, stack⟩) {m : Letter σ ν} {slept : Bool} {receipt : Receipt}
    (step : Thread.stepStage w.task t 0 stack (.run body) = some (task, ⟨.offer m slept receipt, base⟩)) (told : receipt ≠ .silent)
    (same : task.mailbox = w.task.mailbox) (still : (⟨.run body, stack⟩ : Thread σ ν).offspring = []) :
    ∃ b, w.Returns t base (.failed .closed) b ∧ b.task.mailbox = w.task.mailbox := by
  have awake := possible.awake_of_run hx
  have after : (w.threads.set t ⟨.offer m slept receipt, base⟩)[t]? = some ⟨.offer m slept receipt, base⟩ :=
    List.getElem?_set_self (List.getElem?_eq_some_iff.mp hx).1
  obtain ⟨b, hb, hm⟩ := returns_offer (w := ⟨task, _⟩) after (same ▸ awake) (same ▸ closed) told
  exact ⟨b, .first hx awake step rfl still hb, hm.trans same⟩

/-- A call that begins to take a mail from a closed mailbox fails. -/
theorem Possible.returns_of_take (possible : w.Possible) (closed : w.task.mailbox.status = .closed)
    (hx : w.threads[t]? = some ⟨.run body, stack⟩) {choice : Choice} {patient : Bool} {purpose : Purpose}
    (step : Thread.stepStage w.task t 0 stack (.run body) = some (w.task, ⟨.take choice patient purpose, base⟩))
    (other : purpose ≠ .loop) (still : (⟨.run body, stack⟩ : Thread σ ν).offspring = []) :
    ∃ b, w.Returns t base (.failed .closed) b ∧ b.task.mailbox = w.task.mailbox := by
  have awake := possible.awake_of_run hx
  have after : (w.threads.set t ⟨.take choice patient purpose, base⟩)[t]? = some ⟨.take choice patient purpose, base⟩ :=
    List.getElem?_set_self (List.getElem?_eq_some_iff.mp hx).1
  obtain ⟨b, hb, hm⟩ := returns_take (w := ⟨w.task, _⟩) after awake closed other
  exact ⟨b, .first hx awake step rfl still hb, hm⟩

/-- At a closed mailbox every put fails, and so does every take of the mailbox thread. -/
theorem Possible.fails_closed (possible : w.Possible) (closed : w.task.mailbox.status = .closed) (hx : w.threads[t]? = some th)
    (op : PutsOrTakes w.task t th base) : ∃ b, w.Returns t base (.failed .closed) b ∧ b.task.mailbox = w.task.mailbox := by
  cases op with
  | post => exact possible.returns_of_put closed hx rfl (by simp) rfl rfl
  | submit => exact possible.returns_of_put closed hx rfl (by simp) rfl rfl
  | putBack guarded ticket k stack held =>
    obtain ⟨m, hm⟩ := Option.isSome_iff_exists.mp held
    have step : Thread.stepStage w.task t 0 stack (.run (.call guarded (.putBack ticket) k)) =
        some ((w.task.letGo ticket).propose m t, ⟨.offer m false .plain, .caller guarded (.putBack ticket) k :: stack⟩) := by
      simp only [Thread.stepStage, Thread.stepBody, Thread.call, Thread.withHeld, hm]
    exact possible.returns_of_put closed hx step (by simp) rfl rfl
  | take guarded choice patient k stack owner =>
    have step : Thread.stepStage w.task t 0 stack (.run (.call guarded (.take choice patient) k)) =
        some (w.task, ⟨.take choice patient .hold, .caller guarded (.take choice patient) k :: stack⟩) := by
      simp only [Thread.stepStage, Thread.stepBody, Thread.call, Thread.onDuty, if_pos owner]
    exact possible.returns_of_take closed hx step (by simp) rfl
  | yield guarded p patient k stack owner =>
    have step : Thread.stepStage w.task t 0 stack (.run (.call guarded (.yield p patient) k)) =
        some (w.task, ⟨.take (.eligible p) patient .yield, .caller guarded (.yield p patient) k :: stack⟩) := by
      simp only [Thread.stepStage, Thread.stepBody, Thread.call, Thread.onDuty, if_pos owner]
    exact possible.returns_of_take closed hx step (by simp) rfl
  | step guarded k stack owner free =>
    have step : Thread.stepStage w.task t 0 stack (.run (.call guarded .step k)) =
        some (w.task, ⟨.take .oldest false .step, .caller guarded .step k :: stack⟩) := by
      simp [Thread.stepStage, Thread.stepBody, Thread.call, Thread.onDuty, Thread.exclusive, owner, free]
    exact possible.returns_of_take closed hx step (by simp) rfl
  | putting m slept receipt stack told awake => exact returns_offer hx awake closed told
  | taking choice patient purpose stack other awake => exact returns_take hx awake closed other

end World

/-! ## A closed task -/

/-- A request that is there to end the mailbox or the task. -/
def Request.isEnding : Request → Bool
  | quiesceMailbox => true
  | closeMailbox => true
  | quiesce => true
  | complete => true
  | report _ => true
  | close => true
  | _ => false

/-- Mailbox and task are closed, and nobody is reporting a failure. -/
structure Task.IsOver (w : Task σ ν) : Prop where
  mailbox : w.mailbox.status = .closed
  processor : w.processor.status = .closed
  lock : w.processor.reportLock = none

/-- Sections that do nothing any more once mailbox and task are closed, down to a reply. -/
inductive Stage.Idle : Stage σ ν → Prop where
  | answer (r : Reply ν) : Idle (answer r)
  | quiesceMailbox : Idle quiesceMailbox
  | surrender : Idle surrender
  | quiesceTask : Idle quiesceTask
  | shut {next : Stage σ ν} (h : Idle next) : Idle (shut next)
  | markClosed {next : Stage σ ν} (h : Idle next) : Idle (markClosed next)

namespace World

variable {task : Task σ ν} {threads : List (Thread σ ν)} {t : ThreadId} {base stack : List (Frame σ ν)} {w : World σ ν}

/-- Such sections leave the task as it is. -/
theorem returns_of_idle {stage : Stage σ ν} (h : stage.Idle) (finished : task.IsOver) (ht : t < threads.length)
    (awake : task.mailbox.isAsleep t = false) :
    ∃ r, Returns ⟨task, threads.set t ⟨stage, base⟩⟩ t base r ⟨task, threads.set t ⟨.answer r, base⟩⟩ := by
  induction h with
  | answer r => exact ⟨r, .here ht⟩
  | quiesceMailbox =>
    have step : Thread.stepStage task t 0 base .quiesceMailbox = some (task, ⟨.answer .done, base⟩) := by
      simp [Thread.stepStage, Thread.stay, Thread.stepQuiesceMailbox, Mailbox.quiesce, finished.mailbox]
    exact ⟨_, .step ht awake step rfl rfl (.here ht)⟩
  | surrender =>
    have step : Thread.stepStage task t 0 base .surrender = some (task, ⟨.answer (.mails []), base⟩) := by
      simp [Thread.stepStage, Thread.stay, Thread.stepSurrender, Mailbox.close, finished.mailbox]
    exact ⟨_, .step ht awake step rfl rfl (.here ht)⟩
  | quiesceTask =>
    have step : Thread.stepStage task t 0 base .quiesceTask = some (task, ⟨.answer .done, base⟩) := by
      simp [Thread.stepStage, Thread.stay, Thread.stepQuiesceTask, finished.processor]
    exact ⟨_, .step ht awake step rfl rfl (.here ht)⟩
  | @shut next h ih =>
    have step : Thread.stepStage task t 0 base (.shut next) = some (task, ⟨next, base⟩) := by
      simp [Thread.stepStage, Thread.stay, Thread.stepShut, Mailbox.close, finished.mailbox]
    obtain ⟨r, hr⟩ := ih
    exact ⟨r, .step ht awake step rfl rfl hr⟩
  | @markClosed next h ih =>
    have mark : Thread.stepMarkClosed task = task := by rw [Thread.stepMarkClosed, ← finished.processor]
    have step : Thread.stepStage task t 0 base (.markClosed next) = some (task, ⟨next, base⟩) := by
      rw [Thread.stepStage, mark]
    obtain ⟨r, hr⟩ := ih
    exact ⟨r, .step ht awake step rfl rfl hr⟩

/-- Once mailbox and task are closed, and nobody is reporting a failure, a request to end one of them leaves the task as it is. -/
theorem Possible.returns_of_ending (possible : w.Possible) (finished : w.task.IsOver) {guarded : Bool} {q : Request}
    {k : Reply ν → Body σ ν} (hx : w.threads[t]? = some ⟨.run (.call guarded q k), stack⟩) (hq : q.isEnding = true) :
    ∃ r, w.Returns t (.caller guarded q k :: stack) r
      { w with threads := w.threads.set t ⟨.answer r, .caller guarded q k :: stack⟩ } := by
  have ht : t < w.threads.length := (List.getElem?_eq_some_iff.mp hx).1
  have awake := possible.awake_of_run hx
  have idle : ∀ {stage : Stage σ ν}, Thread.call w.task t stack q = (w.task, stage) → stage.Idle →
      ∃ r, w.Returns t (.caller guarded q k :: stack) r
        { w with threads := w.threads.set t ⟨.answer r, .caller guarded q k :: stack⟩ } := by
    intro stage hcall hstage
    have step : Thread.stepStage w.task t 0 stack (.run (.call guarded q k)) =
        some (w.task, ⟨stage, .caller guarded q k :: stack⟩) := by
      simp only [Thread.stepStage, Thread.stepBody, hcall]
    obtain ⟨r, hr⟩ := returns_of_idle hstage finished ht awake
    exact ⟨r, .first hx awake step rfl rfl hr⟩
  cases q with
  | quiesceMailbox => exact idle rfl .quiesceMailbox
  | closeMailbox => exact idle rfl .surrender
  | quiesce => exact idle rfl .quiesceTask
  | complete =>
    cases hown : stack.head?.any Frame.isDefault with
    | true => exact idle (by simp [Thread.call, Thread.fromDefault, hown]) .quiesceTask
    | false => exact idle (by simp [Thread.call, Thread.fromDefault, hown]) (.answer .unavailable)
  | close =>
    cases hbusy : stack.any Frame.isServing with
    | true => exact idle (by simp only [Thread.call, Thread.exclusive, hbusy]; rfl) (.answer .unavailable)
    | false => exact idle (by simp only [Thread.call, Thread.exclusive, hbusy]; rfl) (.markClosed .surrender)
  | report e =>
    -- The lock is taken and given up again, and that is all.
    let locked : Task σ ν := { w.task with processor := { w.task.processor with reportLock := some t } }
    have lock : Thread.stepStage w.task t 0 (.caller guarded (.report e) k :: stack) (.lockReport e) =
        some (locked, ⟨.fileReport e, .caller guarded (.report e) k :: stack⟩) := by
      simp [Thread.stepStage, Thread.stepLockReport, Thread.stay, finished.lock, locked]
    have file : Thread.stepStage locked t 0 (.caller guarded (.report e) k :: stack) (.fileReport e) =
        some (w.task, ⟨.markClosed (.shut (.answer .done)), .caller guarded (.report e) k :: stack⟩) := by
      have unlock : { locked with processor := { locked.processor with reportLock := none } } = w.task := by
        simp only [locked, ← finished.lock]
      simp only [Thread.stepStage, Thread.stepFileReport, Thread.stay, unlock]
      simp [locked, finished.processor]
    have close : (.markClosed (.shut (.answer .done)) : Stage σ ν).Idle := .markClosed (.shut (.answer .done))
    obtain ⟨r, hr⟩ := returns_of_idle close finished ht awake
    exact ⟨r, .first hx awake rfl rfl rfl (.step ht awake lock rfl rfl (.step ht awake file rfl rfl hr))⟩
  | _ => cases hq

end World

/-! ## The main loop of a closed task -/

/-- What the main loop returns once mailbox and task are closed: the failure that was reported, if there is one. -/
def closingReply : Option Failure → Reply ν
  | some e => .failed (.fatal e)
  | none => .done

/-- The main loop of a closed task, from the call, or from a point on its way out, to the point at which it collects what was
reported. -/
inductive Collecting (base : List (Frame σ ν)) : Thread σ ν → Prop where
  | calling (guarded : Bool) (k : Reply ν → Body σ ν) (stack : List (Frame σ ν)) (free : stack.any Frame.isServing = false)
    (hbase : base = .caller guarded .loop k :: stack) : Collecting base ⟨.run (.call guarded .loop k), stack⟩
  | consulting : Collecting base ⟨.consult, base⟩
  | checking : Collecting base ⟨.consultStatus, base⟩
  | taking (patient : Bool) : Collecting base ⟨.take .oldest patient .loop, base⟩
  | leaving : Collecting base ⟨.windUp, base⟩
  | collecting : Collecting base ⟨.collect, base⟩

/-- The main loop has collected what was reported, and is on its way out with it, or its handler has panicked, or it is done. -/
inductive Concluding (base : List (Frame σ ν)) : Option Failure → Thread σ ν → Prop where
  | leaving {e : Failure} {th : Thread σ ν} (h : Leaving base (.fatal e) th) : Concluding base (some e) th
  | panicking (e : Failure) (p : Payload) : Concluding base (some e) ⟨.unwind p, base⟩
  | done : Concluding base none ⟨.answer .done, base⟩

theorem Concluding.reply {base : List (Frame σ ν)} {o : Option Failure} {r : Reply ν} (h : Concluding base o ⟨.answer r, base⟩) :
    r = closingReply o := by
  generalize hth : (⟨.answer r, base⟩ : Thread σ ν) = th at h
  cases h with
  | leaving h =>
    subst hth
    have hverdict := h.verdict
    cases r with
    | failed e => exact congrArg Reply.failed (Option.some.inj hverdict)
    | _ => cases hverdict
  | panicking => cases hth
  | done => cases hth; rfl

namespace World

variable {a b w y : World σ ν} {t : ThreadId} {pick : Nat} {th : Thread σ ν} {n : Next σ ν} {base : List (Frame σ ν)}

/-- Once the task is closed, what was reported stays as it is until the main loop collects it. -/
theorem Stepped.report_same (hs : Stepped a t pick th n b) (closed : a.task.processor.status = .closed) (calm : th.stage ≠ .collect) :
    b.task.processor.report = a.task.processor.report := by
  cases hreport : a.task.processor.report with
  | none => exact hs.report_none closed hreport
  | some e => exact hs.report_kept hreport calm

/-- The main loop of a closed task goes on to collect what was reported, and with that out. -/
theorem Stepped.collecting (hs : Stepped a t pick th n b) (owner : t = a.task.mailbox.owner) (closed : a.task.mailbox.status = .closed)
    (h : Collecting base th) :
    th.stage ≠ .collect ∧ Collecting base n.2 ∨ th.stage = .collect ∧ Concluding base a.task.processor.report n.2 := by
  have turn := hs.turn
  cases h with
  | calling guarded k stack free hbase =>
    have hstep := hs.step
    simp only [Thread.stepStage, Thread.stepBody, Thread.call_loop owner free] at hstep
    cases hstep
    rw [← hbase]
    exact .inl ⟨by simp, .consulting⟩
  | consulting =>
    cases turn with
    | willing => exact .inl ⟨by simp, .checking⟩
    | idle => exact .inl ⟨by simp, .taking true⟩
  | checking => cases turn; exact .inl ⟨by simp, .taking _⟩
  | taking patient =>
    cases turn with
    | shutOut => exact .inl ⟨by simp, .leaving⟩
    | taken _ _ _ _ _ _ was | missed _ _ _ was => exact absurd closed was
    | drained _ _ _ was | rested _ _ _ was => rw [was] at closed; cases closed
  | leaving => cases turn; exact .inl ⟨by simp [Stage.windUp], .collecting⟩
  | collecting =>
    refine .inr ⟨rfl, ?_⟩
    cases turn with
    | collected e stack free report => rw [report]; exact .leaving (.leaving _ rfl)
    | finished stack free nothing => rw [nothing]; exact .done

/-- The main loop of a closed task has still to collect what was reported, or is on its way out with it. -/
theorem During.collects (h : During t base y b) (possible : y.Possible) (owner : t = y.task.mailbox.owner)
    (mailbox : y.task.mailbox.status = .closed) (processor : y.task.processor.status = .closed)
    (start : y.threads[t]? = some th ∧ Collecting base th) : ∃ th, b.threads[t]? = some th ∧
      (Collecting base th ∧ b.task.processor.report = y.task.processor.report ∨ Concluding base y.task.processor.report th) := by
  refine h.invariant (P := fun x => ∃ th, x.threads[t]? = some th ∧ (Collecting base th ∧
    x.task.processor.report = y.task.processor.report ∨ Concluding base y.task.processor.report th)) ?_ ?_ fun _ ih => ih
  · exact ⟨th, start.1, .inl ⟨start.2, rfl⟩⟩
  · intro x i pick th n z hyx away ⟨th', hth', hpoint⟩ hs
    have hx : x.Possible := possible.reach hyx.reach
    have howner : t = x.task.mailbox.owner := owner.trans hyx.reach.owner.symm
    have closed : x.task.processor.status = .closed := hyx.reach.processor_closed processor
    by_cases hi : i = t
    · subst hi
      obtain rfl : th = th' := Option.some.inj (hs.thread.symm.trans hth')
      refine ⟨n.2, hs.own, ?_⟩
      rcases hpoint with ⟨hcollecting, hreport⟩ | hconcluding
      · rcases hs.collecting howner (hyx.reach.closed mailbox) hcollecting with ⟨calm, hn⟩ | ⟨-, hn⟩
        · exact .inl ⟨hn, (hs.report_same closed calm).trans hreport⟩
        · exact .inr (hreport ▸ hn)
      · refine .inr ?_
        generalize y.task.processor.report = o at hconcluding ⊢
        cases hconcluding with
        | leaving h =>
          rcases hs.turn.leaving h fun r hr => away (.inl ⟨r, hr ▸ hs.thread⟩) with hleaving | ⟨p, hp⟩
          · exact .leaving hleaving
          · rw [hp]; exact .panicking _ p
        | panicking e p => exact absurd (.inr ⟨p, hs.thread⟩) away
        | done => exact absurd (.inl ⟨_, hs.thread⟩) away
    · refine ⟨th', hs.other (Ne.symm hi) hth', hpoint.imp_left fun ⟨hcollecting, hreport⟩ => ⟨hcollecting, ?_⟩⟩
      exact (hs.report_same closed (hx.not_collect (howner ▸ hi) hs.thread)).trans hreport

/-- The main loop of a closed task that has returned has returned what was reported. -/
theorem During.reply_of_collecting (h : During t base y b) (possible : y.Possible) (owner : t = y.task.mailbox.owner)
    (mailbox : y.task.mailbox.status = .closed) (processor : y.task.processor.status = .closed)
    (start : y.threads[t]? = some th ∧ Collecting base th) {r : Reply ν} (back : b.threads[t]? = some ⟨.answer r, base⟩) :
    r = closingReply y.task.processor.report := by
  obtain ⟨th', hth', hpoint⟩ := h.collects possible owner mailbox processor start
  obtain rfl : th' = _ := Option.some.inj (hth'.symm.trans back)
  rcases hpoint with ⟨hcollecting, -⟩ | hconcluding
  · cases hcollecting
  · exact hconcluding.reply

/-! ## The whole -/

/-- What is so once the mailbox is closed. -/
structure Shut (w : World σ ν) : Prop where
  empty : w.task.mailbox.length = 0
  /-- Every put, and every take of the mailbox thread, fails, and the mailbox stays as it is. -/
  fails : ∀ t th base, w.threads[t]? = some th → PutsOrTakes w.task t th base →
    ∃ b, w.Returns t base (.failed .closed) b ∧ b.task.mailbox = w.task.mailbox

/-- What is so once the task is closed. -/
structure Finished (w : World σ ν) : Prop where
  /-- A request to end the mailbox or the task leaves the whole task as it is. -/
  calls : ∀ (t : ThreadId) guarded q k stack, w.threads[t]? = some ⟨.run (.call guarded q k), stack⟩ → q.isEnding = true →
    ∃ r, w.Returns t (.caller guarded q k :: stack) r { w with threads := w.threads.set t ⟨.answer r, .caller guarded q k :: stack⟩ }
  /-- Later only the main loop itself changes what was reported. -/
  kept : ∀ x t pick th n y, w.Reach x → Stepped x t pick th n y → th.stage ≠ .collect →
    y.task.processor.report = x.task.processor.report
  /-- A later call of the main loop returns what was reported when it was made, whatever other threads do meanwhile. -/
  loop : ∀ (x : World σ ν) t guarded k stack b r, w.Reach x → t = x.task.mailbox.owner →
    x.threads[t]? = some ⟨.run (.call guarded .loop k), stack⟩ → stack.any Frame.isServing = false →
    x.During t (.caller guarded .loop k :: stack) b → b.threads[t]? = some ⟨.answer r, .caller guarded .loop k :: stack⟩ →
    r = closingReply x.task.processor.report

/-- What holds of the lives of mailbox and task. -/
structure Lifecycle (w : World σ ν) : Prop where
  /-- Both only move forward. -/
  forward : ∀ b, w.Reach b → w.task.mailbox.status.rank ≤ b.task.mailbox.status.rank ∧
    w.task.processor.status.rank ≤ b.task.processor.status.rank
  /-- An operation that is carried out with no other in between leaves mailbox and task at rest. -/
  alone : w.AtRest → ∀ t (picks : List Nat) b base, w.moves (picks.map (.step t)) = some b → b.IsBack t base → b.AtRest
  /-- At rest, the mailbox is at least as far as the task. -/
  level : w.AtRest → w.task.processor.status.rank ≤ w.task.mailbox.status.rank
  /-- At rest, a report that was not collected yet has closed both. -/
  reported : w.AtRest → ∀ e, w.task.processor.report = some e → w.task.mailbox.status = .closed ∧ w.task.processor.status = .closed
  shut : w.task.mailbox.status = .closed → ∀ b, w.Reach b → b.Shut
  finished : w.AtRest → w.task.processor.status = .closed → w.Finished

theorem Possible.shut (possible : w.Possible) (closed : w.task.mailbox.status = .closed) : w.Shut where
  empty := by rw [Mailbox.length, ← Lanes.length_toList, possible.orderly.empty closed, List.length_nil]
  fails _ _ _ hx op := possible.fails_closed closed hx op

theorem AtRest.mailbox_closed (rest : w.AtRest) (possible : w.Possible) (closed : w.task.processor.status = .closed) :
    w.task.mailbox.status = .closed := by
  by_contra hopen
  exact rest.paid possible .closeMailbox ⟨closed, hopen⟩

theorem AtRest.finished (rest : w.AtRest) (possible : w.Possible) (closed : w.task.processor.status = .closed) : w.Finished := by
  have mailbox := rest.mailbox_closed possible closed
  have lock : w.task.processor.reportLock = none := by
    by_contra hlock
    exact rest.paid possible .unlock hlock
  refine ⟨fun _ _ _ _ _ hx hq => possible.returns_of_ending ⟨mailbox, closed, lock⟩ hx hq, ?_, ?_⟩
  · intro x t pick th n y hwx hs calm
    exact hs.report_same (hwx.processor_closed closed) calm
  · intro x t guarded k stack b r hwx owner hx free during back
    have calling : Collecting (.caller guarded .loop k :: stack) ⟨.run (.call guarded .loop k), stack⟩ :=
      .calling guarded k stack free rfl
    exact during.reply_of_collecting (possible.reach hwx) owner (hwx.closed mailbox) (hwx.processor_closed closed) ⟨hx, calling⟩ back

end World

/-- The lives of mailbox and task, under any order of steps. What is said of a world at rest holds after every operation if operations
are carried out one at a time. -/
theorem lifecycle {w : World σ ν} (possible : w.Possible) : w.Lifecycle where
  forward _ h := ⟨h.mailbox_forward, h.processor_forward⟩
  alone rest _ picks _ _ steps back := rest.alone picks steps back
  level rest := by
    cases hp : w.task.processor.status with
    | running => exact Nat.zero_le _
    | quiescing =>
      cases hm : w.task.mailbox.status with
      | accepting => exact absurd ⟨hp, hm⟩ (rest.paid possible .quiesceMailbox)
      | quiesced => exact Nat.le_refl 1
      | closed => exact Nat.le_succ 1
    | closed => rw [rest.mailbox_closed possible hp]; exact Nat.le_refl 2
  reported rest e report := by
    have closed : w.task.processor.status = .closed := by
      by_contra hopen
      exact rest.paid possible .closeTask ⟨by rw [report]; nofun, hopen⟩
    exact ⟨rest.mailbox_closed possible closed, closed⟩
  shut closed _ h := (possible.reach h).shut (h.closed closed)
  finished rest closed := rest.finished possible closed

/-- A task whose only thread reports a failure, then another one, and calls the main loop. -/
def reportedTwice : World Unit Nat :=
  .start (.new ⟨1⟩ 0 none (fun _ => .finish (.returned 0)) ())
    [.call false (.report (.plain "first")) fun _ => .call false (.report (.plain "second")) fun _ =>
      .call false .loop fun _ => .finish (.returned 0)]

/-- The first report is complete. -/
theorem lifecycle_of_reportedTwice : ∃ w : World Unit Nat, reportedTwice.moves (List.replicate 7 (.step 0 0)) = some w ∧
    w.AtRest ∧ w.task.processor.status = .closed ∧ w.task.processor.report = some (.plain "first") ∧ w.Lifecycle := by
  refine ⟨_, rfl, ?_, rfl, rfl, lifecycle ?_⟩
  · have rest : reportedTwice.AtRest := World.atRest_start _ _
    exact rest.alone (t := 0) (List.replicate 7 0) rfl (.inl ⟨_, rfl⟩)
  · have possible : reportedTwice.Possible := ⟨⟨1⟩, 0, none, _, (), _, .here⟩
    exact possible.reach (.of_moves (List.replicate 7 (.step 0 0)) rfl)

end Mailroom
