import Mailroom.Proofs.Custody
import Mailroom.Proofs.Serving

/-!
# How the main loop ends

`loop_exit`: whatever mail and default work do, and whatever other threads do meanwhile, a call of the main loop that returns leaves
a closed task and a closed, empty mailbox behind, and returns done or a fatal failure. In the second case it has called the handler
once, with that failure, and in the first case not at all. When the handler is called all of this is the case already, and the
handles of the mail that the call threw out of the mailbox say closed. `InLoop` is the invariant: what is known of the task at each
point of such a call.
-/

namespace Mailroom

variable {σ ν : Type}

/-! ## What is known during the call -/

/-- What is known of the task: the mailbox is closed, if `shut`; the task is closed, if `ended`; and since the calls of the handler
that `before` lists there were those that `after` lists. -/
structure Known (w : Task σ ν) (shut ended : Bool) (before after : List Failure) : Prop where
  mailbox : shut = true → w.mailbox.status = .closed
  processor : ended = true → w.processor.status = .closed
  alarms : w.alarms = before ++ after

/-- The ways out of the main loop once the mailbox is closed; the task is closed then too, if `ended`. -/
inductive WayOut : Stage σ ν → Bool → Prop where
  | good : WayOut .windUp false
  | bad (e : Failure) : WayOut (.alarm (.fatal e)) true

/-- The stages of the main loop itself, with what is known at each. -/
inductive Looping (w : Task σ ν) (before : List Failure) : Stage σ ν → Prop where
  | consulting (known : Known w false false before []) : Looping w before .consult
  | checking (known : Known w false false before []) : Looping w before .consultStatus
  | taking (patient : Bool) (known : Known w false false before []) : Looping w before (.take .oldest patient .loop)
  | serving (m : Letter σ ν) (known : Known w false false before []) : Looping w before (.serve m true)
  | idling (known : Known w false false before []) : Looping w before .callDefault
  | failing (e : Failure) (known : Known w false false before []) : Looping w before (.abort (.fatal e))
  | closing {next : Stage σ ν} {ended : Bool} (out : WayOut next ended) (known : Known w false ended before []) :
    Looping w before (.shut next)
  | waking (ms : List (Letter σ ν)) {next : Stage σ ν} {ended : Bool} (out : WayOut next ended)
    (known : Known w true ended before []) : Looping w before (.wakeAll (.drop ms next))
  | dropping (ms : List (Letter σ ν)) {next : Stage σ ν} {ended : Bool} (out : WayOut next ended)
    (known : Known w true ended before []) : Looping w before (.drop ms next)
  | leaving {next : Stage σ ν} {ended : Bool} (out : WayOut next ended) (known : Known w true ended before []) :
    Looping w before next
  | collecting (known : Known w true true before []) : Looping w before .collect
  | done (known : Known w true true before []) : Looping w before (.answer .done)
  | failed (e : Failure) (known : Known w true true before [.fatal e]) : Looping w before (.answer (.failed (.fatal e)))
  | panicking (p : Payload) : Looping w before (.unwind p)

/-- The frames under which the loop lets others run: a mail, the default action, or the handler. -/
inductive Inside (w : Task σ ν) (before : List Failure) : Frame σ ν → Prop where
  | mail (known : Known w false false before []) : Inside w before (.serve true)
  | default (known : Known w false false before []) : Inside w before .default
  | handler (e : Failure) (known : Known w true true before [.fatal e]) : Inside w before (.handler (.fatal e))

/-- Where a thread stands that makes a call of the main loop, with `base` under it: at the call, in the loop itself, or in something
that the loop runs. -/
inductive InLoop (w : Task σ ν) (before : List Failure) (base : List (Frame σ ν)) : Thread σ ν → Prop where
  | calling (guarded : Bool) (k : Reply ν → Body σ ν) (stack : List (Frame σ ν)) (free : stack.any Frame.isServing = false)
    (hbase : base = .caller guarded .loop k :: stack) (known : Known w false false before []) :
    InLoop w before base ⟨.run (.call guarded .loop k), stack⟩
  | looping (stage : Stage σ ν) (h : Looping w before stage) : InLoop w before base ⟨stage, base⟩
  | inside {f : Frame σ ν} (hf : Inside w before f) (stage : Stage σ ν) (above : List (Frame σ ν)) :
    InLoop w before base ⟨stage, above ++ f :: base⟩

/-- Less may be known. -/
theorem Known.forget {w : Task σ ν} {shut ended : Bool} {before after : List Failure} (h : Known w shut ended before after) :
    Known w false false before after :=
  ⟨nofun, nofun, h.alarms⟩

section

variable {w w' : Task σ ν} {before : List Failure}

/-- What is known in the loop depends on the task only through what `Known` says of it. -/
theorem Looping.mono (keep : ∀ {shut ended after}, Known w shut ended before after → Known w' shut ended before after)
    {stage : Stage σ ν} (h : Looping w before stage) : Looping w' before stage := by
  cases h with
  | consulting known => exact .consulting (keep known)
  | checking known => exact .checking (keep known)
  | taking patient known => exact .taking patient (keep known)
  | serving m known => exact .serving m (keep known)
  | idling known => exact .idling (keep known)
  | failing e known => exact .failing e (keep known)
  | closing out known => exact .closing out (keep known)
  | waking ms out known => exact .waking ms out (keep known)
  | dropping ms out known => exact .dropping ms out (keep known)
  | leaving out known => exact .leaving out (keep known)
  | collecting known => exact .collecting (keep known)
  | done known => exact .done (keep known)
  | failed e known => exact .failed e (keep known)
  | panicking p => exact .panicking p

theorem Inside.mono (keep : ∀ {shut ended after}, Known w shut ended before after → Known w' shut ended before after)
    {f : Frame σ ν} (h : Inside w before f) : Inside w' before f := by
  cases h with
  | mail known => exact .mail (keep known)
  | default known => exact .default (keep known)
  | handler e known => exact .handler e (keep known)

theorem InLoop.mono (keep : ∀ {shut ended after}, Known w shut ended before after → Known w' shut ended before after)
    {base : List (Frame σ ν)} {th : Thread σ ν} (h : InLoop w before base th) : InLoop w' before base th := by
  cases h with
  | calling guarded k stack free hbase known => exact .calling guarded k stack free hbase (keep known)
  | looping stage h => exact .looping stage (h.mono keep)
  | inside hf stage above => exact .inside (hf.mono keep) stage above

end

/-- Every turn keeps what is known, except that the calls of the handler are counted. -/
theorem Known.turn {me : ThreadId} {pick : Nat} {w : Task σ ν} {stack : List (Frame σ ν)} {stage : Stage σ ν} {n : Next σ ν}
    {shut ended : Bool} {before after : List Failure} (h : Known w shut ended before after)
    (turn : Thread.Turn w me pick stack stage n) (calm : ∀ e, stage ≠ .alarm e) : Known n.1 shut ended before after where
  mailbox hs := (Mailbox.status_of_wakeAll (turn.toTraffic.of_closed (h.mailbox hs))).trans (h.mailbox hs)
  processor he := turn.toServed.closed (h.processor he)
  alarms := by
    rcases turn.toServed.alarms with ha | ⟨e, he, -⟩
    · exact ha.trans h.alarms
    · exact absurd he (calm e)

/-! ## Turns of the thread itself -/

namespace Thread

variable {w : Task σ ν} {me : ThreadId} {pick : Nat} {before : List Failure} {base : List (Frame σ ν)} {stage : Stage σ ν}
  {n : Next σ ν}

/-- A turn of the loop itself leads to the next point of the loop, or into a mail, the default action or the handler. -/
theorem inLoop_of_looping (h : Looping w before stage) (turn : Turn w me pick base stage n)
    (answered : ∀ r, stage ≠ .answer r) (unwound : ∀ p, stage ≠ .unwind p) : InLoop n.1 before base n.2 := by
  have keep : (∀ e, stage ≠ .alarm e) → ∀ {shut ended after}, Known w shut ended before after →
      Known n.1 shut ended before after :=
    fun calm _ _ _ known => known.turn turn calm
  cases h with
  | consulting known =>
    cases turn with
    | willing => exact .looping _ (.checking known)
    | idle => exact .looping _ (.taking true known)
  | checking known =>
    cases turn with
    | consulted => exact .looping _ (.taking _ known)
  | taking patient known =>
    have known := keep nofun known
    cases turn with
    | taken => exact .looping _ (.serving _ known)
    | shutOut _ _ _ _ was => exact .looping _ (.leaving .good ⟨fun _ => was, nofun, known.alarms⟩)
    | missed => exact .looping _ (.idling known)
    | drained => exact .looping _ (.closing .good known)
    | rested => exact .looping _ (.taking true known)
  | serving m known =>
    have known := keep nofun known
    cases turn with
    | served => exact .inside (.mail known) _ []
  | idling known =>
    have known := keep nofun known
    cases turn with
    | defaulted => exact .inside (.default known) _ []
    | vacant => exact .looping _ (.consulting known)
  | failing e known =>
    cases turn with
    | marked => exact .looping _ (.closing (.bad e) ⟨nofun, fun _ => rfl, known.alarms⟩)
  | closing out known =>
    cases turn with
    | shut => exact .looping _ (.waking _ out ⟨fun _ => rfl, known.processor, (Task.alarms_log rfl).trans known.alarms⟩)
    | shutBefore _ _ was => exact .looping _ (.leaving out ⟨fun _ => was, known.processor, known.alarms⟩)
  | waking ms out known =>
    cases turn with
    | woke => exact .looping _ (.dropping ms out ⟨known.mailbox, known.processor, known.alarms⟩)
  | dropping ms out known =>
    have known := keep nofun known
    cases turn with
    | dropped => exact .looping _ (.dropping _ out known)
    | disposed => exact .looping _ (.leaving out known)
  | leaving out known =>
    cases out with
    | good =>
      cases turn with
      | marked => exact .looping _ (.collecting ⟨known.mailbox, fun _ => rfl, known.alarms⟩)
    | bad e =>
      have halarms := (w.alarms_log_alarmed (.fatal e)).trans (congrArg (· ++ [.fatal e]) known.alarms)
      rw [List.append_nil] at halarms
      have hknown : Known (w.log (.alarmed (.fatal e))) true true before [.fatal e] :=
        ⟨known.mailbox, known.processor, halarms⟩
      cases turn with
      | alarmed => exact .inside (.handler e hknown) _ []
  | collecting known =>
    have known := keep nofun known
    cases turn with
    | collected => exact .looping _ (.failing _ known.forget)
    | finished => exact .looping _ (.done known)
  | done known => exact absurd rfl (answered _)
  | failed e known => exact absurd rfl (answered _)
  | panicking p => exact absurd rfl (unwound p)

/-- The end of a mail that the loop ran leads back to the loop. -/
theorem inLoop_of_serve (known : Known w false false before []) (hr : IsReturning stage)
    (turn : Turn w me pick (.serve true :: base) stage n) : InLoop n.1 before base n.2 := by
  cases turn with
  | aborted whole e =>
    obtain ⟨source, hsource⟩ := e.exists_toFatal_eq
    rw [hsource]
    exact .looping _ (.failing source known)
  | looped => exact .looping _ (.consulting known)
  | unwound => exact .looping _ (.panicking _)
  | ended h | broken h => cases h
  | _ => cases hr

/-- The end of the default action leads back to the loop. -/
theorem inLoop_of_default (known : Known w false false before []) (hr : IsReturning stage)
    (turn : Turn w me pick (.default :: base) stage n) : InLoop n.1 before base n.2 := by
  have hend : ∀ {e : Ending ν} {n : Next σ ν}, Ended w e (.default :: base) n → InLoop n.1 before base n.2 := by
    intro e n h
    cases h with
    | default =>
      cases e with
      | returned v => exact .looping _ (.consulting known)
      | failed e => exact .looping _ (.failing _ known)
      | panicked p => exact .looping _ (.failing _ known)
  cases turn with
  | ended h | broken h => exact hend h
  | unwound through => cases through
  | _ => cases hr

/-- The end of the handler is the end of the call, with the failure that the handler was told. -/
theorem inLoop_of_handler {e : Failure} (known : Known w true true before [.fatal e]) (hr : IsReturning stage)
    (turn : Turn w me pick (.handler (.fatal e) :: base) stage n) : InLoop n.1 before base n.2 := by
  have hend : ∀ {how : Ending ν} {n : Next σ ν}, Ended w how (.handler (.fatal e) :: base) n → InLoop n.1 before base n.2 := by
    intro how n h
    cases h with
    | handler =>
      cases how with
      | returned v => exact .looping _ (.failed e known)
      | failed e' => exact .looping _ (.failed e known)
      | panicked p => exact .looping _ (.panicking p)
  cases turn with
  | ended h | broken h => exact hend h
  | unwound through => cases through
  | _ => cases hr

/-- What the loop runs ends, and the loop goes on, or the call ends. -/
theorem inLoop_of_inside {f : Frame σ ν} (hf : Inside w before f) (hr : IsReturning stage)
    (turn : Turn w me pick (f :: base) stage n) : InLoop n.1 before base n.2 := by
  cases hf with
  | mail known => exact inLoop_of_serve known hr turn
  | default known => exact inLoop_of_default known hr turn
  | handler e known => exact inLoop_of_handler known hr turn

end Thread

/-! ## A whole call -/

/-- The handler is not called while something runs for the loop. -/
theorem Inside.calm {w : Task σ ν} {before : List Failure} {f : Frame σ ν} (h : Inside w before f) {th : Thread σ ν}
    (hf : f ∈ th.stack) (one : th.servings ≤ 1) (e : Failure) : th.stage ≠ .alarm e := by
  intro he
  have serving : f.isServing = true := by cases h <;> rfl
  have hpos : 0 < th.stack.countP Frame.isServing := List.countP_pos_iff.mpr ⟨f, hf, serving⟩
  rw [Thread.servings, he] at one
  exact absurd one (Nat.not_le.mpr (Nat.add_lt_add_right hpos 1))

/-- In a call of the main loop the handler is called at one point only, with the task and the mailbox closed. -/
theorem InLoop.alarm {w : Task σ ν} {before : List Failure} {base : List (Frame σ ν)} {th : Thread σ ν}
    (h : InLoop w before base th) (one : th.servings ≤ 1) {e : Failure} (he : th.stage = .alarm e) :
    ∃ source, e = .fatal source ∧ th = ⟨.alarm e, base⟩ ∧ Known w true true before [] := by
  cases h with
  | calling guarded k stack free hbase known => cases he
  | looping stage h =>
    cases he
    cases h with
    | leaving out known =>
      cases out with
      | bad source => exact ⟨source, rfl, rfl, known⟩
  | inside hf stage above => exact absurd he (hf.calm (List.mem_append_right above List.mem_cons_self) one e)

/-- With no frame above it, the thread is in the loop itself. -/
theorem InLoop.looping_of_base {w : Task σ ν} {before : List Failure} {base : List (Frame σ ν)} {stage : Stage σ ν}
    (h : InLoop w before base ⟨stage, base⟩) : Looping w before stage := by
  generalize hth : (⟨stage, base⟩ : Thread σ ν) = th at h
  cases h with
  | calling guarded k stack free hbase known =>
    cases hth
    exact absurd (congrArg List.length hbase) (by simp)
  | looping stage h => cases hth; exact h
  | inside hf stage above =>
    have hlength := congrArg (fun th : Thread σ ν => th.stack.length) hth
    simp only [List.length_append, List.length_cons] at hlength
    omega

/-- A step of the thread that makes the call leads from one point of it to the next. -/
theorem InLoop.step {w : Task σ ν} {me : ThreadId} {pick : Nat} {before : List Failure} {base : List (Frame σ ν)} {th : Thread σ ν}
    {n : Next σ ν} (h : InLoop w before base th) (hstep : Thread.stepStage w me pick th.stack th.stage = some n)
    (owner : me = w.mailbox.owner) (one : th.servings ≤ 1) (answered : ∀ r, th ≠ ⟨.answer r, base⟩)
    (unwound : ∀ p, th ≠ ⟨.unwind p, base⟩) : InLoop n.1 before base n.2 := by
  have turn := Thread.turn_stepStage hstep
  have keep : (∀ e, th.stage ≠ .alarm e) → ∀ {shut ended after}, Known w shut ended before after → Known n.1 shut ended before after :=
    fun calm _ _ _ known => known.turn turn calm
  cases h with
  | calling guarded k stack free hbase known =>
    simp only [Thread.stepStage, Thread.stepBody, Thread.call_loop owner free] at hstep
    cases hstep
    rw [← hbase]
    exact .looping _ (.consulting known)
  | looping stage h =>
    exact Thread.inLoop_of_looping h turn (fun r hr => answered r (congrArg (Thread.mk · base) hr))
      fun p hp => unwound p (congrArg (Thread.mk · base) hp)
  | inside hf stage above =>
    have hcalm := hf.calm (List.mem_append_right above List.mem_cons_self) one
    rcases turn.stack_above with ⟨above', hn⟩ | ⟨rfl, hr⟩
    · have hinv : InLoop n.1 before base ⟨n.2.stage, above' ++ _ :: base⟩ := .inside (hf.mono (keep hcalm)) n.2.stage above'
      rw [← hn] at hinv
      exact hinv
    · exact Thread.inLoop_of_inside hf hr turn

/-- Where the loop itself closes the mailbox it goes on to throw out what was queued. -/
theorem Thread.Turn.shuts {w : Task σ ν} {me : ThreadId} {pick : Nat} {before : List Failure} {base : List (Frame σ ν)}
    {stage : Stage σ ν} {n : Next σ ν} (turn : Turn w me pick base stage n) (h : Looping w before stage) {guarded : Bool}
    {k : Reply ν → Body σ ν} {stack : List (Frame σ ν)} (hbase : base = .caller guarded .loop k :: stack)
    (was : w.mailbox.status ≠ .closed) (closed : n.1.mailbox.status = .closed) :
    ∃ next, n.2 = ⟨.wakeAll (.drop w.queued next), base⟩ := by
  cases h with
  | consulting | checking | taking | serving | idling | failing => cases turn <;> exact absurd closed was
  | closing out known =>
    cases turn with
    | shut => exact ⟨_, rfl⟩
    | shutBefore => exact absurd closed was
  | waking ms out known | dropping ms out known | leaving out known | collecting known | done known | failed e known =>
    exact absurd (known.mailbox rfl) was
  | panicking p =>
    subst hbase
    cases turn with
    | guarded | unwound => exact absurd closed was
    | broken h => cases h

namespace World

variable {w a b : World σ ν} {t i : ThreadId} {pick : Nat} {th : Thread σ ν} {n : Next σ ν} {base : List (Frame σ ν)}
  {before : List Failure}

/-- A step of a thread that does not call the handler keeps what is known. -/
theorem Stepped.known (hs : Stepped a i pick th n b) (calm : ∀ e, th.stage ≠ .alarm e) {shut ended : Bool} {after : List Failure}
    (known : Known a.task shut ended before after) : Known b.task shut ended before after := by
  rw [hs.task]
  exact known.turn hs.turn calm

theorem known_stirred {shut ended : Bool} {after : List Failure} (known : Known a.task shut ended before after) (i : ThreadId) :
    Known (a.stirred i).task shut ended before after :=
  ⟨known.mailbox, known.processor, known.alarms⟩

/-- A step of another thread leaves the call where it is. -/
theorem Stepped.inLoop_other (possible : a.Possible) (hs : Stepped a i pick th n b) (hi : i ≠ a.task.mailbox.owner)
    {x : Thread σ ν} (h : InLoop a.task before base x) : InLoop b.task before base x := by
  refine h.mono fun known => hs.known (fun e he => hi ((possible.serving hs.thread).2 ?_)) known
  rw [Thread.servings, he]
  exact Nat.succ_pos _

/-- A step of the thread itself leads from one point of the call to the next. -/
theorem Stepped.inLoop_own (possible : a.Possible) (hs : Stepped a i pick th n b) (hi : i = a.task.mailbox.owner)
    (away : ¬a.IsBack i base) (h : InLoop a.task before base th) : InLoop b.task before base n.2 := by
  rw [hs.task]
  refine h.step hs.step hi (possible.serving hs.thread).1 (fun r hr => away (.inl ⟨r, ?_⟩)) fun p hp => away (.inr ⟨p, ?_⟩)
  · rw [hs.thread, hr]
  · rw [hs.thread, hp]

/-- At every moment of a call of the main loop the thread is at one of the points that `InLoop` knows. -/
theorem During.inLoop (h : During t base w b) (possible : w.Possible) (owner : t = w.task.mailbox.owner)
    (start : ∃ th, w.threads[t]? = some th ∧ InLoop w.task before base th) :
    ∃ th, b.threads[t]? = some th ∧ InLoop b.task before base th := by
  refine h.invariant (P := fun x => ∃ th, x.threads[t]? = some th ∧ InLoop x.task before base th) start ?_ ?_
  · intro x i pick th n y hwx away ⟨th', hth', hin⟩ hs
    have hx : x.Possible := possible.reach hwx.reach
    have howner : t = x.task.mailbox.owner := owner.trans hwx.reach.owner.symm
    by_cases hi : i = t
    · subst hi
      obtain rfl : th = th' := Option.some.inj (hs.thread.symm.trans hth')
      exact ⟨n.2, hs.own, hs.inLoop_own hx howner away hin⟩
    · exact ⟨th', hs.other (Ne.symm hi) hth', hs.inLoop_other hx (howner ▸ hi) hin⟩
  · intro x i _ ⟨th, hth, hin⟩
    exact ⟨th, hth, hin.mono fun known => known_stirred known i⟩

/-- The handler is called in the world `y`, in the time between `w` and `b`. -/
structure Alarm (t : ThreadId) (base : List (Frame σ ν)) (w y y' b : World σ ν) : Prop where
  before : w.During t base y
  move : ∃ m, y.move m = some y'
  called : y'.task.alarms ≠ y.task.alarms
  after : y'.During t base b

/-- The call itself, and no body above it, closes the mailbox. -/
structure Shuts (t : ThreadId) (base : List (Frame σ ν)) (x x' : World σ ν) : Prop where
  thread : ∃ stage, x.threads[t]? = some ⟨stage, base⟩
  step : ∃ pick, x.step? t pick = some x'
  was : x.task.mailbox.status ≠ .closed
  closed : x'.task.mailbox.status = .closed

/-- What is so when a call of the main loop that was made in the world `w` has returned `r` in the world `b`. -/
structure Exited (t : ThreadId) (base : List (Frame σ ν)) (w b : World σ ν) (r : Reply ν) : Prop where
  mailbox : b.task.mailbox.status = .closed
  empty : b.task.mailbox.length = 0
  processor : b.task.processor.status = .closed
  /-- The reply is done, and the handler was not called, or it is a fatal failure, and the handler was called with it, and once. -/
  reply : (r = .done ∧ b.task.alarms = w.task.alarms) ∨
    ∃ e, r = .failed (.fatal e) ∧ b.task.alarms = w.task.alarms ++ [.fatal e]
  /-- When the handler is called the mailbox is closed and empty, and the task is closed. -/
  alarm : ∀ y y', Alarm t base w y y' b → y.task.mailbox.status = .closed ∧ y.task.mailbox.length = 0 ∧
    y.task.processor.status = .closed ∧ ∃ e, r = .failed (.fatal e) ∧ y'.task.alarms = y.task.alarms ++ [.fatal e]
  /-- When the handler is called the handles of the mail that the call found in the mailbox and threw out say closed. -/
  handles : ∀ y y', Alarm t base w y y' b → ∀ x x', w.During t base x → Shuts t base x x' → x'.During t base y →
    ∀ m ∈ x.task.queued, ∀ h, m.handle? = some h → ∃ s, y.task.slots[h]? = some s ∧ s.outcome = some (.error .closed)

/-! ## The call of the handler -/

/-- A step that calls the handler is the one that the stage stands for. -/
theorem Stepped.alarmed (hs : Stepped a i pick th n b) (called : b.task.alarms ≠ a.task.alarms) :
    ∃ e, th.stage = .alarm e ∧ b.task.alarms = a.task.alarms ++ [e] := by
  rw [hs.task] at called ⊢
  exact hs.served.alarms.resolve_left called

/-- The calls of the handler are not forgotten. -/
theorem Reach.alarms_prefix (h : Reach a b) : a.task.alarms <+: b.task.alarms := by
  refine h.invariant (P := fun x => a.task.alarms <+: x.task.alarms) (List.prefix_refl _) ?_ fun _ ih => ih
  intro x i pick th n y _ ih hs
  rw [hs.task]
  rcases hs.served.alarms with heq | ⟨e, -, heq⟩
  · exact heq ▸ ih
  · exact heq ▸ ih.trans (List.prefix_append _ _)

/-- When the handler is called in a call of the main loop, the thread is at the point that is there for that. -/
theorem Alarm.point {y y' : World σ ν} (h : Alarm t base w y y' b) (possible : w.Possible) (owner : t = w.task.mailbox.owner)
    (start : ∃ th, w.threads[t]? = some th ∧ InLoop w.task before base th) :
    ∃ e, y.threads[t]? = some ⟨.alarm (.fatal e), base⟩ ∧ Known y.task true true before [] ∧
      y'.task.alarms = y.task.alarms ++ [.fatal e] := by
  have hy : y.Possible := possible.reach h.before.reach
  obtain ⟨m, hm⟩ := h.move
  cases m with
  | stir i =>
    cases hm
    exact absurd rfl h.called
  | step i pick =>
    obtain ⟨th, n, hs⟩ := step?_eq_some hm
    obtain ⟨e, he, halarms⟩ := hs.alarmed h.called
    obtain ⟨hone, howner⟩ := hy.serving hs.thread
    have hi : i = t := by
      rw [owner, ← h.before.reach.owner]
      exact howner (by rw [Thread.servings, he]; exact Nat.succ_pos _)
    obtain ⟨th', hth', hin⟩ := h.before.inLoop possible owner start
    subst hi
    obtain rfl : th = th' := Option.some.inj (hs.thread.symm.trans hth')
    obtain ⟨source, rfl, rfl, known⟩ := hin.alarm hone he
    exact ⟨source, hs.thread, known, halarms⟩

/-! ## The mail that is thrown out -/

/-- The thread is about to throw out mail that it found in the mailbox, or is at it, or has done so. -/
inductive Shedding (ms : List (Letter σ ν)) (base : List (Frame σ ν)) (w : Task σ ν) : Thread σ ν → Prop where
  | waking (next : Stage σ ν) : Shedding ms base w ⟨.wakeAll (.drop ms next), base⟩
  /-- `rest` is still to go; all other mail is gone. -/
  | dropping (rest : List (Letter σ ν)) (next : Stage σ ν) (gone : ∀ m ∈ ms, m ∈ rest ∨ .dropped m.ticket ∈ w.journal) :
    Shedding ms base w ⟨.drop rest next, base⟩
  | shed (th : Thread σ ν) (h : ∀ m ∈ ms, .dropped m.ticket ∈ w.journal) : Shedding ms base w th

/-- Mail that is gone stays gone. -/
theorem Shedding.mono {ms : List (Letter σ ν)} {w w' : Task σ ν} {th : Thread σ ν} (h : Shedding ms base w th)
    (keep : ∀ e ∈ w.journal, e ∈ w'.journal) : Shedding ms base w' th := by
  cases h with
  | waking next => exact .waking next
  | dropping rest next gone => exact .dropping rest next fun m hm => (gone m hm).imp_right (keep _)
  | shed _ gone => exact .shed th fun m hm => keep _ (gone m hm)

/-- A turn of the thread throws out one mail more, or finds that all are gone. -/
theorem Shedding.turn {ms : List (Letter σ ν)} {w : Task σ ν} {me : ThreadId} {pick : Nat} {th : Thread σ ν} {n : Next σ ν}
    (h : Shedding ms base w th) (turn : Thread.Turn w me pick th.stack th.stage n) (keep : ∀ e ∈ w.journal, e ∈ n.1.journal) :
    Shedding ms base n.1 n.2 := by
  cases h with
  | waking next =>
    cases turn with
    | woke => exact .dropping ms next fun m hm => .inl hm
  | dropping rest next gone =>
    cases turn with
    | dropped m rest =>
      refine .dropping rest next fun m' hm' => ?_
      rcases gone m' hm' with hrest | hgone
      · rcases List.mem_cons.mp hrest with rfl | hrest
        · exact .inr List.mem_cons_self
        · exact .inl hrest
      · exact .inr (keep _ hgone)
    | disposed => exact .shed _ fun m hm => (gone m hm).resolve_left List.not_mem_nil
  | shed _ gone => exact .shed _ fun m hm => keep _ (gone m hm)

/-- What the journal says it goes on to say. -/
theorem Stepped.mem_journal (hs : Stepped a i pick th n b) (possible : a.Possible) {e : Occurrence σ ν}
    (he : e ∈ a.task.journal) : e ∈ b.task.journal :=
  (hs.entries possible.orderly).mem_journal he

theorem Reach.mem_journal (h : Reach a b) (possible : a.Possible) {e : Occurrence σ ν} (he : e ∈ a.task.journal) :
    e ∈ b.task.journal := by
  refine h.invariant (P := fun x => e ∈ x.task.journal) he ?_ fun _ ih => ih
  intro x i pick th n y hax ih hs
  exact hs.mem_journal (possible.reach hax) ih

/-- Mail that was offered has been from then on. -/
theorem Reach.offered (h : Reach a b) (possible : a.Possible) {m : Letter σ ν} (offered : a.ledger.Offered m) : b.ledger.Offered m :=
  offered.imp fun _ ho => h.mem_journal possible ho

theorem During.shedding {ms : List (Letter σ ν)} (h : During t base w b) (possible : w.Possible)
    (start : ∃ th, w.threads[t]? = some th ∧ Shedding ms base w.task th) :
    ∃ th, b.threads[t]? = some th ∧ Shedding ms base b.task th := by
  refine h.invariant (P := fun x => ∃ th, x.threads[t]? = some th ∧ Shedding ms base x.task th) start ?_ ?_
  · intro x i pick th n y hwx _ ⟨th', hth', hin⟩ hs
    have keep : ∀ e ∈ x.task.journal, e ∈ y.task.journal := fun e he => hs.mem_journal (possible.reach hwx.reach) he
    by_cases hi : i = t
    · subst hi
      obtain rfl : th = th' := Option.some.inj (hs.thread.symm.trans hth')
      rw [hs.task] at keep ⊢
      exact ⟨n.2, hs.own, hin.turn hs.turn keep⟩
    · exact ⟨th', hs.other (Ne.symm hi) hth', hin.mono keep⟩
  · intro x i _ ⟨th, hth, hin⟩
    exact ⟨th, hth, hin.mono fun _ => id⟩

/-- The mail that the call finds in the mailbox when it closes it is thrown out before the handler is called. -/
theorem Shuts.thrown_out {x x' y : World σ ν} (h : Shuts t base x x') (possible : x.Possible) {guarded : Bool}
    {k : Reply ν → Body σ ν} {stack : List (Frame σ ν)} (hbase : base = .caller guarded .loop k :: stack)
    (start : ∃ th, x.threads[t]? = some th ∧ InLoop x.task before base th) (after : x'.During t base y) {e : Failure}
    (hy : y.threads[t]? = some ⟨.alarm e, base⟩) {m : Letter σ ν} (hm : m ∈ x.task.queued) {i : HandleId}
    (hi : m.handle? = some i) : ∃ s, y.task.slots[i]? = some s ∧ s.outcome = some (.error .closed) := by
  obtain ⟨⟨stage, hstage⟩, ⟨pick, hstep⟩, was, closed⟩ := h
  obtain ⟨th, n, hs⟩ := step?_eq_some hstep
  obtain ⟨th', hth', hin⟩ := start
  obtain rfl : th = ⟨stage, base⟩ := Option.some.inj (hs.thread.symm.trans hstage)
  obtain rfl : th' = ⟨stage, base⟩ := Option.some.inj (hth'.symm.trans hstage)
  rw [hs.task] at closed
  obtain ⟨next, hn⟩ := hs.turn.shuts hin.looping_of_base hbase was closed
  have hx' : x'.Possible := possible.reach (Reach.here.step hstep)
  have hshed : ∃ th, x'.threads[t]? = some th ∧ Shedding x.task.queued base x'.task th := ⟨n.2, hs.own, hn ▸ .waking next⟩
  obtain ⟨th, hth, hshed⟩ := after.shedding hx' hshed
  obtain rfl : th = ⟨.alarm e, base⟩ := Option.some.inj (hth.symm.trans hy)
  cases hshed with
  | shed _ hdropped =>
    have halive : m ∈ x.ledger.alive := List.mem_append_right _ (List.mem_append_left _ hm)
    obtain ⟨sender, hsender⟩ := possible.good.sound.offered m halive
    have hreach : Reach x y := (Reach.here.step hstep).trans after.reach
    exact (possible.reach hreach).good.sound.closed_of_dropped ⟨sender, hreach.mem_journal possible hsender⟩ hi (hdropped m hm)

end World

/-- The exit law of the main loop. The mailbox thread makes a call of the main loop in a world that is possible, and not from inside
another such call, and later the call has returned. Then the reply is done or a fatal failure, the task is closed, the mailbox is
closed and empty, and the handler was called once with the failure, or not at all; and when it was called all that was so already,
and the handles of the mail that was thrown out said closed. -/
theorem loop_exit {w b : World σ ν} (possible : w.Possible) {t : ThreadId} (owner : t = w.task.mailbox.owner) {guarded : Bool}
    {k : Reply ν → Body σ ν} {stack : List (Frame σ ν)} (call : w.threads[t]? = some ⟨.run (.call guarded .loop k), stack⟩)
    (free : stack.any Frame.isServing = false) (during : w.During t (.caller guarded .loop k :: stack) b) {r : Reply ν}
    (back : b.threads[t]? = some ⟨.answer r, .caller guarded .loop k :: stack⟩) :
    World.Exited t (.caller guarded .loop k :: stack) w b r := by
  have start : ∃ th, w.threads[t]? = some th ∧ InLoop w.task w.task.alarms (.caller guarded .loop k :: stack) th :=
    ⟨_, call, .calling guarded k stack free rfl ⟨nofun, nofun, (List.append_nil _).symm⟩⟩
  have length_zero : ∀ y : World σ ν, y.Possible → y.task.mailbox.status = .closed → y.task.mailbox.length = 0 := by
    intro y hy hclosed
    rw [Mailbox.length, ← Lanes.length_toList, hy.orderly.empty hclosed]
    rfl
  obtain ⟨th, hth, hin⟩ := during.inLoop possible owner start
  obtain rfl : th = _ := Option.some.inj (hth.symm.trans back)
  have hend : ∃ after, Known b.task true true w.task.alarms after ∧
      ((r = .done ∧ after = []) ∨ ∃ e, r = .failed (.fatal e) ∧ after = [.fatal e]) := by
    cases hin.looping_of_base with
    | leaving out known => cases out
    | done known => exact ⟨_, known, .inl ⟨rfl, rfl⟩⟩
    | failed e known => exact ⟨_, known, .inr ⟨e, rfl, rfl⟩⟩
  obtain ⟨after, known, hreply⟩ := hend
  refine ⟨known.mailbox rfl, length_zero b (possible.reach during.reach) (known.mailbox rfl), known.processor rfl, ?_, ?_, ?_⟩
  · rw [known.alarms]
    rcases hreply with ⟨hr, rfl⟩ | ⟨e, hr, rfl⟩
    · exact .inl ⟨hr, List.append_nil _⟩
    · exact .inr ⟨e, hr, rfl⟩
  · intro y y' halarm
    obtain ⟨e, -, hknown, halarms⟩ := halarm.point possible owner start
    refine ⟨hknown.mailbox rfl, length_zero y (possible.reach halarm.before.reach) (hknown.mailbox rfl), hknown.processor rfl,
      e, ?_, halarms⟩
    have hprefix := halarm.after.reach.alarms_prefix
    rw [halarms, hknown.alarms, known.alarms, List.append_nil, List.prefix_append_right_inj] at hprefix
    rcases hreply with ⟨-, rfl⟩ | ⟨e', hr, rfl⟩
    · exact absurd hprefix (by simp)
    · obtain rfl : e = e' := by simpa using hprefix
      exact hr
  · intro y y' halarm x x' hx hshuts hxy m hm i hi
    obtain ⟨e, hy, -, -⟩ := halarm.point possible owner start
    exact hshuts.thrown_out (possible.reach hx.reach) rfl (hx.inLoop possible owner start) hxy hy hm hi

/-- A task whose only thread sends a mail that fails and a mail that has a handle, and calls the main loop. -/
def failingTask : World Unit Nat :=
  .start (.new ⟨2⟩ 0 none (fun _ => .finish (.returned 0)) ())
    [.post ⟨⟨"bad", []⟩, .empty, 0⟩ (.finish (.failed .closed)) fun _ =>
      .submit ⟨"late", []⟩ 0 (.finish (.returned 7)) fun _ => .call false .loop fun _ => .finish (.returned 0)]

theorem loop_exit_of_failing_mail : ∃ w b : World Unit Nat,
    failingTask.moves (List.replicate 6 (.step 0 0)) = some w ∧ w.movesAway 0 1 (List.replicate 14 (.step 0 0)) = some b ∧
      World.Exited 0 [.caller false .loop fun _ => .finish (.returned 0)] w b (.failed (.fatal (.actionFailed "bad" .closed))) := by
  have possible : failingTask.Possible := ⟨⟨2⟩, 0, none, _, (), _, .here⟩
  refine ⟨_, _, rfl, rfl, loop_exit (t := 0) (possible.reach ?_) rfl rfl rfl ?_ rfl⟩
  · exact .of_moves (List.replicate 6 (.step 0 0)) rfl
  · exact .of_moves (List.replicate 14 (.step 0 0)) rfl

end Mailroom
