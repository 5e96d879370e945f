import Mailroom.Proofs.DefaultCalls
import Mailroom.Proofs.Emptying

/-!
# A task that runs down

Once a task is told to end its main loop comes to its end, whatever the mail does that it runs, and however deep yields are nested. The
proof is an induction on the mail that is left, since each run of a mail uses up one; and for each mail on its body, since what the body
asks for comes back to it. `Sure` is what is proved of each point on the way: the thread is sure to arrive from there. `rundown` is the
result.
-/

namespace Mailroom

variable {σ ν : Type}

/-! ## Bodies that wait for no handle -/

/-- The request does not wait for a handle. -/
def Request.isIndependent : Request → Bool
  | wait _ => false
  | _ => true

/-- However the body goes on, it waits for no handle. What it sends and what it starts is left aside: the one is turned away, and the
other are threads of their own. -/
def Body.Independent : Body σ ν → Prop
  | finish _ => True
  | read k => ∀ s, (k s).Independent
  | write _ next => next.Independent
  | self k => ∀ i, (k i).Independent
  | pause next => next.Independent
  | fork _ next => next.Independent
  | post _ _ k => ∀ r, (k r).Independent
  | submit _ _ _ k => ∀ r, (k r).Independent
  | call _ q k => q.isIndependent = true ∧ ∀ r, (k r).Independent

/-- What the mail does waits for no handle. -/
def Mail.Independent (m : Letter σ ν) : Prop :=
  match m.action.work with
  | .nothing => True
  | .run b => b.Independent
  | .capture _ b => b.Independent

/-! ## A task that runs down -/

/-- The task is told to end: it accepts no mail and calls no default action. No mail that is left, nor the handler, waits for a handle;
and thread `t` is the mailbox thread, and awake. -/
structure Ebbing (t : ThreadId) (w : World σ ν) : Prop where
  possible : w.Possible
  owner : t = w.task.mailbox.owner
  awake : w.task.mailbox.isAsleep t = false
  mailbox : w.task.mailbox.status ≠ .accepting
  processor : w.task.processor.status ≠ .running
  stock : ∀ m ∈ w.task.stock, m.Independent
  handler : ∀ e, (w.task.processor.handler e).Independent

/-- The handler stays the same. -/
theorem Tended.handler {w : Task σ ν} {me : ThreadId} {th : Thread σ ν} {n : Next σ ν} (h : Tended w me th n) :
    n.1.processor.handler = w.processor.handler := by
  cases h with
  | same processor | counted processor | signalled _ processor | suspended processor | resumed _ _ _ processor | calmed _ processor
  | closed _ processor | locked processor | filed _ _ _ _ processor | ignored _ _ _ processor | collected _ processor => rw [processor]

namespace World

variable {a b w : World σ ν} {t i : ThreadId} {pick : Nat} {th : Thread σ ν} {n : Next σ ν}

/-- A step of a world in which the mailbox accepts no more mail leaves no more mail than there was. -/
theorem Stepped.spends (hs : Stepped a i pick th n b) (possible : a.Possible) (shut : a.task.mailbox.status ≠ .accepting) :
    Spends a.task th.stage n :=
  hs.turn.spends possible.orderly shut (possible.tidy i th hs.thread)

/-- A task that runs down goes on running down, whoever takes the next step. -/
theorem Stepped.ebbing (hs : Stepped a i pick th n b) (h : Ebbing t a) : Ebbing t b := by
  have reach : a.Reach b := Reach.here.step hs.step?_eq
  exact {
    possible := h.possible.reach reach
    owner := h.owner.trans reach.owner.symm
    awake := hs.sleepless h.possible h.mailbox h.awake
    mailbox := reach.not_accepting h.mailbox
    processor := reach.not_running h.processor
    stock := by
      rw [hs.task]
      exact fun m hm => h.stock m ((hs.spends h.possible h.mailbox).stock.subset hm)
    handler := by
      rw [hs.task, hs.tended.handler]
      exact h.handler }

/-- While thread `t` takes no step the task runs down all the same, and there is no more mail left than there was. -/
theorem Meanwhile.ebbing (ha : w.Meanwhile t a) (h : Ebbing t w) : Ebbing t a ∧ a.task.stock.length ≤ w.task.stock.length := by
  refine ha.invariant (P := fun x => Ebbing t x ∧ x.task.stock.length ≤ w.task.stock.length) ⟨h, Nat.le_refl _⟩ ?_ ?_
  · intro x i pick th n y _ ⟨ebbing, less⟩ hs
    refine ⟨hs.ebbing ebbing, Nat.le_trans ?_ less⟩
    rw [hs.task]
    exact (hs.spends ebbing.possible ebbing.mailbox).stock.length_le
  · intro x i ⟨ebbing, less⟩
    have same : (x.stirred i).task.stock = x.task.stock := rfl
    exact ⟨⟨ebbing.possible.reach (Reach.here.next (.stir i) rfl), ebbing.owner, isAsleep_stirred ebbing.awake i, ebbing.mailbox,
      ebbing.processor, ebbing.stock, ebbing.handler⟩, by rw [same]; exact less⟩

end World

/-- Thread `t`, wherever it stands at `th` while the task runs down and at most `n` mails are left, comes to a point that `P` describes. A
mail that it is about to run counts as left. -/
def Sure (t : ThreadId) (P : World σ ν → Prop) (n : Nat) (th : Thread σ ν) : Prop :=
  ∀ w : World σ ν, Ebbing t w → w.threads[t]? = some th → w.task.stock.length + th.stage.mail?.toList.length ≤ n →
    (∀ m, th.stage.mail? = some m → m.Independent) → w.Arrives t (·.Ready t) World.Anyhow P

namespace Sure

variable {t : ThreadId} {P : World σ ν → Prop} {n : Nat} {th : Thread σ ν} {stage next : Stage σ ν} {stack : List (Frame σ ν)}

/-- Who arrives with so many mails left arrives with fewer. -/
theorem mono {n' : Nat} (h : Sure t P n th) (le : n' ≤ n) : Sure t P n' th :=
  fun w ebbing hx few fine => h w ebbing hx (Nat.le_trans few le) fine

/-- A step of the thread itself, which nothing keeps it from. -/
theorem of_steps (ready : ∀ w : World σ ν, Ebbing t w → w.threads[t]? = some ⟨stage, stack⟩ → w.Ready t)
    (rest : ∀ {w : World σ ν} {pick nx b}, Ebbing t w → w.task.stock.length + stage.mail?.toList.length ≤ n →
      (∀ m, stage.mail? = some m → m.Independent) → w.Stepped t pick ⟨stage, stack⟩ nx b → b.Arrives t (·.Ready t) World.Anyhow P) :
    Sure t P n ⟨stage, stack⟩ := by
  intro w ebbing hx few fine
  refine .step (fun a ha => ready a (ha.ebbing ebbing).1 (ha.thread hx)) (fun _ _ _ _ _ => trivial) fun a pick b ha hstep => ?_
  obtain ⟨ebbing', less⟩ := ha.ebbing ebbing
  obtain ⟨th, nx, hs⟩ := World.step?_eq_some hstep
  obtain rfl : th = ⟨stage, stack⟩ := Option.some.inj (hs.thread.symm.trans (ha.thread hx))
  exact rest ebbing' (Nat.le_trans (Nat.add_le_add_right less _) few) fine hs

/-- The same, where the thread is sure to arrive from wherever the step leads it. -/
theorem of_turn (ready : ∀ w : World σ ν, Ebbing t w → w.threads[t]? = some ⟨stage, stack⟩ → w.Ready t)
    (rest : ∀ {w : World σ ν} {pick nx}, Ebbing t w → (∀ m, stage.mail? = some m → m.Independent) →
      Thread.Turn w.task t pick stack stage nx → Sure t P n nx.2) : Sure t P n ⟨stage, stack⟩ := by
  refine of_steps ready fun {w pick nx b} ebbing few fine hs => ?_
  have spends := hs.spends ebbing.possible ebbing.mailbox
  refine rest ebbing fine hs.turn b (hs.ebbing ebbing) hs.own ?_ fun m hm => ?_
  · rw [hs.task]
    exact Nat.le_trans spends.load few
  · cases spends with
    | same stock mail =>
      rcases mail with mail | mail
      · rw [mail] at hm; cases hm
      · exact fine m (mail.symm.trans hm)
    | begun m' stock mail =>
      obtain rfl : m' = m := Option.some.inj (mail.symm.trans hm)
      exact ebbing.stock m' (stock.subset List.mem_cons_self)

/-- The same again, for a stage whose step is always there. -/
theorem step (always : ∀ (task : Task σ ν) pick, (Thread.stepStage task t pick stack stage).isSome = true)
    (rest : ∀ {w : World σ ν} {pick nx}, Ebbing t w → (∀ m, stage.mail? = some m → m.Independent) →
      Thread.Turn w.task t pick stack stage nx → Sure t P n nx.2) : Sure t P n ⟨stage, stack⟩ :=
  of_turn (fun w ebbing hx => .inl (World.able_of_stepStage hx ebbing.awake fun pick => always w.task pick)) rest

/-! ### Sections -/

/-- To wake all sleepers takes one step. -/
theorem wakeAll (h : Sure t P n ⟨next, stack⟩) : Sure t P n ⟨.wakeAll next, stack⟩ :=
  .step (fun _ _ => rfl) fun _ _ turn => by cases turn; exact h

/-- The mail goes one by one. -/
theorem drop {ms : List (Letter σ ν)} (h : Sure t P n ⟨next, stack⟩) : Sure t P n ⟨.drop ms next, stack⟩ := by
  induction ms with
  | nil => exact .step (fun _ _ => rfl) fun _ _ turn => by cases turn; exact h
  | cons m ms ih => exact .step (fun _ _ => rfl) fun _ _ turn => by cases turn; exact ih

/-- To mark the task as closed takes one step. -/
theorem markClosed (h : Sure t P n ⟨next, stack⟩) : Sure t P n ⟨.markClosed next, stack⟩ :=
  .step (fun _ _ => rfl) fun _ _ turn => by cases turn; exact h

/-- To close the mailbox, wake all sleepers and drop what was queued comes to an end, since what was queued does. -/
theorem shut (h : Sure t P n ⟨next, stack⟩) : Sure t P n ⟨.shut next, stack⟩ :=
  .step (fun _ _ => rfl) fun _ _ turn => by
    cases turn with
    | shut => exact h.drop.wakeAll
    | shutBefore => exact h

/-- Whoever waits for the lock of the report waits for a thread that can free it. -/
theorem ready_of_lock {w : World σ ν} (ebbing : Ebbing t w) (hx : w.threads[t]? = some ⟨stage, stack⟩)
    (mine : ∀ e, stage ≠ .fileReport e)
    (step : w.task.processor.reportLock = none → ∀ pick, (Thread.stepStage w.task t pick stack stage).isSome = true) : w.Ready t := by
  by_cases free : w.task.processor.reportLock = none
  · exact .inl (World.able_of_stepStage hx ebbing.awake (step free))
  · obtain ⟨i, ⟨stage', stack'⟩, hi, hd⟩ := ebbing.possible.debt (d := .unlock) free
    obtain ⟨e, rfl⟩ : ∃ e, stage' = .fileReport e := by
      cases stage' with
      | fileReport e => exact ⟨e, rfl⟩
      | _ => cases hd
    have awake := ebbing.possible.awake hi rfl nofun
    have hs : w.Stepped i 0 ⟨.fileReport e, stack'⟩ _ _ := ⟨hi, awake, rfl, rfl⟩
    refine .inr ⟨free, i, e, stack', _, fun hit => ?_, hi, hs.step?_eq, ?_⟩
    · subst hit
      exact mine e (congrArg Thread.stage (Option.some.inj (hx.symm.trans hi)))
    · rw [hs.task]
      by_contra held
      exact hs.turn.pays (d := .unlock) rfl held

/-- Whoever files a report closes the task and then the mailbox. -/
theorem fileReport {e : Failure} (h : Sure t P n ⟨.answer .done, stack⟩) : Sure t P n ⟨.fileReport e, stack⟩ :=
  .step (fun _ _ => rfl) fun _ _ turn => by cases turn <;> exact h.shut.markClosed

/-- Whoever reports a failure waits for the lock at most. -/
theorem lockReport {e : Failure} (h : Sure t P n ⟨.answer .done, stack⟩) : Sure t P n ⟨.lockReport e, stack⟩ := by
  refine .of_turn (fun w ebbing hx => ready_of_lock ebbing hx nofun fun free pick => ?_) fun _ _ turn => ?_
  · simp [Thread.stepStage, Thread.stepLockReport, free]
  · cases turn; exact h.fileReport

end Sure

/-! ### Frames -/

/-- A thread is sure to arrive from whatever comes to the innermost frame, a reply or a panic. -/
structure Receives (t : ThreadId) (P : World σ ν → Prop) (n : Nat) (stack : List (Frame σ ν)) : Prop where
  reply : ∀ r, Sure t P n ⟨.answer r, stack⟩
  panic : ∀ p, Sure t P n ⟨.unwind p, stack⟩

/-- A thread is sure to arrive from the end of the body that runs above the frames, however it ends. -/
structure Concludes (t : ThreadId) (P : World σ ν → Prop) (n : Nat) (stack : List (Frame σ ν)) : Prop where
  ends : ∀ e, Sure t P n ⟨.run (.finish e), stack⟩
  panic : ∀ p, Sure t P n ⟨.unwind p, stack⟩

section

variable {t : ThreadId} {P : World σ ν → Prop} {n : Nat} {stack : List (Frame σ ν)}

/-- The same with fewer mails left. -/
theorem Receives.mono {n' : Nat} (h : Receives t P n stack) (le : n' ≤ n) : Receives t P n' stack :=
  ⟨fun r => (h.reply r).mono le, fun p => (h.panic p).mono le⟩

/-- A call hands its reply to the body that made it, and a panic too if the call is guarded. -/
theorem Receives.caller {guarded : Bool} {q : Request} {k : Reply ν → Body σ ν} (on : ∀ r, Sure t P n ⟨.run (k r), stack⟩)
    (h : Concludes t P n stack) : Receives t P n (.caller guarded q k :: stack) where
  reply r := .step (fun _ _ => rfl) fun _ _ turn => by cases turn; exact on r
  panic p := .step (fun _ _ => by cases guarded <;> rfl) fun _ _ turn => by
    cases turn with
    | guarded => exact on _
    | unwound => exact h.panic p
    | broken h => cases h

/-- A put hands its reply to the body that made it. -/
theorem Receives.sender {k : Reply ν → Body σ ν} (on : ∀ r, Sure t P n ⟨.run (k r), stack⟩) (h : Concludes t P n stack) :
    Receives t P n (.sender k :: stack) where
  reply r := .step (fun _ _ => rfl) fun _ _ turn => by cases turn; exact on r
  panic p := .step (fun _ _ => rfl) fun _ _ turn => by
    cases turn with
    | unwound => exact h.panic p
    | broken h => cases h

/-- A yield passes on what comes of the mail it ran. -/
theorem Receives.yield {patient : Bool} (h : Receives t P n stack) : Receives t P n (.yield patient :: stack) where
  reply r := .step (fun _ _ => by cases r <;> rfl) fun _ _ turn => by
    cases turn with
    | yielded => exact h.reply _
    | passed => exact h.reply r
  panic p := .step (fun _ _ => rfl) fun _ _ turn => by
    cases turn with
    | unwound => exact h.panic p
    | broken h => cases h

/-- What comes of the end of a body, where the panic that ends it comes to the same. -/
theorem Concludes.of_ended {f : Frame σ ν} (always : ∀ (task : Task σ ν) e, (Thread.stepEnd task e (f :: stack)).isSome = true)
    (own : ¬Thread.LetsThrough f) (guarding : ∀ q k, f ≠ .caller true q k)
    (after : ∀ {task : Task σ ν} {e nx}, Thread.Ended task e (f :: stack) nx → Sure t P n nx.2) : Concludes t P n (f :: stack) where
  ends e := .step (fun task _ => always task e) fun _ _ turn => by cases turn with | ended h => exact after h
  panic p := by
    refine .step (fun task _ => ?_) fun _ _ turn => ?_
    · cases f with
      | caller guarded q k =>
        cases guarded with
        | true => exact absurd rfl (guarding q k)
        | false => exact absurd trivial own
      | sender | yield | serve => exact absurd trivial own
      | action | capture | default | handler => exact always task (.panicked p)
    · cases turn with
      | guarded => exact absurd rfl (guarding _ _)
      | unwound through => exact absurd through own
      | broken h => exact after h

/-- The end of a mail is told to whoever runs the mail. -/
theorem Concludes.action {i : Ticket} {d : Description} {caught : Bool} (h : Receives t P n stack) :
    Concludes t P n (.action i d caught :: stack) :=
  .of_ended (fun _ _ => rfl) nofun nofun fun ended => by
    cases ended with
    | returned | failed | caught => exact h.reply _
    | escaped => exact h.panic _

/-- The end of a submitted mail is told to its handle, and whoever runs the mail sees it go well. -/
theorem Concludes.capture {j : HandleId} {i : Ticket} {d : Description} (h : Receives t P n stack) :
    Concludes t P n (.capture j i d :: stack) :=
  .of_ended (fun _ _ => rfl) nofun nofun fun ended => by cases ended; exact h.reply _

/-- The end of the handler ends the call that failed. -/
theorem Concludes.handler {why : Failure} (h : Receives t P n stack) : Concludes t P n (.handler why :: stack) :=
  .of_ended (fun _ _ => rfl) nofun nofun fun {_ e _} ended => by
    cases ended
    cases e with
    | returned | failed => exact h.reply _
    | panicked => exact h.panic _

/-! ### Bodies and mail -/

/-- A body is sure to come to its end if at most `n` mails are left; it runs for the main loop. -/
def Runs (t : ThreadId) (P : World σ ν → Prop) (n : Nat) : Prop :=
  ∀ (b : Body σ ν) stack, b.Independent → stack.any Frame.isServing = true → Concludes t P n stack → Sure t P n ⟨.run b, stack⟩

/-- The run of a mail uses the mail up, so there is less left for the body of the mail, and for all that comes after it. -/
theorem Sure.launch {m : Letter σ ν} {caught : Bool} (busy : stack.any Frame.isServing = true) (runs : ∀ n' < n, Runs t P n')
    (h : ∀ n' < n, Receives t P n' stack) : Sure t P n ⟨.launch m caught, stack⟩ := by
  refine .of_steps (fun w ebbing hx => .inl (World.able_of_stepStage hx ebbing.awake fun _ => rfl)) ?_
  intro w pick nx b ebbing few fine hs
  have ebbing' := hs.ebbing ebbing
  have less := (hs.spends ebbing.possible ebbing.mailbox).stock.length_le
  have few : w.task.stock.length + 1 ≤ n := few
  obtain ⟨n, rfl⟩ := Nat.exists_eq_succ_of_ne_zero (Nat.ne_of_gt (Nat.lt_of_lt_of_le (Nat.succ_pos _) few))
  rw [← hs.task] at less
  have left : b.task.stock.length ≤ n := Nat.le_trans less (Nat.le_of_succ_le_succ few)
  have lower := h n (Nat.lt_succ_self n)
  -- Wherever the launch leads, the thread is about to run no mail.
  suffices sure : Sure t P n nx.2 ∧ nx.2.stage.mail? = none by
    refine sure.1 b ebbing' hs.own ?_ ?_ <;> rw [sure.2]
    · exact left
    · exact nofun
  have body : ∀ b, (m.action.work = .run b ∨ ∃ j, m.action.work = .capture j b) → b.Independent := by
    intro b work
    have := fine m rfl
    rcases work with work | ⟨j, work⟩ <;> simpa [Mail.Independent, work] using this
  have busy' : ∀ f : Frame σ ν, (f :: stack).any Frame.isServing = true := fun f => by rw [List.any_cons, busy, Bool.or_true]
  have turn := hs.turn
  cases turn with
  | rang | skipped => exact ⟨lower.reply _, rfl⟩
  | launched _ _ b _ work => exact ⟨runs n (Nat.lt_succ_self n) b _ (body b (.inl work)) (busy' _) (.action lower), rfl⟩
  | captured _ _ j b _ work => exact ⟨runs n (Nat.lt_succ_self n) b _ (body b (.inr ⟨j, work⟩)) (busy' _) (.capture lower), rfl⟩

namespace Sure

/-- A put is turned away at once, since no more mail is accepted. -/
theorem offer {m : Letter σ ν} {slept : Bool} {receipt : Receipt} (h : Receives t P n stack) :
    Sure t P n ⟨.offer m slept receipt, stack⟩ :=
  .step (fun _ _ => rfl) fun ebbing _ turn => by
    cases turn with
    | accepted _ _ _ _ was | waited _ _ _ _ was => exact absurd was ebbing.mailbox
    | refused => exact h.reply _

/-- A take by hand gets mail or is told that there is none. It does not wait, since no more mail can come. -/
theorem hold {choice : Choice} {patient : Bool} (h : Receives t P n stack) : Sure t P n ⟨.take choice patient .hold, stack⟩ :=
  .step (fun _ _ => rfl) fun ebbing _ turn => by
    cases turn with
    | taken | shutOut | missed => exact h.reply _
    | drained => cases choice <;> exact h.reply _
    | rested _ _ _ was => exact absurd was ebbing.mailbox

/-- A yield does not wait. It runs a mail, after which there is one less, or has its reply. -/
theorem yield {choice : Choice} {patient : Bool} (busy : stack.any Frame.isServing = true) (runs : ∀ n' < n, Runs t P n')
    (h : Receives t P n stack) : Sure t P n ⟨.take choice patient .yield, stack⟩ :=
  .step (fun _ _ => rfl) fun ebbing _ turn => by
    cases turn with
    | taken => exact launch busy runs fun _ less => h.yield.mono (Nat.le_of_lt less)
    | shutOut | missed => exact h.reply _
    | drained => cases choice <;> exact h.reply _
    | rested _ _ _ was => exact absurd was ebbing.mailbox

/-- To quiesce the mailbox does not wait for anything. -/
theorem quiesceMailbox (h : Receives t P n stack) : Sure t P n ⟨.quiesceMailbox, stack⟩ :=
  .step (fun _ _ => rfl) fun _ _ turn => by
    cases turn with
    | quiesced => exact (h.reply _).wakeAll
    | quiescedBefore => exact h.reply _

/-- To close the mailbox and take what was queued into the hand does not wait for anything. -/
theorem surrender (h : Receives t P n stack) : Sure t P n ⟨.surrender, stack⟩ :=
  .step (fun _ _ => rfl) fun _ _ turn => by
    cases turn with
    | surrendered => exact (h.reply _).wakeAll
    | surrenderedBefore => exact h.reply _

/-- To quiesce the task does not wait for anything. -/
theorem quiesceTask (h : Receives t P n stack) : Sure t P n ⟨.quiesceTask, stack⟩ :=
  .step (fun _ _ => rfl) fun _ _ turn => by
    cases turn with
    | calmed => exact quiesceMailbox h
    | calmedBefore => exact h.reply _

/-- Wherever a request leads, if it does not wait for a handle. -/
theorem called {w : Task σ ν} {below : List (Frame σ ν)} {q : Request} {x : Task σ ν × Stage σ ν} (h : Thread.Called w t below q x)
    (hq : q.isIndependent = true) (busy : below.any Frame.isServing = true) (busy' : stack.any Frame.isServing = true)
    (runs : ∀ n' < n, Runs t P n') (receives : Receives t P n stack) : Sure t P n ⟨x.2, stack⟩ := by
  cases h with
  | taking => exact hold receives
  | yielding => exact yield busy' runs receives
  | running => exact launch busy' runs fun _ less => receives.mono (Nat.le_of_lt less)
  | puttingBack | rousing => exact offer receives
  | quiescingMailbox => exact quiesceMailbox receives
  | closingMailbox => exact surrender receives
  | quiescing => exact quiesceTask receives
  | reporting => exact (receives.reply _).lockReport
  | closing free | looping _ free | stepping _ free => rw [free] at busy; cases busy
  | waiting => cases hq
  | misusing => exact receives.panic _
  | answered | discarding | displaying | telling | watching | polling | cancelling | suspending | resuming | interrupting =>
    exact receives.reply _

end Sure

/-- Every body is sure to come to its end: by induction on the mail that is left, and then on the body. -/
theorem runs (n : Nat) : Runs t P n := by
  induction n using Nat.strong_induction_on with
  | _ n fewer =>
    intro b
    induction b with
    | finish e => exact fun _ _ _ h => h.ends e
    | read k ih =>
      intro stack fine busy h
      exact .step (fun _ _ => rfl) fun _ _ turn => by cases turn; exact ih _ stack (fine _) busy h
    | self k ih =>
      intro stack fine busy h
      exact .step (fun _ _ => rfl) fun _ _ turn => by cases turn; exact ih _ stack (fine _) busy h
    | write _ next ih | pause next ih | fork _ next _ ih =>
      intro stack fine busy h
      exact .step (fun _ _ => rfl) fun _ _ turn => by cases turn; exact ih stack fine busy h
    | post _ _ k _ ih | submit _ _ _ k _ ih =>
      intro stack fine busy h
      exact .step (fun _ _ => rfl) fun _ _ turn => by cases turn; exact .offer (.sender (fun r => ih r stack (fine r) busy h) h)
    | call guarded q k ih =>
      intro stack fine busy h
      refine .step (fun _ _ => rfl) fun _ _ turn => ?_
      cases turn with
      | called _ _ _ called =>
        have busy' : (Frame.caller guarded q k :: stack).any Frame.isServing = true := by rw [List.any_cons, busy, Bool.or_true]
        exact .called called fine.1 busy busy' fewer (.caller (fun r => ih r stack (fine.2 r) busy h) h)

/-! ### The main loop -/

namespace Sure

/-- The handler is called, and comes to an end like any body. -/
theorem alarm {e : Failure} (h : Receives t P n stack) : Sure t P n ⟨.alarm e, stack⟩ :=
  .step (fun _ _ => rfl) fun ebbing _ turn => by
    cases turn
    exact runs n _ _ (ebbing.handler e) rfl (.handler h)

/-- A call that fails closes everything, calls the handler, and is back. -/
theorem abort {e : Failure} (h : Receives t P n stack) : Sure t P n ⟨.abort e, stack⟩ := (alarm h).shut.markClosed

/-- A call that comes to its good end waits for the lock of the report at most; if there is a report after all, it fails. -/
theorem windUp (h : Receives t P n stack) : Sure t P n ⟨.windUp, stack⟩ := by
  refine markClosed (.of_turn (fun w ebbing hx => ready_of_lock ebbing hx nofun fun free pick => ?_) fun _ _ turn => ?_)
  · cases report : w.task.processor.report <;> simp [Thread.stepStage, Thread.stepCollect, free, report]
  · cases turn with
    | collected => exact abort h
    | finished => exact h.reply _

/-- The main loop after a mail. -/
theorem receives_serve (h : Receives t P n stack) (again : Sure t P n ⟨.consult, stack⟩) : Receives t P n (.serve true :: stack) where
  reply r := .step (fun _ _ => by cases r <;> rfl) fun _ _ turn => by
    cases turn with
    | aborted => exact abort h
    | looped => exact again
  panic p := .step (fun _ _ => rfl) fun _ _ turn => by
    cases turn with
    | unwound => exact h.panic p
    | broken h => cases h

/-- The main loop is sure to come to its end: each turn of it uses up a mail. -/
theorem consult (h : Receives t P n stack) : Sure t P n ⟨.consult, stack⟩ := by
  induction n using Nat.strong_induction_on with
  | _ n again =>
    have serve : ∀ m, Sure t P n ⟨.serve m true, stack⟩ := fun m => .step (fun _ _ => rfl) fun _ _ turn => by
      cases turn
      refine launch rfl (fun n' _ => runs n') fun n' less => ?_
      have lower := h.mono (Nat.le_of_lt less)
      exact receives_serve lower (again n' less lower)
    have take : Sure t P n ⟨.take .oldest true .loop, stack⟩ := .step (fun _ _ => rfl) fun ebbing _ turn => by
      cases turn with
      | taken m => exact serve m
      | shutOut => exact windUp h
      | drained => exact (windUp h).shut
      | rested _ _ _ was => exact absurd was ebbing.mailbox
    have status : Sure t P n ⟨.consultStatus, stack⟩ := .step (fun _ _ => rfl) fun ebbing _ turn => by
      cases turn
      simpa [Thread.stepConsultStatus, ebbing.processor] using take
    exact .step (fun _ _ => by simp only [Thread.stepStage, Option.isSome_some]) fun _ _ turn => by
      cases turn with
      | willing => exact status
      | idle => exact take

end Sure

end

/-! ## The whole -/

namespace World

variable {a b w : World σ ν} {t i : ThreadId} {base : List (Frame σ ν)}

/-- A call of the main loop while the task runs down. -/
theorem arrives_of_loop {guarded : Bool} {k : Reply ν → Body σ ν} {stack : List (Frame σ ν)} (ebbing : Ebbing t w)
    (hx : w.threads[t]? = some ⟨.run (.call guarded .loop k), stack⟩) (free : stack.any Frame.isServing = false) :
    w.Arrives t (·.Ready t) Anyhow (·.IsBack t (.caller guarded .loop k :: stack)) := by
  have back : Receives t (·.IsBack t (.caller guarded .loop k :: stack)) w.task.stock.length (.caller guarded .loop k :: stack) :=
    ⟨fun r w _ hx _ _ => .here (.inl ⟨r, hx⟩), fun p w _ hx _ _ => .here (.inr ⟨p, hx⟩)⟩
  have call : Sure t (·.IsBack t (.caller guarded .loop k :: stack)) w.task.stock.length ⟨.run (.call guarded .loop k), stack⟩ := by
    refine .of_steps (fun w ebbing hx => .inl (able_of_stepStage hx ebbing.awake fun _ => rfl)) fun {a pick nx b} ebbing few _ hs => ?_
    have step := hs.step
    simp only [Thread.stepStage, Thread.stepBody, Thread.call_loop ebbing.owner free] at step
    cases step
    refine Sure.consult back b (hs.ebbing ebbing) hs.own ?_ fun _ hm => by cases hm
    rw [hs.task]
    exact few
  exact call w ebbing hx (Nat.le_refl _) fun _ hm => by cases hm

/-- A task that is not running calls no default action, unless its main loop is about to do so. -/
theorem Reach.calls_eq (h : w.Reach b) (possible : w.Possible) (ended : w.task.processor.status ≠ .running)
    (calm : ∀ (i : ThreadId) th, w.threads[i]? = some th → th.stage.isTrying = false) : b.task.calls = w.task.calls := by
  have kept : b.task.calls = w.task.calls ∧ ∀ (i : ThreadId) th, b.threads[i]? = some th → th.stage.isTrying = false := by
    refine h.invariant (P := fun x => x.task.calls = w.task.calls ∧
      ∀ (i : ThreadId) th, x.threads[i]? = some th → th.stage.isTrying = false) ⟨rfl, calm⟩ ?_ fun _ ih => ih
    intro x i pick th n y before ⟨same, calm⟩ hs
    refine ⟨?_, fun j z hz => ?_⟩
    · rcases hs.calls with calls | ⟨calling, -⟩
      · exact calls.trans same
      · have := calm i th hs.thread
        rw [calling] at this
        cases this
    · rcases hs.thread_cases hz with ⟨-, rfl⟩ | ⟨-, hz⟩ | ⟨program, rfl⟩
      · refine Bool.eq_false_iff.mpr fun trying => ?_
        rcases (hs.running_of_trying (possible.reach before) trying).2 with trying | running
        · cases (calm i th hs.thread).symm.trans trying
        · exact before.not_running ended running
      · exact calm j z hz
      · rfl
  exact kept.1

/-- What is so of a call of the main loop, whose reply comes to the frames `base`. -/
structure RunsDown (w : World σ ν) (t : ThreadId) (base : List (Frame σ ν)) : Prop where
  /-- The call comes back after finitely many steps, whatever other threads do. -/
  comes : w.Arrives t (·.Ready t) Anyhow (·.IsBack t base)
  /-- And so it does when it is left alone. -/
  alone : w.AtRest → ∃ n b, w.moves (List.replicate n (.step t 0)) = some b ∧ b.IsBack t base
  /-- Until then no more mail is taken than was queued, by the loop itself and by all yields together. -/
  taken : ∀ b, w.During t base b → b.task.taken.length ≤ w.task.taken.length + w.task.mailbox.length
  /-- And the default action is not called. -/
  calls : ∀ b, w.During t base b → b.task.calls = w.task.calls

/-- At rest, a task that does not run any more has a mailbox that accepts no more mail. -/
theorem AtRest.not_accepting (rest : w.AtRest) (possible : w.Possible) (ended : w.task.processor.status ≠ .running) :
    w.task.mailbox.status ≠ .accepting := by
  intro accepting
  cases status : w.task.processor.status with
  | running => exact ended status
  | quiescing => exact rest.paid possible .quiesceMailbox ⟨status, accepting⟩
  | closed => exact rest.paid possible .closeMailbox ⟨status, by rw [accepting]; nofun⟩

/-- What is so of a task that is told to end. -/
structure Rundown (w : World σ ν) : Prop where
  drains : w.task.mailbox.status ≠ .accepting → w.Drains
  /-- A call of the main loop runs down, whatever default action there is, if nobody is in the middle of ending the task, or the mailbox
  accepts no mail already, and if neither the mail that is left nor the handler waits for handles. -/
  loop : w.task.processor.status ≠ .running → w.AtRest ∨ w.task.mailbox.status ≠ .accepting →
    (∀ m ∈ w.task.stock, m.Independent) → (∀ e, (w.task.processor.handler e).Independent) →
    ∀ t guarded k stack, t = w.task.mailbox.owner → w.threads[t]? = some ⟨.run (.call guarded .loop k), stack⟩ →
      stack.any Frame.isServing = false → w.RunsDown t (.caller guarded .loop k :: stack)

end World

/-- Once the mailbox accepts no mail nothing waits at it, and once the task is told to end its main loop comes to its end, with no more
mail taken than was queued. -/
theorem rundown {w : World σ ν} (possible : w.Possible) : w.Rundown where
  drains shut := possible.drains shut
  loop ended settled stock handler t guarded k stack owner hx free := by
    have shut : w.task.mailbox.status ≠ .accepting := settled.elim (fun rest => rest.not_accepting possible ended) id
    have arrives := World.arrives_of_loop ⟨possible, owner, possible.awake hx rfl nofun, shut, ended, stock, handler⟩ hx free
    refine ⟨arrives, fun rest => arrives.alone fun i th _ => rest i th, fun b during => ?_, fun b during => ?_⟩
    · obtain ⟨-, flow⟩ := during.reach.drains possible shut
      rw [← World.length_queued]
      exact Nat.le_trans (Nat.le_add_right _ _) flow
    · refine during.reach.calls_eq possible ended fun i th hi => Bool.eq_false_iff.mpr fun trying => ?_
      -- Only the mailbox thread could be about to call it, and that one is about to call the loop.
      have serving : 0 < th.servings := Nat.add_pos_right _ (Stage.servings_pos_of_isWilling (Stage.isWilling_of_isTrying trying))
      obtain rfl : i = t := ((possible.serving hi).2 serving).trans owner.symm
      obtain rfl : th = _ := Option.some.inj (hi.symm.trans hx)
      cases trying

/-- A task with default work. Its thread sends a mail that yields and one to yield to, ends the task, and runs the main loop. -/
def quiescedTask : World Unit Nat :=
  .start (.new ⟨2⟩ 0 (some (.finish (.returned 0))) (fun _ => .finish (.returned 0)) ())
    [.post ⟨⟨"yields", []⟩, .empty, 0⟩ (.call false (.yield .lowest true) fun _ => .finish (.returned 1)) fun _ =>
      .post ⟨⟨"yielded to", []⟩, .empty, 0⟩ (.finish (.returned 2)) fun _ =>
        .call false .quiesce fun _ => .call false .loop fun _ => .finish (.returned 0)]

/-- Two mails are left in a mailbox that was quiesced, and the call of the main loop comes to its end. -/
theorem rundown_of_quiescedTask : ∃ w : World Unit Nat, quiescedTask.moves (List.replicate 11 (.step 0 0)) = some w ∧ w.Drains ∧
    w.task.mailbox.length = 2 ∧ w.RunsDown 0 [.caller false .loop fun _ => .finish (.returned 0)] := by
  have possible : quiescedTask.Possible := ⟨⟨2⟩, 0, _, _, (), _, .here⟩
  refine ⟨_, rfl, ?_, rfl, ?_⟩
  · exact (rundown (possible.reach (.of_moves (List.replicate 11 (.step 0 0)) rfl))).drains nofun
  · refine (rundown (possible.reach (.of_moves (List.replicate 11 (.step 0 0)) rfl))).loop nofun (.inr nofun) ?_ (fun _ => trivial)
      0 false _ [] rfl rfl rfl
    exact List.forall_mem_cons.mpr ⟨⟨rfl, fun _ => trivial⟩, List.forall_mem_cons.mpr ⟨trivial, List.forall_mem_nil _⟩⟩

end Mailroom
