import Mathlib.Data.List.Perm.Subperm
import Mailroom.Proofs.Arrival
import Mailroom.Proofs.Waiting

/-!
# A mailbox that accepts no mail

Once a mailbox accepts no mail, whether it is quiesced or closed, nothing comes into it, and nobody falls asleep over it: every put and
every take goes past it (`Drains`). What can still be run is what is queued and what is in hand (`Task.stock`), and each mail that a
thread comes to run is one less of these (`Spends`).
-/

namespace Mailroom

variable {σ ν : Type}

/-! ## The mail that is left -/

/-- The mail that may still be run: what is queued, and what is in hand. -/
def Task.stock (w : Task σ ν) : List (Letter σ ν) := w.queued ++ w.hand

/-- The mail that the thread is about to run. -/
def Stage.mail? : Stage σ ν → Option (Letter σ ν)
  | launch m _ => some m
  | serve m _ => some m
  | _ => none

/-- A thread that goes on to end a call runs no mail next. -/
theorem Stage.mail?_of_isClosing {s : Stage σ ν} (h : s.isClosing = true) : s.mail? = none := by
  cases s <;> first | rfl | cases h

/-- What a step does to the mail that is left: there is no more of it, and a mail that is newly about to be run is no longer part of it. -/
inductive Spends (w : Task σ ν) (stage : Stage σ ν) (n : Next σ ν) : Prop where
  | same (stock : List.Subperm n.1.stock w.stock) (mail : n.2.stage.mail? = none ∨ n.2.stage.mail? = stage.mail?)
  | begun (m : Letter σ ν) (stock : List.Subperm (m :: n.1.stock) w.stock) (mail : n.2.stage.mail? = some m)

namespace Spends

variable {w : Task σ ν} {stage : Stage σ ν} {n : Next σ ν}

/-- There is no more mail left than before. -/
theorem stock (h : Spends w stage n) : List.Subperm n.1.stock w.stock := by
  cases h with
  | same stock => exact stock
  | begun m stock => exact (List.sublist_cons_self m _).subperm.trans stock

/-- Nor is there more if the mail that the thread is about to run is counted. -/
theorem load (h : Spends w stage n) :
    n.1.stock.length + n.2.stage.mail?.toList.length ≤ w.stock.length + stage.mail?.toList.length := by
  cases h with
  | same stock mail =>
    have := stock.length_le
    rcases mail with mail | mail <;> rw [mail]
    · exact Nat.le_trans (by simpa using this) (Nat.le_add_right _ _)
    · exact Nat.add_le_add_right this _
  | begun m stock mail =>
    rw [mail]
    exact Nat.le_trans (by simpa using stock.length_le) (Nat.le_add_right _ _)

end Spends

namespace Thread

variable {w : Task σ ν} {me : ThreadId} {pick : Nat} {stack : List (Frame σ ν)} {stage : Stage σ ν} {n : Next σ ν}

/-- What is left depends on the lanes and the hand alone. -/
theorem stock_eq {w w' : Task σ ν} (lanes : w'.mailbox.lanes = w.mailbox.lanes) (hand : w'.hand = w.hand) : w'.stock = w.stock := by
  rw [Task.stock, Task.queued, lanes, hand, Task.stock, Task.queued]

theorem subperm_of_eq {w w' : Task σ ν} (lanes : w'.mailbox.lanes = w.mailbox.lanes) (hand : w'.hand = w.hand) :
    List.Subperm w'.stock w.stock := by
  rw [stock_eq lanes hand]

/-- Mail that leaves the hand is no longer part of what is left. -/
theorem stock_letGo {t : Ticket} {m : Letter σ ν} (held : w.held? t = some m) : w.stock.Perm (m :: (w.letGo t).stock) :=
  ((Task.hand_perm_of_held? held).1.append_left w.queued).trans List.perm_middle

/-- A request adds no mail to what is left: a put that begins has its mail with the thread. -/
theorem Called.spends {q : Request} {n : Task σ ν × Stage σ ν} (h : Called w me stack q n) (guarded : Bool) (k : Reply ν → Body σ ν) :
    Spends w (.run (.call guarded q k)) (n.1, ⟨n.2, .caller guarded q k :: stack⟩) := by
  cases h with
  | running t m held => exact .begun m (stock_letGo held).symm.subperm rfl
  | discarding t m held =>
    refine .same ?_ (.inl rfl)
    have left : ((w.letGo t).drop m).stock = (w.letGo t).stock := stock_eq (by simp) (by simp)
    rw [left]
    exact (List.sublist_cons_self m _).subperm.trans (stock_letGo held).symm.subperm
  | puttingBack t m held =>
    exact .same ((List.sublist_cons_self m _).subperm.trans (stock_letGo held).symm.subperm) (.inl rfl)
  | _ => exact .same (subperm_of_eq rfl rfl) (.inl rfl)

/-- The end of a body leaves the mail alone. -/
theorem Ended.spends {e : Ending ν} (h : Ended w e stack n) : Spends w stage n := by
  cases h with
  | captured h t d e | default e | handler why e =>
    cases e with
    | returned | failed | panicked => exact .same (subperm_of_eq rfl rfl) (.inl rfl)
  | _ => exact .same (subperm_of_eq rfl rfl) (.inl rfl)

/-- While the mailbox accepts no mail, every step spends. -/
theorem Turn.spends (h : Turn w me pick stack stage n) (orderly : w.mailbox.Orderly) (shut : w.mailbox.status ≠ .accepting)
    (tidy : stage.isTidy = true) : Spends w stage n := by
  cases h with
  | ended h | broken h => exact h.spends
  | called guarded q k h => exact h.spends guarded k
  | accepted _ _ _ _ was | waited _ _ _ _ was | rested _ _ _ was | quiesced _ was => exact absurd was shut
  | refused m => exact .same (subperm_of_eq (by simp) (by simp)) (.inl rfl)
  | taken m choice patient purpose l stack was pop =>
    have left : w.stock.Perm (m :: (l.toList ++ w.hand)) := (perm_of_pop orderly.wellFormed pop).append_right w.hand
    cases purpose with
    | hold =>
      have held : (l.toList ++ (w.hand ++ [m])).Perm (m :: (l.toList ++ w.hand)) := by
        rw [← List.append_assoc]
        exact List.perm_append_singleton m _
      exact .same (held.trans left.symm).subperm (.inl rfl)
    | yield | step | loop => exact .begun m left.symm.subperm rfl
  | shutOut _ _ purpose | missed _ purpose => cases purpose <;> exact .same (subperm_of_eq rfl rfl) (.inl rfl)
  | drained choice purpose => cases choice <;> cases purpose <;> exact .same (subperm_of_eq rfl rfl) (.inl rfl)
  | skipped m => exact .same (subperm_of_eq (by simp) (by simp)) (.inl rfl)
  | served m => exact .same (subperm_of_eq rfl rfl) (.inr rfl)
  | surrendered =>
    have moved : (w.mailbox.lanes.cleared.toList ++ (w.hand ++ w.queued)).Perm w.stock := by
      rw [Lanes.toList_cleared, List.nil_append]
      exact List.perm_append_comm
    exact .same moved.subperm (.inl rfl)
  | shut next =>
    have kept : List.Sublist (w.mailbox.lanes.cleared.toList ++ w.hand) w.stock := by
      rw [Lanes.toList_cleared, List.nil_append]
      exact List.sublist_append_right _ _
    exact .same kept.subperm (.inl rfl)
  | shutBefore next => exact .same (subperm_of_eq rfl rfl) (.inl (Stage.mail?_of_isClosing tidy))
  | woke next => exact .same (subperm_of_eq rfl rfl) (.inl (Stage.mail?_of_isClosing tidy))
  | dropped m => exact .same (subperm_of_eq (by simp) (by simp)) (.inl rfl)
  | disposed next | marked next => exact .same (subperm_of_eq rfl rfl) (.inl (Stage.mail?_of_isClosing tidy))
  | _ => exact .same (subperm_of_eq rfl rfl) (.inl rfl)

end Thread

/-! ## At the mailbox -/

/-- One thing done to a mailbox that accepts no mail takes mail out of it at most. -/
theorem Traffic.drains {me : ThreadId} {a b : Task σ ν} {s s' : Stage σ ν} (h : Traffic me a s b s') (orderly : a.mailbox.Orderly)
    (shut : a.mailbox.status ≠ .accepting) :
    a.taken.length ≤ b.taken.length ∧ b.taken.length + b.queued.length ≤ a.taken.length + a.queued.length := by
  have same : b.mailbox.wakeAll = a.mailbox.wakeAll → b.taken = a.taken →
      a.taken.length ≤ b.taken.length ∧ b.taken.length + b.queued.length ≤ a.taken.length + a.queued.length := by
    intro mailbox taken
    have queued : b.queued = a.queued := congrArg (fun x => x.lanes.toList) mailbox
    rw [taken, queued]
    exact ⟨Nat.le_refl _, Nat.le_refl _⟩
  cases h with
  | quiet mailbox journal => exact same mailbox (by rw [Task.taken, journal, Task.taken])
  | begun m mailbox journal => exact same mailbox (by rw [Task.taken, journal, history_cons_of_none rfl, Task.taken])
  | refused m mailbox journal => exact same mailbox (by rw [Task.taken, journal, history_cons_of_none rfl, Task.taken])
  | quiesced was | entered _ was => exact absurd was shut
  | left m choice purpose l was pop mailbox journal =>
    have taken : b.taken = a.taken ++ [(m, purpose)] := Task.taken_of_entry journal
    have queued : b.queued = l.toList := congrArg (fun x => x.lanes.toList) mailbox
    have left : a.queued.length = l.toList.length + 1 := (Thread.perm_of_pop orderly.wellFormed pop).length_eq
    rw [taken, queued, left, List.length_append, List.length_singleton]
    omega
  | emptied was mailbox journal =>
    have taken : b.taken = a.taken := by rw [Task.taken, journal, history_cons_of_none rfl, Task.taken]
    have queued : b.queued = [] := (congrArg (fun x => x.lanes.toList) mailbox).trans (Lanes.toList_cleared _)
    rw [taken, queued]
    exact ⟨Nat.le_refl _, Nat.le_add_right _ _⟩

/-- The request puts mail into the mailbox or takes mail out of it. -/
def Request.exchanges : Request → Bool
  | take _ _ => true
  | yield _ _ => true
  | putBack _ => true
  | step => true
  | resume _ => true
  | _ => false

/-- A thread that puts or takes mail: it is about to make a call that does so, whose reply comes to the frames `base`, or it is at the
mailbox. -/
inductive Exchanging : Thread σ ν → List (Frame σ ν) → Prop where
  | post (envelope : Envelope) (action : Body σ ν) (k : Reply ν → Body σ ν) (stack : List (Frame σ ν)) :
    Exchanging ⟨.run (.post envelope action k), stack⟩ (.sender k :: stack)
  | submit (description : Description) (priority : Priority) (action : Body σ ν) (k : Reply ν → Body σ ν)
    (stack : List (Frame σ ν)) : Exchanging ⟨.run (.submit description priority action k), stack⟩ (.sender k :: stack)
  | call (guarded : Bool) (q : Request) (k : Reply ν → Body σ ν) (stack : List (Frame σ ν)) (hq : q.exchanges = true) :
    Exchanging ⟨.run (.call guarded q k), stack⟩ (.caller guarded q k :: stack)
  | putting (m : Letter σ ν) (slept : Bool) (receipt : Receipt) (stack : List (Frame σ ν)) :
    Exchanging ⟨.offer m slept receipt, stack⟩ stack
  | taking (choice : Choice) (patient : Bool) (purpose : Purpose) (stack : List (Frame σ ν)) :
    Exchanging ⟨.take choice patient purpose, stack⟩ stack

/-- A thread that is past the mailbox: its call has a reply, or it goes on to run the mail that it took, or it is in the main loop, which
goes on or ends. -/
inductive Past (base : List (Frame σ ν)) : Thread σ ν → Prop where
  | told (r : Reply ν) : Past base ⟨.answer r, base⟩
  | yielding (m : Letter σ ν) (patient : Bool) : Past base ⟨.launch m false, .yield patient :: base⟩
  | serving (m : Letter σ ν) (whole : Bool) : Past base ⟨.serve m whole, base⟩
  | idling : Past base ⟨.callDefault, base⟩
  | leaving : Past base ⟨.windUp, base⟩
  | closing : Past base ⟨.shut .windUp, base⟩

namespace Thread

variable {w : Task σ ν} {me : ThreadId} {pick : Nat} {base : List (Frame σ ν)} {n : Next σ ν}

/-- A put is turned away. -/
theorem Turn.past_offer {m : Letter σ ν} {slept : Bool} {receipt : Receipt} (h : Turn w me pick base (.offer m slept receipt) n)
    (shut : w.mailbox.status ≠ .accepting) : Past base n.2 := by
  cases h with
  | accepted _ _ _ _ was | waited _ _ _ _ was => exact absurd was shut
  | refused => exact .told _

/-- A take finds a mail, or finds that there is none to wait for. -/
theorem Turn.past_take {choice : Choice} {patient : Bool} {purpose : Purpose}
    (h : Turn w me pick base (.take choice patient purpose) n) (shut : w.mailbox.status ≠ .accepting) : Past base n.2 := by
  cases h with
  | taken m =>
    cases purpose with
    | hold => exact .told _
    | yield => exact .yielding m patient
    | step => exact .serving m false
    | loop => exact .serving m true
  | shutOut =>
    cases purpose with
    | loop => exact .leaving
    | hold | yield | step => exact .told _
  | missed =>
    cases purpose with
    | loop => exact .idling
    | hold | yield | step => exact .told _
  | drained =>
    cases choice with
    | oldest =>
      cases purpose with
      | loop => exact .closing
      | hold | yield | step => exact .told _
    | eligible p => exact .told _
  | rested _ _ _ was => exact absurd was shut

/-- A call that puts or takes mail has its reply at once, or is at the mailbox then. -/
theorem call_exchanging (w : Task σ ν) (me : ThreadId) (stack : List (Frame σ ν)) {q : Request} (hq : q.exchanges = true) :
    (∃ r, (call w me stack q).2 = .answer r) ∨ Exchanging ⟨(call w me stack q).2, base⟩ base := by
  have duty : ∀ duty choice patient purpose, (∃ r, onDuty w me duty (.take choice patient purpose) = .answer r) ∨
      Exchanging ⟨onDuty w me duty (.take choice patient purpose : Stage σ ν), base⟩ base := by
    intro duty choice patient purpose
    rcases onDuty_cases w me duty (.take choice patient purpose) with h | h
    · rw [h]
      exact .inr (.taking ..)
    · exact .inl ⟨_, h⟩
  cases q with
  | take choice patient => exact duty ..
  | yield p patient => exact duty ..
  | putBack t =>
    rw [call, withHeld]
    split
    · exact .inr (.putting ..)
    · exact .inl ⟨_, rfl⟩
  | step =>
    rw [call, exclusive]
    split
    · rcases onDuty_cases w me .runStep (.answer .unavailable) with h | h
      · exact .inl ⟨_, h⟩
      · exact .inl ⟨_, h⟩
    · exact duty ..
  | resume s =>
    rw [call, callResume]
    dsimp only
    split
    · exact .inr (.putting ..)
    · exact .inl ⟨_, rfl⟩
  | _ => cases hq

end Thread

namespace World

variable {a b w : World σ ν} {t i : ThreadId} {pick : Nat} {th : Thread σ ν} {n : Next σ ν} {base : List (Frame σ ν)}

/-- A mailbox that accepts no mail never does so again. -/
theorem Reach.not_accepting (h : a.Reach b) (shut : a.task.mailbox.status ≠ .accepting) : b.task.mailbox.status ≠ .accepting := by
  intro accepting
  have forward := h.mailbox_forward
  rw [accepting] at forward
  exact shut (Mailbox.Status.eq_accepting_of_rank_le forward)

/-- Nobody falls asleep over a mailbox that accepts no mail. -/
theorem Stepped.sleepless (hs : Stepped a t pick th n b) (possible : a.Possible) (shut : a.task.mailbox.status ≠ .accepting)
    (awake : a.task.mailbox.isAsleep i = false) : b.task.mailbox.isAsleep i = false := by
  obtain ⟨hsenders, htakers⟩ : i ∉ a.task.mailbox.senders ∧ i ∉ a.task.mailbox.takers := by simpa [Mailbox.isAsleep] using awake
  suffices h : i ∉ b.task.mailbox.senders ∧ i ∉ b.task.mailbox.takers by simpa [Mailbox.isAsleep] using h
  rw [hs.task]
  cases hs.turn.toSleep (possible.tidy t th hs.thread) with
  | quiet mailbox => rw [mailbox]; exact ⟨hsenders, htakers⟩
  | entered _ was | sent was | rested _ _ was => exact absurd was shut
  | left _ _ _ _ mailbox =>
    rw [mailbox]
    exact ⟨fun hi => hsenders ((Mailbox.wakeOne_sublist _ _).subset hi), htakers⟩
  | ended _ senders takers => rw [senders, takers]; exact ⟨hsenders, htakers⟩
  | woke _ mailbox => rw [mailbox]; exact ⟨List.not_mem_nil, List.not_mem_nil⟩

/-- To wake for no reason puts nobody to sleep. -/
theorem isAsleep_stirred (awake : a.task.mailbox.isAsleep i = false) (t : ThreadId) : (a.stirred t).task.mailbox.isAsleep i = false := by
  obtain ⟨hsenders, htakers⟩ : i ∉ a.task.mailbox.senders ∧ i ∉ a.task.mailbox.takers := by simpa [Mailbox.isAsleep] using awake
  suffices h : i ∉ a.task.mailbox.senders.erase t ∧ i ∉ a.task.mailbox.takers.erase t by
    simpa [stirred, Mailbox.stir, Mailbox.isAsleep] using h
  exact ⟨fun hi => hsenders (List.mem_of_mem_erase hi), fun hi => htakers (List.mem_of_mem_erase hi)⟩

/-- While no mail is accepted, who is awake stays awake. -/
theorem Reach.sleepless (h : a.Reach b) (possible : a.Possible) (shut : a.task.mailbox.status ≠ .accepting)
    (awake : a.task.mailbox.isAsleep i = false) : b.task.mailbox.isAsleep i = false := by
  refine h.invariant (P := fun x => x.task.mailbox.isAsleep i = false) awake (fun before ih hs => ?_) fun _ ih => isAsleep_stirred ih _
  exact hs.sleepless (possible.reach before) (before.not_accepting shut) ih

/-- The mail that is queued only becomes less, and what is taken out of it comes out of what was there. -/
theorem Reach.drains (h : a.Reach b) (possible : a.Possible) (shut : a.task.mailbox.status ≠ .accepting) :
    a.task.taken.length ≤ b.task.taken.length ∧
      b.task.taken.length + b.task.queued.length ≤ a.task.taken.length + a.task.queued.length := by
  refine h.invariant (P := fun x => a.task.taken.length ≤ x.task.taken.length ∧
    x.task.taken.length + x.task.queued.length ≤ a.task.taken.length + a.task.queued.length) ⟨Nat.le_refl _, Nat.le_refl _⟩ ?_
    fun _ ih => ih
  intro x i pick th n y before ih hs
  have more := hs.traffic.drains (possible.reach before).orderly (before.not_accepting shut)
  exact ⟨Nat.le_trans ih.1 more.1, Nat.le_trans more.2 ih.2⟩

/-- The length of the mailbox counts the mail that is queued. -/
theorem length_queued (w : World σ ν) : w.task.queued.length = w.task.mailbox.length := by
  rw [Task.queued, Lanes.length_toList, Mailbox.length]

/-- A thread that is at the mailbox, and awake, is past it after one step. -/
theorem Possible.passes (possible : w.Possible) (shut : w.task.mailbox.status ≠ .accepting) (awake : w.task.mailbox.isAsleep t = false)
    {stage : Stage σ ν} (hx : w.threads[t]? = some ⟨stage, base⟩)
    (place : (∃ m slept receipt, stage = .offer m slept receipt) ∨ ∃ choice patient purpose, stage = .take choice patient purpose) :
    w.Arrives t (·.Able t) Anyhow (fun x => ∃ th, x.threads[t]? = some th ∧ Past base th) := by
  refine .step (fun a ha => ?_) (fun _ _ _ _ _ => trivial) fun a pick b ha hstep => .here ?_
  · refine able_of_stepStage (ha.thread hx) (ha.reach.sleepless possible shut awake) fun pick => ?_
    rcases place with ⟨m, slept, receipt, rfl⟩ | ⟨choice, patient, purpose, rfl⟩ <;> rfl
  · obtain ⟨th, n, hs⟩ := step?_eq_some hstep
    obtain rfl : th = ⟨stage, base⟩ := Option.some.inj (hs.thread.symm.trans (ha.thread hx))
    refine ⟨n.2, hs.own, ?_⟩
    rcases place with ⟨m, slept, receipt, rfl⟩ | ⟨choice, patient, purpose, rfl⟩
    · exact hs.turn.past_offer (ha.reach.not_accepting shut)
    · exact hs.turn.past_take (ha.reach.not_accepting shut)

/-- A put or a take is past the mailbox after at most two steps, none of which it has to wait for. -/
theorem Possible.past (possible : w.Possible) (shut : w.task.mailbox.status ≠ .accepting) (awake : w.task.mailbox.isAsleep t = false)
    (hx : w.threads[t]? = some th) (exchanging : Exchanging th base) :
    w.Arrives t (·.Able t) Anyhow (fun x => ∃ th, x.threads[t]? = some th ∧ Past base th) := by
  -- The first step of a call, where `next` is the stage that it leads to.
  have call : ∀ {body : Body σ ν} {stack}, w.threads[t]? = some ⟨.run body, stack⟩ →
      (∀ (task : Task σ ν), ∃ task' next, Thread.stepBody task t stack body = some (task', ⟨next, base⟩) ∧
        ((∃ r, next = .answer r) ∨ Exchanging ⟨next, base⟩ base)) →
      w.Arrives t (·.Able t) Anyhow (fun x => ∃ th, x.threads[t]? = some th ∧ Past base th) := by
    intro body stack hx first
    refine .step (fun a ha => ?_) (fun _ _ _ _ _ => trivial) fun a pick b ha hstep => ?_
    · refine able_of_stepStage (ha.thread hx) (ha.reach.sleepless possible shut awake) fun pick => ?_
      obtain ⟨task', next, hnext, -⟩ := first a.task
      rw [Thread.stepStage, hnext]
      rfl
    · obtain ⟨th, n, hs⟩ := step?_eq_some hstep
      obtain rfl : th = ⟨.run body, stack⟩ := Option.some.inj (hs.thread.symm.trans (ha.thread hx))
      obtain ⟨task', next, hnext, after⟩ := first a.task
      have hn := hs.step
      rw [Thread.stepStage, hnext] at hn
      cases hn
      have reach : w.Reach b := ha.reach.step hstep
      rcases after with ⟨r, rfl⟩ | place
      · exact .here ⟨_, hs.own, .told r⟩
      · refine (possible.reach reach).passes (reach.not_accepting shut) (reach.sleepless possible shut awake) hs.own ?_
        cases place with
        | putting m slept receipt => exact .inl ⟨m, slept, receipt, rfl⟩
        | taking choice patient purpose => exact .inr ⟨choice, patient, purpose, rfl⟩
  cases exchanging with
  | post envelope action k stack => exact call hx fun _ => ⟨_, _, rfl, .inr (.putting ..)⟩
  | submit description priority action k stack => exact call hx fun _ => ⟨_, _, rfl, .inr (.putting ..)⟩
  | call guarded q k stack hq => exact call hx fun task => ⟨_, _, rfl, Thread.call_exchanging task t stack hq⟩
  | putting m slept receipt => exact possible.passes shut awake hx (.inl ⟨m, slept, receipt, rfl⟩)
  | taking choice patient purpose => exact possible.passes shut awake hx (.inr ⟨choice, patient, purpose, rfl⟩)

/-- What is so once the mailbox accepts no mail. -/
structure Drains (w : World σ ν) : Prop where
  /-- The mailbox only becomes emptier. -/
  shrinks : ∀ a b, w.Reach a → a.Reach b → b.task.mailbox.length ≤ a.task.mailbox.length
  /-- A put or a take, of any thread, is past the mailbox after finitely many steps of the thread, none of which it has to wait for. -/
  passes : ∀ a i th base, w.Reach a → a.threads[i]? = some th → Exchanging th base → a.task.mailbox.isAsleep i = false →
    a.Arrives i (·.Able i) Anyhow (fun x => ∃ th, x.threads[i]? = some th ∧ Past base th)
  /-- Nobody falls asleep any more. -/
  sleepless : ∀ a b i, w.Reach a → a.Reach b → b.task.mailbox.isAsleep i = true → a.task.mailbox.isAsleep i = true
  /-- And whoever fell asleep before is woken by the next step of some thread. -/
  woken : ∀ a i, w.Reach a → a.task.mailbox.isAsleep i = true →
    ∃ j b, a.step? j 0 = some b ∧ ∀ i, b.task.mailbox.isAsleep i = false

/-- So much holds from the moment on at which the mailbox accepts no more mail. -/
theorem Possible.drains (possible : w.Possible) (shut : w.task.mailbox.status ≠ .accepting) : w.Drains where
  shrinks a b wa ab := by
    obtain ⟨more, flow⟩ := ab.drains (possible.reach wa) (wa.not_accepting shut)
    rw [← length_queued, ← length_queued]
    omega
  passes a i th base wa hx exchanging awake := (possible.reach wa).past (wa.not_accepting shut) awake hx exchanging
  sleepless a b i wa ab asleep := by
    by_contra awake
    have := ab.sleepless (possible.reach wa) (wa.not_accepting shut) (Bool.eq_false_iff.mpr awake)
    rw [asleep] at this
    cases this
  woken a i wa asleep := by
    have someone : a.task.mailbox.senders ≠ [] ∨ a.task.mailbox.takers ≠ [] := by
      by_contra nobody
      push Not at nobody
      simp [Mailbox.isAsleep, nobody] at asleep
    obtain ⟨j, ⟨stage, stack⟩, hj, waking⟩ := (possible.reach wa).waking (wa.not_accepting shut) someone
    cases stage with
    | wakeAll next =>
      have awake := (possible.reach wa).awake hj rfl fun retrying => by cases retrying
      have hs : a.Stepped j 0 ⟨.wakeAll next, stack⟩ _ _ := ⟨hj, awake, rfl, rfl⟩
      refine ⟨j, _, hs.step?_eq, fun i => ?_⟩
      simp [Thread.stepWakeAll, Mailbox.wakeAll, Mailbox.isAsleep]
    | _ => cases waking

end World

end Mailroom
