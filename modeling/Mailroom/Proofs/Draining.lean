import Mailroom.Proofs.Alone

/-!
# A task that ends in good order

A task is ending in good order (`Draining`) when it takes no more mail, nobody reports a failure, and no mail that is left closes the
mailbox or reports one (`Peaceful`). A mail that runs then leaves the task ending in good order, and brings nothing into the mailbox: what
it takes out is gone, and what it sends is turned away (`Draining.comes`).
-/

namespace Mailroom

variable {σ ν : Type}

/-! ## Bodies that leave the end of the task alone -/

/-- The request neither closes the mailbox nor reports a failure. -/
def Request.isPeaceful : Request → Bool
  | closeMailbox => false
  | report _ => false
  | _ => true

/-- However the body goes on, it neither closes the mailbox nor reports a failure. What it sends and what it starts is left aside: a
mailbox that is quiesced turns the one away, and the other are threads of their own. -/
def Body.Peaceful : Body σ ν → Prop
  | finish _ => True
  | read k => ∀ s, (k s).Peaceful
  | write _ next => next.Peaceful
  | self k => ∀ i, (k i).Peaceful
  | pause next => next.Peaceful
  | fork _ next => next.Peaceful
  | post _ _ k => ∀ r, (k r).Peaceful
  | submit _ _ _ k => ∀ r, (k r).Peaceful
  | call _ q k => q.isPeaceful = true ∧ ∀ r, (k r).Peaceful

/-- What the mail does is peaceful. -/
def Mail.Peaceful (m : Letter σ ν) : Prop :=
  match m.action.work with
  | .nothing => True
  | .run b => b.Peaceful
  | .capture _ b => b.Peaceful

/-- The stages that a peaceful body comes to. -/
def Stage.Peaceful : Stage σ ν → Prop
  | run b => b.Peaceful
  | answer _ => True
  | unwind _ => True
  | offer .. => True
  | take _ _ purpose => purpose = .hold ∨ purpose = .yield
  | launch m _ => m.Peaceful
  | quiesceMailbox => True
  | quiesceTask => True
  | await _ => True
  | _ => False

/-- What is to be done with the frame is peaceful. -/
def Frame.Peaceful : Frame σ ν → Prop
  | caller _ _ k => ∀ r, (k r).Peaceful
  | sender k => ∀ r, (k r).Peaceful
  | action .. => True
  | capture .. => True
  | yield _ => True
  | _ => False

/-- A mail runs for the main loop (`whole`) or for a step from the frames `base`, and all that runs above it is peaceful. -/
inductive Calm (whole : Bool) (base : List (Frame σ ν)) : List (Frame σ ν) → Prop where
  | mail : Calm whole base (.serve whole :: base)
  | above {f : Frame σ ν} (hf : f.Peaceful) {stack : List (Frame σ ν)} (h : Calm whole base stack) : Calm whole base (f :: stack)

/-- Such a mail runs for the main loop or a step, as the frames show. -/
theorem Calm.any_isServing {whole : Bool} {base stack : List (Frame σ ν)} (h : Calm whole base stack) :
    stack.any Frame.isServing = true := by
  induction h with
  | mail => rfl
  | above hf h ih => rw [List.any_cons, ih, Bool.or_true]

/-! ## A task that ends in good order -/

/-- The task is ending in good order: it takes no more mail, and nobody reports a failure; all mail that is left is peaceful; and thread
`me` is the mailbox thread, and awake. -/
structure Draining (me : ThreadId) (w : Task σ ν) : Prop where
  owner : me = w.mailbox.owner
  awake : w.mailbox.isAsleep me = false
  orderly : w.mailbox.Orderly
  mailbox : w.mailbox.status = .quiesced
  processor : w.processor.status = .quiescing
  report : w.processor.report = none
  lock : w.processor.reportLock = none
  queue : ∀ m ∈ w.queued, m.Peaceful
  hand : ∀ m ∈ w.hand, m.Peaceful

/-- The mailbox is quiesced, and not closed yet. -/
theorem Draining.not_closed {me : ThreadId} {w : Task σ ν} (h : Draining me w) : w.mailbox.status ≠ .closed := by
  rw [h.mailbox]
  simp

/-- What becomes of mailbox and hand where a thread does something peaceful while the task is ending in good order. -/
inductive Gentle (w w' : Task σ ν) : Prop where
  | same (mailbox : w'.mailbox = w.mailbox) (hand : ∀ m ∈ w'.hand, m ∈ w.hand)
  | took (m : Letter σ ν) (choice : Choice) (l : Lanes (Job σ ν)) (pick : Nat) (pop : w.mailbox.lanes.pop choice = some (m, l))
    (mailbox : w'.mailbox = { w.mailbox with
      lanes := l
      senders := Mailbox.wakeOne pick w.mailbox.senders })
    (hand : ∀ x ∈ w'.hand, x ∈ w.hand ∨ x = m)

namespace Gentle

variable {w w' : Task σ ν}

/-- Nothing comes into the mailbox. -/
theorem queued (h : Gentle w w') (orderly : w.mailbox.Orderly) :
    (∀ m ∈ w'.queued, m ∈ w.queued) ∧ w'.queued.length ≤ w.queued.length := by
  cases h with
  | same mailbox =>
    rw [Task.queued, mailbox]
    exact ⟨fun _ => id, Nat.le_refl _⟩
  | took m choice l pick pop mailbox =>
    have perm : w.queued.Perm (m :: w'.queued) := by
      rw [Task.queued, Task.queued, mailbox]
      exact Thread.perm_of_pop orderly.wellFormed pop
    exact ⟨fun x hx => perm.mem_iff.mpr (List.mem_cons_of_mem m hx), by rw [perm.length_eq]; exact Nat.le_succ _⟩

/-- What comes into the hand was queued. -/
theorem hand (h : Gentle w w') (orderly : w.mailbox.Orderly) : ∀ m ∈ w'.hand, m ∈ w.hand ∨ m ∈ w.queued := by
  cases h with
  | same _ hand => exact fun m hm => .inl (hand m hm)
  | took m choice l pick pop _ hand =>
    have mem : m ∈ w.queued := (Thread.perm_of_pop orderly.wellFormed pop).mem_iff.mpr List.mem_cons_self
    intro x hx
    rcases hand x hx with hx | rfl
    · exact .inl hx
    · exact .inr mem

/-- Nobody falls asleep. -/
theorem awake (h : Gentle w w') {t : ThreadId} (awake : w.mailbox.isAsleep t = false) : w'.mailbox.isAsleep t = false := by
  cases h with
  | same mailbox => rw [mailbox]; exact awake
  | took m choice l pick pop mailbox =>
    obtain ⟨hsenders, htakers⟩ : t ∉ w.mailbox.senders ∧ t ∉ w.mailbox.takers := by simpa [Mailbox.isAsleep] using awake
    have hwoken : t ∉ Mailbox.wakeOne pick w.mailbox.senders := fun ht => hsenders ((Mailbox.wakeOne_sublist _ _).subset ht)
    simp [mailbox, Mailbox.isAsleep, hwoken, htakers]

/-- Nobody closes the mailbox or opens it. -/
theorem status (h : Gentle w w') : w'.mailbox.status = w.mailbox.status := by
  cases h with
  | same mailbox | took _ _ _ _ _ mailbox => rw [mailbox]

end Gentle

/-! ## Steps -/

namespace Thread

variable {w : Task σ ν} {me : ThreadId} {pick : Nat} {whole : Bool} {base stack : List (Frame σ ν)} {stage : Stage σ ν} {n : Next σ ν}

/-- To let a mail go puts nothing into the hand. -/
theorem letGo_hand_subset (t : Ticket) : ∀ m ∈ (w.letGo t).hand, m ∈ w.hand := fun _ => List.mem_of_mem_eraseP

/-- A peaceful call leads to a peaceful stage, and is gentle. -/
theorem Called.peaceful {q : Request} {n : Task σ ν × Stage σ ν} (h : Called w me stack q n) (hq : q.isPeaceful = true)
    (calm : Calm whole base stack) (draining : Draining me w) : n.2.Peaceful ∧ Gentle w n.1 := by
  have busy := calm.any_isServing
  have same : Gentle w w := .same rfl fun _ => id
  cases h with
  | reporting | closingMailbox => cases hq
  | closing free | looping _ free | stepping _ free => cases free.symm.trans busy
  | taking => exact ⟨.inl rfl, same⟩
  | yielding => exact ⟨.inr rfl, same⟩
  | running t m held => exact ⟨draining.hand m (List.mem_of_find?_eq_some held), .same rfl (letGo_hand_subset t)⟩
  | discarding t m => exact ⟨trivial, .same (by simp) (by simpa using letGo_hand_subset t)⟩
  | puttingBack t => exact ⟨trivial, .same rfl (letGo_hand_subset t)⟩
  | _ => exact ⟨trivial, .same rfl fun _ => id⟩

/-- The end of a mail that runs above the first one leads to a peaceful stage as well, and is gentle. -/
theorem Ended.peaceful {e : Ending ν} (h : Ended w e stack n) (calm : Calm whole base stack) :
    n.2.stage.Peaceful ∧ Calm whole base n.2.stack ∧ Gentle w n.1 := by
  cases h with
  | returned | failed | caught | escaped =>
    cases calm with
    | above _ h => exact ⟨trivial, h, .same rfl fun _ => id⟩
  | captured h t d e =>
    cases calm with
    | above _ hstack =>
      cases e with
      | returned | failed | panicked => exact ⟨trivial, hstack, .same rfl fun _ => id⟩
  | default | handler =>
    cases calm with
    | above hf => cases hf

/-- A peaceful step comes to a peaceful stage, until there is a reply or a panic for the frame of the mail. -/
theorem Turn.peaceful (h : Turn w me pick stack stage n) (away : (⟨stage, stack⟩ : Thread σ ν).isAway (base.length + 1) = true)
    (peaceful : stage.Peaceful) (calm : Calm whole base stack) (draining : Draining me w) :
    n.2.stage.Peaceful ∧ Calm whole base n.2.stack ∧ Gentle w n.1 := by
  have same : Gentle w w := .same rfl fun _ => id
  cases h with
  | ended h | broken h => exact h.peaceful calm
  | called guarded q k h =>
    obtain ⟨hstage, gentle⟩ := h.peaceful peaceful.1 calm draining
    exact ⟨hstage, .above (f := .caller guarded q k) peaceful.2 calm, gentle⟩
  | read => exact ⟨peaceful _, calm, same⟩
  | named => exact ⟨peaceful _, calm, same⟩
  | wrote | paused | forked => exact ⟨peaceful, calm, .same rfl fun _ => id⟩
  | posted _ _ k | submitted _ _ _ k => exact ⟨trivial, .above (f := .sender k) peaceful calm, .same rfl fun _ => id⟩
  | replied guarded q k r | sent k r | guarded q k =>
    cases calm with
    | above hf h => exact ⟨hf _, h, same⟩
  | yielded patient | passed patient =>
    cases calm with
    | above _ h => exact ⟨trivial, h, same⟩
  | aborted | looped | stepped =>
    cases calm with
    | mail => simp [isAway] at away
    | above hf => cases hf
  | unwound =>
    cases calm with
    | mail => simp [isAway] at away
    | above _ h => exact ⟨trivial, h, same⟩
  | accepted _ _ _ _ was => rw [draining.mailbox] at was; cases was
  | refused m => exact ⟨trivial, calm, .same (by simp) fun x hx => by simpa using hx⟩
  | waited _ _ _ _ was => rw [draining.mailbox] at was; cases was
  | taken m choice patient purpose l stack was pop =>
    rcases peaceful with rfl | rfl
    · refine ⟨trivial, calm, .took m choice l pick pop rfl fun x hx => ?_⟩
      rcases List.mem_append.mp hx with hx | hx
      · exact .inl hx
      · exact .inr (List.mem_singleton.mp hx)
    · have mem : m ∈ w.queued := (perm_of_pop draining.orderly.wellFormed pop).mem_iff.mpr List.mem_cons_self
      exact ⟨draining.queue m mem, .above (f := .yield patient) trivial calm, .took m choice l pick pop rfl fun _ => .inl⟩
  | shutOut _ _ _ _ was => rw [draining.mailbox] at was; cases was
  | missed choice purpose => rcases peaceful with rfl | rfl <;> exact ⟨trivial, calm, same⟩
  | drained choice purpose => rcases peaceful with rfl | rfl <;> cases choice <;> exact ⟨trivial, calm, same⟩
  | rested _ _ _ was => rw [draining.mailbox] at was; cases was
  | rang => exact ⟨trivial, calm, same⟩
  | launched m caught b stack work =>
    have body : b.Peaceful := by simpa [Stage.Peaceful, Mail.Peaceful, work] using peaceful
    exact ⟨body, .above (f := .action ..) trivial calm, .same rfl fun _ => id⟩
  | captured m caught h b stack work =>
    have body : b.Peaceful := by simpa [Stage.Peaceful, Mail.Peaceful, work] using peaceful
    exact ⟨body, .above (f := .capture ..) trivial calm, .same rfl fun _ => id⟩
  | skipped m => exact ⟨trivial, calm, .same (by simp) fun x hx => by simpa using hx⟩
  | quiesced _ was => rw [draining.mailbox] at was; cases was
  | quiescedBefore => exact ⟨trivial, calm, same⟩
  | calmed _ was => rw [draining.processor] at was; cases was
  | calmedBefore => exact ⟨trivial, calm, same⟩
  | awaited | misused => exact ⟨trivial, calm, .same rfl fun _ => id⟩
  | _ => cases peaceful

end Thread

/-- A peaceful step of the mailbox thread leaves the task ending in good order. -/
theorem Draining.step {w : Task σ ν} {me : ThreadId} {pick : Nat} {stack : List (Frame σ ν)} {stage : Stage σ ν} {n : Next σ ν}
    (h : Draining me w) (step : Thread.stepStage w me pick stack stage = some n) (before : stage.Peaceful) (after : n.2.stage.Peaceful)
    (gentle : Gentle w n.1) : Draining me n.1 := by
  have traffic := (Thread.turn_stepStage step).toTraffic
  have tended := Thread.tended_stepStage step
  have status : n.1.processor.status = .quiescing := by
    rcases tended.status_cases with same | ⟨was, -, -⟩ | ⟨rfl, -⟩
    · exact same.trans h.processor
    · rw [h.processor] at was; cases was
    · cases before
  have report : n.1.processor.report = none := by
    rcases tended.report_cases with same | ⟨e, rfl, -⟩ | ⟨-, none⟩
    · exact same.trans h.report
    · cases before
    · exact none
  have lock : n.1.processor.reportLock = none := by
    rcases tended.lock_cases with same | ⟨e, filing⟩ | none
    · exact same.trans h.lock
    · rw [filing] at after; cases after
    · exact none
  exact {
    owner := h.owner.trans traffic.owner.symm
    awake := gentle.awake h.awake
    orderly := traffic.orderly h.orderly
    mailbox := gentle.status.trans h.mailbox
    processor := status
    report := report
    lock := lock
    queue := fun m hm => h.queue m ((gentle.queued h.orderly).1 m hm)
    hand := fun m hm => (gentle.hand h.orderly m hm).elim (h.hand m) (h.queue m) }

/-- What runs peacefully for the main loop or for a step leaves the task ending in good order, and no more mail in the mailbox than there
was. -/
theorem Draining.comes {w w' : Task σ ν} {me : ThreadId} {whole : Bool} {base : List (Frame σ ν)} {th : Thread σ ν}
    {programs : List (Body σ ν)} {r : Reply ν} (h : Draining me w)
    (comes : Thread.Comes me (.serve whole :: base) w th programs r w') (peaceful : th.stage.Peaceful) (calm : Calm whole base th.stack) :
    Draining me w' ∧ w'.queued.length ≤ w.queued.length := by
  induction comes with
  | back => exact ⟨h, Nat.le_refl _⟩
  | step away hstep rest ih =>
    obtain ⟨-, hstep⟩ := Thread.step_eq_some_iff.mp hstep
    obtain ⟨after, calm, gentle⟩ := (Thread.turn_stepStage hstep).peaceful away peaceful calm h
    obtain ⟨draining, fewer⟩ := ih (h.step hstep peaceful after gentle) after calm
    exact ⟨draining, Nat.le_trans fewer (gentle.queued h.orderly).2⟩

end Mailroom
