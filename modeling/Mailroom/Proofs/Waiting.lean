import Mailroom.Proofs.Delivery

/-!
# Waiting for each other

Senders sleep until a slot is free, and the mailbox thread sleeps until there is mail. `Sleep` is what a step does to the two lines of
sleepers. From that follows what holds all the time: who sleeps in a line sleeps over what the line is for (`Senders`, `Takers`); if
somebody sleeps at a mailbox that accepts no mail any more, somebody is about to wake all sleepers (`Possible.waking`); and if a sender
sleeps at one that does, the queued mail and the senders that were woken fill it between them (`Possible.crowded`).

`wait_for_mail`: the mailbox thread waits for mail only while there is room for it, and never waits for a sender that waits for it; but
for both a yield at a full mailbox is the exception. So `RestsWithRoom`, which knows no exception, is false (`restsWithRoom_false`).
-/

namespace Mailroom

variable {σ ν : Type}

/-! ## Lines of sleepers -/

namespace Mailbox

/-- To wake one sleeper adds nobody to the line. -/
theorem wakeOne_sublist (pick : Nat) (sleepers : List ThreadId) : (wakeOne pick sleepers).Sublist sleepers :=
  List.eraseIdx_sublist _ _

/-- One sleeper less, if there is one. -/
theorem length_wakeOne (pick : Nat) (sleepers : List ThreadId) : (wakeOne pick sleepers).length = sleepers.length - 1 := by
  unfold wakeOne
  rw [List.length_eraseIdx]
  split
  · rfl
  · rename_i h
    cases sleepers with
    | nil => rfl
    | cons t rest => exact absurd (Nat.mod_lt pick (Nat.succ_pos rest.length)) h

end Mailbox

/-! ## What comes after -/

namespace Stage

/-- The stage ends a call, or is one of the sections that lead to the end of it. -/
def isClosing : Stage σ ν → Bool
  | answer _ => true
  | surrender => true
  | collect => true
  | alarm _ => true
  | shut next => next.isClosing
  | wakeAll next => next.isClosing
  | drop _ next => next.isClosing
  | markClosed next => next.isClosing
  | _ => false

/-- What the stage goes on with, if it is made to go on with something. -/
def next? : Stage σ ν → Option (Stage σ ν)
  | shut next => some next
  | wakeAll next => some next
  | drop _ next => some next
  | markClosed next => some next
  | _ => none

/-- A stage that goes on with something goes on to end the call. -/
def isTidy (s : Stage σ ν) : Bool := s.next?.all isClosing

/-- What ends a call goes on with nothing but the end of the call. -/
theorem isTidy_of_isClosing {s : Stage σ ν} (h : s.isClosing = true) : s.isTidy = true := by
  cases s with
  | shut next | wakeAll next | drop ms next | markClosed next => exact h
  | _ => rfl

/-- The thread was asleep over a put, and may be so still. -/
def isRetrying : Stage σ ν → Bool
  | offer _ slept _ => slept
  | _ => false

/-- The thread is about to wake all sleepers. -/
def isWaking : Stage σ ν → Bool
  | wakeAll _ => true
  | _ => false

/-- The thread is about to take mail, or sleeps over that. -/
def isTake : Stage σ ν → Bool
  | take .. => true
  | _ => false

/-- At one stage a thread does one thing: it ends a call, or puts a mail, or takes one, or wakes the sleepers. -/
theorem not_isRetrying_of_isClosing {s : Stage σ ν} (h : s.isClosing = true) : s.isRetrying = false := by
  cases s <;> first | rfl | cases h

theorem not_isRetrying_of_isTake {s : Stage σ ν} (h : s.isTake = true) : s.isRetrying = false := by
  cases s <;> first | rfl | cases h

theorem not_isRetrying_of_isWaking {s : Stage σ ν} (h : s.isWaking = true) : s.isRetrying = false := by
  cases s <;> first | rfl | cases h

theorem not_isWaking_of_isTake {s : Stage σ ν} (h : s.isTake = true) : s.isWaking = false := by
  cases s <;> first | rfl | cases h

theorem not_isTake_of_isClosing {s : Stage σ ν} (h : s.isClosing = true) : s.isTake = false := by
  cases s <;> first | rfl | cases h

end Stage

namespace Thread

variable {w : Task σ ν} {me : ThreadId} {pick : Nat} {stack : List (Frame σ ν)}

/-- The end of a body leads to a reply, to a panic or to the way out. -/
theorem Ended.tidy {e : Ending ν} {n : Next σ ν} (h : Ended w e stack n) : n.2.stage.isTidy = true := by
  cases h with
  | default e | handler _ e =>
    cases e with
    | returned | failed | panicked => rfl
  | _ => rfl

/-- A turn leads to stages that go on to end the call, if they go on with anything. -/
theorem Turn.tidy {stage : Stage σ ν} {n : Next σ ν} (h : Turn w me pick stack stage n) (ht : stage.isTidy = true) :
    n.2.stage.isTidy = true := by
  cases h with
  | ended h | broken h => exact h.tidy
  | called guarded q k h => cases h <;> rfl
  | taken _ _ _ purpose => cases purpose <;> rfl
  | shutOut _ _ purpose | missed _ purpose => cases purpose <;> rfl
  | drained choice purpose => cases choice <;> cases purpose <;> rfl
  | shut | dropped => exact ht
  | shutBefore | woke | disposed | marked => exact Stage.isTidy_of_isClosing ht
  | _ => rfl

end Thread

namespace World

/-- So all threads stand at such stages, wherever a world can get. -/
theorem Possible.tidy {w : World σ ν} (h : w.Possible) : ∀ (i : ThreadId) th, w.threads[i]? = some th → th.stage.isTidy = true :=
  h.threads (P := fun _ _ th => th.stage.isTidy = true) (fun _ _ _ => rfl) fun _ hs => hs.turn.tidy

end World

/-! ## One step -/

/-- What a step of thread `me` does to the lines of sleepers. -/
inductive Sleep (me : ThreadId) (pick : Nat) (w : Task σ ν) (th : Thread σ ν) (n : Next σ ν) : Prop where
  | quiet (mailbox : n.1.mailbox = w.mailbox) (calm : n.2.stage.isRetrying = false)
    (was : th.stage.isRetrying = true → w.mailbox.status ≠ .accepting ∨ me = w.mailbox.owner) (waking : th.stage.isWaking = false)
  | entered (m : Letter σ ν) (was : w.mailbox.status = .accepting)
    (mailbox : n.1.mailbox = { w.mailbox with
      lanes := w.mailbox.lanes.push m
      takers := Mailbox.wakeOne pick w.mailbox.takers })
    (calm : n.2.stage.isRetrying = false) (waking : th.stage.isWaking = false)
  | left (m : Letter σ ν) (choice : Choice) (l : Lanes (Job σ ν)) (pop : w.mailbox.lanes.pop choice = some (m, l))
    (mailbox : n.1.mailbox = { w.mailbox with
      lanes := l
      senders := Mailbox.wakeOne pick w.mailbox.senders })
    (before : th.stage.isTake = true) (calm : n.2.stage.isRetrying = false)
  | sent (was : w.mailbox.status = .accepting) (full : w.mailbox.isFull = true) (other : me ≠ w.mailbox.owner)
    (mailbox : n.1.mailbox = { w.mailbox with senders := w.mailbox.senders ++ [me] }) (after : n.2.stage.isRetrying = true)
    (waking : th.stage.isWaking = false)
  | rested (choice : Choice) (purpose : Purpose) (was : w.mailbox.status = .accepting) (pop : w.mailbox.lanes.pop choice = none)
    (before : th.stage = .take choice true purpose) (mailbox : n.1.mailbox = w.mailbox.restTaker me) (after : n.2 = th)
  | ended (status : n.1.mailbox.status ≠ .accepting) (senders : n.1.mailbox.senders = w.mailbox.senders)
    (takers : n.1.mailbox.takers = w.mailbox.takers) (after : n.2.stage.isWaking = true)
  | woke (before : th.stage.isWaking = true) (mailbox : n.1.mailbox = w.mailbox.wakeAll) (calm : n.2.stage.isRetrying = false)

namespace Thread

variable {w : Task σ ν} {me : ThreadId} {pick : Nat} {stack : List (Frame σ ν)}

/-- A request puts nobody to sleep by itself: the thread falls asleep at the mailbox, in a step of its own. -/
theorem Called.toSleep {q : Request} {n : Task σ ν × Stage σ ν} (h : Called w me stack q n) (guarded : Bool)
    (k : Reply ν → Body σ ν) : Sleep me pick w ⟨.run (.call guarded q k), stack⟩ (n.1, ⟨n.2, .caller guarded q k :: stack⟩) := by
  cases h with
  | discarding t m => exact .quiet (by simp) rfl nofun rfl
  | _ => exact .quiet rfl rfl nofun rfl

/-- A body ends, whatever made it end. -/
theorem Ended.toSleep {e : Ending ν} {n : Next σ ν} (h : Ended w e stack n) {stage : Stage σ ν} (hr : stage.isRetrying = false)
    (hw : stage.isWaking = false) : Sleep me pick w ⟨stage, stack⟩ n := by
  have hwas : stage.isRetrying = true → w.mailbox.status ≠ .accepting ∨ me = w.mailbox.owner := fun h => absurd h (by rw [hr]; nofun)
  cases h with
  | captured h t d e | default e | handler _ e =>
    cases e with
    | returned | failed | panicked => exact .quiet rfl rfl hwas hw
  | _ => exact .quiet rfl rfl hwas hw

/-- Every turn does one thing to the lines of sleepers, or nothing. -/
theorem Turn.toSleep {stage : Stage σ ν} {n : Next σ ν} (h : Turn w me pick stack stage n) (ht : stage.isTidy = true) :
    Sleep me pick w ⟨stage, stack⟩ n := by
  cases h with
  | ended h | broken h => exact h.toSleep rfl rfl
  | called guarded q k h => exact h.toSleep guarded k
  | accepted m slept receipt stack was => exact .entered m was (by simp) rfl rfl
  | refused m slept receipt why stack hwhy =>
    refine .quiet (by simp) rfl (fun _ => ?_) rfl
    by_cases howner : me = w.mailbox.owner
    · exact .inr howner
    · refine .inl fun hs => ?_
      cases hf : w.mailbox.isFull <;> simp [Mailbox.offer, hs, hf, howner] at hwhy
  | waited m slept receipt stack was full other => exact .sent was full other rfl rfl rfl
  | taken m choice patient purpose l stack was pop =>
    cases purpose with
    | hold | yield | step | loop => exact .left m choice l pop rfl rfl rfl
  | shutOut choice patient purpose | missed choice purpose =>
    cases purpose with
    | hold | yield | step | loop => exact .quiet rfl rfl nofun rfl
  | drained choice purpose =>
    cases choice with
    | oldest =>
      cases purpose with
      | hold | yield | step | loop => exact .quiet rfl rfl nofun rfl
    | eligible p => exact .quiet rfl rfl nofun rfl
  | rested choice purpose stack was pop => exact .rested choice purpose was pop rfl rfl rfl
  | skipped m => exact .quiet (by simp) rfl nofun rfl
  | quiesced | surrendered | shut => exact .ended nofun rfl rfl rfl
  | shutBefore next => exact .quiet rfl (Stage.not_isRetrying_of_isClosing ht) nofun rfl
  | woke next => exact .woke rfl rfl (Stage.not_isRetrying_of_isClosing ht)
  | dropped m => exact .quiet (by simp) rfl nofun rfl
  | disposed next | marked next => exact .quiet rfl (Stage.not_isRetrying_of_isClosing ht) nofun rfl
  | _ => exact .quiet rfl rfl nofun rfl

/-- Nobody takes mail because a body has come to its end. -/
theorem Ended.not_isTake {e : Ending ν} {n : Next σ ν} (h : Ended w e stack n) : n.2.stage.isTake = false := by
  cases h with
  | default e | handler _ e =>
    cases e with
    | returned | failed | panicked => rfl
  | _ => rfl

/-- A thread comes to a take as the mailbox thread, from the main loop, or from a take. -/
theorem Turn.take_cases {stage : Stage σ ν} {n : Next σ ν} (h : Turn w me pick stack stage n) (ht : stage.isTidy = true)
    (after : n.2.stage.isTake = true) : me = w.mailbox.owner ∨ 0 < stage.servings ∨ stage.isTake = true := by
  cases h with
  | ended h | broken h => exact absurd after (by rw [h.not_isTake]; nofun)
  | called guarded q k h =>
    cases h with
    | taking _ _ owner | yielding _ _ owner | stepping owner => exact .inl owner
    | _ => cases after
  | idle | consulted => exact .inr (.inl Nat.one_pos)
  | rested => exact .inr (.inr rfl)
  | taken => exact .inr (.inr rfl)
  | shutOut | missed | drained => exact .inr (.inr rfl)
  | shutBefore | woke | disposed | marked => exact absurd after (by rw [Stage.not_isTake_of_isClosing ht]; nofun)
  | _ => cases after

end Thread

/-! ## Counting threads -/

/-- No more places are listed than there are elements that pass the test, if each place has one and none is listed twice. -/
theorem length_le_countP {α : Type} {l : List α} {p : α → Bool} {is : List Nat} (distinct : is.Nodup)
    (h : ∀ i ∈ is, ∃ x, l[i]? = some x ∧ p x = true) : is.length ≤ l.countP p := by
  rw [← List.length_findIdxs]
  refine distinct.length_le_of_subset fun i hi => ?_
  obtain ⟨x, hx, hp⟩ := h i hi
  obtain ⟨hlt, rfl⟩ := List.getElem?_eq_some_iff.mp hx
  exact List.mem_findIdxs_iff_exists_getElem_pos.mpr ⟨hlt, hp⟩

/-- All elements that pass the test stand in places that are listed, so there are no more of them than places. -/
theorem countP_le_length {α : Type} {l : List α} {p : α → Bool} {is : List Nat}
    (h : ∀ (i : Nat) x, l[i]? = some x → p x = true → i ∈ is) : l.countP p ≤ is.length := by
  rw [← List.length_findIdxs (s := 0)]
  refine List.nodup_findIdxs.length_le_of_subset fun i hi => ?_
  obtain ⟨hlt, hp⟩ := List.mem_findIdxs_iff_exists_getElem_pos.mp hi
  exact h i _ (List.getElem?_eq_getElem hlt) hp

namespace World

variable {a b w : World σ ν} {t : ThreadId} {pick : Nat} {th : Thread σ ν} {n : Next σ ν}

/-- How many threads were asleep over a put, and may be so still. -/
def retrying (w : World σ ν) : Nat := w.threads.countP fun th => th.stage.isRetrying

/-- Only the thread that took the step may have begun or ended to be one of these. -/
theorem Stepped.retrying (h : Stepped a t pick th n b) :
    b.retrying + th.stage.isRetrying.toNat = a.retrying + n.2.stage.isRetrying.toNat := by
  have hnew : (th.offspring.map Thread.start).countP (fun th => th.stage.isRetrying) = 0 := by
    simp [List.countP_eq_zero, Thread.start, Stage.isRetrying]
  obtain ⟨hlt, hth⟩ := List.getElem?_eq_some_iff.mp h.thread
  have hpos : th.stage.isRetrying = true → 0 < a.threads.countP fun th => th.stage.isRetrying :=
    fun hr => List.countP_pos_iff.mpr ⟨th, List.mem_of_getElem? h.thread, hr⟩
  rw [World.retrying, World.retrying, h.result, List.countP_append, hnew, List.countP_set hlt, hth]
  cases hb : th.stage.isRetrying <;> cases hn : n.2.stage.isRetrying <;> simp_all

/-- Who steps is awake, and so in no line. -/
theorem Stepped.not_mem (h : Stepped a t pick th n b) : t ∉ a.task.mailbox.senders ∧ t ∉ a.task.mailbox.takers := by
  simpa [Mailbox.isAsleep] using h.awake

/-! ## Who sleeps -/

/-- Only the mailbox thread takes mail. -/
theorem Possible.taking (h : w.Possible) : ∀ (i : ThreadId) th, w.threads[i]? = some th → th.stage.isTake = true →
    i = w.task.mailbox.owner := by
  refine h.threads (P := fun owner i th => th.stage.isTake = true → i = owner) ?_ ?_
  · intro owner i program take
    cases take
  · intro a t pick th n b possible hs ih take
    rcases hs.turn.take_cases (possible.tidy t th hs.thread) take with howner | hserving | hbefore
    · exact howner
    · exact (possible.serving hs.thread).2 (Nat.add_pos_right _ hserving)
    · exact ih hbefore

/-- Only other threads than the mailbox thread sleep over a put. -/
theorem Possible.retrying_ne (h : w.Possible) : ∀ (i : ThreadId) th, w.threads[i]? = some th → th.stage.isRetrying = true →
    i ≠ w.task.mailbox.owner := by
  refine h.threads (P := fun owner i th => th.stage.isRetrying = true → i ≠ owner) ?_ ?_
  · intro owner i program retrying
    cases retrying
  · intro a t pick th n b possible hs ih retrying
    cases hs.turn.toSleep (possible.tidy t th hs.thread) with
    | sent was full other => exact other
    | rested choice purpose was pop before mailbox after =>
      rw [after] at retrying
      exact ih retrying
    | quiet mailbox calm | entered m was mailbox calm | left m choice l pop mailbox before calm | woke before mailbox calm =>
      exact absurd retrying (by rw [calm]; nofun)
    | ended status senders takers after => exact absurd retrying (by rw [Stage.not_isRetrying_of_isWaking after]; nofun)

/-- Who sleeps in the line of senders sleeps over a put, and stands there once. -/
structure Senders (w : World σ ν) : Prop where
  distinct : w.task.mailbox.senders.Nodup
  thread : ∀ i ∈ w.task.mailbox.senders, ∃ th, w.threads[i]? = some th ∧ th.stage.isRetrying = true

/-- A step leaves the line of senders as it should be: who joins it is about to try again, and nobody joins it twice. -/
theorem Stepped.senders (hs : Stepped a t pick th n b) (possible : a.Possible) (ha : a.Senders) : b.Senders := by
  have hawake := hs.not_mem.1
  have keep : ∀ i ∈ a.task.mailbox.senders, ∃ th, b.threads[i]? = some th ∧ th.stage.isRetrying = true := by
    intro i hi
    obtain ⟨x, hx, hr⟩ := ha.thread i hi
    exact ⟨x, hs.other (fun heq => hawake (heq ▸ hi)) hx, hr⟩
  have fewer : n.1.mailbox.senders.Sublist a.task.mailbox.senders → b.Senders := by
    intro hsub
    rw [← hs.task] at hsub
    exact ⟨hsub.nodup ha.distinct, fun i hi => keep i (hsub.subset hi)⟩
  cases hs.turn.toSleep (possible.tidy t th hs.thread) with
  | quiet mailbox | entered m was mailbox | rested choice purpose was pop before mailbox =>
    exact fewer (by simp only [mailbox]; exact List.Sublist.refl _)
  | left m choice l pop mailbox => exact fewer (by rw [mailbox]; exact Mailbox.wakeOne_sublist pick _)
  | ended status senders => exact fewer (by rw [senders])
  | woke before mailbox => exact fewer (by rw [mailbox]; exact List.nil_sublist _)
  | sent was full other mailbox after =>
    rw [← hs.task] at mailbox
    constructor <;> rw [mailbox]
    · refine List.nodup_append.mpr ⟨ha.distinct, List.nodup_singleton t, fun x hx y hy heq => hawake ?_⟩
      rw [← List.mem_singleton.mp hy, ← heq]
      exact hx
    · intro i hi
      rcases List.mem_append.mp hi with hi | hi
      · exact keep i hi
      · rw [List.mem_singleton.mp hi]
        exact ⟨n.2, hs.own, after⟩

/-- So the line of senders is as it should be all the time. -/
theorem Possible.senders (h : w.Possible) : w.Senders := by
  refine h.invariant ?_ (fun possible ih hs => hs.senders possible ih) ?_
  · exact fun _ _ _ _ _ _ => ⟨List.nodup_nil, fun i hi => absurd hi List.not_mem_nil⟩
  · exact fun _ ih => ⟨ih.distinct.erase _, fun i hi => ih.thread i (List.mem_of_mem_erase hi)⟩

/-- Nobody sleeps in the line of takers, or only the mailbox thread does, over a take that finds nothing as long as mail is accepted. -/
def Takers (w : World σ ν) : Prop :=
  w.task.mailbox.takers = [] ∨ w.task.mailbox.takers = [w.task.mailbox.owner] ∧ ∃ choice purpose stack,
    w.threads[w.task.mailbox.owner]? = some ⟨.take choice true purpose, stack⟩ ∧
    (w.task.mailbox.status = .accepting → w.task.mailbox.lanes.pop choice = none)

/-- A step leaves the line of takers to the mailbox thread, asleep over a take that finds nothing. -/
theorem Stepped.takers (hs : Stepped a t pick th n b) (possible : a.Possible) (ha : a.Takers) : b.Takers := by
  have hawake := hs.not_mem.2
  have howner : b.task.mailbox.owner = a.task.mailbox.owner := hs.traffic.owner
  have keep : n.1.mailbox.takers = a.task.mailbox.takers →
      (n.1.mailbox.status = .accepting → a.task.mailbox.status = .accepting ∧ n.1.mailbox.lanes = a.task.mailbox.lanes) → b.Takers := by
    intro takers lanes
    rw [← hs.task] at takers lanes
    rw [Takers, takers, howner]
    refine ha.imp_right fun ⟨htakers, choice, purpose, stack, hx, hpop⟩ => ?_
    have hne : a.task.mailbox.owner ≠ t := fun heq => hawake (by rw [htakers, heq]; exact List.mem_singleton_self t)
    refine ⟨htakers, choice, purpose, stack, hs.other hne hx, fun accepting => ?_⟩
    rw [(lanes accepting).2]
    exact hpop (lanes accepting).1
  -- While the mailbox thread takes a step, nobody sleeps over a take.
  have nobody : th.stage.isTake = true → a.task.mailbox.takers = [] := by
    intro take
    rcases ha with hnil | ⟨htakers, -⟩
    · exact hnil
    · rw [htakers, ← possible.taking t th hs.thread take] at hawake
      exact absurd (List.mem_singleton_self t) hawake
  cases hs.turn.toSleep (possible.tidy t th hs.thread) with
  | quiet mailbox => exact keep (by rw [mailbox]) (by rw [mailbox]; exact fun accepting => ⟨accepting, rfl⟩)
  | sent was full other mailbox => exact keep (by rw [mailbox]) (by rw [mailbox]; exact fun accepting => ⟨accepting, rfl⟩)
  | ended status senders takers => exact keep takers fun accepting => absurd accepting status
  | woke before mailbox => exact .inl (by rw [hs.task, mailbox]; rfl)
  | left m choice l pop mailbox before => exact .inl (by rw [hs.task, mailbox]; exact nobody before)
  | entered m was mailbox =>
    refine .inl ?_
    rw [hs.task, mailbox]
    refine List.eq_nil_of_length_eq_zero ((Mailbox.length_wakeOne _ _).trans ?_)
    rcases ha with htakers | ⟨htakers, -⟩ <;> rw [htakers] <;> rfl
  | rested choice purpose was pop before mailbox after =>
    have htake : th.stage.isTake = true := by rw [before]; rfl
    have ht : t = a.task.mailbox.owner := possible.taking t th hs.thread htake
    rw [← hs.task] at mailbox
    rw [Takers, mailbox, Mailbox.restTaker, nobody htake, ← ht]
    refine .inr ⟨rfl, choice, purpose, th.stack, ?_, fun _ => pop⟩
    rw [hs.own, after, ← before]

/-- So nobody but the mailbox thread ever stands there. -/
theorem Possible.takers (h : w.Possible) : w.Takers := by
  refine h.invariant (fun _ _ _ _ _ _ => .inl rfl) (fun possible ih hs => hs.takers possible ih) ?_
  intro a t _ ih
  rcases ih with htakers | ⟨htakers, htake⟩
  · exact .inl (by simp [stirred, Mailbox.stir, htakers])
  · by_cases ht : t = a.task.mailbox.owner
    · exact .inl (by simp [stirred, Mailbox.stir, htakers, ht])
    · exact .inr ⟨by simp [stirred, Mailbox.stir, htakers, Ne.symm ht], htake⟩

/-- Where somebody sleeps although the mailbox accepts no mail any more, somebody is about to wake all sleepers. -/
theorem Possible.waking (h : w.Possible) (status : w.task.mailbox.status ≠ .accepting)
    (asleep : w.task.mailbox.senders ≠ [] ∨ w.task.mailbox.takers ≠ []) :
    ∃ (i : ThreadId) (th : Thread σ ν), w.threads[i]? = some th ∧ th.stage.isWaking = true := by
  refine h.somebody (D := fun w => w.mailbox.status ≠ .accepting ∧ (w.mailbox.senders ≠ [] ∨ w.mailbox.takers ≠ []))
    (S := fun s => s.isWaking = true) ?_ ?_ ?_ ⟨status, asleep⟩
  · exact fun _ _ _ _ _ hdue => hdue.1 rfl
  · intro a t pick th n b possible hs due
    obtain ⟨status, asleep⟩ := due
    cases hs.turn.toSleep (possible.tidy t th hs.thread) with
    | quiet mailbox calm was waking =>
      rw [mailbox] at status asleep
      exact .inr ⟨⟨status, asleep⟩, by simp [waking]⟩
    | entered m was mailbox => rw [mailbox] at status; exact absurd was status
    | sent was full other mailbox => rw [mailbox] at status; exact absurd was status
    | rested choice purpose was pop before mailbox => rw [mailbox] at status; exact absurd was status
    | left m choice l pop mailbox before =>
      rw [mailbox] at status asleep
      refine .inr ⟨⟨status, asleep.imp_left fun hsenders hnil => hsenders ?_⟩, by simp [Stage.not_isWaking_of_isTake before]⟩
      exact List.sublist_nil.mp (hnil ▸ Mailbox.wakeOne_sublist _ _)
    | ended _ _ _ after => exact .inl after
    | woke before mailbox => rw [mailbox] at asleep; exact absurd asleep (by simp [Mailbox.wakeAll])
  · intro a t due
    obtain ⟨status, asleep⟩ := due
    refine ⟨status, asleep.imp (fun hne hnil => hne ?_) fun hne hnil => hne ?_⟩ <;> simp [stirred, Mailbox.stir, hnil]

/-- Where a sender sleeps while the mailbox accepts mail, the mail that is queued and the senders that were woken and have not looked
again fill the mailbox between them. -/
theorem Possible.crowded (h : w.Possible) (few : w.task.accepted.countP (fun put => !put.1.isUrgent) < 2 ^ 64) :
    w.task.mailbox.status = .accepting → w.task.mailbox.senders ≠ [] →
    w.task.mailbox.capacity + w.task.mailbox.senders.length ≤ w.task.mailbox.length + w.retrying := by
  have hinv := h.invariant (P := fun w => w.task.accepted.countP (fun put => !put.1.isUrgent) < 2 ^ 64 →
    w.task.mailbox.status = .accepting → w.task.mailbox.senders ≠ [] →
    w.task.mailbox.capacity + w.task.mailbox.senders.length ≤ w.task.mailbox.length + w.retrying) ?_ ?_ ?_
  · exact hinv few
  · exact fun _ _ _ _ _ _ _ _ hne => absurd rfl hne
  · intro a t pick th n b possible ih hs few status asleep
    have hless := Nat.lt_of_le_of_lt (Possible.accepted_step hs) few
    have hretrying := hs.retrying
    have hcapacity := hs.traffic.capacity
    rw [hs.task] at status asleep hcapacity ⊢
    cases hs.turn.toSleep (possible.tidy t th hs.thread) with
    | quiet mailbox calm was =>
      rw [mailbox] at status asleep ⊢
      have hth : th.stage.isRetrying = false := by
        by_contra hr
        have hr : th.stage.isRetrying = true := by simpa using hr
        exact (was hr).elim (fun h => h status) (possible.retrying_ne t th hs.thread hr)
      rw [calm, hth] at hretrying
      exact (Nat.add_right_cancel hretrying) ▸ ih hless status asleep
    | entered m was mailbox calm =>
      have hpush := (Lanes.toList_push_perm possible.orderly.wellFormed m).length_eq
      rw [(possible.flow hless).counted.displaced hless m] at hpush
      simp only [Option.toList_none, List.append_nil, List.length_cons, Lanes.length_toList] at hpush
      rw [mailbox] at asleep ⊢
      have hroom := ih hless was asleep
      have hth := Bool.toNat_le th.stage.isRetrying
      rw [calm, Bool.toNat_false] at hretrying
      simp only [Mailbox.length, hpush] at hroom ⊢
      omega
    | left m choice l pop mailbox before calm =>
      obtain ⟨pre, post, hbefore, hafter, -⟩ := (Lanes.pop_eq_some possible.orderly.wellFormed pop).toList possible.orderly.wellFormed
      have hpop : l.length + 1 = a.task.mailbox.lanes.length := by
        rw [← Lanes.length_toList, ← Lanes.length_toList, hbefore, hafter]
        simp only [List.length_append, List.length_cons]
        omega
      rw [calm, Stage.not_isRetrying_of_isTake before] at hretrying
      rw [mailbox] at status asleep ⊢
      have hasleep : a.task.mailbox.senders ≠ [] :=
        fun hnil => asleep (List.sublist_nil.mp (hnil ▸ Mailbox.wakeOne_sublist _ _))
      have hpos := List.length_pos_iff.mpr hasleep
      have hroom := ih hless status hasleep
      simp only [Mailbox.length, Mailbox.length_wakeOne] at hroom ⊢
      omega
    | sent was full other mailbox after =>
      have hfull : a.task.mailbox.capacity ≤ a.task.mailbox.length := of_decide_eq_true full
      -- All who sleep are counted, the thread that has just joined them among them.
      have hline := hs.senders possible possible.senders
      have hcount : b.task.mailbox.senders.length ≤ b.retrying := length_le_countP hline.distinct hline.thread
      rw [hs.task, mailbox] at hcount
      rw [mailbox]
      exact Nat.add_le_add hfull hcount
    | rested choice purpose was pop before mailbox after =>
      rw [after] at hretrying
      rw [mailbox] at asleep ⊢
      exact (Nat.add_right_cancel hretrying) ▸ ih hless was asleep
    | ended status' => exact absurd status status'
    | woke before mailbox => rw [mailbox] at asleep; exact absurd rfl asleep
  · intro a t _ ih few status asleep
    have hasleep : a.task.mailbox.senders ≠ [] := fun hnil => asleep (by simp [stirred, Mailbox.stir, hnil])
    have hless : (a.task.mailbox.senders.erase t).length ≤ a.task.mailbox.senders.length := List.erase_sublist.length_le
    exact Nat.le_trans (Nat.add_le_add_left hless _) (ih few status hasleep)

end World

/-! ## Waiting for mail -/

/-- Whatever mail is put next, by whatever thread, it is accepted without a wait. -/
def Mailbox.HasRoom {α : Type} (b : Mailbox α) : Prop :=
  ∀ sender m pick, ∃ after displaced, b.offer sender m pick = .accepted after displaced

/-- A mailbox that accepts mail and is not full takes the next mail, whatever it is. -/
theorem Mailbox.hasRoom {α : Type} {b : Mailbox α} (hs : b.status = .accepting) (hf : b.isFull = false) : b.HasRoom :=
  fun _ m _ => ⟨_, b.lanes.displaced m, by simp only [offer, hs, hf, Bool.not_false, if_true]; rfl⟩

namespace World

variable {a b w : World σ ν} {t i : ThreadId}

/-- A mailbox has at least one slot. -/
theorem Possible.capacity_pos (h : w.Possible) : 0 < w.task.mailbox.capacity := by
  refine h.invariant (P := fun w => 0 < w.task.mailbox.capacity) ?_ (fun _ ih hs => ?_) fun _ ih => ih
  · exact fun config _ _ _ _ _ => config.slots_pos
  · exact hs.traffic.capacity ▸ ih

/-- Thread `t` waits for mail that `choice` lets it take: it is the mailbox thread, asleep over a take, the mailbox accepts mail, and
what is queued is nothing that the take may take. -/
structure Waits (w : World σ ν) (t : ThreadId) (choice : Choice) : Prop where
  owner : t = w.task.mailbox.owner
  asleep : t ∈ w.task.mailbox.takers
  thread : ∃ purpose stack, w.threads[t]? = some ⟨.take choice true purpose, stack⟩
  accepting : w.task.mailbox.status = .accepting
  nothing : ∀ m ∈ w.task.queued, ∃ p, choice = .eligible p ∧ m.isEligible p = false

/-- Who sleeps over a take while the mailbox accepts mail waits for mail. -/
theorem Possible.waits (h : w.Possible) (ht : t ∈ w.task.mailbox.takers) (accepting : w.task.mailbox.status = .accepting) :
    ∃ choice, w.Waits t choice := by
  rcases h.takers with hnil | ⟨htakers, choice, purpose, stack, hthread, hpop⟩
  · rw [hnil] at ht
    exact absurd ht List.not_mem_nil
  · obtain rfl : t = w.task.mailbox.owner := by simpa [htakers] using ht
    obtain ⟨hurgent, hnormal⟩ := (Lanes.pop_eq_none_iff h.orderly.wellFormed).mp (hpop accepting)
    refine ⟨choice, rfl, ht, ⟨purpose, stack, hthread⟩, accepting, fun m hm => ?_⟩
    rw [Task.queued, Lanes.toList, hurgent, List.nil_append] at hm
    obtain ⟨e, he, rfl⟩ := List.mem_map.mp hm
    exact hnormal e he

/-- The main loop waits at an empty mailbox, so there is a free slot. -/
theorem Waits.eligible_of_isFull {choice : Choice} (h : w.Waits t choice) (possible : w.Possible)
    (full : w.task.mailbox.isFull = true) : ∃ p, choice = .eligible p := by
  have hfull : w.task.mailbox.capacity ≤ w.task.queued.length := by
    rw [Task.queued, Lanes.length_toList]
    exact of_decide_eq_true full
  obtain ⟨m, hm⟩ := List.exists_mem_of_length_pos (Nat.lt_of_lt_of_le possible.capacity_pos hfull)
  obtain ⟨p, hp, -⟩ := h.nothing m hm
  exact ⟨p, hp⟩

/-- A thread sleeps only over a put or over a take. -/
theorem Possible.awake {x : Thread σ ν} (h : w.Possible) (hx : w.threads[i]? = some x) (take : x.stage.isTake = false)
    (sender : x.stage.isRetrying = true → i ∉ w.task.mailbox.senders) : w.task.mailbox.isAsleep i = false := by
  have hsender : i ∉ w.task.mailbox.senders := by
    intro hi
    obtain ⟨y, hy, hr⟩ := h.senders.thread i hi
    obtain rfl : y = x := Option.some.inj (hy.symm.trans hx)
    exact sender hr hi
  have htaker : i ∉ w.task.mailbox.takers := by
    intro hi
    rcases h.takers with hnil | ⟨htakers, choice, purpose, stack, hthread, -⟩
    · rw [hnil] at hi
      exact List.not_mem_nil hi
    · obtain rfl : i = w.task.mailbox.owner := by simpa [htakers] using hi
      rw [hx] at hthread
      cases hthread
      cases take
  simpa [Mailbox.isAsleep] using ⟨hsender, htaker⟩

/-- A thread that is awake, and whose stage has a step, can step. -/
theorem canStep_of_stepStage {x : Thread σ ν} {n : Next σ ν} (hx : w.threads[i]? = some x)
    (awake : w.task.mailbox.isAsleep i = false) (step : Thread.stepStage w.task i 0 x.stack x.stage = some n) : w.canStep i = true := by
  have hs : Stepped w i 0 x n ⟨n.1, w.threads.set i n.2 ++ x.offspring.map .start⟩ := ⟨hx, awake, step, rfl⟩
  rw [canStep, hs.step?_eq]
  rfl

/-- Thread `i` can step, and is about to wake all sleepers, or to look again for a slot after it was woken. -/
structure Stirs (w : World σ ν) (i : ThreadId) : Prop where
  thread : ∃ th, w.threads[i]? = some th ∧ (th.stage.isWaking = true ∨ th.stage.isRetrying = true)
  step : w.canStep i = true

/-- Who is about to wake the sleepers can do so at once. -/
theorem Possible.stirs_of_waking {x : Thread σ ν} (h : w.Possible) (hx : w.threads[i]? = some x) (waking : x.stage.isWaking = true) :
    w.Stirs i := by
  obtain ⟨stage, stack⟩ := x
  cases stage with
  | wakeAll next => exact ⟨⟨_, hx, .inl rfl⟩, canStep_of_stepStage hx (h.awake hx rfl nofun) rfl⟩
  | _ => cases waking

/-- Who was woken can look for a slot again at once. -/
theorem Possible.stirs_of_retrying {x : Thread σ ν} (h : w.Possible) (hx : w.threads[i]? = some x)
    (retrying : x.stage.isRetrying = true) (awake : i ∉ w.task.mailbox.senders) : w.Stirs i := by
  obtain ⟨stage, stack⟩ := x
  cases stage with
  | offer m slept receipt =>
    exact ⟨⟨_, hx, .inr retrying⟩, canStep_of_stepStage hx (h.awake hx rfl fun _ => awake) rfl⟩
  | _ => cases retrying

/-- Where a sender sleeps, the mailbox is full, or somebody is about to wake it or to look again for a slot. -/
theorem Possible.stirs (h : w.Possible) (few : w.task.accepted.countP (fun put => !put.1.isUrgent) < 2 ^ 64)
    (sender : w.task.mailbox.senders ≠ []) :
    (∃ i, w.Stirs i) ∨ w.task.mailbox.status = .accepting ∧ w.task.mailbox.isFull = true := by
  by_cases accepting : w.task.mailbox.status = .accepting
  · by_cases hall : ∀ (i : ThreadId) x, w.threads[i]? = some x → x.stage.isRetrying = true → i ∈ w.task.mailbox.senders
    · have hcount : w.retrying ≤ w.task.mailbox.senders.length := countP_le_length hall
      have hroom := h.crowded few accepting sender
      have hfull : w.task.mailbox.capacity ≤ w.task.mailbox.length := by omega
      exact .inr ⟨accepting, decide_eq_true hfull⟩
    · push Not at hall
      obtain ⟨i, x, hx, hr, hi⟩ := hall
      exact .inl ⟨i, h.stirs_of_retrying hx hr hi⟩
  · obtain ⟨i, x, hx, hwaking⟩ := h.waking accepting (.inl sender)
    exact .inl ⟨i, h.stirs_of_waking hx hwaking⟩

/-- What is so wherever a thread waits for mail. -/
structure Waiting (w : World σ ν) : Prop where
  /-- A thread that falls asleep over a take waits for mail that anybody can put at once, unless it yields and the mailbox is full. -/
  rests : ∀ t pick b, w.step? t pick = some b → t ∈ b.task.mailbox.takers → ∃ choice, b.Waits t choice ∧
    (b.task.mailbox.HasRoom ∨ b.task.mailbox.isFull = true ∧ ∃ p, choice = .eligible p)
  /-- Where a sender sleeps at the same time, some thread can step that is about to wake it or to look again for a slot, unless the
  mailbox thread yields and the mailbox is full. This holds as long as fewer than `2 ^ 64` mails that are not urgent were accepted. -/
  meets : w.task.accepted.countP (fun put => !put.1.isUrgent) < 2 ^ 64 →
    ∀ t ∈ w.task.mailbox.takers, w.task.mailbox.senders ≠ [] →
    (∃ i, w.Stirs i) ∨ w.task.mailbox.isFull = true ∧ ∃ p, w.Waits t (.eligible p)

end World

/-- The mailbox thread waits only for mail that can come, except for a yield at a full mailbox: the mailbox accepts mail then, but all
that is queued is mail that the yield may not take, and nobody can put any other. This is also the only way in which the mailbox thread
and a sender can wait for each other. -/
theorem wait_for_mail {w : World σ ν} (possible : w.Possible) : w.Waiting := by
  constructor
  · intro t pick b step asleep
    obtain ⟨th, n, hs⟩ := World.step?_eq_some step
    have hb : b.Possible := possible.reach (World.Reach.here.step step)
    have accepting : b.task.mailbox.status = .accepting := by
      obtain ⟨-, htaker⟩ := hs.not_mem
      rw [hs.task] at asleep ⊢
      cases hs.turn.toSleep (possible.tidy t th hs.thread) with
      | rested choice purpose was pop before mailbox => rw [mailbox]; exact was
      | quiet mailbox | left _ _ _ _ mailbox | sent _ _ _ mailbox => rw [mailbox] at asleep; exact absurd asleep htaker
      | entered m was mailbox => rw [mailbox] at asleep; exact absurd ((Mailbox.wakeOne_sublist _ _).subset asleep) htaker
      | ended _ _ takers => rw [takers] at asleep; exact absurd asleep htaker
      | woke _ mailbox => rw [mailbox] at asleep; exact absurd asleep List.not_mem_nil
    obtain ⟨choice, hwaits⟩ := hb.waits asleep accepting
    refine ⟨choice, hwaits, ?_⟩
    cases hfull : b.task.mailbox.isFull with
    | false => exact .inl (Mailbox.hasRoom accepting hfull)
    | true => exact .inr ⟨rfl, hwaits.eligible_of_isFull hb hfull⟩
  · intro few t taker sender
    refine (possible.stirs few sender).imp_right fun ⟨accepting, hfull⟩ => ⟨hfull, ?_⟩
    obtain ⟨choice, hwaits⟩ := possible.waits taker accepting
    obtain ⟨p, rfl⟩ := hwaits.eligible_of_isFull possible hfull
    exact ⟨p, hwaits⟩

/-- A task with one slot and two threads. The mailbox thread sends a deferrable mail and yields; the other thread sends a mail. -/
def fullYield : World Unit Nat :=
  .start (.new ⟨1⟩ 0 none (fun _ => .finish (.returned 0)) ())
    [.post ⟨⟨"later", []⟩, .deferrable, 0⟩ (.finish (.returned 0)) fun _ =>
      .call false (.yield 0 true) fun _ => .finish (.returned 0),
     .post ⟨⟨"now", []⟩, .empty, 0⟩ (.finish (.returned 0)) fun _ => .finish (.returned 0)]

theorem fullYield_possible : fullYield.Possible := ⟨⟨1⟩, 0, none, _, (), _, .here⟩

theorem wait_for_mail_of_fullYield : ∃ w : World Unit Nat,
    fullYield.moves (List.replicate 5 (.step 0 0) ++ List.replicate 2 (.step 1 0)) = some w ∧ w.Waiting := by
  refine ⟨_, rfl, wait_for_mail (fullYield_possible.reach ?_)⟩
  exact .of_moves (List.replicate 5 (.step 0 0) ++ List.replicate 2 (.step 1 0)) rfl

/-! ## A yield may wait for mail that nobody can put

A put of the mailbox thread at its own full mailbox is turned away, since nobody else could free a slot. A patient yield there is not:
in `fullYield` it goes to sleep over a mailbox that is full of mail it may not take, and then the other thread goes to sleep over its
put. No thread can step any more. -/

/-- Whoever goes to sleep over a take leaves room for the mail it waits for. -/
def World.RestsWithRoom (w : World σ ν) : Prop :=
  ∀ t pick b, w.step? t pick = some b → t ∈ b.task.mailbox.takers → b.task.mailbox.HasRoom

theorem restsWithRoom_false : ∃ a b w : World Unit Nat, fullYield.moves (List.replicate 4 (.step 0 0)) = some a ∧
    a.step? 0 0 = some b ∧ ¬a.RestsWithRoom ∧ b.moves (List.replicate 2 (.step 1 0)) = some w ∧
    w.task.mailbox.takers = [0] ∧ w.task.mailbox.senders = [1] ∧ ∀ t, w.canStep t = false := by
  refine ⟨_, _, _, rfl, rfl, fun room => ?_, rfl, rfl, rfl, fun t => ?_⟩
  · let now : Letter Unit Nat := ⟨⟨⟨"now", []⟩, .empty, 0⟩, ⟨1, .nothing⟩⟩
    obtain ⟨after, displaced, hoffer⟩ := room 0 0 _ rfl (List.mem_singleton_self 0) 1 now 0
    cases hoffer
  · match t with
    | 0 => rfl
    | 1 => rfl
    | t + 2 => rfl

end Mailroom
