import Mailroom.Proofs.Hearing
import Mailroom.Proofs.Sweeping

/-!
# Yields with the lowest threshold

Where no mail was put that is deferrable, or that is not urgent and below the lowest of priorities (`World.Admits`), a yield with that
threshold takes what the main loop would take (`Lanes.pop_lowest`), and it runs it. So yields that go on until one finds no mail leave
none, and if nothing else puts or takes mail they have run the queue from front to back. The main statement is `lowest_yields`; that it
does not hold for mail below the lowest of priorities is `lowestRunsAll_false`.
-/

namespace Mailroom

variable {σ ν α : Type}

namespace Lanes

variable {l l' : Lanes α} {m : Mail α}

/-- Where all mail is open to the lowest threshold a yield with that takes what the main loop takes. -/
theorem pop_lowest (h : l.WellFormed) (all : ∀ m ∈ l.toList, m.isEligible .lowest = true) :
    l.pop (.eligible .lowest) = l.pop .oldest := by
  cases hu : l.urgent with
  | cons m rest => simp only [pop, popOldest, popEligible, hu]
  | nil =>
    cases hn : l.normal with
    | nil => simp [pop, popOldest, popEligible, hu, hn]
    | cons e post =>
      have first : e.2.isEligible .lowest = true := all e.2 (by simp [toList, hu, hn])
      have taken : l.popEligible .lowest = some (e.2, { l with normal := [] ++ post }) :=
        popEligible_eq_some h.keys hu hn (fun x hx => by cases hx) first
      simp only [pop, taken, popOldest, hu, hn]
      rfl

/-- What the main loop takes is the first of all queued mail. -/
theorem toList_of_pop_oldest_eq_some (pop : l.pop .oldest = some (m, l')) : l.toList = m :: l'.toList := by
  obtain ⟨urgent, normal, key⟩ := l
  cases urgent with
  | cons m' rest =>
    cases pop
    rfl
  | nil =>
    cases normal with
    | nil => cases pop
    | cons e rest =>
      cases pop
      rfl

end Lanes

namespace World

variable {a b w x y : World σ ν} {t : ThreadId} {stack : List (Frame σ ν)} {guarded patient : Bool} {q : Request}
  {k : Reply ν → Body σ ν} {choice : Choice} {purpose : Purpose} {m : Letter σ ν} {f : Frame σ ν} {r : Reply ν} {p : Priority}

/-! ## Mail that the lowest threshold lets through -/

/-- No mail was put that is deferrable, or that is not urgent and below the lowest of priorities. -/
structure Admits (w : World σ ν) : Prop where
  prompt : ∀ put ∈ w.task.accepted, put.1.isDeferrable = false
  ranked : ∀ put ∈ w.task.accepted, put.1.isUrgent = false → .lowest ≤ put.1.priority

theorem Admits.earlier (h : b.Admits) (reach : a.Reach b) : a.Admits where
  prompt put hput := h.prompt put ((reach.history_grows Occurrence.acceptance?).subset hput)
  ranked put hput := h.ranked put ((reach.history_grows Occurrence.acceptance?).subset hput)

/-- A yield with the lowest threshold takes what the main loop takes. -/
theorem Admits.pop (h : w.Admits) (possible : w.Possible) :
    w.task.mailbox.lanes.pop (.eligible .lowest) = w.task.mailbox.lanes.pop .oldest := by
  refine Lanes.pop_lowest possible.orderly.wellFormed fun m hm => ?_
  obtain ⟨put, hput, rfl⟩ : ∃ put ∈ w.task.accepted, put.1 = m := by
    refine List.mem_map.mp ?_
    rcases List.mem_append.mp hm with hm | hm
    · exact possible.inPutOrder.urgent.subset hm
    · exact possible.inPutOrder.normal.subset hm
  rw [Envelope.isEligible, h.prompt put hput]
  cases urgent : put.1.isUrgent with
  | true => rfl
  | false => exact decide_eq_true (h.ranked put hput urgent)

/-! ## While no mail is put and none is taken -/

theorem Reach.taken_le (h : a.Reach b) : a.task.taken.length ≤ b.task.taken.length :=
  (h.history_grows Occurrence.taking?).length_le

/-- The lanes stay as they are as long as no mail is put and none is taken, if the mailbox is not closed in the end. -/
theorem Reach.lanes_same (h : a.Reach b) (accepted : b.task.accepted = a.task.accepted)
    (taken : b.task.taken.length ≤ a.task.taken.length) (status : b.task.mailbox.status ≠ .closed) :
    b.task.mailbox.lanes = a.task.mailbox.lanes := by
  induction h with
  | here => rfl
  | @next x b move before hm ih =>
    have step : x.Reach b := Reach.here.next move hm
    have put : x.task.accepted = a.task.accepted := before.accepted_eq step accepted
    have few : b.task.taken.length ≤ x.task.taken.length := Nat.le_trans taken before.taken_le
    have lanes := ih put (Nat.le_trans step.taken_le taken) fun closed => status (step.closed closed)
    cases move with
    | stir =>
      cases hm
      exact lanes
    | step i pick =>
      obtain ⟨th, n, hs⟩ := step?_eq_some hm
      have same : b.task.taken = x.task.taken := ((step.history_grows Occurrence.taking?).eq_of_length_le few).symm
      exact (hs.lanes_same (accepted.trans put.symm) same status).trans lanes

/-! ## What a call takes -/

/-- The step by which a call takes a mail takes it as the request of the call says. -/
theorem TakesOne.pop (h : TakesOne t (.caller guarded q k :: stack) w b m x y)
    (call : w.threads[t]? = some ⟨.run (.call guarded q k), stack⟩) (taking : q.taking? = some (choice, patient, purpose)) :
    x.task.mailbox.lanes.pop choice = some (m, y.task.mailbox.lanes) ∧ y.task.taken = x.task.taken ++ [(m, purpose)] ∧
      y.task.accepted = x.task.accepted ∧ y.threads[t]? = some (purpose.taken m patient (.caller guarded q k :: stack)) := by
  obtain ⟨choice', patient', purpose', hx, hy, journal⟩ := h.takes.stands
  -- The thread has not taken a mail before, so it stands at the take that the request leads to.
  have same : (choice', patient', purpose') = (choice, patient, purpose) := by
    rcases h.own.before.untaken taking call with ⟨th, hth, untaken⟩ | ⟨m₁, x₁, y₁, own₁, takes₁, -⟩
    · obtain rfl : th = _ := Option.some.inj (hth.symm.trans hx)
      cases untaken with
      | taking _ _ _ h => exact Option.some.inj (h.symm.trans taking)
    · exact absurd takes₁ (h.before x₁ y₁ m₁ own₁)
  cases same
  obtain ⟨pick, step⟩ := h.takes.step
  obtain ⟨th, n, hs⟩ := step?_eq_some step
  obtain rfl : th = _ := Option.some.inj (hs.thread.symm.trans hx)
  have task := hs.task
  -- A step that takes no mail does not write that it has taken one.
  have wrote : y.task.journal ≠ x.task.journal := fun same => List.ne_cons_self (same.symm.trans journal)
  have turn := hs.turn
  cases turn with
  | taken m' _ _ _ l _ was pop =>
    obtain rfl : m' = m := by
      rw [task] at journal
      cases purpose <;> cases journal <;> rfl
    refine ⟨?_, ?_, ?_, hy⟩
    · rw [pop, task]
      cases purpose <;> rfl
    · rw [Task.taken, Task.traffic, journal]
      exact history_cons_of_some (f := Occurrence.taking?) rfl _
    · rw [Task.accepted, Task.traffic, journal]
      exact history_cons_of_none (f := Occurrence.acceptance?) rfl _
  | shutOut | missed | drained | rested => exact absurd (congrArg Task.journal task) wrote

/-- The mail that a call takes is taken in its time. -/
theorem TakesOne.taken_le (h : TakesOne t (.caller guarded q k :: stack) w b m x y)
    (call : w.threads[t]? = some ⟨.run (.call guarded q k), stack⟩) (taking : q.taking? = some (choice, patient, purpose)) :
    w.task.taken.length + 1 ≤ b.task.taken.length := by
  obtain ⟨-, took, -⟩ := h.pop call taking
  have one : y.task.taken.length = x.task.taken.length + 1 := by rw [took, List.length_append, List.length_singleton]
  have before := h.own.before.reach.taken_le
  have after := h.own.after.reach.taken_le
  omega

/-- A call in whose time no mail is put, and none is taken but the one that it takes, takes that from the lanes as they were before, and
leaves them as they are after. -/
theorem TakesOne.lanes (h : TakesOne t (.caller guarded q k :: stack) w b m x y)
    (call : w.threads[t]? = some ⟨.run (.call guarded q k), stack⟩) (taking : q.taking? = some (choice, patient, purpose))
    (accepted : b.task.accepted = w.task.accepted) (taken : b.task.taken.length ≤ w.task.taken.length + 1)
    (status : b.task.mailbox.status ≠ .closed) : w.task.mailbox.lanes.pop choice = some (m, b.task.mailbox.lanes) := by
  obtain ⟨pop, took, put, -⟩ := h.pop call taking
  have before := h.own.before.reach
  have after := h.own.after.reach
  have rest := h.own.rest.reach
  have one : y.task.taken.length = x.task.taken.length + 1 := by rw [took, List.length_append, List.length_singleton]
  have lower := before.taken_le
  have upper := after.taken_le
  have accepted' := before.accepted_eq rest accepted
  have first : x.task.mailbox.lanes = w.task.mailbox.lanes :=
    before.lanes_same accepted' (by omega) fun closed => status (rest.closed closed)
  have last : b.task.mailbox.lanes = y.task.mailbox.lanes :=
    after.lanes_same (accepted.trans (put.trans accepted').symm) (by omega) status
  rw [← first, last, pop]

/-- A yield that has run a mail does not say that it has found none. -/
theorem During.not_missed (h : w.During t stack b) (back : b.threads[t]? = some ⟨.answer (.flag false), stack⟩)
    (hx : w.threads[t]? = some ⟨.launch m false, .yield false :: stack⟩) : False := by
  obtain ⟨z, stage, -, later, hz, heard⟩ := h.ran (.inl ⟨_, back⟩) hx
  have passes : ∀ {r : Reply ν}, z.threads[t]? = some ⟨.answer r, .yield false :: stack⟩ → r ≠ .flag false → False := by
    intro r hz other
    rcases later.through_yield back hz with said | said
    · cases said
    · exact other said.symm
  rcases heard with rfl | ⟨y, how, -, -, -, -, rfl⟩
  · exact passes hz (fun said => by cases said)
  · cases how with
    | returned => exact passes hz (fun said => by cases said)
    | failed => exact passes hz (fun said => by cases said)
    | panicked => exact later.not_unwinding (f := .yield false) back trivial hz

/-- A yield that says that it has found no mail has found none in the lanes as they are now. -/
theorem Replied.found_nothing (h : w.Replied t (.call guarded (.yield p false) k) f stack (.flag false) b)
    (owner : t = w.task.mailbox.owner) :
    b.task.mailbox.lanes.pop (.eligible p) = none ∧ b.task.mailbox.status ≠ .closed := by
  obtain ⟨frame, call, during, back⟩ := h
  cases frame
  rcases during.leaves (S := fun th => th = ⟨.run (.call guarded (.yield p false) k), stack⟩ ∨
      th = ⟨.take (.eligible p) false .yield, .caller guarded (.yield p false) k :: stack⟩) ⟨_, call, .inl rfl⟩
    with ⟨th, hb, rfl | rfl⟩ | ⟨x, pick, th, n, y, own, hs, rfl | rfl, outside⟩
  · cases hb.symm.trans back
  · cases hb.symm.trans back
  · have hstep := hs.step
    simp only [Thread.stepStage, Thread.stepBody, Thread.call_yield (owner.trans own.before.reach.owner.symm)] at hstep
    cases hstep
    exact absurd (.inr rfl) outside
  · have arrived := hs.own
    have task := hs.task
    have turn := hs.turn
    cases turn with
    | taken => exact (own.after.not_missed back arrived).elim
    | shutOut => cases own.after.reply_eq arrived back
    | missed _ _ _ was pop =>
      obtain rfl := own.after.eq_of_back (.inl ⟨_, arrived⟩)
      rw [task]
      exact ⟨pop, was⟩

/-- A yield that says that it has run a mail has taken one, and begun to run it. -/
theorem Replied.ran_one (h : w.Replied t (.call guarded (.yield p false) k) f stack (.flag true) b) :
    ∃ m x y, TakesOne t (f :: stack) w b m x y ∧ x.task.mailbox.lanes.pop (.eligible p) = some (m, y.task.mailbox.lanes) ∧
      y.threads[t]? = some ⟨.launch m false, .yield false :: f :: stack⟩ := by
  rcases h.takes_or_untouched rfl with ⟨idle, -⟩ | ⟨m, x, y, takes, -⟩
  · cases idle
  · obtain ⟨frame, call, -, -⟩ := h
    cases frame
    obtain ⟨pop, -, -, hy⟩ := takes.pop call rfl
    exact ⟨m, x, y, takes, pop, hy⟩

/-! ## Yield after yield -/

/-- From `w` on thread `t` yields with threshold `p`, again and again, until a yield finds no mail to run: `ms` are the mails that the
yields have taken, and in the world `b` the last has said that there is none. Before each yield time may pass. -/
inductive Yields (t : ThreadId) (p : Priority) : World σ ν → List (Letter σ ν) → World σ ν → Prop where
  | done {w b : World σ ν} {guarded : Bool} {k : Reply ν → Body σ ν} {f : Frame σ ν} {stack : List (Frame σ ν)}
    (call : w.Replied t (.call guarded (.yield p false) k) f stack (.flag false) b) : Yields t p w [] b
  | ran {w a b x y : World σ ν} {guarded : Bool} {k : Reply ν → Body σ ν} {f : Frame σ ν} {stack : List (Frame σ ν)} {m : Letter σ ν}
    {ms : List (Letter σ ν)} (call : w.Replied t (.call guarded (.yield p false) k) f stack (.flag true) a)
    (takes : TakesOne t (f :: stack) w a m x y) (rest : Yields t p a ms b) : Yields t p w (m :: ms) b
  | later {w a b : World σ ν} {ms : List (Letter σ ν)} (time : w.Reach a) (rest : Yields t p a ms b) : Yields t p w ms b

namespace Yields

variable {ms : List (Letter σ ν)}

theorem reach (h : w.Yields t p ms b) : w.Reach b := by
  induction h with
  | done call => exact call.during.reach
  | ran call _ _ ih => exact call.during.reach.trans ih
  | later time _ ih => exact time.trans ih

/-- The last yield has found nothing in the lanes as they are at the end. -/
theorem found_nothing (h : w.Yields t p ms b) (owner : t = w.task.mailbox.owner) :
    b.task.mailbox.lanes.pop (.eligible p) = none ∧ b.task.mailbox.status ≠ .closed := by
  induction h with
  | done call => exact call.found_nothing owner
  | ran call _ _ ih => exact ih (owner.trans call.during.reach.owner.symm)
  | later time _ ih => exact ih (owner.trans time.owner.symm)

end Yields

/-- Each mail that the yields have taken was taken in that time. -/
theorem Yields.taken_le {ms : List (Letter σ ν)} (h : w.Yields t p ms b) : w.task.taken.length + ms.length ≤ b.task.taken.length := by
  induction h with
  | done call => exact call.during.reach.taken_le
  | ran call takes rest ih =>
    obtain ⟨frame, call, -, -⟩ := call
    cases frame
    have one := takes.taken_le call rfl
    rw [List.length_cons]
    omega
  | later time _ ih => exact Nat.le_trans (Nat.add_le_add_right time.taken_le _) ih

/-- If no mail is put and none is taken but by these yields, they have run the queue from front to back. -/
theorem Yields.queued {ms : List (Letter σ ν)} (h : w.Yields t .lowest ms b) (possible : w.Possible) (owner : t = w.task.mailbox.owner)
    (admits : b.Admits) (accepted : b.task.accepted = w.task.accepted)
    (taken : b.task.taken.length = w.task.taken.length + ms.length) : ms = w.task.queued := by
  induction h with
  | @done w b _ _ _ _ call =>
    obtain ⟨pop, status⟩ := call.found_nothing owner
    have reach := call.during.reach
    rw [admits.pop (possible.reach reach)] at pop
    have lanes := reach.lanes_same accepted (Nat.le_of_eq taken) status
    rw [Task.queued, ← lanes, Lanes.toList_of_pop_oldest pop]
  | @ran w a b x y _ _ _ _ m ms call takes rest ih =>
    have reach := call.during.reach
    have status := (rest.found_nothing (owner.trans reach.owner.symm)).2
    obtain ⟨frame, call, -, -⟩ := call
    cases frame
    -- The first of the yields has taken one mail, and the others have taken one each.
    have one := takes.taken_le call rfl
    have others := rest.taken_le
    rw [List.length_cons] at taken
    have accepted' := reach.accepted_eq rest.reach accepted
    have pop := takes.lanes call rfl accepted' (by omega) fun closed => status (rest.reach.closed closed)
    rw [(admits.earlier (reach.trans rest.reach)).pop possible] at pop
    have ran := ih (possible.reach reach) (owner.trans reach.owner.symm) admits (accepted.trans accepted'.symm) (by omega)
    rw [ran, Task.queued, Task.queued, Lanes.toList_of_pop_oldest_eq_some pop]
  | later time rest ih =>
    have none := time.taken_le
    have all := rest.taken_le
    have status := (rest.found_nothing (owner.trans time.owner.symm)).2
    have accepted' := time.accepted_eq rest.reach accepted
    have lanes := time.lanes_same accepted' (by omega) fun closed => status (rest.reach.closed closed)
    have ran := ih (possible.reach time) (owner.trans time.owner.symm) admits (accepted.trans accepted'.symm) (by omega)
    rw [ran, Task.queued, lanes, Task.queued]

/-! ## A yield that is left alone -/

/-- The mailbox thread, left alone with a yield that does not wait, says that there is no mail to run, or takes one and begins to run it,
unless the mailbox is closed. -/
theorem Possible.try_yield (possible : w.Possible) (owner : t = w.task.mailbox.owner) (status : w.task.mailbox.status ≠ .closed)
    (hx : w.threads[t]? = some ⟨.run (.call guarded (.yield p false) k), stack⟩) :
    ∃ x, w.Reach x ∧
      ((w.task.mailbox.lanes.pop (.eligible p) = none ∧ x.task = w.task ∧
        x.threads[t]? = some ⟨.answer (.flag false), .caller guarded (.yield p false) k :: stack⟩) ∨
      ∃ m, w.task.mailbox.lanes.pop (.eligible p) = some (m, x.task.mailbox.lanes) ∧
        x.threads[t]? = some ⟨.launch m false, .yield false :: .caller guarded (.yield p false) k :: stack⟩) := by
  have awake := possible.awake_of_run hx
  have first : w.Stepped t 0 _ (w.task, ⟨.take (.eligible p) false .yield, .caller guarded (.yield p false) k :: stack⟩)
      (w.after t w.task ⟨.take (.eligible p) false .yield, .caller guarded (.yield p false) k :: stack⟩ []) :=
    ⟨hx, awake, by simp only [Thread.stepStage, Thread.stepBody, Thread.call_yield owner], rfl⟩
  cases pop : w.task.mailbox.lanes.pop (.eligible p) with
  | none =>
    have second : Stepped _ t 0 _ (w.task, ⟨.answer (.flag false), .caller guarded (.yield p false) k :: stack⟩) _ :=
      ⟨first.own, awake, by
        simp only [first.task, Thread.stepStage, Thread.stepTake, Mailbox.take_of_pop_eq_none status pop]
        rfl, rfl⟩
    exact ⟨_, (Reach.here.step first.step?_eq).step second.step?_eq, .inl ⟨rfl, second.task, second.own⟩⟩
  | some taken =>
    obtain ⟨m, l⟩ := taken
    have second : Stepped _ t 0 _ (Thread.useTaken ({ w.task with mailbox := { w.task.mailbox with
        lanes := l
        senders := Mailbox.wakeOne 0 w.task.mailbox.senders } }.log (.taken m (.eligible p) .yield))
        (.caller guarded (.yield p false) k :: stack) m false .yield) _ :=
      ⟨first.own, awake, by
        simp only [first.task, Thread.stepStage, Thread.stepTake, Mailbox.take_of_pop_eq_some status pop], rfl⟩
    exact ⟨_, (Reach.here.step first.step?_eq).step second.step?_eq, .inr ⟨m, by rw [second.task]; rfl, second.own⟩⟩

end World

/-- A yield with the lowest threshold runs what the main loop would run. The mailbox thread is `t`, and no mail was put that is deferrable,
or that is not urgent and below the lowest of priorities. Then a take with that threshold and a take of the main loop's kind come to the
same. A yield that is left alone takes the first of all queued mail and runs it, or says that there is none. A yield that has run a mail has
taken what the main loop would have taken at that moment, whatever was put meanwhile. And yields that go on until one finds no mail leave
the mailbox empty; if nothing else puts or takes mail meanwhile, they have run the queue from front to back, as takes of the main loop's
kind would have taken it. -/
theorem lowest_yields {w : World σ ν} (possible : w.Possible) {t : ThreadId} (owner : t = w.task.mailbox.owner) :
    (w.Admits → ∀ pick, w.task.mailbox.take (.eligible .lowest) pick = w.task.mailbox.take .oldest pick) ∧
    (∀ guarded k stack, w.threads[t]? = some ⟨.run (.call guarded (.yield .lowest false) k), stack⟩ → w.Admits →
      w.task.mailbox.status ≠ .closed → ∃ x, w.Reach x ∧
        ((w.task.queued = [] ∧ x.task = w.task ∧
          x.threads[t]? = some ⟨.answer (.flag false), .caller guarded (.yield .lowest false) k :: stack⟩) ∨
        ∃ m, w.task.queued = m :: x.task.queued ∧
          x.threads[t]? = some ⟨.launch m false, .yield false :: .caller guarded (.yield .lowest false) k :: stack⟩)) ∧
    (∀ guarded k f stack a, w.Replied t (.call guarded (.yield .lowest false) k) f stack (.flag true) a → a.Admits →
      ∃ m x y, w.TakesOne t (f :: stack) a m x y ∧ x.task.mailbox.lanes.pop .oldest = some (m, y.task.mailbox.lanes) ∧
        y.threads[t]? = some ⟨.launch m false, .yield false :: f :: stack⟩) ∧
    ∀ ms b, w.Yields t .lowest ms b → b.Admits → b.task.queued = [] ∧
      (b.task.accepted = w.task.accepted → b.task.taken.length = w.task.taken.length + ms.length → ms = w.task.queued ∧
        ∀ tickets d, w.Sweeps t .oldest tickets d → d.task.accepted = w.task.accepted → tickets = ms.map Mail.ticket) := by
  refine ⟨fun admits pick => ?_, ?_, ?_, fun ms b yields admits => ⟨?_, fun accepted taken => ?_⟩⟩
  · simp only [Mailbox.take, admits.pop possible]
  · intro guarded k stack hx admits status
    obtain ⟨x, reach, ⟨pop, task, said⟩ | ⟨m, pop, runs⟩⟩ := possible.try_yield owner status hx
    · exact ⟨x, reach, .inl ⟨Lanes.toList_of_pop_oldest (admits.pop possible ▸ pop), task, said⟩⟩
    · exact ⟨x, reach, .inr ⟨m, Lanes.toList_of_pop_oldest_eq_some (admits.pop possible ▸ pop), runs⟩⟩
  · intro guarded k f stack a call admits
    obtain ⟨m, x, y, takes, pop, runs⟩ := call.ran_one
    rw [(admits.earlier takes.own.rest.reach).pop (possible.reach takes.own.before.reach)] at pop
    exact ⟨m, x, y, takes, pop, runs⟩
  · have pop := (yields.found_nothing owner).1
    rw [admits.pop (possible.reach yields.reach)] at pop
    exact Lanes.toList_of_pop_oldest pop
  · have ran := yields.queued possible owner admits accepted taken
    refine ⟨ran, fun tickets d sweeps same => ?_⟩
    rw [(sweeps.swept possible owner same).tickets, ran, Lanes.admitted_oldest]
    rfl

/-- A task whose only thread sends a mail of the lowest of priorities and one that is urgent, and then yields with the lowest threshold
three times. -/
def lowTask : World Unit Nat :=
  .start (.new ⟨2⟩ 0 none (fun _ => .finish (.returned 0)) ())
    [.post ⟨⟨"low", []⟩, .empty, -1⟩ (.finish (.returned 0)) fun _ =>
      .post ⟨⟨"urgent", []⟩, .urgent, -5⟩ (.finish (.returned 0)) fun _ =>
        .call false (.yield .lowest false) fun _ => .call false (.yield .lowest false) fun _ =>
          .call false (.yield .lowest false) fun _ => .finish (.returned 0)]

theorem lowest_yields_of_lowTask : ∃ ms, (lowTask.advanced 6).Yields 0 .lowest ms (lowTask.advanced 20) ∧
    ms = (lowTask.advanced 6).task.queued ∧ ms.map Mail.ticket = [1, 0] ∧ (lowTask.advanced 20).task.queued = [] := by
  have possible : lowTask.Possible := ⟨⟨2⟩, 0, none, _, (), _, .here⟩
  have start := lowTask.reach_advanced 6
  have first : (lowTask.advanced 6).Replied 0 _ _ [] (.flag true) (lowTask.advanced 11) :=
    ⟨rfl, rfl, .of_moves (List.replicate 5 (.step 0 0)) rfl, rfl⟩
  have second : (lowTask.advanced 12).Replied 0 _ _ [] (.flag true) (lowTask.advanced 17) :=
    ⟨rfl, rfl, .of_moves (List.replicate 5 (.step 0 0)) rfl, rfl⟩
  have third : (lowTask.advanced 18).Replied 0 _ _ [] (.flag false) (lowTask.advanced 20) :=
    ⟨rfl, rfl, .of_moves (List.replicate 2 (.step 0 0)) rfl, rfl⟩
  obtain ⟨m, _, _, takes, -⟩ := first.ran_one
  obtain ⟨m', _, _, takes', -⟩ := second.ran_one
  have yields : (lowTask.advanced 6).Yields 0 .lowest [m, m'] (lowTask.advanced 20) :=
    .ran first takes (.later (.of_moves [.step 0 0] rfl) (.ran second takes' (.later (.of_moves [.step 0 0] rfl) (.done third))))
  have admits : (lowTask.advanced 20).Admits := ⟨by decide, by decide⟩
  obtain ⟨empty, ran⟩ := (lowest_yields (possible.reach start) rfl).2.2.2 _ _ yields admits
  obtain ⟨queued, -⟩ := ran rfl rfl
  exact ⟨_, yields, queued, by rw [queued]; rfl, empty⟩

/-! ## Mail below the lowest of priorities

Nothing keeps a sender from a priority below the lowest, and a yield with the lowest threshold passes over such mail, as in `belowTask`. -/

/-- Yields with the lowest threshold that go on until one finds no mail leave the mailbox empty, if no mail that was put is deferrable. -/
def LowestRunsAll (σ ν : Type) : Prop :=
  ∀ (w b : World σ ν) (t : ThreadId) ms, w.Possible → t = w.task.mailbox.owner → w.Yields t .lowest ms b →
    (∀ put ∈ b.task.accepted, put.1.isDeferrable = false) → b.task.queued = []

/-- A task whose only thread sends a mail of priority -5, and then yields with the lowest threshold. -/
def belowTask : World Unit Nat :=
  .start (.new ⟨4⟩ 0 none (fun _ => .finish (.returned 0)) ())
    [.post ⟨⟨"m", []⟩, .empty, -5⟩ (.finish (.returned 0)) fun _ =>
      .call false (.yield .lowest false) fun _ => .finish (.returned 0)]

theorem lowestRunsAll_false : ¬LowestRunsAll Unit Nat := by
  intro all
  have possible : belowTask.Possible := ⟨⟨4⟩, 0, none, _, (), _, .here⟩
  have start := belowTask.reach_advanced 3
  have call : (belowTask.advanced 3).Replied 0 _ _ [] (.flag false) (belowTask.advanced 5) :=
    ⟨rfl, rfl, .of_moves (List.replicate 2 (.step 0 0)) rfl, rfl⟩
  exact absurd (all _ _ 0 [] (possible.reach start) rfl (.done call) (by decide)) (by decide)

end Mailroom
