import Mailroom.Proofs.Draining
import Mailroom.Proofs.Likeness

/-!
# Steps and the main loop agree

`steps_agree`: where a task is ending in good order, one call of the main loop and a step that is called again and again do the same, end
alike, and leave alike tasks behind. Both are read as one thing, which runs mail after mail until none is left or one has failed
(`Rounds`): the main loop by `Comes.rounds` and `Rounds.comes`, the steps by `StepsCome.rounds` and `Rounds.steps`. And mail after mail
comes to the same whoever runs it (`Rounds.alike`).
-/

namespace Mailroom

variable {σ ν : Type}

/-! ## One mail -/

/-- What the main loop (`whole`) or a step takes mail for. -/
def Purpose.serving (whole : Bool) : Purpose := if whole then .loop else .step

namespace Task

/-- The task when the main loop (`whole`) or a step has taken the mail `m`; `l` is what is left in the lanes. -/
def relieved (w : Task σ ν) (whole : Bool) (m : Letter σ ν) (l : Lanes (Job σ ν)) : Task σ ν :=
  { w with mailbox := { w.mailbox with
      lanes := l
      senders := Mailbox.wakeOne 0 w.mailbox.senders } }.log (.taken m .oldest (.serving whole))

/-- The same, and the mail is counted. -/
def served (w : Task σ ν) (whole : Bool) (m : Letter σ ν) (l : Lanes (Job σ ν)) : Task σ ν :=
  { w.relieved whole m l with processor := { w.processor with processed := w.processor.processed + 1 } }

/-- The task when the main loop has ended in good order, with no mail left. -/
def woundUp (w : Task σ ν) : Task σ ν :=
  { w.log (.cleared []) with
    mailbox := { w.mailbox with
      status := .closed
      lanes := w.mailbox.lanes.cleared
      senders := []
      takers := [] }
    processor := { w.processor with status := .closed } }

/-- Which of the two took the mail is told only by the journal. -/
theorem served_blurred (w : Task σ ν) (whole : Bool) (m : Letter σ ν) (l : Lanes (Job σ ν)) :
    (w.served whole m l).blurred = w.blurred.served false m l := by
  cases whole <;> rfl

theorem woundUp_blurred (w : Task σ ν) : w.woundUp.blurred = w.blurred.woundUp := rfl

end Task

namespace Draining

variable {w v : Task σ ν} {me : ThreadId} {m : Letter σ ν} {l : Lanes (Job σ ν)}

/-- Nothing of this is told by the journal. -/
theorem alike (h : Draining me w) (alike : w.blurred = v.blurred) : Draining me v := by
  obtain ⟨mailbox, processor, -, hand, -⟩ := Task.mk.inj alike
  exact {
    owner := mailbox ▸ h.owner
    awake := mailbox ▸ h.awake
    orderly := mailbox ▸ h.orderly
    mailbox := mailbox ▸ h.mailbox
    processor := processor ▸ h.processor
    report := processor ▸ h.report
    lock := processor ▸ h.lock
    queue := fun m hm => h.queue m (by rw [Task.queued, mailbox]; exact hm)
    hand := hand ▸ h.hand }

theorem gentle_served (whole : Bool) (pop : w.mailbox.lanes.pop .oldest = some (m, l)) : Gentle w (w.served whole m l) :=
  .took m .oldest l 0 pop rfl fun _ => .inl

/-- A task that is ending in good order goes on to do so when a mail is taken. -/
theorem served (h : Draining me w) (whole : Bool) (pop : w.mailbox.lanes.pop .oldest = some (m, l)) :
    Draining me (w.served whole m l) where
  owner := h.owner
  awake := (gentle_served whole pop).awake h.awake
  orderly := ⟨(Lanes.pop_eq_some h.orderly.wellFormed pop).wellFormed h.orderly.wellFormed, fun closed => absurd closed h.not_closed⟩
  mailbox := h.mailbox
  processor := h.processor
  report := h.report
  lock := h.lock
  queue m hm := h.queue m (((gentle_served whole pop).queued h.orderly).1 m hm)
  hand := h.hand

/-- What a mail that was taken leaves behind, and how much. -/
theorem ran {whole : Bool} {base : List (Frame σ ν)} {programs : List (Body σ ν)} {r : Reply ν} (h : Draining me w)
    (pop : w.mailbox.lanes.pop .oldest = some (m, l))
    (run : Thread.Comes me (.serve whole :: base) (w.served whole m l) ⟨.launch m true, .serve whole :: base⟩ programs r v) :
    Draining me v ∧ v.queued.length < w.queued.length := by
  have perm : w.queued.Perm (m :: l.toList) := Thread.perm_of_pop h.orderly.wellFormed pop
  have peaceful : m.Peaceful := h.queue m (perm.mem_iff.mpr List.mem_cons_self)
  obtain ⟨draining, fewer⟩ := (h.served whole pop).comes run peaceful .mail
  exact ⟨draining, by rw [perm.length_eq]; exact Nat.lt_succ_of_le fewer⟩

end Draining

namespace Thread

variable {w w' v : Task σ ν} {me : ThreadId} {whole : Bool} {base stack : List (Frame σ ν)} {programs : List (Body σ ν)} {r : Reply ν}
  {m : Letter σ ν} {l : Lanes (Job σ ν)}

/-- A call goes to its first section. -/
theorem comes_call_iff (awake : w.mailbox.isAsleep me = false) {guarded : Bool} {q : Request} {k : Reply ν → Body σ ν}
    {stage : Stage σ ν} (hcall : call w me stack q = (v, stage)) :
    Comes me base w ⟨.run (.call guarded q k), stack⟩ programs r w' ↔
      Comes me base v ⟨stage, .caller guarded q k :: stack⟩ programs r w' := by
  have h : stepStage w me 0 stack (.run (.call guarded q k)) = some (v, ⟨stage, .caller guarded q k :: stack⟩) := by
    simp only [stepStage, stepBody, hcall]
  exact comes_step_iff rfl awake h rfl

/-- The main loop goes for the next mail, whatever default action there is. -/
theorem comes_consult_iff (h : Draining me w) :
    Comes me base w ⟨.consult, base⟩ programs r w' ↔ Comes me base w ⟨.take .oldest true .loop, base⟩ programs r w' := by
  refine (comes_step_iff rfl h.awake rfl rfl).trans ?_
  cases hwork : w.processor.defaultAction.isSome && !w.processor.suspended with
  | true =>
    simp only [stepConsult, hwork, if_true]
    refine (comes_step_iff rfl h.awake rfl rfl).trans ?_
    simp only [stepConsultStatus, h.processor]
    rfl
  | false => simp only [stepConsult, hwork]; rfl

/-- A mail that was taken is run, and comes back to the main loop or to the step. -/
theorem comes_take_iff (whole : Bool) (h : Draining me w) (pop : w.mailbox.lanes.pop .oldest = some (m, l)) :
    Comes me base w ⟨.take .oldest whole (.serving whole), base⟩ programs r w' ↔ ∃ before r₁ w₁ after,
      Comes me (.serve whole :: base) (w.served whole m l) ⟨.launch m true, .serve whole :: base⟩ before r₁ w₁ ∧
      Comes me base w₁ ⟨.answer r₁, .serve whole :: base⟩ after r w' ∧ programs = before ++ after := by
  have awake : (w.relieved whole m l).mailbox.isAsleep me = false := (h.served whole pop).awake
  have htake := @Mailbox.take_of_pop_eq_some _ _ _ 0 _ _ h.not_closed pop
  have take : stepStage w me 0 base (.take .oldest whole (.serving whole)) = some (w.relieved whole m l, ⟨.serve m whole, base⟩) := by
    cases whole <;> simp only [stepStage, stepTake, htake] <;> rfl
  have serve : stepStage (w.relieved whole m l) me 0 base (.serve m whole) =
      some (w.served whole m l, ⟨.launch m true, .serve whole :: base⟩) := rfl
  exact ((comes_step_iff rfl h.awake take rfl).trans (comes_step_iff rfl awake serve rfl)).trans (comes_through_iff [])

/-- With no mail left the main loop closes mailbox and task, and is done. -/
theorem comes_windUp_iff (h : Draining me w) (pop : w.mailbox.lanes.pop .oldest = none) :
    Comes me base w ⟨.take .oldest true .loop, base⟩ programs r w' ↔ programs = [] ∧ r = .done ∧ w' = w.woundUp := by
  have empty := Lanes.toList_of_pop_oldest pop
  have take : stepStage w me 0 base (.take .oldest true .loop) = some (w, ⟨.shut .windUp, base⟩) := by
    simp only [stepStage, stepTake, Mailbox.take_of_pop_eq_none h.not_closed pop, h.mailbox]
    rfl
  have shut : stepStage w me 0 base (.shut .windUp) = some ({ w with mailbox := { w.mailbox with
      status := .closed
      lanes := w.mailbox.lanes.cleared } }.log (.cleared []), ⟨.wakeAll (.drop [] .windUp), base⟩) := by
    simp only [stepStage, stay, stepShut, Mailbox.close, if_neg h.not_closed, empty]
  have collect : stepStage w.woundUp me 0 base .collect = some (w.woundUp, ⟨.answer .done, base⟩) := by
    simp [stepStage, stepCollect, Task.woundUp, h.lock, h.report, stay]
  refine (comes_step_iff rfl h.awake take rfl).trans ?_
  refine (comes_step_iff rfl h.awake shut rfl).trans ?_
  -- All are woken, nothing is dropped, and the task is marked closed.
  refine Iff.trans (comes_step_iff rfl h.awake rfl rfl) ?_
  refine Iff.trans (comes_step_iff rfl rfl rfl rfl) ?_
  refine Iff.trans (comes_step_iff rfl rfl rfl rfl) ?_
  exact (comes_step_iff rfl rfl collect rfl).trans comes_back_iff

/-- With no mail left a step says so, and leaves everything as it is. -/
theorem comes_missed_iff (h : Draining me w) (pop : w.mailbox.lanes.pop .oldest = none) :
    Comes me base w ⟨.take .oldest false .step, base⟩ programs r w' ↔ programs = [] ∧ r = .flag false ∧ w' = w := by
  have take : stepStage w me 0 base (.take .oldest false .step) = some (w, ⟨.answer (.flag false), base⟩) := by
    simp only [stepStage, stepTake, Mailbox.take_of_pop_eq_none h.not_closed pop]
    rfl
  exact (comes_step_iff rfl h.awake take rfl).trans comes_back_iff

/-- The failure of a mail is the way out, of the main loop and of a step. -/
theorem comes_abort_iff {e : Failure} (awake : w.mailbox.isAsleep me = false) :
    Comes me base w ⟨.answer (.failed e), .serve whole :: base⟩ programs r w' ↔
      Comes me base w ⟨.abort e.toFatal, base⟩ programs r w' := by
  have h : stepStage w me 0 (.serve whole :: base) (.answer (.failed e)) = some (w, ⟨.abort e.toFatal, base⟩) := rfl
  refine comes_step_iff (isAway_of_ne ?_) awake h rfl
  simp

/-- After a mail that went well the main loop goes on, and a step says that it has run a mail. -/
theorem comes_on_iff {r₁ : Reply ν} (well : ∀ e, r₁ ≠ .failed e) (awake : w.mailbox.isAsleep me = false) :
    Comes me base w ⟨.answer r₁, .serve whole :: base⟩ programs r w' ↔
      Comes me base w ⟨if whole then .consult else .answer (.flag true), base⟩ programs r w' := by
  have h : stepStage w me 0 (.serve whole :: base) (.answer r₁) =
      some (w, ⟨if whole then .consult else .answer (.flag true), base⟩) := by
    cases r₁ with
    | failed e => exact absurd rfl (well e)
    | _ => rfl
  refine comes_step_iff (isAway_of_ne ?_) awake h rfl
  simp

/-! ## The way out -/

/-- A call that is on its way out with a failure comes back with it. -/
theorem Comes.leaving {e : Failure} {th : Thread σ ν} (h : Comes me base w th programs r w') (leaving : Leaving base e th) :
    r = .failed e := by
  induction h with
  | back w r =>
    have hverdict := leaving.verdict
    cases r with
    | failed e' => exact congrArg Reply.failed (Option.some.inj hverdict)
    | _ => cases hverdict
  | @step w w' th n programs r away hstep rest ih =>
    obtain ⟨-, hstep⟩ := step_eq_some_iff.mp hstep
    have answered : ∀ r, th ≠ ⟨.answer r, base⟩ := by
      rintro r rfl
      simp [isAway] at away
    rcases (turn_stepStage hstep).leaving leaving answered with still | ⟨p, hp⟩
    · exact ih still
    · rw [hp] at rest
      exact absurd rest not_comes_unwind

/-- A call of the main loop comes back with what is known at its end. -/
theorem Comes.inLoop {before : List Failure} {th : Thread σ ν} (h : Comes me base w th programs r w') (start : InLoop w before base th)
    (owner : me = w.mailbox.owner) (one : th.servings ≤ 1) : Looping w' before (.answer r) := by
  induction h with
  | back => exact start.looping_of_base
  | step away hstep rest ih =>
    obtain ⟨-, hstep⟩ := step_eq_some_iff.mp hstep
    have turn := turn_stepStage hstep
    refine ih (start.step hstep owner one ?_ ?_) (owner.trans turn.toTraffic.owner.symm) ?_
    · rintro r rfl
      simp [isAway] at away
    · rintro p rfl
      simp [isAway] at away
    · rcases turn.toServed.servings with fewer | ⟨-, single, -⟩
      · exact Nat.le_trans fewer one
      · exact Nat.le_of_eq single

/-! ## Mail after mail -/

/-- What the main loop (`whole`) or a step after step answers at the end, with no mail left. -/
def finalReply (whole : Bool) : Reply ν := if whole then .done else .flag false

/-- What it leaves behind then. -/
def finalTask (whole : Bool) (w : Task σ ν) : Task σ ν := if whole then w.woundUp else w

/-- The main loop (`whole`), or a step after step, with the frames `base` under it, runs the queued mail one after another, until none is
left or one has failed. -/
inductive Rounds (me : ThreadId) (whole : Bool) (base : List (Frame σ ν)) :
    Task σ ν → List (Body σ ν) → Reply ν → Task σ ν → Prop where
  | empty {w : Task σ ν} (draining : Draining me w) (pop : w.mailbox.lanes.pop .oldest = none) :
    Rounds me whole base w [] (finalReply whole) (finalTask whole w)
  | failed {w w₁ w' : Task σ ν} {m : Letter σ ν} {l : Lanes (Job σ ν)} {before after : List (Body σ ν)} {e : Failure} {r : Reply ν}
    (pop : w.mailbox.lanes.pop .oldest = some (m, l))
    (run : Comes me (.serve whole :: base) (w.served whole m l) ⟨.launch m true, .serve whole :: base⟩ before (.failed e) w₁)
    (out : Comes me base w₁ ⟨.abort e.toFatal, base⟩ after r w') : Rounds me whole base w (before ++ after) r w'
  | ran {w w₁ w' : Task σ ν} {m : Letter σ ν} {l : Lanes (Job σ ν)} {before after : List (Body σ ν)} {r₁ r : Reply ν}
    (pop : w.mailbox.lanes.pop .oldest = some (m, l))
    (run : Comes me (.serve whole :: base) (w.served whole m l) ⟨.launch m true, .serve whole :: base⟩ before r₁ w₁)
    (well : ∀ e, r₁ ≠ .failed e) (rest : Rounds me whole base w₁ after r w') : Rounds me whole base w (before ++ after) r w'

/-- The main loop goes from mail to mail. -/
theorem Comes.rounds (h : Comes me base w ⟨.consult, base⟩ programs r w') (draining : Draining me w) :
    Rounds me true base w programs r w' := by
  -- By induction on the number of queued mails, which every mail that is run makes smaller.
  induction hn : w.queued.length using Nat.strongRecOn generalizing w programs with
  | _ n ih =>
    rw [comes_consult_iff draining] at h
    cases pop : w.mailbox.lanes.pop .oldest with
    | none =>
      obtain ⟨rfl, rfl, rfl⟩ := (comes_windUp_iff draining pop).mp h
      exact .empty draining pop
    | some taken =>
      obtain ⟨before, r₁, w₁, after, run, rest, rfl⟩ := (comes_take_iff true draining pop).mp h
      obtain ⟨draining₁, fewer⟩ := draining.ran pop run
      by_cases well : ∀ e, r₁ ≠ .failed e
      · exact .ran pop run well (ih _ (hn ▸ fewer) ((comes_on_iff well draining₁.awake).mp rest) draining₁ rfl)
      · obtain ⟨e, rfl⟩ : ∃ e, r₁ = .failed e := by simpa using well
        exact .failed pop run ((comes_abort_iff draining₁.awake).mp rest)

/-- And whatever mail after mail comes to, the main loop comes to. -/
theorem Rounds.comes (h : Rounds me true base w programs r w') (draining : Draining me w) :
    Comes me base w ⟨.consult, base⟩ programs r w' := by
  induction h with
  | empty draining pop => exact (comes_consult_iff draining).mpr ((comes_windUp_iff draining pop).mpr ⟨rfl, rfl, rfl⟩)
  | failed pop run out =>
    have awake := (draining.ran pop run).1.awake
    exact (comes_consult_iff draining).mpr
      ((comes_take_iff true draining pop).mpr ⟨_, _, _, _, run, (comes_abort_iff awake).mpr out, rfl⟩)
  | ran pop run well rest ih =>
    have draining₁ := (draining.ran pop run).1
    exact (comes_consult_iff draining).mpr
      ((comes_take_iff true draining pop).mpr ⟨_, _, _, _, run, (comes_on_iff well draining₁.awake).mpr (ih draining₁), rfl⟩)

/-- Thread `me`, with the frames `stack` under it and left alone, calls the step again and again, until it answers something else than
that it has run a mail. -/
inductive StepsCome (me : ThreadId) (guarded : Bool) (k : Reply ν → Body σ ν) (stack : List (Frame σ ν)) :
    Task σ ν → List (Body σ ν) → Reply ν → Task σ ν → Prop where
  | last {w w' : Task σ ν} {programs : List (Body σ ν)} {r : Reply ν}
    (step : Comes me (.caller guarded .step k :: stack) w ⟨.run (.call guarded .step k), stack⟩ programs r w') (stop : r ≠ .flag true) :
    StepsCome me guarded k stack w programs r w'
  | more {w w₁ w' : Task σ ν} {before after : List (Body σ ν)} {r : Reply ν}
    (step : Comes me (.caller guarded .step k :: stack) w ⟨.run (.call guarded .step k), stack⟩ before (.flag true) w₁)
    (rest : StepsCome me guarded k stack w₁ after r w') : StepsCome me guarded k stack w (before ++ after) r w'

section

variable {guarded : Bool} {k : Reply ν → Body σ ν}

/-- A step goes for the next mail. -/
theorem comes_step_call_iff (h : Draining me w) (free : stack.any Frame.isServing = false) :
    Comes me base w ⟨.run (.call guarded .step k), stack⟩ programs r w' ↔
      Comes me base w ⟨.take .oldest false .step, .caller guarded .step k :: stack⟩ programs r w' :=
  comes_call_iff h.awake (by simp [call, onDuty, exclusive, h.owner, free])

/-- A step runs one mail and says so, or it is the last. -/
theorem Comes.step_cases (h : Comes me (.caller guarded .step k :: stack) w ⟨.run (.call guarded .step k), stack⟩ programs r w')
    (draining : Draining me w) (free : stack.any Frame.isServing = false) :
    (r ≠ .flag true ∧ Rounds me false (.caller guarded .step k :: stack) w programs r w') ∨
    (r = .flag true ∧ ∃ m l r₁, w.mailbox.lanes.pop .oldest = some (m, l) ∧ (∀ e, r₁ ≠ .failed e) ∧
      Comes me (.serve false :: .caller guarded .step k :: stack) (w.served false m l)
        ⟨.launch m true, .serve false :: .caller guarded .step k :: stack⟩ programs r₁ w') := by
  rw [comes_step_call_iff draining free] at h
  cases pop : w.mailbox.lanes.pop .oldest with
  | none =>
    obtain ⟨rfl, rfl, rfl⟩ := (comes_missed_iff draining pop).mp h
    exact .inl ⟨by simp, .empty draining pop⟩
  | some taken =>
    obtain ⟨m, l⟩ := taken
    obtain ⟨before, r₁, w₁, after, run, rest, rfl⟩ := (comes_take_iff false draining pop).mp h
    have awake := (draining.ran pop run).1.awake
    by_cases well : ∀ e, r₁ ≠ .failed e
    · obtain ⟨rfl, rfl, rfl⟩ := comes_back_iff.mp ((comes_on_iff well awake).mp rest)
      exact .inr ⟨rfl, m, l, r₁, rfl, well, by rw [List.append_nil]; exact run⟩
    · obtain ⟨e, rfl⟩ : ∃ e, r₁ = .failed e := by simpa using well
      have out := (comes_abort_iff awake).mp rest
      exact .inl ⟨by rw [out.leaving (.leaving _ rfl)]; simp, .failed pop run out⟩

/-- Step after step goes from mail to mail. -/
theorem StepsCome.rounds (h : StepsCome me guarded k stack w programs r w') (draining : Draining me w)
    (free : stack.any Frame.isServing = false) : Rounds me false (.caller guarded .step k :: stack) w programs r w' := by
  induction h with
  | last step stop =>
    rcases step.step_cases draining free with ⟨-, rounds⟩ | ⟨again, -⟩
    · exact rounds
    · exact absurd again stop
  | more step rest ih =>
    rcases step.step_cases draining free with ⟨stop, -⟩ | ⟨-, m, l, r₁, pop, well, run⟩
    · exact absurd rfl stop
    · exact .ran pop run well (ih (draining.ran pop run).1)

/-- And whatever mail after mail comes to, step after step comes to. -/
theorem Rounds.steps (h : Rounds me false (.caller guarded .step k :: stack) w programs r w') (draining : Draining me w)
    (free : stack.any Frame.isServing = false) : StepsCome me guarded k stack w programs r w' := by
  induction h with
  | empty draining pop =>
    exact .last ((comes_step_call_iff draining free).mpr ((comes_missed_iff draining pop).mpr ⟨rfl, rfl, rfl⟩)) (by simp [finalReply])
  | failed pop run out =>
    have awake := (draining.ran pop run).1.awake
    refine .last ((comes_step_call_iff draining free).mpr ?_) (by rw [out.leaving (.leaving _ rfl)]; simp)
    exact (comes_take_iff false draining pop).mpr ⟨_, _, _, _, run, (comes_abort_iff awake).mpr out, rfl⟩
  | ran pop run well rest ih =>
    have draining₁ := (draining.ran pop run).1
    refine .more ((comes_step_call_iff draining free).mpr ?_) (ih draining₁)
    exact (comes_take_iff false draining pop).mpr
      ⟨_, _, _, _, run, (comes_on_iff well draining₁.awake).mpr (.back _ _), (List.append_nil _).symm⟩

end

/-! ## The same from tasks that are alike -/

/-- How mail after mail ended for the main loop (`whole`) or a step after step, and for another of these (`whole'`): no mail was left,
or the same mail has failed. What they leave behind is alike up to what the main loop does at its end. -/
inductive SameEnd (me : ThreadId) (whole whole' : Bool) : Reply ν → Task σ ν → Reply ν → Task σ ν → Prop where
  | empty {x y : Task σ ν} (draining : Draining me x) (pop : x.mailbox.lanes.pop .oldest = none) (alike : x.blurred = y.blurred) :
    SameEnd me whole whole' (finalReply whole) (finalTask whole x) (finalReply whole') (finalTask whole' y)
  | failed {x y : Task σ ν} (e : Failure) (alike : x.blurred = y.blurred) :
    SameEnd me whole whole' (.failed (.fatal e)) x (.failed (.fatal e)) y

/-- Mail after mail comes to the same for the main loop and for a step after step. -/
theorem Rounds.alike {whole' : Bool} {base' : List (Frame σ ν)} (h : Rounds me whole base w programs r w') (below : Below base base')
    (alike : w.blurred = v.blurred) :
    ∃ r' v', Rounds me whole' base' v programs r' v' ∧ SameEnd me whole whole' r w' r' v' := by
  induction h generalizing v with
  | empty draining pop =>
    obtain ⟨mailbox, -⟩ := Task.mk.inj alike
    exact ⟨_, _, .empty (draining.alike alike) (mailbox ▸ pop), .empty draining pop alike⟩
  | @failed w w₁ w' m l before after e r pop run out =>
    obtain ⟨mailbox, -⟩ := Task.mk.inj alike
    have served : (w.served whole m l).blurred = (v.served whole' m l).blurred := by
      rw [Task.served_blurred, Task.served_blurred, alike]
    obtain ⟨v₁, run', alike₁⟩ := run.alike (.mail whole whole' base base') served [] rfl
    obtain ⟨v', out', alike'⟩ := out.alike below alike₁ [] rfl
    obtain ⟨source, hsource⟩ := e.exists_toFatal_eq
    obtain rfl : r = .failed e.toFatal := out.leaving (.leaving _ rfl)
    refine ⟨_, v', .failed (mailbox ▸ pop) run' out', ?_⟩
    rw [hsource]
    exact .failed source alike'
  | @ran w w₁ w' m l before after r₁ r pop run well rest ih =>
    obtain ⟨mailbox, -⟩ := Task.mk.inj alike
    have served : (w.served whole m l).blurred = (v.served whole' m l).blurred := by
      rw [Task.served_blurred, Task.served_blurred, alike]
    obtain ⟨v₁, run', alike₁⟩ := run.alike (.mail whole whole' base base') served [] rfl
    obtain ⟨r', v', rounds, same⟩ := ih alike₁
    exact ⟨r', v', .ran (mailbox ▸ pop) run' well rounds, same⟩

theorem SameEnd.symm {whole' : Bool} {r' : Reply ν} {v' : Task σ ν} (h : SameEnd me whole whole' r w' r' v') :
    SameEnd me whole' whole r' v' r w' := by
  cases h with
  | empty draining pop alike =>
    obtain ⟨mailbox, -⟩ := Task.mk.inj alike
    exact .empty (draining.alike alike) (mailbox ▸ pop) alike.symm
  | failed e alike => exact .failed e alike.symm

/-- A run keeps the mailbox in order. -/
theorem Comes.orderly {th : Thread σ ν} (h : Comes me base w th programs r w') (orderly : w.mailbox.Orderly) : w'.mailbox.Orderly := by
  induction h with
  | back => exact orderly
  | step away hstep rest ih => exact ih ((turn_stepStage (step_eq_some_iff.mp hstep).2).toTraffic.orderly orderly)

/-- To close the task when no mail is left throws nothing out, and leaves behind what the main loop leaves behind. -/
theorem comes_close (h : Draining me w) (pop : w.mailbox.lanes.pop .oldest = none) (free : stack.any Frame.isServing = false)
    (guarded : Bool) (k : Reply ν → Body σ ν) :
    Comes me (.caller guarded .close k :: stack) w ⟨.run (.call guarded .close k), stack⟩ [] (.mails []) w.woundUp := by
  have empty := Lanes.toList_of_pop_oldest pop
  have hcall : call w me stack .close = (w, .markClosed .surrender) := by simp [call, exclusive, free]
  have surrender : stepStage (stepMarkClosed w) me 0 (.caller guarded .close k :: stack) .surrender =
      some ({ w with
        mailbox := { w.mailbox with
          status := .closed
          lanes := w.mailbox.lanes.cleared }
        processor := { w.processor with status := .closed } }.log (.cleared []),
        ⟨.wakeAll (.answer (.mails [])), .caller guarded .close k :: stack⟩) := by
    simp [stepStage, stay, stepSurrender, stepMarkClosed, Mailbox.close, h.not_closed, empty, Task.hold, Task.log]
  refine (comes_call_iff h.awake hcall).mpr ?_
  refine Iff.mpr (comes_step_iff rfl h.awake rfl rfl) ?_
  refine Iff.mpr (comes_step_iff rfl h.awake surrender rfl) ?_
  refine Iff.mpr (comes_step_iff rfl h.awake rfl rfl) ?_
  exact .back ..

end Thread

/-! ## In a world -/

theorem Occurrence.alarm?_blurred (e : Occurrence σ ν) : e.blurred.alarm? = e.alarm? := by
  cases e with
  | taken m choice purpose => cases purpose <;> rfl
  | _ => rfl

/-- The calls of the handler are told whatever mail was taken for. -/
theorem Task.alarms_of_alike {w v : Task σ ν} (h : w.blurred = v.blurred) : w.alarms = v.alarms := by
  have blurred : ∀ w : Task σ ν, w.blurred.alarms = w.alarms := by
    intro w
    rw [Task.alarms, history, Task.blurred_journal, ← List.map_reverse, List.filterMap_map]
    exact List.filterMap_congr fun e _ => e.alarm?_blurred
  rw [← blurred, h, blurred]

namespace World

variable {w b : World σ ν} {t : ThreadId} {guarded : Bool} {q : Request} {k : Reply ν → Body σ ν} {stack base : List (Frame σ ν)}
  {r : Reply ν}

/-- The world in which thread `t`, with the frames `stack` under it, is about to make the request `q`. -/
def calling (w : World σ ν) (t : ThreadId) (guarded : Bool) (q : Request) (k : Reply ν → Body σ ν) (stack : List (Frame σ ν)) :
    World σ ν :=
  { w with threads := w.threads.set t ⟨.run (.call guarded q k), stack⟩ }

/-- Thread `t` calls the step again and again, and is left alone with it, until the step answers something else than that it has run a
mail; `r` is this last answer, and `b` is the world then. -/
inductive Steps (t : ThreadId) (guarded : Bool) (k : Reply ν → Body σ ν) (stack : List (Frame σ ν)) :
    World σ ν → Reply ν → World σ ν → Prop where
  | last {w b : World σ ν} {r : Reply ν}
    (step : (w.calling t guarded .step k stack).Returns t (.caller guarded .step k :: stack) r b) (stop : r ≠ .flag true) :
    Steps t guarded k stack w r b
  | more {w a b : World σ ν} {r : Reply ν}
    (step : (w.calling t guarded .step k stack).Returns t (.caller guarded .step k :: stack) (.flag true) a)
    (rest : Steps t guarded k stack a r b) : Steps t guarded k stack w r b

theorem calling_returns_iff (ht : t < w.threads.length) : (w.calling t guarded q k stack).Returns t base r b ↔
    ∃ programs task, Thread.Comes t base w.task ⟨.run (.call guarded q k), stack⟩ programs r task ∧
      b = w.after t task ⟨.answer r, base⟩ programs := by
  have hx : (w.calling t guarded q k stack).threads[t]? = some ⟨.run (.call guarded q k), stack⟩ := List.getElem?_set_self ht
  have hafter : ∀ task th programs, (w.calling t guarded q k stack).after t task th programs = w.after t task th programs := by
    intro task th programs
    rw [after, after, calling, List.set_set]
  rw [returns_iff hx]
  simp only [hafter]
  rfl

theorem lt_after (ht : t < w.threads.length) (task : Task σ ν) (th : Thread σ ν) (programs : List (Body σ ν)) :
    t < (w.after t task th programs).threads.length :=
  Nat.lt_of_lt_of_le ht (by simp [after])

/-- Steps of a thread that is left alone, in the world and by itself. -/
theorem steps_iff (ht : t < w.threads.length) : Steps t guarded k stack w r b ↔
    ∃ programs task, Thread.StepsCome t guarded k stack w.task programs r task ∧
      b = w.after t task ⟨.answer r, .caller guarded .step k :: stack⟩ programs := by
  constructor
  · intro h
    induction h with
    | last step stop =>
      obtain ⟨programs, task, comes, hb⟩ := (calling_returns_iff ht).mp step
      exact ⟨programs, task, .last comes stop, hb⟩
    | more step rest ih =>
      obtain ⟨before, task₁, comes, rfl⟩ := (calling_returns_iff ht).mp step
      obtain ⟨later, task, steps, rfl⟩ := ih (lt_after ht ..)
      exact ⟨before ++ later, task, .more comes steps, after_after ht ..⟩
  · rintro ⟨programs, task, steps, rfl⟩
    generalize hw : w.task = task₀ at steps
    induction steps generalizing w with
    | last step stop =>
      subst hw
      exact .last ((calling_returns_iff ht).mpr ⟨_, _, step, rfl⟩) stop
    | @more task₀ task₁ task before later r step rest ih =>
      subst hw
      have first := (calling_returns_iff ht).mpr ⟨_, _, step, rfl⟩
      have rest := ih (lt_after ht ..) (w := w.after t task₁ ⟨.answer (.flag true), .caller guarded .step k :: stack⟩ before) rfl
      rw [after_after ht] at rest
      exact .more first rest

theorem getElem?_after (task : Task σ ν) (th : Thread σ ν) (programs : List (Body σ ν)) {i : ThreadId} (hi : i ≠ t) :
    (w.after t task th programs).threads[i]? = (w.threads ++ programs.map .start)[i]? := by
  simp only [after, List.getElem?_append, List.length_set, List.getElem?_set_ne (Ne.symm hi)]

/-! ## Agreement -/

/-- The main loop has ended in the world `b`, and steps have ended in the world `b'`, with no mail left, and both have done the same. -/
structure Drained (t : ThreadId) (guarded : Bool) (k : Reply ν → Body σ ν) (stack : List (Frame σ ν)) (b b' : World σ ν) : Prop where
  /-- The same mails were run in the same order, and the same happened. -/
  journal : b.task.blurred.journal = .cleared [] :: b'.task.blurred.journal
  processed : b.task.processor.processed = b'.task.processor.processed
  slots : b.task.slots = b'.task.slots
  client : b.task.client = b'.task.client
  threads : ∀ i, i ≠ t → b.threads[i]? = b'.threads[i]?
  /-- Closing the task after the steps gives nothing back, and makes up the difference. -/
  close : ∃ c, (b'.calling t guarded .close k stack).Returns t (.caller guarded .close k :: stack) (.mails []) c ∧
    c.task.blurred = b.task.blurred ∧ ∀ i, i ≠ t → c.threads[i]? = b.threads[i]?

/-- The main loop has ended in the world `b`, and a step has ended in the world `b'`, with the failure `e`, and both have done the same
since the world was `w`. -/
structure Failed (t : ThreadId) (e : Failure) (w b b' : World σ ν) : Prop where
  /-- The same mails were run in the same order, the same happened, and all that the threads share is the same. -/
  alike : b.task.blurred = b'.task.blurred
  threads : ∀ i, i ≠ t → b.threads[i]? = b'.threads[i]?
  mailbox : b.task.mailbox.status = .closed ∧ b'.task.mailbox.status = .closed
  empty : b.task.mailbox.length = 0 ∧ b'.task.mailbox.length = 0
  processor : b.task.processor.status = .closed ∧ b'.task.processor.status = .closed
  /-- Both have called the handler once, and with the failure. -/
  alarms : b.task.alarms = w.task.alarms ++ [e] ∧ b'.task.alarms = w.task.alarms ++ [e]

/-- What the main loop returned in the world `b` and what the last of the steps returned in the world `b'` agree, and so does what was
done since the world was `w`. -/
inductive Agree (t : ThreadId) (guarded : Bool) (k : Reply ν → Body σ ν) (stack : List (Frame σ ν)) (w : World σ ν) :
    Reply ν → World σ ν → Reply ν → World σ ν → Prop where
  | drained {b b' : World σ ν} (h : Drained t guarded k stack b b') : Agree t guarded k stack w .done b (.flag false) b'
  | failed {b b' : World σ ν} (e : Failure) (h : Failed t (.fatal e) w b b') :
    Agree t guarded k stack w (.failed (.fatal e)) b (.failed (.fatal e)) b'

/-- Where the main loop and steps came to the same end, what they did agrees. -/
theorem agree_of_sameEnd {r r' : Reply ν} {x x' : Task σ ν} {programs : List (Body σ ν)} (ht : t < w.threads.length)
    (free : stack.any Frame.isServing = false) (draining : Draining t w.task)
    (loop : Thread.Comes t (.caller guarded .loop k :: stack) w.task ⟨.consult, .caller guarded .loop k :: stack⟩ programs r x)
    (same : Thread.SameEnd t true false r x r' x') :
    Agree t guarded k stack w r (w.after t x ⟨.answer r, .caller guarded .loop k :: stack⟩ programs) r'
      (w.after t x' ⟨.answer r', .caller guarded .step k :: stack⟩ programs) := by
  have threads : ∀ {task task' th th'} i, i ≠ t →
      (w.after t task th programs).threads[i]? = (w.after t task' th' programs).threads[i]? := by
    intro task task' th th' i hi
    rw [getElem?_after _ _ _ hi, getElem?_after _ _ _ hi]
  cases same with
  | @empty x y drained pop alike =>
    obtain ⟨mailbox, processor, slots, -, client, -, -, journal⟩ := Task.mk.inj alike
    have hjournal : x.woundUp.blurred.journal = .cleared [] :: y.blurred.journal := congrArg (List.cons (Occurrence.cleared [])) journal
    have hprocessed : x.woundUp.processor.processed = y.processor.processed := (congrArg Processor.processed processor :)
    have close := Thread.comes_close (drained.alike alike) (mailbox ▸ pop) free guarded k
    have ended : y.woundUp.blurred = x.woundUp.blurred := by rw [Task.woundUp_blurred, Task.woundUp_blurred, alike]
    refine .drained ⟨hjournal, hprocessed, slots, client, threads, _,
      (calling_returns_iff (lt_after ht ..)).mpr ⟨_, _, close, rfl⟩, ended, ?_⟩
    intro i hi
    rw [after_after ht, List.append_nil]
    exact threads i hi
  | failed e alike =>
    obtain ⟨mailbox, processor, -⟩ := Task.mk.inj alike
    have one : Thread.servings ⟨.consult, .caller guarded .loop k :: stack⟩ ≤ 1 := by
      rw [Thread.servings_cons rfl, Thread.servings_of_free free]
      exact Nat.le_refl _
    have known : Known x true true w.task.alarms [.fatal e] := by
      have start : Known w.task false false w.task.alarms [] := ⟨nofun, nofun, (List.append_nil _).symm⟩
      cases loop.inLoop (.looping _ (.consulting start)) draining.owner one with
      | leaving out known => cases out
      | failed e known => exact known
    have empty : x.mailbox.length = 0 := by
      rw [Mailbox.length, ← Lanes.length_toList, (loop.orderly draining.orderly).empty (known.mailbox rfl)]
      rfl
    exact .failed e {
      alike := alike
      threads := threads
      mailbox := ⟨known.mailbox rfl, mailbox ▸ known.mailbox rfl⟩
      empty := ⟨empty, mailbox ▸ empty⟩
      processor := ⟨known.processor rfl, processor ▸ known.processor rfl⟩
      alarms := ⟨known.alarms, (Task.alarms_of_alike alike).symm.trans known.alarms⟩ }

end World

/-- Steps agree with the main loop. The mailbox thread is outside the main loop and outside a step, the task is quiescing, the mailbox is
quiesced, nobody has reported a failure or is about to, and no mail that is left closes the mailbox or reports a failure. Then, for each
way in which a call of the main loop comes back if the thread is left alone with it, steps that are called one after another come to an
end that agrees, and for each end of such steps the main loop comes back in a way that agrees. -/
theorem steps_agree {w : World σ ν} (possible : w.Possible) {t : ThreadId} (owner : t = w.task.mailbox.owner) {body : Body σ ν}
    {stack : List (Frame σ ν)} (thread : w.threads[t]? = some ⟨.run body, stack⟩) (free : stack.any Frame.isServing = false)
    (quiescing : w.task.processor.status = .quiescing) (quiesced : w.task.mailbox.status = .quiesced)
    (report : w.task.processor.report = none) (lock : w.task.processor.reportLock = none) (queue : ∀ m ∈ w.task.queued, m.Peaceful)
    (hand : ∀ m ∈ w.task.hand, m.Peaceful) (guarded : Bool) (k : Reply ν → Body σ ν) :
    (∀ r b, (w.calling t guarded .loop k stack).Returns t (.caller guarded .loop k :: stack) r b →
      ∃ r' b', w.Steps t guarded k stack r' b' ∧ w.Agree t guarded k stack r b r' b') ∧
    ∀ r' b', w.Steps t guarded k stack r' b' → ∃ r b,
      (w.calling t guarded .loop k stack).Returns t (.caller guarded .loop k :: stack) r b ∧ w.Agree t guarded k stack r b r' b' := by
  have ht : t < w.threads.length := (List.getElem?_eq_some_iff.mp thread).1
  have draining : Draining t w.task :=
    ⟨owner, possible.awake_of_run thread, possible.orderly, quiesced, quiescing, report, lock, queue, hand⟩
  have hcall : Thread.call w.task t stack .loop = (w.task, .consult) := by
    simp [Thread.call, Thread.onDuty, Thread.exclusive, owner, free]
  constructor
  · intro r b returns
    obtain ⟨programs, x, comes, rfl⟩ := (World.calling_returns_iff ht).mp returns
    have loop := (Thread.comes_call_iff draining.awake hcall).mp comes
    obtain ⟨r', x', rounds, same⟩ := (loop.rounds draining).alike (.call guarded guarded .loop .step k k stack) rfl
    exact ⟨r', _, (World.steps_iff ht).mpr ⟨programs, x', rounds.steps draining free, rfl⟩,
      World.agree_of_sameEnd ht free draining loop same⟩
  · intro r' b' steps
    obtain ⟨programs, x', come, rfl⟩ := (World.steps_iff ht).mp steps
    obtain ⟨r, x, rounds, same⟩ := (come.rounds draining free).alike (.call guarded guarded .step .loop k k stack) rfl
    have loop := rounds.comes draining
    exact ⟨r, _, (World.calling_returns_iff ht).mpr ⟨programs, x, (Thread.comes_call_iff draining.awake hcall).mpr loop, rfl⟩,
      World.agree_of_sameEnd ht free draining loop same.symm⟩

/-- A task whose only thread sends a mail that yields and a mail that fails for its handle, and then quiesces the task. -/
def endingTask : World Unit Nat :=
  .start (.new ⟨2⟩ 0 (some (.finish (.returned 0))) (fun _ => .finish (.returned 0)) ())
    [.post ⟨⟨"yielding", []⟩, .empty, 0⟩ (.call false (.yield 0 false) fun _ => .finish (.returned 1)) fun _ =>
      .submit ⟨"failing", []⟩ 0 (.finish (.failed .closed)) fun _ => .call false .quiesce fun _ => .finish (.returned 0)]

/-- The same task when its thread has come to its end. -/
def endingTask.quiesced : World Unit Nat := (endingTask.moves (List.replicate 11 (.step 0 0))).getD endingTask

theorem steps_agree_of_endingTask : ∃ b r' b',
    (endingTask.quiesced.calling 0 false .loop (fun _ => .finish (.returned 0)) []).Returns 0
        [.caller false .loop fun _ => .finish (.returned 0)] .done b ∧
      endingTask.quiesced.Steps 0 false (fun _ => .finish (.returned 0)) [] r' b' ∧
      endingTask.quiesced.Agree 0 false (fun _ => .finish (.returned 0)) [] .done b r' b' := by
  have possible : endingTask.Possible := ⟨⟨2⟩, 0, _, _, (), _, .here⟩
  have reach : endingTask.Reach endingTask.quiesced := .of_moves (List.replicate 11 (.step 0 0)) rfl
  have queue : ∀ m ∈ endingTask.quiesced.task.queued, m.Peaceful :=
    List.forall_mem_cons.mpr ⟨⟨rfl, fun _ => trivial⟩, List.forall_mem_cons.mpr ⟨trivial, nofun⟩⟩
  have returns : ∃ b, (endingTask.quiesced.calling 0 false .loop (fun _ => .finish (.returned 0)) []).Returns 0
      [.caller false .loop fun _ => .finish (.returned 0)] .done b := ⟨_, rfl, 22, rfl⟩
  obtain ⟨b, returns⟩ := returns
  obtain ⟨r', b', steps, agree⟩ := (steps_agree (possible.reach reach) rfl rfl rfl rfl rfl rfl rfl queue nofun false
    fun _ => .finish (.returned 0)).1 .done b returns
  exact ⟨b, r', b', returns, steps, agree⟩

end Mailroom
