import Mailroom.Proofs.Collection

/-!
# How often the handler is called

Two things make a call of the main loop or a step turn to the handler: something that it runs has failed, or it has collected a report.
Nothing runs once the mailbox is closed, and it is closed before the handler is called, so the first can happen once; and the second
can happen once, since one report is kept at most. But both can happen. `handler_calls`: the handler is called twice at most, and the
second call is for the report that was left behind when the first one was made. So it is not called at most once in the life of a task
(`calledOnce_false`).
-/

namespace Mailroom

variable {σ ν : Type}

/-! ## One step -/

namespace Stage

/-- The failure that the handler is about to be called with. -/
def bell? : Stage σ ν → Option Failure
  | alarm e => some e
  | shut next => next.bell?
  | wakeAll next => next.bell?
  | drop _ next => next.bell?
  | markClosed next => next.bell?
  | _ => none

/-- The main loop or a step is about to run something. -/
def canFail : Stage σ ν → Bool
  | serve _ _ => true
  | callDefault => true
  | shut next => next.canFail
  | wakeAll next => next.canFail
  | drop _ next => next.canFail
  | markClosed next => next.canFail
  | _ => false

/-- It is the main loop or a step that calls the handler. -/
theorem servings_of_bell {s : Stage σ ν} {e : Failure} (h : s.bell? = some e) : s.servings = 1 := by
  induction s with
  | alarm => rfl
  | shut next ih | wakeAll next ih | drop ms next ih | markClosed next ih => exact ih h
  | _ => cases h

/-- Who is about to call the handler runs nothing else by then. -/
theorem canFail_of_bell {s : Stage σ ν} {e : Failure} (h : s.bell? = some e) : s.canFail = false := by
  induction s with
  | alarm => rfl
  | shut next ih | wakeAll next ih | drop ms next ih | markClosed next ih => exact ih h
  | _ => cases h

end Stage

/-- A mail or the default action runs for the main loop or for a step. -/
def Frame.canFail : Frame σ ν → Bool
  | serve _ => true
  | default => true
  | _ => false

/-- What can fail runs for the main loop or a step. -/
theorem Frame.isServing_of_canFail {f : Frame σ ν} (h : f.canFail = true) : f.isServing = true := by
  cases f with
  | serve | default => rfl
  | _ => cases h

/-- The main loop or a step runs something, or is about to. -/
def Thread.canFail (th : Thread σ ν) : Bool := th.stage.canFail || th.stack.any Frame.canFail

/-- What a step does to the handler's calls, those that are about to be made included. -/
inductive Rings (w : Task σ ν) (th : Thread σ ν) (n : Next σ ν) : Prop where
  | same (due : n.1.alarms ++ n.2.stage.bell?.toList = w.alarms ++ th.stage.bell?.toList)
  /-- Something that ran for the main loop or a step has failed. -/
  | failed (e : Failure) (could : th.canFail = true) (alarms : n.1.alarms = w.alarms) (before : th.stage.bell? = none)
    (after : n.2.stage = .abort (.fatal e))
  | collected (e : Failure) (at_end : th.stage = .collect) (report : w.processor.report = some e) (alarms : n.1.alarms = w.alarms)
    (after : n.2.stage = .abort (.fatal e))

/-- A step from a stage at which no call of the handler is due, to another such stage. -/
theorem Rings.calm {me : ThreadId} {w : Task σ ν} {th : Thread σ ν} {n : Next σ ν} (served : Served me w th n)
    (before : th.stage.bell? = none) (after : n.2.stage.bell? = none) : Rings w th n := by
  rcases served.alarms with same | ⟨e, stage, -⟩
  · exact .same (by rw [same, before, after])
  · rw [stage] at before
    cases before

namespace Thread

variable {w : Task σ ν} {me : ThreadId} {pick : Nat} {stack : List (Frame σ ν)} {stage : Stage σ ν} {n : Next σ ν}

/-- Nothing runs for a main loop or step that is about to call the handler. -/
theorem canFail_of_bell {th : Thread σ ν} {e : Failure} (one : th.servings ≤ 1) (bell : th.stage.bell? = some e) :
    th.canFail = false := by
  have hnone : th.stack.countP Frame.isServing = 0 := by
    rw [servings, Stage.servings_of_bell bell] at one
    omega
  have hstack : th.stack.any Frame.canFail = false := by
    rw [List.any_eq_false]
    exact fun f hf hcan => List.countP_eq_zero.mp hnone f hf (Frame.isServing_of_canFail hcan)
  rw [canFail, Stage.canFail_of_bell bell, hstack]
  rfl

/-- The end of a body leaves less that can fail. -/
theorem Ended.canFail {e : Ending ν} (h : Ended w e stack n) (can : n.2.canFail = true) : Thread.canFail ⟨stage, stack⟩ = true := by
  have behind : ∀ {a b : Bool}, b = true → (a || b) = true := fun h => (Bool.or_eq_true ..).mpr (.inr h)
  cases h with
  | default e =>
    cases e with
    | returned | failed | panicked => exact behind (behind can)
  | handler why e =>
    cases e with
    | returned | failed | panicked => exact behind (behind can)
  | _ => exact behind (behind can)

/-- Something comes to run for the main loop or a step only while the mailbox is open. -/
theorem Turn.canFail (h : Turn w me pick stack stage n) (can : n.2.canFail = true) :
    Thread.canFail ⟨stage, stack⟩ = true ∨ w.mailbox.status ≠ .closed ∧ stage.bell? = none := by
  have behind : ∀ {a b : Bool}, b = true → (a || b) = true := fun h => (Bool.or_eq_true ..).mpr (.inr h)
  cases h with
  | ended h | broken h => exact .inl (h.canFail can)
  | replied | sent | yielded | passed | aborted | looped | stepped | guarded | unwound => exact .inl (behind (behind can))
  | called guarded q k h => cases h <;> exact .inl (behind can)
  | taken m choice patient purpose l stack was =>
    cases purpose with
    | hold | yield => exact .inl (behind can)
    | step | loop => exact .inr ⟨was, rfl⟩
  | missed choice purpose stack was =>
    cases purpose with
    | hold | yield | step => exact .inl (behind can)
    | loop => exact .inr ⟨was, rfl⟩
  | shutOut choice patient purpose => cases purpose <;> exact .inl (behind can)
  | drained choice purpose =>
    cases choice with
    | oldest => cases purpose <;> exact .inl (behind can)
    | eligible => exact .inl (behind can)
  | served | defaulted => exact .inl rfl
  | shut | shutBefore | woke | dropped | disposed | marked => exact .inl can
  | _ => exact .inl (behind can)

/-- A body ends: the default action leads to the handler if it failed. -/
theorem Ended.rings {e : Ending ν} (h : Ended w e stack n) (before : stage.bell? = none) (alarms : n.1.alarms = w.alarms) :
    Rings w ⟨stage, stack⟩ n := by
  have calm : n.2.stage.bell? = none → Rings w ⟨stage, stack⟩ n := fun after => .same (by rw [alarms, before, after])
  cases h with
  | default e =>
    cases e with
    | returned => exact calm rfl
    | failed e => exact .failed _ (Bool.or_true _) rfl before rfl
    | panicked p => exact .failed _ (Bool.or_true _) rfl before rfl
  | handler why e =>
    cases e with
    | returned | failed | panicked => exact calm rfl
  | _ => exact calm rfl

/-- Every turn leaves the calls of the handler as they are, or one becomes due by a failure or a report. -/
theorem Turn.rings (h : Turn w me pick stack stage n) : Rings w ⟨stage, stack⟩ n := by
  have served := h.toServed
  have alarms : (∀ e, stage ≠ .alarm e) → n.1.alarms = w.alarms := fun other =>
    served.alarms.resolve_right fun ⟨e, hstage, _⟩ => other e hstage
  cases h with
  | ended h | broken h => exact h.rings rfl (alarms nofun)
  | called guarded q k h => cases h <;> exact .calm served rfl rfl
  | aborted whole e stack =>
    obtain ⟨source, hsource⟩ := Failure.exists_toFatal_eq e
    exact .failed source rfl rfl rfl (congrArg Stage.abort hsource)
  | collected e stack free report => exact .collected e rfl report rfl rfl
  | alarmed e => exact .same ((List.append_nil _).trans (w.alarms_log_alarmed e))
  | taken m choice patient purpose => cases purpose <;> exact .calm served rfl rfl
  | shutOut choice patient purpose | missed choice purpose => cases purpose <;> exact .calm served rfl rfl
  | drained choice purpose =>
    cases choice with
    | oldest => cases purpose <;> exact .calm served rfl rfl
    | eligible => exact .calm served rfl rfl
  | shut | shutBefore | woke | dropped | disposed | marked => exact .same (congrArg (· ++ _) (alarms nofun))
  | _ => exact .calm served rfl rfl

end Thread

/-! ## All threads together -/

namespace World

variable {a b w : World σ ν} {t : ThreadId} {pick : Nat} {th : Thread σ ν} {n : Next σ ν} {e : Failure} {stack : List (Frame σ ν)}

/-- The failure that the mailbox thread is about to call the handler with. -/
def bell? (w : World σ ν) : Option Failure := w.threads[w.task.mailbox.owner]?.bind (·.stage.bell?)

/-- The calls of the handler, the one that is about to be made included. -/
def due (w : World σ ν) : List Failure := w.task.alarms ++ w.bell?.toList

/-- The handler is called when mailbox and task are closed, and in the mailbox thread. -/
theorem Possible.at_alarm (possible : w.Possible) (hx : w.threads[t]? = some ⟨.alarm e, stack⟩) :
    w.task.mailbox.status = .closed ∧ w.task.processor.status = .closed ∧ t = w.task.mailbox.owner := by
  obtain ⟨mailbox, processor⟩ : w.task.mailbox.status = .closed ∧ w.task.processor.status = .closed := by
    simpa [Task.isTimely, Stage.isTimely] using possible.timely t _ hx
  exact ⟨mailbox, processor, (possible.serving hx).2 (Nat.succ_pos _)⟩

/-- A call takes the report only once the task is closed. -/
theorem Emptied.closed (h : w.Emptied) : w.task.processor.status = .closed := by
  obtain ⟨x, y, i, pick, base, e, hx, hi, -, step, reach⟩ := h
  exact ((Reach.here.step step).trans reach).processor_closed (hx.at_collect hi).2.1

/-- Nothing is reported any more once the task is closed. -/
theorem Stepped.reports_of_closed (hs : Stepped a t pick th n b) (closed : a.task.processor.status = .closed) :
    b.task.reports = a.task.reports := by
  by_cases hfile : ∃ e, th.stage = .fileReport e
  · obtain ⟨e, before⟩ := hfile
    rcases hs.files before with ⟨⟨was, -⟩, -⟩ | ⟨-, reports, -⟩
    · exact absurd closed was
    · exact reports
  · rw [hs.task]
    exact hs.turn.reports fun e he => hfile ⟨e, he⟩

/-- A step of another thread has nothing to do with the handler. -/
theorem Stepped.quiet (hs : Stepped a t pick th n b) (possible : a.Possible) (other : t ≠ a.task.mailbox.owner) :
    b.task.alarms = a.task.alarms ∧ b.bell? = a.bell? := by
  constructor
  · rw [hs.task]
    refine hs.served.alarms.resolve_right fun ⟨e, stage, _⟩ => other ((possible.serving hs.thread).2 ?_)
    rw [Thread.servings, stage]
    exact Nat.succ_pos _
  · rw [bell?, bell?, hs.traffic.owner]
    rcases hs.elsewhere (Ne.symm other) with same | ⟨none, program, started⟩
    · rw [same]
    · rw [none, started]
      rfl

/-- What a step adds to the calls of the handler. -/
theorem Stepped.due (hs : Stepped a t pick th n b) (possible : a.Possible) : b.due = a.due ∨
    ∃ e, b.due = a.due ++ [.fatal e] ∧ t = a.task.mailbox.owner ∧ n.2.stage = .abort (.fatal e) ∧
      (th.canFail = true ∨ th.stage = .collect ∧ a.task.processor.report = some e) := by
  by_cases owner : t = a.task.mailbox.owner
  · have before : a.due = a.task.alarms ++ th.stage.bell?.toList := by rw [World.due, bell?, ← owner, hs.thread]; rfl
    have after : b.due = n.1.alarms ++ n.2.stage.bell?.toList := by rw [World.due, bell?, hs.traffic.owner, ← owner, hs.own, hs.task]; rfl
    rw [before, after]
    cases hs.turn.rings with
    | same due => exact .inl due
    | failed e could alarms calm stage =>
      refine .inr ⟨e, ?_, owner, stage, .inl could⟩
      rw [alarms, calm, stage]
      simp [Stage.abort, Stage.bell?]
    | collected e at_end report alarms stage =>
      refine .inr ⟨e, ?_, owner, stage, .inr ⟨at_end, report⟩⟩
      have calm : th.stage = .collect := at_end
      rw [alarms, calm, stage]
      simp [Stage.abort, Stage.bell?]
  · obtain ⟨alarms, bell⟩ := hs.quiet possible owner
    exact .inl (by rw [World.due, World.due, alarms, bell])

/-- How the calls of the handler have gone so far, the one that is about to be made included. -/
inductive Calls (w : World σ ν) : Prop where
  | never (due : w.due = [])
  | once (e : Failure) (due : w.due = [.fatal e])
  /-- The second call is for the report. -/
  | twice (e e' : Failure) (due : w.due = [.fatal e, .fatal e']) (reports : w.task.reports = [e']) (emptied : w.Emptied)

/-- What holds of the handler's calls all the time. -/
structure Rung (w : World σ ν) : Prop where
  calls : w.Calls
  /-- Once a call of the handler is due nothing runs any more that it could be called for. -/
  calm : ∀ th, w.threads[w.task.mailbox.owner]? = some th → w.due ≠ [] → th.canFail = false
  closed : w.task.alarms ≠ [] → w.task.mailbox.status = .closed ∧ w.task.processor.status = .closed

/-- A step after which a new call of the handler is due leads the thread to where nothing runs any more. -/
theorem Stepped.calm_of_abort (hs : Stepped a t pick th n b) (possible : a.Possible) (after : n.2.stage = .abort (.fatal e)) :
    n.2.canFail = false := by
  have one := ((possible.reach (Reach.here.step hs.step?_eq)).serving hs.own).1
  exact Thread.canFail_of_bell one (by rw [after]; rfl)

/-- While nothing has called the handler and nothing is about to, what fails next is the first. -/
theorem Rung.due_of_canFail (h : a.Rung) (hs : Stepped a t pick th n b) (owner : t = a.task.mailbox.owner) (can : th.canFail = true) :
    a.due = [] := by
  by_contra hdue
  rw [h.calm th (owner ▸ hs.thread) hdue] at can
  cases can

/-- Every step keeps the account of the calls of the handler. -/
theorem Stepped.rung (hs : Stepped a t pick th n b) (possible : a.Possible) (ha : a.Rung) : b.Rung := by
  have hab : a.Reach b := Reach.here.step hs.step?_eq
  refine ⟨?_, ?_, ?_⟩
  · rcases hs.due possible with same | ⟨e, more, owner, -, hcan | ⟨at_end, report⟩⟩
    · cases ha.calls with
      | never due => exact .never (same.trans due)
      | once e due => exact .once e (same.trans due)
      | twice e e' due reports emptied =>
        exact .twice e e' (same.trans due) ((hs.reports_of_closed emptied.closed).trans reports) (emptied.later hab)
    · exact .once e (by rw [more, ha.due_of_canFail hs owner hcan]; rfl)
    · -- The call collects a report, so none had been collected before.
      obtain ⟨stage, base⟩ := th
      obtain rfl : stage = .collect := at_end
      have closed := (possible.at_collect hs.thread).2.1
      cases ha.calls with
      | never due => exact .once e (by rw [more, due]; rfl)
      | once e₁ due =>
        refine .twice e₁ e (by rw [more, due]; rfl) ?_ ⟨a, b, t, pick, base, e, possible, hs.thread, report, hs.step?_eq, .here⟩
        exact (hs.reports_of_closed closed).trans ((no_report_lost possible).kept e report)
      | twice _ _ _ _ emptied =>
        rw [emptied.report_none] at report
        cases report
  · intro x hx hdue
    rw [hs.traffic.owner] at hx
    rcases hs.thread_cases hx with ⟨owner, rfl⟩ | ⟨other, hx⟩ | ⟨program, rfl⟩
    · rcases hs.due possible with same | ⟨e, -, -, after, -⟩
      · rw [same] at hdue
        rw [Bool.eq_false_iff]
        intro hcan
        rcases hs.turn.canFail hcan with hbefore | ⟨hopen, hbell⟩
        · rw [ha.calm th (owner ▸ hs.thread) hdue] at hbefore
          cases hbefore
        · refine hopen (ha.closed fun hnone => hdue ?_).1
          rw [World.due, bell?, hnone, owner, hs.thread, Option.bind_some, hbell]
          rfl
      · exact hs.calm_of_abort possible after
    · refine ha.calm x hx ?_
      rcases hs.due possible with same | ⟨e, -, owner, -, -⟩
      · rwa [← same]
      · exact absurd owner.symm other
    · rfl
  · intro halarms
    have hserved := hs.served.alarms
    rw [← hs.task] at hserved
    have before : a.task.mailbox.status = .closed ∧ a.task.processor.status = .closed := by
      rcases hserved with same | ⟨e, stage, -⟩
      · exact ha.closed (same ▸ halarms)
      · obtain ⟨stage', stack⟩ := th
        obtain rfl : stage' = .alarm e := stage
        exact ⟨(possible.at_alarm hs.thread).1, (possible.at_alarm hs.thread).2.1⟩
    exact ⟨hab.closed before.1, hab.processor_closed before.2⟩

/-- The account of the calls of the handler is right in every world that is possible. -/
theorem Possible.rung (h : w.Possible) : w.Rung := by
  refine h.invariant ?_ (fun possible ih hs => hs.rung possible ih) ?_
  · intro config owner defaultAction handler client programs
    refine ⟨.never ?_, ?_, fun h => absurd rfl h⟩
    · rw [due, bell?]
      cases hx : (start (.new config owner defaultAction handler client) programs).threads[owner]? with
      | none => exact congrArg (fun x => [] ++ (Option.bind x _).toList) hx
      | some x =>
        obtain ⟨program, rfl⟩ := thread_of_start hx
        exact congrArg (fun x => [] ++ (Option.bind x _).toList) hx
    · intro x hx _
      obtain ⟨program, rfl⟩ := thread_of_start hx
      rfl
  · intro a t possible ih
    refine ⟨?_, ih.calm, ih.closed⟩
    have hab : a.Reach (a.stirred t) := Reach.here.next (.stir t) rfl
    cases ih.calls with
    | never due => exact .never due
    | once e due => exact .once e due
    | twice e e' due reports emptied => exact .twice e e' due reports (emptied.later hab)

/-- If no report is kept when the handler is called, it is not called again. -/
theorem Possible.last_alarm (possible : w.Possible) (hx : w.threads[t]? = some ⟨.alarm e, stack⟩) (step : w.step? t pick = some b)
    (nothing : w.task.processor.report = none) {c : World σ ν} (reach : b.Reach c) : c.task.alarms = b.task.alarms := by
  obtain ⟨-, closed, owner⟩ := possible.at_alarm hx
  have hwb : w.Reach b := Reach.here.step step
  obtain ⟨th, n, hs⟩ := step?_eq_some step
  obtain rfl : th = ⟨.alarm e, stack⟩ := Option.some.inj (hs.thread.symm.trans hx)
  have first : b.due = b.task.alarms ∧ b.task.alarms ≠ [] ∧ b.task.processor.report = none := by
    have turn := hs.turn
    have after : b.bell? = n.2.stage.bell? := by rw [bell?, hs.traffic.owner, ← owner, hs.own]; rfl
    rw [due, after, hs.task]
    cases turn with
    | alarmed =>
      refine ⟨List.append_nil _, ?_, nothing⟩
      rw [w.task.alarms_log_alarmed]
      simp
  have later : c.due = b.task.alarms ∧ c.task.processor.report = none := by
    refine reach.invariant (P := fun x => x.due = b.task.alarms ∧ x.task.processor.report = none) ⟨first.1, first.2.2⟩ ?_
      fun _ ih => ih
    intro x i pick' th' n' y hbx ih hs'
    have hx : x.Possible := possible.reach (hwb.trans hbx)
    refine ⟨?_, hs'.report_none ((hwb.trans hbx).processor_closed closed) ih.2⟩
    rcases hs'.due hx with same | ⟨e', -, howner, -, hcan | ⟨-, report⟩⟩
    · exact same.trans ih.1
    · exact absurd (ih.1.symm.trans (hx.rung.due_of_canFail hs' howner hcan)) first.2.1
    · rw [ih.2] at report
      cases report
  -- What is due begins with the calls that were made, and those with the calls that were made before.
  have upper : c.task.alarms <+: b.task.alarms := later.1 ▸ List.prefix_append ..
  exact upper.eq_of_length_le reach.alarms_prefix.length_le

/-- How often the handler is called in the life of a task, under any order of steps and any calls of the main loop and of steps. -/
structure HandlerCalls (w : World σ ν) : Prop where
  /-- It is called with failures that end the task, when mailbox and task are closed. -/
  fatal : ∀ e ∈ w.task.alarms, ∃ source, e = .fatal source
  closed : w.task.alarms ≠ [] → w.task.mailbox.status = .closed ∧ w.task.processor.status = .closed
  atMostTwice : w.task.alarms.length ≤ 2
  /-- It is called once at most if nothing was reported, and until a call of the main loop has taken a report. -/
  once : w.task.reports = [] ∨ ¬w.Emptied → w.task.alarms.length ≤ 1
  /-- The second call is for the report, which some call of the main loop has taken. -/
  second : ∀ e e', w.task.alarms = [e, e'] → ∃ E, e' = .fatal E ∧ w.task.reports = [E] ∧ w.Emptied
  /-- There is no second call if no report is kept when the first is made. -/
  last : ∀ t pick e stack b, w.threads[t]? = some ⟨.alarm e, stack⟩ → w.step? t pick = some b →
    w.task.processor.report = none → ∀ c, b.Reach c → c.task.alarms = b.task.alarms

end World

/-- The handler is called twice at most, and a second time only for a report that was kept when it was called first. -/
theorem handler_calls {w : World σ ν} (possible : w.Possible) : w.HandlerCalls := by
  have rung := possible.rung
  have part : w.task.alarms <+: w.due := List.prefix_append ..
  refine ⟨?_, rung.closed, ?_, ?_, ?_, ?_⟩
  · intro e he
    have hdue := part.subset he
    cases rung.calls with
    | never due => rw [due] at hdue; cases hdue
    | once e₁ due => rw [due, List.mem_singleton] at hdue; exact ⟨e₁, hdue⟩
    | twice e₁ e₂ due =>
      rw [due, List.mem_pair] at hdue
      exact hdue.elim (fun h => ⟨e₁, h⟩) fun h => ⟨e₂, h⟩
  · refine Nat.le_trans part.length_le ?_
    cases rung.calls with
    | never due | once _ due | twice _ _ due => simp [due]
  · intro h
    refine Nat.le_trans part.length_le ?_
    cases rung.calls with
    | never due | once _ due => simp [due]
    | twice e e' due reports emptied => exact (h.elim (fun h => by rw [h] at reports; cases reports) fun h => h emptied).elim
  · intro e e' halarms
    rw [halarms] at part
    cases rung.calls with
    | never due | once _ due => exact absurd part.length_le (by simp [due])
    | twice e₁ E due reports emptied =>
      rw [due] at part
      obtain ⟨-, rfl⟩ : e = .fatal e₁ ∧ e' = .fatal E := by simpa using part.eq_of_length rfl
      exact ⟨E, rfl, reports, emptied⟩
  · exact fun t pick e stack b hx step nothing c reach => possible.last_alarm hx step nothing reach

/-- A task whose only thread sends a mail, calls the main loop and calls it again. The mail reports a failure and then fails. -/
def failedThenReported : World Unit Nat :=
  .start (.new ⟨4⟩ 0 none (fun _ => .finish (.returned 0)) ())
    [.post ⟨⟨"m", []⟩, .empty, 0⟩ (.call false (.report (.plain "E")) fun _ => .finish (.failed (.plain "X"))) fun _ =>
      .call false .loop fun _ => .call false .loop fun _ => .finish (.returned 0)]

theorem failedThenReported_possible : failedThenReported.Possible := ⟨⟨4⟩, 0, none, _, (), _, .here⟩

/-- The first call of the main loop ends with the failure of the mail, the second with the report. -/
theorem handler_calls_of_failedThenReported : ∃ w : World Unit Nat,
    failedThenReported.moves (List.replicate 31 (.step 0 0)) = some w ∧
    w.task.alarms = [.fatal (.actionFailed "m" (.plain "X")), .fatal (.plain "E")] ∧ w.HandlerCalls := by
  refine ⟨_, rfl, rfl, handler_calls (failedThenReported_possible.reach ?_)⟩
  exact .of_moves (List.replicate 31 (.step 0 0)) rfl

/-! ## Not at most once

The failure of a mail leaves the report where it is, and a later call of the main loop finds it and turns to the handler again, as in
`failedThenReported`. -/

/-- The handler is called once at most in the life of a task, whatever is done with it. -/
def CalledOnce (σ ν : Type) : Prop := ∀ w : World σ ν, w.Possible → w.task.alarms.length ≤ 1

/-- The handler is called with the failure of the mail and again with the report. -/
theorem calledOnce_false : ¬CalledOnce Unit Nat := by
  intro once
  have reach : failedThenReported.Reach _ := .of_moves (List.replicate 31 (.step 0 0)) rfl
  exact absurd (once _ (failedThenReported_possible.reach reach)) (by decide)

end Mailroom
