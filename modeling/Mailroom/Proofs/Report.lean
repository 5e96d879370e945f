import Mailroom.Proofs.Exit

/-!
# Failures that are reported and failures that happen

A failure can be reported from anywhere; it is kept until the main loop collects it on its way out. A mail or the default action can
fail as well, and that is another way out, on which nothing is collected. `loop_failure`: a call of the main loop in which something
fails returns that failure, whatever was reported, and leaves the report where it is; a call in which nothing fails returns what was
reported. In both cases the handler is told the same. So the first report does not always win (`reportWins_false`).
-/

namespace Mailroom

variable {σ ν : Type}

/-! ## The report -/

/-- What a step from `stage` does to the report. -/
inductive Reporting (w : Task σ ν) (stage : Stage σ ν) (n : Next σ ν) : Prop where
  | same (report : n.1.processor.report = w.processor.report)
  | filed (e : Failure) (was : w.processor.status ≠ .closed) (first : w.processor.report = none)
    (report : n.1.processor.report = some e)
  | collected (at_end : stage = .collect) (report : n.1.processor.report = none)

namespace Thread

variable {w : Task σ ν} {me : ThreadId} {pick : Nat} {stack : List (Frame σ ν)}

/-- No call of a body touches the report; a report has a stage of its own. -/
theorem Called.report {q : Request} {n : Task σ ν × Stage σ ν} (h : Called w me stack q n) :
    n.1.processor.report = w.processor.report := by
  cases h with
  | discarding t m => simp
  | _ => rfl

/-- The end of a body does not touch the report. -/
theorem Ended.report {e : Ending ν} {n : Next σ ν} (h : Ended w e stack n) : n.1.processor.report = w.processor.report := by
  cases h with
  | captured h t d e =>
    cases e with
    | returned | failed | panicked => rfl
  | _ => rfl

/-- A report is filed once, and collected by the main loop at its end. -/
theorem Turn.toReporting {stage : Stage σ ν} {n : Next σ ν} (h : Turn w me pick stack stage n) : Reporting w stage n := by
  cases h with
  | ended h | broken h => exact .same h.report
  | called guarded q k h => exact .same h.report
  | accepted | refused | skipped | dropped => exact .same (by simp)
  | taken m choice patient purpose =>
    cases purpose with
    | hold | yield | step | loop => exact .same rfl
  | filed e stack was first => exact .filed e was first rfl
  | collected => exact .collected rfl rfl
  | _ => exact .same rfl

end Thread

/-! ## Failing, and leaving the loop with a failure -/

/-- A mail or the default action that the main loop runs has failed or panicked, and the loop, whose frames are `base`, is about to
learn of the failure `e`. -/
inductive Fails (base : List (Frame σ ν)) : Thread σ ν → Failure → Prop where
  | mail (e : Failure) : Fails base ⟨.answer (.failed e), .serve true :: base⟩ e.toFatal
  | default (e : Failure) : Fails base ⟨.run (.finish (.failed e)), .default :: base⟩ (.fatal (.actionFailed Thread.defaultName e))
  | panicked (p : Payload) :
    Fails base ⟨.run (.finish (.panicked p)), .default :: base⟩ (.fatal (.actionPanicked Thread.defaultName p.message))
  | unwound (p : Payload) : Fails base ⟨.unwind p, .default :: base⟩ (.fatal (.actionPanicked Thread.defaultName p.message))

/-- The failure that the stage leads the call to, if it is on its way out with one. -/
def Stage.verdict? : Stage σ ν → Option Failure
  | answer (.failed e) => some e
  | alarm e => some e
  | shut next => next.verdict?
  | wakeAll next => next.verdict?
  | drop _ next => next.verdict?
  | markClosed next => next.verdict?
  | _ => none

/-- The call with the frames `base` under it is on its way out with the failure `e`. -/
inductive Leaving (base : List (Frame σ ν)) (e : Failure) : Thread σ ν → Prop where
  | leaving (stage : Stage σ ν) (h : stage.verdict? = some e) : Leaving base e ⟨stage, base⟩
  | alarmed (stage : Stage σ ν) (above : List (Frame σ ν)) : Leaving base e ⟨stage, above ++ .handler e :: base⟩

/-- What the call will return is settled: it is on its way out with a failure, or it is done. -/
inductive Settled (base : List (Frame σ ν)) : Thread σ ν → Prop where
  | leaving {e : Failure} {th : Thread σ ν} (h : Leaving base e th) : Settled base th
  | done : Settled base ⟨.answer .done, base⟩

/-- The stage of a call that is settled, if no frame stands above it. -/
def Stage.isSettled : Stage σ ν → Bool
  | answer .done => true
  | s => s.verdict?.isSome

section

variable {base : List (Frame σ ν)} {stage : Stage σ ν} {e : Failure}

/-- Frames that stand above others are not those. -/
theorem ne_append_cons {above : List (Frame σ ν)} {f : Frame σ ν} : base ≠ above ++ f :: base := by
  intro h
  have := congrArg List.length h
  simp only [List.length_append, List.length_cons] at this
  omega

/-- With no frame above those of the call, the stage itself says what the call is leaving with. -/
theorem Leaving.verdict (h : Leaving base e ⟨stage, base⟩) : stage.verdict? = some e := by
  generalize hth : (⟨stage, base⟩ : Thread σ ν) = th at h
  cases h with
  | leaving stage h => cases hth; exact h
  | alarmed stage above => exact absurd (congrArg Thread.stack hth) ne_append_cons

/-- With frames above, the handler runs, and the lowest of them is its frame. -/
theorem Leaving.handler {above : List (Frame σ ν)} {f : Frame σ ν} (h : Leaving base e ⟨stage, above ++ f :: base⟩) :
    f = .handler e := by
  generalize hth : (⟨stage, above ++ f :: base⟩ : Thread σ ν) = th at h
  cases h with
  | leaving stage h => exact absurd (congrArg Thread.stack hth).symm ne_append_cons
  | alarmed stage above => exact (List.cons.inj (List.append_inj' (congrArg Thread.stack hth) rfl).2).1

/-- Nothing is collected while something runs for the loop. -/
theorem Stage.ne_collect {above : List (Frame σ ν)} {f : Frame σ ν} (serving : f.isServing = true)
    (one : Thread.servings ⟨stage, above ++ f :: base⟩ ≤ 1) : stage ≠ .collect := by
  rintro rfl
  have hpos : 0 < (above ++ f :: base).countP Frame.isServing :=
    List.countP_pos_iff.mpr ⟨f, List.mem_append_right above List.mem_cons_self, serving⟩
  exact absurd one (Nat.not_le.mpr (Nat.add_lt_add_right hpos 1))

/-- Who is leaving does not collect. -/
theorem Leaving.ne_collect {th : Thread σ ν} (h : Leaving base e th) (one : th.servings ≤ 1) : th.stage ≠ .collect := by
  cases h with
  | leaving stage h => rintro rfl; cases h
  | alarmed stage above => exact Stage.ne_collect rfl one

/-- A call is settled only once the thread is in it. -/
theorem Settled.length_le {th : Thread σ ν} (h : Settled base th) : base.length ≤ th.stack.length := by
  cases h with
  | leaving h =>
    cases h with
    | leaving => exact Nat.le_refl _
    | alarmed stage above =>
      rw [List.length_append, List.length_cons]
      omega
  | done => exact Nat.le_refl _

/-- A call that is settled, with no frame above it, stands at a stage that is. -/
theorem Settled.isSettled (h : Settled base ⟨stage, base⟩) : stage.isSettled = true := by
  generalize hth : (⟨stage, base⟩ : Thread σ ν) = th at h
  cases h with
  | leaving h =>
    subst hth
    have hverdict := h.verdict
    cases stage with
    | answer r => cases r <;> first | rfl | cases hverdict
    | _ => exact Option.isSome_of_eq_some hverdict
  | done => cases hth; rfl

/-- With frames above, it is the handler that runs. -/
theorem Settled.handler (above : List (Frame σ ν)) {f : Frame σ ν} (h : Settled base ⟨stage, above ++ f :: base⟩) :
    ∃ e, f = .handler e := by
  generalize hth : (⟨stage, above ++ f :: base⟩ : Thread σ ν) = th at h
  cases h with
  | leaving h => subst hth; exact ⟨_, h.handler⟩
  | done => exact absurd (congrArg Thread.stack hth).symm ne_append_cons

/-- The loop collects at one point only. -/
theorem InLoop.collect {w : Task σ ν} {before : List Failure} {th : Thread σ ν} (h : InLoop w before base th)
    (one : th.servings ≤ 1) (at_end : th.stage = .collect) : th = ⟨.collect, base⟩ := by
  cases h with
  | calling => cases at_end
  | looping stage h => exact congrArg (Thread.mk · base) at_end
  | inside hf stage above => exact absurd at_end (Stage.ne_collect (by cases hf <;> rfl) one)

/-- A call that returns a failure has told the handler of it. -/
theorem InLoop.told {w : Task σ ν} {before : List Failure} (h : InLoop w before base ⟨.answer (.failed e), base⟩) :
    w.alarms = before ++ [e] := by
  cases h.looping_of_base with
  | leaving out => cases out
  | failed e known => exact known.alarms

/-- A call that has returned is settled. -/
theorem InLoop.settled {w : Task σ ν} {before : List Failure} {r : Reply ν} (h : InLoop w before base ⟨.answer r, base⟩) :
    Settled base ⟨.answer r, base⟩ := by
  cases h.looping_of_base with
  | leaving out => cases out
  | done => exact .done
  | failed e => exact .leaving (.leaving _ rfl)

end

/-! ## Turns of the thread itself -/

namespace Thread

variable {w : Task σ ν} {me : ThreadId} {pick : Nat} {base : List (Frame σ ν)} {stage : Stage σ ν} {e : Failure} {n : Next σ ν}

/-- A call that is on its way out with a failure stays on it, or a panic of the handler goes through. -/
theorem Turn.leaving {th : Thread σ ν} (turn : Turn w me pick th.stack th.stage n) (h : Leaving base e th)
    (answered : ∀ r, th ≠ ⟨.answer r, base⟩) : Leaving base e n.2 ∨ ∃ p, n.2 = ⟨.unwind p, base⟩ := by
  cases h with
  | leaving stage h =>
    cases stage with
    | answer r => exact absurd rfl (answered r)
    | alarm e' =>
      obtain rfl : e' = e := by simpa [Stage.verdict?] using h
      cases turn with
      | alarmed => exact .inl (.alarmed _ [])
    | shut next =>
      cases turn with
      | shut | shutBefore => exact .inl (.leaving _ h)
    | wakeAll next => cases turn; exact .inl (.leaving _ h)
    | drop ms next =>
      cases turn with
      | dropped | disposed => exact .inl (.leaving _ h)
    | markClosed next => cases turn; exact .inl (.leaving _ h)
    | _ => cases h
  | alarmed stage above =>
    rcases turn.stack_above with ⟨above', hn⟩ | ⟨rfl, hr⟩
    · have hleaving : Leaving base e ⟨n.2.stage, above' ++ .handler e :: base⟩ := .alarmed n.2.stage above'
      rw [← hn] at hleaving
      exact .inl hleaving
    · have hend : ∀ {how : Ending ν}, Ended w how (.handler e :: base) n → Leaving base e n.2 ∨ ∃ p, n.2 = ⟨.unwind p, base⟩ := by
        intro how h
        cases h with
        | handler =>
          cases how with
          | returned | failed => exact .inl (.leaving _ rfl)
          | panicked p => exact .inr ⟨p, rfl⟩
      cases turn with
      | ended h | broken h => exact hend h
      | unwound through => cases through
      | _ => cases hr

/-- The default action settles the call only by failing. -/
theorem Ended.fails {how : Ending ν} (h : Ended w how (.default :: base) n) (settled : Settled base n.2) :
    ∃ e, Fails base ⟨.run (.finish how), .default :: base⟩ e := by
  cases h with
  | default =>
    cases how with
    | returned v => cases settled.isSettled
    | failed e => exact ⟨_, .default e⟩
    | panicked p => exact ⟨_, .panicked p⟩

/-- When something that the loop ran has failed, the loop is on its way out with that failure. -/
theorem Turn.fails {th : Thread σ ν} (turn : Turn w me pick th.stack th.stage n) (h : Fails base th e) : Leaving base e n.2 := by
  cases h with
  | mail e =>
    cases turn with
    | aborted => exact .leaving _ rfl
    | looped _ _ well => exact absurd rfl (well e)
  | default e =>
    cases turn with
    | ended h => cases h; exact .leaving _ rfl
  | panicked p =>
    cases turn with
    | ended h => cases h; exact .leaving _ rfl
  | unwound p =>
    cases turn with
    | unwound through => cases through
    | broken h => cases h; exact .leaving _ rfl

end Thread

/-! ## Steps -/

namespace World

variable {w y a b : World σ ν} {t i : ThreadId} {pick : Nat} {th : Thread σ ν} {n : Next σ ν} {base : List (Frame σ ν)}
  {before : List Failure} {E : Failure}

/-- What was reported stays so until the main loop collects it. -/
theorem Stepped.report_kept (hs : Stepped a t pick th n b) (reported : a.task.processor.report = some E)
    (calm : th.stage ≠ .collect) : b.task.processor.report = some E := by
  rw [hs.task]
  cases hs.turn.toReporting with
  | same report => exact report.trans reported
  | filed e was first => exact absurd (first.symm.trans reported) nofun
  | collected at_end => exact absurd at_end calm

/-- Nothing is reported any more once the task is closed. -/
theorem Stepped.report_none (hs : Stepped a t pick th n b) (closed : a.task.processor.status = .closed)
    (nothing : a.task.processor.report = none) : b.task.processor.report = none := by
  rw [hs.task]
  cases hs.turn.toReporting with
  | same report => exact report.trans nothing
  | filed e was => exact absurd closed was
  | collected at_end report => exact report

/-- Only the mailbox thread collects a report. -/
theorem Possible.not_collect (possible : a.Possible) (hi : i ≠ a.task.mailbox.owner) {x : Thread σ ν} (hx : a.threads[i]? = some x) :
    x.stage ≠ .collect := by
  intro hstage
  refine hi ((possible.serving hx).2 ?_)
  rw [Thread.servings, hstage]
  exact Nat.succ_pos _

/-- A call becomes settled when something that it ran has failed, or at its end. -/
theorem Stepped.settled_cases (hs : Stepped a t pick th n b) (owner : t = a.task.mailbox.owner) (away : ¬a.IsBack t base)
    (h : InLoop a.task before base th) (settled : Settled base n.2) :
    Settled base th ∨ (∃ e, Fails base th e) ∨ th = ⟨.collect, base⟩ := by
  have turn := hs.turn
  cases h with
  | calling guarded k stack free hbase known =>
    have hstep := hs.step
    simp only [Thread.stepStage, Thread.stepBody, Thread.call_loop owner free] at hstep
    cases hstep
    rw [← hbase] at settled
    cases settled.isSettled
  | looping stage h =>
    cases h with
    | consulting | checking | taking => cases turn <;> cases settled.isSettled
    | serving =>
      cases turn with
      | served => obtain ⟨e, he⟩ := Settled.handler [] settled; cases he
    | idling =>
      cases turn with
      | defaulted => obtain ⟨e, he⟩ := Settled.handler [] settled; cases he
      | vacant => cases settled.isSettled
    | failing e => exact .inl (.leaving (.leaving _ rfl))
    | closing out =>
      cases out with
      | good => cases turn <;> cases settled.isSettled
      | bad e => exact .inl (.leaving (.leaving _ rfl))
    | waking ms out =>
      cases out with
      | good => cases turn; cases settled.isSettled
      | bad e => exact .inl (.leaving (.leaving _ rfl))
    | dropping ms out =>
      cases out with
      | good => cases turn <;> cases settled.isSettled
      | bad e => exact .inl (.leaving (.leaving _ rfl))
    | leaving out =>
      cases out with
      | good => cases turn; cases settled.isSettled
      | bad e => exact .inl (.leaving (.leaving _ rfl))
    | collecting => exact .inr (.inr rfl)
    | done => exact .inl .done
    | failed e => exact .inl (.leaving (.leaving _ rfl))
    | panicking p => exact absurd (.inr ⟨p, hs.thread⟩) away
  | inside hf stage above =>
    rcases turn.stack_above with ⟨above', hn⟩ | ⟨rfl, hr⟩
    · have hsettled : Settled base ⟨n.2.stage, n.2.stack⟩ := settled
      rw [hn] at hsettled
      obtain ⟨e, rfl⟩ := Settled.handler above' hsettled
      exact .inl (.leaving (.alarmed stage above))
    · cases hf with
      | mail =>
        cases turn with
        | aborted whole e => exact .inr (.inl ⟨_, .mail e⟩)
        | looped => cases settled.isSettled
        | unwound => cases settled.isSettled
        | ended h | broken h => cases h
        | _ => cases hr
      | default =>
        cases turn with
        | ended h => exact .inr (.inl (h.fails settled))
        | broken h => exact .inr (.inl ⟨_, .unwound _⟩)
        | unwound through => cases through
        | _ => cases hr
      | handler e => exact .inl (.leaving (.alarmed stage []))

/-! ## A whole call -/

/-- Something that the call ran has failed by now, or the call is on its way out with that failure, or the handler has panicked. -/
inductive Doomed (base : List (Frame σ ν)) (e : Failure) (th : Thread σ ν) : Prop where
  | failing (h : Fails base th e)
  | leaving (h : Leaving base e th)
  | panicking (p : Payload) (h : th = ⟨.unwind p, base⟩)

/-- Once something that the call ran has failed the call ends with that failure, and what was reported stays where it is. -/
theorem During.doomed {e : Failure} (h : During t base y b) (possible : y.Possible) (owner : t = y.task.mailbox.owner)
    (start : ∃ th, y.threads[t]? = some th ∧ Doomed base e th) :
    (∃ th, b.threads[t]? = some th ∧ Doomed base e th) ∧
      ∀ E, y.task.processor.report = some E → b.task.processor.report = some E := by
  refine h.invariant (P := fun x => (∃ th, x.threads[t]? = some th ∧ Doomed base e th) ∧
    ∀ E, y.task.processor.report = some E → x.task.processor.report = some E) ⟨start, fun _ => id⟩ ?_ fun _ ih => ih
  intro x i pick th n z hyx away ⟨⟨th', hth', hdoomed⟩, hkept⟩ hs
  have hx : x.Possible := possible.reach hyx.reach
  by_cases hi : i = t
  · subst hi
    obtain rfl : th = th' := Option.some.inj (hs.thread.symm.trans hth')
    cases hdoomed with
    | failing h =>
      have hcalm : th.stage ≠ .collect := by cases h <;> nofun
      exact ⟨⟨n.2, hs.own, .leaving (hs.turn.fails h)⟩, fun E hE => hs.report_kept (hkept E hE) hcalm⟩
    | leaving h =>
      refine ⟨⟨n.2, hs.own, ?_⟩, fun E hE => hs.report_kept (hkept E hE) (h.ne_collect (hx.serving hs.thread).1)⟩
      rcases hs.turn.leaving h fun r hr => away (.inl ⟨r, hr ▸ hs.thread⟩) with hleaving | ⟨p, hp⟩
      · exact .leaving hleaving
      · exact .panicking p hp
    | panicking p h => exact absurd (.inr ⟨p, h ▸ hs.thread⟩) away
  · refine ⟨⟨th', hs.other (Ne.symm hi) hth', hdoomed⟩, fun E hE => hs.report_kept (hkept E hE) (hx.not_collect ?_ hs.thread)⟩
    rw [hyx.reach.owner, ← owner]
    exact hi

/-- Nothing that the call runs has failed in the time between two worlds. -/
def Unfailing (t : ThreadId) (base : List (Frame σ ν)) (w b : World σ ν) : Prop :=
  ∀ y th e, During t base w y → During t base y b → y.threads[t]? = some th → ¬Fails base th e

/-- A shorter time is no worse. -/
theorem Unfailing.earlier (h : Unfailing t base w b) (hab : During t base a b) : Unfailing t base w a :=
  fun y th e hwy hya => h y th e hwy (hya.trans hab)

/-- In the latter part of such a time nothing has failed either. -/
theorem Unfailing.later (h : Unfailing t base w b) (hwa : During t base w a) : Unfailing t base a b :=
  fun y th e hay => h y th e (hwa.trans hay)

/-- In a call in which nothing has failed, nothing is reported once it is settled. -/
theorem During.unreported (h : During t base w b) (possible : w.Possible) (owner : t = w.task.mailbox.owner)
    (start : w.threads[t]? = some th ∧ InLoop w.task before base th ∧ ¬Settled base th) (unfailing : Unfailing t base w b) :
    ∃ th, b.threads[t]? = some th ∧
      (Settled base th → b.task.processor.status = .closed ∧ b.task.processor.report = none) := by
  induction h with
  | here => exact ⟨th, start.1, fun hsettled => absurd hsettled start.2.2⟩
  | @next x z m hwx away hm ih =>
    obtain ⟨th', hth', hquiet⟩ := ih (unfailing.earlier (.next m .here away hm))
    obtain ⟨th'', hth'', hin⟩ := hwx.inLoop possible owner ⟨th, start.1, start.2.1⟩
    obtain rfl : th' = th'' := Option.some.inj (hth'.symm.trans hth'')
    cases m with
    | stir i => cases hm; exact ⟨th', hth', hquiet⟩
    | step i pick =>
      obtain ⟨x', n, hs⟩ := step?_eq_some hm
      have keep : x.task.processor.status = .closed ∧ x.task.processor.report = none →
          z.task.processor.status = .closed ∧ z.task.processor.report = none :=
        fun ⟨closed, nothing⟩ => ⟨(Reach.here.step hm).processor_closed closed, hs.report_none closed nothing⟩
      by_cases hi : i = t
      · subst hi
        obtain rfl : x' = th' := Option.some.inj (hs.thread.symm.trans hth')
        refine ⟨n.2, hs.own, fun hsettled => ?_⟩
        rcases hs.settled_cases (owner.trans hwx.reach.owner.symm) away hin hsettled with hbefore | ⟨e, hfails⟩ | hcollect
        · exact keep (hquiet hbefore)
        · exact absurd hfails (unfailing x x' e hwx (.next (.step i pick) .here away hm) hs.thread)
        · subst hcollect
          have closed : x.task.processor.status = .closed := by
            cases hin.looping_of_base with
            | leaving out => cases out
            | collecting known => exact known.processor rfl
          refine ⟨(Reach.here.step hm).processor_closed closed, ?_⟩
          rw [hs.task]
          have turn := hs.turn
          cases turn with
          | collected => rfl
          | finished _ _ nothing => exact nothing
      · exact ⟨th', hs.other (Ne.symm hi) hth', fun hsettled => keep (hquiet hsettled)⟩

/-- What was reported in a call that was not settled is what the call ends with, if nothing fails in it. -/
theorem During.reported (h : During t base y b) (possible : y.Possible) (owner : t = y.task.mailbox.owner)
    (start : y.threads[t]? = some th ∧ InLoop y.task before base th ∧ ¬Settled base th)
    (report : y.task.processor.report = some E) (unfailing : Unfailing t base y b) :
    ∃ th, b.threads[t]? = some th ∧ (¬Settled base th ∧ b.task.processor.report = some E ∨ Leaving base (.fatal E) th ∨
      ∃ p, th = ⟨.unwind p, base⟩) := by
  induction h with
  | here => exact ⟨th, start.1, .inl ⟨start.2.2, report⟩⟩
  | @next x z m hyx away hm ih =>
    obtain ⟨th', hth', hpoint⟩ := ih (unfailing.earlier (.next m .here away hm))
    obtain ⟨th'', hth'', hin⟩ := hyx.inLoop possible owner ⟨th, start.1, start.2.1⟩
    obtain rfl : th' = th'' := Option.some.inj (hth'.symm.trans hth'')
    have hx : x.Possible := possible.reach hyx.reach
    have howner : t = x.task.mailbox.owner := owner.trans hyx.reach.owner.symm
    cases m with
    | stir i => cases hm; exact ⟨th', hth', hpoint⟩
    | step i pick =>
      obtain ⟨x', n, hs⟩ := step?_eq_some hm
      by_cases hi : i = t
      · subst hi
        obtain rfl : x' = th' := Option.some.inj (hs.thread.symm.trans hth')
        refine ⟨n.2, hs.own, ?_⟩
        rcases hpoint with ⟨hopen, hreport⟩ | hleaving | ⟨p, rfl⟩
        · by_cases hcollect : x'.stage = .collect
          · obtain rfl := hin.collect (hx.serving hs.thread).1 hcollect
            have turn := hs.turn
            cases turn with
            | collected e stack free found =>
              obtain rfl : e = E := Option.some.inj (found.symm.trans hreport)
              exact .inr (.inl (.leaving _ rfl))
            | finished _ _ nothing => exact absurd (nothing.symm.trans hreport) nofun
          · refine .inl ⟨fun hsettled => ?_, hs.report_kept hreport hcollect⟩
            rcases hs.settled_cases howner away hin hsettled with hbefore | ⟨e, hfails⟩ | rfl
            · exact hopen hbefore
            · exact unfailing x x' e hyx (.next (.step i pick) .here away hm) hs.thread hfails
            · exact hcollect rfl
        · exact .inr (hs.turn.leaving hleaving fun r hr => away (.inl ⟨r, hr ▸ hs.thread⟩))
        · exact absurd (.inr ⟨p, hs.thread⟩) away
      · refine ⟨th', hs.other (Ne.symm hi) hth', hpoint.imp_left fun ⟨hopen, hreport⟩ => ⟨hopen, ?_⟩⟩
        exact hs.report_kept hreport (hx.not_collect (howner ▸ hi) hs.thread)

/-- What a call of the main loop that was made in the world `w`, and has returned `r` in the world `b`, made of failures. -/
structure Concluded (t : ThreadId) (base : List (Frame σ ν)) (w b : World σ ν) (r : Reply ν) : Prop where
  /-- If a mail or the default action fails, the call returns that failure and the handler is told of it, whatever was reported; what
  was reported stays where it is. -/
  failed : ∀ y th e, w.During t base y → y.During t base b → y.threads[t]? = some th → Fails base th e →
    r = .failed e ∧ b.task.alarms = w.task.alarms ++ [e] ∧
      ∀ E, y.task.processor.report = some E → b.task.processor.report = some E
  /-- If nothing fails, the call returns what was reported and the handler is told of it. -/
  reported : Unfailing t base w b → ∀ y E, w.During t base y → y.During t base b → y.task.processor.report = some E →
    r = .failed (.fatal E) ∧ b.task.alarms = w.task.alarms ++ [.fatal E]

end World

/-- What a call of the main loop returns. The mailbox thread makes the call in a world that is possible, and not from inside another
such call, and later the call has returned. If a mail or the default action that it runs fails or panics, the call returns that
failure; if none does, it returns the failure that was reported in the meantime, if there is one. -/
theorem loop_failure {w b : World σ ν} (possible : w.Possible) {t : ThreadId} (owner : t = w.task.mailbox.owner) {guarded : Bool}
    {k : Reply ν → Body σ ν} {stack : List (Frame σ ν)} (call : w.threads[t]? = some ⟨.run (.call guarded .loop k), stack⟩)
    (free : stack.any Frame.isServing = false) (during : w.During t (.caller guarded .loop k :: stack) b) {r : Reply ν}
    (back : b.threads[t]? = some ⟨.answer r, .caller guarded .loop k :: stack⟩) :
    World.Concluded t (.caller guarded .loop k :: stack) w b r := by
  have calling : InLoop w.task w.task.alarms (.caller guarded .loop k :: stack) ⟨.run (.call guarded .loop k), stack⟩ :=
    .calling guarded k stack free rfl ⟨nofun, nofun, (List.append_nil _).symm⟩
  have inLoop : ∀ y, w.During t (.caller guarded .loop k :: stack) y →
      ∃ th, y.threads[t]? = some th ∧ InLoop y.task w.task.alarms (.caller guarded .loop k :: stack) th :=
    fun y hwy => hwy.inLoop possible owner ⟨_, call, calling⟩
  obtain ⟨th, hth, hin⟩ := inLoop b during
  obtain rfl : th = _ := Option.some.inj (hth.symm.trans back)
  have returned : ∀ {e}, Leaving (.caller guarded .loop k :: stack) e ⟨.answer r, .caller guarded .loop k :: stack⟩ →
      r = .failed e ∧ b.task.alarms = w.task.alarms ++ [e] := by
    intro e hleaving
    have hverdict := hleaving.verdict
    obtain rfl : r = .failed e := by
      cases r with
      | failed e' => exact congrArg Reply.failed (Option.some.inj hverdict)
      | _ => cases hverdict
    exact ⟨rfl, hin.told⟩
  constructor
  · intro y th e hwy hyb hth hfails
    have howner : t = y.task.mailbox.owner := owner.trans hwy.reach.owner.symm
    obtain ⟨⟨th', hth', hdoomed⟩, hkept⟩ := hyb.doomed (possible.reach hwy.reach) howner ⟨th, hth, .failing hfails⟩
    obtain rfl : th' = _ := Option.some.inj (hth'.symm.trans back)
    cases hdoomed with
    | failing h => cases h
    | leaving h => exact ⟨(returned h).1, (returned h).2, hkept⟩
    | panicking p h => cases h
  · intro unfailing y E hwy hyb hreport
    have howner : t = y.task.mailbox.owner := owner.trans hwy.reach.owner.symm
    have hopen : ¬Settled (.caller guarded .loop k :: stack) ⟨.run (.call guarded .loop k), stack⟩ :=
      fun hsettled => absurd hsettled.length_le (Nat.not_succ_le_self _)
    obtain ⟨th', hth', hquiet⟩ := hwy.unreported possible owner ⟨call, calling, hopen⟩ (unfailing.earlier hyb)
    obtain ⟨th'', hth'', hin'⟩ := inLoop y hwy
    obtain rfl : th'' = th' := Option.some.inj (hth''.symm.trans hth')
    have hopen' : ¬Settled (.caller guarded .loop k :: stack) th'' :=
      fun hsettled => absurd ((hquiet hsettled).2.symm.trans hreport) nofun
    obtain ⟨x, hx, hpoint⟩ :=
      hyb.reported (possible.reach hwy.reach) howner ⟨hth', hin', hopen'⟩ hreport (unfailing.later hwy)
    obtain rfl : x = _ := Option.some.inj (hx.symm.trans back)
    rcases hpoint with ⟨hnot, -⟩ | hleaving | ⟨p, hp⟩
    · exact absurd hin.settled hnot
    · exact returned hleaving
    · cases hp

/-- A task whose only thread sends a mail and calls the main loop. The mail reports a failure and yields, and fails if the yield does. -/
def failingReport : World Unit Nat :=
  .start (.new ⟨2⟩ 0 none (fun _ => .finish (.returned 0)) ())
    [.post ⟨⟨"bad", []⟩, .empty, 0⟩ (.call false (.report (.plain "first")) fun _ => .call false (.yield 0 true) fun
        | .failed e => .finish (.failed e)
        | _ => .finish (.returned 0)) fun _ =>
      .call false .loop fun _ => .finish (.returned 0)]

/-- The frames of its call of the main loop. -/
def failingReport.base : List (Frame Unit Nat) := [.caller false .loop fun _ => .finish (.returned 0)]

theorem failingReport_possible : failingReport.Possible := ⟨⟨2⟩, 0, none, _, (), _, .here⟩

/-- The call of the main loop returns what the mail failed with. -/
theorem loop_failure_of_failingReport : ∃ w b : World Unit Nat, failingReport.moves (List.replicate 3 (.step 0 0)) = some w ∧
    w.movesAway 0 1 (List.replicate 22 (.step 0 0)) = some b ∧
    World.Concluded 0 failingReport.base w b (.failed (.fatal (.actionFailed "bad" .closed))) := by
  refine ⟨_, _, rfl, rfl, loop_failure (t := 0) (failingReport_possible.reach ?_) rfl rfl rfl ?_ rfl⟩
  · exact .of_moves (List.replicate 3 (.step 0 0)) rfl
  · exact .of_moves (List.replicate 22 (.step 0 0)) rfl

/-! ## The first report does not always win

A report closes the mailbox, and that makes other things fail. In `failingReport` the mail that reports a failure yields, the yield
fails because the mailbox is closed, and so the mail fails. The call of the main loop returns this second failure; the first one, though
it was kept, is told to nobody. -/

/-- A report that was kept. -/
def Occurrence.report? : Occurrence σ ν → Option Failure
  | reported e => some e
  | _ => none

/-- What was reported and kept, in the order of time. -/
def Task.reports (w : Task σ ν) : List Failure := history Occurrence.report? w.journal

/-- A call of the main loop in which a mail or the default action fails after the first report returns that report, and tells the
handler of it. -/
def World.ReportWins (t : ThreadId) (base : List (Frame σ ν)) (w b : World σ ν) (r : Reply ν) : Prop :=
  ∀ a i pick y E z th e, w.During t base a → a.task.processor.status ≠ .closed → a.task.reports = [] →
    a.step? i pick = some y → y.task.processor.report = some E →
    y.During t base z → z.threads[t]? = some th → Fails base th e → z.During t base b →
    r = .failed (.fatal E) ∧ b.task.alarms = w.task.alarms ++ [.fatal E]

/-- The first report is kept, and the call returns the failure of the mail nevertheless. -/
theorem reportWins_false : ∃ w b : World Unit Nat, failingReport.moves (List.replicate 3 (.step 0 0)) = some w ∧
    w.movesAway 0 1 (List.replicate 22 (.step 0 0)) = some b ∧
    b.threads[0]? = some ⟨.answer (.failed (.fatal (.actionFailed "bad" .closed))), failingReport.base⟩ ∧
    ¬World.ReportWins 0 failingReport.base w b (.failed (.fatal (.actionFailed "bad" .closed))) := by
  refine ⟨_, _, rfl, rfl, rfl, fun wins => ?_⟩
  -- The report is filed in the eighth of the moves, the mail has failed after nine more, and the call returns after another five.
  have hreply := wins _ 0 0 _ (.plain "first") _ _ _ (.of_moves (List.replicate 7 (.step 0 0)) rfl) nofun
    rfl rfl rfl (.of_moves (List.replicate 9 (.step 0 0)) rfl) rfl (.mail _) (.of_moves (List.replicate 5 (.step 0 0)) rfl)
  cases hreply.1

end Mailroom
