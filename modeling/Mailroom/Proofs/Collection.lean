import Mailroom.Proofs.Journal
import Mailroom.Proofs.Lifecycle

/-!
# No report is lost

A report may come at any moment, also while the main loop is on its way out of a closed mailbox. It is looked at once, with the lock of
the report held: either the task is closed by then, or another report is there, and it is thrown away; or it is kept, and then the main
loop, which closes the task before it gets that lock, finds it. So the journal tells of one report at most, and it is there until a call
of the main loop takes it (`Account`). `no_report_lost`: a call that ends by collecting returns the report that was kept, if one was,
and nothing is kept any more after that.
-/

namespace Mailroom

variable {σ ν : Type}

/-! ## What the journal says of reports -/

/-- A report that is kept comes last among those that were. -/
theorem Task.reports_log_reported (w : Task σ ν) (e : Failure) : (w.log (.reported e)).reports = w.reports ++ [e] :=
  history_cons_of_some (f := Occurrence.report?) rfl _

/-- Only where a report is looked at does the journal come to tell of one. -/
theorem Thread.Turn.reports {w : Task σ ν} {me : ThreadId} {pick : Nat} {stack : List (Frame σ ν)} {stage : Stage σ ν} {n : Next σ ν}
    (h : Turn w me pick stack stage n) (other : ∀ e, stage ≠ .fileReport e) : n.1.reports = w.reports := by
  refine h.writes.history_eq fun entry written => ?_
  cases entry with
  | reported e =>
    cases stage with
    | fileReport e' => exact absurd rfl (other e')
    | _ => cases written
  | _ => rfl

/-! ## Where a report is -/

namespace World

variable {a b w : World σ ν} {t : ThreadId} {pick : Nat} {th : Thread σ ν} {n : Next σ ν} {base : List (Frame σ ν)}

/-- Some earlier call of the main loop took a report. -/
def Emptied (w : World σ ν) : Prop :=
  ∃ (a b : World σ ν) (t : ThreadId) (pick : Nat) (base : List (Frame σ ν)) (e : Failure), a.Possible ∧
    a.threads[t]? = some ⟨.collect, base⟩ ∧ a.task.processor.report = some e ∧ a.step? t pick = some b ∧ b.Reach w

/-- It stays so that some call took the report. -/
theorem Emptied.later (h : a.Emptied) (hab : a.Reach b) : b.Emptied := by
  obtain ⟨x, y, i, pick, base, e, hx, hi, kept, step, reach⟩ := h
  exact ⟨x, y, i, pick, base, e, hx, hi, kept, step, reach.trans hab⟩

/-- Where the report is that the journal tells of. -/
inductive Account (w : World σ ν) : Prop where
  /-- There was none. -/
  | nothing (reports : w.task.reports = []) (report : w.task.processor.report = none)
  | kept (e : Failure) (reports : w.task.reports = [e]) (report : w.task.processor.report = some e)
  /-- A call of the main loop took it, and the task is closed, so no other is kept. -/
  | taken (e : Failure) (reports : w.task.reports = [e]) (report : w.task.processor.report = none)
    (closed : w.task.processor.status = .closed) (emptied : w.Emptied)

/-- The main loop collects when mailbox and task are closed, and in the mailbox thread. -/
theorem Possible.at_collect (possible : w.Possible) (hx : w.threads[t]? = some ⟨.collect, base⟩) :
    w.task.mailbox.status = .closed ∧ w.task.processor.status = .closed ∧ t = w.task.mailbox.owner := by
  obtain ⟨mailbox, processor⟩ : w.task.mailbox.status = .closed ∧ w.task.processor.status = .closed := by
    simpa [Task.isTimely, Stage.isTimely] using possible.timely t _ hx
  refine ⟨mailbox, processor, ?_⟩
  by_contra hother
  exact possible.not_collect hother hx rfl

/-- A report that is looked at is kept if the task is not closed and no other report is there; else it is thrown away. -/
theorem Stepped.files (hs : Stepped a t pick th n b) {e : Failure} (before : th.stage = .fileReport e) :
    (a.task.processor.status ≠ .closed ∧ a.task.processor.report = none) ∧
        b.task.reports = a.task.reports ++ [e] ∧ b.task.processor.report = some e ∨
      (a.task.processor.status = .closed ∨ a.task.processor.report ≠ none) ∧
        b.task.reports = a.task.reports ∧ b.task.processor.report = a.task.processor.report := by
  obtain ⟨stage, stack⟩ := th
  obtain rfl : stage = .fileReport e := before
  have turn := hs.turn
  rw [hs.task]
  cases turn with
  | filed e stack was first => exact .inl ⟨⟨was, first⟩, Task.reports_log_reported _ e, rfl⟩
  | ignored e stack was => exact .inr ⟨was, rfl, rfl⟩

/-- Where the report is does not change as long as neither the report nor the journal does. -/
theorem Account.carry (ha : a.Account) (hab : a.Reach b) (reports : b.task.reports = a.task.reports)
    (report : b.task.processor.report = a.task.processor.report) : b.Account := by
  cases ha with
  | nothing hreports hreport => exact .nothing (reports.trans hreports) (report.trans hreport)
  | kept e hreports hreport => exact .kept e (reports.trans hreports) (report.trans hreport)
  | taken e hreports hreport closed emptied =>
    exact .taken e (reports.trans hreports) (report.trans hreport) (hab.processor_closed closed) (emptied.later hab)

/-- A step files the report, collects it, or leaves it where it is. -/
theorem Stepped.account (hs : Stepped a t pick th n b) (possible : a.Possible) (ha : a.Account) : b.Account := by
  have hab : a.Reach b := Reach.here.step hs.step?_eq
  by_cases hfile : ∃ e, th.stage = .fileReport e
  · obtain ⟨e, before⟩ := hfile
    rcases hs.files before with ⟨⟨was, first⟩, reports, report⟩ | ⟨-, reports, report⟩
    · cases ha with
      | nothing hreports => exact .kept e (reports.trans (by rw [hreports]; rfl)) report
      | kept e' _ hreport => rw [first] at hreport; cases hreport
      | taken _ _ _ closed => exact absurd closed was
    · exact ha.carry hab reports report
  · have other : ∀ e, th.stage ≠ .fileReport e := fun e he => hfile ⟨e, he⟩
    have reports : b.task.reports = a.task.reports := by rw [hs.task]; exact hs.turn.reports other
    have report := hs.tended.report_cases
    rw [← hs.task] at report
    rcases report with report | ⟨e, before, -⟩ | ⟨before, report⟩
    · exact ha.carry hab reports report
    · exact absurd before (other e)
    · cases ha with
      | nothing hreports hreport => exact .nothing (reports.trans hreports) report
      | kept e hreports hreport =>
        obtain ⟨stage, base⟩ := th
        obtain rfl : stage = .collect := before
        refine .taken e (reports.trans hreports) report (hab.processor_closed (possible.at_collect hs.thread).2.1) ?_
        exact ⟨a, b, t, pick, base, e, possible, hs.thread, hreport, hs.step?_eq, .here⟩
      | taken e hreports hreport closed emptied =>
        exact .taken e (reports.trans hreports) report (hab.processor_closed closed) (emptied.later hab)

/-- The account of the report is right in every world that is possible. -/
theorem Possible.account (h : w.Possible) : w.Account := by
  refine h.invariant ?_ (fun possible ih hs => hs.account possible ih) ?_
  · exact fun _ _ _ _ _ _ => .nothing rfl rfl
  · exact fun {a t} _ ih => ih.carry (Reach.here.next (.stir t) rfl) rfl rfl

/-! ## The end of a call of the main loop -/

/-- Once the main loop has collected, nothing is kept any more. -/
theorem Possible.empty_of_collect (possible : w.Possible) (hx : w.threads[t]? = some ⟨.collect, base⟩) (step : w.step? t pick = some b)
    {c : World σ ν} (reach : b.Reach c) : c.task.processor.report = none := by
  have hwb : w.Reach b := Reach.here.step step
  have closed := hwb.processor_closed (possible.at_collect hx).2.1
  refine reach.invariant (P := fun x => x.task.processor.report = none) ?_ (fun hbx ih hs => ?_) fun _ ih => ih
  · obtain ⟨th, n, hs⟩ := step?_eq_some step
    obtain rfl : th = ⟨.collect, base⟩ := Option.some.inj (hs.thread.symm.trans hx)
    have turn := hs.turn
    rw [hs.task]
    cases turn with
    | collected => rfl
    | finished stack free nothing => exact nothing
  · exact hs.report_none (hbx.processor_closed closed) ih

/-- What was taken is not there any more. -/
theorem Emptied.report_none (h : w.Emptied) : w.task.processor.report = none := by
  obtain ⟨x, y, i, pick, base, e, hx, hi, -, step, reach⟩ := h
  exact hx.empty_of_collect hi step reach

/-- What a call of the main loop, whose frames are `base`, makes of reports; it collects in the world `w` and `b` is the world after
that. -/
structure Collected (t : ThreadId) (base : List (Frame σ ν)) (w b : World σ ν) : Prop where
  /-- The call returns the report that was kept before, if there is one, and done if there is none. -/
  first : ¬w.Emptied → ∀ c r, b.During t base c → c.threads[t]? = some ⟨.answer r, base⟩ →
    (∀ e, r = .failed (.fatal e) ↔ e ∈ w.task.reports) ∧ (r = .done ↔ w.task.reports = [])
  /-- If an earlier call took the report, this one returns done. -/
  again : w.Emptied → ∀ c r, b.During t base c → c.threads[t]? = some ⟨.answer r, base⟩ → r = .done
  /-- The call that finds nothing returns at once. -/
  done : w.task.processor.report = none → b.threads[t]? = some ⟨.answer .done, base⟩
  /-- Nothing is kept any more, whatever happens later. -/
  empty : ∀ c, b.Reach c → c.task.processor.report = none

/-- The step that collects settles what the call returns, and empties the slot of the report. -/
theorem Possible.collected (possible : w.Possible) (hx : w.threads[t]? = some ⟨.collect, base⟩) (step : w.step? t pick = some b) :
    Collected t base w b := by
  obtain ⟨mailbox, processor, owner⟩ := possible.at_collect hx
  have away : ¬w.IsBack t base := by
    rintro (⟨r, hr⟩ | ⟨p, hp⟩)
    · cases hr.symm.trans hx
    · cases hp.symm.trans hx
  have reply : ∀ c r, b.During t base c → c.threads[t]? = some ⟨.answer r, base⟩ → r = closingReply w.task.processor.report := by
    intro c r during back
    have first : w.During t base b := .next (.step t pick) .here away step
    exact (first.trans during).reply_of_collecting possible owner mailbox processor ⟨hx, .collecting⟩ back
  refine ⟨fun hfirst c r during back => ?_, fun hagain c r during back => ?_, fun nothing => ?_, fun c reach => ?_⟩
  · rw [reply c r during back]
    cases possible.account with
    | nothing reports report => rw [reports, report]; simp [closingReply]
    | kept e reports report => rw [reports, report]; simp [closingReply, eq_comm]
    | taken _ _ _ _ emptied => exact absurd emptied hfirst
  · rw [reply c r during back, hagain.report_none]
    rfl
  · obtain ⟨th, n, hs⟩ := step?_eq_some step
    obtain rfl : th = ⟨.collect, base⟩ := Option.some.inj (hs.thread.symm.trans hx)
    have turn := hs.turn
    rw [hs.own]
    cases turn with
    | collected e stack free report => rw [nothing] at report; cases report
    | finished => rfl
  · exact possible.empty_of_collect hx step reach

/-- What becomes of reports, under any order of steps. -/
structure Accounted (w : World σ ν) : Prop where
  /-- One report is kept at most. -/
  once : w.task.reports.length ≤ 1
  /-- A report that was kept is there until a call of the main loop takes it. -/
  there : ∀ e ∈ w.task.reports, w.task.processor.report = some e ∨ w.Emptied
  /-- What is there was kept. -/
  kept : ∀ e, w.task.processor.report = some e → w.task.reports = [e]
  /-- A report is thrown away only if another one was kept before, or the task was closed when it was looked at. -/
  looked : ∀ t pick e stack b, w.threads[t]? = some ⟨.fileReport e, stack⟩ → w.step? t pick = some b →
    b.task.reports = w.task.reports ++ [e] ∧ b.task.processor.report = some e ∨
      b.task.reports = w.task.reports ∧ (w.task.reports ≠ [] ∨ w.task.processor.status = .closed)
  collected : ∀ t pick base b, w.threads[t]? = some ⟨.collect, base⟩ → w.step? t pick = some b → Collected t base w b

end World

/-- No report is lost or made up where the main loop ends at a closed mailbox. -/
theorem no_report_lost {w : World σ ν} (possible : w.Possible) : w.Accounted where
  once := by
    cases possible.account with
    | nothing reports => rw [reports]; exact Nat.zero_le 1
    | kept e reports | taken e reports => rw [reports]; exact Nat.le_refl 1
  there e he := by
    cases possible.account with
    | nothing reports => rw [reports] at he; cases he
    | kept e' reports report =>
      rw [reports, List.mem_singleton] at he
      exact .inl (he ▸ report)
    | taken _ _ _ _ emptied => exact .inr emptied
  kept e he := by
    cases possible.account with
    | nothing _ report => rw [report] at he; cases he
    | kept e' reports report => rw [reports, Option.some.inj (report.symm.trans he)]
    | taken _ _ report => rw [report] at he; cases he
  looked t pick e stack b hx step := by
    obtain ⟨th, n, hs⟩ := World.step?_eq_some step
    obtain rfl : th = ⟨.fileReport e, stack⟩ := Option.some.inj (hs.thread.symm.trans hx)
    rcases hs.files rfl with ⟨-, reports, report⟩ | ⟨closed | other, reports, -⟩
    · exact .inl ⟨reports, report⟩
    · exact .inr ⟨reports, .inr closed⟩
    · refine .inr ⟨reports, .inl fun hnil => ?_⟩
      cases possible.account with
      | nothing _ report => exact other report
      | kept e' hreports | taken e' hreports => rw [hnil] at hreports; cases hreports
  collected t pick base b hx step := possible.collected hx step

/-- A task with three threads. The mailbox thread runs the main loop, another one ends the task in good order, and the third reports a
failure. -/
def lateReport : World Unit Nat :=
  .start (.new ⟨1⟩ 0 none (fun _ => .finish (.returned 0)) ())
    [.call false .loop fun _ => .finish (.returned 0), .call false .quiesce fun _ => .finish (.returned 0),
     .call false (.report (.plain "late")) fun _ => .finish (.returned 0)]

/-- The frames of its call of the main loop. -/
def lateReport.base : List (Frame Unit Nat) := [.caller false .loop fun _ => .finish (.returned 0)]

/-- The main loop has found the mailbox drained when the failure is reported, and collects before the report closes anything. -/
theorem no_report_lost_of_lateReport : ∃ w : World Unit Nat,
    lateReport.moves (List.replicate 3 (.step 1 0) ++ List.replicate 3 (.step 0 0) ++ List.replicate 3 (.step 2 0) ++
      List.replicate 4 (.step 0 0)) = some w ∧
    w.threads[0]? = some ⟨.collect, lateReport.base⟩ ∧ w.task.reports = [.plain "late"] ∧ w.Accounted := by
  refine ⟨_, rfl, rfl, rfl, no_report_lost ?_⟩
  have possible : lateReport.Possible := ⟨⟨1⟩, 0, none, _, (), _, .here⟩
  exact possible.reach (.of_moves (List.replicate 3 (.step 1 0) ++ List.replicate 3 (.step 0 0) ++ List.replicate 3 (.step 2 0) ++
    List.replicate 4 (.step 0 0)) rfl)

end Mailroom
