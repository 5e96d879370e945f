import Mailroom.Proofs.Delivery

/-!
# The outcome of a submitted mail

`handle_outcome`: the first outcome that the handle of an accepted mail gives says what became of the mail. It is a value, a failure
or a panic if the action of the mail ran and ended so, and closed if the action never began, that is if the mail was dropped unrun or
the sender asked in time for the action to be left out. Running such a mail always goes well for whoever runs it.
-/

namespace Mailroom

variable {σ ν : Type}

/-- The sender asked for the action to be left out before the action began. -/
def CancelledInTime (journal : List (Occurrence σ ν)) (t : Ticket) (h : HandleId) : Prop :=
  ∃ later earlier, journal = later ++ .cancelled h :: earlier ∧ .started t ∉ earlier

/-- What it takes, by the journal, for the handle of a mail to give a certain outcome. -/
structure Tells (journal : List (Occurrence σ ν)) (m : Letter σ ν) (h : HandleId) (o : Outcome ν) : Prop where
  ok : ∀ v, o = .ok v ↔ .ended m.ticket (.returned v) true ∈ journal
  failed : ∀ d e, o = .error (.actionFailed d e) ↔ d = m.description.display ∧ .ended m.ticket (.failed e) true ∈ journal
  panicked : ∀ d msg, o = .error (.actionPanicked d msg) ↔
    d = m.description.display ∧ ∃ p : Payload, p.message = msg ∧ .ended m.ticket (.panicked p) true ∈ journal
  closed : o = .error .closed ↔ .started m.ticket ∉ journal
  unrun : o = .error .closed ↔ .dropped m.ticket ∈ journal ∨ CancelledInTime journal m.ticket h

namespace Ledger

variable {a : Ledger σ ν}

/-- The ends that a submitted mail can come to, with the outcome that goes with each. -/
theorem Good.end_cases (g : Good a) {m : Letter σ ν} {h : HandleId} (hm : a.Offered m) (hh : m.handle? = some h) {o : Outcome ν}
    (ho : firstTold? a.journal h = some o) :
    (a.life m.ticket = [.dropped m.ticket] ∧ o = .error .closed) ∨ (a.life m.ticket = [.skipped m.ticket] ∧ o = .error .closed) ∨
      ∃ how, a.life m.ticket = [.ended m.ticket how true, .started m.ticket] ∧ o = m.tag.outcome how := by
  obtain ⟨s, slot, hs⟩ := g.sound.slot m h hm hh
  rw [g.heard.first h s o slot ho] at hs
  rcases g.sound.places m hm with hp | hp | hp | ⟨hp, -⟩
  · rw [g.sound.waiting m hp] at hs
    cases hs
  · have hrun : a.life m.ticket = [.started m.ticket] := g.sound.running m.tag hp
    rw [hrun] at hs
    cases hs
  · generalize a.life m.ticket = life at hp hs ⊢
    cases hp with
    | dropped => exact .inl ⟨rfl, Option.some.inj hs⟩
    | skipped => exact .inr (.inl ⟨rfl, Option.some.inj hs⟩)
    | ended how caught hc =>
      rw [hc (by simp [hh])] at hs ⊢
      exact .inr (.inr ⟨how, rfl, Option.some.inj hs⟩)
  · rw [hh] at hp
    cases hp

/-- A cancellation that came before the mail was skipped came in time, since the action never began. -/
theorem Good.cancelledInTime (g : Good a) {m : Letter σ ν} {h : HandleId} (hm : a.Offered m) (hh : m.handle? = some h)
    (hlife : a.life m.ticket = [.skipped m.ticket]) : CancelledInTime a.journal m.ticket h := by
  have hskip : .skipped m.ticket ∈ a.journal := (mem_life (t := m.ticket) rfl).mp (hlife ▸ List.mem_cons_self)
  have hcancel : .cancelled h ∈ a.journal := (g.timely.skipped m h hm hh hskip).subset (by simp)
  obtain ⟨later, earlier, hj⟩ := List.append_of_mem hcancel
  refine ⟨later, earlier, hj, fun hmem => ?_⟩
  have hstart : .started m.ticket ∈ a.life m.ticket := by
    rw [mem_life rfl, hj]
    exact List.mem_append_right _ (List.mem_cons_of_mem _ hmem)
  rw [hlife, List.mem_singleton] at hstart
  cases hstart

/-- A cancellation in time keeps the action from beginning. -/
theorem Good.not_started (g : Good a) {m : Letter σ ν} {h : HandleId} (hm : a.Offered m) (hh : m.handle? = some h)
    (hc : CancelledInTime a.journal m.ticket h) : .started m.ticket ∉ a.journal := by
  obtain ⟨later, earlier, hj, hnot⟩ := hc
  intro hmem
  rw [hj] at hmem
  rcases List.mem_append.mp hmem with hmem | hmem
  · refine g.timely.started m h hm hh ?_
    rw [hj]
    have hpair : List.Sublist ([.started m.ticket] ++ [.cancelled h]) (later ++ .cancelled h :: earlier) :=
      (List.singleton_sublist.mpr hmem).append (List.singleton_sublist.mpr List.mem_cons_self)
    exact hpair
  · rcases List.mem_cons.mp hmem with hmem | hmem
    · cases hmem
    · exact hnot hmem

theorem Good.tells (g : Good a) {m : Letter σ ν} {h : HandleId} (hm : a.Offered m) (hh : m.handle? = some h) {o : Outcome ν}
    (ho : firstTold? a.journal h = some o) : Tells a.journal m h o := by
  have hmem : ∀ {e : Occurrence σ ν}, e.lifeOf? = some m.ticket → (e ∈ a.journal ↔ e ∈ a.life m.ticket) :=
    fun he => (mem_life he).symm
  have hended : ∀ how caught, (Occurrence.ended m.ticket how caught : Occurrence σ ν).lifeOf? = some m.ticket := fun _ _ => rfl
  have hclosed : o = .error .closed ↔ .started m.ticket ∉ a.journal := by
    rw [hmem rfl]
    rcases g.end_cases hm hh ho with ⟨hlife, rfl⟩ | ⟨hlife, rfl⟩ | ⟨how, hlife, rfl⟩
    · simp [hlife]
    · simp [hlife]
    · cases how <;> simp [hlife, Tag.outcome]
  refine ⟨fun v => ?_, fun d e => ?_, fun d msg => ?_, hclosed, ?_⟩
  · rw [hmem (hended _ _)]
    rcases g.end_cases hm hh ho with ⟨hlife, rfl⟩ | ⟨hlife, rfl⟩ | ⟨how, hlife, rfl⟩
    · simp [hlife]
    · simp [hlife]
    · cases how with
      | returned v' => simp [hlife, Tag.outcome, eq_comm]
      | failed e' => simp [hlife, Tag.outcome]
      | panicked p => simp [hlife, Tag.outcome]
  · rw [hmem (hended _ _)]
    rcases g.end_cases hm hh ho with ⟨hlife, rfl⟩ | ⟨hlife, rfl⟩ | ⟨how, hlife, rfl⟩
    · simp [hlife]
    · simp [hlife]
    · cases how with
      | returned v' => simp [hlife, Tag.outcome]
      | failed e' => simp [hlife, Tag.outcome, Mail.tag, eq_comm]
      | panicked p => simp [hlife, Tag.outcome]
  · simp only [hmem (hended _ _)]
    rcases g.end_cases hm hh ho with ⟨hlife, rfl⟩ | ⟨hlife, rfl⟩ | ⟨how, hlife, rfl⟩
    · simp [hlife]
    · simp [hlife]
    · cases how with
      | returned v' => simp [hlife, Tag.outcome]
      | failed e' => simp [hlife, Tag.outcome]
      | panicked p => simp [hlife, Tag.outcome, Mail.tag, eq_comm]
  · constructor
    · rintro rfl
      rcases g.end_cases hm hh ho with ⟨hlife, -⟩ | ⟨hlife, -⟩ | ⟨how, -, hout⟩
      · exact .inl ((hmem rfl).mpr (hlife ▸ List.mem_cons_self))
      · exact .inr (g.cancelledInTime hm hh hlife)
      · cases how <;> cases hout
    · rintro (hdrop | hc)
      · rw [hclosed, hmem rfl]
        rw [hmem rfl] at hdrop
        rcases g.end_cases hm hh ho with ⟨hlife, -⟩ | ⟨hlife, -⟩ | ⟨how, hlife, -⟩
        · simp [hlife]
        · simp [hlife]
        · simp [hlife] at hdrop
      · exact hclosed.mpr (g.not_started hm hh hc)

end Ledger

/-! ## Running a submitted mail -/

/-- A turn above the run of a submitted mail stays above it, or ends it, and then whoever runs the mail sees it go well. -/
theorem Thread.Turn.above_capture {w : Task σ ν} {me : ThreadId} {pick : Nat} {above base : List (Frame σ ν)} {h : HandleId}
    {t : Ticket} {d : Description} {stage : Stage σ ν} {n : Next σ ν}
    (turn : Turn w me pick (above ++ .capture h t d :: base) stage n) :
    (∃ above', n.2.stack = above' ++ .capture h t d :: base) ∨ n.2 = ⟨.answer .done, base⟩ := by
  rcases turn.stack_above with hstack | ⟨rfl, hreturning⟩
  · exact .inl hstack
  · refine .inr ?_
    cases turn with
    | ended hend | broken hend => cases hend; rfl
    | unwound through => cases through
    | _ => cases hreturning

/-- Where the thread stands that runs a submitted mail: before it, at work on it, or back with the news that it went well. -/
def Running (m : Letter σ ν) (h : HandleId) (caught : Bool) (base : List (Frame σ ν)) (th : Thread σ ν) : Prop :=
  th = ⟨.launch m caught, base⟩ ∨ (∃ above, th.stack = above ++ .capture h m.ticket m.description :: base) ∨
    th = ⟨.answer .done, base⟩

theorem running_step {w : Task σ ν} {me : ThreadId} {pick : Nat} {m : Letter σ ν} {h : HandleId} (hh : m.handle? = some h)
    {caught : Bool} {base : List (Frame σ ν)} {th : Thread σ ν} {n : Next σ ν} (hr : Running m h caught base th)
    (turn : Thread.Turn w me pick th.stack th.stage n) (away : th ≠ ⟨.answer .done, base⟩) : Running m h caught base n.2 := by
  rcases hr with rfl | ⟨above, habove⟩ | rfl
  · cases turn with
    | rang _ _ _ work | launched _ _ _ _ work => simp [Mail.handle?, work] at hh
    | skipped => exact .inr (.inr rfl)
    | captured _ _ i b _ work =>
      obtain rfl : i = h := by simpa [Mail.handle?, work] using hh
      exact .inr (.inl ⟨[], rfl⟩)
  · rw [habove] at turn
    exact .inr turn.above_capture
  · exact absurd rfl away

/-- Whoever runs a submitted mail sees it go well, whatever the mail does. -/
theorem World.During.running {w b : World σ ν} {t : ThreadId} {m : Letter σ ν} {h : HandleId} (hh : m.handle? = some h)
    {caught : Bool} {base : List (Frame σ ν)} (hw : w.threads[t]? = some ⟨.launch m caught, base⟩) (hb : During t base w b) :
    ∃ th, b.threads[t]? = some th ∧ Running m h caught base th := by
  refine hb.invariant (P := fun x => ∃ th, x.threads[t]? = some th ∧ Running m h caught base th) ⟨_, hw, .inl rfl⟩ ?_
    fun _ ih => ih
  intro x i pick th n y _ away ⟨th', hth', hr⟩ hs
  by_cases hi : i = t
  · subst hi
    rw [hs.thread] at hth'
    cases hth'
    refine ⟨n.2, hs.own, running_step hh hr hs.turn fun hback => away (.inl ⟨.done, ?_⟩)⟩
    rw [hs.thread, hback]
  · exact ⟨th', hs.other (Ne.symm hi) hth', hr⟩

/-- A thread that is back where it began to run a submitted mail has the news that it went well. -/
theorem Running.eq_done {b : World σ ν} {t : ThreadId} {m : Letter σ ν} {h : HandleId} {caught : Bool} {base : List (Frame σ ν)}
    {th : Thread σ ν} (hr : Running m h caught base th) (hth : b.threads[t]? = some th) (back : b.IsBack t base) :
    th = ⟨.answer .done, base⟩ := by
  obtain ⟨stage, hback, returned⟩ : ∃ stage, th = ⟨stage, base⟩ ∧ stage ≠ .launch m caught := by
    rcases back with ⟨r, hback⟩ | ⟨p, hback⟩
    · exact ⟨.answer r, Option.some.inj (hth.symm.trans hback), by simp⟩
    · exact ⟨.unwind p, Option.some.inj (hth.symm.trans hback), by simp⟩
  subst hback
  rcases hr with hlaunch | ⟨above, habove⟩ | hdone
  · exact absurd (congrArg Thread.stage hlaunch) returned
  · have hlength : base.length = above.length + (base.length + 1) :=
      (congrArg List.length habove).trans List.length_append
    omega
  · exact hdone

/-- A submitted mail that was accepted, in any world that is possible. The first outcome that its handle gives says what became of
it, as `Tells` spells out; and a thread that runs the mail comes back with the news that it went well, however the mail ends, and
with no panic. -/
theorem handle_outcome {w : World σ ν} (possible : w.Possible) {m : Letter σ ν} {sender : ThreadId} {h : HandleId}
    (accepted : (m, sender) ∈ w.task.accepted) (submitted : m.handle? = some h) :
    (∀ o, firstTold? w.task.journal h = some o → Tells w.task.journal m h o) ∧
      ∀ t caught base b, w.threads[t]? = some ⟨.launch m caught, base⟩ → w.During t base b → b.IsBack t base →
        b.threads[t]? = some ⟨.answer .done, base⟩ := by
  have hoff : w.ledger.Offered m := by
    obtain ⟨e, he, hput⟩ := mem_history.mp (possible.mem_offers_of_accepted accepted)
    cases e with
    | offered m' sender' =>
      cases hput
      exact ⟨sender, (List.mem_filter.mp he).1⟩
    | _ => cases hput
  refine ⟨fun o ho => possible.good.tells hoff submitted ho, fun t caught base b ht hb back => ?_⟩
  obtain ⟨th, hth, hr⟩ := hb.running submitted ht
  rw [hth, hr.eq_done hth back]

/-- A task whose thread submits a mail, runs it in a step and asks for the outcome. -/
def askedTask : World Unit Nat :=
  .start (.new ⟨1⟩ 0 none (fun _ => .finish (.returned 0)) ())
    [.submit ⟨"seven", []⟩ 0 (.finish (.returned 7)) fun _ => .call false .step fun _ =>
      .call false (.tryResult 0) fun _ => .finish (.returned 0)]

theorem handle_outcome_of_returned : ∃ (w : World Unit Nat) (m : Letter Unit Nat),
    askedTask.moves (List.replicate 11 (.step 0 0)) = some w ∧ (m, 0) ∈ w.task.accepted ∧ m.handle? = some 0 ∧
      firstTold? w.task.journal 0 = some (.ok 7) ∧ Tells w.task.journal m 0 (.ok 7) := by
  have possible : askedTask.Possible := ⟨⟨1⟩, 0, none, _, (), _, .here⟩
  refine ⟨_, _, rfl, List.mem_singleton_self _, rfl, rfl, ?_⟩
  refine (handle_outcome (possible.reach ?_) (List.mem_singleton_self (_, 0)) rfl).1 (.ok 7) rfl
  exact .of_moves (List.replicate 11 (.step 0 0)) rfl

end Mailroom
