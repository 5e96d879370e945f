import Mailroom.Proofs.Lifecycle

/-!
# The time of a call

A body makes a call, and later the call has its reply (`Replied`). In between its thread takes steps, each from a point of the call to the
next (`OwnStep`), while other threads may take theirs. What the thread does is followed from one set of points to another
(`During.leaves`), and from one step to the next (`During.next_own`).
-/

namespace Mailroom

variable {σ ν : Type}

/-- The frame that a body leaves for the reply to a call that it is about to make. -/
def Body.frame? : Body σ ν → Option (Frame σ ν)
  | .post _ _ k => some (.sender k)
  | .submit _ _ _ k => some (.sender k)
  | .call guarded q k => some (.caller guarded q k)
  | _ => none

namespace World

/-- In the world `w` thread `t` is about to make the call that the body begins with, which leaves the frame `f` above the frames `stack`,
and in the world `b` the reply `r` has come to that frame. -/
structure Replied (w : World σ ν) (t : ThreadId) (body : Body σ ν) (f : Frame σ ν) (stack : List (Frame σ ν)) (r : Reply ν)
    (b : World σ ν) : Prop where
  frame : body.frame? = some f
  call : w.threads[t]? = some ⟨.run body, stack⟩
  during : w.During t (f :: stack) b
  back : b.threads[t]? = some ⟨.answer r, f :: stack⟩

/-- In the time between the worlds `w` and `b` thread `t`, not back at the frames `base` yet, takes the step from `x` to `y`. -/
structure OwnStep (t : ThreadId) (base : List (Frame σ ν)) (w b x y : World σ ν) : Prop where
  before : w.During t base x
  away : ¬x.IsBack t base
  step : ∃ pick, x.step? t pick = some y
  after : y.During t base b

/-- The step changes nothing, except for who is asleep at the mailbox. -/
def Quiet (x y : World σ ν) : Prop :=
  y.task = { x.task with mailbox := y.task.mailbox } ∧ y.task.mailbox.wakeAll = x.task.mailbox.wakeAll

/-- In the time between `w` and `b` no step of the thread changes anything. -/
def Untouched (w : World σ ν) (t : ThreadId) (base : List (Frame σ ν)) (b : World σ ν) : Prop :=
  ∀ x y, OwnStep t base w b x y → x.Quiet y

variable {a b w x y z : World σ ν} {t : ThreadId} {pick : Nat} {th : Thread σ ν} {n : Next σ ν} {base stack : List (Frame σ ν)}
  {stage : Stage σ ν}

/-- A step that leaves the task alone changes nothing. -/
theorem quiet_of_eq (h : y.task = x.task) : x.Quiet y := by
  rw [Quiet, h]
  exact ⟨rfl, rfl⟩

/-! ## Away from the frames, and back -/

/-- A thread that is under way is not back, whatever frames it has to come back to. -/
theorem not_isBack_of_stage (hx : w.threads[t]? = some ⟨stage, stack⟩) (under : stage.isUnderWay = true) : ¬w.IsBack t base := by
  rintro (⟨r, back⟩ | ⟨p, back⟩)
  · cases hx.symm.trans back
    cases under
  · cases hx.symm.trans back
    cases under

/-- Nor is one that has more frames above it. -/
theorem not_isBack_of_deeper (hx : w.threads[t]? = some th) (deeper : base.length < th.stack.length) : ¬w.IsBack t base := by
  rintro (⟨r, back⟩ | ⟨p, back⟩)
  · cases hx.symm.trans back
    exact Nat.lt_irrefl _ deeper
  · cases hx.symm.trans back
    exact Nat.lt_irrefl _ deeper

/-- The time is over once the thread is back. -/
theorem During.eq_of_back (h : w.During t base b) (back : w.IsBack t base) : b = w := by
  induction h with
  | here => rfl
  | next m _ away _ ih =>
    subst ih
    exact absurd back away

/-- The first reply is the only one. -/
theorem During.reply_eq {r r' : Reply ν} (h : w.During t base b) (hx : w.threads[t]? = some ⟨.answer r, base⟩)
    (back : b.threads[t]? = some ⟨.answer r', base⟩) : r' = r := by
  obtain rfl := h.eq_of_back (.inl ⟨r, hx⟩)
  cases back.symm.trans hx
  rfl

/-! ## From point to point -/

/-- A step that the thread takes in that time, as a step of the world. -/
theorem Stepped.ownStep (hs : Stepped x t pick th n y) (before : w.During t base x) (away : ¬x.IsBack t base)
    (after : y.During t base b) : OwnStep t base w b x y :=
  ⟨before, away, ⟨pick, hs.step?_eq⟩, after⟩

namespace OwnStep

/-- The thread is still away after it, or just back. -/
theorem during (h : OwnStep t base w b x y) : w.During t base y := by
  obtain ⟨pick, step⟩ := h.step
  exact h.before.next (.step t pick) h.away step

/-- The rest of the time begins with the step. -/
theorem rest (h : OwnStep t base w b x y) : x.During t base b := by
  obtain ⟨pick, step⟩ := h.step
  exact (During.here.next (.step t pick) h.away step).trans h.after

/-- A step in the latter part of a time is one in the whole of it. -/
theorem later (h : OwnStep t base a b x y) (hw : w.During t base a) : OwnStep t base w b x y :=
  ⟨hw.trans h.before, h.away, h.step, h.after⟩

/-- A step in the former part of a time is one in the whole of it. -/
theorem earlier (h : OwnStep t base w a x y) (hb : a.During t base b) : OwnStep t base w b x y :=
  ⟨h.before, h.away, h.step, h.after.trans hb⟩

end OwnStep

/-- A thread that stands in a set of points still does so later, or has taken a step out of it. -/
theorem During.leaves {S : Thread σ ν → Prop} (h : w.During t base b) (start : ∃ th, w.threads[t]? = some th ∧ S th) :
    (∃ th, b.threads[t]? = some th ∧ S th) ∨
      ∃ x pick th n y, OwnStep t base w b x y ∧ Stepped x t pick th n y ∧ S th ∧ ¬S n.2 := by
  induction h with
  | here => exact .inl start
  | @next a b m before away hm ih =>
    rcases ih with ⟨th, hth, inside⟩ | ⟨x, pick, th, n, y, own, hs, inside, outside⟩
    · cases m with
      | stir i =>
        cases hm
        exact .inl ⟨th, hth, inside⟩
      | step i pick =>
        obtain ⟨th', n, hs⟩ := step?_eq_some hm
        by_cases hi : i = t
        · subst hi
          obtain rfl : th' = th := Option.some.inj (hs.thread.symm.trans hth)
          by_cases hn : S n.2
          · exact .inl ⟨n.2, hs.own, hn⟩
          · exact .inr ⟨a, pick, th', n, b, hs.ownStep before away .here, hs, inside, hn⟩
        · exact .inl ⟨th, hs.other (Ne.symm hi) hth, inside⟩
    · exact .inr ⟨x, pick, th, n, y, own.earlier (.next m .here away hm), hs, inside, outside⟩

/-- A thread that is not back yet takes its next step before it is. -/
theorem During.next_own (h : w.During t base b) (back : b.IsBack t base) (hx : w.threads[t]? = some th) (away : ¬w.IsBack t base) :
    ∃ x pick n y, OwnStep t base w b x y ∧ Stepped x t pick th n y := by
  rcases h.leaves (S := fun th' => th' = th) ⟨th, hx, rfl⟩ with ⟨_, hb, rfl⟩ | ⟨x, pick, _, n, y, own, hs, rfl, -⟩
  · refine absurd ?_ away
    rcases back with ⟨r, hr⟩ | ⟨p, hp⟩
    · exact .inl ⟨r, hx.trans (hb.symm.trans hr)⟩
    · exact .inr ⟨p, hx.trans (hb.symm.trans hp)⟩
  · exact ⟨x, pick, n, y, own, hs⟩

/-- A thread with a frame above those to come back to is not back yet. -/
theorem During.next_above {f : Frame σ ν} (h : w.During t base b) (back : b.IsBack t base)
    (hx : w.threads[t]? = some ⟨stage, f :: base⟩) :
    ∃ x pick n y, OwnStep t base w b x y ∧ Stepped x t pick ⟨stage, f :: base⟩ n y :=
  h.next_own back hx (not_isBack_of_deeper hx (Nat.lt_succ_self _))

end World

end Mailroom
