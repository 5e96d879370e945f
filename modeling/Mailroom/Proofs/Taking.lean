import Mailroom.Proofs.Calls
import Mailroom.Proofs.Report

/-!
# Calls that take a mail to run it

A take, a yield and a step take one mail and no more, and until then the steps of the call change nothing. So a call has taken one mail,
or it has changed nothing (`Replied.takes_or_untouched`).
-/

namespace Mailroom

variable {σ ν : Type}

/-! ## Until a mail is taken -/

/-- How a request takes a mail, and what for, if it takes one and no more. -/
def Request.taking? : Request → Option (Choice × Bool × Purpose)
  | .take choice patient => some (choice, patient, .hold)
  | .yield p patient => some (.eligible p, patient, .yield)
  | .step => some (.oldest, false, .step)
  | _ => none

/-- The replies to such a request that has taken no mail. -/
inductive Reply.IsIdle : Reply ν → Prop where
  | unavailable : IsIdle .unavailable
  | wrongThread (duty : Duty) : IsIdle (.failed (.wrongThread duty))
  | closed : IsIdle (.failed .closed)
  | rejected (why : Refusal) : IsIdle (.failed (.rejected why))
  | nothing : IsIdle (.flag false)
  | none : IsIdle (.mail none)

/-- Where a thread stands that has just taken the mail. -/
def Purpose.taken (purpose : Purpose) (m : Letter σ ν) (patient : Bool) (base : List (Frame σ ν)) : Thread σ ν :=
  match purpose with
  | .hold => ⟨.answer (.mail (some m.ticket)), base⟩
  | .yield => ⟨.launch m false, .yield patient :: base⟩
  | .step => ⟨.serve m false, base⟩
  | .loop => ⟨.serve m true, base⟩

/-- Where a thread stands that has made such a request and has taken no mail. -/
inductive Untaken (guarded : Bool) (q : Request) (k : Reply ν → Body σ ν) (stack : List (Frame σ ν)) : Thread σ ν → Prop where
  | calling : Untaken guarded q k stack ⟨.run (.call guarded q k), stack⟩
  | taking (choice : Choice) (patient : Bool) (purpose : Purpose) (h : q.taking? = some (choice, patient, purpose)) :
    Untaken guarded q k stack ⟨.take choice patient purpose, .caller guarded q k :: stack⟩
  | idle (r : Reply ν) (h : r.IsIdle) : Untaken guarded q k stack ⟨.answer r, .caller guarded q k :: stack⟩

/-- The main loop, which takes more than one mail, is no such request. -/
theorem Request.ne_loop_of_taking? {q : Request} {choice : Choice} {patient : Bool} {purpose : Purpose}
    (h : q.taking? = some (choice, patient, purpose)) : purpose ≠ .loop := by
  cases q <;> cases h <;> nofun

namespace Thread

/-- Such a request leads to the take, or has its reply. -/
theorem call_taking (w : Task σ ν) (me : ThreadId) (stack : List (Frame σ ν)) {q : Request} {choice : Choice} {patient : Bool}
    {purpose : Purpose} (h : q.taking? = some (choice, patient, purpose)) :
    call w me stack q = (w, .take choice patient purpose) ∨ ∃ r : Reply ν, r.IsIdle ∧ call w me stack q = (w, .answer r) := by
  cases q with
  | take choice patient =>
    cases h
    rcases onDuty_cases w me (dutyOfTake choice patient) (.take choice patient .hold) with h | h
    · exact .inl (congrArg (w, ·) h)
    · exact .inr ⟨_, .wrongThread _, congrArg (w, ·) h⟩
  | yield p patient =>
    cases h
    rcases onDuty_cases w me (dutyOfYield patient) (.take (.eligible p) patient .yield) with h | h
    · exact .inl (congrArg (w, ·) h)
    · exact .inr ⟨_, .wrongThread _, congrArg (w, ·) h⟩
  | step =>
    cases h
    rcases onDuty_cases w me .runStep (exclusive stack (.take .oldest false .step)) with h | h
    · cases free : stack.any Frame.isServing with
      | false => exact .inl (congrArg (w, ·) (h.trans (by simp [exclusive, free])))
      | true => exact .inr ⟨_, .unavailable, congrArg (w, ·) (h.trans (by simp [exclusive, free]))⟩
    · exact .inr ⟨_, .wrongThread _, congrArg (w, ·) h⟩
  | _ => cases h

/-- The mailbox thread comes from a call to take mail to the take. -/
theorem call_take {w : Task σ ν} {me : ThreadId} (owner : me = w.mailbox.owner) (stack : List (Frame σ ν)) (choice : Choice)
    (patient : Bool) : call w me stack (.take choice patient) = (w, .take choice patient .hold) := by
  simp [call, onDuty, owner]

/-- The mailbox thread comes from a call to yield to the take that the yield is for. -/
theorem call_yield {w : Task σ ν} {me : ThreadId} (owner : me = w.mailbox.owner) (stack : List (Frame σ ν)) (p : Priority)
    (patient : Bool) : call w me stack (.yield p patient) = (w, .take (.eligible p) patient .yield) := by
  simp [call, onDuty, owner]

end Thread

namespace World

/-- By the step from `x` to `y` the call whose reply comes to the frames `base` takes the mail. -/
structure Takes (t : ThreadId) (base : List (Frame σ ν)) (m : Letter σ ν) (x y : World σ ν) : Prop where
  stands : ∃ choice patient purpose, x.threads[t]? = some ⟨.take choice patient purpose, base⟩ ∧
    y.threads[t]? = some (purpose.taken m patient base) ∧ y.task.journal = .taken m choice purpose :: x.task.journal
  step : ∃ pick, x.step? t pick = some y

variable {a b w x y z : World σ ν} {t : ThreadId} {pick : Nat} {th : Thread σ ν} {n : Next σ ν} {base stack : List (Frame σ ν)}
  {m m' : Letter σ ν} {guarded patient : Bool} {q : Request} {k : Reply ν → Body σ ν} {choice : Choice} {purpose : Purpose}
  {r : Reply ν} {f : Frame σ ν} {e : Failure} {how : Ending ν}

/-- Until a mail is taken the steps of the call change nothing. -/
theorem Stepped.untaken (hs : Stepped x t pick th n y) (h : Untaken guarded q k stack th)
    (taking : q.taking? = some (choice, patient, purpose)) (away : ¬x.IsBack t (.caller guarded q k :: stack)) :
    (Untaken guarded q k stack n.2 ∧ x.Quiet y) ∨
      ∃ m, Takes t (.caller guarded q k :: stack) m x y ∧ n.2 = purpose.taken m patient (.caller guarded q k :: stack) := by
  have task := hs.task
  cases h with
  | calling =>
    have hstep := hs.step
    rcases Thread.call_taking x.task t stack taking with hcall | ⟨r, idle, hcall⟩
    · simp only [Thread.stepStage, Thread.stepBody, hcall] at hstep
      cases hstep
      exact .inl ⟨.taking _ _ _ taking, quiet_of_eq task⟩
    · simp only [Thread.stepStage, Thread.stepBody, hcall] at hstep
      cases hstep
      exact .inl ⟨.idle r idle, quiet_of_eq task⟩
  | taking _ _ _ h =>
    cases h.symm.trans taking
    have turn := hs.turn
    have other := Request.ne_loop_of_taking? taking
    cases turn with
    | taken m =>
      refine .inr ⟨m, ⟨⟨choice, patient, purpose, hs.thread, ?_, ?_⟩, pick, hs.step?_eq⟩, ?_⟩
      · rw [hs.own]
        cases purpose <;> rfl
      · rw [task]
        cases purpose <;> rfl
      · cases purpose <;> rfl
    | shutOut =>
      refine .inl ⟨?_, quiet_of_eq task⟩
      cases purpose with
      | loop => exact absurd rfl other
      | hold | yield | step => exact .idle _ .closed
    | missed =>
      refine .inl ⟨?_, quiet_of_eq task⟩
      cases purpose with
      | loop => exact absurd rfl other
      | hold => exact .idle _ .none
      | yield | step => exact .idle _ .nothing
    | drained =>
      refine .inl ⟨?_, quiet_of_eq task⟩
      cases choice with
      | eligible p => exact .idle _ (.rejected _)
      | oldest =>
        cases purpose with
        | loop => exact absurd rfl other
        | hold | yield | step => exact .idle _ .none
    | rested =>
      refine .inl ⟨.taking _ _ _ taking, ?_⟩
      rw [Quiet, task]
      exact ⟨rfl, rfl⟩
  | idle r => exact absurd (.inl ⟨r, hs.thread⟩) away

/-- A call has taken no mail yet, or it has taken one before. -/
theorem During.untaken (h : w.During t (.caller guarded q k :: stack) b) (taking : q.taking? = some (choice, patient, purpose))
    (hx : w.threads[t]? = some ⟨.run (.call guarded q k), stack⟩) :
    (∃ th, b.threads[t]? = some th ∧ Untaken guarded q k stack th) ∨
      ∃ m x y, OwnStep t (.caller guarded q k :: stack) w b x y ∧ Takes t (.caller guarded q k :: stack) m x y ∧
        y.threads[t]? = some (purpose.taken m patient (.caller guarded q k :: stack)) := by
  rcases h.leaves (S := Untaken guarded q k stack) ⟨_, hx, .calling⟩ with untaken | ⟨x, pick, th, n, y, own, hs, inside, outside⟩
  · exact .inl untaken
  · rcases hs.untaken inside taking own.away with ⟨untaken, -⟩ | ⟨m, takes, hn⟩
    · exact absurd untaken outside
    · exact .inr ⟨m, x, y, own, takes, hn ▸ hs.own⟩

/-! ## Once a mail is taken -/

/-- Where a thread stands that has made such a request and has taken a mail. -/
inductive Beyond (base : List (Frame σ ν)) : Thread σ ν → Prop where
  | serving (m : Letter σ ν) : Beyond base ⟨.serve m false, base⟩
  | running (stage : Stage σ ν) (above : List (Frame σ ν)) (f : Frame σ ν) (h : f = .serve false ∨ ∃ patient, f = .yield patient) :
    Beyond base ⟨stage, above ++ f :: base⟩
  | leaving {th : Thread σ ν} (e : Failure) (h : Leaving base e th) : Beyond base th
  | answered (r : Reply ν) : Beyond base ⟨.answer r, base⟩
  | thrown (p : Payload) : Beyond base ⟨.unwind p, base⟩

/-- Who has taken a mail is not about to take one for the same call. -/
theorem Beyond.not_taking (h : Beyond base ⟨.take choice patient purpose, base⟩) : False := by
  generalize hth : (⟨.take choice patient purpose, base⟩ : Thread σ ν) = th at h
  cases h with
  | serving | answered | thrown => cases hth
  | running stage above f => exact ne_append_cons (congrArg Thread.stack hth)
  | leaving e h =>
    subst hth
    cases h.verdict

/-- The take leads beyond the points at which a mail may be taken. -/
theorem Purpose.beyond (h : purpose ≠ .loop) (m : Letter σ ν) (patient : Bool) (base : List (Frame σ ν)) :
    Beyond base (purpose.taken m patient base) := by
  cases purpose with
  | hold => exact .answered _
  | yield => exact .running _ [] _ (.inr ⟨patient, rfl⟩)
  | step => exact .serving m
  | loop => exact absurd rfl h

/-- Until the call is back, the thread stays beyond the take. -/
theorem Stepped.beyond (hs : Stepped x t pick th n y) (h : Beyond base th) (away : ¬x.IsBack t base) : Beyond base n.2 := by
  have turn := hs.turn
  cases h with
  | serving m =>
    cases turn with
    | served => exact .running _ [] _ (.inl rfl)
  | running stage above f hf =>
    rcases turn.stack_above with ⟨above', hn⟩ | ⟨rfl, returning⟩
    · have running : Beyond base ⟨n.2.stage, above' ++ f :: base⟩ := .running _ above' f hf
      rwa [← hn] at running
    · rcases hf with rfl | ⟨patient, rfl⟩
      · cases turn with
        | aborted => exact .leaving _ (.leaving _ rfl)
        | stepped => exact .answered _
        | unwound => exact .thrown _
        | ended h | broken h => cases h
        | _ => cases returning
      · cases turn with
        | yielded | passed => exact .answered _
        | unwound => exact .thrown _
        | ended h | broken h => cases h
        | _ => cases returning
  | leaving e h =>
    rcases turn.leaving h fun r hr => away (.inl ⟨r, hr ▸ hs.thread⟩) with h | ⟨p, hp⟩
    · exact .leaving e h
    · exact hp ▸ .thrown p
  | answered r => exact absurd (.inl ⟨r, hs.thread⟩) away
  | thrown p => exact absurd (.inr ⟨p, hs.thread⟩) away

/-- Once it has taken a mail a call takes no other. -/
theorem During.beyond (h : w.During t base b) (hx : ∃ th, w.threads[t]? = some th ∧ Beyond base th) :
    ∃ th, b.threads[t]? = some th ∧ Beyond base th := by
  rcases h.leaves hx with beyond | ⟨x, pick, th, n, y, own, hs, inside, outside⟩
  · exact beyond
  · exact absurd (hs.beyond inside own.away) outside

/-- In the time between `w` and `b` the call takes the mail, by the step from `x` to `y`, and takes no other mail before or after. -/
structure TakesOne (t : ThreadId) (base : List (Frame σ ν)) (w b : World σ ν) (m : Letter σ ν) (x y : World σ ν) : Prop where
  own : OwnStep t base w b x y
  takes : Takes t base m x y
  before : ∀ x' y' m', OwnStep t base w x x' y' → ¬Takes t base m' x' y'
  after : ∀ x' y' m', OwnStep t base y b x' y' → ¬Takes t base m' x' y'

/-- The step by which a call takes a mail leads beyond the points where it may do so. -/
theorem Takes.beyond (takes : Takes t (.caller guarded q k :: stack) m x y) (before : w.During t (.caller guarded q k :: stack) x)
    (taking : q.taking? = some (choice, patient, purpose)) (call : w.threads[t]? = some ⟨.run (.call guarded q k), stack⟩) :
    ∃ th, y.threads[t]? = some th ∧ Beyond (.caller guarded q k :: stack) th := by
  obtain ⟨choice', patient', purpose', hx, hy, -⟩ := takes.stands
  refine ⟨_, hy, Purpose.beyond ?_ m patient' _⟩
  rcases before.untaken taking call with ⟨th, hth, untaken⟩ | ⟨m₁, x₁, y₁, own₁, -, hy₁⟩
  · obtain rfl : th = _ := Option.some.inj (hth.symm.trans hx)
    cases untaken with
    | taking _ _ _ h => exact Request.ne_loop_of_taking? h
  · obtain ⟨th, hth, beyond⟩ := own₁.after.beyond ⟨_, hy₁, Purpose.beyond (Request.ne_loop_of_taking? taking) m₁ patient _⟩
    obtain rfl : th = _ := Option.some.inj (hth.symm.trans hx)
    exact absurd beyond Beyond.not_taking

/-- A call that has taken a mail takes none after that. -/
theorem During.not_takes (h : w.During t base x) (beyond : ∃ th, w.threads[t]? = some th ∧ Beyond base th) : ¬Takes t base m x y := by
  intro takes
  obtain ⟨_, _, _, hx, -⟩ := takes.stands
  obtain ⟨th, hth, inside⟩ := h.beyond beyond
  obtain rfl : th = _ := Option.some.inj (hth.symm.trans hx)
  exact inside.not_taking

/-- A call that takes a mail takes no other. -/
theorem OwnStep.takesOne (own : OwnStep t (.caller guarded q k :: stack) w b x y) (takes : Takes t (.caller guarded q k :: stack) m x y)
    (taking : q.taking? = some (choice, patient, purpose)) (call : w.threads[t]? = some ⟨.run (.call guarded q k), stack⟩) :
    TakesOne t (.caller guarded q k :: stack) w b m x y where
  own := own
  takes := takes
  before _ _ _ h first := h.after.not_takes (first.beyond h.before taking call) takes
  after _ _ _ h := h.before.not_takes (takes.beyond own.before taking call)

/-- A call that has its reply has taken one mail, or it has changed nothing. -/
theorem Replied.takes_or_untouched (h : w.Replied t (.call guarded q k) f stack r b)
    (taking : q.taking? = some (choice, patient, purpose)) :
    (r.IsIdle ∧ w.Untouched t (f :: stack) b) ∨
      ∃ m x y, TakesOne t (f :: stack) w b m x y ∧ y.threads[t]? = some (purpose.taken m patient (f :: stack)) := by
  obtain ⟨frame, call, during, back⟩ := h
  cases frame
  -- Whether a step has taken a mail cannot be told from the reply, which a mail may have made as well.
  by_cases some : ∃ m x y, OwnStep t (.caller guarded q k :: stack) w b x y ∧ Takes t (.caller guarded q k :: stack) m x y ∧
      y.threads[t]? = some (purpose.taken m patient (.caller guarded q k :: stack))
  · obtain ⟨m, x, y, own, takes, hy⟩ := some
    exact .inr ⟨m, x, y, own.takesOne takes taking call, hy⟩
  · refine .inl ⟨?_, fun x y own => ?_⟩
    · obtain ⟨th, hb, untaken⟩ := (during.untaken taking call).resolve_right some
      obtain rfl : th = ⟨.answer r, .caller guarded q k :: stack⟩ := Option.some.inj (hb.symm.trans back)
      cases untaken with
      | idle _ idle => exact idle
    · obtain ⟨pick, step⟩ := own.step
      obtain ⟨th, n, hs⟩ := step?_eq_some step
      rcases own.before.untaken taking call with ⟨th', hx, untaken⟩ | ⟨m, x₁, y₁, own₁, takes, hy⟩
      · obtain rfl : th = th' := Option.some.inj (hs.thread.symm.trans hx)
        rcases hs.untaken untaken taking own.away with ⟨-, quiet⟩ | ⟨m, takes, hn⟩
        · exact quiet
        · exact absurd ⟨m, x, y, own, takes, hn ▸ hs.own⟩ some
      · exact absurd ⟨m, x₁, y₁, own₁.earlier own.rest, takes, hy⟩ some

end World

end Mailroom
