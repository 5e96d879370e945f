import Mailroom.Proofs.Hearing
import Mailroom.Proofs.Refused

/-!
# What an error says of the mail

A call that takes a mail to run it takes one and no more, and it fails with the failure that says so if, and only if, the body of that mail
has failed. Any other error says that no mail was taken and that nothing has changed. `error_kinds` says this of takes, yields and steps,
whatever error the body of the mail returned; and of puts that an error leaves everything as it is, but for the mail that was turned away.
-/

namespace Mailroom

variable {σ ν : Type}

/-! ## The end of a step that fails -/

/-- Where a thread stands that makes a call of a step which has not failed. -/
inductive Stepping (guarded : Bool) (k : Reply ν → Body σ ν) (stack : List (Frame σ ν)) : Thread σ ν → Prop where
  | untaken {th : Thread σ ν} (h : Untaken guarded .step k stack th) : Stepping guarded k stack th
  | serving (m : Letter σ ν) : Stepping guarded k stack ⟨.serve m false, .caller guarded .step k :: stack⟩
  | running (stage : Stage σ ν) (above : List (Frame σ ν)) :
    Stepping guarded k stack ⟨stage, above ++ .serve false :: .caller guarded .step k :: stack⟩
  | stepped : Stepping guarded k stack ⟨.answer (.flag true), .caller guarded .step k :: stack⟩
  | thrown (p : Payload) : Stepping guarded k stack ⟨.unwind p, .caller guarded .step k :: stack⟩

/-- The same of any call of a step, with the calls of the handler that there were before it. A step that has failed ends as the main loop
does. -/
inductive WithinStep (w : Task σ ν) (before : List Failure) (guarded : Bool) (k : Reply ν → Body σ ν) (stack : List (Frame σ ν))
    (th : Thread σ ν) : Prop where
  | stepping (known : Known w false false before []) (h : Stepping guarded k stack th)
  | failing (h : InLoop w before (.caller guarded .step k :: stack) th)

namespace World

variable {a b w x y z : World σ ν} {t i : ThreadId} {pick : Nat} {th th' : Thread σ ν} {n : Next σ ν} {base stack : List (Frame σ ν)}
  {m : Letter σ ν} {guarded patient : Bool} {k : Reply ν → Body σ ν} {before : List Failure} {r : Reply ν} {f : Frame σ ν} {e : Failure}

/-- The handler is not called by a step that has not failed. -/
theorem Possible.calm_of_stepping (possible : x.Possible) (hx : x.threads[t]? = some th) (h : Stepping guarded k stack th) (e : Failure) :
    th.stage ≠ .alarm e := by
  intro he
  cases h with
  | untaken h => cases h <;> cases he
  | serving | stepped | thrown => cases he
  | running stage above =>
    have one := (possible.serving hx).1
    have pos : 0 < (above ++ .serve false :: .caller guarded .step k :: stack).countP Frame.isServing :=
      List.countP_pos_iff.mpr ⟨.serve false, List.mem_append_right above List.mem_cons_self, rfl⟩
    obtain rfl : stage = .alarm e := he
    exact absurd one (Nat.not_le.mpr (Nat.add_lt_add_right pos 1))

/-- A step that has not failed goes on without failing, or fails with what comes of its mail. -/
theorem Stepped.stepping (hs : Stepped x t pick th n y) (h : Stepping guarded k stack th)
    (away : ¬x.IsBack t (.caller guarded .step k :: stack)) :
    Stepping guarded k stack n.2 ∨ ∃ e : Failure, n.2 = ⟨.abort e.toFatal, .caller guarded .step k :: stack⟩ := by
  cases h with
  | untaken h =>
    rcases hs.untaken h rfl away with ⟨untaken, -⟩ | ⟨m, -, hn⟩
    · exact .inl (.untaken untaken)
    · exact .inl (hn ▸ .serving m)
  | serving m =>
    have turn := hs.turn
    cases turn with
    | served => exact .inl (.running _ [])
  | running stage above =>
    have turn := hs.turn
    rcases turn.stack_above with ⟨above', hn⟩ | ⟨rfl, returning⟩
    · have running : Stepping guarded k stack ⟨n.2.stage, above' ++ .serve false :: .caller guarded .step k :: stack⟩ := .running _ above'
      rw [← hn] at running
      exact .inl running
    · cases turn with
      | aborted _ e => exact .inr ⟨e, rfl⟩
      | stepped => exact .inl .stepped
      | unwound => exact .inl (.thrown _)
      | ended h | broken h => cases h
      | _ => cases returning
  | stepped => exact absurd (.inl ⟨_, hs.thread⟩) away
  | thrown p => exact absurd (.inr ⟨p, hs.thread⟩) away

/-- The mailbox thread stays at these points while it is not back. -/
theorem Stepped.withinStep_own (possible : x.Possible) (hs : Stepped x t pick th n y) (owner : t = x.task.mailbox.owner)
    (away : ¬x.IsBack t (.caller guarded .step k :: stack)) (h : WithinStep x.task before guarded k stack th) :
    WithinStep y.task before guarded k stack n.2 := by
  cases h with
  | stepping known h =>
    have known : Known y.task false false before [] := hs.known (possible.calm_of_stepping hs.thread h) known
    rcases hs.stepping h away with h | ⟨e, hn⟩
    · exact .stepping known h
    · -- From here on a step is where the main loop is when a mail of that has failed.
      obtain ⟨source, fatal⟩ := e.exists_toFatal_eq
      exact .failing (hn ▸ fatal ▸ .looping _ (.failing source known))
  | failing h => exact .failing (hs.inLoop_own possible owner away h)

/-- The other threads do not move it from there. -/
theorem Stepped.withinStep_other (possible : x.Possible) (hs : Stepped x i pick th n y) (other : i ≠ x.task.mailbox.owner)
    (h : WithinStep x.task before guarded k stack th') : WithinStep y.task before guarded k stack th' := by
  cases h with
  | stepping known h =>
    refine .stepping (hs.known (fun e he => other ((possible.serving hs.thread).2 ?_)) known) h
    rw [Thread.servings, he]
    exact Nat.succ_pos _
  | failing h => exact .failing (hs.inLoop_other possible other h)

/-- At every moment of a call of a step the thread is at one of these points. -/
theorem During.withinStep (h : w.During t (.caller guarded .step k :: stack) b) (possible : w.Possible) (owner : t = w.task.mailbox.owner)
    (start : ∃ th, w.threads[t]? = some th ∧ WithinStep w.task before guarded k stack th) :
    ∃ th, b.threads[t]? = some th ∧ WithinStep b.task before guarded k stack th := by
  refine h.invariant (P := fun x => ∃ th, x.threads[t]? = some th ∧ WithinStep x.task before guarded k stack th) start ?_ ?_
  · intro x i pick th n y hwx away ⟨th', hth', within⟩ hs
    have hx : x.Possible := possible.reach hwx.reach
    have howner : t = x.task.mailbox.owner := owner.trans hwx.reach.owner.symm
    by_cases hi : i = t
    · subst hi
      obtain rfl : th = th' := Option.some.inj (hs.thread.symm.trans hth')
      exact ⟨n.2, hs.own, hs.withinStep_own hx howner away within⟩
    · exact ⟨th', hs.other (Ne.symm hi) hth', hs.withinStep_other hx (howner ▸ hi) within⟩
  · intro x i _ ⟨th, hth, within⟩
    cases within with
    | stepping known h => exact ⟨th, hth, .stepping (known_stirred known i) h⟩
    | failing h => exact ⟨th, hth, .failing (h.mono fun known => known_stirred known i)⟩

/-- A step that fails with a fatal failure has closed the mailbox and the task, and has called the handler with it. -/
theorem Replied.closed_of_fatal (h : w.Replied t (.call guarded .step k) f stack (.failed (.fatal e)) b) (possible : w.Possible)
    (owner : t = w.task.mailbox.owner) :
    b.task.mailbox.status = .closed ∧ b.task.processor.status = .closed ∧ b.task.alarms = w.task.alarms ++ [.fatal e] := by
  obtain ⟨frame, call, during, back⟩ := h
  cases frame
  have start : WithinStep w.task w.task.alarms guarded k stack ⟨.run (.call guarded .step k), stack⟩ :=
    .stepping ⟨nofun, nofun, (List.append_nil _).symm⟩ (.untaken .calling)
  obtain ⟨th, hth, within⟩ := during.withinStep possible owner ⟨_, call, start⟩
  obtain rfl : th = _ := Option.some.inj (hth.symm.trans back)
  cases within with
  | stepping known h =>
    generalize hth : (⟨.answer (.failed (.fatal e)), .caller guarded .step k :: stack⟩ : Thread σ ν) = th at h
    cases h with
    | untaken h =>
      cases h with
      | idle r idle =>
        cases hth
        cases idle
      | calling | taking => cases hth
    | serving | stepped | thrown => cases hth
    | running stage above => exact (ne_append_cons (congrArg Thread.stack hth)).elim
  | failing h =>
    have looping := h.looping_of_base
    cases looping with
    | failed _ known => exact ⟨known.mailbox rfl, known.processor rfl, known.alarms⟩
    | leaving out => cases out

/-! ## Every kind of call -/

/-- In the time between `w` and `b` the call takes the mail `m` and no other, and runs it for the frame `f`, and the action of that mail
comes to the end `how`. -/
def RunsOne (w : World σ ν) (t : ThreadId) (base : List (Frame σ ν)) (f : Frame σ ν) (caught : Bool) (m : Letter σ ν) (how : Ending ν)
    (b : World σ ν) : Prop :=
  ∃ x y z, TakesOne t base w b m x y ∧ y.During t base z ∧ z.AtEnd t how (m.tag.frame caught :: f :: base) ∧ z.During t base b

/-- What the replies to calls that begin in the world `w` say of the mail. -/
structure ErrorKinds (w : World σ ν) : Prop where
  /-- A put that fails has changed nothing, and its mail is dropped without running. -/
  put : ∀ {t body f stack e b}, body.isPut = true → w.Replied t body f stack (.failed e) b →
    ∃ m, body.Puts m ∧ w.TurnedAway t (f :: stack) m b
  /-- A take that fails has changed nothing. -/
  take : ∀ {t guarded choice patient k f stack e b}, w.Replied t (.call guarded (.take choice patient) k) f stack (.failed e) b →
    w.Untouched t (f :: stack) b
  /-- A yield fails with the failure of an action if, and only if, it has taken one mail and the body of that has returned an error. -/
  yield_failed : ∀ {t guarded p patient k f stack r b}, w.Replied t (.call guarded (.yield p patient) k) f stack r b → ∀ d e,
    r = .failed (.actionFailed d e) ↔
      ∃ m how, w.RunsOne t (f :: stack) (.yield patient) false m how b ∧ m.tag.error? how = some e ∧ d = m.description.display
  /-- A yield that fails in another way has changed nothing. -/
  yield_refused : ∀ {t guarded p patient k f stack e b}, w.Replied t (.call guarded (.yield p patient) k) f stack (.failed e) b →
    (∀ d source, e ≠ .actionFailed d source) → w.Untouched t (f :: stack) b
  /-- A step fails with a fatal failure if, and only if, it has taken one mail and the body of that has failed or panicked. -/
  step_failed : ∀ {t guarded k f stack r b}, w.Replied t (.call guarded .step k) f stack r b → ∀ e,
    r = .failed (.fatal e) ↔ ∃ m how, w.RunsOne t (f :: stack) (.serve false) true m how b ∧ m.tag.failure? how = some e
  /-- The mailbox and the task are closed then, and the handler was called, once, with the failure. -/
  step_closed : ∀ {t guarded k f stack e b}, w.Replied t (.call guarded .step k) f stack (.failed (.fatal e)) b →
    b.task.mailbox.status = .closed ∧ b.task.processor.status = .closed ∧ b.task.alarms = w.task.alarms ++ [.fatal e]
  /-- A step that fails in another way has changed nothing. -/
  step_refused : ∀ {t guarded k f stack e b}, w.Replied t (.call guarded .step k) f stack (.failed e) b →
    (∀ source, e ≠ .fatal source) → w.Untouched t (f :: stack) b

/-- A take that fails has taken no mail. -/
theorem Replied.take_untouched {choice : Choice} (h : w.Replied t (.call guarded (.take choice patient) k) f stack (.failed e) b) :
    w.Untouched t (f :: stack) b := by
  rcases h.takes_or_untouched rfl with ⟨-, untouched⟩ | ⟨m, x, y, one, hy⟩
  · exact untouched
  · cases one.own.after.reply_eq hy h.back

namespace Replied

variable {p : Priority}

/-- A yield that fails has changed nothing, or has run one mail, whose body has returned an error. -/
theorem yield_cases (h : w.Replied t (.call guarded (.yield p patient) k) f stack (.failed e) b) :
    ((.failed e : Reply ν).IsIdle ∧ w.Untouched t (f :: stack) b) ∨
      ∃ m how e', w.RunsOne t (f :: stack) (.yield patient) false m how b ∧ m.tag.error? how = some e' ∧
        e = .actionFailed m.description.display e' := by
  refine (h.takes_or_untouched rfl).imp_right fun ⟨m, x, y, one, hy⟩ => ?_
  obtain ⟨z, how, e', before, hend, after, error, he⟩ := one.own.after.yield_fails h.back hy
  exact ⟨m, how, e', ⟨x, y, z, one, before, hend, after⟩, error, he⟩

/-- A step that fails has changed nothing, or has run one mail, whose body has failed or panicked. -/
theorem step_cases (h : w.Replied t (.call guarded .step k) f stack (.failed e) b) (possible : w.Possible) :
    ((.failed e : Reply ν).IsIdle ∧ w.Untouched t (f :: stack) b) ∨
      t = w.task.mailbox.owner ∧ ∃ m how e', w.RunsOne t (f :: stack) (.serve false) true m how b ∧ m.tag.failure? how = some e' ∧
        e = .fatal e' := by
  refine (h.takes_or_untouched rfl).imp_right fun ⟨m, x, y, one, hy⟩ => ?_
  have reach := one.own.during.reach
  have possible : y.Possible := possible.reach reach
  obtain ⟨z, how, e', before, hend, after, failure, he⟩ := one.own.after.step_fails possible h.back hy
  have owner : t = y.task.mailbox.owner := (possible.serving hy).2 (Nat.add_pos_right _ Nat.one_pos)
  exact ⟨owner.trans reach.owner, m, how, e', ⟨x, y, z, one, before, hend, after⟩, failure, he⟩

end Replied

end World

/-- What the replies to calls say of the mail, whatever the bodies of mail return. -/
theorem error_kinds {w : World σ ν} (possible : w.Possible) : w.ErrorKinds where
  put isPut h := possible.turned_away isPut h
  take h := h.take_untouched
  yield_failed h d e := by
    constructor
    · rintro rfl
      rcases h.yield_cases with ⟨idle, -⟩ | ⟨m, how, e', runs, error, he⟩
      · cases idle
      · cases he
        exact ⟨m, how, runs, error, rfl⟩
    · rintro ⟨m, how, ⟨x, y, z, -, -, hend, after⟩, error, rfl⟩
      exact after.fails_of_yield h.back hend error
  yield_refused h other := by
    rcases h.yield_cases with ⟨-, untouched⟩ | ⟨m, how, e', -, -, he⟩
    · exact untouched
    · exact absurd he (other _ _)
  step_failed h e := by
    constructor
    · rintro rfl
      rcases h.step_cases possible with ⟨idle, -⟩ | ⟨-, m, how, e', runs, failure, he⟩
      · cases idle
      · cases he
        exact ⟨m, how, runs, failure⟩
    · rintro ⟨m, how, ⟨x, y, z, one, before, hend, after⟩, failure⟩
      have possible : z.Possible := possible.reach (one.own.during.trans before).reach
      exact after.fails_of_step possible h.back hend failure
  step_closed h := by
    rcases h.step_cases possible with ⟨idle, -⟩ | ⟨owner, -⟩
    · cases idle
    · exact h.closed_of_fatal possible owner
  step_refused h other := by
    rcases h.step_cases possible with ⟨-, untouched⟩ | ⟨-, m, how, e', -, -, he⟩
    · exact untouched
    · exact absurd he (other _)

/-- A task that makes a step, with a mail whose body returns that the mailbox is closed. -/
def steppedTask : World Unit Nat :=
  .start (.new ⟨1⟩ 0 none (fun _ => .finish (.returned 0)) ())
    [.post ⟨⟨"bad", []⟩, .empty, 0⟩ (.finish (.failed .closed)) fun _ => .call false .step fun _ => .finish (.returned 0)]

/-- That the body returned that the mailbox is closed is not what the step returns: it says that the mail has failed, with that for its
cause. -/
theorem error_kinds_of_steppedTask : ∃ w b : World Unit Nat, steppedTask.moves (List.replicate 3 (.step 0 0)) = some w ∧
    w.Replied 0 (.call false .step fun _ => .finish (.returned 0)) (.caller false .step fun _ => .finish (.returned 0)) []
      (.failed (.fatal (.actionFailed "bad" .closed))) b ∧
    b.task.alarms = w.task.alarms ++ [.fatal (.actionFailed "bad" .closed)] ∧
    ∃ m how, w.RunsOne 0 [.caller false .step fun _ => .finish (.returned 0)] (.serve false) true m how b ∧
      m.tag.failure? how = some (.actionFailed "bad" .closed) := by
  have possible : steppedTask.Possible := ⟨⟨1⟩, 0, _, _, (), _, .here⟩
  obtain ⟨w, b, run, replied⟩ : ∃ w b : World Unit Nat, steppedTask.moves (List.replicate 3 (.step 0 0)) = some w ∧
      w.Replied 0 (.call false .step fun _ => .finish (.returned 0)) (.caller false .step fun _ => .finish (.returned 0)) []
        (.failed (.fatal (.actionFailed "bad" .closed))) b :=
    ⟨_, _, rfl, rfl, rfl, .of_moves (List.replicate 12 (.step 0 0)) rfl, rfl⟩
  have kinds := error_kinds (possible.reach (.of_moves _ run))
  exact ⟨w, b, run, replied, (kinds.step_closed replied).2.2, (kinds.step_failed replied _).mp rfl⟩

end Mailroom
