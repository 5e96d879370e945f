import Mailroom.Proofs.Fatal
import Mailroom.Proofs.Nesting
import Mailroom.Proofs.Taking

/-!
# What a call hears of the mail that it runs

A yield or a step that has taken a mail runs that. Its reply is a failure if, and only if, the body of the mail returns an error, or, for
a step, if that or a panic ends it (`During.yield_fails`, `During.fails_of_yield`, `During.step_fails`, `During.fails_of_step`).
-/

namespace Mailroom

variable {σ ν : Type}

/-! ## The run of the mail -/

/-- The error that the body of a mail returns at this end of its action, if any. The body of a submitted mail keeps the end for the handle,
and returns none. -/
def Tag.error? (g : Tag) (how : Ending ν) : Option Failure :=
  match g.handle?, how with
  | none, .failed e => some e
  | _, _ => none

/-- The failure or the panic of the body of a mail at this end of its action, if any, as it is reported. -/
def Tag.failure? (g : Tag) (how : Ending ν) : Option Failure :=
  match g.handle?, how with
  | none, .failed e => some (.actionFailed g.description.display e)
  | none, .panicked p => some (.actionPanicked g.description.display p.message)
  | _, _ => none

theorem Tag.error?_eq_some {g : Tag} {how : Ending ν} {e : Failure} : g.error? how = some e ↔ g.handle? = none ∧ how = .failed e := by
  unfold Tag.error?
  constructor
  · intro h
    split at h
    · rename_i plain
      cases h
      exact ⟨plain, rfl⟩
    · cases h
  · rintro ⟨plain, rfl⟩
    rw [plain]

theorem Tag.failure?_of_none {g : Tag} {how : Ending ν} (plain : g.handle? = none) : g.failure? how = match how with
    | .returned _ => none
    | .failed e => some (.actionFailed g.description.display e)
    | .panicked p => some (.actionPanicked g.description.display p.message) := by
  unfold Tag.failure?
  rw [plain]
  cases how <;> rfl

theorem Tag.plain_of_failure? {g : Tag} {how : Ending ν} {e : Failure} (h : g.failure? how = some e) : g.handle? = none := by
  cases plain : g.handle? with
  | none => rfl
  | some i =>
    unfold Tag.failure? at h
    rw [plain] at h
    cases h

namespace Thread

variable {w : Task σ ν} {me : ThreadId} {pick : Nat} {g : Tag} {caught : Bool} {how : Ending ν} {rest : List (Frame σ ν)}
  {stage : Stage σ ν} {n : Next σ ν}

/-- What is handed to the frame of a mail that runs is the end of its action. -/
theorem Turn.ends_action (turn : Turn w me pick (g.frame caught :: rest) stage n) (returning : IsReturning stage) :
    ∃ how, Breaks how (g.frame caught :: rest) ⟨stage, g.frame caught :: rest⟩ ∧ Ended w how (g.frame caught :: rest) n := by
  have tag := g.tag?_frame (σ := σ) (ν := ν) caught
  generalize g.frame caught = f at turn tag
  cases turn with
  | ended h => exact ⟨_, .ends, h⟩
  | broken h => exact ⟨_, .panics _ rfl, h⟩
  | unwound through =>
    rw [tag?_of_letsThrough through] at tag
    cases tag
  | replied | sent | yielded | passed | aborted | looped | stepped | guarded => cases tag
  | _ => cases returning

/-- A thread that begins to run a mail has its frame next, unless nothing runs. -/
theorem Turn.launches {m : Letter σ ν} (turn : Turn w me pick rest (.launch m caught) n) :
    n.2 = ⟨.answer .done, rest⟩ ∨ n.2.stack = m.tag.frame caught :: rest := by
  cases turn with
  | rang | skipped => exact .inl rfl
  | launched _ _ _ _ work =>
    rw [m.tag.frame_of_none (by simp [Mail.tag, Mail.handle?, work])]
    exact .inr rfl
  | captured _ _ i _ _ work =>
    rw [m.tag.frame_of_some (i := i) (by simp [Mail.tag, Mail.handle?, work])]
    exact .inr rfl

/-- Whoever runs a submitted mail sees it go well. -/
theorem Ended.kept {i : HandleId} (h : Ended w how (g.frame caught :: rest) n) (submitted : g.handle? = some i) :
    n.2 = ⟨.answer .done, rest⟩ := by
  rw [g.frame_of_some submitted] at h
  cases h
  rfl

/-- Whoever runs another mail hears of the end of its action. -/
theorem Ended.heard (h : Ended w how (g.frame caught :: rest) n) (plain : g.handle? = none) : n.2 = ⟨g.heard caught how, rest⟩ := by
  rw [g.frame_of_none plain] at h
  cases h with
  | returned | failed | caught | escaped => rfl

end Thread

namespace World

variable {a b w x y z : World σ ν} {t : ThreadId} {pick : Nat} {th : Thread σ ν} {n : Next σ ν} {base stack : List (Frame σ ν)}
  {m : Letter σ ν} {caught : Bool} {f : Frame σ ν} {g : Tag} {how : Ending ν} {r : Reply ν} {p : Payload}

/-- A thread that has begun to run a mail for some frame comes to that frame with the news that it went well, or with those of the end
of its action. -/
theorem During.ran (h : w.During t base b) (back : b.IsBack t base) (hx : w.threads[t]? = some ⟨.launch m caught, f :: base⟩) :
    ∃ z stage, w.During t base z ∧ z.During t base b ∧ z.threads[t]? = some ⟨stage, f :: base⟩ ∧
      (stage = .answer .done ∨ ∃ y how, m.handle? = none ∧ w.During t base y ∧ y.AtEnd t how (m.tag.frame caught :: f :: base) ∧
        y.During t base b ∧ stage = m.tag.heard caught how) := by
  -- The thread stays at the frame of the mail, or above it, until the end of the action comes to that frame.
  rcases h.leaves (S := fun th => th = ⟨.launch m caught, f :: base⟩ ∨ ∃ above, th.stack = above ++ m.tag.frame caught :: f :: base)
      ⟨_, hx, .inl rfl⟩ with ⟨th, hb, inside⟩ | ⟨x, pick, th, n, y, own, hs, inside, outside⟩
  · refine absurd back ?_
    rcases inside with rfl | ⟨above, hstack⟩
    · exact not_isBack_of_stage hb rfl
    · refine not_isBack_of_deeper hb ?_
      rw [hstack, List.length_append, List.length_cons, List.length_cons]
      omega
  · have turn := hs.turn
    have arrived : ∀ {stage}, n.2 = ⟨stage, f :: base⟩ → y.threads[t]? = some ⟨stage, f :: base⟩ := fun hn => hn ▸ hs.own
    rcases inside with rfl | ⟨above, hstack⟩
    · rcases turn.launches with hn | hn
      · exact ⟨y, _, own.during, own.after, arrived hn, .inl rfl⟩
      · exact absurd (.inr ⟨[], hn⟩) outside
    · obtain ⟨stage, stack⟩ := th
      obtain rfl : stack = _ := hstack
      rcases turn.stack_above with stays | ⟨rfl, returning⟩
      · exact absurd (.inr stays) outside
      · obtain ⟨how, breaks, ended⟩ := turn.ends_action returning
        cases plain : m.handle? with
        | some i => exact ⟨y, _, own.during, own.after, arrived (ended.kept plain), .inl rfl⟩
        | none =>
          refine ⟨y, _, own.during, own.after, arrived (ended.heard plain), .inr ⟨x, how, rfl, own.before, ?_, own.rest, rfl⟩⟩
          exact ⟨_, hs.thread, breaks⟩

/-- Whoever runs a mail hears of the end of its action. -/
theorem During.hears (h : w.During t base b) (back : b.IsBack t base) (hend : w.AtEnd t how (g.frame caught :: f :: base))
    (plain : g.handle? = none) :
    ∃ z : World σ ν, w.During t base z ∧ z.During t base b ∧ z.threads[t]? = some ⟨g.heard caught how, f :: base⟩ := by
  obtain ⟨th, hx, breaks⟩ := hend
  have away : ¬w.IsBack t base := by
    refine not_isBack_of_deeper hx ?_
    rw [breaks.stack, List.length_cons, List.length_cons]
    omega
  obtain ⟨x, pick, n, y, own, hs⟩ := h.next_own back hx away
  have turn := hs.turn
  have ended : Thread.Ended x.task how (g.frame caught :: f :: base) n := by
    rw [g.frame_of_none plain] at breaks ⊢
    cases breaks with
    | ends =>
      cases turn with
      | ended h => exact h
    | panics p hp =>
      subst hp
      cases turn with
      | unwound through => cases through
      | broken h => exact h
  exact ⟨y, own.during, own.after, ended.heard plain ▸ hs.own⟩

/-! ## Yields -/

/-- What comes to a yield from the mail that it runs. -/
theorem During.through_yield {r' : Reply ν} (h : w.During t base b) (back : b.threads[t]? = some ⟨.answer r, base⟩)
    (hx : w.threads[t]? = some ⟨.answer r', .yield patient :: base⟩) : r = yielded patient ∨ r = r' := by
  obtain ⟨x, pick, n, y, own, hs⟩ := h.next_above (.inl ⟨r, back⟩) hx
  have turn := hs.turn
  have reply : ∀ {r'' : Reply ν}, n.2 = ⟨.answer r'', base⟩ → r = r'' := fun hn => own.after.reply_eq (hn ▸ hs.own) back
  cases turn with
  | yielded => exact .inl (reply rfl)
  | passed => exact .inr (reply rfl)

/-- No call that a panic goes through has a reply. -/
theorem During.not_unwinding (h : w.During t base b) (back : b.threads[t]? = some ⟨.answer r, base⟩) (through : Thread.LetsThrough f)
    (hx : w.threads[t]? = some ⟨.unwind p, f :: base⟩) : False := by
  obtain ⟨x, pick, n, y, own, hs⟩ := h.next_above (.inl ⟨r, back⟩) hx
  have turn := hs.turn
  have thrown : n.2 = ⟨.unwind p, base⟩ := by
    cases turn with
    | unwound => rfl
    | guarded => cases through
    | broken h => cases h <;> cases through
  have hy : y.threads[t]? = some ⟨.unwind p, base⟩ := thrown ▸ hs.own
  obtain rfl := own.after.eq_of_back (.inr ⟨p, hy⟩)
  cases hy.symm.trans back

/-- A yield that has taken a mail and fails does so with the failure of the action of that. -/
theorem During.yield_fails (h : w.During t base b) (back : b.threads[t]? = some ⟨.answer (.failed e), base⟩)
    (hx : w.threads[t]? = some ⟨.launch m false, .yield patient :: base⟩) :
    ∃ z how e', w.During t base z ∧ z.AtEnd t how (m.tag.frame false :: .yield patient :: base) ∧ z.During t base b ∧
      m.tag.error? how = some e' ∧ e = .actionFailed m.description.display e' := by
  have well : (yielded patient : Reply ν) ≠ .failed e := by cases patient <;> nofun
  obtain ⟨z, stage, -, later, hz, rfl | ⟨y, how, plain, before, hend, after, rfl⟩⟩ := h.ran (.inl ⟨_, back⟩) hx
  · rcases later.through_yield back hz with hr | hr
    · exact absurd hr.symm well
    · cases hr
  · cases how with
    | returned v =>
      rcases later.through_yield back hz with hr | hr
      · exact absurd hr.symm well
      · cases hr
    | failed e' =>
      refine ⟨y, _, e', before, hend, after, Tag.error?_eq_some.mpr ⟨plain, rfl⟩, ?_⟩
      rcases later.through_yield back hz with hr | hr
      · exact absurd hr.symm well
      · cases hr
        rfl
    | panicked p => exact (later.not_unwinding (f := .yield patient) back trivial hz).elim

/-- A yield fails if the body of its mail has returned an error. -/
theorem During.fails_of_yield (h : w.During t base b) (back : b.threads[t]? = some ⟨.answer r, base⟩)
    (hend : w.AtEnd t how (m.tag.frame false :: .yield patient :: base)) (error : m.tag.error? how = some e) :
    r = .failed (.actionFailed m.description.display e) := by
  obtain ⟨plain, rfl⟩ := Tag.error?_eq_some.mp error
  obtain ⟨z, -, later, hz⟩ := h.hears (.inl ⟨r, back⟩) hend plain
  obtain ⟨x, pick, n, y, own, hs⟩ := later.next_above (.inl ⟨r, back⟩) hz
  have turn := hs.turn
  cases turn with
  | passed => exact own.after.reply_eq hs.own back

/-! ## Steps -/

/-- What comes to a step from the mail that it runs. -/
theorem During.through_step {r' : Reply ν} (h : w.During t base b) (possible : w.Possible)
    (back : b.threads[t]? = some ⟨.answer r, base⟩) (hx : w.threads[t]? = some ⟨.answer r', .serve false :: base⟩) :
    (r = .flag true ∧ ∀ e, r' ≠ .failed e) ∨ ∃ e, r' = .failed e ∧ r = .failed e.toFatal := by
  obtain ⟨x, pick, n, y, own, hs⟩ := h.next_above (.inl ⟨r, back⟩) hx
  have turn := hs.turn
  cases turn with
  | stepped _ _ well => exact .inl ⟨own.after.reply_eq hs.own back, well⟩
  | aborted _ e => exact .inr ⟨e, rfl, ((possible.reach own.during.reach).dooms hs.own).reply b r own.after back⟩

/-- A step that has taken a mail counts it, and runs it. -/
theorem During.step_launches (h : w.During t base b) (back : b.IsBack t base) (hx : w.threads[t]? = some ⟨.serve m false, base⟩) :
    ∃ x : World σ ν, w.During t base x ∧ x.During t base b ∧ x.threads[t]? = some ⟨.launch m true, .serve false :: base⟩ := by
  obtain ⟨x, pick, n, y, own, hs⟩ := h.next_own back hx (not_isBack_of_stage hx rfl)
  have turn := hs.turn
  cases turn with
  | served => exact ⟨y, own.during, own.after, hs.own⟩

/-- A step that has taken a mail and fails does so with the failure or the panic of the action of that. -/
theorem During.step_fails (h : w.During t base b) (possible : w.Possible) (back : b.threads[t]? = some ⟨.answer (.failed e), base⟩)
    (hx : w.threads[t]? = some ⟨.serve m false, base⟩) :
    ∃ z how e', w.During t base z ∧ z.AtEnd t how (m.tag.frame true :: .serve false :: base) ∧ z.During t base b ∧
      m.tag.failure? how = some e' ∧ e = .fatal e' := by
  obtain ⟨x, hwx, hxb, hlaunch⟩ := h.step_launches (.inl ⟨_, back⟩) hx
  obtain ⟨z, stage, hxz, later, hz, heard⟩ := hxb.ran (.inl ⟨_, back⟩) hlaunch
  have possible : z.Possible := possible.reach (hwx.trans hxz).reach
  have passes : ∀ {r : Reply ν}, stage = .answer r → ∃ e', r = .failed e' ∧ e = e'.toFatal := by
    rintro r rfl
    rcases later.through_step possible back hz with ⟨hr, -⟩ | ⟨e', hr, he⟩
    · cases hr
    · cases he
      exact ⟨e', hr, rfl⟩
  rcases heard with hstage | ⟨y, how, plain, before, hend, after, hstage⟩
  · obtain ⟨_, hr, -⟩ := passes hstage
    cases hr
  · refine ⟨y, how, ?_⟩
    cases how with
    | returned v =>
      obtain ⟨_, hr, -⟩ := passes hstage
      cases hr
    | failed f =>
      obtain ⟨_, hr, he⟩ := passes hstage
      cases hr
      exact ⟨_, hwx.trans before, hend, after, Tag.failure?_of_none plain, he⟩
    | panicked p =>
      obtain ⟨_, hr, he⟩ := passes hstage
      cases hr
      exact ⟨_, hwx.trans before, hend, after, Tag.failure?_of_none plain, he⟩

/-- A step fails if the body of its mail has failed or panicked. -/
theorem During.fails_of_step (h : w.During t base b) (possible : w.Possible) (back : b.threads[t]? = some ⟨.answer r, base⟩)
    (hend : w.AtEnd t how (m.tag.frame true :: .serve false :: base)) (failure : m.tag.failure? how = some e) :
    r = .failed (.fatal e) := by
  have plain : m.handle? = none := Tag.plain_of_failure? failure
  rw [Tag.failure?_of_none plain] at failure
  obtain ⟨z, before, later, hz⟩ := h.hears (.inl ⟨r, back⟩) hend plain
  have possible : z.Possible := possible.reach before.reach
  have fails : ∀ {e' : Failure}, z.threads[t]? = some ⟨.answer (.failed e'), .serve false :: base⟩ → r = .failed e'.toFatal := by
    intro e' hz
    rcases later.through_step possible back hz with ⟨-, well⟩ | ⟨e'', he, hr⟩
    · exact absurd rfl (well e')
    · cases he
      exact hr
  cases how with
  | returned v => cases failure
  | failed f | panicked p =>
    cases failure
    exact fails hz

end World

end Mailroom
