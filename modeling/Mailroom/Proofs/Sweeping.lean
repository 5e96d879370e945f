import Mailroom.Proofs.Journal
import Mailroom.Proofs.Stepping
import Mailroom.Proofs.Taking

/-!
# Taking all the mail that a take is for

The mailbox thread takes mail by calls of one kind, one after another, until one finds none (`World.Sweeps`). While no mail is put, the
calls return the urgent mail and then of the normal lane what they admit, each lane in its order, and leave the rest of the normal lane as
it stands (`Sweeps.swept`): what a call takes is first in that row, and what it leaves is the row without it (`Lanes.pop_admitted`). The
main statement is `yields_drain`, with what it says of a sweep of the main loop's kind after that and of two thresholds one after the
other.
-/

namespace Mailroom

variable {σ ν α : Type}

/-! ## The mail that a take is for -/

/-- A take of this kind is for such mail of the normal lane: the main loop's for any, and a yield's for mail that is not deferrable and has
at least the priority of its threshold. -/
def Choice.admits : Choice → Envelope → Bool
  | oldest, _ => true
  | eligible p, m => !m.isDeferrable && p ≤ m.priority

/-- Of the normal lane a yield admits what may be taken for it. -/
theorem Choice.admits_eligible {m : Envelope} (h : m.isUrgent = false) (p : Priority) :
    (Choice.eligible p).admits m = m.isEligible p := by
  rw [Envelope.isEligible, h, Bool.false_or]
  rfl

/-- The lower of two thresholds admits what one of them admits. -/
theorem Choice.admits_min (p q : Priority) (m : Envelope) :
    (Choice.eligible (min p q)).admits m = ((Choice.eligible p).admits m || (Choice.eligible q).admits m) := by
  have lower : min p q ≤ m.priority ↔ p ≤ m.priority ∨ q ≤ m.priority := by
    change (if p ≤ q then p else q) ≤ m.priority ↔ _
    split
    · next h => exact ⟨.inl, fun either => either.elim id (Int32.le_trans h)⟩
    · next h => exact ⟨.inr, fun either => either.elim (Int32.le_trans (Int32.le_of_lt (Int32.not_le.mp h))) id⟩
  simp only [admits, lower, Bool.decide_or, Bool.and_or_distrib_left]

namespace Lanes

/-- The mail that takes of this kind are for: the urgent mail, then what they admit of the normal lane. -/
def admitted (l : Lanes α) (choice : Choice) : List (Mail α) :=
  l.urgent ++ (l.normal.map (·.2)).filter fun m => choice.admits m.toEnvelope

/-- The lanes without that mail. -/
def without (l : Lanes α) (choice : Choice) : Lanes α :=
  { l with
    urgent := []
    normal := l.normal.filter fun e => !choice.admits e.2.toEnvelope }

variable {l l' : Lanes α} {choice : Choice} {m : Mail α}

/-- What a take takes is the first mail that takes of its kind are for, and the others are those that they are for after that. -/
theorem pop_admitted (h : l.WellFormed) (pop : l.pop choice = some (m, l')) :
    l.admitted choice = m :: l'.admitted choice ∧ l'.without choice = l.without choice := by
  obtain ⟨keys, ⟨rest, hu, hu', hn'⟩ | ⟨hu, hu', pre, key, post, hn, hn', taken⟩⟩ := pop_eq_some h pop
  · exact ⟨by rw [admitted, admitted, hu, hu', hn', List.cons_append], by rw [without, without, hn', keys]⟩
  · have normal : ∀ e ∈ pre ++ (key, m) :: post, e.2.isUrgent = false := hn ▸ h.normal
    -- What stands before the mail is not admitted, and the mail is.
    have before : ∀ e ∈ pre, choice.admits e.2.toEnvelope = false := by
      intro e he
      rcases taken with ⟨-, rfl⟩ | ⟨p, rfl, -, passed⟩
      · cases he
      · rw [Choice.admits_eligible (normal e (List.mem_append_left _ he))]
        exact passed e he
    have this : choice.admits m.toEnvelope = true := by
      rcases taken with ⟨rfl, -⟩ | ⟨p, rfl, open', -⟩
      · rfl
      · rw [Choice.admits_eligible (normal (key, m) (by simp))]
        exact open'
    have none : pre.filter (fun e => choice.admits e.2.toEnvelope) = [] :=
      List.filter_eq_nil_iff.mpr fun e he => by simp [before e he]
    constructor
    · simp only [admitted, hu, hu', hn, hn', List.nil_append, List.filter_map, Function.comp_def, List.filter_append,
        List.filter_cons, this, if_true, none, List.map_cons]
    · simp only [without, hn, hn', keys, List.filter_append, List.filter_cons, this, Bool.not_true, Bool.false_eq_true, if_false]

/-- Where a take finds nothing there is no mail that takes of its kind are for. -/
theorem pop_none_admitted (h : l.WellFormed) (pop : l.pop choice = none) : l.admitted choice = [] ∧ l.without choice = l := by
  obtain ⟨hu, hn⟩ := (pop_eq_none_iff h).mp pop
  have none : ∀ e ∈ l.normal, choice.admits e.2.toEnvelope = false := by
    intro e he
    obtain ⟨p, rfl, closed⟩ := hn e he
    rw [Choice.admits_eligible (h.normal e he)]
    exact closed
  constructor
  · rw [admitted, hu, List.filter_map, List.filter_eq_nil_iff.mpr fun e he => by simp [none e he]]
    rfl
  · rw [without, List.filter_eq_self.mpr fun e he => by simp [none e he], ← hu]

theorem map_normal_without (l : Lanes α) (choice : Choice) :
    (l.without choice).normal.map (·.2) = (l.normal.map (·.2)).filter fun m => !choice.admits m.toEnvelope := by
  rw [List.filter_map]
  rfl

/-- The main loop takes whatever is queued, in the order of the lanes. -/
theorem admitted_oldest (l : Lanes α) : l.admitted .oldest = l.toList :=
  congrArg (l.urgent ++ ·) (List.filter_eq_self.mpr fun _ _ => rfl)

/-- The main loop leaves nothing. -/
theorem without_oldest (l : Lanes α) : (l.without .oldest).toList = [] := by
  rw [toList, map_normal_without, List.filter_eq_nil_iff.mpr fun _ _ => by simp [Choice.admits]]
  rfl

/-- After one threshold, the other lets through what is left of what the lower of the two lets through. -/
theorem without_min (l : Lanes α) (p q : Priority) :
    (l.without (.eligible p)).without (.eligible q) = l.without (.eligible (min p q)) := by
  simp only [without, List.filter_filter, Choice.admits_min, Bool.not_or, Bool.and_comm]

/-- Two thresholds, one after the other, let through what the lower of them does. -/
theorem admitted_min_perm (l : Lanes α) (p q : Priority) :
    (l.admitted (.eligible p) ++ (l.without (.eligible p)).admitted (.eligible q)).Perm (l.admitted (.eligible (min p q))) := by
  have perm := List.filter_append_perm (fun m : Mail α => (Choice.eligible p).admits m.toEnvelope)
    ((l.normal.map (·.2)).filter fun m => (Choice.eligible (min p q)).admits m.toEnvelope)
  rw [admitted, admitted, admitted, map_normal_without, List.append_assoc]
  refine List.Perm.append_left _ (.trans (.of_eq ?_) perm)
  -- What the first threshold lets through is what it lets through of the whole, and so is what it leaves to the second.
  simp only [without, List.nil_append, List.filter_filter, Choice.admits_min]
  congr 1
  · exact List.filter_congr fun m _ => by cases (Choice.eligible p).admits m.toEnvelope <;> rfl
  · exact List.filter_congr fun m _ => by
      cases (Choice.eligible p).admits m.toEnvelope <;> cases (Choice.eligible q).admits m.toEnvelope <;> rfl

end Lanes

/-! ## While no mail is put -/

namespace World

variable {a b c w x : World σ ν} {t i : ThreadId} {pick : Nat} {th : Thread σ ν} {n : Next σ ν} {base stack : List (Frame σ ν)}
  {guarded patient : Bool} {k : Reply ν → Body σ ν} {choice : Choice}

/-- What is new in the journal is what is written at the stage of the thread. -/
theorem Stepped.traffic_append (hs : Stepped a t pick th n b) :
    ∃ entries, b.task.traffic = entries ++ a.task.traffic ∧ ∀ e ∈ entries, e.isWrittenAt th.stage = true := by
  obtain ⟨entries, journal, written⟩ := hs.turn.writes
  refine ⟨entries.filter (·.isTraffic), ?_, fun e he => written e (List.mem_filter.mp he).1⟩
  rw [Task.traffic, hs.task, journal, List.filter_append]
  rfl

/-- What the journal says of the traffic it goes on to say, and adds to it. -/
theorem Reach.history_grows {β : Type} (f : Occurrence σ ν → Option β) (h : a.Reach b) :
    history f a.task.traffic <+: history f b.task.traffic := by
  refine h.invariant (P := fun x => history f a.task.traffic <+: history f x.task.traffic) (List.prefix_refl _) ?_ fun _ ih => ih
  intro x t pick th n y _ ih hs
  obtain ⟨entries, traffic, -⟩ := hs.traffic_append
  refine ih.trans ?_
  rw [traffic, history, history, List.reverse_append, List.filterMap_append]
  exact List.prefix_append _ _

/-- Mail that was not put by the end was not put before. -/
theorem Reach.accepted_eq (h : a.Reach b) (h' : b.Reach c) (same : c.task.accepted = a.task.accepted) :
    b.task.accepted = a.task.accepted := by
  have before : a.task.accepted <+: b.task.accepted := h.history_grows _
  have after : b.task.accepted <+: c.task.accepted := h'.history_grows _
  exact (before.eq_of_length_le (same ▸ after).length_le).symm

/-- A thread that is not at a take takes no mail. -/
theorem Stepped.taken_same (hs : Stepped a t pick th n b) (elsewhere : th.stage.isTake = false) : b.task.taken = a.task.taken := by
  obtain ⟨entries, traffic, written⟩ := hs.traffic_append
  have none : entries.reverse.filterMap Occurrence.taking? = [] := by
    refine List.filterMap_eq_nil_iff.mpr fun e he => ?_
    have here := written e (List.mem_reverse.mp he)
    obtain ⟨stage, stack⟩ := th
    cases e with
    | taken =>
      cases stage with
      | take => cases elsewhere
      | _ => cases here
    | _ => rfl
  rw [Task.taken, traffic, history, List.reverse_append, List.filterMap_append, none, List.append_nil]
  rfl

/-- The lanes stay as they are while no mail is put, none is taken, and the mailbox is not closed. -/
theorem Stepped.lanes_same (hs : Stepped a t pick th n b) (accepted : b.task.accepted = a.task.accepted)
    (taken : b.task.taken = a.task.taken) (status : b.task.mailbox.status ≠ .closed) :
    b.task.mailbox.lanes = a.task.mailbox.lanes := by
  cases hs.traffic with
  | quiet mailbox | quiesced _ mailbox | begun _ mailbox | refused _ mailbox => exact (Mailbox.lanes_of_wakeAll mailbox).trans rfl
  | entered m _ _ _ journal =>
    rw [(Task.accepted_of_entry journal).1] at accepted
    exact absurd (congrArg List.length accepted) (by simp)
  | left m _ purpose _ _ _ _ journal =>
    rw [Task.taken_of_entry journal] at taken
    exact absurd (congrArg List.length taken) (by simp)
  | emptied _ mailbox => exact absurd ((Mailbox.status_of_wakeAll mailbox).trans rfl) status

/-! ## One call -/

/-- Where a thread stands that has made a call to take mail, and what that call has found in the lanes of the world `w`; the world is `x`
now, and no mail was put since. -/
inductive Midway (w : World σ ν) (guarded : Bool) (choice : Choice) (patient : Bool) (k : Reply ν → Body σ ν) (stack : List (Frame σ ν))
    (x : World σ ν) : Thread σ ν → Prop where
  | calling
    (kept : x.task.mailbox.status ≠ .closed → x.task.mailbox.lanes = w.task.mailbox.lanes ∧ x.task.taken = w.task.taken) :
    Midway w guarded choice patient k stack x ⟨.run (.call guarded (.take choice patient) k), stack⟩
  | taking
    (kept : x.task.mailbox.status ≠ .closed → x.task.mailbox.lanes = w.task.mailbox.lanes ∧ x.task.taken = w.task.taken) :
    Midway w guarded choice patient k stack x ⟨.take choice patient .hold, .caller guarded (.take choice patient) k :: stack⟩
  | found (m : Letter σ ν) (pop : w.task.mailbox.lanes.pop choice = some (m, x.task.mailbox.lanes))
    (taken : x.task.taken = w.task.taken ++ [(m, .hold)]) :
    Midway w guarded choice patient k stack x
      ⟨.answer (.mail (some m.ticket)), .caller guarded (.take choice patient) k :: stack⟩
  | missed (pop : w.task.mailbox.lanes.pop choice = none) (lanes : x.task.mailbox.lanes = w.task.mailbox.lanes)
    (taken : x.task.taken = w.task.taken) :
    Midway w guarded choice patient k stack x ⟨.answer (.mail none), .caller guarded (.take choice patient) k :: stack⟩
  | failed (e : Failure) :
    Midway w guarded choice patient k stack x ⟨.answer (.failed e), .caller guarded (.take choice patient) k :: stack⟩

/-- A step of the thread itself. -/
theorem Stepped.midway (hs : Stepped a t pick th n b) (owner : t = a.task.mailbox.owner)
    (midway : Midway w guarded choice patient k stack a th) (away : ¬a.IsBack t (.caller guarded (.take choice patient) k :: stack)) :
    Midway w guarded choice patient k stack b n.2 := by
  have task := hs.task
  cases midway with
  | calling kept =>
    have hstep := hs.step
    simp only [Thread.stepStage, Thread.stepBody, Thread.call_take owner] at hstep
    cases hstep
    exact .taking (by rwa [task])
  | taking kept =>
    have turn := hs.turn
    cases turn with
    | taken m _ _ _ l _ was pop =>
      obtain ⟨lanes, taken⟩ := kept was
      refine .found m ?_ ?_
      · rw [← lanes, pop, task]
        rfl
      · rw [task, ← taken]
        exact history_cons_of_some (f := Occurrence.taking?) rfl _
    | shutOut => exact .failed _
    | missed _ _ _ was pop =>
      obtain ⟨lanes, taken⟩ := kept was
      exact .missed (lanes ▸ pop) (by rw [task, lanes]) (by rw [task, taken])
    | drained _ _ _ was pop =>
      cases choice with
      | oldest =>
        obtain ⟨lanes, taken⟩ := kept (by rw [was]; intro closed; cases closed)
        exact .missed (lanes ▸ pop) (by rw [task, lanes]) (by rw [task, taken])
      | eligible p => exact .failed _
    | rested => exact .taking (by rw [task]; exact kept)
  | found | missed | failed => exact absurd (.inl ⟨_, hs.thread⟩) away

/-- A step of another thread. -/
theorem Stepped.midway_other (hs : Stepped a i pick th n b) (accepted : b.task.accepted = a.task.accepted)
    (elsewhere : th.stage.isTake = false) {mine : Thread σ ν} (hx : a.threads[t]? = some mine)
    (midway : Midway w guarded choice patient k stack a mine)
    (away : ¬a.IsBack t (.caller guarded (.take choice patient) k :: stack)) :
    Midway w guarded choice patient k stack b mine := by
  have kept : (a.task.mailbox.status ≠ .closed → a.task.mailbox.lanes = w.task.mailbox.lanes ∧ a.task.taken = w.task.taken) →
      b.task.mailbox.status ≠ .closed → b.task.mailbox.lanes = w.task.mailbox.lanes ∧ b.task.taken = w.task.taken := by
    intro kept status
    have taken := hs.taken_same elsewhere
    have before : a.task.mailbox.status ≠ .closed := fun closed => status ((Reach.here.step hs.step?_eq).closed closed)
    exact ⟨(hs.lanes_same accepted taken status).trans (kept before).1, taken.trans (kept before).2⟩
  cases midway with
  | calling before => exact .calling (kept before)
  | taking before => exact .taking (kept before)
  | found | missed | failed => exact absurd (.inl ⟨_, hx⟩) away

/-- While the mailbox thread is in a call to take mail and no mail is put, the call has found what the lanes held at its beginning. -/
theorem During.midway (h : w.During t (.caller guarded (.take choice patient) k :: stack) x) (possible : w.Possible)
    (owner : t = w.task.mailbox.owner) (hx : w.threads[t]? = some ⟨.run (.call guarded (.take choice patient) k), stack⟩)
    (same : x.task.accepted = w.task.accepted) :
    ∃ th, x.threads[t]? = some th ∧ Midway w guarded choice patient k stack x th := by
  refine h.invariant (P := fun x => x.task.accepted = w.task.accepted →
    ∃ th, x.threads[t]? = some th ∧ Midway w guarded choice patient k stack x th) ?_ ?_ ?_ same
  · exact fun _ => ⟨_, hx, .calling fun _ => ⟨rfl, rfl⟩⟩
  · intro a i pick th n b before away ih hs same
    have step : Reach a b := Reach.here.step hs.step?_eq
    have accepted : a.task.accepted = w.task.accepted := before.reach.accepted_eq step same
    obtain ⟨mine, hmine, midway⟩ := ih accepted
    have owner : t = a.task.mailbox.owner := owner.trans before.reach.owner.symm
    by_cases hi : i = t
    · subst hi
      obtain rfl : th = mine := Option.some.inj (hs.thread.symm.trans hmine)
      exact ⟨_, hs.own, hs.midway owner midway away⟩
    · have elsewhere : th.stage.isTake = false :=
        Bool.eq_false_iff.mpr fun take => hi (((possible.reach before.reach).taking i th hs.thread take).trans owner.symm)
      exact ⟨mine, hs.other (Ne.symm hi) hmine,
        hs.midway_other (same.trans accepted.symm) elsewhere hmine midway away⟩
  · intro a i _ ih same
    obtain ⟨th, hth, midway⟩ := ih same
    refine ⟨th, hth, ?_⟩
    cases midway with
    | calling kept => exact .calling kept
    | taking kept => exact .taking kept
    | found m pop taken => exact .found m pop taken
    | missed pop lanes taken => exact .missed pop lanes taken
    | failed e => exact .failed e

/-- A call to take mail that has returned, with a mail or with none, while no mail was put. -/
theorem Replied.took {f : Frame σ ν} {found : Option Ticket}
    (h : w.Replied t (.call guarded (.take choice patient) k) f stack (.mail found) b)
    (possible : w.Possible) (owner : t = w.task.mailbox.owner) (same : b.task.accepted = w.task.accepted) :
    (found = none ∧ w.task.mailbox.lanes.pop choice = none ∧ b.task.mailbox.lanes = w.task.mailbox.lanes ∧
      b.task.taken = w.task.taken) ∨
    ∃ m, found = some m.ticket ∧ w.task.mailbox.lanes.pop choice = some (m, b.task.mailbox.lanes) ∧
      b.task.taken = w.task.taken ++ [(m, .hold)] := by
  obtain ⟨frame, call, during, back⟩ := h
  cases frame
  obtain ⟨th, hth, midway⟩ := during.midway possible owner call same
  obtain rfl : th = _ := Option.some.inj (hth.symm.trans back)
  cases midway with
  | found m pop taken => exact .inr ⟨m, rfl, pop, taken⟩
  | missed pop lanes taken => exact .inl ⟨rfl, pop, lanes, taken⟩

/-! ## Call after call -/

/-- From `w` on thread `t` takes mail by calls of one kind, one after another, until one finds none: `tickets` are those of the mails that
the calls have returned, and in the world `b` the last has returned that there is none. Before each call time may pass, while nothing is
taken and the lanes stay as they are. -/
inductive Sweeps (t : ThreadId) (choice : Choice) : World σ ν → List Ticket → World σ ν → Prop where
  | done {w b : World σ ν} {guarded patient : Bool} {k : Reply ν → Body σ ν} {f : Frame σ ν} {stack : List (Frame σ ν)}
    (call : w.Replied t (.call guarded (.take choice patient) k) f stack (.mail none) b) : Sweeps t choice w [] b
  | took {w a b : World σ ν} {guarded patient : Bool} {k : Reply ν → Body σ ν} {f : Frame σ ν} {stack : List (Frame σ ν)}
    {ticket : Ticket} {tickets : List Ticket}
    (call : w.Replied t (.call guarded (.take choice patient) k) f stack (.mail (some ticket)) a) (rest : Sweeps t choice a tickets b) :
    Sweeps t choice w (ticket :: tickets) b
  | later {w a b : World σ ν} {tickets : List Ticket} (time : w.Reach a) (lanes : a.task.mailbox.lanes = w.task.mailbox.lanes)
    (taken : a.task.taken = w.task.taken) (rest : Sweeps t choice a tickets b) : Sweeps t choice w tickets b

/-- Between `w` and `b` takes of this kind have returned the mails with these tickets: all the mail of the lanes that they are for, in the
order of the lanes, and what they are not for is left as it stood. -/
structure Swept (choice : Choice) (w : World σ ν) (tickets : List Ticket) (b : World σ ν) : Prop where
  tickets : tickets = (w.task.mailbox.lanes.admitted choice).map Mail.ticket
  taken : b.task.taken = w.task.taken ++ (w.task.mailbox.lanes.admitted choice).map fun m => (m, .hold)
  lanes : b.task.mailbox.lanes = w.task.mailbox.lanes.without choice

/-- A sweep is a run of the world. -/
theorem Sweeps.reach {tickets : List Ticket} (h : Sweeps t choice w tickets b) : w.Reach b := by
  induction h with
  | done call => exact call.during.reach
  | took call _ ih => exact call.during.reach.trans ih
  | later time _ _ _ ih => exact time.trans ih

/-- Calls that go on until one finds no mail have taken all the mail that they are for, if none was put meanwhile. -/
theorem Sweeps.swept {tickets : List Ticket} (h : Sweeps t choice w tickets b) (possible : w.Possible)
    (owner : t = w.task.mailbox.owner) (same : b.task.accepted = w.task.accepted) : Swept choice w tickets b := by
  induction h with
  | done call =>
    rcases call.took possible owner same with ⟨-, pop, lanes, taken⟩ | ⟨m, found, -⟩
    · obtain ⟨none, whole⟩ := Lanes.pop_none_admitted possible.orderly.wellFormed pop
      exact ⟨by rw [none]; rfl, by rw [none, taken]; exact (List.append_nil _).symm, lanes.trans whole.symm⟩
    · cases found
  | took call rest ih =>
    have before := call.during.reach.accepted_eq rest.reach same
    rcases call.took possible owner before with ⟨found, -⟩ | ⟨m, found, pop, taken⟩
    · cases found
    · cases found
      have swept := ih (possible.reach call.during.reach) (owner.trans call.during.reach.owner.symm) (same.trans before.symm)
      obtain ⟨first, left⟩ := Lanes.pop_admitted possible.orderly.wellFormed pop
      refine ⟨?_, ?_, swept.lanes.trans left⟩
      · rw [first, List.map_cons, ← swept.tickets]
      · rw [first, List.map_cons, swept.taken, taken, List.append_assoc, List.singleton_append]
  | later time lanes taken rest ih =>
    have before := time.accepted_eq rest.reach same
    have swept := ih (possible.reach time) (owner.trans time.owner.symm) (same.trans before.symm)
    exact ⟨lanes ▸ swept.tickets, lanes ▸ taken ▸ swept.taken, lanes ▸ swept.lanes⟩

end World

/-! ## Such calls come to an end -/

/-- The body that takes mail by calls of one kind until one finds none, but by `n` calls at most, and then goes on with `next`. -/
def Body.sweep (choice : Choice) (next : Body σ ν) : Nat → Body σ ν
  | 0 => next
  | n + 1 => .call false (.take choice false) fun
    | .mail (some _) => sweep choice next n
    | _ => next

/-- The task when a mail was taken to be held; `l` is what is left in the lanes. -/
def Task.took (w : Task σ ν) (choice : Choice) (m : Letter σ ν) (l : Lanes (Job σ ν)) : Task σ ν :=
  ({ w with mailbox := { w.mailbox with
      lanes := l
      senders := Mailbox.wakeOne 0 w.mailbox.senders } }.log (.taken m choice .hold)).hold [m]

namespace World

variable {a b w : World σ ν} {t : ThreadId} {base stack : List (Frame σ ν)} {guarded : Bool} {q : Request} {r : Reply ν}
  {k : Reply ν → Body σ ν} {choice : Choice}

/-- The thread that is left alone is in its call until it is back. -/
theorem Returns.during (h : w.Returns t base r b) : w.During t base b := by
  obtain ⟨-, n, moves⟩ := h
  exact .of_moves _ moves

/-- The mailbox thread, left alone with a call to take mail without waiting, is told of a mail or of none, unless the mailbox is closed. -/
theorem Possible.returns_mail (possible : w.Possible) (owner : t = w.task.mailbox.owner) (status : w.task.mailbox.status ≠ .closed)
    (hx : w.threads[t]? = some ⟨.run (.call guarded (.take choice false) k), stack⟩) :
    ∃ found b, w.Returns t (.caller guarded (.take choice false) k :: stack) (.mail found) b ∧
      b.task.accepted = w.task.accepted ∧ b.task.mailbox.status ≠ .closed := by
  have awake := possible.awake_of_run hx
  have hcall := Thread.call_take owner stack choice false
  cases pop : w.task.mailbox.lanes.pop choice with
  | none =>
    have take : Thread.stepStage w.task t 0 (.caller guarded (.take choice false) k :: stack) (.take choice false .hold) =
        some (w.task, ⟨.answer (.mail none), .caller guarded (.take choice false) k :: stack⟩) := by
      simp only [Thread.stepStage, Thread.stepTake, Mailbox.take_of_pop_eq_none status pop]
      rfl
    exact ⟨none, _, returns_of_comes ((Thread.comes_call_iff awake hcall).mpr
      ((Thread.comes_step_iff rfl awake take rfl).mpr (.back ..))) hx rfl, rfl, status⟩
  | some taken =>
    obtain ⟨m, l⟩ := taken
    have take : Thread.stepStage w.task t 0 (.caller guarded (.take choice false) k :: stack) (.take choice false .hold) =
        some (w.task.took choice m l, ⟨.answer (.mail (some m.ticket)), .caller guarded (.take choice false) k :: stack⟩) := by
      simp only [Thread.stepStage, Thread.stepTake, Mailbox.take_of_pop_eq_some status pop]
      rfl
    exact ⟨some m.ticket, _, returns_of_comes ((Thread.comes_call_iff awake hcall).mpr
      ((Thread.comes_step_iff rfl awake take rfl).mpr (.back ..))) hx rfl, history_cons_of_none (f := Occurrence.acceptance?) rfl _, status⟩

/-- A body that made a call goes on with the reply. -/
theorem Possible.goes_on (possible : w.Possible) (hx : w.threads[t]? = some ⟨.answer r, .caller guarded q k :: stack⟩) :
    ∃ a, w.Reach a ∧ a.task = w.task ∧ a.threads[t]? = some ⟨.run (k r), stack⟩ := by
  have hs : Stepped w t 0 _ (w.task, ⟨.run (k r), stack⟩) (w.after t w.task ⟨.run (k r), stack⟩ []) :=
    ⟨hx, possible.awake hx rfl nofun, rfl, rfl⟩
  exact ⟨_, Reach.here.step hs.step?_eq, rfl, hs.own⟩

/-- Whoever makes more calls than there is mail comes to a call that finds none. -/
theorem Possible.sweeps (possible : w.Possible) (owner : t = w.task.mailbox.owner) (status : w.task.mailbox.status ≠ .closed)
    {next : Body σ ν} {n : Nat} (few : w.task.queued.length < n) (hx : w.threads[t]? = some ⟨.run (.sweep choice next n), stack⟩) :
    ∃ tickets b, Sweeps t choice w tickets b ∧ b.task.accepted = w.task.accepted := by
  induction n generalizing w with
  | zero => exact absurd few (Nat.not_lt_zero _)
  | succ n ih =>
    obtain ⟨found, a, returns, accepted, status'⟩ := possible.returns_mail owner status hx
    have call : w.Replied t _ _ stack (.mail found) a := ⟨rfl, hx, returns.during, returns.1⟩
    rcases call.took possible owner accepted with ⟨rfl, -⟩ | ⟨m, rfl, pop, -⟩
    · exact ⟨[], a, .done call, accepted⟩
    · have fewer : w.task.queued.length = a.task.queued.length + 1 :=
        (Thread.perm_of_pop possible.orderly.wellFormed pop).length_eq
      have reach := returns.during.reach
      obtain ⟨x, on, task, hx⟩ := (possible.reach reach).goes_on returns.1
      obtain ⟨tickets, b, sweeps, same⟩ := ih ((possible.reach reach).reach on) (by rw [task, reach.owner, owner]) (task ▸ status')
        (by rw [task]; omega) hx
      exact ⟨m.ticket :: tickets, b, .took call (.later on (by rw [task]) (by rw [task]) sweeps), same.trans (task ▸ accepted)⟩

end World

/-! ## The order of the lanes -/

namespace Lanes

variable {l l' : Lanes α} {choice : Choice} {m : Mail α}

/-- A push adds to the end of a lane. -/
theorem push_sublist (l : Lanes α) (m : Mail α) : List.Sublist (l.push m).urgent (l.urgent ++ [m]) ∧
    List.Sublist ((l.push m).normal.map (·.2)) (l.normal.map (·.2) ++ [m]) := by
  unfold push
  split
  · exact ⟨List.Sublist.refl _, List.sublist_append_left _ _⟩
  · refine ⟨List.sublist_append_left _ _, ?_⟩
    rw [link, List.map_append]
    exact ((unlink_sublist _ _).map _).append_right _

/-- A take leaves the lanes in their order. -/
theorem Split.sublist (s : l.Split choice m l') : List.Sublist l'.urgent l.urgent ∧ List.Sublist l'.normal l.normal := by
  rcases s.lanes with ⟨rest, hu, hu', hn'⟩ | ⟨hu, hu', pre, key, post, hn, hn', -⟩
  · exact ⟨by rw [hu, hu']; exact List.sublist_cons_self _ _, hn' ▸ List.Sublist.refl _⟩
  · refine ⟨hu' ▸ List.nil_sublist _, ?_⟩
    rw [hn, hn']
    exact (List.sublist_cons_self _ _).append_left pre

end Lanes

namespace World

variable {w : World σ ν} {t : ThreadId} {stack : List (Frame σ ν)}

/-- The mail of each lane is some of the mail that was put, in the order in which it was put. -/
structure InPutOrder (w : World σ ν) : Prop where
  urgent : List.Sublist w.task.mailbox.lanes.urgent (w.task.accepted.map (·.1))
  normal : List.Sublist (w.task.mailbox.lanes.normal.map (·.2)) (w.task.accepted.map (·.1))

/-- The lanes are in the order of the puts in every world that is possible. -/
theorem Possible.inPutOrder (h : w.Possible) : w.InPutOrder := by
  refine h.invariant ?_ ?_ fun _ ih => ⟨ih.urgent, ih.normal⟩
  · intro config owner defaultAction handler client programs
    exact ⟨List.nil_sublist _, List.nil_sublist _⟩
  · intro a t pick th n b possible ih hs
    -- Lanes that are no more than they were are in order, whatever else was put.
    have fewer : List.Sublist b.task.mailbox.lanes.urgent a.task.mailbox.lanes.urgent →
        List.Sublist b.task.mailbox.lanes.normal a.task.mailbox.lanes.normal → b.InPutOrder := by
      intro urgent normal
      have grown := (((Reach.here.step hs.step?_eq).history_grows Occurrence.acceptance?).sublist.map (·.1))
      exact ⟨(urgent.trans ih.urgent).trans grown, ((normal.map _).trans ih.normal).trans grown⟩
    cases hs.traffic with
    | quiet mailbox | quiesced _ mailbox | begun _ mailbox | refused _ mailbox =>
      have lanes : b.task.mailbox.lanes = a.task.mailbox.lanes := (Mailbox.lanes_of_wakeAll mailbox).trans rfl
      exact fewer (lanes ▸ List.Sublist.refl _) (lanes ▸ List.Sublist.refl _)
    | entered m _ _ mailbox journal =>
      have lanes : b.task.mailbox.lanes = a.task.mailbox.lanes.push m := Mailbox.lanes_of_wakeAll mailbox
      have accepted : b.task.accepted.map (·.1) = a.task.accepted.map (·.1) ++ [m] := by
        rw [(Task.accepted_of_entry journal).1, List.map_append]
        rfl
      obtain ⟨urgent, normal⟩ := Lanes.push_sublist a.task.mailbox.lanes m
      rw [← lanes] at urgent normal
      exact ⟨accepted ▸ urgent.trans (ih.urgent.append_right _), accepted ▸ normal.trans (ih.normal.append_right _)⟩
    | left m choice _ l _ pop mailbox =>
      have lanes : b.task.mailbox.lanes = l := Mailbox.lanes_of_wakeAll mailbox
      obtain ⟨urgent, normal⟩ := (Lanes.pop_eq_some possible.orderly.wellFormed pop).sublist
      exact fewer (lanes ▸ urgent) (lanes ▸ normal)
    | emptied _ mailbox =>
      have lanes : b.task.mailbox.lanes = a.task.mailbox.lanes.cleared := Mailbox.lanes_of_wakeAll mailbox
      exact fewer (lanes ▸ List.nil_sublist _) (lanes ▸ List.nil_sublist _)

end World

/-- Draining by yields. In a world whose mailbox thread is `t`, calls to take mail as a yield does, at any threshold, that go on until one
finds none, return all urgent mail and then all mail of the normal lane that the threshold lets through, each in the order in which it was
put, and leave the rest as it stands, if no mail is put meanwhile; a drain of the main loop's kind after that returns the rest, and leaves
nothing. Two thresholds one after the other leave the same lanes as the lower of them, and have taken the same mail. And whoever makes more
calls than there is mail comes to one that finds none. -/
theorem yields_drain {w : World σ ν} (possible : w.Possible) {t : ThreadId} (owner : t = w.task.mailbox.owner) :
    w.InPutOrder ∧
    (∀ p tickets b, w.Sweeps t (.eligible p) tickets b → b.task.accepted = w.task.accepted →
      w.Swept (.eligible p) tickets b ∧ ∀ rest c, b.Sweeps t .oldest rest c → c.task.accepted = b.task.accepted →
        rest = b.task.mailbox.lanes.normal.map (·.2.ticket) ∧ c.task.queued = []) ∧
    (∀ p q first b second c, w.Sweeps t (.eligible p) first b → b.Sweeps t (.eligible q) second c → c.task.accepted = w.task.accepted →
      ∀ both d, w.Sweeps t (.eligible (min p q)) both d → d.task.accepted = w.task.accepted →
        c.task.mailbox.lanes = d.task.mailbox.lanes ∧ (first ++ second).Perm both) ∧
    ∀ choice (next : Body σ ν) n stack, w.threads[t]? = some ⟨.run (.sweep choice next n), stack⟩ →
      w.task.mailbox.status ≠ .closed → w.task.queued.length < n →
        ∃ tickets b, w.Sweeps t choice tickets b ∧ b.task.accepted = w.task.accepted := by
  have reached : ∀ {choice tickets b}, w.Sweeps t choice tickets b → b.Possible ∧ t = b.task.mailbox.owner :=
    fun sweeps => ⟨possible.reach sweeps.reach, owner.trans sweeps.reach.owner.symm⟩
  refine ⟨possible.inPutOrder, ?_, ?_, fun choice next n stack hx status few => possible.sweeps owner status few hx⟩
  · intro p tickets b sweeps same
    have swept := sweeps.swept possible owner same
    refine ⟨swept, fun rest c drain none => ?_⟩
    obtain ⟨possible, owner⟩ := reached sweeps
    have drained := drain.swept possible owner none
    have urgent : b.task.mailbox.lanes.urgent = [] := congrArg Lanes.urgent swept.lanes
    refine ⟨?_, ?_⟩
    · rw [drained.tickets, Lanes.admitted_oldest, Lanes.toList, urgent, List.nil_append, List.map_map]
      rfl
    · rw [Task.queued, drained.lanes, Lanes.without_oldest]
  · intro p q first b second c sweeps sweeps' same both d lower same'
    have before := sweeps.reach.accepted_eq sweeps'.reach same
    have swept := sweeps.swept possible owner before
    have swept' := sweeps'.swept (reached sweeps).1 (reached sweeps).2 (same.trans before.symm)
    have sweptBoth := lower.swept possible owner same'
    constructor
    · rw [swept'.lanes, swept.lanes, Lanes.without_min, sweptBoth.lanes]
    · rw [swept.tickets, swept'.tickets, sweptBoth.tickets, swept.lanes, ← List.map_append]
      exact (Lanes.admitted_min_perm _ p q).map _

/-- A task whose only thread sends a mail of priority 0, one that is deferrable, one of priority 3 and one that is urgent, and then takes as
a yield with threshold 2 does until there is nothing for it. -/
def mixedTask : World Unit Nat :=
  .start (.new ⟨4⟩ 0 none (fun _ => .finish (.returned 0)) ())
    [.post ⟨⟨"low", []⟩, .empty, 0⟩ (.finish (.returned 0)) fun _ =>
      .post ⟨⟨"deferrable", []⟩, .deferrable, 5⟩ (.finish (.returned 0)) fun _ =>
        .post ⟨⟨"high", []⟩, .empty, 3⟩ (.finish (.returned 0)) fun _ =>
          .post ⟨⟨"urgent", []⟩, .urgent, 0⟩ (.finish (.returned 0)) fun _ =>
            .sweep (.eligible 2) (.finish (.returned 0)) 5]

/-- The yields take the urgent mail and then the one of priority 3; the low one and the deferrable one are left. -/
theorem yields_drain_of_mixedTask : ∃ tickets b, (mixedTask.advanced 12).Sweeps 0 (.eligible 2) tickets b ∧
    b.task.accepted = (mixedTask.advanced 12).task.accepted ∧ tickets = [3, 2] ∧ b.task.queued.map Mail.ticket = [0, 1] := by
  have possible : mixedTask.Possible := ⟨⟨4⟩, 0, none, _, (), _, .here⟩
  have drain := yields_drain (possible.reach (mixedTask.reach_advanced 12)) (t := 0) rfl
  have hx : (mixedTask.advanced 12).threads[0]? = some ⟨.run (.sweep (.eligible 2) (.finish (.returned 0)) 5), []⟩ := rfl
  have few : (mixedTask.advanced 12).task.queued.length < 5 := Nat.lt_succ_self 4
  obtain ⟨tickets, b, sweeps, same⟩ := drain.2.2.2 (.eligible 2) (.finish (.returned 0)) 5 [] hx nofun few
  obtain ⟨swept, -⟩ := drain.2.1 2 tickets b sweeps same
  refine ⟨tickets, b, sweeps, same, swept.tickets.trans rfl, ?_⟩
  rw [Task.queued, swept.lanes]
  rfl

end Mailroom
