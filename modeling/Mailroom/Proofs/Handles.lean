import Mailroom.Proofs.Exit

/-!
# No orphaned handle

A handle has its mail, and as long as that mail may still run, or runs, the handle is pending; when the mail is gone, however that came
about, the handle says what became of it. `no_orphan`: a handle is pending just while its mail is queued, in somebody's hands, or in the
middle of its run; so once the mailbox is closed somebody holds the mail of every handle that is still pending; and a waker that a poll
left is there until the handle is no longer pending, and is woken in the same step.
-/

namespace Mailroom

variable {σ ν : Type}

/-! ## Every slot has its mail -/

namespace Ledger

variable {a b : Ledger σ ν}

/-- Every slot was opened for a mail that somebody has begun to put into the mailbox. -/
def Owned (a : Ledger σ ν) : Prop := ∀ h, h < a.slots.length → ∃ m, a.Offered m ∧ m.handle? = some h

/-- A put that was begun is one that was begun ever after. -/
theorem Entry.offered_mono (e : Entry a b) {m : Letter σ ν} (h : a.Offered m) : b.Offered m := by
  obtain ⟨sender, hs⟩ := h
  exact ⟨sender, e.mem_journal hs⟩

/-- A slot is opened together with the mail that it is for. -/
theorem Owned.entry (h : Owned a) (e : Entry a b) : Owned b := by
  have keep : b.slots.length = a.slots.length → Owned b := by
    intro length i hi
    obtain ⟨m, hm, hh⟩ := h i (length ▸ hi)
    exact ⟨m, e.offered_mono hm, hh⟩
  cases e with
  | submitted m sender ticket handle =>
    intro i hi
    rw [log_slots, List.length_append, List.length_singleton] at hi
    rcases Nat.lt_succ_iff_lt_or_eq.mp hi with hlt | rfl
    · obtain ⟨x, hx, hh⟩ := h i hlt
      exact ⟨x, offered_log.mpr (.inr hx), hh⟩
    · exact ⟨m, offered_log.mpr (.inl ⟨sender, rfl⟩), handle⟩
  | dropped | skipped | ended => exact keep (length_settle _ _)
  | watched | cancelled | told => exact keep (List.length_modify ..)
  | _ => exact keep rfl

/-- However many entries are made, every slot has its mail. -/
theorem Owned.entries (h : Owned a) (e : Entries a b) : Owned b := by
  induction e with
  | none => exact h
  | and _ entry ih => exact ih.entry entry

/-- The slot of a handle is pending just while its mail may still run, or runs. -/
theorem Good.pending_iff (g : Good a) {m : Letter σ ν} (hm : a.Offered m) {h : HandleId} (hh : m.handle? = some h) {s : Slot ν}
    (slot : a.slots[h]? = some s) : s.outcome = none ↔ m ∈ a.alive ∨ m.tag ∈ a.running := by
  obtain ⟨s', slot', outcome⟩ := g.sound.slot m h hm hh
  obtain rfl : s' = s := Option.some.inj (slot'.symm.trans slot)
  rw [outcome]
  constructor
  · intro verdict
    rcases g.sound.places m hm with alive | running | gone | ⟨none, -⟩
    · exact .inl alive
    · exact .inr running
    · generalize a.life m.ticket = life at gone verdict
      cases gone <;> cases verdict
    · rw [hh] at none
      cases none
  · rintro (alive | running)
    · rw [g.sound.waiting m alive]
      rfl
    · have life : a.life m.ticket = [.started m.ticket] := g.sound.running m.tag running
      rw [life]
      rfl

/-- A handle that gave an outcome is not pending. -/
theorem Good.known_of_spent (g : Good a) {h : HandleId} {s : Slot ν} (slot : a.slots[h]? = some s) (spent : s.spent = true) :
    s.outcome ≠ none := by
  obtain ⟨o, ho⟩ := Option.isSome_iff_exists.mp ((g.heard.spent h s slot).mp spent)
  rw [g.heard.first h s o slot ho]
  nofun

end Ledger

/-! ## What a step makes of a slot -/

/-- What a step can make of a slot. -/
inductive Slot.Becomes (s : Slot ν) : Slot ν → Prop where
  | same : Becomes s s
  | resolved (o : Outcome ν) : Becomes s (s.resolve o)
  | watched (pending : s.outcome = none) : Becomes s s.watch
  | told (known : s.spent = true ∨ s.outcome ≠ none) : Becomes s { s with spent := true }
  | polled (known : s.outcome ≠ none) : Becomes s { s with spent := true }.watch
  | cancelled : Becomes s s.cancel

/-- The waker of the last poll has been woken if there is an outcome that was not given yet, and not if there is none. -/
structure Slot.Attentive (s : Slot ν) : Prop where
  asleep : s.outcome = none → s.waker ≠ some true
  woken : s.outcome ≠ none → s.spent = false → s.waker ≠ some false

namespace Slot

variable {s s' : Slot ν}

/-- Only the first outcome counts, and it wakes the waker that a poll has left. -/
theorem resolve_cases (s : Slot ν) (o : Outcome ν) : s.resolve o = s ∧ s.outcome ≠ none ∨
    s.outcome = none ∧ s.resolve o = { s with outcome := some o, waker := s.waker.map fun _ => true } := by
  unfold resolve
  cases h : s.outcome with
  | none => exact .inr ⟨rfl, rfl⟩
  | some o' => exact .inl ⟨rfl, nofun⟩

/-- A handle is pending only while there is no outcome. -/
theorem outcome_of_pending (h : s.ask = .pending) : s.outcome = none := by
  unfold ask at h
  split at h
  · cases h
  · split at h
    · assumption
    · cases h

/-- Whatever a step makes of a slot, its waker is asleep while there is no outcome, and woken when there is one. -/
theorem Attentive.becomes (h : s.Attentive) (b : s.Becomes s') : s'.Attentive := by
  cases b with
  | same => exact h
  | resolved o =>
    rcases s.resolve_cases o with ⟨same, -⟩ | ⟨-, resolved⟩
    · rwa [same]
    · rw [resolved]
      refine ⟨nofun, fun _ _ waker => ?_⟩
      obtain ⟨x, -, hx⟩ := Option.map_eq_some_iff.mp waker
      cases hx
  | watched pending => exact ⟨fun _ => nofun, fun known => absurd pending known⟩
  | told => exact ⟨h.asleep, fun _ => nofun⟩
  | polled known => exact ⟨fun pending => absurd pending known, fun _ => nofun⟩
  | cancelled => exact ⟨h.asleep, h.woken⟩

/-- A waker is replaced only by another one. -/
theorem Becomes.registered (b : s.Becomes s') (h : s.waker.isSome = true) : s'.waker.isSome = true := by
  cases b with
  | same | told | cancelled => exact h
  | resolved o =>
    rcases s.resolve_cases o with ⟨same, -⟩ | ⟨-, resolved⟩
    · rwa [same]
    · rw [resolved, Option.isSome_map]
      exact h
  | watched | polled => rfl

/-- The step after which there is an outcome wakes the waker. -/
theorem Becomes.wakes (b : s.Becomes s') (pending : s.outcome = none) (known : s'.outcome ≠ none) (h : s.waker.isSome = true) :
    s'.waker = some true := by
  cases b with
  | same | watched | cancelled => exact absurd pending known
  | resolved o =>
    rcases s.resolve_cases o with ⟨-, before⟩ | ⟨-, resolved⟩
    · exact absurd pending before
    · obtain ⟨x, hx⟩ := Option.isSome_iff_exists.mp h
      rw [resolved, hx]
      rfl
  | told before | polled before => exact absurd pending known

end Slot

/-- What a step can make of the slots: each becomes something, and those that are new are blank. -/
structure SlotsBecome (l l' : List (Slot ν)) : Prop where
  old : ∀ (h : HandleId) s, l[h]? = some s → ∃ s', l'[h]? = some s' ∧ s.Becomes s'
  new : ∀ (h : HandleId) s', l[h]? = none → l'[h]? = some s' → s' = {}

namespace SlotsBecome

variable {l : List (Slot ν)}

/-- Slots that are left alone. -/
theorem same : SlotsBecome l l := ⟨fun _ s hs => ⟨s, hs, .same⟩, fun _ _ hn hs => by rw [hn] at hs; cases hs⟩

/-- One slot becomes something else, and the others are left alone. -/
theorem modify {i : HandleId} {f : Slot ν → Slot ν} (hf : ∀ s, l[i]? = some s → s.Becomes (f s)) :
    SlotsBecome l (l.modify i f) where
  old h s hs := by
    by_cases hi : i = h
    · subst hi
      exact ⟨f s, by rw [List.getElem?_modify_eq, hs]; rfl, hf s hs⟩
    · exact ⟨s, by rw [List.getElem?_modify_ne _ _ hi, hs], .same⟩
  new h s' hn hs := by
    rcases Ledger.modify_cases hs with ⟨rfl, s, hi, -⟩ | ⟨-, hs⟩
    · rw [hn] at hi
      cases hi
    · rw [hn] at hs
      cases hs

/-- A new slot is blank. -/
theorem opened : SlotsBecome l (l ++ [({} : Slot ν)]) where
  old h s hs := ⟨s, (List.getElem?_append_left (List.getElem?_eq_some_iff.mp hs).1).trans hs, .same⟩
  new h s' hn hs := by
    rw [List.getElem?_append_right (List.getElem?_eq_none_iff.mp hn), List.getElem?_singleton] at hs
    split at hs
    · exact (Option.some.inj hs).symm
    · cases hs

end SlotsBecome

namespace Task

/-- Mail that is gone unrun resolves the slot behind its handle, if it has one. -/
theorem slots_forgo (w : Task σ ν) (m : Letter σ ν) (h : HandleId) :
    (w.forgo m).slots[h]? = w.slots[h]? ∨ ∃ o, (w.forgo m).slots[h]? = w.slots[h]?.map (·.resolve o) := by
  unfold forgo
  split
  · rename_i i _
    by_cases hi : i = h
    · subst hi
      exact .inr ⟨_, List.getElem?_modify_eq ..⟩
    · exact .inl (List.getElem?_modify_ne _ _ hi)
  · exact .inl rfl

/-- So does mail that is displaced. -/
theorem slots_dropDisplaced (w : Task σ ν) (m? : Option (Letter σ ν)) (h : HandleId) :
    (w.dropDisplaced m?).slots[h]? = w.slots[h]? ∨ ∃ o, (w.dropDisplaced m?).slots[h]? = w.slots[h]?.map (·.resolve o) := by
  cases m? with
  | none => exact .inl rfl
  | some m => exact w.slots_forgo m h

end Task

/-- Slots that are left alone or resolved. -/
theorem SlotsBecome.settled {l l' : List (Slot ν)}
    (each : ∀ h : HandleId, l'[h]? = l[h]? ∨ ∃ o, l'[h]? = l[h]?.map (Slot.resolve · o)) : SlotsBecome l l' where
  old h s hs := by
    rcases each h with same | ⟨o, resolved⟩
    · exact ⟨s, same.trans hs, .same⟩
    · exact ⟨s.resolve o, by rw [resolved, hs]; rfl, .resolved o⟩
  new h s' hn hs := by
    rcases each h with same | ⟨o, resolved⟩
    · rw [same, hn] at hs
      cases hs
    · rw [resolved, hn] at hs
      cases hs

namespace Thread

variable {w : Task σ ν} {me : ThreadId} {pick : Nat} {stack : List (Frame σ ν)} {stage : Stage σ ν} {n : Next σ ν}

/-- A call asks one handle, cancels one, or opens one with the mail it makes. -/
theorem Called.slots {q : Request} {n : Task σ ν × Stage σ ν} (h : Called w me stack q n) : SlotsBecome w.slots n.1.slots := by
  cases h with
  | discarding t m => exact .settled fun h => (w.letGo t).slots_forgo m h
  | telling i s after o slot told =>
    obtain ⟨rfl, first⟩ := tryResult_eq_some told
    refine .modify fun x hx => ?_
    obtain rfl : s = x := Option.some.inj (slot.symm.trans hx)
    refine .told ?_
    cases hspent : s.spent with
    | true => exact .inl rfl
    | false => exact .inr (by rw [first hspent]; nofun)
  | watching i s slot pending =>
    refine .modify fun x hx => ?_
    obtain rfl : s = x := Option.some.inj (slot.symm.trans hx)
    exact .watched (Slot.outcome_of_pending pending)
  | polling i s after o slot told =>
    obtain ⟨rfl, known⟩ := ask_eq_ready told
    refine .modify fun x hx => ?_
    obtain rfl : s = x := Option.some.inj (slot.symm.trans hx)
    exact .polled (by rw [known]; nofun)
  | cancelling => exact .modify fun _ _ => .cancelled
  | _ => exact .same

/-- The end of a submitted mail resolves the slot of its handle. -/
theorem Ended.slots {e : Ending ν} (h : Ended w e stack n) : SlotsBecome w.slots n.1.slots := by
  cases h with
  | captured i t d e =>
    cases e with
    | returned | failed | panicked => exact .modify fun _ _ => .resolved _
  | _ => exact .same

/-- Every turn does to each slot one of the things that there are. -/
theorem Turn.slots (h : Turn w me pick stack stage n) : SlotsBecome w.slots n.1.slots := by
  cases h with
  | ended h | broken h => exact h.slots
  | called guarded q k h => exact h.slots
  | submitted => exact .opened
  | accepted m => exact .settled fun h => Task.slots_dropDisplaced _ _ h
  | refused m | skipped m | dropped m => exact .settled fun h => w.slots_forgo m h
  | taken m choice patient purpose => cases purpose <;> exact .same
  | awaited i s after o stack slot told =>
    obtain ⟨rfl, known⟩ := ask_eq_ready told
    refine .modify fun x hx => ?_
    obtain rfl : s = x := Option.some.inj (slot.symm.trans hx)
    exact .told (.inr (by rw [known]; nofun))
  | _ => exact .same

end Thread

/-! ## Where the mail of a handle is -/

namespace World

variable {a b c w : World σ ν} {t : ThreadId} {pick : Nat} {th : Thread σ ν} {n : Next σ ν} {base : List (Frame σ ν)}
  {m : Letter σ ν} {h : HandleId} {s s' : Slot ν}

/-- Somebody has the mail: it was taken or given back and is in hand, or a thread is putting it, beginning it or throwing it out, or it
is in the middle of its run. -/
inductive Held (w : World σ ν) (m : Letter σ ν) : Prop where
  | inHand (h : m ∈ w.task.hand)
  | attended (i : ThreadId) (th : Thread σ ν) (hx : w.threads[i]? = some th) (h : m ∈ th.stage.letters)
  | running (i : ThreadId) (th : Thread σ ν) (hx : w.threads[i]? = some th) (handle : HandleId) (hh : m.handle? = some handle)
    (h : .capture handle m.ticket m.description ∈ th.stack)

/-- The mail may still run, or runs. -/
def Alive (w : World σ ν) (m : Letter σ ν) : Prop := m ∈ w.task.queued ∨ w.Held m

/-- The frame of a submitted mail is the one that tells its handle of the end. -/
theorem tag?_eq_some_of_handle {f : Frame σ ν} (hh : m.handle? = some h) : f.tag? = some m.tag ↔ f = .capture h m.ticket m.description := by
  constructor
  · intro hf
    cases f with
    | action t d caught =>
      have handle := congrArg Tag.handle? (Option.some.inj hf)
      cases handle.trans hh
    | capture i t d =>
      obtain ⟨ticket, description, handle⟩ := Tag.mk.inj (Option.some.inj hf)
      rw [ticket, description, Option.some.inj (handle.trans hh)]
    | _ => cases hf
  · rintro rfl
    rw [Frame.tag?, Mail.tag, hh]

/-- The ledger lists a mail among those that may still run, or that run, just if it is alive. -/
theorem alive_iff (hh : m.handle? = some h) : m ∈ w.ledger.alive ∨ m.tag ∈ w.ledger.running ↔ w.Alive m := by
  have alive : m ∈ w.ledger.alive ↔ (∃ th ∈ w.threads, m ∈ th.stage.letters) ∨ m ∈ w.task.queued ∨ m ∈ w.task.hand := by
    simp [ledger, Task.ledger, Task.queued]
  have running : m.tag ∈ w.ledger.running ↔ ∃ th ∈ w.threads, .capture h m.ticket m.description ∈ th.stack := by
    simp [ledger, Task.ledger, tag?_eq_some_of_handle hh]
  rw [alive, running]
  constructor
  · rintro ((⟨th, hth, hm⟩ | queued | hand) | ⟨th, hth, hm⟩)
    · obtain ⟨i, hi⟩ := List.mem_iff_getElem?.mp hth
      exact .inr (.attended i th hi hm)
    · exact .inl queued
    · exact .inr (.inHand hand)
    · obtain ⟨i, hi⟩ := List.mem_iff_getElem?.mp hth
      exact .inr (.running i th hi h hh hm)
  · rintro (queued | hand | ⟨i, th, hi, hm⟩ | ⟨i, th, hi, h', hh', hm⟩)
    · exact .inl (.inr (.inl queued))
    · exact .inl (.inr (.inr hand))
    · exact .inl (.inl ⟨th, List.mem_of_getElem? hi, hm⟩)
    · rw [Option.some.inj (hh'.symm.trans hh)] at hm
      exact .inr ⟨th, List.mem_of_getElem? hi, hm⟩

/-- Every slot has its mail. -/
theorem Possible.owned (possible : w.Possible) : w.ledger.Owned := by
  refine possible.invariant (P := fun w => w.ledger.Owned) ?_ (fun before ih hs => ih.entries (hs.entries before.orderly)) fun _ ih => ih
  exact fun _ _ _ _ _ _ _ hlt => absurd hlt (Nat.not_lt_zero _)

/-! ## Slots in the course of a world -/

/-- No waker is forgotten in a world that is possible, and none is woken too early. -/
theorem Possible.attentive (possible : w.Possible) : ∀ (h : HandleId) s, w.task.slots[h]? = some s → s.Attentive := by
  refine possible.invariant (P := fun w => ∀ (h : HandleId) s, w.task.slots[h]? = some s → s.Attentive) ?_ ?_ fun _ ih => ih
  · intro config owner defaultAction handler client programs h s hs
    cases hs
  · intro a t pick th n b _ ih hs h s' hs'
    rw [hs.task] at hs'
    cases hold : a.task.slots[h]? with
    | none =>
      rw [hs.turn.slots.new h s' hold hs']
      exact ⟨nofun, fun known => absurd rfl known⟩
    | some s =>
      obtain ⟨x, hx, becomes⟩ := hs.turn.slots.old h s hold
      obtain rfl : s' = x := Option.some.inj (hs'.symm.trans hx)
      exact (ih h s hold).becomes becomes

/-- A slot stays, and so does a waker in it until another takes its place. -/
theorem Reach.registered (reach : a.Reach b) (slot : a.task.slots[h]? = some s) (waker : s.waker.isSome = true) :
    ∃ s', b.task.slots[h]? = some s' ∧ s'.waker.isSome = true := by
  refine reach.invariant (P := fun x => ∃ s', x.task.slots[h]? = some s' ∧ s'.waker.isSome = true) ⟨s, slot, waker⟩ ?_ fun _ ih => ih
  intro x i pick th n y _ ⟨s', hs', waker'⟩ hs
  obtain ⟨s'', hs'', becomes⟩ := hs.turn.slots.old h s' hs'
  rw [hs.task]
  exact ⟨s'', hs'', becomes.registered waker'⟩

/-! ## After the mailbox was closed -/

/-- A call with the request `q` of thread `t`, with the frames `stack`, leaves a closed mailbox behind. -/
inductive Closes (w : World σ ν) (t : ThreadId) (stack : List (Frame σ ν)) : Request → Prop where
  | loop (owner : t = w.task.mailbox.owner) (free : stack.any Frame.isServing = false) : Closes w t stack .loop
  | close (free : stack.any Frame.isServing = false) : Closes w t stack .close
  | closeMailbox : Closes w t stack .closeMailbox

/-- The points of a call that closes the mailbox and gives back what was queued. -/
inductive Surrenders (w : Task σ ν) (base : List (Frame σ ν)) : Thread σ ν → Prop where
  | calling (guarded : Bool) (q : Request) (k : Reply ν → Body σ ν) (stack : List (Frame σ ν))
    (hq : q = .close ∧ stack.any Frame.isServing = false ∨ q = .closeMailbox) (hbase : base = .caller guarded q k :: stack) :
    Surrenders w base ⟨.run (.call guarded q k), stack⟩
  | marking : Surrenders w base ⟨.markClosed .surrender, base⟩
  | surrendering : Surrenders w base ⟨.surrender, base⟩
  | waking (ts : List Ticket) (closed : w.mailbox.status = .closed) : Surrenders w base ⟨.wakeAll (.answer (.mails ts)), base⟩
  | answered (ts : List Ticket) (closed : w.mailbox.status = .closed) : Surrenders w base ⟨.answer (.mails ts), base⟩

/-- Where the call stands does not change while a closed mailbox stays closed. -/
theorem Surrenders.mono {w w' : Task σ ν} (closed : w.mailbox.status = .closed → w'.mailbox.status = .closed)
    (h : Surrenders w base th) : Surrenders w' base th := by
  cases h with
  | calling guarded q k stack hq hbase => exact .calling guarded q k stack hq hbase
  | marking => exact .marking
  | surrendering => exact .surrendering
  | waking ts hc => exact .waking ts (closed hc)
  | answered ts hc => exact .answered ts (closed hc)

/-- Until it is back, a call that closes the mailbox stays at these points, whoever takes the next step. -/
theorem Stepped.surrenders (hs : Stepped a t pick th n b) (away : ¬a.IsBack t base) (h : Surrenders a.task base th) :
    Surrenders b.task base n.2 := by
  have turn := hs.turn
  rw [hs.task]
  cases h with
  | calling guarded q k stack hq hbase =>
    have hstep := hs.step
    subst hbase
    rcases hq with ⟨rfl, free⟩ | rfl
    · have hcall : Thread.call a.task t stack .close = (a.task, .markClosed .surrender) := by
        simp [Thread.call, Thread.exclusive, free]
      simp only [Thread.stepStage, Thread.stepBody, hcall] at hstep
      cases hstep
      exact .marking
    · cases hstep
      exact .surrendering
  | marking => cases turn; exact .surrendering
  | surrendering =>
    cases turn with
    | surrendered => exact .waking _ rfl
    | surrenderedBefore _ was => exact .answered _ was
  | waking ts closed => cases turn; exact .answered ts closed
  | answered ts => exact absurd (.inl ⟨_, hs.thread⟩) away

/-- A call that closes the mailbox has closed it when it returns. -/
theorem Closes.closed {q : Request} {stack : List (Frame σ ν)} (h : w.Closes t stack q) (possible : w.Possible) {guarded : Bool}
    {k : Reply ν → Body σ ν} (call : w.threads[t]? = some ⟨.run (.call guarded q k), stack⟩)
    (during : w.During t (.caller guarded q k :: stack) b) {r : Reply ν}
    (back : b.threads[t]? = some ⟨.answer r, .caller guarded q k :: stack⟩) : b.task.mailbox.status = .closed := by
  by_cases hq : q = .close ∧ stack.any Frame.isServing = false ∨ q = .closeMailbox
  · have surrenders : ∃ th, b.threads[t]? = some th ∧ Surrenders b.task (.caller guarded q k :: stack) th := by
      refine during.invariant (P := fun x => ∃ th, x.threads[t]? = some th ∧ Surrenders x.task (.caller guarded q k :: stack) th)
        ⟨_, call, .calling guarded q k stack hq rfl⟩ ?_ ?_
      · intro x i pick th n y _ away ⟨th', hth', ih⟩ hs
        by_cases hi : i = t
        · subst hi
          obtain rfl : th = th' := Option.some.inj (hs.thread.symm.trans hth')
          exact ⟨n.2, hs.own, hs.surrenders away ih⟩
        · exact ⟨th', hs.other (Ne.symm hi) hth', ih.mono (Reach.here.step hs.step?_eq).closed⟩
      · intro x i _ ⟨th, hth, ih⟩
        have keep : x.task.mailbox.status = .closed → (x.stirred i).task.mailbox.status = .closed := id
        exact ⟨th, hth, ih.mono keep⟩
    obtain ⟨th, hth, surrenders⟩ := surrenders
    obtain rfl : th = _ := Option.some.inj (hth.symm.trans back)
    cases surrenders with
    | answered ts closed => exact closed
  · cases h with
    | loop owner free =>
      have calling : InLoop w.task w.task.alarms (.caller guarded .loop k :: stack) ⟨.run (.call guarded .loop k), stack⟩ :=
        .calling guarded k stack free rfl ⟨nofun, nofun, (List.append_nil _).symm⟩
      obtain ⟨th, hth, inLoop⟩ := during.inLoop possible owner ⟨_, call, calling⟩
      obtain rfl : th = _ := Option.some.inj (hth.symm.trans back)
      cases inLoop.looping_of_base with
      | leaving out => cases out
      | done known | failed _ known => exact known.mailbox rfl
    | close free => exact absurd (.inl ⟨rfl, free⟩) hq
    | closeMailbox => exact absurd (.inr rfl) hq

/-! ## The whole -/

/-- What a handle says of itself and what becomes of its mail go together. -/
structure NoOrphan (w : World σ ν) : Prop where
  /-- Every handle has its mail, and is pending just while that mail is alive, for whoever polls it and for whoever asks politely. -/
  alive : ∀ (h : HandleId) s, w.task.slots[h]? = some s → ∃ m, w.ledger.Offered m ∧ m.handle? = some h ∧
    (s.ask = .pending ↔ w.Alive m) ∧ (s.tryResult.1 = none ↔ w.Alive m)
  /-- No two mails share a handle. -/
  own : ∀ m m' h, w.ledger.Offered m → w.ledger.Offered m' → m.handle? = some h → m'.handle? = some h → m = m'
  /-- After a call of the main loop, or one that closes the mailbox, has returned, somebody holds the mail of every handle that is
  pending. -/
  held : ∀ t guarded q k stack b r, w.Closes t stack q → w.threads[t]? = some ⟨.run (.call guarded q k), stack⟩ →
    w.During t (.caller guarded q k :: stack) b → b.threads[t]? = some ⟨.answer r, .caller guarded q k :: stack⟩ →
    ∀ c, b.Reach c → ∀ (h : HandleId) s, c.task.slots[h]? = some s → s.ask = .pending →
      ∃ m, c.ledger.Offered m ∧ m.handle? = some h ∧ c.Held m
  /-- The handle of a mail that was dropped unrun says closed. -/
  dropped : ∀ m h s, w.ledger.Offered m → m.handle? = some h → .dropped m.ticket ∈ w.task.journal → w.task.slots[h]? = some s →
    s.outcome = some (.error .closed)
  /-- A waker that a poll has left is there from then on, or a later one is. -/
  registered : ∀ (h : HandleId) s, w.task.slots[h]? = some s → s.waker.isSome = true →
    ∀ b, w.Reach b → ∃ s', b.task.slots[h]? = some s' ∧ s'.waker.isSome = true
  /-- The step with which a handle stops being pending wakes it. -/
  woken : ∀ (h : HandleId) s, w.task.slots[h]? = some s → s.ask = .pending → s.waker.isSome = true →
    ∀ t pick b s', w.step? t pick = some b → b.task.slots[h]? = some s' → s'.ask ≠ .pending → s'.waker = some true
  /-- So it has been woken if there is an outcome that was not given yet, and not if the handle is pending. -/
  waker : ∀ (h : HandleId) s, w.task.slots[h]? = some s → s.waker.isSome = true → s.spent = false →
    (s.waker = some true ↔ s.ask ≠ .pending)

/-- A handle that did not give its outcome is pending if it has none. -/
theorem ask_eq_pending_iff (known : s.spent = true → s.outcome ≠ none) : s.ask = .pending ↔ s.outcome = none := by
  refine ⟨Slot.outcome_of_pending, fun pending => ?_⟩
  cases hspent : s.spent with
  | true => exact absurd pending (known hspent)
  | false => simp [Slot.ask, hspent, pending]

/-- A handle has nothing to give just while it has no outcome. -/
theorem tryResult_eq_none_iff (known : s.spent = true → s.outcome ≠ none) : s.tryResult.1 = none ↔ s.outcome = none := by
  cases hspent : s.spent with
  | true => simpa [Slot.tryResult, hspent] using known hspent
  | false => cases houtcome : s.outcome <;> simp [Slot.tryResult, hspent, houtcome]

/-- Behind every slot there is a mail, and the slot has no outcome just while that mail is alive. -/
theorem Possible.pending_iff (possible : w.Possible) (slot : w.task.slots[h]? = some s) :
    ∃ m, w.ledger.Offered m ∧ m.handle? = some h ∧ (s.outcome = none ↔ w.Alive m) := by
  obtain ⟨m, hm, hh⟩ := possible.owned h (List.getElem?_eq_some_iff.mp slot).1
  exact ⟨m, hm, hh, (possible.good.pending_iff hm hh slot).trans (alive_iff hh)⟩

end World

/-- No handle is orphaned, under any order of steps. -/
theorem no_orphan {w : World σ ν} (possible : w.Possible) : w.NoOrphan := by
  have known : ∀ {x : World σ ν} {h : HandleId} {s : Slot ν}, x.Possible → x.task.slots[h]? = some s → s.spent = true → s.outcome ≠ none :=
    fun hx slot spent => hx.good.known_of_spent slot spent
  refine ⟨?_, ?_, ?_, ?_, ?_, ?_, ?_⟩
  · intro h s slot
    obtain ⟨m, hm, hh, alive⟩ := possible.pending_iff slot
    exact ⟨m, hm, hh, (World.ask_eq_pending_iff (known possible slot)).trans alive,
      (World.tryResult_eq_none_iff (known possible slot)).trans alive⟩
  · exact possible.good.sound.handle_inj
  · intro t guarded q k stack b r closes call during back c reach h s slot pending
    have hb : b.Possible := possible.reach during.reach
    have hc : c.Possible := hb.reach reach
    have closed := reach.closed (closes.closed possible call during back)
    obtain ⟨m, hm, hh, alive⟩ := hc.pending_iff slot
    rcases alive.mp (Slot.outcome_of_pending pending) with queued | held
    · rw [Task.queued, hc.orderly.empty closed] at queued
      cases queued
    · exact ⟨m, hm, hh, held⟩
  · intro m h s hm hh dropped slot
    obtain ⟨s', slot', outcome⟩ := possible.good.sound.closed_of_dropped hm hh dropped
    rwa [Option.some.inj (slot.symm.trans slot')]
  · exact fun h s slot waker b reach => reach.registered slot waker
  · intro h s slot pending waker t pick b s' step slot' given
    obtain ⟨th, n, hs⟩ := World.step?_eq_some step
    have hb : b.Possible := possible.reach (World.Reach.here.step step)
    obtain ⟨x, hx, becomes⟩ := hs.turn.slots.old h s slot
    rw [← hs.task] at hx
    obtain rfl : s' = x := Option.some.inj (slot'.symm.trans hx)
    refine becomes.wakes (Slot.outcome_of_pending pending) (fun none => given ?_) waker
    exact (World.ask_eq_pending_iff (known hb slot')).mpr none
  · intro h s slot waker unspent
    have attentive := possible.attentive h s slot
    rw [ne_eq, World.ask_eq_pending_iff (known possible slot)]
    constructor
    · exact fun woken pending => attentive.asleep pending woken
    · intro outcome
      obtain ⟨x, hx⟩ := Option.isSome_iff_exists.mp waker
      cases x with
      | true => exact hx
      | false => exact absurd hx (attentive.woken outcome unspent)

/-- A task whose only thread submits a mail, polls its handle, closes the mailbox and drops the mail that it is given back. -/
def polledThenDropped : World Unit Nat :=
  .start (.new ⟨2⟩ 0 none (fun _ => .finish (.returned 0)) ())
    [.submit ⟨"seven", []⟩ 0 (.finish (.returned 7)) fun _ => .call false (.poll 0) fun _ =>
      .call false .closeMailbox fun _ => .call false (.discard 0) fun _ => .finish (.returned 0)]

/-- The mail is in hand and its handle pending; the next step drops it, and the waker of the poll is woken. -/
theorem no_orphan_of_polledThenDropped : ∃ w b : World Unit Nat, polledThenDropped.moves (List.replicate 9 (.step 0 0)) = some w ∧
    w.task.slots[0]? = some { waker := some false } ∧ w.NoOrphan ∧ w.step? 0 0 = some b ∧
    b.task.slots[0]? = some { outcome := some (.error .closed), waker := some true } := by
  refine ⟨_, _, rfl, rfl, no_orphan ?_, rfl, rfl⟩
  have possible : polledThenDropped.Possible := ⟨⟨2⟩, 0, none, _, (), _, .here⟩
  exact possible.reach (.of_moves (List.replicate 9 (.step 0 0)) rfl)

end Mailroom
