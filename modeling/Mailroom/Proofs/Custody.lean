import Mailroom.Proofs.Ledger
import Mailroom.Proofs.Traffic

/-!
# Every turn is a few entries in the ledger

The mail of a world is queued, in hand, or in the care of a thread that is about to offer, begin or drop it, or its action runs
(`World.ledger`). Each turn of a thread changes that by entries of the ledger (`Turn.keeps`), so whatever entries keep holds of every
world that is possible (`Possible.good`).
-/

namespace Mailroom

variable {σ ν : Type}

/-- The mail that a thread is about to offer, begin, run or drop. -/
def Stage.letters : Stage σ ν → List (Letter σ ν)
  | offer m _ _ => [m]
  | launch m _ => [m]
  | serve m _ => [m]
  | drop ms next => ms ++ next.letters
  | shut next => next.letters
  | wakeAll next => next.letters
  | markClosed next => next.letters
  | _ => []

/-- The mail whose action runs in a frame. -/
def Frame.tag? : Frame σ ν → Option Tag
  | action t d _ => some ⟨t, d, none⟩
  | capture h t d => some ⟨t, d, some h⟩
  | _ => none

/-- The ledger of a task, with the mail that threads have in their care and the mail whose actions run. -/
def Task.ledger (w : Task σ ν) (alive : List (Letter σ ν)) (running : List Tag) : Ledger σ ν where
  alive := alive ++ (w.mailbox.lanes.toList ++ w.hand)
  running := running
  slots := w.slots
  nextTicket := w.nextTicket
  journal := w.journal

def World.ledger (w : World σ ν) : Ledger σ ν :=
  w.task.ledger (w.threads.flatMap fun th => th.stage.letters) (w.threads.flatMap fun th => th.stack.filterMap Frame.tag?)

open Ledger

namespace Task

variable {w : Task σ ν} {alive : List (Letter σ ν)} {running : List Tag}

/-- Mail that only changes hands. -/
theorem entries_of_perm {w' : Task σ ν} {alive' : List (Letter σ ν)}
    (h : (alive ++ (w.mailbox.lanes.toList ++ w.hand)).Perm (alive' ++ (w'.mailbox.lanes.toList ++ w'.hand)))
    (slots : w'.slots = w.slots) (next : w'.nextTicket = w.nextTicket) (journal : w'.journal = w.journal) :
    Entries (w.ledger alive running) (w'.ledger alive' running) := by
  have hsort := Entry.sorted (a := w.ledger alive running) _ _ h (List.Perm.refl running)
  refine .of_entry ?_
  unfold ledger at hsort ⊢
  rw [slots, next, journal]
  exact hsort

theorem entries_log {e : Occurrence σ ν} (plain : e.isPlain = true) :
    Entries (w.ledger alive running) ((w.log e).ledger alive running) :=
  .of_entry (.noted e plain)

theorem ledger_forgo (m : Letter σ ν) :
    (w.forgo m).ledger alive running = (w.ledger alive running).settle m.handle? (.error .closed) := by
  unfold forgo
  cases m.handle? with
  | none => rfl
  | some h => rfl

/-- Mail that is dropped. -/
theorem entries_drop (m : Letter σ ν) : Entries (w.ledger (m :: alive) running) ((w.drop m).ledger alive running) := by
  have hdrop := Entry.dropped (a := w.ledger (m :: alive) running) m _ rfl
  refine .of_entry ?_
  have heq : (w.drop m).ledger alive running = ((w.forgo m).ledger alive running).log (.dropped m.ticket) := rfl
  rw [heq, ledger_forgo]
  exact hdrop

theorem entries_dropDisplaced (m? : Option (Letter σ ν)) :
    Entries (w.ledger (m?.toList ++ alive) running) ((w.dropDisplaced m?).ledger alive running) := by
  cases m? with
  | none => exact .none
  | some m => exact entries_drop m

end Task

/-- A mail in hand comes into the care of a thread. -/
theorem perm_of_hand {α : Type} {alive queue hand hand' : List α} {m : α} (h : hand.Perm (m :: hand')) :
    (alive ++ (queue ++ hand)).Perm (m :: alive ++ (queue ++ hand')) := by
  have hq : (queue ++ hand).Perm (m :: (queue ++ hand')) := (h.append_left queue).trans List.perm_middle
  exact (hq.append_left alive).trans List.perm_middle

/-- A queued mail comes into the care of a thread. -/
theorem perm_of_queue {α : Type} {alive queue queue' hand : List α} {m : α} (h : queue.Perm (m :: queue')) :
    (alive ++ (queue ++ hand)).Perm (m :: alive ++ (queue' ++ hand)) :=
  ((h.append_right hand).append_left alive).trans List.perm_middle

namespace Thread

open Mailroom.Task

variable {w : Task σ ν} {me : ThreadId} {pick : Nat} {stack : List (Frame σ ν)} {alive : List (Letter σ ν)} {running : List Tag}

/-! ## Requests -/

/-- What asking a handle politely comes to, if it gives an outcome: the outcome of the slot, unless it was given before. -/
theorem tryResult_eq_some {s after : Slot ν} {o : Outcome ν} (h : s.tryResult = (some o, after)) :
    after = { s with spent := true } ∧ (s.spent = false → s.outcome = some o) := by
  unfold Slot.tryResult at h
  split at h
  · rename_i hs
    cases h
    refine ⟨by rw [← hs], fun hu => ?_⟩
    rw [hs] at hu
    cases hu
  · split at h
    · cases h
    · rename_i ho
      cases h
      exact ⟨rfl, fun _ => ho⟩

/-- What asking a handle for good comes to, if there is an outcome. -/
theorem ask_eq_ready {s after : Slot ν} {o : Outcome ν} (h : s.ask = .ready o after) :
    after = { s with spent := true } ∧ s.outcome = some o := by
  unfold Slot.ask at h
  split at h
  · cases h
  · split at h
    · cases h
    · rename_i ho
      cases h
      exact ⟨rfl, ho⟩

theorem Called.entries {q : Request} {n : Task σ ν × Stage σ ν} (h : Called w me stack q n) :
    Entries (w.ledger alive running) (n.1.ledger (n.2.letters ++ alive) running) := by
  cases h with
  | running t m held => exact entries_of_perm (perm_of_hand (hand_perm_of_held? held).1) rfl rfl rfl
  | discarding t m held =>
    have hsort : Entries (w.ledger alive running) ((w.letGo t).ledger (m :: alive) running) :=
      entries_of_perm (perm_of_hand (hand_perm_of_held? held).1) rfl rfl rfl
    exact hsort.trans (entries_drop m)
  | puttingBack t m held =>
    have hsort : Entries (w.ledger alive running) ((w.letGo t).ledger (m :: alive) running) :=
      entries_of_perm (perm_of_hand (hand_perm_of_held? held).1) rfl rfl rfl
    exact hsort.and (.offered m me List.mem_cons_self)
  | displaying t m held => exact (entries_log (e := .viewed t) rfl).trans (entries_log rfl)
  | telling i s after o slot told =>
    obtain ⟨rfl, first⟩ := tryResult_eq_some told
    exact .of_entry (.told (a := w.ledger alive running) i o s _ slot rfl ⟨rfl, rfl⟩ first)
  | watching i s slot => exact .of_entry (.watched (a := w.ledger alive running) i Slot.watch fun _ => ⟨rfl, rfl, rfl⟩)
  | polling i s after o slot told =>
    obtain ⟨rfl, ho⟩ := ask_eq_ready told
    exact .of_entry (.told (a := w.ledger alive running) i o s _ slot rfl ⟨rfl, rfl⟩ fun _ => ho)
  | cancelling i s slot => exact .of_entry (.cancelled i (List.getElem?_eq_some_iff.mp slot).1)
  | suspending => exact .of_entry (.noted (a := w.ledger alive running) _ rfl)
  | resuming s => exact .of_entry (.noted (a := w.ledger alive running) _ rfl)
  | rousing s =>
    have hlog : Entries (w.ledger alive running) ((w.ledger alive running).log (.resumed s)) := .of_entry (.noted _ rfl)
    exact hlog.and (.issued _ me rfl rfl)
  | _ => exact .none

/-! ## Mail in and out -/

/-- Mail that enters the mailbox may displace mail, which is dropped. -/
theorem perm_of_push {l : Lanes (Job σ ν)} (h : l.WellFormed) (m : Letter σ ν) (hand : List (Letter σ ν)) :
    (m :: alive ++ (l.toList ++ hand)).Perm ((l.displaced m).toList ++ alive ++ ((l.push m).toList ++ hand)) := by
  have hpush := (Lanes.toList_push_perm h m).symm
  classical
  rw [List.perm_iff_count] at hpush ⊢
  intro x
  have hx := hpush x
  simp only [List.count_append, List.count_cons, List.cons_append] at hx ⊢
  omega

/-- A take takes the mail out of the queue. -/
theorem perm_of_pop {l l' : Lanes (Job σ ν)} (h : l.WellFormed) {choice : Choice} {m : Letter σ ν}
    (hp : l.pop choice = some (m, l')) : l.toList.Perm (m :: l'.toList) := by
  obtain ⟨before, after, hl, hl', -⟩ := (Lanes.pop_eq_some h hp).toList h
  rw [hl, hl']
  exact List.perm_middle

/-- Mail that was taken comes into hand. -/
theorem entries_hold (m : Letter σ ν) : Entries (w.ledger (m :: alive) running) ((w.hold [m]).ledger alive running) := by
  refine entries_of_perm ?_ rfl rfl rfl
  have hq : (m :: (w.mailbox.lanes.toList ++ w.hand)).Perm (w.mailbox.lanes.toList ++ (w.hand ++ [m])) := by
    rw [← List.append_assoc]
    exact (List.perm_append_singleton _ _).symm
  exact List.perm_middle.symm.trans (hq.append_left alive)

/-- Mail that is thrown out of the mailbox comes into hand, or is about to be dropped. -/
theorem perm_of_clear (queue next hand : List (Letter σ ν)) :
    (next ++ alive ++ (queue ++ hand)).Perm (queue ++ next ++ alive ++ hand) := by
  classical
  refine List.perm_iff_count.mpr fun x => ?_
  simp only [List.count_append]
  omega

/-! ## Turns -/

/-- The ledger before and after a step of a thread, the rest of the world being as it is. -/
def Keeps (w : Task σ ν) (th : Thread σ ν) (n : Next σ ν) : Prop :=
  ∀ alive running, Entries (w.ledger (th.stage.letters ++ alive) (th.stack.filterMap Frame.tag? ++ running))
    (n.1.ledger (n.2.stage.letters ++ alive) (n.2.stack.filterMap Frame.tag? ++ running))

/-- Frames that let a panic through run nothing. -/
theorem tag?_of_letsThrough {f : Frame σ ν} (h : LetsThrough f) : f.tag? = none := by
  cases f with
  | action | capture => cases h
  | _ => rfl

/-- The end of an action is noted, and the slot behind the handle of the mail, if it has one, is resolved. -/
theorem Ended.keeps {e : Ending ν} {n : Next σ ν} (h : Ended w e stack n) {stage : Stage σ ν} (hstage : stage.letters = []) :
    Keeps w ⟨stage, stack⟩ n := by
  intro alive running
  rw [hstage]
  have plain : ∀ (t : Ticket) (d : Description) (caught : Bool) (running : List Tag),
      Entries (w.ledger alive (⟨t, d, none⟩ :: running)) ((w.log (.ended t e caught)).ledger alive running) :=
    fun t d caught running => .of_entry (.ended (a := w.ledger alive (⟨t, d, none⟩ :: running)) ⟨t, d, none⟩ _ e caught rfl
      fun hn => absurd rfl hn)
  cases h with
  | returned t d caught v rest => exact plain t d caught _
  | failed t d caught e rest => exact (plain t d caught _).trans (entries_log rfl)
  | caught t d p rest => exact (plain t d true _).trans (entries_log rfl)
  | escaped t d p rest => exact plain t d false _
  | captured i t d e rest =>
    have hend := Entry.ended (a := w.ledger alive (⟨t, d, some i⟩ :: (rest.filterMap Frame.tag? ++ running)))
      ⟨t, d, some i⟩ _ e true rfl fun _ => rfl
    cases e with
    | returned v => exact .of_entry hend
    | failed e => exact (Entries.of_entry hend).and (.noted (.rendered t d.formatted) rfl)
    | panicked p => exact (Entries.of_entry hend).and (.noted (.rendered t d.formatted) rfl)
  | default e | handler why e =>
    cases e with
    | returned | failed | panicked => exact .none

/-- A mail whose action begins has the tag of the frame that its run leaves. -/
theorem entries_launch {m : Letter σ ν} {handle? : Option HandleId} (hh : m.handle? = handle?)
    (free : ∀ i s, handle? = some i → w.slots[i]? = some s → s.cancelled = false) :
    Entries (w.ledger (m :: alive) running)
      ((w.log (.started m.ticket)).ledger alive (⟨m.ticket, m.description, handle?⟩ :: running)) := by
  have hbegan := Entry.began (a := w.ledger (m :: alive) running) m _ rfl fun i s hi slot => free i s (hh.symm.trans hi) slot
  rw [Mail.tag, hh] at hbegan
  exact .of_entry hbegan

/-- Every turn is a few entries in the ledger. -/
theorem Turn.keeps (hw : w.mailbox.Orderly) {stage : Stage σ ν} {n : Next σ ν} (h : Turn w me pick stack stage n) :
    Keeps w ⟨stage, stack⟩ n := by
  intro alive running
  cases h with
  | ended h | broken h => exact h.keeps rfl alive running
  | called guarded q k h => exact h.entries
  | posted envelope action k => exact .of_entry (.issued _ me rfl rfl)
  | submitted description priority action k => exact .of_entry (.submitted _ me rfl rfl)
  | unwound through =>
    rw [List.filterMap_cons_none (tag?_of_letsThrough through)]
    exact .none
  | accepted m slept receipt stack =>
    have hsort : Entries (w.ledger (m :: alive) (stack.filterMap Frame.tag? ++ running)) (Task.ledger { w with mailbox := { w.mailbox with
        lanes := w.mailbox.lanes.push m
        takers := Mailbox.wakeOne pick w.mailbox.takers } } ((w.mailbox.lanes.displaced m).toList ++ alive)
          (stack.filterMap Frame.tag? ++ running)) :=
      entries_of_perm (perm_of_push hw.wellFormed m w.hand) rfl rfl rfl
    exact (hsort.trans (entries_dropDisplaced _)).trans (entries_log rfl)
  | refused m => exact (entries_drop m).trans (entries_log rfl)
  | taken m choice patient purpose l stack was pop =>
    have hsort : Entries (w.ledger alive (stack.filterMap Frame.tag? ++ running)) (Task.ledger { w with mailbox := { w.mailbox with
        lanes := l
        senders := Mailbox.wakeOne pick w.mailbox.senders } } (m :: alive) (stack.filterMap Frame.tag? ++ running)) :=
      entries_of_perm (perm_of_queue (perm_of_pop hw.wellFormed pop)) rfl rfl rfl
    have htaken := hsort.trans (entries_log (e := .taken m choice purpose) rfl)
    cases purpose with
    | hold => exact htaken.trans (entries_hold m)
    | yield | step | loop => exact htaken
  | shutOut choice patient purpose | missed choice purpose =>
    cases purpose with
    | hold | yield | step | loop => exact .none
  | drained choice purpose =>
    cases choice with
    | oldest =>
      cases purpose with
      | hold | yield | step | loop => exact .none
    | eligible p => exact .none
  | rang m caught stack work => exact .of_entry (.woke m _ rfl (by simp [Mail.handle?, work]))
  | launched m caught b stack work => exact entries_launch (by simp [Mail.handle?, work]) nofun
  | captured m caught i b stack work free =>
    refine entries_launch (by simp [Mail.handle?, work]) fun j s hj slot => ?_
    cases hj
    exact free s slot
  | skipped m caught i b s stack work slot cancelled =>
    have hh : m.handle? = some i := by simp [Mail.handle?, work]
    have hskip := Entry.skipped (a := w.ledger (m :: alive) (stack.filterMap Frame.tag? ++ running)) m _ rfl i s hh slot cancelled
    have heq : (w.skip m).ledger alive (stack.filterMap Frame.tag? ++ running) =
        ((w.forgo m).ledger alive (stack.filterMap Frame.tag? ++ running)).log (.skipped m.ticket) := rfl
    refine .of_entry ?_
    change Entry _ ((w.skip m).ledger alive (stack.filterMap Frame.tag? ++ running))
    rw [heq, ledger_forgo]
    exact hskip
  | surrendered stack =>
    have hsort : Entries (w.ledger alive (stack.filterMap Frame.tag? ++ running)) ((Task.hold { w with mailbox := { w.mailbox with
        status := .closed
        lanes := w.mailbox.lanes.cleared } } w.mailbox.lanes.toList).ledger alive (stack.filterMap Frame.tag? ++ running)) :=
      entries_of_perm (List.perm_append_comm.append_left alive) rfl rfl rfl
    exact hsort.trans (entries_log rfl)
  | shut next stack =>
    have hsort : Entries (w.ledger (next.letters ++ alive) (stack.filterMap Frame.tag? ++ running)) (Task.ledger { w with
        mailbox := { w.mailbox with
          status := .closed
          lanes := w.mailbox.lanes.cleared } } (w.mailbox.lanes.toList ++ next.letters ++ alive)
            (stack.filterMap Frame.tag? ++ running)) :=
      entries_of_perm (perm_of_clear _ _ _) rfl rfl rfl
    exact hsort.trans (entries_log rfl)
  | dropped m => exact entries_drop m
  | filed => exact .of_entry (.noted _ rfl)
  | defaulted | alarmed => exact entries_log rfl
  | awaited i s after o stack slot told =>
    obtain ⟨rfl, ho⟩ := ask_eq_ready told
    exact .of_entry (.told (a := w.ledger alive _) i o s _ slot rfl ⟨rfl, rfl⟩ fun _ => ho)
  | _ => exact .none

end Thread

/-! ## All threads together -/

namespace World

variable {a b : World σ ν}

theorem Stepped.entries {t : ThreadId} {pick : Nat} {th : Thread σ ν} {n : Next σ ν} (h : Stepped a t pick th n b)
    (ha : a.task.mailbox.Orderly) : Entries a.ledger b.ledger := by
  obtain ⟨alive, ha₁, hb₁⟩ := h.flatMap_perm (fun th => th.stage.letters) fun _ => rfl
  obtain ⟨running, ha₂, hb₂⟩ := h.flatMap_perm (fun th => th.stack.filterMap Frame.tag?) fun _ => rfl
  have before : Entry a.ledger (a.task.ledger (th.stage.letters ++ alive) (th.stack.filterMap Frame.tag? ++ running)) :=
    .sorted _ _ (ha₁.append_right _) ha₂
  have after : Entry (b.task.ledger (n.2.stage.letters ++ alive) (n.2.stack.filterMap Frame.tag? ++ running)) b.ledger :=
    .sorted _ _ (hb₁.symm.append_right _) hb₂.symm
  have step := h.turn.keeps ha alive running
  rw [← h.task] at step
  exact ((Entries.of_entry before).trans step).and after

/-- Whatever entries keep holds of every world that is possible. -/
theorem Possible.good (h : Possible a) : a.ledger.Good := by
  refine h.invariant (P := fun w => w.ledger.Good) ?_ (fun before ih hs => ih.entries (hs.entries before.orderly)) fun _ ih => ih
  intro config owner defaultAction handler client programs
  have halive : (start (.new config owner defaultAction handler client) programs).ledger.alive = [] := by
    simp [ledger, Task.ledger, start, Thread.start, Stage.letters, Task.new, Mailbox.new]
  have hrunning : (start (.new config owner defaultAction handler client) programs).ledger.running = [] := by
    simp [ledger, Task.ledger, start, Thread.start]
  exact good_of_blank halive hrunning rfl rfl

end World

end Mailroom
