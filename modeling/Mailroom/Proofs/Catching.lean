import Mathlib.Data.List.Flatten
import Mailroom.Proofs.Nesting
import Mailroom.Proofs.Sweeping

/-!
# Who catches a panic

When an action ends the journal says how, and whether a panic was caught (`Turn.shows`). A panic is caught if the mail was submitted, and
else exactly if the main loop or a step took the mail to run it (`Possible.caught_iff`). What decides is known long before: from the moment
at which the mail is taken the thread knows whether it will catch a panic, and mail that waits has nobody who would (`Guarded`).
-/

namespace Mailroom

variable {σ ν : Type}

/-- The end is a failure, or a panic that was caught. -/
def Ending.isFailure (caught : Bool) : Ending ν → Bool
  | .returned _ => false
  | .failed _ => true
  | .panicked _ => caught

/-- The entry tells of a description, or of the end of an action. -/
def Occurrence.isShowing : Occurrence σ ν → Bool
  | viewed _ => true
  | rendered .. => true
  | ended .. => true
  | _ => false

namespace Task

/-- The entries of the journal that tell of descriptions and of the ends of actions, latest first. -/
def showings (w : Task σ ν) : List (Occurrence σ ν) := w.journal.filter (·.isShowing)

/-- The main loop or a step took the mail, to run it. -/
def Serves (w : Task σ ν) (t : Ticket) : Prop := ∃ taking ∈ w.taken, taking.1.ticket = t ∧ taking.2.counts = 1

/-- An entry that tells of something else leaves what is told of descriptions and ends. -/
theorem showings_log (w : Task σ ν) {e : Occurrence σ ν} (h : e.isShowing = false) : (w.log e).showings = w.showings := by
  simp [showings, h]

/-- A mail that is dropped unread shows nothing. -/
theorem showings_drop (w : Task σ ν) (m : Letter σ ν) : (w.drop m).showings = w.showings := by
  simp [showings, Occurrence.isShowing]

theorem showings_dropDisplaced (w : Task σ ν) (m? : Option (Letter σ ν)) : (w.dropDisplaced m?).showings = w.showings := by
  cases m? with
  | none => rfl
  | some m => exact w.showings_drop m

end Task

/-! ## What one turn writes of descriptions -/

namespace Thread

/-- What a turn from the frames `stack` writes of descriptions and of the ends of actions: a description that somebody asked for, or the
end of an action with the description of its mail if that is a failure. -/
inductive Shows (w : Task σ ν) (stack : List (Frame σ ν)) (w' : Task σ ν) : Prop where
  | nothing (showings : w'.showings = w.showings)
  | viewed (m : Letter σ ν) (held : m ∈ w.hand)
    (journal : w'.journal = .rendered m.ticket m.description.formatted :: .viewed m.ticket :: w.journal)
  | ended (g : Tag) (how : Ending ν) (caught : Bool) (rest : List (Frame σ ν)) (frame : stack = g.frame caught :: rest)
    (journal : w'.journal = (if how.isFailure caught then [.rendered g.ticket g.description.formatted] else []) ++
      .ended g.ticket how caught :: w.journal)

variable {w : Task σ ν} {me : ThreadId} {pick : Nat} {stack : List (Frame σ ν)} {stage : Stage σ ν} {n : Next σ ν}

/-- A body that calls asks for a description at most, and that of a mail in its hand. -/
theorem Called.shows {q : Request} {n : Task σ ν × Stage σ ν} (h : Called w me stack q n) (base : List (Frame σ ν)) :
    Shows w base n.1 := by
  cases h with
  | discarding t m held => exact .nothing (Task.showings_drop _ m)
  | displaying t m held =>
    obtain ⟨hand, rfl⟩ := Task.hand_perm_of_held? held
    exact .viewed m (hand.mem_iff.mpr List.mem_cons_self) rfl
  | _ => exact .nothing rfl

/-- The end of an action is noted, and with it the description of the mail if that is a failure. -/
theorem Ended.shows {e : Ending ν} (h : Ended w e stack n) : Shows w stack n.1 := by
  cases h with
  | returned t d caught v rest => exact .ended ⟨t, d, none⟩ (.returned v) caught rest rfl rfl
  | failed t d caught e rest => exact .ended ⟨t, d, none⟩ (.failed e) caught rest rfl rfl
  | caught t d p rest => exact .ended ⟨t, d, none⟩ (.panicked p) true rest rfl rfl
  | escaped t d p rest => exact .ended ⟨t, d, none⟩ (.panicked p) false rest rfl rfl
  | captured h t d e rest =>
    refine .ended ⟨t, d, some h⟩ e true rest rfl ?_
    cases e with
    | returned | failed | panicked => rfl
  | default | handler => exact .nothing rfl

/-- Whatever a thread does in its turn, it shows one thing at most. -/
theorem Turn.shows (h : Turn w me pick stack stage n) : Shows w stack n.1 := by
  cases h with
  | ended h | broken h => exact h.shows
  | called guarded q k h => exact h.shows stack
  | accepted m => exact .nothing ((Task.showings_log _ rfl).trans (Task.showings_dropDisplaced ..))
  | refused m => exact .nothing ((Task.showings_log _ rfl).trans (w.showings_drop m))
  | dropped m => exact .nothing (w.showings_drop m)
  | skipped m => exact .nothing (by simp [Task.showings, Occurrence.isShowing])
  | taken m choice patient purpose =>
    cases purpose with
    | hold | yield | step | loop => exact .nothing rfl
  | _ => exact .nothing rfl

end Thread

/-! ## Whose panics are caught -/

/-- The mail that a thread is about to offer or to run, with the word whether a panic of its action will be caught. A mail that is offered
has nobody who would. -/
def Stage.guards : Stage σ ν → List (Ticket × Bool)
  | offer m _ _ => [(m.ticket, false)]
  | launch m caught => [(m.ticket, caught)]
  | serve m _ => [(m.ticket, true)]
  | drop _ next => next.guards
  | shut next => next.guards
  | wakeAll next => next.guards
  | markClosed next => next.guards
  | _ => []

/-- The mail whose action runs in a frame, with the word whether a panic will be caught; none, if the mail was submitted. -/
def Frame.guard? : Frame σ ν → Option (Ticket × Bool)
  | action t _ caught => some (t, caught)
  | _ => none

/-- A thread only knows of the panics of mail in its care, and once of each. -/
theorem Stage.guards_sublist : ∀ s : Stage σ ν, (s.guards.map Prod.fst).Sublist (s.letters.map Mail.ticket)
  | offer .. | launch .. | serve .. => .refl _
  | drop ms next => by
    rw [guards, letters, List.map_append]
    exact next.guards_sublist.trans (List.sublist_append_right ..)
  | shut next | wakeAll next | markClosed next => next.guards_sublist
  | run _ | answer _ | unwind _ | take .. | quiesceMailbox | surrender | quiesceTask | lockReport _ | fileReport _ | consult
  | consultStatus | callDefault | collect | alarm _ | await _ => .refl _

/-- The same for the frames: each mail whose action runs is told of once. -/
theorem Frame.guards_sublist (stack : List (Frame σ ν)) :
    ((stack.filterMap Frame.guard?).map Prod.fst).Sublist ((stack.filterMap Frame.tag?).map Tag.ticket) := by
  induction stack with
  | nil => exact .refl _
  | cons f stack ih =>
    cases f with
    | action t d caught => exact ih.cons_cons t
    | capture h t d => exact ih.cons t
    | _ => exact ih

/-- What a task and one of its threads know of the panics of mail: of the mail in the thread's care and the mail that it runs, and of the
mail that waits, queued or in hand, and has nobody who would catch a panic. -/
def Thread.Guards (w : Task σ ν) (th : Thread σ ν) (x : Ticket × Bool) : Prop :=
  x ∈ th.stage.guards ∨ x ∈ th.stack.filterMap Frame.guard? ∨ ∃ m ∈ w.queued ++ w.hand, x = (m.ticket, false)

namespace Thread

variable {w : Task σ ν} {me : ThreadId} {pick : Nat} {stack : List (Frame σ ν)} {stage : Stage σ ν} {n : Next σ ν} {x : Ticket × Bool}

/-- The thread knows no more of its own, and no mail waits that did not wait before. -/
theorem Guards.mono {w' : Task σ ν} {th th' : Thread σ ν} (h : Guards w' th' x) (stage : ∀ x ∈ th'.stage.guards, x ∈ th.stage.guards)
    (stack : ∀ x ∈ th'.stack.filterMap Frame.guard?, x ∈ th.stack.filterMap Frame.guard?)
    (waiting : ∀ m ∈ w'.queued ++ w'.hand, m ∈ w.queued ++ w.hand) : Guards w th x := by
  rcases h with h | h | ⟨m, hm, rfl⟩
  · exact .inl (stage x h)
  · exact .inr (.inl (stack x h))
  · exact .inr (.inr ⟨m, waiting m hm, rfl⟩)

/-- What is known after a call was known before it, but for the mail that the call has just made. -/
theorem Called.guards {q : Request} {n : Task σ ν × Stage σ ν} (h : Called w me stack q n) {f : Frame σ ν} (hf : f.guard? = none)
    {b : Body σ ν} (guards : Guards n.1 ⟨n.2, f :: stack⟩ x) : Guards w ⟨.run b, stack⟩ x ∨ x = (w.nextTicket, false) := by
  have frames : x ∈ (f :: stack).filterMap Frame.guard? → x ∈ stack.filterMap Frame.guard? := by
    rw [List.filterMap_cons_none hf]
    exact id
  -- A mail that was in hand has left it, and nobody would have caught its panic.
  have fromHand : ∀ {t m}, w.held? t = some m → x ∈ [(m.ticket, false)] ∨ (∃ m ∈ w.queued ++ (w.letGo t).hand, x = (m.ticket, false)) →
      ∃ m ∈ w.queued ++ w.hand, x = (m.ticket, false) := by
    intro t m held here
    have hand := (Task.hand_perm_of_held? held).1
    rcases here with here | ⟨m', hm', rfl⟩
    · exact ⟨m, List.mem_append_right _ (hand.mem_iff.mpr List.mem_cons_self), List.mem_singleton.mp here⟩
    · refine ⟨m', ?_, rfl⟩
      rcases List.mem_append.mp hm' with hm' | hm'
      · exact List.mem_append_left _ hm'
      · exact List.mem_append_right _ (hand.mem_iff.mpr (List.mem_cons_of_mem _ hm'))
  cases h with
  | running t m held | puttingBack t m held =>
    rcases guards with here | here | here
    · exact .inl (.inr (.inr (fromHand held (.inl here))))
    · exact .inl (.inr (.inl (frames here)))
    · exact .inl (.inr (.inr (fromHand held (.inr here))))
  | discarding t m held =>
    rcases guards with here | here | here
    · cases here
    · exact .inl (.inr (.inl (frames here)))
    · exact .inl (.inr (.inr (fromHand held (.inr (by simpa [Task.queued] using here)))))
  | rousing s =>
    rcases guards with here | here | here
    · exact .inr (List.mem_singleton.mp here)
    · exact .inl (.inr (.inl (frames here)))
    · exact .inl (.inr (.inr here))
  | _ => exact .inl (guards.imp id (.imp_left frames))

/-- The end of an action makes nothing known that was not known before. -/
theorem Ended.guards {e : Ending ν} (h : Ended w e stack n) (guards : n.2.Guards n.1 x) : Guards w ⟨stage, stack⟩ x := by
  cases h with
  | returned | failed | caught | escaped =>
    exact .inr ((guards.resolve_left List.not_mem_nil).imp_left (List.mem_cons_of_mem _))
  | captured _ _ _ e | default e | handler _ e =>
    cases e with
    | returned | failed | panicked => exact .inr (guards.resolve_left List.not_mem_nil)

/-- A turn issues a mail, or takes one to serve it, or knows nothing new of panics. -/
theorem Turn.guards (hw : w.mailbox.Orderly) (h : Turn w me pick stack stage n) (guards : n.2.Guards n.1 x) :
    Guards w ⟨stage, stack⟩ x ∨ x = (w.nextTicket, false) ∨ ∃ m choice purpose, Purpose.counts purpose = 1 ∧
      n.1.journal = .taken m choice purpose :: w.journal ∧ x = (m.ticket, true) := by
  cases h with
  | ended h | broken h => exact .inl (h.guards guards)
  | called guarded q k h => exact (h.guards rfl guards).imp_right .inl
  | posted | submitted =>
    rcases guards with here | here
    · exact .inr (.inl (List.mem_singleton.mp here))
    · exact .inl (.inr here)
  | @unwound f through =>
    have plain : f.guard? = none := by
      cases f with
      | action => cases through
      | _ => rfl
    refine .inl (guards.mono (fun _ => id) (fun x hx => ?_) fun _ => id)
    rw [List.filterMap_cons_none plain]
    exact hx
  | accepted m slept receipt stack =>
    rcases guards.resolve_left List.not_mem_nil with here | ⟨m', hm', rfl⟩
    · exact .inl (.inr (.inl here))
    · have waits : m' ∈ (w.mailbox.lanes.push m).toList ∨ m' ∈ w.hand := by simpa [Task.queued] using hm'
      rcases waits with waits | waits
      · have pushed := (Lanes.toList_push_perm hw.wellFormed m).subset (List.mem_append_left _ waits)
        rcases List.mem_cons.mp pushed with rfl | waits
        · exact .inl (.inl (List.mem_singleton_self _))
        · exact .inl (.inr (.inr ⟨m', List.mem_append_left _ waits, rfl⟩))
      · exact .inl (.inr (.inr ⟨m', List.mem_append_right _ waits, rfl⟩))
  | refused m slept receipt why stack =>
    exact .inl (guards.mono (fun _ h => by cases h) (fun _ => id) (by simp [Task.queued]))
  | taken m choice patient purpose l stack was pop =>
    have queue := Thread.perm_of_pop hw.wellFormed pop
    have mine : m ∈ w.queued ++ w.hand := List.mem_append_left _ (queue.mem_iff.mpr List.mem_cons_self)
    have waiting : ∀ m' ∈ l.toList ++ w.hand, m' ∈ w.queued ++ w.hand := by
      intro m' hm'
      exact List.mem_append.mpr ((List.mem_append.mp hm').imp_left fun here => queue.mem_iff.mpr (List.mem_cons_of_mem _ here))
    have others : x ∈ stack.filterMap Frame.guard? ∨ (∃ m ∈ l.toList ++ w.hand, x = (m.ticket, false)) →
        Guards w ⟨.take choice patient purpose, stack⟩ x := fun here =>
      .inr (here.imp_right fun old => old.imp fun m' hm' => hm'.imp_left (waiting m'))
    cases purpose with
    | hold =>
      rcases guards.resolve_left List.not_mem_nil with here | ⟨m', hm', rfl⟩
      · exact .inl (others (.inl here))
      · have hm' : m' ∈ (l.toList ++ w.hand) ++ [m] := by simpa [Thread.useTaken, Task.queued, Task.hold] using hm'
        rcases List.mem_append.mp hm' with hm' | hm'
        · exact .inl (others (.inr ⟨m', hm', rfl⟩))
        · exact .inl (.inr (.inr ⟨m, mine, by rw [List.mem_singleton.mp hm']⟩))
    | yield =>
      rcases guards with here | here
      · exact .inl (.inr (.inr ⟨m, mine, List.mem_singleton.mp here⟩))
      · exact .inl (others here)
    | step | loop =>
      rcases guards with here | here
      · exact .inr (.inr ⟨m, choice, _, rfl, rfl, List.mem_singleton.mp here⟩)
      · exact .inl (others here)
  | surrendered stack =>
    refine .inl (guards.mono (fun _ => id) (fun _ => id) fun m hm => ?_)
    have hm : m ∈ w.mailbox.lanes.cleared.toList ++ (w.hand ++ w.mailbox.lanes.toList) := hm
    rw [Lanes.toList_cleared, List.nil_append] at hm
    exact List.perm_append_comm.subset hm
  | shut next stack =>
    refine .inl (guards.mono (fun _ => id) (fun _ => id) fun m hm => ?_)
    have hm : m ∈ w.mailbox.lanes.cleared.toList ++ w.hand := hm
    rw [Lanes.toList_cleared, List.nil_append] at hm
    exact List.mem_append_right _ hm
  | dropped m => exact .inl (guards.mono (fun _ => id) (fun _ => id) (by simp [Task.queued]))
  | skipped => exact .inl (guards.mono (fun _ h => by cases h) (fun _ => id) (by simp [Task.queued]))
  | shutOut choice patient purpose | missed choice purpose =>
    cases purpose with
    | hold | yield | step | loop => exact .inl guards
  | drained choice purpose =>
    cases choice with
    | oldest =>
      cases purpose with
      | hold | yield | step | loop => exact .inl guards
    | eligible p => exact .inl guards
  | rang | captured => exact .inl (.inr (guards.resolve_left List.not_mem_nil))
  | launched m caught b =>
    rcases guards.resolve_left List.not_mem_nil with here | here
    · rcases List.mem_cons.mp here with rfl | here
      · exact .inl (.inl (List.mem_singleton_self _))
      · exact .inl (.inr (.inl here))
    · exact .inl (.inr (.inr here))
  | _ => exact .inl guards

end Thread

namespace World

variable {a b w : World σ ν} {t : ThreadId} {pick : Nat} {th : Thread σ ν} {n : Next σ ν} {m : Letter σ ν} {how : Ending ν}
variable {caught : Bool} {x : Ticket × Bool}

/-- What all threads and the task know of the panics of mail. -/
def guards (w : World σ ν) : List (Ticket × Bool) :=
  w.threads.flatMap (·.stage.guards) ++ (w.task.queued ++ w.task.hand).map (fun m => (m.ticket, false)) ++
    w.threads.flatMap (·.stack.filterMap Frame.guard?)

/-- What is known, sorted by who knows it: a thread, or the task of the mail that waits. -/
theorem mem_guards : x ∈ w.guards ↔ (∃ th ∈ w.threads, x ∈ th.stage.guards ∨ x ∈ th.stack.filterMap Frame.guard?) ∨
    ∃ m ∈ w.task.queued ++ w.task.hand, x = (m.ticket, false) := by
  rw [guards, List.mem_append, List.mem_append, List.mem_flatMap, List.mem_flatMap, List.mem_map]
  simp only [and_or_left, exists_or, eq_comm (a := x)]
  exact or_right_comm

/-- What a thread knows is known. -/
theorem mem_guards_of_thread (hx : w.threads[t]? = some th) (h : th.Guards w.task x) : x ∈ w.guards := by
  have mem := List.mem_of_getElem? hx
  rcases h with h | h | h
  · exact mem_guards.mpr (.inl ⟨th, mem, .inl h⟩)
  · exact mem_guards.mpr (.inl ⟨th, mem, .inr h⟩)
  · exact mem_guards.mpr (.inr h)

/-- A mail has one place, so there is one answer for it. -/
theorem Possible.guards_nodup (possible : w.Possible) : (w.guards.map Prod.fst).Nodup := by
  refine List.Sublist.nodup ?_ possible.good.sound.distinct
  have waiting : ((w.task.queued ++ w.task.hand).map fun m => (m.ticket, false)).map Prod.fst =
      (w.task.mailbox.lanes.toList ++ w.task.hand).map Mail.ticket := List.map_map
  rw [guards, List.map_append, List.map_append, List.map_flatMap, List.map_flatMap, waiting]
  simp only [ledger, Task.ledger, List.map_append, List.map_flatMap]
  refine .append (.append (.flatMap_right _ fun th _ => th.stage.guards_sublist) (.refl _)) (.flatMap_right _ fun th _ => ?_)
  exact Frame.guards_sublist th.stack

/-- The only steps that let something new be known make a mail, or take one for the main loop or a step. -/
theorem Stepped.guards (hs : Stepped a t pick th n b) (orderly : a.task.mailbox.Orderly) (h : x ∈ b.guards) :
    x ∈ a.guards ∨ x = (a.task.nextTicket, false) ∨ x.2 = true ∧ b.task.Serves x.1 := by
  have own : n.2.Guards b.task x → x ∈ a.guards ∨ x = (a.task.nextTicket, false) ∨ x.2 = true ∧ b.task.Serves x.1 := by
    intro here
    rw [hs.task] at here ⊢
    rcases hs.turn.guards orderly here with before | fresh | ⟨m, choice, purpose, counts, journal, rfl⟩
    · exact .inl (mem_guards_of_thread hs.thread before)
    · exact .inr (.inl fresh)
    · exact .inr (.inr ⟨rfl, (m, purpose), mem_history.mpr ⟨_, List.mem_filter.mpr ⟨journal ▸ List.mem_cons_self, rfl⟩, rfl⟩, rfl, counts⟩)
  rcases mem_guards.mp h with ⟨y, hy, here⟩ | waiting
  · obtain ⟨i, hi⟩ := List.getElem?_of_mem hy
    rcases hs.thread_cases hi with ⟨-, rfl⟩ | ⟨-, old⟩ | ⟨program, rfl⟩
    · exact own (here.imp_right .inl)
    · exact .inl (mem_guards_of_thread old (here.imp_right .inl))
    · rcases here with here | here <;> cases here
  · exact own (.inr (.inr waiting))

/-- A step takes one mail at most; and who takes it for the main loop or a step knows that a panic will be caught. -/
theorem Stepped.taken_cases (hs : Stepped a t pick th n b) (orderly : a.task.mailbox.Orderly) : b.task.taken = a.task.taken ∨
    ∃ m purpose, m ∈ a.task.queued ∧ b.task.taken = a.task.taken ++ [(m, purpose)] ∧
      (purpose.counts = 1 → (m.ticket, true) ∈ n.2.stage.guards) := by
  obtain ⟨stage, stack⟩ := th
  cases stage with
  | take choice patient purpose =>
    have turn := hs.turn
    have task := hs.task
    cases turn with
    | taken m _ _ _ l _ was pop =>
      refine .inr ⟨m, purpose, (Thread.perm_of_pop orderly.wellFormed pop).mem_iff.mpr List.mem_cons_self, ?_, fun counts => ?_⟩
      · rw [Task.taken, task]
        cases purpose with
        | hold | yield | step | loop => exact history_cons_of_some (b := (m, _)) rfl _
      · cases purpose with
        | hold | yield => cases counts
        | step | loop => exact List.mem_singleton_self _
    | shutOut | missed | drained | rested => exact .inl ((congrArg Task.taken task).trans rfl)
  | _ => exact .inl (hs.taken_same rfl)

/-- Mail that the main loop or a step takes waited in the queue, and the thread that takes it knows of it. -/
theorem Stepped.serves_cases {t' : Ticket} (hs : Stepped a t pick th n b) (orderly : a.task.mailbox.Orderly) (h : b.task.Serves t') :
    a.task.Serves t' ∨ ∃ m ∈ a.task.queued, m.ticket = t' ∧ (t', true) ∈ n.2.stage.guards := by
  obtain ⟨taking, mem, ticket, counts⟩ := h
  rcases hs.taken_cases orderly with taken | ⟨m, purpose, queued, taken, knows⟩
  · exact .inl ⟨taking, taken ▸ mem, ticket, counts⟩
  · rw [taken, List.mem_append, List.mem_singleton] at mem
    rcases mem with before | rfl
    · exact .inl ⟨taking, before, ticket, counts⟩
    · exact .inr ⟨m, queued, ticket, ticket ▸ knows counts⟩

/-- Mail that was taken to be run stays so. -/
theorem Stepped.serves {t' : Ticket} (hs : Stepped a t pick th n b) (h : a.task.Serves t') : b.task.Serves t' :=
  h.imp fun _ taking => ⟨((Reach.here.step hs.step?_eq).history_grows Occurrence.taking?).subset taking.1, taking.2⟩

/-- An action that has ended did so in this step, and the step takes no mail, or before. -/
theorem Stepped.ended_cases {t' : Ticket} (hs : Stepped a t pick th n b) (h : .ended t' how caught ∈ b.task.journal) :
    .ended t' how caught ∈ a.task.journal ∨
      ∃ (g : Tag) (rest : List (Frame σ ν)), g.ticket = t' ∧ th.stack = g.frame caught :: rest ∧ b.task.taken = a.task.taken := by
  have shows := hs.turn.shows
  rw [← hs.task] at shows
  cases shows with
  | nothing showings =>
    have here : .ended t' how caught ∈ b.task.showings := List.mem_filter.mpr ⟨h, rfl⟩
    rw [showings] at here
    exact .inl (List.mem_filter.mp here).1
  | viewed m held journal =>
    rw [journal] at h
    exact .inl (by simpa using h)
  | ended g how' caught' rest frame journal =>
    have taken : b.task.taken = a.task.taken := by
      rw [Task.taken, Task.traffic, journal]
      split <;> rfl
    rw [journal, List.mem_append, List.mem_cons] at h
    rcases h with rendered | now | before
    · split at rendered
      · cases List.mem_singleton.mp rendered
      · cases rendered
    · cases now
      exact .inr ⟨g, rest, rfl, frame, taken⟩
    · exact .inl before

/-- A panic of a mail's action is caught, or would be, exactly if the main loop or a step took the mail; the mail that was submitted is left
aside. -/
structure Guarded (w : World σ ν) : Prop where
  agree : ∀ x ∈ w.guards, x.2 = true ↔ w.task.Serves x.1
  ended : ∀ m how caught, w.ledger.Offered m → m.handle? = none → .ended m.ticket how caught ∈ w.task.journal →
    (caught = true ↔ w.task.Serves m.ticket)
  issued : ∀ t, w.task.Serves t → ∃ m, w.ledger.Offered m ∧ m.ticket = t

/-- Mail whose action has ended was offered before that. -/
theorem Possible.offered_of_ended (possible : w.Possible) {t' : Ticket} (h : .ended t' how caught ∈ w.task.journal) :
    ∃ m, w.ledger.Offered m ∧ m.ticket = t' := by
  by_contra none
  have past := possible.good.sound.fresh t' fun m hm same => none ⟨m, hm, same⟩
  exact List.ne_nil_of_mem ((Ledger.mem_life (a := w.ledger) rfl).mpr h) past

/-- What the threads know of panics is right, in every world that is possible. -/
theorem Possible.guarded (possible : w.Possible) : Guarded w := by
  refine possible.invariant ?_ ?_ fun _ ih => ⟨ih.agree, ih.ended, ih.issued⟩
  · intro config owner defaultAction handler client programs
    have quiet : (start (.new config owner defaultAction handler client) programs).guards = [] := by
      simp [guards, start, Thread.start, Stage.guards, Task.new, Task.queued, Mailbox.new, Lanes.toList_empty]
    refine ⟨fun x hx => ?_, fun _ _ _ _ _ h => (List.not_mem_nil h).elim, fun t serves => ?_⟩
    · rw [quiet] at hx
      cases hx
    · obtain ⟨taking, h, -⟩ := serves
      cases h
  · intro a t pick th n b possible ih hs
    have orderly := possible.orderly
    have sound := possible.good.sound
    have step : a.Reach b := Reach.here.step hs.step?_eq
    have possible' : b.Possible := possible.reach step
    have kept : ∀ m, a.ledger.Offered m → b.ledger.Offered m := fun _ => step.offered possible
    have offered : ∀ m ∈ a.task.queued, a.ledger.Offered m := fun m hm =>
      sound.offered m (List.mem_append_right _ (List.mem_append_left _ hm))
    have issued : ∀ t, b.task.Serves t → ∃ m, a.ledger.Offered m ∧ m.ticket = t := by
      intro t serves
      rcases hs.serves_cases orderly serves with before | ⟨m, hm, ticket, -⟩
      · exact ih.issued t before
      · exact ⟨m, offered m hm, ticket⟩
    refine ⟨fun x hx => ?_, fun m how caught hm plain ended => ?_, fun t serves => ?_⟩
    · rcases hs.guards orderly hx with old | rfl | ⟨yes, serves⟩
      · refine ⟨fun yes => hs.serves ((ih.agree x old).mp yes), fun serves => ?_⟩
        rcases hs.serves_cases orderly serves with before | ⟨m, -, -, own⟩
        · exact (ih.agree x old).mpr before
        · -- The thread that took the mail just now knows of it, and there is only one answer.
          have taken : (x.1, true) ∈ b.guards := mem_guards_of_thread hs.own (.inl own)
          rw [List.inj_on_of_nodup_map possible'.guards_nodup hx taken rfl]
      · refine ⟨fun no => absurd no Bool.false_ne_true, fun serves => ?_⟩
        obtain ⟨m, hm, ticket⟩ := issued _ serves
        exact absurd ticket (Nat.ne_of_lt (sound.issued m hm))
      · exact iff_of_true yes serves
    · rcases hs.ended_cases ended with before | ⟨g, rest, ticket, frame, taken⟩
      · obtain ⟨m', hm', ticket⟩ := possible.offered_of_ended before
        obtain rfl := possible'.good.sound.ticket_inj m' m (kept m' hm') hm ticket
        refine (ih.ended m' how caught hm' plain before).trans ⟨hs.serves, fun serves => ?_⟩
        refine (hs.serves_cases orderly serves).resolve_right fun now => ?_
        obtain ⟨m, queued, ticket, -⟩ := now
        obtain rfl := sound.ticket_inj m m' (offered m queued) hm' ticket
        exact (possible.life_of_ended hm' before).1 (List.mem_append_right _ (List.mem_append_left _ queued))
      · obtain ⟨m', hm', rfl⟩ := possible.offered_of_frame hs.thread (frame ▸ List.mem_cons_self)
        obtain rfl := possible'.good.sound.ticket_inj m' m (kept m' hm') hm ticket
        rw [Tag.frame_of_none plain] at frame
        have running : (m'.ticket, caught) ∈ th.stack.filterMap Frame.guard? := by
          rw [frame]
          exact List.mem_cons_self
        rw [Task.Serves, taken]
        exact ih.agree _ (mem_guards_of_thread hs.thread (.inr (.inl running)))
    · exact (issued t serves).imp fun m hm => ⟨kept m hm.1, hm.2⟩

/-- A panic is caught if the mail was submitted, or if the main loop or a step took it. -/
theorem Possible.caught_iff (possible : w.Possible) (offered : w.ledger.Offered m)
    (ended : .ended m.ticket how caught ∈ w.task.journal) : caught = true ↔ m.handle? ≠ none ∨ w.task.Serves m.ticket := by
  by_cases plain : m.handle? = none
  · rw [possible.guarded.ended m how caught offered plain ended, or_iff_right (not_not_intro plain)]
  · obtain ⟨-, -, submitted⟩ := possible.life_of_ended offered ended
    exact iff_of_true (submitted plain) (.inl plain)

end World

end Mailroom
