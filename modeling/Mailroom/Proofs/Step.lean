import Mailroom.Proofs.Task
import Mailroom.Thread.Step

/-!
# What a step can do

The operations of a mailbox, requests and steps, read backwards: what must have been the case, and what has become of it. Later
proofs go through the cases that stand here and do not open the functions again. `Called` says what a request comes to, `Ended` what
the end of a body comes to, and `Turn` what a step comes to. A turn adds frames on top or takes off the innermost one (`Turn.stack`).
-/

namespace Mailroom

/-! ## Operations of a mailbox -/

namespace Mailbox

variable {α : Type} {b : Mailbox α}

/-- Mail is accepted while the mailbox accepts mail and has room. -/
theorem offer_eq_accepted {sender : ThreadId} {m : Mail α} {pick : Nat} {after : Mailbox α} {displaced : Option (Mail α)}
    (h : b.offer sender m pick = .accepted after displaced) : b.status = .accepting ∧ b.isFull = false ∧
      after = { b with lanes := b.lanes.push m, takers := wakeOne pick b.takers } ∧ displaced = b.lanes.displaced m := by
  unfold offer at h
  split at h
  · cases h
  · cases h
  · rename_i hs
    split at h
    · rename_i hf
      cases h
      exact ⟨hs, by simpa using hf, rfl, rfl⟩
    · split at h
      · cases h
      · cases h

/-- A sender falls asleep while the mailbox accepts mail but is full, and only if it is not the mailbox thread. -/
theorem offer_eq_waiting {sender : ThreadId} {m : Mail α} {pick : Nat} {after : Mailbox α}
    (h : b.offer sender m pick = .waiting after) : b.status = .accepting ∧ b.isFull = true ∧ sender ≠ b.owner ∧
      after = { b with senders := b.senders ++ [sender] } := by
  unfold offer at h
  split at h
  · cases h
  · cases h
  · rename_i hs
    split at h
    · cases h
    · rename_i hf
      split at h
      · cases h
      · rename_i ho
        cases h
        exact ⟨hs, by simpa using hf, ho, rfl⟩

/-- Mail is taken out of the lanes, and the mailbox is not closed. -/
theorem take_eq_mail {choice : Choice} {pick : Nat} {m : Mail α} {after : Mailbox α} (h : b.take choice pick = .mail m after) :
    b.status ≠ .closed ∧ ∃ l, b.lanes.pop choice = some (m, l) ∧
      after = { b with lanes := l, senders := wakeOne pick b.senders } := by
  unfold take at h
  split at h
  · cases h
  · rename_i hs
    split at h
    · rename_i m' l hp
      cases h
      exact ⟨hs, l, hp, rfl⟩
    · cases h

/-- Only a closed mailbox says that it is closed. -/
theorem take_eq_closed {choice : Choice} {pick : Nat} (h : b.take choice pick = .closed) : b.status = .closed := by
  unfold take at h
  split at h
  · assumption
  · split at h
    · cases h
    · cases h

/-- A take finds nothing in a mailbox that is not closed where there is nothing it may take. -/
theorem take_eq_nothing {choice : Choice} {pick : Nat} (h : b.take choice pick = .nothing) :
    b.status ≠ .closed ∧ b.lanes.pop choice = none := by
  unfold take at h
  split at h
  · cases h
  · rename_i hs
    split at h
    · cases h
    · rename_i hp
      exact ⟨hs, hp⟩

/-- Only a mailbox that accepts mail is quiesced, and nothing else of it changes. -/
theorem quiesce_eq_some {after : Mailbox α} (h : b.quiesce = some after) :
    b.status = .accepting ∧ after = { b with status := .quiesced } := by
  unfold quiesce at h
  split at h
  · rename_i hs
    cases h
    exact ⟨hs, rfl⟩
  · cases h

/-- A mailbox that is not quiesced by this did not accept mail any more. -/
theorem quiesce_eq_none (h : b.quiesce = none) : b.status ≠ .accepting := by
  unfold quiesce at h
  split at h
  · cases h
  · assumption

/-- A mailbox that is closed was not closed before, and gives back all that was queued. -/
theorem close_eq_some {after : Mailbox α} {ms : List (Mail α)} (h : b.close = some (after, ms)) :
    b.status ≠ .closed ∧ after = { b with status := .closed, lanes := b.lanes.cleared } ∧ ms = b.lanes.toList := by
  unfold close at h
  split at h
  · cases h
  · rename_i hs
    cases h
    exact ⟨hs, rfl, rfl⟩

/-- A mailbox is closed only once. -/
theorem close_eq_none (h : b.close = none) : b.status = .closed := by
  unfold close at h
  split at h
  · assumption
  · cases h

end Mailbox

variable {σ ν : Type}

namespace Thread

/-! ## Requests -/

/-- What a request of thread `me` comes to: the task, and the stage that the call leads to. `stack` holds the frames below. -/
inductive Called (w : Task σ ν) (me : ThreadId) (stack : List (Frame σ ν)) : Request → Task σ ν × Stage σ ν → Prop where
  /-- An answer, and nothing has changed. -/
  | answered (q : Request) (r : Reply ν) : Called w me stack q (w, .answer r)
  | taking (choice : Choice) (patient : Bool) (owner : me = w.mailbox.owner) :
    Called w me stack (.take choice patient) (w, .take choice patient .hold)
  | yielding (p : Priority) (patient : Bool) (owner : me = w.mailbox.owner) :
    Called w me stack (.yield p patient) (w, .take (.eligible p) patient .yield)
  | running (t : Ticket) (m : Letter σ ν) (held : w.held? t = some m) : Called w me stack (.run t) (w.letGo t, .launch m false)
  | discarding (t : Ticket) (m : Letter σ ν) (held : w.held? t = some m) :
    Called w me stack (.discard t) ((w.letGo t).drop m, .answer .done)
  | puttingBack (t : Ticket) (m : Letter σ ν) (held : w.held? t = some m) :
    Called w me stack (.putBack t) ((w.letGo t).propose m me, .offer m false .plain)
  | displaying (t : Ticket) (m : Letter σ ν) (held : w.held? t = some m) :
    Called w me stack (.display t) ((w.log (.viewed t)).render t m.description, .answer (.text m.description.display))
  | quiescingMailbox : Called w me stack .quiesceMailbox (w, .quiesceMailbox)
  | closingMailbox : Called w me stack .closeMailbox (w, .surrender)
  | quiescing (q : Request) : Called w me stack q (w, .quiesceTask)
  | reporting (e : Failure) : Called w me stack (.report e) (w, .lockReport e)
  | closing (free : stack.any Frame.isServing = false) : Called w me stack .close (w, .markClosed .surrender)
  | looping (owner : me = w.mailbox.owner) (free : stack.any Frame.isServing = false) : Called w me stack .loop (w, .consult)
  | stepping (owner : me = w.mailbox.owner) (free : stack.any Frame.isServing = false) :
    Called w me stack .step (w, .take .oldest false .step)
  /-- A handle gives an outcome to somebody who asks politely. -/
  | telling (h : HandleId) (s after : Slot ν) (o : Outcome ν) (slot : w.slots[h]? = some s) (told : s.tryResult = (some o, after)) :
    Called w me stack (.tryResult h) ((w.updateSlot h fun _ => after).log (.told h o), .answer (.outcome (some o)))
  | waiting (h : HandleId) (s : Slot ν) (slot : w.slots[h]? = some s) : Called w me stack (.wait h) (w, .await h)
  | watching (h : HandleId) (s : Slot ν) (slot : w.slots[h]? = some s) (pending : s.ask = .pending) :
    Called w me stack (.poll h) (w.updateSlot h Slot.watch, .answer (.outcome none))
  | polling (h : HandleId) (s after : Slot ν) (o : Outcome ν) (slot : w.slots[h]? = some s) (told : s.ask = .ready o after) :
    Called w me stack (.poll h) ((w.updateSlot h fun _ => after.watch).log (.told h o), .answer (.outcome (some o)))
  | misusing (h : HandleId) (s : Slot ν) (slot : w.slots[h]? = some s) (spent : s.ask = .misused) :
    Called w me stack (.poll h) (w, .unwind Slot.misuse)
  | cancelling (h : HandleId) (s : Slot ν) (slot : w.slots[h]? = some s) :
    Called w me stack (.cancel h) ((w.updateSlot h Slot.cancel).log (.cancelled h), .answer .done)
  /-- Only the default action itself suspends its work. -/
  | suspending (own : stack.head?.any Frame.isDefault = true) : Called w me stack .suspend (callSuspend w)
  | resuming (s : SuspensionId) : Called w me stack (.resume s)
      ({ w with processor := { w.processor with suspended := false } }.log (.resumed s), .answer .done)
  /-- The default action is resumed from elsewhere, and a mail goes out to wake the mailbox thread. -/
  | rousing (s : SuspensionId) (suspended : w.processor.suspended = true) (other : me ≠ w.mailbox.owner) :
    Called w me stack (.resume s)
      (({ w with processor := { w.processor with suspended := false } }.log (.resumed s)).stamp.propose
        (w.letter wakeUp .nothing) me, .offer (w.letter wakeUp .nothing) false .silent)
  | interrupting (q : Request) (raised : Bool) :
    Called w me stack q ({ w with processor := { w.processor with interrupted := raised } }, .answer .done)

/-- What only the mailbox thread may do goes on in that thread, and is refused by its name in any other. -/
theorem onDuty_cases (w : Task σ ν) (me : ThreadId) (duty : Duty) (next : Stage σ ν) :
    onDuty w me duty next = next ∨ onDuty w me duty next = .answer (.failed (.wrongThread duty)) := by
  unfold onDuty
  split
  · exact .inl rfl
  · exact .inr rfl

/-- In the mailbox thread, with no main loop or step under way, a call of the main loop begins. -/
theorem call_loop {w : Task σ ν} {me : ThreadId} {stack : List (Frame σ ν)} (owner : me = w.mailbox.owner)
    (free : stack.any Frame.isServing = false) : call w me stack .loop = (w, .consult) := by
  simp [call, onDuty, exclusive, owner, free]

/-- Only the mailbox thread goes on. -/
theorem called_onDuty {w : Task σ ν} {me : ThreadId} {stack : List (Frame σ ν)} {q : Request} {duty : Duty} {next : Stage σ ν}
    (h : me = w.mailbox.owner → Called w me stack q (w, next)) : Called w me stack q (w, onDuty w me duty next) := by
  unfold onDuty
  split
  · exact h ‹_›
  · exact .answered ..

/-- What must not begin inside a main loop or a step begins where none is under way, and is answered at once elsewhere. -/
theorem called_exclusive {w : Task σ ν} {me : ThreadId} {stack : List (Frame σ ν)} {q : Request} {next : Stage σ ν}
    (h : stack.any Frame.isServing = false → Called w me stack q (w, next)) : Called w me stack q (w, exclusive stack next) := by
  unfold exclusive
  split
  · exact .answered ..
  · rename_i hfree
    exact h (by simpa using hfree)

/-- A request for a mail in hand finds it there, or is answered at once. -/
theorem called_withHeld {w : Task σ ν} {me : ThreadId} {stack : List (Frame σ ν)} {q : Request} {t : Ticket}
    {f : Letter σ ν → Task σ ν × Stage σ ν} (h : ∀ m, w.held? t = some m → Called w me stack q (f m)) :
    Called w me stack q (withHeld w t f) := by
  unfold withHeld
  split
  · exact h _ ‹_›
  · exact .answered ..

/-- A request to a handle finds its slot, or is answered at once. -/
theorem called_withSlot {w : Task σ ν} {me : ThreadId} {stack : List (Frame σ ν)} {q : Request} {h : HandleId}
    {f : Slot ν → Task σ ν × Stage σ ν} (hf : ∀ s, w.slots[h]? = some s → Called w me stack q (f s)) :
    Called w me stack q (withSlot w h f) := by
  unfold withSlot
  split
  · exact hf _ ‹_›
  · exact .answered ..

/-- A handle that is asked politely gives its outcome, or says that there is none yet. -/
theorem called_callTry {w : Task σ ν} {me : ThreadId} {stack : List (Frame σ ν)} {h : HandleId} {s : Slot ν}
    (slot : w.slots[h]? = some s) : Called w me stack (.tryResult h) (callTry w h s) := by
  unfold callTry
  split
  · exact .answered ..
  · rename_i o after ht
    exact .telling h s after o slot ht

/-- A poll leaves a waker behind, or has the outcome, or meets a handle that gave it before. -/
theorem called_callPoll {w : Task σ ν} {me : ThreadId} {stack : List (Frame σ ν)} {h : HandleId} {s : Slot ν}
    (slot : w.slots[h]? = some s) : Called w me stack (.poll h) (callPoll w h s) := by
  unfold callPoll
  split
  · exact .watching h s slot ‹_›
  · rename_i o after ha
    exact .polling h s after o slot ha
  · exact .misusing h s slot ‹_›

/-- Whoever resumes lifts the suspension; a mail goes out to wake the mailbox thread if another thread does so. -/
theorem called_callResume (w : Task σ ν) (me : ThreadId) (stack : List (Frame σ ν)) (s : SuspensionId) :
    Called w me stack (.resume s) (callResume w me s) := by
  unfold callResume
  split
  · rename_i h
    obtain ⟨hsuspended, hother⟩ : w.processor.suspended = true ∧ me ≠ w.mailbox.owner := by simpa using h
    exact .rousing s hsuspended hother
  · exact .resuming s

/-- What only the default action may ask for is refused to all others. -/
theorem called_fromDefault {w : Task σ ν} {me : ThreadId} {stack : List (Frame σ ν)} {q : Request}
    {next : Task σ ν × Stage σ ν} (h : stack.head?.any Frame.isDefault = true → Called w me stack q next) :
    Called w me stack q (fromDefault w stack next) := by
  unfold fromDefault
  split
  · exact h ‹_›
  · exact .answered ..

/-- The cases that `Called` lists are all there are. -/
theorem called_call (w : Task σ ν) (me : ThreadId) (stack : List (Frame σ ν)) (q : Request) :
    Called w me stack q (call w me stack q) := by
  cases q with
  | take choice patient => exact called_onDuty fun h => .taking choice patient h
  | yield p patient => exact called_onDuty fun h => .yielding p patient h
  | run t => exact called_withHeld fun m hm => .running t m hm
  | discard t => exact called_withHeld fun m hm => .discarding t m hm
  | putBack t => exact called_withHeld fun m hm => .puttingBack t m hm
  | display t => exact called_withHeld fun m hm => .displaying t m hm
  | look t => exact called_withHeld fun m _ => .answered _ _
  | quiesceMailbox => exact .quiescingMailbox
  | closeMailbox => exact .closingMailbox
  | quiesce => exact .quiescing _
  | report e => exact .reporting e
  | close => exact called_exclusive fun hf => .closing hf
  | loop => exact called_onDuty fun h => called_exclusive fun hf => .looping h hf
  | step => exact called_onDuty fun h => called_exclusive fun hf => .stepping h hf
  | tryResult h => exact called_withSlot fun s hs => called_callTry hs
  | wait h => exact called_withSlot fun s hs => .waiting h s hs
  | poll h => exact called_withSlot fun s hs => called_callPoll hs
  | woken h => exact called_withSlot fun s _ => .answered _ _
  | cancel h => exact called_withSlot fun s hs => .cancelling h s hs
  | isCancelled h => exact called_withSlot fun s _ => .answered _ _
  | suspend => exact called_fromDefault .suspending
  | complete => exact called_fromDefault fun _ => .quiescing _
  | resume s => exact called_callResume w me stack s
  | isSuspended => exact .answered _ _
  | raise => exact .interrupting _ true
  | clear => exact .interrupting _ false
  | isInterrupted => exact .answered _ _
  | inspect => exact .answered _ _
  | formatted => exact .answered _ _

/-! ## Steps -/

/-- How the end of a body reaches the innermost frame. -/
inductive Ended (w : Task σ ν) : Ending ν → List (Frame σ ν) → Next σ ν → Prop where
  | returned (t : Ticket) (d : Description) (caught : Bool) (v : ν) (stack : List (Frame σ ν)) :
    Ended w (.returned v) (.action t d caught :: stack) (w.log (.ended t (.returned v) caught), ⟨.answer .done, stack⟩)
  | failed (t : Ticket) (d : Description) (caught : Bool) (e : Failure) (stack : List (Frame σ ν)) :
    Ended w (.failed e) (.action t d caught :: stack)
      ((w.log (.ended t (.failed e) caught)).render t d, ⟨.answer (.failed (actionFailed d e)), stack⟩)
  | caught (t : Ticket) (d : Description) (p : Payload) (stack : List (Frame σ ν)) :
    Ended w (.panicked p) (.action t d true :: stack)
      ((w.log (.ended t (.panicked p) true)).render t d, ⟨.answer (.failed (actionPanicked d p)), stack⟩)
  | escaped (t : Ticket) (d : Description) (p : Payload) (stack : List (Frame σ ν)) :
    Ended w (.panicked p) (.action t d false :: stack) (w.log (.ended t (.panicked p) false), ⟨.unwind p, stack⟩)
  | captured (h : HandleId) (t : Ticket) (d : Description) (e : Ending ν) (stack : List (Frame σ ν)) :
    Ended w e (.capture h t d :: stack) (endCapture (w.log (.ended t e true)) h t d e, ⟨.answer .done, stack⟩)
  | default (e : Ending ν) (stack : List (Frame σ ν)) : Ended w e (.default :: stack) (w, ⟨endDefault e, stack⟩)
  | handler (why : Failure) (e : Ending ν) (stack : List (Frame σ ν)) :
    Ended w e (.handler why :: stack) (w, ⟨endHandler why e, stack⟩)

/-- The cases that `Ended` lists are all there are. -/
theorem ended_stepEnd {w : Task σ ν} {e : Ending ν} {stack : List (Frame σ ν)} {n : Next σ ν}
    (h : stepEnd w e stack = some n) : Ended w e stack n := by
  unfold stepEnd at h
  split at h
  · rename_i t d caught rest
    cases h
    cases e with
    | returned v => exact .returned t d caught v rest
    | failed e => exact .failed t d caught e rest
    | panicked p =>
      cases caught with
      | true => exact .caught t d p rest
      | false => exact .escaped t d p rest
  · cases h; exact .captured ..
  · cases h; exact .default ..
  · cases h; exact .handler ..
  · cases h

/-- A panic goes through the frame. -/
def LetsThrough : Frame σ ν → Prop
  | .caller false _ _ => True
  | .sender _ => True
  | .yield _ => True
  | .serve _ => True
  | _ => False

/-- One turn of thread `me`, from the frames and the stage where it stands: what it finds, and the task and the thread after it. -/
inductive Turn (w : Task σ ν) (me : ThreadId) (pick : Nat) : List (Frame σ ν) → Stage σ ν → Next σ ν → Prop where
  -- bodies
  | ended {e : Ending ν} {stack : List (Frame σ ν)} {n : Next σ ν} (h : Ended w e stack n) :
    Turn w me pick stack (.run (.finish e)) n
  | read (k : σ → Body σ ν) (stack : List (Frame σ ν)) : Turn w me pick stack (.run (.read k)) (w, ⟨.run (k w.client), stack⟩)
  | wrote (f : σ → σ) (next : Body σ ν) (stack : List (Frame σ ν)) :
    Turn w me pick stack (.run (.write f next)) ({ w with client := f w.client }, ⟨.run next, stack⟩)
  | named (k : ThreadId → Body σ ν) (stack : List (Frame σ ν)) : Turn w me pick stack (.run (.self k)) (w, ⟨.run (k me), stack⟩)
  | paused (next : Body σ ν) (stack : List (Frame σ ν)) : Turn w me pick stack (.run (.pause next)) (w, ⟨.run next, stack⟩)
  | forked (program next : Body σ ν) (stack : List (Frame σ ν)) :
    Turn w me pick stack (.run (.fork program next)) (w, ⟨.run next, stack⟩)
  | posted (envelope : Envelope) (action : Body σ ν) (k : Reply ν → Body σ ν) (stack : List (Frame σ ν)) :
    Turn w me pick stack (.run (.post envelope action k)) (w.stamp.propose (w.letter envelope (.run action)) me,
      ⟨.offer (w.letter envelope (.run action)) false .plain, .sender k :: stack⟩)
  | submitted (description : Description) (priority : Priority) (action : Body σ ν) (k : Reply ν → Body σ ν)
    (stack : List (Frame σ ν)) : Turn w me pick stack (.run (.submit description priority action k))
      (w.stamp.openSlot.propose (w.letter { description, priority } (.capture w.slots.length action)) me,
        ⟨.offer (w.letter { description, priority } (.capture w.slots.length action)) false (.handle w.slots.length),
          .sender k :: stack⟩)
  | called (guarded : Bool) (q : Request) (k : Reply ν → Body σ ν) {stack : List (Frame σ ν)} {n : Task σ ν × Stage σ ν}
    (h : Called w me stack q n) :
    Turn w me pick stack (.run (.call guarded q k)) (n.1, ⟨n.2, .caller guarded q k :: stack⟩)
  -- replies
  | replied (guarded : Bool) (q : Request) (k : Reply ν → Body σ ν) (r : Reply ν) (stack : List (Frame σ ν)) :
    Turn w me pick (.caller guarded q k :: stack) (.answer r) (w, ⟨.run (k r), stack⟩)
  | sent (k : Reply ν → Body σ ν) (r : Reply ν) (stack : List (Frame σ ν)) :
    Turn w me pick (.sender k :: stack) (.answer r) (w, ⟨.run (k r), stack⟩)
  | yielded (patient : Bool) (stack : List (Frame σ ν)) :
    Turn w me pick (.yield patient :: stack) (.answer .done) (w, ⟨.answer (if patient then .done else .flag true), stack⟩)
  | passed (patient : Bool) (r : Reply ν) (stack : List (Frame σ ν)) (other : r ≠ .done) :
    Turn w me pick (.yield patient :: stack) (.answer r) (w, ⟨.answer r, stack⟩)
  | aborted (whole : Bool) (e : Failure) (stack : List (Frame σ ν)) :
    Turn w me pick (.serve whole :: stack) (.answer (.failed e)) (w, ⟨.abort e.toFatal, stack⟩)
  | looped (r : Reply ν) (stack : List (Frame σ ν)) (well : ∀ e, r ≠ .failed e) :
    Turn w me pick (.serve true :: stack) (.answer r) (w, ⟨.consult, stack⟩)
  | stepped (r : Reply ν) (stack : List (Frame σ ν)) (well : ∀ e, r ≠ .failed e) :
    Turn w me pick (.serve false :: stack) (.answer r) (w, ⟨.answer (.flag true), stack⟩)
  -- panics
  | guarded (q : Request) (k : Reply ν → Body σ ν) (p : Payload) (stack : List (Frame σ ν)) :
    Turn w me pick (.caller true q k :: stack) (.unwind p) (w, ⟨.run (k (.panicked p)), stack⟩)
  | unwound {f : Frame σ ν} (through : LetsThrough f) (p : Payload) (stack : List (Frame σ ν)) :
    Turn w me pick (f :: stack) (.unwind p) (w, ⟨.unwind p, stack⟩)
  | broken {p : Payload} {stack : List (Frame σ ν)} {n : Next σ ν} (h : Ended w (.panicked p) stack n) :
    Turn w me pick stack (.unwind p) n
  -- mail in and out
  | accepted (m : Letter σ ν) (slept : Bool) (receipt : Receipt) (stack : List (Frame σ ν))
    (was : w.mailbox.status = .accepting) (room : w.mailbox.isFull = false) : Turn w me pick stack (.offer m slept receipt)
      ((({ w with mailbox := { w.mailbox with
          lanes := w.mailbox.lanes.push m
          takers := Mailbox.wakeOne pick w.mailbox.takers } }.dropDisplaced (w.mailbox.lanes.displaced m)).log (.accepted m me)),
        ⟨.answer (received receipt), stack⟩)
  | refused (m : Letter σ ν) (slept : Bool) (receipt : Receipt) (why : Failure) (stack : List (Frame σ ν))
    (h : w.mailbox.offer me m pick = .refused why) : Turn w me pick stack (.offer m slept receipt)
      ((w.drop m).log (.refused m me), ⟨.answer (turnedAway why receipt), stack⟩)
  | waited (m : Letter σ ν) (slept : Bool) (receipt : Receipt) (stack : List (Frame σ ν)) (was : w.mailbox.status = .accepting)
    (full : w.mailbox.isFull = true) (other : me ≠ w.mailbox.owner) : Turn w me pick stack (.offer m slept receipt)
      ({ w with mailbox := { w.mailbox with senders := w.mailbox.senders ++ [me] } }, ⟨.offer m true receipt, stack⟩)
  | taken (m : Letter σ ν) (choice : Choice) (patient : Bool) (purpose : Purpose) (l : Lanes (Job σ ν)) (stack : List (Frame σ ν))
    (was : w.mailbox.status ≠ .closed) (pop : w.mailbox.lanes.pop choice = some (m, l)) :
    Turn w me pick stack (.take choice patient purpose) (useTaken ({ w with mailbox := { w.mailbox with
        lanes := l
        senders := Mailbox.wakeOne pick w.mailbox.senders } }.log (.taken m choice purpose)) stack m patient purpose)
  | shutOut (choice : Choice) (patient : Bool) (purpose : Purpose) (stack : List (Frame σ ν)) (was : w.mailbox.status = .closed) :
    Turn w me pick stack (.take choice patient purpose) (w, ⟨foundClosed purpose, stack⟩)
  | missed (choice : Choice) (purpose : Purpose) (stack : List (Frame σ ν)) (was : w.mailbox.status ≠ .closed)
    (pop : w.mailbox.lanes.pop choice = none) :
    Turn w me pick stack (.take choice false purpose) (w, ⟨foundNothing purpose, stack⟩)
  | drained (choice : Choice) (purpose : Purpose) (stack : List (Frame σ ν)) (was : w.mailbox.status = .quiesced)
    (pop : w.mailbox.lanes.pop choice = none) :
    Turn w me pick stack (.take choice true purpose) (w, ⟨foundDrained choice purpose, stack⟩)
  | rested (choice : Choice) (purpose : Purpose) (stack : List (Frame σ ν)) (was : w.mailbox.status = .accepting)
    (pop : w.mailbox.lanes.pop choice = none) :
    Turn w me pick stack (.take choice true purpose)
      ({ w with mailbox := w.mailbox.restTaker me }, ⟨.take choice true purpose, stack⟩)
  -- runs
  | rang (m : Letter σ ν) (caught : Bool) (stack : List (Frame σ ν)) (work : m.action.work = .nothing) :
    Turn w me pick stack (.launch m caught) (w, ⟨.answer .done, stack⟩)
  | launched (m : Letter σ ν) (caught : Bool) (b : Body σ ν) (stack : List (Frame σ ν)) (work : m.action.work = .run b) :
    Turn w me pick stack (.launch m caught)
      (w.log (.started m.ticket), ⟨.run b, .action m.ticket m.description caught :: stack⟩)
  | skipped (m : Letter σ ν) (caught : Bool) (h : HandleId) (b : Body σ ν) (s : Slot ν) (stack : List (Frame σ ν))
    (work : m.action.work = .capture h b) (slot : w.slots[h]? = some s) (cancelled : s.cancelled = true) :
    Turn w me pick stack (.launch m caught) (w.skip m, ⟨.answer .done, stack⟩)
  | captured (m : Letter σ ν) (caught : Bool) (h : HandleId) (b : Body σ ν) (stack : List (Frame σ ν))
    (work : m.action.work = .capture h b) (free : ∀ s, w.slots[h]? = some s → s.cancelled = false) :
    Turn w me pick stack (.launch m caught)
      (w.log (.started m.ticket), ⟨.run b, .capture h m.ticket m.description :: stack⟩)
  | served (m : Letter σ ν) (whole : Bool) (stack : List (Frame σ ν)) : Turn w me pick stack (.serve m whole)
      ({ w with processor := { w.processor with processed := w.processor.processed + 1 } },
        ⟨.launch m true, .serve whole :: stack⟩)
  -- the end of a mailbox and of a task
  | quiesced (stack : List (Frame σ ν)) (was : w.mailbox.status = .accepting) : Turn w me pick stack .quiesceMailbox
      ({ w with mailbox := { w.mailbox with status := .quiesced } }, ⟨.wakeAll (.answer .done), stack⟩)
  | quiescedBefore (stack : List (Frame σ ν)) (was : w.mailbox.status ≠ .accepting) :
    Turn w me pick stack .quiesceMailbox (w, ⟨.answer .done, stack⟩)
  | surrendered (stack : List (Frame σ ν)) (was : w.mailbox.status ≠ .closed) : Turn w me pick stack .surrender
      (({ w with mailbox := { w.mailbox with
          status := .closed
          lanes := w.mailbox.lanes.cleared } }.hold w.mailbox.lanes.toList).log (.cleared w.mailbox.lanes.toList),
        ⟨.wakeAll (.answer (.mails (w.mailbox.lanes.toList.map Mail.ticket))), stack⟩)
  | surrenderedBefore (stack : List (Frame σ ν)) (was : w.mailbox.status = .closed) :
    Turn w me pick stack .surrender (w, ⟨.answer (.mails []), stack⟩)
  | shut (next : Stage σ ν) (stack : List (Frame σ ν)) (was : w.mailbox.status ≠ .closed) : Turn w me pick stack (.shut next)
      ({ w with mailbox := { w.mailbox with
          status := .closed
          lanes := w.mailbox.lanes.cleared } }.log (.cleared w.mailbox.lanes.toList),
        ⟨.wakeAll (.drop w.mailbox.lanes.toList next), stack⟩)
  | shutBefore (next : Stage σ ν) (stack : List (Frame σ ν)) (was : w.mailbox.status = .closed) :
    Turn w me pick stack (.shut next) (w, ⟨next, stack⟩)
  | woke (next : Stage σ ν) (stack : List (Frame σ ν)) : Turn w me pick stack (.wakeAll next) (stepWakeAll w, ⟨next, stack⟩)
  | dropped (m : Letter σ ν) (ms : List (Letter σ ν)) (next : Stage σ ν) (stack : List (Frame σ ν)) :
    Turn w me pick stack (.drop (m :: ms) next) (w.drop m, ⟨.drop ms next, stack⟩)
  | disposed (next : Stage σ ν) (stack : List (Frame σ ν)) : Turn w me pick stack (.drop [] next) (w, ⟨next, stack⟩)
  | calmed (stack : List (Frame σ ν)) (was : w.processor.status = .running) : Turn w me pick stack .quiesceTask
      ({ w with processor := { w.processor with status := .quiescing } }, ⟨.quiesceMailbox, stack⟩)
  | calmedBefore (stack : List (Frame σ ν)) (was : w.processor.status ≠ .running) :
    Turn w me pick stack .quiesceTask (w, ⟨.answer .done, stack⟩)
  | locked (e : Failure) (stack : List (Frame σ ν)) (free : w.processor.reportLock = none) : Turn w me pick stack (.lockReport e)
      ({ w with processor := { w.processor with reportLock := some me } }, ⟨.fileReport e, stack⟩)
  | filed (e : Failure) (stack : List (Frame σ ν)) (was : w.processor.status ≠ .closed) (first : w.processor.report = none) :
    Turn w me pick stack (.fileReport e) ({ w with processor := { w.processor with
        reportLock := none
        report := some e } }.log (.reported e), ⟨.markClosed (.shut (.answer .done)), stack⟩)
  | ignored (e : Failure) (stack : List (Frame σ ν)) (was : w.processor.status = .closed ∨ w.processor.report ≠ none) :
    Turn w me pick stack (.fileReport e)
      ({ w with processor := { w.processor with reportLock := none } }, ⟨.markClosed (.shut (.answer .done)), stack⟩)
  | marked (next : Stage σ ν) (stack : List (Frame σ ν)) : Turn w me pick stack (.markClosed next) (stepMarkClosed w, ⟨next, stack⟩)
  -- the main loop
  | willing (stack : List (Frame σ ν)) (work : w.processor.defaultAction.isSome = true) (free : w.processor.suspended = false) :
    Turn w me pick stack .consult (w, ⟨.consultStatus, stack⟩)
  | idle (stack : List (Frame σ ν)) (none : w.processor.defaultAction = none ∨ w.processor.suspended = true) :
    Turn w me pick stack .consult (w, ⟨.take .oldest true .loop, stack⟩)
  | consulted (stack : List (Frame σ ν)) : Turn w me pick stack .consultStatus (w, ⟨stepConsultStatus w, stack⟩)
  | defaulted (b : Body σ ν) (stack : List (Frame σ ν)) (work : w.processor.defaultAction = some b) :
    Turn w me pick stack .callDefault (w.log .defaultCalled, ⟨.run b, .default :: stack⟩)
  | vacant (stack : List (Frame σ ν)) (none : w.processor.defaultAction = none) :
    Turn w me pick stack .callDefault (w, ⟨.consult, stack⟩)
  | collected (e : Failure) (stack : List (Frame σ ν)) (free : w.processor.reportLock = none) (report : w.processor.report = some e) :
    Turn w me pick stack .collect ({ w with processor := { w.processor with report := none } }, ⟨.abort (.fatal e), stack⟩)
  | finished (stack : List (Frame σ ν)) (free : w.processor.reportLock = none) (none : w.processor.report = none) :
    Turn w me pick stack .collect (w, ⟨.answer .done, stack⟩)
  | alarmed (e : Failure) (stack : List (Frame σ ν)) : Turn w me pick stack (.alarm e)
      (w.log (.alarmed e), ⟨.run (w.processor.handler e), .handler e :: stack⟩)
  | awaited (h : HandleId) (s after : Slot ν) (o : Outcome ν) (stack : List (Frame σ ν)) (slot : w.slots[h]? = some s)
    (told : s.ask = .ready o after) : Turn w me pick stack (.await h)
      ((w.updateSlot h fun _ => after).log (.told h o), ⟨.answer (.outcome (some o)), stack⟩)
  | misused (h : HandleId) (s : Slot ν) (stack : List (Frame σ ν)) (slot : w.slots[h]? = some s) (spent : s.ask = .misused) :
    Turn w me pick stack (.await h) (w, ⟨.unwind Slot.misuse, stack⟩)

section

variable {w : Task σ ν} {me : ThreadId} {pick : Nat} {stack : List (Frame σ ν)} {n : Next σ ν}

/-- A body does one thing, or ends, or makes a call. -/
theorem turn_stepBody {b : Body σ ν} (h : stepBody w me stack b = some n) : Turn w me pick stack (.run b) n := by
  cases b with
  | finish e => exact .ended (ended_stepEnd h)
  | call guarded q k => cases h; exact .called guarded q k (called_call w me stack q)
  | read k => cases h; exact .read k stack
  | write f next => cases h; exact .wrote f next stack
  | self k => cases h; exact .named k stack
  | pause next => cases h; exact .paused next stack
  | fork program next => cases h; exact .forked program next stack
  | post envelope action k => cases h; exact .posted envelope action k stack
  | submit description priority action k => cases h; exact .submitted description priority action k stack

/-- A reply goes to the innermost frame, and on the way out of the main loop or a step if it is a failure there. -/
theorem turn_stepAnswer {r : Reply ν} (h : stepAnswer w r stack = some n) : Turn w me pick stack (.answer r) n := by
  unfold stepAnswer at h
  split at h
  · cases h; exact .replied ..
  · cases h; exact .sent ..
  · split at h
    · cases h; exact .yielded ..
    · rename_i hr
      cases h
      exact .passed _ _ _ fun hd => hr hd
  · rename_i whole rest
    split at h
    · cases h; exact .aborted ..
    · rename_i hr
      cases h
      cases whole with
      | true => exact .looped r rest hr
      | false => exact .stepped r rest hr
  · cases h

/-- A panic is caught by the innermost frame, or goes through it, or ends the body that ran under it. -/
theorem turn_stepUnwind {p : Payload} (h : stepUnwind w p stack = some n) : Turn w me pick stack (.unwind p) n := by
  unfold stepUnwind at h
  split at h
  · cases h; exact .guarded ..
  · cases h; exact .unwound (f := .caller false _ _) trivial p _
  · cases h; exact .unwound (f := .sender _) trivial p _
  · cases h; exact .unwound (f := .yield _) trivial p _
  · cases h; exact .unwound (f := .serve _) trivial p _
  · exact .broken (ended_stepEnd h)

/-- A mail that is offered gets in, or is turned away, or has to wait. -/
theorem turn_stepOffer (m : Letter σ ν) (slept : Bool) (receipt : Receipt) :
    Turn w me pick stack (.offer m slept receipt) (stay stack (stepOffer w me pick m receipt)) := by
  unfold stepOffer
  split
  · rename_i after displaced ho
    obtain ⟨hs, hf, rfl, rfl⟩ := Mailbox.offer_eq_accepted ho
    exact .accepted m slept receipt stack hs hf
  · rename_i why ho
    exact .refused m slept receipt why stack ho
  · rename_i after ho
    obtain ⟨hs, hf, howner, rfl⟩ := Mailbox.offer_eq_waiting ho
    exact .waited m slept receipt stack hs hf howner

/-- A take gets a mail, or finds the mailbox closed, or finds nothing; then it gives up, or is told that no mail will come, or waits. -/
theorem turn_stepTake (choice : Choice) (patient : Bool) (purpose : Purpose) :
    Turn w me pick stack (.take choice patient purpose) (stepTake w me pick stack choice patient purpose) := by
  unfold stepTake
  split
  · rename_i m after ht
    obtain ⟨hs, l, hp, rfl⟩ := Mailbox.take_eq_mail ht
    exact .taken m choice patient purpose l stack hs hp
  · rename_i ht
    exact .shutOut choice patient purpose stack (Mailbox.take_eq_closed ht)
  · rename_i ht
    obtain ⟨hs, hp⟩ := Mailbox.take_eq_nothing ht
    cases patient with
    | false => exact .missed choice purpose stack hs hp
    | true =>
      rw [if_neg (by simp)]
      split
      · exact .drained choice purpose stack ‹_› hp
      · rename_i hq
        refine .rested choice purpose stack ?_ hp
        cases h : w.mailbox.status with
        | accepting => rfl
        | quiesced => exact absurd h hq
        | closed => exact absurd h hs

/-- The action of a mail begins, unless the mail has none or was cancelled. -/
theorem turn_stepLaunch (m : Letter σ ν) (caught : Bool) : Turn w me pick stack (.launch m caught) (stepLaunch w stack m caught) := by
  unfold stepLaunch
  split
  · exact .rang m caught stack ‹_›
  · exact .launched m caught _ stack ‹_›
  · rename_i h b hwork
    split
    · rename_i hc
      obtain ⟨s, slot, cancelled⟩ : ∃ s, w.slots[h]? = some s ∧ s.cancelled = true := by simpa [Option.any_eq_true] using hc
      exact .skipped m caught h b s stack hwork slot cancelled
    · rename_i hc
      refine .captured m caught h b stack hwork fun s slot => ?_
      simpa [slot] using hc

/-- The mailbox is quiesced, and then all sleepers are woken, unless it was before. -/
theorem turn_stepQuiesceMailbox : Turn w me pick stack .quiesceMailbox (stay stack (stepQuiesceMailbox w)) := by
  unfold stay stepQuiesceMailbox
  split
  · rename_i after hq
    obtain ⟨hs, rfl⟩ := Mailbox.quiesce_eq_some hq
    exact .quiesced stack hs
  · rename_i hq
    exact .quiescedBefore stack (Mailbox.quiesce_eq_none hq)

/-- The mailbox is closed, and what was queued goes into the hand, unless it was closed before. -/
theorem turn_stepSurrender : Turn w me pick stack .surrender (stay stack (stepSurrender w)) := by
  unfold stay stepSurrender
  split
  · rename_i after ms hc
    obtain ⟨hs, rfl, rfl⟩ := Mailbox.close_eq_some hc
    exact .surrendered stack hs
  · rename_i hc
    exact .surrenderedBefore stack (Mailbox.close_eq_none hc)

/-- The mailbox is closed, and what was queued is to be dropped, unless it was closed before. -/
theorem turn_stepShut (next : Stage σ ν) : Turn w me pick stack (.shut next) (stay stack (stepShut w next)) := by
  unfold stay stepShut
  split
  · rename_i after ms hc
    obtain ⟨hs, rfl, rfl⟩ := Mailbox.close_eq_some hc
    exact .shut next stack hs
  · rename_i hc
    exact .shutBefore next stack (Mailbox.close_eq_none hc)

/-- One mail is dropped, until none is left. -/
theorem turn_stepDrop (ms : List (Letter σ ν)) (next : Stage σ ν) :
    Turn w me pick stack (.drop ms next) (stay stack (stepDrop w next ms)) := by
  cases ms with
  | nil => exact .disposed next stack
  | cons m ms => exact .dropped m ms next stack

/-- The task leaves off running once. -/
theorem turn_stepQuiesceTask : Turn w me pick stack .quiesceTask (stay stack (stepQuiesceTask w)) := by
  unfold stay stepQuiesceTask
  split
  · exact .calmed stack ‹_›
  · exact .calmedBefore stack ‹_›

/-- The lock of the report is taken while it is free. -/
theorem turn_stepLockReport {e : Failure} {x : Task σ ν × Stage σ ν} (h : stepLockReport w me e = some x) :
    Turn w me pick stack (.lockReport e) (stay stack x) := by
  unfold stepLockReport at h
  split at h
  · cases h
  · rename_i hfree
    cases h
    exact .locked e stack (by simpa using hfree)

/-- A report is kept if it is the first and the task is not closed, and the lock is free again in any case. -/
theorem turn_stepFileReport (e : Failure) : Turn w me pick stack (.fileReport e) (stay stack (stepFileReport w e)) := by
  unfold stay stepFileReport
  split
  · rename_i hc
    obtain ⟨hs, hr⟩ : w.processor.status ≠ .closed ∧ w.processor.report = none := by simpa using hc
    exact .filed e stack hs hr
  · rename_i hc
    refine .ignored e stack ?_
    by_cases hs : w.processor.status = .closed
    · exact .inl hs
    · exact .inr (by simpa [hs] using hc)

/-- The main loop goes on to look at the task if there is default work that is not suspended, and waits for mail otherwise. -/
theorem turn_stepConsult : Turn w me pick stack .consult (stay stack (w, stepConsult w)) := by
  unfold stay stepConsult
  split
  · rename_i hc
    obtain ⟨hwork, hfree⟩ : w.processor.defaultAction.isSome = true ∧ w.processor.suspended = false := by simpa using hc
    exact .willing stack hwork hfree
  · rename_i hc
    refine .idle stack ?_
    cases hd : w.processor.defaultAction with
    | none => exact .inl rfl
    | some b => exact .inr (by simpa [hd] using hc)

/-- The default action is called if there is one. -/
theorem turn_stepCallDefault : Turn w me pick stack .callDefault (stepCallDefault w stack) := by
  unfold stepCallDefault
  split
  · exact .defaulted _ stack ‹_›
  · exact .vacant stack ‹_›

/-- The main loop collects the report if there is one, and has come to a good end otherwise. -/
theorem turn_stepCollect {x : Task σ ν × Stage σ ν} (h : stepCollect w = some x) :
    Turn w me pick stack .collect (stay stack x) := by
  unfold stepCollect at h
  split at h
  · cases h
  · rename_i hlock
    have hfree : w.processor.reportLock = none := by simpa using hlock
    split at h
    · cases h
      exact .collected _ stack hfree ‹_›
    · cases h
      exact .finished stack hfree ‹_›

/-- Whoever waits for a handle gets the outcome, or has asked once too often. -/
theorem turn_stepAwait {i : HandleId} {x : Task σ ν × Stage σ ν} (h : stepAwait w i = some x) :
    Turn w me pick stack (.await i) (stay stack x) := by
  unfold stepAwait at h
  split at h
  · cases h
  · rename_i s slot
    split at h
    · cases h
    · cases h
      exact .awaited i s _ _ stack slot ‹_›
    · cases h
      exact .misused i s stack slot ‹_›

/-- The turns that are listed are all there are. -/
theorem turn_stepStage {stage : Stage σ ν} (h : stepStage w me pick stack stage = some n) : Turn w me pick stack stage n := by
  cases stage with
  | run b => exact turn_stepBody h
  | answer r => exact turn_stepAnswer h
  | unwind p => exact turn_stepUnwind h
  | offer m slept receipt => cases h; exact turn_stepOffer m slept receipt
  | take choice patient purpose => cases h; exact turn_stepTake choice patient purpose
  | launch m caught => cases h; exact turn_stepLaunch m caught
  | serve m whole => cases h; exact .served m whole stack
  | quiesceMailbox => cases h; exact turn_stepQuiesceMailbox
  | surrender => cases h; exact turn_stepSurrender
  | shut next => cases h; exact turn_stepShut next
  | wakeAll next => cases h; exact .woke next stack
  | drop ms next => cases h; exact turn_stepDrop ms next
  | quiesceTask => cases h; exact turn_stepQuiesceTask
  | lockReport e =>
    obtain ⟨x, hx, rfl⟩ := Option.map_eq_some_iff.mp h
    exact turn_stepLockReport hx
  | fileReport e => cases h; exact turn_stepFileReport e
  | markClosed next => cases h; exact .marked next stack
  | consult => cases h; exact turn_stepConsult
  | consultStatus => cases h; exact .consulted stack
  | callDefault => cases h; exact turn_stepCallDefault
  | collect =>
    obtain ⟨x, hx, rfl⟩ := Option.map_eq_some_iff.mp h
    exact turn_stepCollect hx
  | alarm e => cases h; exact .alarmed e stack
  | await i =>
    obtain ⟨x, hx, rfl⟩ := Option.map_eq_some_iff.mp h
    exact turn_stepAwait hx

end

/-! ## Frames -/

/-- The end of a body takes off the frame it reaches. -/
theorem Ended.stack {w : Task σ ν} {e : Ending ν} {stack : List (Frame σ ν)} {n : Next σ ν} (h : Ended w e stack n) :
    ∃ f, stack = f :: n.2.stack := by
  cases h <;> exact ⟨_, rfl⟩

/-- The stage hands something to the innermost frame: a reply, a panic or the end of a body. -/
def IsReturning : Stage σ ν → Prop
  | .answer _ => True
  | .unwind _ => True
  | .run (.finish _) => True
  | _ => False

/-- A turn adds frames on top, or hands something to the innermost one and takes it off; the frames below stay as they are. -/
theorem Turn.stack {w : Task σ ν} {me : ThreadId} {pick : Nat} {stack : List (Frame σ ν)} {stage : Stage σ ν} {n : Next σ ν}
    (h : Turn w me pick stack stage n) :
    (∃ pre, n.2.stack = pre ++ stack) ∨ (IsReturning stage ∧ ∃ f, stack = f :: n.2.stack) := by
  cases h with
  | ended h | broken h => exact .inr ⟨trivial, h.stack⟩
  | replied | sent | yielded | passed | aborted | looped | stepped | guarded | unwound => exact .inr ⟨trivial, _, rfl⟩
  | taken m choice patient purpose =>
    cases purpose with
    | yield => exact .inl ⟨[_], rfl⟩
    | hold | step | loop => exact .inl ⟨[], rfl⟩
  | posted | submitted | called | launched | captured | served | defaulted | alarmed => exact .inl ⟨[_], rfl⟩
  | _ => exact .inl ⟨[], rfl⟩

/-- A frame stays where it is while something runs above it, until something is handed to it. -/
theorem Turn.stack_above {w : Task σ ν} {me : ThreadId} {pick : Nat} {above base : List (Frame σ ν)} {f : Frame σ ν}
    {stage : Stage σ ν} {n : Next σ ν} (h : Turn w me pick (above ++ f :: base) stage n) :
    (∃ above', n.2.stack = above' ++ f :: base) ∨ (above = [] ∧ IsReturning stage) := by
  rcases h.stack with ⟨pre, hpre⟩ | ⟨hreturning, g, hg⟩
  · exact .inl ⟨pre ++ above, by rw [hpre, List.append_assoc]⟩
  · cases above with
    | nil => exact .inr ⟨rfl, hreturning⟩
    | cons f' above => exact .inl ⟨above, (List.cons.inj hg).2.symm⟩

end Thread

end Mailroom
