import Mailroom.Thread.Basic

/-!
# Calls

The first step of each request. A request that is one access to shared state has its reply at once; any other leads to the first of
its sections. Here stands who may ask for what: only the mailbox thread takes mail, yields and runs the loop or a step; the loop and
a step are not entered from inside themselves; and only the default action itself suspends or completes its work.
-/

namespace Mailroom.Thread

variable {σ ν : Type}

/-- The mail that wakes the mailbox thread when the default action is resumed from elsewhere. -/
def wakeUp : Envelope where
  description := ⟨"resume default action", []⟩
  options := .urgent
  priority := .lowest

/-- The duty that a take has to answer for. -/
def dutyOfTake : Choice → Bool → Duty
  | .oldest, true => .takeOldest
  | .oldest, false => .tryTakeOldest
  | .eligible _, true => .takeEligible
  | .eligible _, false => .tryTakeEligible

/-- The duty that a yield has to answer for. -/
def dutyOfYield (patient : Bool) : Duty := if patient then .yield else .tryYield

/-- Only the mailbox thread goes on; any other is told so. -/
def onDuty (w : Task σ ν) (me : ThreadId) (duty : Duty) (next : Stage σ ν) : Stage σ ν :=
  if me = w.mailbox.owner then next else .answer (.failed (.wrongThread duty))

/-- A call to the processor itself: one at a time, so not from inside the main loop or a step. -/
def exclusive (stack : List (Frame σ ν)) (next : Stage σ ν) : Stage σ ν :=
  if stack.any Frame.isServing then .answer .unavailable else next

/-- What the default action may ask of the loop that called it. -/
def fromDefault (w : Task σ ν) (stack : List (Frame σ ν)) (next : Task σ ν × Stage σ ν) : Task σ ν × Stage σ ν :=
  if stack.head?.any Frame.isDefault then next else (w, .answer .unavailable)

/-- Something done with a mail in hand. -/
def withHeld (w : Task σ ν) (t : Ticket) (f : Letter σ ν → Task σ ν × Stage σ ν) : Task σ ν × Stage σ ν :=
  match w.held? t with
  | some m => f m
  | none => (w, .answer .unavailable)

/-- Something done with the slot of a handle. -/
def withSlot (w : Task σ ν) (h : HandleId) (f : Slot ν → Task σ ν × Stage σ ν) : Task σ ν × Stage σ ν :=
  match w.slots[h]? with
  | some s => f s
  | none => (w, .answer .unavailable)

/-- Asking a handle politely. -/
def callTry (w : Task σ ν) (h : HandleId) (s : Slot ν) : Task σ ν × Stage σ ν :=
  match s.tryResult with
  | (none, _) => (w, .answer (.outcome none))
  | (some o, after) => ((w.updateSlot h fun _ => after).log (.told h o), .answer (.outcome (some o)))

/-- Asking a handle once, with a fresh waker. -/
def callPoll (w : Task σ ν) (h : HandleId) (s : Slot ν) : Task σ ν × Stage σ ν :=
  match s.ask with
  | .pending => (w.updateSlot h Slot.watch, .answer (.outcome none))
  | .ready o after => ((w.updateSlot h fun _ => after.watch).log (.told h o), .answer (.outcome (some o)))
  | .misused => (w, .unwind Slot.misuse)

/-- The default action is not called until it is resumed. -/
def callSuspend (w : Task σ ν) : Task σ ν × Stage σ ν :=
  ({ w with
      processor := { w.processor with suspended := true }
      nextSuspension := w.nextSuspension + 1 }.log (.suspended w.nextSuspension),
    .answer (.suspension w.nextSuspension))

/-- The default action is resumed: the flag falls, and if that changed it, a thread other than the mailbox thread sends a mail to
wake that one. Which suspension is meant makes no difference. -/
def callResume (w : Task σ ν) (me : ThreadId) (s : SuspensionId) : Task σ ν × Stage σ ν :=
  let resumed := { w with processor := { w.processor with suspended := false } }.log (.resumed s)
  if w.processor.suspended && me ≠ w.mailbox.owner then
    let m := resumed.letter wakeUp .nothing
    (resumed.stamp.propose m me, .offer m false .silent)
  else (resumed, .answer .done)

/-- The first step of a request; `stack` holds the frames of the thread before the call. -/
def call (w : Task σ ν) (me : ThreadId) (stack : List (Frame σ ν)) : Request → Task σ ν × Stage σ ν
  | .take choice patient => (w, onDuty w me (dutyOfTake choice patient) (.take choice patient .hold))
  | .yield p patient => (w, onDuty w me (dutyOfYield patient) (.take (.eligible p) patient .yield))
  | .run t => withHeld w t fun m => (w.letGo t, .launch m false)
  | .discard t => withHeld w t fun m => ((w.letGo t).drop m, .answer .done)
  | .putBack t => withHeld w t fun m => ((w.letGo t).propose m me, .offer m false .plain)
  | .display t => withHeld w t fun m => ((w.log (.viewed t)).render t m.description, .answer (.text m.description.display))
  | .look t => withHeld w t fun m => (w, .answer (.envelope m.toEnvelope))
  | .quiesceMailbox => (w, .quiesceMailbox)
  | .closeMailbox => (w, .surrender)
  | .quiesce => (w, .quiesceTask)
  | .report e => (w, .lockReport e)
  | .close => (w, exclusive stack (.markClosed .surrender))
  | .loop => (w, onDuty w me .runLoop (exclusive stack .consult))
  | .step => (w, onDuty w me .runStep (exclusive stack (.take .oldest false .step)))
  | .tryResult h => withSlot w h (callTry w h)
  | .wait h => withSlot w h fun _ => (w, .await h)
  | .poll h => withSlot w h (callPoll w h)
  | .woken h => withSlot w h fun s => (w, .answer (.woken s.waker))
  | .cancel h => withSlot w h fun _ => ((w.updateSlot h Slot.cancel).log (.cancelled h), .answer .done)
  | .isCancelled h => withSlot w h fun s => (w, .answer (.flag s.cancelled))
  | .suspend => fromDefault w stack (callSuspend w)
  | .complete => fromDefault w stack (w, .quiesceTask)
  | .resume s => callResume w me s
  | .isSuspended => (w, .answer (.flag w.processor.suspended))
  | .raise => ({ w with processor := { w.processor with interrupted := true } }, .answer .done)
  | .clear => ({ w with processor := { w.processor with interrupted := false } }, .answer .done)
  | .isInterrupted => (w, .answer (.flag w.processor.interrupted))
  | .inspect => (w, .answer (.view (w.view me)))
  | .formatted => (w, .answer (.names w.formattings))

end Mailroom.Thread
