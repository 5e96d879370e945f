import Mailroom.Thread.Call

/-!
# Steps

One step of a thread, stage by stage. `step` puts the stages together: it has no value where the thread is asleep, has to wait, or
has ended.
-/

namespace Mailroom.Thread

variable {σ ν : Type}

/-! ## Mail in and out -/

/-- What whoever sent a mail is told when it is in the mailbox. -/
def received : Receipt → Reply ν
  | .handle h => .handle h
  | _ => .done

/-- What whoever sent a mail is told when the mailbox turned it away. -/
def turnedAway (why : Failure) : Receipt → Reply ν
  | .silent => .done
  | _ => .failed why

/-- Putting a mail into the mailbox; the thread may fall asleep over it. A mail that is turned away is dropped, and so is the mail that
this one displaces, if it does. -/
def stepOffer (w : Task σ ν) (me : ThreadId) (pick : Nat) (m : Letter σ ν) (receipt : Receipt) : Task σ ν × Stage σ ν :=
  match w.mailbox.offer me m pick with
  | .accepted after displaced =>
    (({ w with mailbox := after }.dropDisplaced displaced).log (.accepted m me), .answer (received receipt))
  | .refused why => ((w.drop m).log (.refused m me), .answer (turnedAway why receipt))
  | .waiting after => ({ w with mailbox := after }, .offer m true receipt)

/-- What a thread does with the mail it took. -/
def useTaken (w : Task σ ν) (stack : List (Frame σ ν)) (m : Letter σ ν) (patient : Bool) : Purpose → Next σ ν
  | .hold => (w.hold [m], ⟨.answer (.mail (some m.ticket)), stack⟩)
  | .yield => (w, ⟨.launch m false, .yield patient :: stack⟩)
  | .step => (w, ⟨.serve m false, stack⟩)
  | .loop => (w, ⟨.serve m true, stack⟩)

/-- What a thread does when the mailbox is closed. -/
def foundClosed : Purpose → Stage σ ν
  | .loop => .windUp
  | _ => .answer (.failed .closed)

/-- What a thread does when there is nothing to take and it does not wait. -/
def foundNothing : Purpose → Stage σ ν
  | .hold => .answer (.mail none)
  | .loop => .callDefault
  | _ => .answer (.flag false)

/-- What a thread does when there is nothing to take and, the mailbox being quiesced, nothing to wait for. -/
def foundDrained : Choice → Purpose → Stage σ ν
  | .oldest, .loop => .shut .windUp
  | .oldest, _ => .answer (.mail none)
  | .eligible _, _ => .answer (.failed (.rejected .nothingEligible))

/-- Taking a mail; the thread may fall asleep over it. -/
def stepTake (w : Task σ ν) (me : ThreadId) (pick : Nat) (stack : List (Frame σ ν)) (choice : Choice) (patient : Bool)
    (purpose : Purpose) : Next σ ν :=
  match w.mailbox.take choice pick with
  | .mail m after => useTaken ({ w with mailbox := after }.log (.taken m choice purpose)) stack m patient purpose
  | .closed => (w, ⟨foundClosed purpose, stack⟩)
  | .nothing =>
    if !patient then (w, ⟨foundNothing purpose, stack⟩)
    else if w.mailbox.status = .quiesced then (w, ⟨foundDrained choice purpose, stack⟩)
    else ({ w with mailbox := w.mailbox.restTaker me }, ⟨.take choice patient purpose, stack⟩)

/-- Beginning the action of a mail. A submitted mail that was cancelled leaves its action out. -/
def stepLaunch (w : Task σ ν) (stack : List (Frame σ ν)) (m : Letter σ ν) (caught : Bool) : Next σ ν :=
  match m.action.work with
  | .nothing => (w, ⟨.answer .done, stack⟩)
  | .run b => (w.log (.started m.ticket), ⟨.run b, .action m.ticket m.description caught :: stack⟩)
  | .capture h b =>
    if w.slots[h]?.any (·.cancelled) then (w.skip m, ⟨.answer .done, stack⟩)
    else (w.log (.started m.ticket), ⟨.run b, .capture h m.ticket m.description :: stack⟩)

/-- The main loop or a step runs a mail: it counts, and a panic of the mail is caught. -/
def stepServe (w : Task σ ν) (stack : List (Frame σ ν)) (m : Letter σ ν) (whole : Bool) : Next σ ν :=
  ({ w with processor := { w.processor with processed := w.processor.processed + 1 } }, ⟨.launch m true, .serve whole :: stack⟩)

/-! ## The end of a mailbox and of a task -/

/-- The mailbox accepts no new mail from now on; sleepers are woken in a later step. -/
def stepQuiesceMailbox (w : Task σ ν) : Task σ ν × Stage σ ν :=
  match w.mailbox.quiesce with
  | some after => ({ w with mailbox := after }, .wakeAll (.answer .done))
  | none => (w, .answer .done)

/-- The mailbox is closed, and what was queued is in hand. -/
def stepSurrender (w : Task σ ν) : Task σ ν × Stage σ ν :=
  match w.mailbox.close with
  | some (after, ms) =>
    (({ w with mailbox := after }.hold ms).log (.cleared ms), .wakeAll (.answer (.mails (ms.map Mail.ticket))))
  | none => (w, .answer (.mails []))

/-- The mailbox is closed, and what was queued is dropped, but only after all sleepers were woken. -/
def stepShut (w : Task σ ν) (next : Stage σ ν) : Task σ ν × Stage σ ν :=
  match w.mailbox.close with
  | some (after, ms) => ({ w with mailbox := after }.log (.cleared ms), .wakeAll (.drop ms next))
  | none => (w, next)

/-- Of the mail to be dropped the first one goes; once all of it is gone, the thread goes on. -/
def stepDrop (w : Task σ ν) (next : Stage σ ν) : List (Letter σ ν) → Task σ ν × Stage σ ν
  | m :: ms => (w.drop m, .drop ms next)
  | [] => (w, next)

/-- All sleepers are woken, senders and takers. -/
def stepWakeAll (w : Task σ ν) : Task σ ν := { w with mailbox := w.mailbox.wakeAll }

/-- The task stops accepting mail and default work, if it was running. -/
def stepQuiesceTask (w : Task σ ν) : Task σ ν × Stage σ ν :=
  if w.processor.status = .running then
    ({ w with processor := { w.processor with status := .quiescing } }, .quiesceMailbox)
  else (w, .answer .done)

/-- The task is closed, whatever it was before. -/
def stepMarkClosed (w : Task σ ν) : Task σ ν := { w with processor := { w.processor with status := .closed } }

/-- The lock of the report, once it is free. -/
def stepLockReport (w : Task σ ν) (me : ThreadId) (e : Failure) : Option (Task σ ν × Stage σ ν) :=
  if w.processor.reportLock.isSome then none
  else some ({ w with processor := { w.processor with reportLock := some me } }, .fileReport e)

/-- A report is kept if it is the first and the task is not closed; the lock of the report is free again, and the task is closed. -/
def stepFileReport (w : Task σ ν) (e : Failure) : Task σ ν × Stage σ ν :=
  let freed := { w with processor := { w.processor with reportLock := none } }
  let next : Stage σ ν := .markClosed (.shut (.answer .done))
  if w.processor.status ≠ .closed && w.processor.report.isNone then
    ({ freed with processor := { freed.processor with report := some e } }.log (.reported e), next)
  else (freed, next)

/-! ## The main loop -/

/-- At its start the main loop looks whether there is default work that is not suspended. -/
def stepConsult (w : Task σ ν) : Stage σ ν :=
  if w.processor.defaultAction.isSome && !w.processor.suspended then .consultStatus else .take .oldest true .loop

/-- With default work to do, the main loop waits for mail only if the task is not running any more. -/
def stepConsultStatus (w : Task σ ν) : Stage σ ν := .take .oldest (w.processor.status ≠ .running) .loop

/-- The default action runs above the main loop; where none is installed, the loop looks again. -/
def stepCallDefault (w : Task σ ν) (stack : List (Frame σ ν)) : Next σ ν :=
  match w.processor.defaultAction with
  | some b => (w.log .defaultCalled, ⟨.run b, .default :: stack⟩)
  | none => (w, ⟨.consult, stack⟩)

/-- The main loop ends, once the lock of the report is free: with the failure that was reported, or in good order. -/
def stepCollect (w : Task σ ν) : Option (Task σ ν × Stage σ ν) :=
  if w.processor.reportLock.isSome then none
  else match w.processor.report with
    | some e => some ({ w with processor := { w.processor with report := none } }, .abort (.fatal e))
    | none => some (w, .answer .done)

/-- The handler is called with the failure, and runs above the call that failed. -/
def stepAlarm (w : Task σ ν) (stack : List (Frame σ ν)) (e : Failure) : Next σ ν :=
  (w.log (.alarmed e), ⟨.run (w.processor.handler e), .handler e :: stack⟩)

/-! ## Replies, ends and panics -/

/-- What a default action that failed or panicked is called. -/
def defaultName : String := "default action"

/-- The failure of a mail whose action failed: its description is rendered for that. -/
def actionFailed (d : Description) (e : Failure) : Failure := .actionFailed d.display e

/-- The failure of a mail whose action panicked: its description is rendered for that. -/
def actionPanicked (d : Description) (p : Payload) : Failure := .actionPanicked d.display p.message

/-- A reply reaches the innermost frame. -/
def stepAnswer (w : Task σ ν) (r : Reply ν) : List (Frame σ ν) → Option (Next σ ν)
  | .caller _ _ k :: stack => some (w, ⟨.run (k r), stack⟩)
  | .sender k :: stack => some (w, ⟨.run (k r), stack⟩)
  | .yield patient :: stack =>
    match r with
    | .done => some (w, ⟨.answer (if patient then .done else .flag true), stack⟩)
    | _ => some (w, ⟨.answer r, stack⟩)
  | .serve whole :: stack =>
    match r with
    | .failed e => some (w, ⟨.abort e.toFatal, stack⟩)
    | _ => some (w, ⟨if whole then .consult else .answer (.flag true), stack⟩)
  | _ => none

/-- A mail's action ends; whoever runs the mail is told. -/
def endAction (w : Task σ ν) (t : Ticket) (d : Description) (caught : Bool) : Ending ν → Task σ ν × Stage σ ν
  | .returned _ => (w, .answer .done)
  | .failed e => (w.render t d, .answer (.failed (actionFailed d e)))
  | .panicked p => if caught then (w.render t d, .answer (.failed (actionPanicked d p))) else (w, .unwind p)

/-- A submitted mail's action ends; its handle is told, and whoever runs the mail sees it go well. -/
def endCapture (w : Task σ ν) (h : HandleId) (t : Ticket) (d : Description) : Ending ν → Task σ ν
  | .returned v => w.resolve h (.ok v)
  | .failed e => (w.render t d).resolve h (.error (actionFailed d e))
  | .panicked p => (w.render t d).resolve h (.error (actionPanicked d p))

/-- The default action ends, and the main loop goes on or ends too. -/
def endDefault : Ending ν → Stage σ ν
  | .returned _ => .consult
  | .failed e => .abort (.fatal (.actionFailed defaultName e))
  | .panicked p => .abort (.fatal (.actionPanicked defaultName p.message))

/-- The handler ends, and with it the call that failed. -/
def endHandler (why : Failure) : Ending ν → Stage σ ν
  | .panicked p => .unwind p
  | _ => .answer (.failed why)

/-- A body ends, and the innermost frame learns how. -/
def stepEnd (w : Task σ ν) (e : Ending ν) : List (Frame σ ν) → Option (Next σ ν)
  | .action t d caught :: stack =>
    let next := endAction (w.log (.ended t e caught)) t d caught e
    some (next.1, ⟨next.2, stack⟩)
  | .capture h t d :: stack => some (endCapture (w.log (.ended t e true)) h t d e, ⟨.answer .done, stack⟩)
  | .default :: stack => some (w, ⟨endDefault e, stack⟩)
  | .handler why :: stack => some (w, ⟨endHandler why e, stack⟩)
  | _ => none

/-- A panic reaches the innermost frame. Calls that nobody guards, yields and the loop let it through. -/
def stepUnwind (w : Task σ ν) (p : Payload) : List (Frame σ ν) → Option (Next σ ν)
  | .caller true _ k :: stack => some (w, ⟨.run (k (.panicked p)), stack⟩)
  | .caller false _ _ :: stack => some (w, ⟨.unwind p, stack⟩)
  | .sender _ :: stack => some (w, ⟨.unwind p, stack⟩)
  | .yield _ :: stack => some (w, ⟨.unwind p, stack⟩)
  | .serve _ :: stack => some (w, ⟨.unwind p, stack⟩)
  | stack => stepEnd w (.panicked p) stack

/-- Waiting for an outcome ends once there is one. -/
def stepAwait (w : Task σ ν) (h : HandleId) : Option (Task σ ν × Stage σ ν) :=
  match w.slots[h]? with
  | none => none
  | some s =>
    match s.ask with
    | .pending => none
    | .ready o after => some ((w.updateSlot h fun _ => after).log (.told h o), .answer (.outcome (some o)))
    | .misused => some (w, .unwind Slot.misuse)

/-! ## Bodies -/

/-- A body does one thing. -/
def stepBody (w : Task σ ν) (me : ThreadId) (stack : List (Frame σ ν)) : Body σ ν → Option (Next σ ν)
  | .finish e => stepEnd w e stack
  | .read k => some (w, ⟨.run (k w.client), stack⟩)
  | .write f next => some ({ w with client := f w.client }, ⟨.run next, stack⟩)
  | .self k => some (w, ⟨.run (k me), stack⟩)
  | .pause next => some (w, ⟨.run next, stack⟩)
  | .fork _ next => some (w, ⟨.run next, stack⟩)
  | .post envelope action k =>
    let m := w.letter envelope (.run action)
    some (w.stamp.propose m me, ⟨.offer m false .plain, .sender k :: stack⟩)
  | .submit description priority action k =>
    let h := w.slots.length
    let m := w.letter { description, priority } (.capture h action)
    some (w.stamp.openSlot.propose m me, ⟨.offer m false (.handle h), .sender k :: stack⟩)
  | .call guarded request k =>
    let next := call w me stack request
    some (next.1, ⟨next.2, .caller guarded request k :: stack⟩)

/-- The thread goes on with a stage, its frames as they are. -/
def stay (stack : List (Frame σ ν)) (next : Task σ ν × Stage σ ν) : Next σ ν := (next.1, ⟨next.2, stack⟩)

/-- The step that a stage stands for, for a thread that is awake. -/
def stepStage (w : Task σ ν) (me : ThreadId) (pick : Nat) (stack : List (Frame σ ν)) : Stage σ ν → Option (Next σ ν)
  | .run b => stepBody w me stack b
  | .answer r => stepAnswer w r stack
  | .unwind p => stepUnwind w p stack
  | .offer m _ receipt => some (stay stack (stepOffer w me pick m receipt))
  | .take choice patient purpose => some (stepTake w me pick stack choice patient purpose)
  | .launch m caught => some (stepLaunch w stack m caught)
  | .serve m whole => some (stepServe w stack m whole)
  | .quiesceMailbox => some (stay stack (stepQuiesceMailbox w))
  | .surrender => some (stay stack (stepSurrender w))
  | .shut next => some (stay stack (stepShut w next))
  | .wakeAll next => some (stepWakeAll w, ⟨next, stack⟩)
  | .drop ms next => some (stay stack (stepDrop w next ms))
  | .quiesceTask => some (stay stack (stepQuiesceTask w))
  | .lockReport e => (stepLockReport w me e).map (stay stack)
  | .fileReport e => some (stay stack (stepFileReport w e))
  | .markClosed next => some (stepMarkClosed w, ⟨next, stack⟩)
  | .consult => some (w, ⟨stepConsult w, stack⟩)
  | .consultStatus => some (w, ⟨stepConsultStatus w, stack⟩)
  | .callDefault => some (stepCallDefault w stack)
  | .collect => (stepCollect w).map (stay stack)
  | .alarm e => some (stepAlarm w stack e)
  | .await h => (stepAwait w h).map (stay stack)

/-- One step of thread `me`; none, if it is asleep, has to wait, or has ended. `pick` says which sleeper is woken where one is. -/
def step (w : Task σ ν) (me : ThreadId) (pick : Nat) (t : Thread σ ν) : Option (Next σ ν) :=
  if w.mailbox.isAsleep me then none else stepStage w me pick t.stack t.stage

end Mailroom.Thread
