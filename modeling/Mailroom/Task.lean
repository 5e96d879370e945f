import Mailroom.Body

/-!
# The task

All that the threads of a task share: the mailbox, the processor's side of the task, the slots behind handles, the mail that
somebody holds, the clients' own state, and a journal of what happened.
-/

namespace Mailroom

/-- What a mail does when it is run. -/
inductive Work (σ ν : Type) where
  /-- Nothing: the mail was only sent to wake the mailbox thread. -/
  | nothing
  /-- Run the body; its failure goes to whoever runs the mail. -/
  | run (b : Body σ ν)
  /-- Run the body and keep how it ends for the handle. -/
  | capture (h : HandleId) (b : Body σ ν)

/-- The action of a queued mail: what it does, under the mail's ticket. -/
structure Job (σ ν : Type) where
  ticket : Ticket
  work : Work σ ν

/-- A mail as the mailbox of a task holds it. -/
abbrev Letter (σ ν : Type) := Mail (Job σ ν)

namespace Mail

variable {σ ν : Type}

/-- The number under which a mail is known. -/
def ticket (m : Letter σ ν) : Ticket := m.action.ticket

/-- The handle that waits for the outcome of this mail, if it was submitted. -/
def handle? (m : Letter σ ν) : Option HandleId :=
  match m.action.work with
  | .capture h _ => some h
  | _ => none

end Mail

/-- The processor's side of a task: its life, its default action, and the failure that somebody reported from outside. -/
structure Processor (σ ν : Type) where
  status : Processor.Status := .running
  /-- The default action is not to be called. -/
  suspended : Bool := false
  /-- A failure that was reported and that the main loop has not collected. -/
  report : Option Failure := none
  /-- The thread that holds the lock of `report`. -/
  reportLock : Option ThreadId := none
  /-- How many mails the main loop and the steps have run. That is at most the number of mails that were accepted, so a word of 64 bits
  holds it as long as it can hold that number. -/
  processed : Nat := 0
  interrupted : Bool := false
  /-- The work to do when no mail is queued. -/
  defaultAction : Option (Body σ ν) := none
  /-- What is done when a failure ends the task. -/
  handler : Failure → Body σ ν

/-- The main loop would call the default action now. -/
def Processor.isAvailable {σ ν : Type} (p : Processor σ ν) : Bool :=
  p.defaultAction.isSome && !p.suspended && p.status = .running

/-- What a mail is taken for. -/
inductive Purpose where
  /-- To be held. -/
  | hold
  /-- To be run by the yield that takes it. -/
  | yield
  /-- To be run by a step. -/
  | step
  /-- To be run by the main loop. -/
  | loop
deriving DecidableEq, Repr

/-- What the journal of a task records. -/
inductive Occurrence (σ ν : Type) where
  /-- The thread begins to put the mail into the mailbox. -/
  | offered (m : Letter σ ν) (sender : ThreadId)
  /-- The mail was put into the mailbox. -/
  | accepted (m : Letter σ ν) (sender : ThreadId)
  /-- The mailbox turned the mail away. -/
  | refused (m : Letter σ ν) (sender : ThreadId)
  | taken (m : Letter σ ν) (choice : Choice) (purpose : Purpose)
  /-- The mailbox was closed with these mails in it. -/
  | cleared (ms : List (Letter σ ν))
  /-- The action of the mail began. -/
  | started (t : Ticket)
  /-- The mail was run, but its action was left out, since its sender had asked for that. -/
  | skipped (t : Ticket)
  /-- The mail is gone, and was never run. -/
  | dropped (t : Ticket)
  /-- The action of the mail ended; a panic of it was caught right there, or went through. -/
  | ended (t : Ticket) (how : Ending ν) (caught : Bool)
  /-- The sender asked for the action to be left out. -/
  | cancelled (h : HandleId)
  /-- The handle gave an outcome to somebody who asked. -/
  | told (h : HandleId) (o : Outcome ν)
  /-- Somebody asked for the description of the mail. -/
  | viewed (t : Ticket)
  /-- The description of the mail was rendered, with these counted arguments formatted. -/
  | rendered (t : Ticket) (names : List String)
  | suspended (s : SuspensionId)
  | resumed (s : SuspensionId)
  | defaultCalled
  /-- A failure was reported, and the processor was not closed before and had no earlier report. -/
  | reported (e : Failure)
  /-- The handler was called. -/
  | alarmed (e : Failure)

/-- Everything that the threads share: mailbox and processor, the slots of the handles, the mail in hand, and the journal. -/
structure Task (σ ν : Type) where
  mailbox : Mailbox (Job σ ν)
  processor : Processor σ ν
  /-- The slots behind handles, by number. -/
  slots : List (Slot ν) := []
  /-- Mail that was taken or given back, until it is run, dropped or put back. -/
  hand : List (Letter σ ν) := []
  /-- The state that the bodies share. -/
  client : σ
  /-- The next free ticket. -/
  nextTicket : Ticket := 0
  /-- The next free number for a suspension. -/
  nextSuspension : SuspensionId := 0
  /-- What happened, latest first. -/
  journal : List (Occurrence σ ν) := []

namespace Task

variable {σ ν : Type}

/-- A task before anything has happened. -/
def new (config : Config) (owner : ThreadId) (defaultAction : Option (Body σ ν)) (handler : Failure → Body σ ν)
    (client : σ) : Task σ ν where
  mailbox := .new config owner
  processor := { defaultAction, handler }
  client := client

/-- Something has happened. -/
def log (w : Task σ ν) (e : Occurrence σ ν) : Task σ ν := { w with journal := e :: w.journal }

def updateSlot (w : Task σ ν) (h : HandleId) (f : Slot ν → Slot ν) : Task σ ν := { w with slots := w.slots.modify h f }

/-- The slot behind a handle is resolved. -/
def resolve (w : Task σ ν) (h : HandleId) (o : Outcome ν) : Task σ ν := w.updateSlot h (·.resolve o)

/-- The handle of a mail, if it has one, learns that the action will not run. -/
def forgo (w : Task σ ν) (m : Letter σ ν) : Task σ ν :=
  match m.handle? with
  | some h => w.resolve h (.error .closed)
  | none => w

/-- A mail is gone without having run. -/
def drop (w : Task σ ν) (m : Letter σ ν) : Task σ ν := (w.forgo m).log (.dropped m.ticket)

/-- A mail is run, but its action is left out. -/
def skip (w : Task σ ν) (m : Letter σ ν) : Task σ ν := (w.forgo m).log (.skipped m.ticket)

/-- The mail that another has displaced in the mailbox is gone, if it did displace one. -/
def dropDisplaced (w : Task σ ν) : Option (Letter σ ν) → Task σ ν
  | some m => w.drop m
  | none => w

/-- The mail in hand under a ticket. -/
def held? (w : Task σ ν) (t : Ticket) : Option (Letter σ ν) := w.hand.find? fun m => m.ticket == t

/-- Mail comes into the hand. -/
def hold (w : Task σ ν) (ms : List (Letter σ ν)) : Task σ ν := { w with hand := w.hand ++ ms }

/-- The mail leaves the hand that held it. -/
def letGo (w : Task σ ν) (t : Ticket) : Task σ ν := { w with hand := w.hand.eraseP fun m => m.ticket == t }

/-- A new mail under a fresh ticket. -/
def letter (w : Task σ ν) (envelope : Envelope) (work : Work σ ν) : Letter σ ν :=
  { envelope with action := ⟨w.nextTicket, work⟩ }

/-- The fresh ticket is used. -/
def stamp (w : Task σ ν) : Task σ ν := { w with nextTicket := w.nextTicket + 1 }

/-- A new slot, for the handle with the next number. -/
def openSlot (w : Task σ ν) : Task σ ν := { w with slots := w.slots ++ [{}] }

/-- A thread begins to put a mail into the mailbox. -/
def propose (w : Task σ ν) (m : Letter σ ν) (sender : ThreadId) : Task σ ν := w.log (.offered m sender)

/-- The rendering of a mail's description is recorded. -/
def render (w : Task σ ν) (t : Ticket) (d : Description) : Task σ ν := w.log (.rendered t d.formatted)

/-- How things stand, as thread `me` sees them. -/
def view (w : Task σ ν) (me : ThreadId) : View where
  mailbox := w.mailbox.status
  length := w.mailbox.length
  capacity := w.mailbox.capacity
  onMailboxThread := me = w.mailbox.owner
  processor := w.processor.status
  processed := w.processor.processed
  hasDefault := w.processor.defaultAction.isSome
  available := w.processor.isAvailable
  interrupted := w.processor.interrupted

/-- How often each counted argument was formatted: every name in the journal, as often as it was formatted. -/
def formattings (w : Task σ ν) : List String :=
  w.journal.flatMap fun
    | .rendered _ names => names
    | _ => []

end Task

end Mailroom
