import Mailroom.Task

/-!
# Threads

A thread is where it stands and what it has to come back to. One step of a thread is one access to what threads share: one section
under a lock, one access to a flag, or one thing a body does. So every order in which the steps of threads can follow each other is
an order that can happen.

A call that has to wait does not take a step until it can go on. A thread that waits on the mailbox is asleep, and is in one of the
mailbox's lines; when it has been woken it looks again, and others may have been there before it.
-/

namespace Mailroom

/-- What a sender is told when its mail is accepted. -/
inductive Receipt where
  | plain
  /-- The handle of a submitted mail. -/
  | handle (h : HandleId)
  /-- Nothing, and nothing either if the mail is turned away. -/
  | silent
deriving DecidableEq, Repr

/-- Where a thread stands: what it does next. -/
inductive Stage (σ ν : Type) where
  /-- Go on with a body. -/
  | run (b : Body σ ν)
  /-- A call has its reply. -/
  | answer (r : Reply ν)
  /-- A panic looks for somebody to catch it. -/
  | unwind (p : Payload)
  /-- Put the mail into the mailbox; the thread may have been asleep before. -/
  | offer (m : Letter σ ν) (slept : Bool) (receipt : Receipt)
  | take (choice : Choice) (patient : Bool) (purpose : Purpose)
  /-- Begin the action of a mail; a panic of it is caught, or goes through. -/
  | launch (m : Letter σ ν) (caught : Bool)
  /-- Run a mail for the main loop (`whole`) or for a step. -/
  | serve (m : Letter σ ν) (whole : Bool)
  | quiesceMailbox
  /-- Close the mailbox and hold what was queued. -/
  | surrender
  /-- Close the mailbox and drop what was queued. -/
  | shut (next : Stage σ ν)
  | wakeAll (next : Stage σ ν)
  /-- Drop the mail that was thrown out of the mailbox, one mail in each step, since each may have a handle that learns of it. -/
  | drop (ms : List (Letter σ ν)) (next : Stage σ ν)
  | quiesceTask
  /-- Get the lock of the report. -/
  | lockReport (e : Failure)
  /-- With the lock held, look at the life of the task, keep the report or not, and give up the lock. -/
  | fileReport (e : Failure)
  | markClosed (next : Stage σ ν)
  /-- The main loop, at its start: is the default action suspended? -/
  | consult
  /-- The main loop, next: is the task running? -/
  | consultStatus
  | callDefault
  /-- The main loop, at its end: was a failure reported? -/
  | collect
  /-- Call the handler. -/
  | alarm (e : Failure)
  /-- Wait for an outcome. -/
  | await (h : HandleId)

namespace Stage

variable {σ ν : Type}

/-- The way out of the main loop or of a step that failed: close the task, drop what was queued, tell the handler. -/
def abort (e : Failure) : Stage σ ν := markClosed (shut (alarm e))

/-- The way out of the main loop once the mailbox is closed. -/
def windUp : Stage σ ν := markClosed collect

end Stage

/-- What a thread has to come back to. -/
inductive Frame (σ ν : Type) where
  /-- A body that asked for something. -/
  | caller (guarded : Bool) (request : Request) (k : Reply ν → Body σ ν)
  /-- A body that sent mail. -/
  | sender (k : Reply ν → Body σ ν)
  /-- The run of a mail's action. -/
  | action (t : Ticket) (d : Description) (caught : Bool)
  /-- The run of a submitted mail's action, which keeps how it ends for the handle. -/
  | capture (h : HandleId) (t : Ticket) (d : Description)
  /-- A yield whose mail is running. -/
  | yield (patient : Bool)
  /-- The main loop (`whole`) or a step, while a mail is running. -/
  | serve (whole : Bool)
  /-- The main loop, while the default action is running. -/
  | default
  /-- The end of the main loop or of a step, while the handler is running. -/
  | handler (e : Failure)

namespace Frame

variable {σ ν : Type}

/-- The frame belongs to the main loop or to a step under way. -/
def isServing : Frame σ ν → Bool
  | serve _ => true
  | default => true
  | handler _ => true
  | _ => false

def isDefault : Frame σ ν → Bool
  | default => true
  | _ => false

end Frame

/-- A thread: its next step, and the frames to come back to, innermost first. -/
structure Thread (σ ν : Type) where
  stage : Stage σ ν
  stack : List (Frame σ ν) := []

namespace Thread

variable {σ ν : Type}

/-- A thread that begins with a body. -/
def start (b : Body σ ν) : Thread σ ν := ⟨.run b, []⟩

/-- The thread has come to its end. -/
def isOver (t : Thread σ ν) : Bool :=
  match t.stage, t.stack with
  | .run (.finish _), [] => true
  | .unwind _, [] => true
  | _, _ => false

/-- The thread is at a point at which others may well be given time. -/
def isPausing (t : Thread σ ν) : Bool :=
  match t.stage with
  | .run (.pause _) => true
  | _ => false

/-- The thread is about to take a mail. -/
def isTaking (t : Thread σ ν) : Bool :=
  match t.stage with
  | .take .. => true
  | _ => false

/-- The programs of the threads that the next step of this one starts. -/
def offspring (t : Thread σ ν) : List (Body σ ν) :=
  match t.stage with
  | .run (.fork program _) => [program]
  | _ => []

end Thread

/-- What is shared, and where a thread stands, after a step of it. -/
abbrev Next (σ ν : Type) := Task σ ν × Thread σ ν

end Mailroom
