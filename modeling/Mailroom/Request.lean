import Mailroom.Handle
import Mailroom.Mailbox

/-!
# Requests

What code that runs in a task may ask of the library, and what it is told. Mail, handles and suspensions are named by numbers: a
mail that was taken or given back is held for whoever asked, under its ticket, until it is run, dropped or put back.
-/

namespace Mailroom

/-- Names one mail for its whole life. -/
abbrev Ticket := Nat

/-- Names one suspension of the default action. -/
abbrev SuspensionId := Nat

/-- The life of a task; it only moves forward. -/
inductive Processor.Status where
  /-- Mail and default work. -/
  | running
  /-- No new mail and no default work; what is queued is still run. -/
  | quiescing
  | closed
deriving DecidableEq, Repr

/-- What the status is called in texts. -/
def Processor.Status.name : Processor.Status → String
  | running => "Running"
  | quiescing => "Quiescing"
  | closed => "Closed"

/-- What a body can ask of the library. -/
inductive Request where
  /-- Take a mail and hold it; patiently, if it should be waited for. -/
  | take (choice : Choice) (patient : Bool)
  /-- Take a mail that a yield with this threshold may take, and run it. -/
  | yield (threshold : Priority) (patient : Bool)
  /-- Run a mail in hand. -/
  | run (mail : Ticket)
  /-- Drop a mail in hand. -/
  | discard (mail : Ticket)
  /-- Put a mail in hand back into the mailbox. -/
  | putBack (mail : Ticket)
  /-- The rendered description of a mail in hand. -/
  | display (mail : Ticket)
  /-- What a mail in hand shows, nothing rendered. -/
  | look (mail : Ticket)
  /-- Let the mailbox accept no new mail. -/
  | quiesceMailbox
  /-- Close the mailbox and hold what was queued. -/
  | closeMailbox
  /-- End the task in good order: no new mail, no default work, what is queued still runs. -/
  | quiesce
  /-- Report a failure from outside: the task ends at once. -/
  | report (e : Failure)
  /-- Close the task and hold what was queued. -/
  | close
  /-- Run the main loop until the task ends. -/
  | loop
  /-- Run one mail as the main loop would, if there is one. -/
  | step
  /-- The outcome of a handle if it is known. -/
  | tryResult (h : HandleId)
  /-- Wait for the outcome of a handle. -/
  | wait (h : HandleId)
  /-- Poll a handle with a fresh waker. -/
  | poll (h : HandleId)
  /-- Whether the waker of the last poll was woken. -/
  | woken (h : HandleId)
  /-- Ask a submitted mail to leave its action out. -/
  | cancel (h : HandleId)
  | isCancelled (h : HandleId)
  /-- No default work until it is resumed; only the default action itself may ask for that. -/
  | suspend
  /-- There is no more default work; only the default action itself may say that. -/
  | complete
  /-- Resume the default action. -/
  | resume (s : SuspensionId)
  | isSuspended
  /-- Raise the interrupt flag. -/
  | raise
  /-- Clear the interrupt flag. -/
  | clear
  | isInterrupted
  /-- How things stand. -/
  | inspect
  /-- The counted arguments that were formatted so far, by name. -/
  | formatted
deriving DecidableEq, Repr

/-- How things stand, as seen by the thread that asks. -/
structure View where
  mailbox : Mailbox.Status
  length : Nat
  capacity : Nat
  /-- Whoever asks is the mailbox thread. -/
  onMailboxThread : Bool
  processor : Processor.Status
  /-- How many mails the main loop and the steps have run. -/
  processed : Nat
  /-- A default action is installed. -/
  hasDefault : Bool
  /-- The main loop would call the default action now. -/
  available : Bool
  interrupted : Bool
deriving DecidableEq, Repr

namespace View

/-- No mail is queued. -/
def isEmpty (v : View) : Bool := v.length = 0

/-- The mailbox as a term; its thread stays unnamed. -/
def mailboxTerm (v : View) : String :=
  "TaskMailbox \x7b state: " ++ v.mailbox.name ++ ", len: " ++ toString v.length ++ ", capacity: " ++ toString v.capacity ++
    ", owner: ThreadId(_) \x7d"

/-- The task as a term. -/
def term (v : View) : String :=
  "MailboxProcessor \x7b mailbox: " ++ v.mailboxTerm ++ ", state: " ++ v.processor.name ++ ", default_action: " ++
    (if v.hasDefault then "true" else "false") ++ ", processed: " ++ toString v.processed ++ ", .. \x7d"

end View

/-- What a request is told; `ν` is the type of the values that submitted mail returns. -/
inductive Reply (ν : Type) where
  | done
  | failed (e : Failure)
  | flag (b : Bool)
  /-- A mail that is now in hand, or none. -/
  | mail (m : Option Ticket)
  /-- Mails that are now in hand. -/
  | mails (ms : List Ticket)
  | envelope (m : Envelope)
  | text (s : String)
  | names (ns : List String)
  | handle (h : HandleId)
  /-- An outcome, or none so far. -/
  | outcome (o : Option (Outcome ν))
  | woken (w : Option Bool)
  | suspension (s : SuspensionId)
  | view (v : View)
  /-- The call panicked, and whoever called caught that. -/
  | panicked (p : Payload)
  /-- Nobody in this place can make such a call. -/
  | unavailable

end Mailroom
