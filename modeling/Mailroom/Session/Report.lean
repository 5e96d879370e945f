import Mailroom.Request

/-!
# Reports

What a session tells: the result of each step, the events in between, and how things stood after each step.
-/

namespace Mailroom.Session

/-- Why a step could not be carried out. -/
inductive Complaint where
  | noSuchHandle
  | noSuchMail
  | noSuchToken
  /-- The step belongs to the top of the script. -/
  | topOnly
  /-- The step belongs into a default action. -/
  | defaultOnly
  /-- A thread that was started by a step starts no thread itself. -/
  | alreadyForeign
deriving DecidableEq, Repr

/-- The complaint as a text. -/
def Complaint.text : Complaint → String
  | noSuchHandle => "no such handle"
  | noSuchMail => "no such mail"
  | noSuchToken => "no such token"
  | topOnly => "top level only"
  | defaultOnly => "default action only"
  | alreadyForeign => "already foreign"

/-- A mail as it is written: its rendered description, its options and its priority. -/
structure Written where
  display : String
  options : Options
  priority : Priority
deriving DecidableEq, Repr

/-- All there is to know about a mail. -/
structure Particulars where
  display : String
  term : String
  template : String
  arguments : Nat
  options : Options
  priority : Priority
  urgent : Bool
  deferrable : Bool
  /-- Whether a yield may take it, threshold by threshold. -/
  eligible : List Bool
deriving DecidableEq, Repr

/-- What a step that went well tells. -/
inductive Fact (ν : Type) where
  | unit
  /-- The value of a submitted mail. -/
  | value (v : ν)
  | text (s : String)
  | count (n : Nat)
  | flag (b : Bool)
  | mail (m : Option Written)
  | mails (ms : List Written)
  | particulars (p : Particulars)
  /-- How many numbered mails were accepted, and why no more. -/
  | filled (accepted : Nat) (why : Option Failure)
  | query (v : View)
  | executor (priority : Priority) (v : View)
  | renders (counts : List (String × Nat))
  | woken (w : Option Bool)

/-- What came of a step. -/
inductive Result (ν : Type) where
  | ok (f : Fact ν)
  | err (e : Failure)
  /-- A panic came through. -/
  | panic (p : Payload)
  /-- The handle has no outcome yet. -/
  | pending
  | bad (c : Complaint)
  /-- The step was done on another thread. -/
  | done (r : Result ν)
  /-- The step is blocked on another thread, the one with this number. -/
  | blocked (k : Nat)
  /-- The action is about to fail, with this text. -/
  | failing (text : String)
  /-- The action is about to panic. -/
  | panicking

/-- What happened between two steps of the script. -/
inductive Event (ν : Type) where
  /-- An action has done a step. -/
  | step (label : String) (name : String) (r : Result ν) (length : Nat)
  /-- The handler was called. -/
  | fatal (e : Failure) (mailbox : Mailbox.Status) (processor : Processor.Status) (length : Nat)
  /-- A failure was written to the log. -/
  | logged (text : String)
  /-- A step was done while the first thread was blocked. -/
  | onBlock (r : Result ν)
  /-- The mailbox was closed, since the first thread was blocked and nothing else was left to do. -/
  | closedOnBlock (ms : List Written)
  /-- A thread that was blocked has finished. -/
  | unblocked (k : Nat) (r : Result ν)

/-- What the log says beside the text of the failure. -/
def logMessage : String := "Mailbox loop terminated by fatal failure"

/-- A step of the script and how things stood after it. -/
structure Entry (ν : Type) where
  result : Result ν
  view : View
  events : List (Event ν)

/-- What was left at the end. -/
structure Closing (ν : Type) where
  left : List Written
  events : List (Event ν)
  handles : List (String × Result ν)

/-- What is told of a session. -/
structure Report (ν : Type) where
  entries : List (Entry ν)
  /-- None, if the script did not come to its end. -/
  closing : Option (Closing ν)

end Mailroom.Session
