import Mailroom.Request

/-!
# Scripts

A task driven by a script. The steps of a script send, take and run mail, steer the task and its handles, and start other threads;
the action of a mail that a step sends is again a list of steps.
-/

namespace Mailroom.Session

/-- The three ways to send a mail, which differ only in what they are called. -/
inductive Route where
  | put
  | execute
  | executeDyn
deriving DecidableEq, Repr

/-- The ways of a task to tell that a failure ended it. -/
inductive Alarm where
  /-- A handler that records the failure and how things stand. -/
  | recording
  /-- A line in the log. -/
  | logging
deriving DecidableEq, Repr

/-- A step; `ν` is the type of the values that submitted mail returns. -/
inductive Step (ν : Type) where
  | log (text : String)
  /-- Send a mail. Its label marks what its action does. -/
  | post (route : Route) (label : String) (envelope : Envelope) (body : List (Step ν))
  /-- Send a mail that returns a value, and keep its handle under the label. -/
  | submit (label : String) (description : Description) (priority : Priority) (body : List (Step ν)) (value : ν)
  /-- Send numbered mails until one is turned away. -/
  | fill (count : Nat) (options : Options) (priority : Priority)
  /-- How many of the numbered mails have run. -/
  | fillRuns
  /-- Take a mail, and hold it in a place or drop it. -/
  | take (choice : Choice) (patient : Bool) (place : Option String)
  | yield (threshold : Priority) (patient : Bool)
  /-- Yield without waiting until there is nothing to yield to. -/
  | drainYield (threshold : Priority)
  | runMail (place : String)
  | dropMail (place : String)
  | putMail (place : String)
  | mailInfo (place : String) (thresholds : List Priority)
  | quiesceMailbox
  /-- Close the mailbox; what was queued is held in numbered places, or dropped. -/
  | closeMailbox (keep : Option String)
  | quiesce
  | fail (e : Failure)
  | quiesceProcessor
  | closeProcessor (keep : Option String)
  | loop
  | step
  | query
  | executor (priority : Priority)
  | mailboxTerm
  | processorTerm
  /-- How often each counted argument was formatted. -/
  | renders
  | raise
  | clear
  | shouldInterrupt
  | tryResult (handle : String)
  | wait (handle : String)
  | cancel (handle : String)
  | isCancelled (handle : String)
  | dropHandle (handle : String)
  | poll (handle : String)
  | woken (handle : String)
  | suspend (token : String)
  | complete
  | resume (token : String)
  | isSuspended (token : String)
  /-- Do a step on a new thread until it has finished or is blocked. -/
  | foreign (inner : Step ν)
  /-- Do a step on a new thread once the first thread is blocked. -/
  | onBlock (inner : Step ν)
  /-- Let the action end with a failure. -/
  | err (e : Failure)
  /-- Let the action end with a panic. -/
  | panic (p : Payload)
  /-- Do a step; if it fails, the action ends with that failure. -/
  | strict (inner : Step ν)

namespace Step

variable {ν : Type}

/-- What a step is called. -/
def name : Step ν → String
  | log _ => "log"
  | post .put .. => "put"
  | post .execute .. => "execute"
  | post .executeDyn .. => "execute_dyn"
  | submit .. => "submit"
  | fill .. => "fill"
  | fillRuns => "fill_runs"
  | take .oldest true _ => "take_main"
  | take .oldest false _ => "try_take_main"
  | take (.eligible _) true _ => "take_yield"
  | take (.eligible _) false _ => "try_take_yield"
  | yield _ true => "yield"
  | yield _ false => "try_yield"
  | drainYield _ => "drain_yield"
  | runMail _ => "run_mail"
  | dropMail _ => "drop_mail"
  | putMail _ => "put_mail"
  | mailInfo .. => "mail_info"
  | quiesceMailbox => "mb_quiesce"
  | closeMailbox _ => "mb_close"
  | quiesce => "quiesce"
  | fail _ => "fail"
  | quiesceProcessor => "p_quiesce"
  | closeProcessor _ => "p_close"
  | loop => "loop"
  | step => "step"
  | query => "query"
  | executor _ => "executor"
  | mailboxTerm => "mb_debug"
  | processorTerm => "p_debug"
  | renders => "renders"
  | raise => "raise"
  | clear => "clear"
  | shouldInterrupt => "should_interrupt"
  | tryResult _ => "try_result"
  | wait _ => "wait"
  | cancel _ => "cancel"
  | isCancelled _ => "is_cancelled"
  | dropHandle _ => "drop_handle"
  | poll _ => "poll"
  | woken _ => "woken"
  | suspend _ => "suspend"
  | complete => "complete"
  | resume _ => "resume"
  | isSuspended _ => "is_suspended"
  | foreign _ => "foreign"
  | onBlock _ => "on_block"
  | err _ => "err"
  | panic _ => "panic"
  | strict inner => inner.name

mutual

/-- How much a step can do at most: every step inside it, and every mail it sends, counts for one. -/
def weight : Step ν → Nat
  | post _ _ _ body => 1 + weightAll body
  | submit _ _ _ body _ => 1 + weightAll body
  | fill count .. => 1 + count
  | mailInfo _ thresholds => 1 + thresholds.length
  | foreign inner => 1 + inner.weight
  | onBlock inner => 1 + inner.weight
  | strict inner => 1 + inner.weight
  | _ => 1

def weightAll : List (Step ν) → Nat
  | [] => 0
  | s :: rest => s.weight + weightAll rest

end

end Step

/-- A script with the task it is for. -/
structure Script (ν : Type) where
  config : Config
  /-- The first thread is the mailbox thread. -/
  owned : Bool
  alarm : Alarm
  /-- What the default action does, call by call, if one is installed. -/
  defaults : Option (List (List (Step ν)))
  steps : List (Step ν)

namespace Script

variable {ν : Type}

/-- How much the whole script can do at most. -/
def weight (s : Script ν) : Nat :=
  (s.defaults.getD []).foldl (fun n body => n + 1 + Step.weightAll body) (Step.weightAll s.steps)

end Script

end Mailroom.Session
