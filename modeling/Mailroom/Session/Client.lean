import Mailroom.Session.Report
import Mailroom.Session.Script

/-!
# The state of a session

What the steps of a session share: the mail, handles and suspensions they keep under names, the threads they started, and what was
told so far.
-/

namespace Mailroom.Session

/-- Things kept under names; a name stands for the thing that was kept last under it. -/
abbrev Named (α : Type) := List (String × α)

namespace Named

variable {α : Type}

def get? (l : Named α) (name : String) : Option α := l.lookup name

def erase (l : Named α) (name : String) : Named α := l.filter fun entry => entry.1 != name

/-- What was kept under the name before is forgotten. -/
def insert (l : Named α) (name : String) (a : α) : Named α := l.erase name ++ [(name, a)]

end Named

/-- What the threads of a session share. -/
structure Client (ν : Type) where
  places : Named Ticket := []
  handles : Named HandleId := []
  tokens : Named SuspensionId := []
  /-- The counted arguments of all descriptions made so far. -/
  counters : List String := []
  fillRuns : Nat := 0
  defaultCalls : Nat := 0
  /-- Steps to be done once the first thread is blocked. -/
  queue : List (Step ν) := []
  /-- How many threads the session has started. -/
  started : Nat := 0
  /-- The results of the threads that have finished. -/
  finished : List (Nat × Result ν) := []
  /-- The threads that were told of as blocked and not yet as finished. -/
  blocked : List Nat := []
  /-- What was done while the first thread was blocked, not yet told. -/
  interludes : List (Event ν) := []
  /-- Events since the last step of the script, latest first. -/
  events : List (Event ν) := []
  /-- The steps of the script that are done, latest first. -/
  entries : List (Entry ν) := []
  closing : Option (Closing ν) := none

namespace Client

variable {ν : Type}

/-- An event is written down. -/
def tell (c : Client ν) (e : Event ν) : Client ν := { c with events := e :: c.events }

/-- The result of a thread that has finished. -/
def result? (c : Client ν) (k : Nat) : Option (Result ν) := c.finished.lookup k

/-- The events of blocked threads that have finished by now, in the order of their numbers. -/
def unblockings (c : Client ν) : List (Event ν) :=
  c.blocked.filterMap fun k => (c.result? k).map (.unblocked k)

/-- Tell what other threads have done: first what was done while the first thread was blocked, then who is blocked no more. -/
def catchUp (c : Client ν) : Client ν :=
  { c with
    events := (c.interludes ++ c.unblockings).reverse ++ c.events
    interludes := []
    blocked := c.blocked.filter fun k => (c.result? k).isNone }

/-- A step of the script is done. -/
def enter (c : Client ν) (r : Result ν) (v : View) : Client ν :=
  { c with entries := ⟨r, v, c.events.reverse⟩ :: c.entries, events := [] }

/-- How a step on another thread is told: done, or blocked so far. -/
def outcomeOf (c : Client ν) (k : Nat) : Result ν :=
  match c.result? k with
  | some r => .done r
  | none => .blocked k

/-- Thread `k` has been told of; it is remembered if it is blocked. -/
def noteBlocked (c : Client ν) (k : Nat) : Client ν :=
  if (c.result? k).isSome then c else { c with blocked := c.blocked ++ [k] }

/-- All counters, with how often each name occurs among those that were formatted. -/
def tally (c : Client ν) (formatted : List String) : List (String × Nat) :=
  c.counters.map fun name => (name, formatted.count name)

/-- The counters of one more description. -/
def addCounters (c : Client ν) (d : Description) : Client ν :=
  { c with counters := (c.counters ++ d.counters).eraseDups }

end Client

end Mailroom.Session
