import Mailroom.Config
import Mailroom.Failure
import Mailroom.Lanes

/-!
# The mailbox

A bounded queue behind one lock. Any thread may offer mail; only the mailbox thread takes it. Each operation below is what happens
while the lock is held, in one piece. A thread that has to wait joins one of two lines of sleepers, senders waiting for a free slot
and takers waiting for mail, and gives up the lock; it looks again after somebody has woken it. Quiescing and closing wake all
sleepers, but only after the lock has been given up, so that is a separate operation.
-/

namespace Mailroom

/-- Threads are known by their number. -/
abbrev ThreadId := Nat

/-- The life of a mailbox; it only moves forward. -/
inductive Mailbox.Status where
  /-- Mail comes and goes. -/
  | accepting
  /-- No new mail; what is queued can still be taken. -/
  | quiesced
  /-- Shut for good; what was queued has been given back. -/
  | closed
deriving DecidableEq, Repr

/-- What the status is called in texts. -/
def Mailbox.Status.name : Mailbox.Status → String
  | accepting => "Open"
  | quiesced => "Quiesced"
  | closed => "Closed"

/-- A mailbox under its lock. -/
structure Mailbox (α : Type) where
  lanes : Lanes α
  status : Mailbox.Status
  /-- The most mail it holds, both lanes together. -/
  capacity : Nat
  /-- The mailbox thread. -/
  owner : ThreadId
  /-- Senders asleep until a slot is free, in the order in which they fell asleep: the threads that wait on a condition variable of
  the lock. To fall asleep and to give up the lock is one. A notification wakes one of them, whichever it is, or none if nobody sleeps,
  and is not kept for later (`wakeOne`); a notification to all wakes all (`wakeAll`); and a sleeper may wake for no reason (`stir`). Who
  was woken gets the lock again like anybody else and has to look again. -/
  senders : List ThreadId
  /-- Takers asleep until there is mail, on a condition variable of their own. -/
  takers : List ThreadId

namespace Mailbox

variable {α : Type}

/-- A new mailbox. -/
def new (config : Config) (owner : ThreadId) : Mailbox α where
  lanes := .empty
  status := .accepting
  capacity := config.slots
  owner := owner
  senders := []
  takers := []

/-- The number of queued mails. -/
def length (b : Mailbox α) : Nat := b.lanes.length

/-- No more mail fits in. -/
def isFull (b : Mailbox α) : Bool := b.capacity ≤ b.length

/-- A line of sleepers after one of them was woken, if there was one; which one is up to `pick`. -/
def wakeOne (pick : Nat) (sleepers : List ThreadId) : List ThreadId :=
  sleepers.eraseIdx (pick % sleepers.length)

/-- What comes of a mail that is offered. -/
inductive Offered (α : Type) where
  /-- It stands at the end of its lane, in the place of a mail that stood under its key, and one taker was woken. -/
  | accepted (after : Mailbox α) (displaced : Option (Mail α))
  | refused (why : Failure)
  /-- The sender has fallen asleep. -/
  | waiting (after : Mailbox α)

/-- Offering mail. The mailbox thread never waits for a slot, since nobody else could free one. -/
def offer (b : Mailbox α) (sender : ThreadId) (m : Mail α) (pick : Nat) : Offered α :=
  match b.status with
  | .closed => .refused .closed
  | .quiesced => .refused (.rejected .quiesced)
  | .accepting =>
    if !b.isFull then .accepted { b with lanes := b.lanes.push m, takers := wakeOne pick b.takers } (b.lanes.displaced m)
    else if sender = b.owner then .refused (.rejected .full)
    else .waiting { b with senders := b.senders ++ [sender] }

/-- What comes of a take. -/
inductive Taken (α : Type) where
  /-- One mail left the queue, and one sender was woken. -/
  | mail (m : Mail α) (after : Mailbox α)
  /-- Nothing is queued that may be taken. -/
  | nothing
  | closed

/-- Taking mail without waiting for it. -/
def take (b : Mailbox α) (choice : Choice) (pick : Nat) : Taken α :=
  match b.status with
  | .closed => .closed
  | _ =>
    match b.lanes.pop choice with
    | some (m, lanes) => .mail m { b with lanes := lanes, senders := wakeOne pick b.senders }
    | none => .nothing

/-- Where the lanes have mail for the take, the take gets the first of it and wakes a sender. -/
theorem take_of_pop_eq_some {b : Mailbox α} {choice : Choice} {pick : Nat} {m : Mail α} {l : Lanes α}
    (hs : b.status ≠ .closed) (hp : b.lanes.pop choice = some (m, l)) :
    b.take choice pick = .mail m { b with lanes := l, senders := wakeOne pick b.senders } := by
  cases h : b.status <;> simp_all [take]

/-- Where the lanes have no mail for the take, the take gets nothing. -/
theorem take_of_pop_eq_none {b : Mailbox α} {choice : Choice} {pick : Nat} (hs : b.status ≠ .closed)
    (hp : b.lanes.pop choice = none) : b.take choice pick = .nothing := by
  cases h : b.status <;> simp_all [take]

/-- A taker falls asleep. -/
def restTaker (b : Mailbox α) (taker : ThreadId) : Mailbox α := { b with takers := b.takers ++ [taker] }

/-- No new mail from now on. Nothing happens, and nobody is to be woken, unless the mailbox was accepting mail. -/
def quiesce (b : Mailbox α) : Option (Mailbox α) :=
  if b.status = .accepting then some { b with status := .quiesced } else none

/-- Shut for good; the queued mail is given back, the urgent lane first. Nothing happens if the mailbox was closed already. -/
def close (b : Mailbox α) : Option (Mailbox α × List (Mail α)) :=
  if b.status = .closed then none else some ({ b with status := .closed, lanes := b.lanes.cleared }, b.lanes.toList)

/-- All sleepers are woken. -/
def wakeAll (b : Mailbox α) : Mailbox α := { b with senders := [], takers := [] }

/-- The thread is asleep in one of the lines. -/
def isAsleep (b : Mailbox α) (t : ThreadId) : Bool := b.senders.contains t || b.takers.contains t

/-- The thread wakes up without a reason. -/
def stir (b : Mailbox α) (t : ThreadId) : Mailbox α :=
  { b with senders := b.senders.erase t, takers := b.takers.erase t }

end Mailbox

end Mailroom
