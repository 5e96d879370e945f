import Mailroom.Request

/-!
# Bodies

Code that runs in a task: actions of mail, default actions, handlers, and the programs of other threads. A body is a tree: it ends,
or it does one thing and goes on with what it learnt. `σ` is the state that all bodies of a task share, and `ν` the type of the
values that submitted mail returns. Bodies refer to mail and handles by number, so a body never contains the mailbox it runs in.
-/

namespace Mailroom

/-- How a body ends. -/
inductive Ending (ν : Type) where
  | returned (v : ν)
  | failed (e : Failure)
  | panicked (p : Payload)

/-- What a body does, step by step. -/
inductive Body (σ ν : Type) where
  | finish (e : Ending ν)
  /-- Look at the shared state. -/
  | read (k : σ → Body σ ν)
  /-- Change the shared state. -/
  | write (f : σ → σ) (next : Body σ ν)
  /-- Ask which thread this is. -/
  | self (k : ThreadId → Body σ ν)
  /-- A point at which other threads may well be given time. -/
  | pause (next : Body σ ν)
  /-- Start a thread. -/
  | fork (program next : Body σ ν)
  /-- Send a mail whose failure is the business of whoever runs it. -/
  | post (envelope : Envelope) (action : Body σ ν) (k : Reply ν → Body σ ν)
  /-- Send a mail whose outcome is kept for its handle. -/
  | submit (description : Description) (priority : Priority) (action : Body σ ν) (k : Reply ν → Body σ ν)
  /-- Ask something of the library; a guarded call catches a panic that comes out of it. -/
  | call (guarded : Bool) (request : Request) (k : Reply ν → Body σ ν)

end Mailroom
