import Mailroom.Failure

/-!
# Handles

A submitted mail has a handle, through which its sender learns what became of it. Mail and handle share a slot, which follows a
one-shot channel: one end sends one message at most, the other end receives it once. The slot is resolved once: with a value, with a
failure, or with the news that the mail is gone unrun. It gives its outcome once. A handle that gave its outcome cannot be waited for
any more, and asking it politely says that the other side is closed.
-/

namespace Mailroom

abbrev HandleId := Nat

/-- What became of a submitted mail. A mail that never ran counts as closed. -/
abbrev Outcome (ν : Type) := Except Failure ν

/-- What a submitted mail and its handle share: a one-shot channel and a flag. The mail sends its outcome into the channel, or goes
away and so closes it. What was sent stays until the handle receives it, and the channel is closed to the handle from then on. A poll
that finds nothing leaves a waker, in the place of one left before, and the sender wakes it when it sends or goes away. -/
structure Slot (ν : Type) where
  /-- The outcome, once there is one. -/
  outcome : Option (Outcome ν) := none
  /-- The handle has given the outcome. -/
  spent : Bool := false
  /-- The sender asked for the action to be left out. -/
  cancelled : Bool := false
  /-- Whether the waker of the last poll was woken, if there was a poll. -/
  waker : Option Bool := none
deriving Inhabited

namespace Slot

variable {ν : Type}

/-- Nobody knows yet what becomes of the mail. -/
def isPending (s : Slot ν) : Bool := s.outcome.isNone

/-- The mail's side says how it ended, and the waker of the last poll is woken. Only the first word counts. -/
def resolve (s : Slot ν) (o : Outcome ν) : Slot ν :=
  match s.outcome with
  | some _ => s
  | none => { s with outcome := some o, waker := s.waker.map fun _ => true }

/-- A pending slot takes the outcome that it is given. -/
theorem outcome_resolve (s : Slot ν) (o : Outcome ν) (h : s.isPending) : (s.resolve o).outcome = some o := by
  simp only [isPending, Option.isNone_iff_eq_none] at h
  simp [resolve, h]

/-- The sender asks for the action to be left out. That is only a flag: it resolves nothing. -/
def cancel (s : Slot ν) : Slot ν := { s with cancelled := true }

/-- The outcome if it is known, and the slot after asking. Receiving without waiting never fails: a channel that has given its message
is closed. -/
def tryResult (s : Slot ν) : Option (Outcome ν) × Slot ν :=
  if s.spent then (some (.error .closed), s)
  else match s.outcome with
    | none => (none, s)
    | some o => (some o, { s with spent := true })

/-- What comes of asking a handle that has to answer for good. -/
inductive Asked (ν : Type) where
  | pending
  | ready (o : Outcome ν) (after : Slot ν)
  /-- The outcome was given before; there is nothing to wait for. -/
  | misused

/-- Asking for good, as a wait or a poll does. To receive a second time from a one-shot channel is a mistake of whoever asks. -/
def ask (s : Slot ν) : Asked ν :=
  if s.spent then .misused
  else match s.outcome with
    | none => .pending
    | some o => .ready o { s with spent := true }

/-- A fresh waker takes the place of the last poll's. -/
def watch (s : Slot ν) : Slot ν := { s with waker := some false }

/-- The message of the panic that meets whoever asks again. -/
def misuse : Payload := .text "called after complete"

end Slot

end Mailroom
