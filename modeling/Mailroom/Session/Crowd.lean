import Mailroom.World

/-!
# A crowd of senders

Several threads send numbered mail to one task while its main loop runs; the last of them to finish lets the task end in good order.
Threads take turns, each going on until it has to wait. What is reported does not depend on who goes first.
-/

namespace Mailroom.Session

/-- How many send how much to what. -/
structure Crowd where
  config : Config
  producers : Nat
  mails : Nat
  /-- Every mail whose number this divides is urgent, if it is not zero. -/
  urgentEvery : Nat

namespace Crowd

/-- A mail that has run: who sent it, its number, and its lane. -/
structure Run where
  producer : Nat
  number : Nat
  urgent : Bool

/-- What the threads share. -/
structure Board where
  /-- The producers of all accepted mails, one entry for each mail. -/
  accepted : List Nat := []
  /-- Latest first. -/
  runs : List Run := []
  /-- How many producers have finished. -/
  finished : Nat := 0
  result : Option (Reply Unit) := none

abbrev Program := Body Board Unit

/-- What is told of a crowd at the end. -/
structure Report where
  result : Option (Reply Unit)
  accepted : List Nat
  processed : Nat
  processor : Processor.Status
  left : Nat
  /-- For each producer the numbers of its urgent mails and of its other mails, in the order in which they ran. -/
  runs : List (List Nat × List Nat)

def ended : Program := .finish (.returned ())

/-- Every so many mails of a producer one is urgent, its first among them. -/
def isUrgent (c : Crowd) (i : Nat) : Bool := c.urgentEvery ≠ 0 && i % c.urgentEvery = 0

/-- A producer that has `left` mails to send. -/
def produce (c : Crowd) (producer : Nat) : Nat → Program
  | 0 =>
    .write (fun b => { b with finished := b.finished + 1 }) <| .read fun b =>
      if b.finished = c.producers then .call false .quiesce fun _ => ended else ended
  | left + 1 =>
    let i := c.mails - (left + 1)
    let envelope : Envelope := {
      description := ⟨"mail \x7b\x7d", [.number i]⟩
      options := if c.isUrgent i then .urgent else .empty
      priority := Int32.ofNat producer }
    let action : Program := .write (fun b => { b with runs := ⟨producer, i, c.isUrgent i⟩ :: b.runs }) ended
    .post envelope action fun
      | .done => .write (fun b => { b with accepted := producer :: b.accepted }) (produce c producer left)
      | _ => produce c producer left

/-- The first thread starts the producers and runs the main loop. -/
def program (c : Crowd) : Program :=
  let loop : Program := .call false .loop fun r => .write (fun b => { b with result := some r }) ended
  if c.producers = 0 then .call false .quiesce fun _ => loop
  else (List.range c.producers).foldr (fun n next => .fork (produce c n c.mails) next) loop

/-- The first thread is the mailbox thread. -/
def start (c : Crowd) : World Board Unit := .start (.new c.config 0 none (fun _ => ended) {}) [c.program]

/-- Threads go on in turn, each until it has to wait. -/
def proceed : Nat → ThreadId → Nat → World Board Unit → World Board Unit
  | 0, _, _, w => w
  | fuel + 1, t, idle, w =>
    match w.step? t 0 with
    | some next => proceed fuel t 0 next
    | none => if w.threads.length < idle then w else proceed fuel ((t + 1) % w.threads.length) (idle + 1) w

/-- More steps than the crowd takes. -/
def enough (c : Crowd) : Nat := 1000 + 100 * (c.producers + 1) * (c.mails + 1)

/-- The crowd is run and told of. -/
def report (c : Crowd) : Report :=
  let w := proceed c.enough 0 0 c.start
  let b := w.task.client
  { result := b.result
    accepted := (List.range c.producers).map fun n => b.accepted.count n
    processed := w.task.processor.processed
    processor := w.task.processor.status
    left := w.task.mailbox.length
    runs := (List.range c.producers).map fun n =>
      let mine := (b.runs.filter (·.producer = n)).reverse
      ((mine.filter (·.urgent)).map (·.number), (mine.filter (!·.urgent)).map (·.number)) }

end Crowd

end Mailroom.Session
