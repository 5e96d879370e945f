import Mailroom.Session.Play
import Mailroom.World

/-!
# Running a script

The first thread plays the script. Which thread goes on is decided once and for all: the first thread as long as it can, except that
where it pauses all others go on first, each until it has finished or is blocked, the oldest first. One other thread need not wait
for a pause: the sender that the first thread wakes by taking a mail goes on at once, so that its mail is in the mailbox before the
first thread looks again; but until the first thread has paused once more, the next sender it wakes has to wait. When the first
thread itself is blocked and no other can go on, the next step that was put off until then is done on a new thread; when there is
none, the mailbox is closed.
-/

namespace Mailroom.Session

variable {ν : Type}

/-- A session under way. -/
abbrev Scene (ν : Type) := World (Client ν) (Option ν)

/-- What is done when a failure ends the task. What is recorded depends on how things stand, so all threads settle first; a line in
the log does not wait for them. -/
def Alarm.handler : Alarm → Failure → Code ν
  | .recording, e =>
    Code.settle (Code.inspect fun v => .write (·.tell (.fatal e v.mailbox v.processor v.length)) Code.ended)
  | .logging, e => .write (·.tell (.logged e.text)) Code.ended

/-- The default action: call by call another list of steps, and past the last the word that all is done. -/
def defaultCode (budget : Nat) (bodies : List (List (Step ν))) : Code ν :=
  let codes := bodies.zipIdx.map fun (body, i) => playAction budget .default (label i) body Code.ended
  .read fun c =>
    .write (fun c => { c with defaultCalls := c.defaultCalls + 1 }) <|
      match codes[c.defaultCalls]? with
      | some code => code
      | none => playAction budget .default (label c.defaultCalls) [.complete] Code.ended
where
  label (i : Nat) : String := "default#" ++ toString i

/-- The outcome of every handle that is still kept. -/
def lastWords : List (String × HandleId) → (List (String × Result ν) → Code ν) → Code ν
  | [], k => k []
  | (name, h) :: rest, k =>
    .call false (.tryResult h) fun reply => lastWords rest fun words => k ((name, Code.resultOf reply) :: words)

/-- The end of a session: the mail in places is dropped, the mailbox closed and what it held dropped, and every handle asked. -/
def close : Code ν :=
  .read fun c =>
    Code.discardAll (c.places.map (·.2)) <|
      .call false .closeMailbox fun
        | .mails ts =>
          Code.writeMails ts fun left =>
            Code.discardAll ts <| Code.settle <| .read fun c =>
              lastWords c.handles fun words =>
                .write (fun c => { c with closing := some ⟨left, c.events.reverse, words⟩ }) Code.ended
        | _ => Code.ended

/-- The steps of a script, each with its entry, and the end. -/
def playScript (budget : Nat) : List (Step ν) → Code ν
  | [] => close
  | s :: rest =>
    s.play budget .top fun r =>
      Code.settle (Code.inspect fun v => .write (·.enter r v) (playScript budget rest))

/-- The thread that owns the mailbox where the first thread does not: it has ended already. -/
def goneThread : ThreadId := 1

/-- A session before its first step. -/
def start (s : Script ν) : Scene ν :=
  .start (.new s.config (if s.owned then firstThread else goneThread) (s.defaults.map (defaultCode s.weight)) s.alarm.handler {})
    [playScript s.weight s.steps, Code.ended]

/-- Change what the steps of a session share. -/
def onClient (w : Scene ν) (f : Client ν → Client ν) : Scene ν :=
  { w with task := { w.task with client := f w.task.client } }

/-- A thread goes on until it has finished or is blocked. -/
def exhaust : Nat → ThreadId → Scene ν → Scene ν
  | 0, _, w => w
  | fuel + 1, t, w =>
    match w.step? t 0 with
    | some next => exhaust fuel t next
    | none => w

/-- The oldest thread, other than the first, that can go on. -/
def nextOther (w : Scene ν) : Option ThreadId :=
  ((List.range w.threads.length).drop 1).find? w.canStep

/-- The first thread is where others may go on. -/
def isPausing (w : Scene ν) : Bool := w.threads[firstThread]?.any Thread.isPausing

def isOver (w : Scene ν) : Bool := w.threads[firstThread]?.all Thread.isOver

/-- Start code on a new thread and let it go on until it has finished or is blocked. -/
def interpose (fuel : Nat) (w : Scene ν) (code : Code ν) : Scene ν := exhaust fuel w.threads.length (w.spawn code)

/-- The first thread is blocked: a step that was put off is done now. -/
def interlude (fuel : Nat) (budget : Nat) (w : Scene ν) (s : Step ν) (rest : List (Step ν)) : Scene ν :=
  let k := w.task.client.started + 1
  let w := onClient w fun c => { c with started := k, queue := rest }
  let w := interpose fuel w (Code.apart k (s.play budget .apart))
  onClient w fun c => { c.noteBlocked k with interludes := c.interludes ++ [.onBlock (c.outcomeOf k)] }

/-- The first thread is blocked and nothing is left to do: the mailbox is closed and what it held is dropped. -/
def closeForGood (fuel : Nat) (w : Scene ν) : Scene ν :=
  interpose fuel w <| .call false .closeMailbox fun
    | .mails ts =>
      Code.writeMails ts fun ms =>
        Code.discardAll ts (.write (fun c => { c with interludes := c.interludes ++ [.closedOnBlock ms] }) Code.ended)
    | _ => Code.ended

/-- The sender that the first thread has woken by taking a mail, if it has. -/
def released? (before after : Scene ν) : Option ThreadId :=
  if before.threads[firstThread]?.any Thread.isTaking then
    before.task.mailbox.senders.find? fun t => !after.task.mailbox.senders.contains t
  else none

/-- The session goes on until the first thread has finished, or until nothing can go on. `rested` says that the first thread has
paused since it last woke a sender. -/
def proceed (budget : Nat) : Nat → Bool → Scene ν → Scene ν
  | 0, _, w => w
  | fuel + 1, rested, w =>
    if isOver w then w
    else match if isPausing w then nextOther w else none with
      | some t => proceed budget fuel true (exhaust fuel t w)
      | none => match w.step? firstThread 0 with
        | some next => match if rested then released? w next else none with
          | some t => proceed budget fuel false (exhaust fuel t next)
          | none => proceed budget fuel (rested || isPausing w) next
        | none => match nextOther w with
          | some t => proceed budget fuel true (exhaust fuel t w)
          | none => match w.task.client.queue with
            | s :: rest => proceed budget fuel true (interlude fuel budget w s rest)
            | [] => if w.task.mailbox.status = .closed then w else proceed budget fuel true (closeForGood fuel w)

/-- More steps of threads than a script of this weight takes. -/
def enough (weight : Nat) : Nat := 10000 + 1000 * weight

/-- What a script tells. -/
def run (s : Script ν) : Report ν :=
  let c := (proceed s.weight (enough s.weight) true (start s)).task.client
  ⟨c.entries.reverse, c.closing⟩

end Mailroom.Session
