import Mailroom.Body
import Mailroom.Session.Client

/-!
# Playing steps

Every step becomes the code of a body, which goes on with the result of the step. A step asks the library only what its own words
say; the names of mail, handles and suspensions are looked up in the state of the session.

Code settles, that is, it lets all other threads go on until each has finished or is blocked and then tells what they did, before an
action begins, after each step of an action, before a failure is recorded and after each step of the script. Only the first thread
of a session settles.
-/

namespace Mailroom.Session

/-- The code of a session; mail that is not submitted returns no value. -/
abbrev Code (ν : Type) := Body (Client ν) (Option ν)

/-- What code does with a result. -/
abbrev Sequel (ν : Type) := Result ν → Code ν

/-- Where a step stands. -/
inductive Position where
  /-- At the top of the script. -/
  | top
  /-- On a thread of its own. -/
  | apart
  /-- Directly in the default action. -/
  | default
  /-- In the action of a mail. -/
  | action
deriving DecidableEq, Repr

/-- A panic that comes out of a step is a result of it, unless an action is there to be ended by it. -/
def Position.guards : Position → Bool
  | top => true
  | apart => true
  | _ => false

/-- The first thread of a session. -/
def firstThread : ThreadId := 0

variable {ν : Type}

namespace Code

/-- The end of code that has gone well. -/
def ended : Code ν := .finish (.returned none)

/-- Let the other threads go on and tell what they did. -/
def settle (next : Code ν) : Code ν :=
  .self fun me => if me = firstThread then .pause (.write Client.catchUp next) else next

/-- Look at how things stand. -/
def inspect (k : View → Code ν) : Code ν :=
  .call false .inspect fun
    | .view v => k v
    | _ => ended

/-- Ask the library; a panic that was caught is the result of the step. -/
def ask (here : Position) (r : Request) (k : Sequel ν) (f : Reply (Option ν) → Code ν) : Code ν :=
  .call here.guards r fun
    | .panicked p => k (.panic p)
    | reply => f reply

/-- The result that a reply amounts to. -/
def resultOf : Reply (Option ν) → Result ν
  | .done => .ok .unit
  | .failed e => .err e
  | .flag b => .ok (.flag b)
  | .text s => .ok (.text s)
  | .outcome none => .pending
  | .outcome (some (.ok (some v))) => .ok (.value v)
  | .outcome (some (.ok none)) => .ok .unit
  | .outcome (some (.error e)) => .err e
  | .woken w => .ok (.woken w)
  | .panicked p => .panic p
  | _ => .ok .unit

/-- Ask the library, and take its reply as the result of the step. -/
def request (here : Position) (r : Request) (k : Sequel ν) : Code ν := ask here r k fun reply => k (resultOf reply)

/-- Write down a mail in hand. -/
def writeMail (t : Ticket) (k : Written → Code ν) : Code ν :=
  .call false (.display t) fun
    | .text s =>
      .call false (.look t) fun
        | .envelope m => k ⟨s, m.options, m.priority⟩
        | _ => ended
    | _ => ended

/-- Write down mails in hand, one after the other. -/
def writeMails : List Ticket → (List Written → Code ν) → Code ν
  | [], k => k []
  | t :: rest, k => writeMail t fun m => writeMails rest fun ms => k (m :: ms)

/-- Drop a mail in hand. -/
def discard (t : Ticket) (next : Code ν) : Code ν := .call false (.discard t) fun _ => next

def discardAll (ts : List Ticket) (next : Code ν) : Code ν := ts.foldr discard next

/-- Hold a mail in a place; what was there is dropped. -/
def keep (place : String) (t : Ticket) (next : Code ν) : Code ν :=
  .read fun c =>
    let kept := .write (fun c => { c with places := c.places.insert place t }) next
    match c.places.get? place with
    | some old => discard old kept
    | none => kept

/-- Hold mails in places with a name and a number each. -/
def keepAll (name : String) : Nat → List Ticket → Code ν → Code ν
  | _, [], next => next
  | i, t :: rest, next => keep (name ++ toString i) t (keepAll name (i + 1) rest next)

/-- Write down mails that were given back, and hold or drop them. -/
def giveBack (name : Option String) (ts : List Ticket) (k : Sequel ν) : Code ν :=
  writeMails ts fun ms =>
    match name with
    | some name => keepAll name 0 ts (k (.ok (.mails ms)))
    | none => discardAll ts (k (.ok (.mails ms)))

/-- A take: the mail is written down, and held or dropped. -/
def take (here : Position) (choice : Choice) (patient : Bool) (place : Option String) (k : Sequel ν) : Code ν :=
  ask here (.take choice patient) k fun
    | .mail (some t) =>
      writeMail t fun m =>
        match place with
        | some place => keep place t (k (.ok (.mail (some m))))
        | none => discard t (k (.ok (.mail (some m))))
    | .mail none => k (.ok (.mail none))
    | reply => k (resultOf reply)

/-- Something done with the mail in a place, which it leaves. -/
def fromPlace (place : String) (k : Sequel ν) (f : Ticket → Code ν) : Code ν :=
  .read fun c =>
    match c.places.get? place with
    | some t => .write (fun c => { c with places := c.places.erase place }) (f t)
    | none => k (.bad .noSuchMail)

/-- All there is to know about a mail in hand; its description is rendered twice. -/
def particulars (t : Ticket) (thresholds : List Priority) (k : Particulars → Code ν) : Code ν :=
  .call false (.display t) fun
    | .text shown =>
      .call false (.display t) fun
        | .text inTerm =>
          .call false (.look t) fun
            | .envelope m => k {
                display := shown
                term := m.term inTerm
                template := m.description.template
                arguments := m.description.arguments.length
                options := m.options
                priority := m.priority
                urgent := m.isUrgent
                deferrable := m.isDeferrable
                eligible := thresholds.map m.isEligible }
            | _ => ended
        | _ => ended
    | _ => ended

/-- Something done with a handle that is kept under a name. -/
def withHandle (name : String) (k : Sequel ν) (f : HandleId → Code ν) : Code ν :=
  .read fun c =>
    match c.handles.get? name with
    | some h => f h
    | none => k (.bad .noSuchHandle)

/-- The handle leaves the name it was kept under. -/
def forget (name : String) (next : Code ν) : Code ν :=
  .write (fun c => { c with handles := c.handles.erase name }) next

/-- The handle is kept under a name. -/
def remember (name : String) (h : HandleId) (next : Code ν) : Code ν :=
  .write (fun c => { c with handles := c.handles.insert name h }) next

/-- A poll; a handle that panics over it is lost. -/
def poll (here : Position) (name : String) (k : Sequel ν) : Code ν :=
  withHandle name k fun h => forget name (ask here (.poll h) k fun reply => remember name h (k (resultOf reply)))

/-- Something done with a suspension that is kept under a name. -/
def withToken (name : String) (k : Sequel ν) (f : SuspensionId → Code ν) : Code ν :=
  .read fun c =>
    match c.tokens.get? name with
    | some s => f s
    | none => k (.bad .noSuchToken)

/-- What numbered mail does: it counts. -/
def countRun : Code ν := settle (.write (fun c => { c with fillRuns := c.fillRuns + 1 }) ended)

/-- Send numbered mails: `left` more, after `sent`. -/
def fill (options : Options) (priority : Priority) (k : Sequel ν) : Nat → Nat → Code ν
  | 0, sent => k (.ok (.filled sent none))
  | left + 1, sent =>
    .post ⟨⟨"fill \x7b\x7d", [.number sent]⟩, options, priority⟩ countRun fun
      | .failed e => k (.ok (.filled sent (some e)))
      | _ => fill options priority k left (sent + 1)

/-- Yield without waiting until there is nothing to yield to; at most `budget` mails can be there. -/
def drainYield (here : Position) (p : Priority) (k : Sequel ν) : Nat → Nat → Code ν
  | 0, ran => k (.ok (.count ran))
  | budget + 1, ran =>
    ask here (.yield p false) k fun
      | .flag true => drainYield here p k budget (ran + 1)
      | .failed e => k (.err e)
      | _ => k (.ok (.count ran))

/-- A step that belongs to the top of the script. -/
def onTop (here : Position) (k : Sequel ν) (code : Code ν) : Code ν := if here = .top then code else k (.bad .topOnly)

/-- A step that belongs into a default action. -/
def inDefault (here : Position) (k : Sequel ν) (code : Code ν) : Code ν :=
  if here = .default then code else k (.bad .defaultOnly)

/-- A step on a thread of its own, under the number `k`, which leaves its result behind. -/
def apart (k : Nat) (play : Sequel ν → Code ν) : Code ν :=
  play fun r => .write (fun c => { c with finished := (k, r) :: c.finished }) ended

/-- Start a step on a thread of its own, and go on once it has finished or is blocked. -/
def foreign (play : Sequel ν → Code ν) (k : Sequel ν) : Code ν :=
  .self fun me =>
    if me ≠ firstThread then k (.bad .alreadyForeign)
    else .read fun c =>
      let number := c.started + 1
      .write (fun c => { c with started := number }) <|
        .fork (apart number play) <| .pause <| .read fun c =>
          .write (·.noteBlocked number) (k (c.outcomeOf number))

/-- The event of a step of an action, after all threads have settled. -/
def event (label name : String) (r : Result ν) (next : Code ν) : Code ν :=
  settle (inspect fun v => .write (·.tell (.step label name r v.length)) next)

end Code

/-- How an action goes on after a step. A step may be there to end it, and a failure of a strict step ends it too. -/
def Step.afterwards : Step ν → Result ν → Code ν → Code ν
  | .err e, _, _ => .finish (.failed e)
  | .panic p, _, _ => .finish (.panicked p)
  | .strict _, .err e, _ => .finish (.failed e)
  | .strict inner, r, next => inner.afterwards r next
  | _, _, next => next

/-- What a submitted mail returns when its action has gone through all steps. -/
def returning (v : ν) : Code ν := .finish (.returned (some v))

mutual

/-- The code of a step; `budget` bounds how many mails there can be. -/
def Step.play (budget : Nat) (here : Position) : Step ν → Sequel ν → Code ν
  | .log text, k => k (.ok (.text text))
  | .post _ label envelope body, k =>
    .write (·.addCounters envelope.description) <|
      .post envelope (Code.settle (playSteps budget .action label body Code.ended)) fun reply => k (Code.resultOf reply)
  | .submit label description priority body value, k =>
    .write (·.addCounters description) <|
      .submit description priority (Code.settle (playSteps budget .action label body (returning value))) fun
        | .handle h => Code.remember label h (k (.ok .unit))
        | reply => k (Code.resultOf reply)
  | .fill count options priority, k => Code.fill options priority k count 0
  | .fillRuns, k => .read fun c => k (.ok (.count c.fillRuns))
  | .take choice patient place, k => Code.take here choice patient place k
  | .yield p patient, k => Code.request here (.yield p patient) k
  | .drainYield p, k => Code.drainYield here p k budget 0
  | .runMail place, k => Code.fromPlace place k fun t => Code.request here (.run t) k
  | .dropMail place, k => Code.fromPlace place k fun t => Code.discard t (k (.ok .unit))
  | .putMail place, k => Code.fromPlace place k fun t => Code.request here (.putBack t) k
  | .mailInfo place thresholds, k => .read fun c =>
    match c.places.get? place with
    | some t => Code.particulars t thresholds fun p => k (.ok (.particulars p))
    | none => k (.bad .noSuchMail)
  | .quiesceMailbox, k => Code.request here .quiesceMailbox k
  | .closeMailbox place, k => Code.ask here .closeMailbox k fun
    | .mails ts => Code.giveBack place ts k
    | reply => k (Code.resultOf reply)
  | .quiesce, k => Code.request here .quiesce k
  | .fail e, k => Code.request here (.report e) k
  | .quiesceProcessor, k => Code.onTop here k (Code.request here .quiesce k)
  | .closeProcessor place, k => Code.onTop here k <| Code.ask here .close k fun
    | .mails ts => Code.giveBack place ts k
    | reply => k (Code.resultOf reply)
  | .loop, k => Code.onTop here k (Code.request here .loop k)
  | .step, k => Code.onTop here k (Code.request here .step k)
  | .query, k => Code.inspect fun v => k (.ok (.query v))
  | .executor priority, k => Code.inspect fun v => k (.ok (.executor priority v))
  | .mailboxTerm, k => Code.inspect fun v => k (.ok (.text v.mailboxTerm))
  | .processorTerm, k => Code.onTop here k (Code.inspect fun v => k (.ok (.text v.term)))
  | .renders, k => .call false .formatted fun
    | .names ns => .read fun c => k (.ok (.renders (c.tally ns)))
    | reply => k (Code.resultOf reply)
  | .raise, k => Code.request here .raise k
  | .clear, k => Code.request here .clear k
  | .shouldInterrupt, k => Code.request here .isInterrupted k
  | .tryResult name, k => Code.withHandle name k fun h => Code.request here (.tryResult h) k
  | .wait name, k => Code.withHandle name k fun h => Code.forget name (Code.request here (.wait h) k)
  | .cancel name, k => Code.withHandle name k fun h => Code.request here (.cancel h) k
  | .isCancelled name, k => Code.withHandle name k fun h => Code.request here (.isCancelled h) k
  | .dropHandle name, k => Code.withHandle name k fun _ => Code.forget name (k (.ok .unit))
  | .poll name, k => Code.poll here name k
  | .woken name, k => Code.withHandle name k fun h => Code.request here (.woken h) k
  | .suspend name, k => Code.inDefault here k <| Code.ask here .suspend k fun
    | .suspension s => .write (fun c => { c with tokens := c.tokens.insert name s }) (k (.ok .unit))
    | reply => k (Code.resultOf reply)
  | .complete, k => Code.inDefault here k (Code.request here .complete k)
  | .resume name, k => Code.withToken name k fun s => Code.request here (.resume s) k
  | .isSuspended name, k => Code.withToken name k fun _ => Code.request here .isSuspended k
  | .foreign inner, k => Code.foreign (inner.play budget .apart) k
  | .onBlock inner, k => .write (fun c => { c with queue := c.queue ++ [inner] }) (k (.ok .unit))
  | .err e, k => k (.failing e.text)
  | .panic _, k => k .panicking
  | .strict inner, k => inner.play budget here k

/-- The code of the steps of an action, in order: each step, its event, and how the action goes on. -/
def playSteps (budget : Nat) (here : Position) (label : String) : List (Step ν) → Code ν → Code ν
  | [], last => last
  | s :: rest, last =>
    s.play budget here fun r =>
      Code.event label s.name r (s.afterwards r (playSteps budget here label rest last))

end

/-- The code of an action: once all threads have settled, its steps, and then its end. -/
def playAction (budget : Nat) (here : Position) (label : String) (body : List (Step ν)) (last : Code ν) : Code ν :=
  Code.settle (playSteps budget here label body last)

end Mailroom.Session
