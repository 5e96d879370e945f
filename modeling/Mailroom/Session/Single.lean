import Mailroom.Session.Run

/-!
# One mail by itself

A script for a single mail: it is sent, taken, looked at, and then run or dropped.
-/

namespace Mailroom.Session

/-- What is done with the mail. -/
structure Single where
  envelope : Envelope
  thresholds : List Priority
  /-- How its action ends: with a failure, with a panic, or well. -/
  ending : Ending Unit
  /-- The mail is run; otherwise it is dropped. -/
  run : Bool

/-- What came of it. -/
structure Single.Report (ν : Type) where
  particulars : Result ν
  result : Result ν
  /-- How often the action ran. -/
  ran : Nat

namespace Single

variable {ν : Type}

def place : String := "mail"

/-- The last step of the action. -/
def lastStep : Ending Unit → List (Step ν)
  | .returned _ => []
  | .failed e => [.err e]
  | .panicked p => [.panic p]

/-- The mail is put, taken, looked at, and run or dropped. -/
def script (s : Single) : Script ν where
  config := .standard
  owned := true
  alarm := .recording
  defaults := none
  steps := [
    .post .put place s.envelope (.log place :: lastStep s.ending),
    .take .oldest false (some place),
    .mailInfo place s.thresholds,
    if s.run then .runMail place else .dropMail place]

/-- The event tells that the action of the mail began. -/
def isStart : Event ν → Bool
  | .step _ "log" _ _ => true
  | _ => false

/-- The script is run, and the mail told of. -/
def report (s : Single) : Single.Report ν :=
  let entries := (Session.run s.script).entries
  { particulars := (entries[2]?.map (·.result)).getD .pending
    result := (entries[3]?.map (·.result)).getD .pending
    ran := (entries.flatMap (·.events)).countP isStart }

end Single

end Mailroom.Session
