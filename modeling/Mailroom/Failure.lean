import Mailroom.Quoted

/-!
# Failures

Why a call failed, as causes; the texts are written in one place each. A failure may carry the failure that caused it, so a
failure is a chain, and the text of each link ends with the text of the next.
-/

namespace Mailroom

/-- Why mail, or a take, was turned away by a mailbox that is not closed. -/
inductive Refusal where
  /-- No new mail is accepted any more. -/
  | quiesced
  /-- There is no free slot, and the mailbox thread cannot wait for itself to free one. -/
  | full
  /-- No new mail can come, and none that is queued may be taken by this yield. -/
  | nothingEligible
  /-- A reason given by somebody else. -/
  | other (reason : String)
deriving DecidableEq, Repr

/-- The refusal as a text. -/
def Refusal.reason : Refusal → String
  | quiesced => "mailbox is quiesced"
  | full => "mailbox is full and the mailbox thread cannot wait for itself"
  | nothingEligible => "mailbox is quiesced and holds no mail eligible for yield"
  | other reason => reason

/-- What only the mailbox thread may do. -/
inductive Duty where
  | takeOldest
  | tryTakeOldest
  | takeEligible
  | tryTakeEligible
  | yield
  | tryYield
  | runLoop
  | runStep
  | other (name : String)
deriving DecidableEq, Repr

/-- The name of the operation in texts. -/
def Duty.name : Duty → String
  | takeOldest => "take_for_main_loop"
  | tryTakeOldest => "try_take_for_main_loop"
  | takeEligible => "take_for_yield"
  | tryTakeEligible => "try_take_for_yield"
  | yield => "yield"
  | tryYield => "try_yield"
  | runLoop => "run_mailbox_loop"
  | runStep => "run_mailbox_step"
  | other name => name

/-- What a panic carries: a text, or something that cannot be read. -/
inductive Payload where
  | text (s : String)
  | unreadable
deriving DecidableEq, Repr

/-- The text of a payload that somebody caught. -/
def Payload.message : Payload → String
  | text s => s
  | unreadable => "non-string panic payload"

/-- Why something failed. -/
inductive Failure where
  /-- A failure of the client's own, known by its text. -/
  | plain (text : String)
  /-- Turned away, but not for good. -/
  | rejected (why : Refusal)
  /-- The mailbox is closed for good. -/
  | closed
  /-- The action of the mail with this description failed. -/
  | actionFailed (description : String) (source : Failure)
  /-- The action of the mail with this description panicked, and the panic was caught. -/
  | actionPanicked (description : String) (message : String)
  /-- Not on the mailbox thread. -/
  | wrongThread (duty : Duty)
  /-- The end of the whole task. -/
  | fatal (source : Failure)
deriving DecidableEq, Repr

namespace Failure

/-- The failure in words. -/
def text : Failure → String
  | plain text => text
  | rejected why => "Mail rejected: " ++ why.reason
  | closed => "Mailbox is closed"
  | actionFailed description source => "Mail '" ++ description ++ "' failed: " ++ source.text
  | actionPanicked description message => "Mail '" ++ description ++ "' panicked: " ++ message
  | wrongThread duty => duty.name ++ " must be called from the mailbox thread"
  | fatal source => "Fatal task failure: " ++ source.text

/-- The failure that caused this one, if there is one. -/
def source? : Failure → Option Failure
  | actionFailed _ source => some source
  | fatal source => some source
  | _ => none

/-- A cause is a part of the failure that it caused, so the causes of causes come to an end. -/
theorem sizeOf_lt_of_source?_eq_some {e source : Failure} (h : e.source? = some source) : sizeOf source < sizeOf e := by
  cases e with
  | actionFailed d source' =>
    cases h
    rw [actionFailed.sizeOf_spec]
    omega
  | fatal source' =>
    cases h
    rw [fatal.sizeOf_spec]
    omega
  | _ => cases h

/-- The failures behind this one, nearest first: the one that caused it, the one that caused that, and so on. -/
def sources (e : Failure) : List Failure :=
  match h : e.source? with
  | none => []
  | some source =>
    have : sizeOf source < sizeOf e := sizeOf_lt_of_source?_eq_some h
    source :: source.sources
termination_by sizeOf e

/-- Behind a failure with no cause there is nothing. -/
theorem sources_of_source?_eq_none {e : Failure} (h : e.source? = none) : e.sources = [] := by
  rw [sources]
  split
  · rfl
  · rename_i he
    cases h.symm.trans he

/-- Behind a failure stands its cause, and behind that what stands behind the cause. -/
theorem sources_of_source?_eq_some {e source : Failure} (h : e.source? = some source) : e.sources = source :: source.sources := by
  rw [sources]
  split
  · rename_i he
    cases h.symm.trans he
  · rename_i he
    cases h.symm.trans he
    rfl

/-- The failure as a term: constructor, fields, texts in quotes. -/
def term : Failure → String
  | plain text => Quoted.encode text
  | rejected why => "Rejected(" ++ Quoted.encode why.reason ++ ")"
  | closed => "Closed"
  | actionFailed description source =>
    "ActionFailed \x7b description: " ++ Quoted.encode description ++ ", source: " ++ source.term ++ " \x7d"
  | actionPanicked description message =>
    "ActionPanicked \x7b description: " ++ Quoted.encode description ++ ", message: " ++ Quoted.encode message ++ " \x7d"
  | wrongThread duty => "IllegalThread \x7b operation: " ++ Quoted.encode duty.name ++ " \x7d"
  | fatal source => "Fatal(" ++ source.term ++ ")"

/-- The failure as the end of the whole task; one that is the end already stays as it is. -/
def toFatal : Failure → Failure
  | fatal source => fatal source
  | e => fatal e

/-- Made fatal, a failure is the end of the task, whatever it was. -/
theorem exists_toFatal_eq (e : Failure) : ∃ source, e.toFatal = fatal source := by
  cases e <;> exact ⟨_, rfl⟩

/-- The mailbox is closed, and nothing else has failed. -/
def isClosed : Failure → Bool
  | closed => true
  | _ => false

/-- The mail, or the call, was turned away. -/
def isRejected : Failure → Bool
  | rejected _ => true
  | _ => false

end Failure

end Mailroom
