import Mailroom.Description
import Mailroom.Options

/-!
# Mail

A mail is an action with its description and with what decides when it may run: its options and the priority of whoever sent it.
-/

namespace Mailroom

/-- The place of a sender in the task; any 32 bit number. -/
abbrev Priority := Int32

namespace Priority

/-- The lowest priority that senders are meant to have. -/
def lowest : Priority := -1

/-- The highest priority there is. -/
def highest : Priority := 2147483647

end Priority

/-- What a mail shows of itself without its action. -/
structure Envelope where
  description : Description
  options : Options := .empty
  priority : Priority := 0
deriving Inhabited

/-- A queued action of type `α`. -/
structure Mail (α : Type) extends Envelope where
  action : α

namespace Envelope

def isUrgent (m : Envelope) : Bool := m.options.isUrgent

def isDeferrable (m : Envelope) : Bool := m.options.isDeferrable

/-- A yield with threshold `p` may take this mail: it is urgent, or it is not deferrable and has at least that priority. -/
def isEligible (m : Envelope) (p : Priority) : Bool :=
  m.isUrgent || (!m.isDeferrable && p ≤ m.priority)

/-- The mail as a term, around its rendered description. -/
def term (m : Envelope) (rendered : String) : String :=
  "Mail \x7b description: MailDescription(" ++ Quoted.encode rendered ++ "), options: " ++ m.options.term ++
    ", priority: " ++ toString m.priority.toInt ++ ", .. \x7d"

end Envelope

end Mailroom
