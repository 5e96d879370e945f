/-!
# Configuration

How many mails a mailbox holds at most, both lanes together. A configuration built by hand may ask for none; a mailbox always has
at least one slot.
-/

namespace Mailroom

/-- What a mailbox is made from. -/
structure Config where
  capacity : Nat
deriving DecidableEq, Repr

namespace Config

/-- The number of slots when nobody asks for another. -/
def standardCapacity : Nat := 1024

/-- The configuration used when nobody asks for another. -/
def standard : Config := ⟨standardCapacity⟩

/-- A configuration with the given number of slots, and one slot if that is none. -/
def withCapacity (capacity : Nat) : Config := ⟨max capacity 1⟩

/-- The slots of a mailbox made from this configuration. -/
def slots (c : Config) : Nat := max c.capacity 1

/-- There is room for one mail at least. -/
theorem slots_pos (c : Config) : 0 < c.slots := by
  unfold slots
  omega

/-- The configuration as a term. -/
def term (c : Config) : String := "MailboxConfig \x7b capacity: " ++ toString c.capacity ++ " \x7d"

end Config

end Mailroom
