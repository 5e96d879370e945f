import Mailroom.Mail

/-!
# Lanes

Where queued mail stands. Urgent mail stands in a line of its own. All other mail stands in the normal lane, where each mail has a
key, so that a yield can pass over mail it may not take and unlink the first it may, without touching the order of the rest. Keys
count up and start over after the largest word.
-/

namespace Mailroom

/-- Queued mail, oldest first in each lane. -/
structure Lanes (α : Type) where
  urgent : List (Mail α)
  /-- A map from keys to mail that keeps the order in which entries were put into it, as the list of its entries. Taking an entry out
  leaves the order of the others as it is; putting one under a key that is there already replaces what stood there, and moves the
  key to the end. -/
  normal : List (UInt64 × Mail α)
  /-- The key that the next mail gets. -/
  nextKey : UInt64

namespace Lanes

variable {α : Type}

/-- No mail; the first key is 0. -/
def empty : Lanes α := ⟨[], [], 0⟩

/-- The number of queued mails. -/
def length (l : Lanes α) : Nat := l.urgent.length + l.normal.length

/-- The normal lane without the mail that stands under a key. -/
def unlink (key : UInt64) (lane : List (UInt64 × Mail α)) : List (UInt64 × Mail α) :=
  lane.eraseP fun entry => entry.1 == key

/-- The normal lane with a mail under a key, at the end; a mail that stood under that key already is replaced, and the order of the
other entries stays. -/
def link (key : UInt64) (m : Mail α) (lane : List (UInt64 × Mail α)) : List (UInt64 × Mail α) :=
  unlink key lane ++ [(key, m)]

/-- One more mail, at the end of its lane. -/
def push (l : Lanes α) (m : Mail α) : Lanes α :=
  if m.isUrgent then { l with urgent := l.urgent ++ [m] }
  else { l with normal := link l.nextKey m l.normal, nextKey := l.nextKey + 1 }

/-- The mail that a push displaces: what still stands under the next key, once the count of keys has come around to it. -/
def displaced (l : Lanes α) (m : Mail α) : Option (Mail α) :=
  if m.isUrgent then none else (l.normal.find? fun entry => entry.1 == l.nextKey).map (·.2)

/-- The oldest urgent mail, else the oldest of the normal lane, and the lanes without it. -/
def popOldest (l : Lanes α) : Option (Mail α × Lanes α) :=
  match l.urgent, l.normal with
  | m :: rest, _ => some (m, { l with urgent := rest })
  | [], (_, m) :: rest => some (m, { l with normal := rest })
  | [], [] => none

/-- The oldest urgent mail, else the oldest of the normal lane that a yield with threshold `p` may take, and the lanes without
it. The scan finds a key, and the mail under that key is taken. -/
def popEligible (l : Lanes α) (p : Priority) : Option (Mail α × Lanes α) :=
  match l.urgent with
  | m :: rest => some (m, { l with urgent := rest })
  | [] =>
    match l.normal.find? fun entry => entry.2.isEligible p with
    | none => none
    | some (key, _) =>
      match l.normal.find? fun entry => entry.1 == key with
      | none => none
      | some (_, m) => some (m, { l with normal := unlink key l.normal })

/-- All queued mail, the urgent lane first. -/
def toList (l : Lanes α) : List (Mail α) := l.urgent ++ l.normal.map (·.2)

/-- The lanes after all mail was taken out; the count of keys goes on. -/
def cleared (l : Lanes α) : Lanes α := { l with urgent := [], normal := [] }

@[simp] theorem toList_empty : (empty : Lanes α).toList = [] := rfl

@[simp] theorem toList_cleared (l : Lanes α) : l.cleared.toList = [] := rfl

/-- Both lanes count. -/
theorem length_toList (l : Lanes α) : l.toList.length = l.length := by simp [toList, length]

end Lanes

/-- How a mail is chosen. -/
inductive Choice where
  /-- As the main loop does: urgent mail first, then the oldest, whatever it is. -/
  | oldest
  /-- As a yield does: urgent mail first, then the oldest that the threshold lets it take. -/
  | eligible (threshold : Priority)
deriving DecidableEq, Repr

/-- The chosen mail and the lanes without it. -/
def Lanes.pop {α : Type} (l : Lanes α) : Choice → Option (Mail α × Lanes α)
  | .oldest => l.popOldest
  | .eligible p => l.popEligible p

end Mailroom
