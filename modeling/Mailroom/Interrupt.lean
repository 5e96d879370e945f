/-!
# Interrupt flags

A flag that asks long work to stop at the next convenient point. A copy of a flag is the same flag: what is raised through one is
raised through all.
-/

namespace Mailroom

/-- Flags held by somebody, some of which may be copies of others: for each flag the cell it reads, and the cells. -/
structure Flags where
  cells : List Bool
  cellOf : List Nat
deriving DecidableEq, Repr

namespace Flags

/-- One fresh flag. -/
def one : Flags := ⟨[false], [0]⟩

/-- Whether flag number `i` is raised. -/
def isRaised (f : Flags) (i : Nat) : Bool := (f.cellOf[i]?.bind (f.cells[·]?)).getD false

/-- All flags, in order. -/
def raised (f : Flags) : List Bool := (List.range f.cellOf.length).map f.isRaised

/-- The cell of flag `i` is set, and so are all flags that share it. -/
def set (f : Flags) (i : Nat) (value : Bool) : Flags :=
  match f.cellOf[i]? with
  | some c => { f with cells := f.cells.set c value }
  | none => f

def raise (f : Flags) (i : Nat) : Flags := f.set i true

def clear (f : Flags) (i : Nat) : Flags := f.set i false

/-- One more flag: a copy of flag `i`. -/
def copy (f : Flags) (i : Nat) : Flags :=
  match f.cellOf[i]? with
  | some c => { f with cellOf := f.cellOf ++ [c] }
  | none => f

/-- One more flag, with a cell of its own. -/
def fresh (f : Flags) : Flags := ⟨f.cells ++ [false], f.cellOf ++ [f.cells.length]⟩

/-- What can be done with flag number `i`. -/
inductive Action where
  | raise (i : Nat)
  | clear (i : Nat)
  | copy (i : Nat)
  | fresh
deriving DecidableEq, Repr

/-- The flags after an action. -/
def apply (f : Flags) : Action → Flags
  | .raise i => f.raise i
  | .clear i => f.clear i
  | .copy i => f.copy i
  | .fresh => f.fresh

/-- All flags after each action. -/
def trail (f : Flags) : List Action → List (List Bool)
  | [] => []
  | a :: rest => (f.apply a).raised :: (f.apply a).trail rest

end Flags

end Mailroom
