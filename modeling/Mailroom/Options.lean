/-!
# Mail options

Two independent flags kept in one byte. Bits without a meaning are kept too, and shown by their number.
-/

namespace Mailroom

/-- The options of a mail, as raw bits. -/
structure Options where
  bits : UInt8
deriving DecidableEq, Repr, Inhabited

namespace Options

/-- Mail as it usually is: not urgent, and not deferrable. -/
def empty : Options := ⟨0⟩

/-- Taken before all mail that is not urgent, and open to every yield. -/
def urgent : Options := ⟨1⟩

/-- Left to the main loop: no yield takes it, unless it is urgent as well. -/
def deferrable : Options := ⟨2⟩

/-- Both flags. -/
def all : Options := ⟨3⟩

def or (a b : Options) : Options := ⟨a.bits ||| b.bits⟩
def and (a b : Options) : Options := ⟨a.bits &&& b.bits⟩
def xor (a b : Options) : Options := ⟨a.bits ^^^ b.bits⟩

/-- The bits of `a` that `b` lacks, whatever they mean. -/
def minus (a b : Options) : Options := ⟨a.bits &&& ~~~b.bits⟩

/-- `a` without the bits that have no meaning. -/
def truncate (a : Options) : Options := a.and all

/-- The flags that `a` lacks; bits without a meaning are not among them. -/
def complement (a : Options) : Options := (⟨~~~a.bits⟩ : Options).truncate

/-- `a` has every bit of `b`. -/
def contains (a b : Options) : Bool := a.and b = b

/-- `a` has some bit of `b`. -/
def intersects (a b : Options) : Bool := a.and b ≠ empty

def isEmpty (a : Options) : Bool := a = empty

/-- Both flags are set, other bits aside. -/
def isAll (a : Options) : Bool := a.contains all

/-- The mail is urgent, whatever else it is. -/
def isUrgent (a : Options) : Bool := a.contains urgent

/-- The mail is deferrable, whatever else it is. -/
def isDeferrable (a : Options) : Bool := a.contains deferrable

/-- The options with exactly these bits, if each of them has a meaning. -/
def ofBits? (bits : UInt8) : Option Options :=
  if (⟨bits⟩ : Options).truncate = ⟨bits⟩ then some ⟨bits⟩ else none

/-- The flags with their names, in the order in which they are shown. -/
def flags : List (String × Options) := [("URGENT", urgent), ("DEFERRABLE", deferrable)]

/-- The names of the flags that are set. -/
def names (a : Options) : List String := (flags.filter fun (_, flag) => a.contains flag).map (·.1)

/-- The bits without a meaning. -/
def rest (a : Options) : Options := a.minus all

/-- A byte in lower case hexadecimal after `0x`. -/
def hex (b : UInt8) : String := "0x" ++ String.ofList (Nat.toDigits 16 b.toNat)

/-- The flags by name, then the other bits as one number, joined by bars; no bits at all are a zero. -/
def summary (a : Options) : String :=
  if a.isEmpty then hex 0
  else " | ".intercalate (a.names ++ (if a.rest.isEmpty then [] else [hex a.rest.bits]))

/-- The options as a term. -/
def term (a : Options) : String := "MailOptions(" ++ a.summary ++ ")"

end Options

end Mailroom
