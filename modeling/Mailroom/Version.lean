/-!
# Version
-/

namespace Mailroom

def versionMajor : Nat := 0
def versionMinor : Nat := 1
def versionPatch : Nat := 0

/-- The three parts of the version of this library. -/
def version : List Nat := [versionMajor, versionMinor, versionPatch]

end Mailroom
