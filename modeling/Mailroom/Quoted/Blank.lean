import Mailroom.Quoted.Ranges

/-!
# Blank characters

Characters that are there but show nothing: controls, blanks of all widths and the ends of lines and paragraphs, signs that only
steer layout, letters that only fill a place, and numbers left to private use. The plain space is not among them. As of Unicode 17.
-/

namespace Mailroom.Quoted

/-- The characters that show nothing, apart from the plain space. -/
def blank : Ranges :=
  [(0x0000, 0x001F), (0x007F, 0x00A0), (0x00AD, 0x00AD), (0x0600, 0x0605), (0x061C, 0x061C), (0x06DD, 0x06DD),
   (0x070F, 0x070F), (0x0890, 0x0891), (0x08E2, 0x08E2), (0x115F, 0x1160), (0x1680, 0x1680), (0x180E, 0x180E),
   (0x2000, 0x200F), (0x2028, 0x202F), (0x205F, 0x2064), (0x2066, 0x206F), (0x3000, 0x3000), (0x3164, 0x3164),
   (0xE000, 0xF8FF), (0xFEFF, 0xFEFF), (0xFFA0, 0xFFA0), (0xFFF9, 0xFFFB), (0x110BD, 0x110BD), (0x110CD, 0x110CD),
   (0x13430, 0x1343F), (0x1BCA0, 0x1BCA3), (0x1D173, 0x1D17A), (0xE0001, 0xE0001), (0xE0020, 0xE007F),
   (0xF0000, 0xFFFFD), (0x100000, 0x10FFFD)]

end Mailroom.Quoted
