/-!
# Blanks, control characters and trimming

A *blank* is a character with the Unicode property `White_Space`; a *control
character* is one of general category `Cc`.  `Text.trim` removes blanks from
both ends of a text, which is how identifiers, hexadecimal strings and field
values are read.
-/

namespace Attest

namespace Text

/-- The code points with the property `White_Space`, as closed ranges. -/
def blankRanges : List (Nat × Nat) :=
  [(0x9, 0xD), (0x20, 0x20), (0x85, 0x85), (0xA0, 0xA0), (0x1680, 0x1680),
   (0x2000, 0x200A), (0x2028, 0x2029), (0x202F, 0x202F), (0x205F, 0x205F), (0x3000, 0x3000)]

/-- Whether a character is a blank. -/
def isBlank (c : Char) : Bool := blankRanges.any (fun r => r.1 ≤ c.toNat && c.toNat ≤ r.2)

/-- Whether a character is a control character (`U+0000`–`U+001F`, `U+007F`–`U+009F`). -/
def isControl (c : Char) : Bool := c.toNat < 0x20 || (0x7F ≤ c.toNat && c.toNat ≤ 0x9F)

/-- Drop blanks from the front of a character list. -/
def dropBlanks : List Char → List Char
  | c :: rest => if isBlank c then dropBlanks rest else c :: rest
  | [] => []

/-- The characters with blanks removed from both ends. -/
def trimChars (cs : List Char) : List Char := (dropBlanks (dropBlanks cs).reverse).reverse

/-- The text with blanks removed from both ends. -/
def trim (s : String) : String := String.ofList (trimChars s.toList)

end Text

end Attest
