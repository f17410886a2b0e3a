import Permit.Text.Ranges

/-!
# White space

The characters with the property White_Space, and text without them at its two ends.
-/

namespace Permit.Text

/-- The code points of the property White_Space. -/
def blankRanges : List (Nat × Nat) :=
  [(0x9, 0xD), (0x20, 0x20), (0x85, 0x85), (0xA0, 0xA0), (0x1680, 0x1680), (0x2000, 0x200A),
    (0x2028, 0x2029), (0x202F, 0x202F), (0x205F, 0x205F), (0x3000, 0x3000)]

def isBlank (c : Char) : Bool := inRanges blankRanges c.toNat

def trim (cs : List Char) : List Char :=
  ((cs.dropWhile isBlank).reverse.dropWhile isBlank).reverse

/-- Text is blank when trimming leaves nothing of it. -/
def allBlank (s : String) : Bool := (trim s.toList).isEmpty

@[simp] theorem trim_nil : trim [] = [] := rfl

end Permit.Text
