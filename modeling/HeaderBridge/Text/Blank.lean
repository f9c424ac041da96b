/-!
# Blank characters

`isBlank` decides the characters that separate words: the ASCII controls from tab to
carriage return and from file separator to unit separator, the space, and the spaces
and separators beyond ASCII.
-/

namespace HeaderBridge

/-- A character that separates words. -/
def isBlank (c : Char) : Bool :=
  let n := c.toNat
  (9 ≤ n && n ≤ 13) || (28 ≤ n && n ≤ 32) || n == 0x85 || n == 0xa0 || n == 0x1680 ||
    (0x2000 ≤ n && n ≤ 0x200a) || n == 0x2028 || n == 0x2029 || n == 0x202f ||
    n == 0x205f || n == 0x3000

end HeaderBridge
