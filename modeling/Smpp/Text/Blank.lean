/-!
White space in the sense of Unicode, and the tokens that it separates.
-/

namespace Smpp

/-- The characters with the Unicode property `White_Space`. -/
def isBlank (character : Char) : Bool :=
  let code := character.toNat
  (0x09 ≤ code && code ≤ 0x0D) || code == 0x20 || code == 0x85 || code == 0xA0 || code == 0x1680 ||
    (0x2000 ≤ code && code ≤ 0x200A) || code == 0x2028 || code == 0x2029 || code == 0x202F ||
    code == 0x205F || code == 0x3000

def firstToken (characters : List Char) : List Char :=
  (characters.dropWhile isBlank).takeWhile fun character => !isBlank character

end Smpp
