/-!
Blank characters, and texts compared without regard to surrounding blanks and case.
-/

namespace Raid.Text

def isBlank (c : Char) : Bool :=
  let n := c.toNat
  (9 ≤ n && n ≤ 13) || n == 32 || n == 0x85 || n == 0xA0 || n == 0x1680 ||
    (0x2000 ≤ n && n ≤ 0x200A) || n == 0x2028 || n == 0x2029 || n == 0x202F || n == 0x205F ||
    n == 0x3000

def dropBlanks (text : List Char) : List Char := text.dropWhile isBlank

def trimmed (text : List Char) : List Char := (dropBlanks (dropBlanks text).reverse).reverse

/-- A keyword as people write it: surrounding blanks and the case of its letters do not count.
Keywords consist of letters and digits of ASCII and none holds a `k`, the one letter of ASCII that
is the small form of a character beyond ASCII, so that ASCII's own case rule is enough. -/
def keyword (text : String) : String := String.ofList ((trimmed text.toList).map Char.toLower)

end Raid.Text
