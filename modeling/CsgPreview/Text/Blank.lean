/-!
Blank characters: the Unicode `White_Space` property, and trimming by it.
-/

namespace CsgPreview.Text

def isBlank (c : Char) : Bool :=
  let n := c.toNat
  (0x09 ≤ n && n ≤ 0x0D) || n == 0x20 || n == 0x85 || n == 0xA0 || n == 0x1680 ||
  (0x2000 ≤ n && n ≤ 0x200A) || n == 0x2028 || n == 0x2029 || n == 0x202F ||
  n == 0x205F || n == 0x3000

def trimEnd (s : String) : String :=
  String.ofList (s.toList.reverse.dropWhile isBlank).reverse

def trimStart (s : String) : String :=
  String.ofList (s.toList.dropWhile isBlank)

def trim (s : String) : String := trimStart (trimEnd s)

end CsgPreview.Text
