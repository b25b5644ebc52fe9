/-!
# White space

The characters with the property `White_Space`, and the removal of white space at
the ends of a text. A zero-width space or a byte order mark is not white space.
-/

namespace ShellLaunch.Text

/-- Whether a character is white space: the ASCII blanks, the next-line character,
the no-break space, the Ogham space mark, the general punctuation spaces, the line
and paragraph separators, the mathematical space and the ideographic space. -/
def isBlank (c : Char) : Bool :=
  let n := c.toNat
  (0x09 ≤ n && n ≤ 0x0D) || n == 0x20 || n == 0x85 || n == 0xA0 || n == 0x1680 ||
    (0x2000 ≤ n && n ≤ 0x200A) || n == 0x2028 || n == 0x2029 || n == 0x202F ||
    n == 0x205F || n == 0x3000

def trimStart (s : List Char) : List Char :=
  s.dropWhile isBlank

def trimEnd (s : List Char) : List Char :=
  (s.reverse.dropWhile isBlank).reverse

def trim (s : List Char) : List Char :=
  trimEnd (trimStart s)

end ShellLaunch.Text
