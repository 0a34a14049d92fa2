/-!
# Blanks

The characters that separate words: Unicode white space, which is the same set in every edition of
the standard.
-/

namespace TextAdventure.Text

/-- White space: the ASCII controls from tab to carriage return, the space, the next-line control
and the spaces and separators of the other blocks. -/
def isBlank (c : Char) : Bool :=
  let code := c.toNat
  (9 ≤ code && code ≤ 13) || code == 0x20 || code == 0x85 || code == 0xA0 || code == 0x1680 ||
    (0x2000 ≤ code && code ≤ 0x200A) || code == 0x2028 || code == 0x2029 || code == 0x202F ||
    code == 0x205F || code == 0x3000

/-- A text without the blanks at its end. -/
def trimEnd (text : String) : String :=
  String.ofList (text.toList.reverse.dropWhile isBlank).reverse

end TextAdventure.Text
