import Handoff.Text.CodePoints
/-!
# Blanks

A blank is a character with the property White_Space of the Unicode standard. Trimming removes
blanks at both ends.
-/
namespace Handoff.Text

def whiteSpace : CodePoints :=
  [0x9, 0xE, 0x20, 0x21, 0x85, 0x86, 0xA0, 0xA1, 0x1680, 0x1681, 0x2000, 0x200B, 0x2028, 0x202A,
    0x202F, 0x2030, 0x205F, 0x2060, 0x3000, 0x3001]

def isBlank (c : Char) : Bool := whiteSpace.has c

def trimStart (s : List Char) : List Char := s.dropWhile isBlank

def trimEnd (s : List Char) : List Char := (s.reverse.dropWhile isBlank).reverse

def trim (s : List Char) : List Char := trimEnd (trimStart s)

end Handoff.Text
