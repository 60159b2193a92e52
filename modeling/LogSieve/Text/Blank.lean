import LogSieve.Text.Ranges

namespace LogSieve

def blankRanges : Ranges :=
  [(0x09, 0x0D), (0x1C, 0x20), (0x85, 0x85), (0xA0, 0xA0), (0x1680, 0x1680), (0x2000, 0x200A),
   (0x2028, 0x2029), (0x202F, 0x202F), (0x205F, 0x205F), (0x3000, 0x3000)]

-- White space of Unicode, the four information separators included.
def isBlank (c : Char) : Bool :=
  blankRanges.contains c.toNat

def isBlankByte (b : UInt8) : Bool :=
  (9 ≤ b && b ≤ 13) || b == 32

def stripBoth {α : Type} (test : α → Bool) (items : List α) : List α :=
  ((items.dropWhile test).reverse.dropWhile test).reverse

def trim (text : List Char) : List Char :=
  stripBoth isBlank text

def trimBytes (bytes : List UInt8) : List UInt8 :=
  stripBoth isBlankByte bytes

def trimString (text : String) : String :=
  String.ofList (trim text.toList)

end LogSieve
