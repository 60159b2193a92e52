import LogSieve.Text.Printable

namespace LogSieve.Quoted

def hex (width n : Nat) : List Char :=
  let digits := Nat.toDigits 16 n
  List.replicate (width - digits.length) '0' ++ digits

def byCode (n : Nat) : List Char :=
  if n < 0x100 then '\\' :: 'x' :: hex 2 n
  else if n < 0x10000 then '\\' :: 'u' :: hex 4 n
  else '\\' :: 'U' :: hex 8 n

def escape (quote c : Char) : List Char :=
  if c = quote ∨ c = '\\' then ['\\', c]
  else if c = '\t' then ['\\', 't']
  else if c = '\n' then ['\\', 'n']
  else if c = '\r' then ['\\', 'r']
  else if isPrintable c then [c]
  else byCode c.toNat

-- Single quotes, unless the text has one and no double quote.
def quoteFor (text : List Char) : Char :=
  if text.contains '\'' && !text.contains '"' then '"' else '\''

def text (chars : List Char) : List Char :=
  let quote := quoteFor chars
  quote :: (chars.flatMap (escape quote) ++ [quote])

def bytes (octets : List UInt8) : List Char :=
  let chars := octets.map fun b => Char.ofNat b.toNat
  let quote := quoteFor chars
  let escapeByte (c : Char) : List Char :=
    if c.toNat < 128 then escape quote c else byCode c.toNat
  'b' :: quote :: (chars.flatMap escapeByte ++ [quote])

end LogSieve.Quoted
