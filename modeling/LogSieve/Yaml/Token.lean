import LogSieve.Json.Reader
import LogSieve.Text.Utf8
import LogSieve.Yaml.Fault

namespace LogSieve.Yaml

inductive Directive where
  | version (major : Nat)
  | tagPrefix (handle uri : String)
  | other
deriving DecidableEq

inductive Token where
  | directive (directive : Directive)
  | documentStart
  | documentEnd
  | blockSequenceStart
  | blockMappingStart
  | blockEnd
  | flowSequenceStart
  | flowSequenceEnd
  | flowMappingStart
  | flowMappingEnd
  | blockEntry
  | flowEntry
  | key
  | value
  | alias (name : String)
  | anchor (name : String)
  | tag (handle : Option String) (suffix : String)
  | scalar (text : List Char) (plain : Bool)
deriving DecidableEq

def isBreak (c : Char) : Bool :=
  c == '\r' || c == '\n' || c == '\x85' || c == '\u2028' || c == '\u2029'

def isSpaceOrTab (c : Char) : Bool :=
  c == ' ' || c == '\t'

def endsWord (c : Option Char) : Bool :=
  c.all fun c => isSpaceOrTab c || isBreak c

def endsLine (c : Option Char) : Bool :=
  c.all isBreak

def endsPlainly (c : Option Char) : Bool :=
  c.all fun c => c == ' ' || isBreak c

def isNameChar (c : Char) : Bool :=
  c.isAlphanum || c == '-' || c == '_'

structure Cursor where
  rest : List Char
  index : Nat := 0
  line : Nat := 0
  column : Nat := 0
deriving Inhabited

namespace Cursor

def step (cursor : Cursor) : Cursor :=
  match cursor.rest with
  | [] => cursor
  | c :: rest =>
    if isBreak c && !(c == '\r' && rest.head? == some '\n') then
      ⟨rest, cursor.index + 1, cursor.line + 1, 0⟩
    else
      ⟨rest, cursor.index + 1, cursor.line, cursor.column + if c = '\uFEFF' then 0 else 1⟩

def advance : Nat → Cursor → Cursor
  | 0, cursor => cursor
  | count + 1, cursor => advance count cursor.step

def peek (cursor : Cursor) (ahead : Nat := 0) : Option Char :=
  cursor.rest[ahead]?

end Cursor

-- A place where a key may start: the number of its first token, and whether the indentation demands
-- that it is one.
structure KeyPlace where
  token : Nat
  required : Bool
  index : Nat
  line : Nat
  column : Nat

-- What is known while a text is cut: tokens so far, the depth of brackets, the indentation of the
-- block and of those around it, whether a key may start here, and where keys may have started, by
-- depth of brackets.
structure Scanner where
  cursor : Cursor
  tokens : List Token := []
  flowLevel : Nat := 0
  indent : Int := -1
  indents : List Int := []
  keyAllowed : Bool := true
  keyPlaces : List (Nat × KeyPlace) := []

abbrev Scan := StateT Scanner (Except Fault)

namespace Scanner

def fail {α : Type} : Scan α :=
  throw .malformed

def peek (ahead : Nat := 0) : Scan (Option Char) := do
  return (← get).cursor.peek ahead

def column : Scan Nat := do
  return (← get).cursor.column

def inFlow : Scan Bool := do
  return (← get).flowLevel != 0

def forward (count : Nat := 1) : Scan Unit :=
  modify fun s => { s with cursor := s.cursor.advance count }

def takeWhile (test : Char → Bool) : Scan (List Char) := do
  let row := (← get).cursor.rest.takeWhile test
  forward row.length
  return row

def skipSpaces : Scan Unit := do
  let _ ← takeWhile (· == ' ')

def lineBreak : Scan (List Char) := do
  match (← get).cursor.rest with
  | '\r' :: '\n' :: _ =>
    forward 2
    return ['\n']
  | c :: _ =>
    if c = '\u2028' ∨ c = '\u2029' then
      forward
      return [c]
    else if isBreak c then
      forward
      return ['\n']
    else return []
  | [] => return []

def endOfLine : Scan Unit := do
  skipSpaces
  if (← peek) == some '#' then
    let _ ← takeWhile fun c => !isBreak c
  if !endsLine (← peek) then fail
  let _ ← lineBreak

def atMark (c : Char) : Scan Bool := do
  match (← get).cursor.rest with
  | x :: y :: z :: rest => return x == c && y == c && z == c && endsWord rest.head?
  | _ => return false

def atDocumentMark : Scan Bool := do
  return (← atMark '-') || (← atMark '.')

def push (token : Token) : Scan Unit :=
  modify fun s => { s with tokens := s.tokens ++ [token] }

def allowKey (allowed : Bool) : Scan Unit :=
  modify fun s => { s with keyAllowed := allowed }

def dropKey : Scan Unit := do
  let s ← get
  match s.keyPlaces.lookup s.flowLevel with
  | some place =>
    if place.required then fail
    set { s with keyPlaces := s.keyPlaces.filter (·.1 != s.flowLevel) }
  | none => pure ()

def noteKey : Scan Unit := do
  let s ← get
  if s.keyAllowed then
    dropKey
    let place : KeyPlace :=
      ⟨s.tokens.length, s.flowLevel == 0 && s.indent == s.cursor.column, s.cursor.index,
        s.cursor.line, s.cursor.column⟩
    modify fun s => { s with keyPlaces := (s.flowLevel, place) :: s.keyPlaces }

-- A key ends on its line, within 1024 characters.
def dropStaleKeys : Scan Unit := do
  let s ← get
  let isStale (place : KeyPlace) : Bool :=
    place.line != s.cursor.line || s.cursor.index - place.index > 1024
  if s.keyPlaces.any fun (_, place) => isStale place && place.required then fail
  set { s with keyPlaces := s.keyPlaces.filter fun (_, place) => !isStale place }

def unindent (column : Int) : Scan Unit := do
  let s ← get
  if s.flowLevel = 0 then
    let deeper := (s.indent :: s.indents).takeWhile (column < ·)
    let left := (s.indent :: s.indents).drop deeper.length
    set { s with
      tokens := s.tokens ++ deeper.map fun _ => Token.blockEnd
      indent := left.headD (-1)
      indents := left.tail }

def indentTo (column : Nat) : Scan Bool := do
  let s ← get
  if s.indent < column then
    set { s with indent := column, indents := s.indent :: s.indents }
    return true
  else return false

-- Passes over spaces, comments and empty lines. Behind a line break a key may start.
def skipToToken : Nat → Scan Unit
  | 0 => pure ()
  | limit + 1 => do
    skipSpaces
    if (← peek) == some '#' then
      let _ ← takeWhile fun c => !isBreak c
    if (← lineBreak) ≠ [] then
      if !(← inFlow) then allowKey true
      skipToToken limit

def hexDigits (count : Nat) : Scan Nat := do
  let row := (← get).cursor.rest.take count
  match row.mapM Json.hexValue? with
  | some values =>
    if row.length < count then fail
    forward count
    return values.foldl (fun n d => 16 * n + d) 0
  | none => fail

def uriEscapes : Nat → Scan (List UInt8)
  | 0 => return []
  | limit + 1 => do
    if (← peek) == some '%' then
      forward
      let code ← hexDigits 2
      return code.toUInt8 :: (← uriEscapes limit)
    else return []

def isUriChar (c : Char) : Bool :=
  c.isAlphanum || "-;/?:@&=+$,_.!~*'()[]".toList.contains c

def uriParts : Nat → Scan (List Char)
  | 0 => return []
  | limit + 1 => do
    let row ← takeWhile isUriChar
    if (← peek) == some '%' then
      match Utf8.decode? (← uriEscapes limit) with
      | some text => return row ++ text ++ (← uriParts limit)
      | none => fail
    else return row

def uri : Scan (List Char) := do
  let text ← uriParts ((← get).cursor.rest.length + 1)
  if text = [] then fail
  return text

def tagHandle : Scan (List Char) := do
  if (← peek) != some '!' then fail
  forward
  if (← peek) == some ' ' then return ['!']
  let name ← takeWhile isNameChar
  if (← peek) != some '!' then fail
  forward
  return '!' :: name ++ ['!']

def number : Scan Nat := do
  let row ← takeWhile Char.isDigit
  if row = [] then fail
  return digitsValue row

def directive : Scan Directive := do
  forward
  let name ← takeWhile isNameChar
  if name = [] || !endsPlainly (← peek) then fail
  let found ← if name = "YAML".toList then do
      skipSpaces
      let major ← number
      if (← peek) != some '.' then fail
      forward
      let _ ← number
      if !endsPlainly (← peek) then fail
      pure (Directive.version major)
    else if name = "TAG".toList then do
      skipSpaces
      let handle ← tagHandle
      if (← peek) != some ' ' then fail
      skipSpaces
      let target ← uri
      if !endsPlainly (← peek) then fail
      pure (Directive.tagPrefix (String.ofList handle) (String.ofList target))
    else do
      let _ ← takeWhile fun c => !isBreak c
      pure Directive.other
  endOfLine
  return found

def anchorName : Scan String := do
  forward
  let name ← takeWhile isNameChar
  if name = [] then fail
  let next ← peek
  if !(endsWord next || next.any "?:,]\x7d%@\x60".toList.contains) then fail
  return String.ofList name

def tag : Scan Token := do
  let found ← match ← peek 1 with
    | some '<' => do
      forward 2
      let suffix ← uri
      if (← peek) != some '>' then fail
      forward
      pure (Token.tag none (String.ofList suffix))
    | next =>
      if endsWord next then do
        forward
        pure (Token.tag none "!")
      else do
        let word := ((← get).cursor.rest.drop 1).takeWhile fun c => !endsPlainly (some c)
        let handle ← if word.contains '!' then tagHandle
          else do
            forward
            pure ['!']
        pure (Token.tag (some (String.ofList handle)) (String.ofList (← uri)))
  if !endsPlainly (← peek) then fail
  return found

def quotedBreaks : Nat → Scan (List Char)
  | 0 => return []
  | limit + 1 => do
    if ← atDocumentMark then fail
    let _ ← takeWhile isSpaceOrTab
    if endsLine (← peek) && (← peek).isSome then
      let found ← lineBreak
      return found ++ (← quotedBreaks limit)
    else return []

-- White space in a quoted scalar. A single line break is a space, of more the first goes.
def quotedSpaces (limit : Nat) : Scan (List Char) := do
  let spaces ← takeWhile isSpaceOrTab
  match ← peek with
  | none => fail
  | some c =>
    if isBreak c then
      let found ← lineBreak
      let breaks ← quotedBreaks limit
      if found ≠ ['\n'] then return found ++ breaks
      if breaks = [] then return [' ']
      return breaks
    else return spaces

def escaped? : Char → Option Char
  | '0' => some '\x00'
  | 'a' => some '\x07'
  | 'b' => some '\x08'
  | 't' => some '\t'
  | '\t' => some '\t'
  | 'n' => some '\n'
  | 'v' => some '\x0b'
  | 'f' => some '\x0c'
  | 'r' => some '\r'
  | 'e' => some '\x1b'
  | ' ' => some ' '
  | '"' => some '"'
  | '\\' => some '\\'
  | '/' => some '/'
  | 'N' => some '\x85'
  | '_' => some '\u00a0'
  | 'L' => some '\u2028'
  | 'P' => some '\u2029'
  | _ => none

def codeLength? : Char → Option Nat
  | 'x' => some 2
  | 'u' => some 4
  | 'U' => some 8
  | _ => none

def quotedEscape (limit : Nat) : Scan (List Char) := do
  match ← peek with
  | none => fail
  | some c =>
    match escaped? c, codeLength? c with
    | some e, _ =>
      forward
      return [e]
    | none, some count =>
      forward
      let code ← hexDigits count
      if 0x10FFFF < code then throw (.scalar .codePoint)
      return [Char.ofNat code]
    | none, none =>
      if isBreak c then
        let _ ← lineBreak
        quotedBreaks limit
      else fail

def quotedBody (double : Bool) : Nat → Scan (List Char)
  | 0 => fail
  | limit + 1 => do
    match ← peek with
    | none => fail
    | some c =>
      if isSpaceOrTab c || isBreak c then
        let found ← quotedSpaces limit
        return found ++ (← quotedBody double limit)
      else if !double && c == '\'' then
        if (← peek 1) == some '\'' then
          forward 2
          return '\'' :: (← quotedBody double limit)
        else
          forward
          return []
      else if double && c == '"' then
        forward
        return []
      else if double && c == '\\' then
        forward
        let found ← quotedEscape limit
        return found ++ (← quotedBody double limit)
      else
        forward
        return c :: (← quotedBody double limit)

def quoted (double : Bool) : Scan Token := do
  forward
  let limit := (← get).cursor.rest.length + 1
  return .scalar (← quotedBody double limit) false

def plainLength (inFlow : Bool) : List Char → Nat
  | [] => 0
  | c :: rest =>
    let endsKey (next : Option Char) : Bool :=
      endsWord next || (inFlow && next.any ",[]\x7b\x7d".toList.contains)
    if endsWord (some c) || (c == ':' && endsKey rest.head?) ||
        (inFlow && ",?[]\x7b\x7d".toList.contains c) then 0
    else plainLength inFlow rest + 1

-- Empty lines and indentation behind a line of a plain scalar; none where a document mark follows.
def plainBreaks : Nat → Scan (Option (List Char))
  | 0 => return some []
  | limit + 1 => do
    if ← atDocumentMark then return none
    skipSpaces
    let found ← lineBreak
    if found = [] then return some []
    return (← plainBreaks limit).map (found ++ ·)

def plainSpaces (limit : Nat) : Scan (List Char) := do
  let spaces ← takeWhile (· == ' ')
  let found ← lineBreak
  if found = [] then return spaces
  allowKey true
  match ← plainBreaks limit with
  | none => return []
  | some breaks =>
    if found ≠ ['\n'] then return found ++ breaks
    if breaks = [] then return [' ']
    return breaks

def plainBody (indent : Int) : Nat → List Char → Scan (List Char)
  | 0, _ => return []
  | limit + 1, spaces => do
    let s ← get
    let length := if s.cursor.peek == some '#' then 0
      else plainLength (s.flowLevel != 0) s.cursor.rest
    if length = 0 then return []
    allowKey false
    let row := s.cursor.rest.take length
    forward length
    let next ← plainSpaces limit
    let s ← get
    if next = [] || s.cursor.peek == some '#' || (s.flowLevel == 0 && s.cursor.column < indent) then
      return spaces ++ row
    return spaces ++ row ++ (← plainBody indent limit next)

def plain : Scan Token := do
  let s ← get
  return .scalar (← plainBody (s.indent + 1) (s.cursor.rest.length + 1) []) true

inductive Chomping where
  | clip
  | strip
  | keep
deriving DecidableEq

def chompingMark : Scan (Option Chomping) := do
  match ← peek with
  | some '+' =>
    forward
    return some .keep
  | some '-' =>
    forward
    return some .strip
  | _ => return none

def indentationMark : Scan (Option Nat) := do
  match ← peek with
  | some c =>
    if c.isDigit then
      if c = '0' then fail
      forward
      return some (digitsValue [c])
    else return none
  | none => return none

def blockHeader : Scan (Chomping × Option Nat) := do
  let chomping ← chompingMark
  let width ← indentationMark
  let chomping ← if chomping.isNone && width.isSome then chompingMark else pure chomping
  if !endsPlainly (← peek) then fail
  endOfLine
  return (chomping.getD .clip, width)

def blockStart : Nat → Scan (List Char × Nat)
  | 0 => return ([], 0)
  | limit + 1 => do
    let spaces ← takeWhile (· == ' ')
    let here ← column
    let width := if spaces = [] then 0 else here
    let found ← lineBreak
    if found = [] then return ([], width)
    let (breaks, widest) ← blockStart limit
    return (found ++ breaks, max width widest)

def skipIndent (indent : Nat) : Scan Unit := do
  let s ← get
  let spaces := (s.cursor.rest.take (indent - s.cursor.column)).takeWhile (· == ' ')
  forward spaces.length

def blockBreaks (indent : Nat) : Nat → Scan (List Char)
  | 0 => return []
  | limit + 1 => do
    skipIndent indent
    let found ← lineBreak
    if found = [] then return []
    return found ++ (← blockBreaks indent limit)

def blockLines (folded : Bool) (chomping : Chomping) (indent : Nat) :
    Nat → List Char → Scan (List Char)
  | 0, _ => return []
  | limit + 1, before => do
    let opening ← peek
    let row ← takeWhile fun c => !isBreak c
    let found ← lineBreak
    let breaks ← blockBreaks indent limit
    let next ← peek
    if (← column) == indent && next.isSome then
      let folds := folded && found == ['\n'] && !opening.any isSpaceOrTab && !next.any isSpaceOrTab
      let joint := if !folds then found else if breaks = [] then [' '] else []
      return before ++ row ++ joint ++ (← blockLines folded chomping indent limit breaks)
    return before ++ row ++ (if chomping = .strip then [] else found) ++
      (if chomping = .keep then breaks else [])

def blockScalar (folded : Bool) : Scan Token := do
  forward
  let (chomping, width) ← blockHeader
  let s ← get
  let limit := s.cursor.rest.length + 1
  let least := (max 1 (s.indent + 1)).toNat
  let (breaks, indent) ← match width with
    | some width => do
      let indent := least + width - 1
      pure (← blockBreaks indent limit, indent)
    | none => do
      let (breaks, widest) ← blockStart limit
      pure (breaks, max least widest)
  if (← column) == indent && (← peek).isSome then
    return .scalar (← blockLines folded chomping indent limit breaks) false
  return .scalar (if chomping = .keep then breaks else []) false

def topLevel (token : Scan Token) : Scan Unit := do
  unindent (-1)
  dropKey
  allowKey false
  push (← token)

def flowStart (token : Token) : Scan Unit := do
  noteKey
  modify fun s => { s with flowLevel := s.flowLevel + 1 }
  allowKey true
  forward
  push token

def flowEnd (token : Token) : Scan Unit := do
  dropKey
  modify fun s => { s with flowLevel := s.flowLevel - 1 }
  allowKey false
  forward
  push token

def blockMark (opening token : Token) (keyBehind : Bool) : Scan Unit := do
  let s ← get
  if s.flowLevel = 0 then
    if !s.keyAllowed then fail
    if ← indentTo s.cursor.column then push opening
  allowKey keyBehind
  dropKey
  forward
  push token

-- The colon behind a key. Only by it a key is known as one, so the key's token, and that of a block
-- which it opens, are put in front of it now.
def valueMark : Scan Unit := do
  let s ← get
  match s.keyPlaces.lookup s.flowLevel with
  | some place =>
    set { s with keyPlaces := s.keyPlaces.filter (·.1 != s.flowLevel) }
    let opens ← if s.flowLevel = 0 then indentTo place.column else pure false
    let marks := if opens then [Token.blockMappingStart, .key] else [.key]
    modify fun s =>
      { s with tokens := s.tokens.take place.token ++ marks ++ s.tokens.drop place.token }
    allowKey false
    forward
    push .value
  | none => blockMark .blockMappingStart .value (s.flowLevel == 0)

def keyToken (token : Scan Token) : Scan Unit := do
  noteKey
  allowKey false
  push (← token)

def startsPlain (inFlow : Bool) (c : Char) (next : Option Char) : Bool :=
  !(endsWord (some c) || "-?:,[]\x7b\x7d#&*!|>'\"%@\x60".toList.contains c) ||
    (!endsWord next && (c == '-' || (!inFlow && (c == '?' || c == ':'))))

def fetch : Scan Bool := do
  skipToToken ((← get).cursor.rest.length + 1)
  dropStaleKeys
  unindent (← column)
  let s ← get
  let inFlow := s.flowLevel != 0
  match s.cursor.rest with
  | [] =>
    unindent (-1)
    dropKey
    return false
  | c :: rest =>
    let next := rest.head?
    let atStart := s.cursor.column == 0
    if c == '%' && atStart then topLevel (.directive <$> directive)
    else if atStart && (← atMark '-') then
      topLevel do
        forward 3
        pure .documentStart
    else if atStart && (← atMark '.') then
      topLevel do
        forward 3
        pure .documentEnd
    else if c == '[' then flowStart .flowSequenceStart
    else if c == '\x7b' then flowStart .flowMappingStart
    else if c == ']' then flowEnd .flowSequenceEnd
    else if c == '\x7d' then flowEnd .flowMappingEnd
    else if c == ',' then
      allowKey true
      dropKey
      forward
      push .flowEntry
    else if c == '-' && endsWord next then blockMark .blockSequenceStart .blockEntry true
    else if c == '?' && (inFlow || endsWord next) then blockMark .blockMappingStart .key (!inFlow)
    else if c == ':' && (inFlow || endsWord next) then valueMark
    else if c == '*' then keyToken (.alias <$> anchorName)
    else if c == '&' then keyToken (.anchor <$> anchorName)
    else if c == '!' then keyToken tag
    else if c == '|' && !inFlow then
      allowKey true
      dropKey
      push (← blockScalar false)
    else if c == '>' && !inFlow then
      allowKey true
      dropKey
      push (← blockScalar true)
    else if c == '\'' then keyToken (quoted false)
    else if c == '"' then keyToken (quoted true)
    else if startsPlain inFlow c next then keyToken plain
    else fail
    return true

def all : Nat → Scan Unit
  | 0 => fail
  | limit + 1 => do
    if ← fetch then all limit

end Scanner

def Token.ofText (text : List Char) : Except Fault (List Token) := do
  let cursor : Cursor := { rest := text }
  let start := if text.head? == some '\uFEFF' then cursor.step else cursor
  let (_, s) ← (Scanner.all (text.length + 2)).run { cursor := start }
  return s.tokens

end LogSieve.Yaml
