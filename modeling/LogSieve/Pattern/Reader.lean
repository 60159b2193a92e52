import LogSieve.Number.Reading
import LogSieve.Pattern.Basic
import LogSieve.Text.CharName
import LogSieve.Text.Identifier

namespace LogSieve

inductive PatternFault where
  | malformed
  | repeatTooLarge
  | incompatibleFlags
deriving DecidableEq

namespace Pattern

-- A backslash and the character behind it are one token.
inductive Token where
  | char (c : Char)
  | escape (c : Char)
deriving DecidableEq

namespace Token

def is (token : Token) (c : Char) : Bool :=
  token == .char c

def text : Token → List Char
  | .char c => [c]
  | .escape c => ['\\', c]

def ofText : List Char → Except PatternFault (List Token)
  | [] => .ok []
  | ['\\'] => .error .malformed
  | '\\' :: c :: rest => (ofText rest).map (.escape c :: ·)
  | c :: rest => (ofText rest).map (.char c :: ·)

end Token

structure Flags where
  ignoreCase : Bool := false
  multiLine : Bool := false
  dotAll : Bool := false
  spaced : Bool := false
  asciiOnly : Bool := false
  unicode : Bool := false
  template : Bool := false
deriving DecidableEq

namespace Flags

def none : Flags := {}

def ofLetter? : Char → Option Flags
  | 'i' => some { ignoreCase := true }
  | 'm' => some { multiLine := true }
  | 's' => some { dotAll := true }
  | 'x' => some { spaced := true }
  | 'a' => some { asciiOnly := true }
  | 'u' => some { unicode := true }
  | 't' => some { template := true }
  | _ => Option.none

def zip (op : Bool → Bool → Bool) (f g : Flags) : Flags where
  ignoreCase := op f.ignoreCase g.ignoreCase
  multiLine := op f.multiLine g.multiLine
  dotAll := op f.dotAll g.dotAll
  spaced := op f.spaced g.spaced
  asciiOnly := op f.asciiOnly g.asciiOnly
  unicode := op f.unicode g.unicode
  template := op f.template g.template

def union : Flags → Flags → Flags := zip (· || ·)

def without : Flags → Flags → Flags := zip fun f g => f && !g

def overlap (f g : Flags) : Bool :=
  zip (· && ·) f g != none

-- Flags of a group, inside others. A group that names a character repertoire leaves no other.
def inside (outer added removed : Flags) : Flags :=
  let outer :=
    if added.asciiOnly || added.unicode then { outer with asciiOnly := false, unicode := false }
    else outer
  (outer.union added).without removed

def folding (flags : Flags) : Folding :=
  if !flags.ignoreCase then .exact else if flags.asciiOnly then .ascii else .full

end Flags

-- What is known while a pattern is read: the tokens left, the flags of the whole pattern, the
-- width of every group that is closed, the names of groups, the first group that stands inside the
-- look behind that is being read, and the groups that conditions name.
structure Reading where
  tokens : List Token
  flags : Flags := {}
  groups : List (Option Width) := []
  names : List (String × Nat) := []
  lookBehindFrom : Option Nat := none
  conditions : List Nat := []

abbrev Read := StateT Reading (Except PatternFault)

def malformed {α : Type} : Read α :=
  throw .malformed

def peek? : Read (Option Token) := do
  return (← get).tokens.head?

def take? : Read (Option Token) := do
  let reading ← get
  set { reading with tokens := reading.tokens.tail }
  return reading.tokens.head?

def accept (c : Char) : Read Bool := do
  let reading ← get
  match reading.tokens with
  | token :: rest =>
    if token.is c then
      set { reading with tokens := rest }
      return true
    else return false
  | [] => return false

def takeWhile (test : Char → Bool) : Nat → Read (List Char)
  | 0 => return []
  | count + 1 => do
    let reading ← get
    match reading.tokens with
    | .char c :: rest =>
      if test c then
        set { reading with tokens := rest }
        return c :: (← takeWhile test count)
      else return []
    | _ => return []

def takeUntil (stop : Char) : Read (List Char) := do
  let reading ← get
  let (name, rest) := reading.tokens.span fun token => !token.is stop
  match rest with
  | _ :: rest =>
    if name = [] then malformed
    else
      set { reading with tokens := rest }
      return name.flatMap Token.text
  | [] => malformed

def hexDigitValue (c : Char) : Nat :=
  if c.isDigit then c.toNat - '0'.toNat else c.toLower.toNat - 'a'.toNat + 10

def isHexDigit (c : Char) : Bool :=
  c.isDigit || ('a' ≤ c && c ≤ 'f') || ('A' ≤ c && c ≤ 'F')

def isOctalDigit (c : Char) : Bool :=
  '0' ≤ c && c ≤ '7'

def valueIn (base : Nat) (row : List Char) : Nat :=
  row.foldl (fun n c => base * n + hexDigitValue c) 0

def hexCode (count : Nat) : Read Nat := do
  let row ← takeWhile isHexDigit count
  let code := valueIn 16 row
  if row.length = count ∧ code < 0x110000 then return code else malformed

def isAsciiLetter (c : Char) : Bool :=
  c.isAlpha

def controlCode? : Char → Option Nat
  | 'a' => some 7
  | 'f' => some 12
  | 'n' => some 10
  | 'r' => some 13
  | 't' => some 9
  | 'v' => some 11
  | '\\' => some 92
  | _ => none

def classOf? : Char → Option SetItem
  | 'd' => some (.named .digit false)
  | 'D' => some (.named .digit true)
  | 's' => some (.named .space false)
  | 'S' => some (.named .space true)
  | 'w' => some (.named .word false)
  | 'W' => some (.named .word true)
  | _ => none

def namedCode : Read Nat := do
  if !(← accept '\x7b') then malformed
  match CharName.code? (← takeUntil '\x7d') with
  | some code => return code
  | none => malformed

-- The code point behind `\x`, `\u`, `\U` or `\N`, or of a character that needs no escape.
def plainEscape (c : Char) : Read Nat :=
  if c = 'x' then hexCode 2
  else if c = 'u' then hexCode 4
  else if c = 'U' then hexCode 8
  else if c = 'N' then namedCode
  else if isAsciiLetter c ∨ c.isDigit then malformed
  else return c.toNat

def setEscape (c : Char) : Read SetItem := do
  match (if c = 'b' then some 8 else controlCode? c), classOf? c with
  | some code, _ => return .range code code
  | _, some item => return item
  | none, none =>
    if isOctalDigit c then
      let code := valueIn 8 (c :: (← takeWhile isOctalDigit 2))
      if code ≤ 0o377 then return .range code code else malformed
    else
      let code ← plainEscape c
      return .range code code

def setItem (token : Token) : Read SetItem :=
  match token with
  | .char c => return .range c.toNat c.toNat
  | .escape c => setEscape c

def setItems : Nat → Bool → Read (List SetItem)
  | 0, _ => malformed
  | limit + 1, isFirst => do
    match ← take? with
    | none => malformed
    | some token =>
      if token.is ']' && !isFirst then return []
      let item ← setItem token
      if ← accept '-' then
        match ← take? with
        | none => malformed
        | some last =>
          if last.is ']' then return [item, .range '-'.toNat '-'.toNat]
          match item, ← setItem last with
          | .range low _, .range high _ =>
            if high < low then malformed
            else return .range low high :: (← setItems limit false)
          | _, _ => malformed
      else return item :: (← setItems limit false)

def charSet (flags : Flags) (items : List SetItem) (negated : Bool) : Node :=
  .char ⟨items, negated, flags.folding, flags.asciiOnly⟩

def literal (flags : Flags) (code : Nat) : Node :=
  charSet flags [.range code code] false

def anyChar (flags : Flags) : Node :=
  .char ⟨if flags.dotAll then [] else [.range 10 10], true, .exact, false⟩

def checkReference (index : Nat) : Read Width := do
  let reading ← get
  match reading.groups[index - 1]? with
  | some (some width) =>
    match reading.lookBehindFrom with
    | some first => if first ≤ index then malformed else return width
    | none => return width
  | _ => malformed

def reference (flags : Flags) (index : Nat) : Read Node := do
  return .again index flags.folding (← checkReference index)

-- An escape by number: up to three octal digits are a code point, else it refers to a group.
def numberEscape (flags : Flags) (c : Char) : Read Node := do
  if c = '0' then
    return literal flags (valueIn 8 (← takeWhile isOctalDigit 2))
  match ← takeWhile Char.isDigit 1 with
  | [d] =>
    let third ← if isOctalDigit c && isOctalDigit d then takeWhile isOctalDigit 1 else pure []
    match third with
    | [e] =>
      let code := valueIn 8 [c, d, e]
      if code ≤ 0o377 then return literal flags code else malformed
    | _ => reference flags (digitsValue [c, d])
  | _ => reference flags (digitsValue [c])

def escapeNode (flags : Flags) (c : Char) : Read Node := do
  match c with
  | 'A' => return .anchor .textStart
  | 'Z' => return .anchor .textEnd
  | 'b' => return .anchor (.wordEdge flags.asciiOnly false)
  | 'B' => return .anchor (.wordEdge flags.asciiOnly true)
  | c =>
    match classOf? c, controlCode? c with
    | some item, _ => return charSet flags [item] false
    | _, some code => return literal flags code
    | none, none =>
      if c.isDigit then numberEscape flags c else return literal flags (← plainEscape c)

def repeatLimit : Nat := 4294967295

def checkCount (count : Nat) : Read Unit :=
  if repeatLimit ≤ count then throw .repeatTooLarge else pure ()

-- The bounds of a repetition in braces, read behind the opening one; none if what stands there is
-- no repetition, and then nothing is taken.
def bounds? : Read (Option (Nat × Option Nat)) := do
  let before ← get
  if ← (do return (← peek?).any (·.is '\x7d')) then return none
  let low ← takeWhile Char.isDigit before.tokens.length
  let high ← if ← accept ',' then takeWhile Char.isDigit before.tokens.length else pure low
  if !(← accept '\x7d') then
    set before
    return none
  let least := if low = [] then 0 else digitsValue low
  checkCount least
  if high = [] then return some (least, none)
  let most := digitsValue high
  checkCount most
  if most < least then malformed else return some (least, some most)

def greed : Read Greed := do
  if ← accept '?' then return .lazy
  if ← accept '+' then return .possessive
  return .greedy

def repeatLast (items : List Node) (least : Nat) (most : Option Nat) : Read (List Node) := do
  match items.getLast? with
  | none => malformed
  | some (.anchor _) => malformed
  | some (.loop ..) => malformed
  | some body => return items.dropLast ++ [.loop least most (← greed) body]

def groupName (stop : Char) : Read String := do
  let name ← takeUntil stop
  if isIdentifier name then return String.ofList name else malformed

def namedGroup (name : String) : Read Nat := do
  match (← get).names.lookup name with
  | some index => return index
  | none => malformed

def conditionNumber? (text : List Char) : Option Nat := do
  let text ← (trim text).mapM fun c =>
    if c.toNat < 128 then some c
    else (digitValue? c).map fun value => Char.ofNat ('0'.toNat + value)
  let row ← Double.joinDigits? false (match text with | '+' :: rest => rest | rest => rest)
  if row ≠ [] ∧ row.all Char.isDigit then some (digitsValue row) else none

def groupLimit : Nat := 1073741823

def conditionGroup : Read Nat := do
  let name ← takeUntil ')'
  let index ← if isIdentifier name then namedGroup (String.ofList name)
    else match conditionNumber? name with
      | some index =>
        if index = 0 ∨ groupLimit ≤ index then malformed
        else
          modify fun reading => { reading with conditions := index :: reading.conditions }
          pure index
      | none => malformed
  if (← get).lookBehindFrom.isSome then
    let _ ← checkReference index
  return index

def openGroup (name : Option String) : Read Nat := do
  let reading ← get
  let index := reading.groups.length + 1
  match name with
  | none =>
    set { reading with groups := reading.groups ++ [none] }
    return index
  | some name =>
    if (reading.names.lookup name).isSome then malformed
    else
      set { reading with
        groups := reading.groups ++ [none], names := (name, index) :: reading.names }
      return index

def closeGroup (index : Nat) (width : Width) : Read Unit :=
  modify fun reading => { reading with groups := reading.groups.set (index - 1) (some width) }

-- Flags by letter from `c` on, and the character that ends them. Letters of two character
-- repertoires exclude each other.
def flagLetters (c : Char) : Nat → Flags → Read (Flags × Char)
  | 0, _ => malformed
  | limit + 1, flags => do
    match Flags.ofLetter? c with
    | none => malformed
    | some flag =>
      let flags := flags.union flag
      if flags.asciiOnly && flags.unicode then malformed
      match ← take? with
      | some (.char next) =>
        if next = ')' ∨ next = '-' ∨ next = ':' then return (flags, next)
        flagLetters next limit flags
      | _ => malformed

inductive FlagScope where
  | whole (added : Flags)
  | group (added removed : Flags)

def flagScope (c : Char) : Read FlagScope := do
  let limit := (← get).tokens.length + 1
  let (added, stop) ← if c = '-' then pure (Flags.none, '-') else flagLetters c limit .none
  if stop = ')' then return .whole added
  if added.template then malformed
  if stop = ':' then return .group added .none
  match ← take? with
  | some (.char next) =>
    let (removed, stop) ← flagLetters next limit .none
    if stop ≠ ':' ∨ removed.asciiOnly ∨ removed.unicode ∨ removed.template then malformed
    if added.overlap removed then malformed
    return .group added removed
  | _ => malformed

def expect (c : Char) : Read Unit := do
  if !(← accept c) then malformed

def skipComment : Read Unit := do
  let reading ← get
  match reading.tokens.dropWhile fun token => !token.is ')' with
  | _ :: rest => set { reading with tokens := rest }
  | [] => malformed

def skipLine : Read Unit :=
  modify fun reading =>
    { reading with tokens := (reading.tokens.dropWhile fun token => !token.is '\n').tail }

inductive Opening where
  | plain (name : Option String)
  | scoped (flags : Flags)
  | atomic
  | look (behind negated : Bool)
  | condition (index : Nat)
  | node (node : Node)
  | comment
  | wholeFlags (flags : Flags)

def namedOpening (flags : Flags) : Read Opening := do
  if ← accept '<' then return .plain (some (← groupName '>'))
  if ← accept '=' then
    let index ← namedGroup (← groupName ')')
    return .node (← reference flags index)
  malformed

def opening (flags : Flags) : Read Opening := do
  if !(← accept '?') then return .plain none
  match ← take? with
  | some (.char c) =>
    match c with
    | 'P' => namedOpening flags
    | ':' => return .scoped flags
    | '#' =>
      skipComment
      return .comment
    | '=' => return .look false false
    | '!' => return .look false true
    | '<' =>
      if ← accept '=' then return .look true false
      if ← accept '!' then return .look true true
      malformed
    | '(' => return .condition (← conditionGroup)
    | '>' => return .atomic
    | c =>
      match ← flagScope c with
      | .whole added => return .wholeFlags added
      | .group added removed => return .scoped (flags.inside added removed)
  | _ => malformed

def isSpacing (c : Char) : Bool :=
  c == ' ' || ('\t' ≤ c && c ≤ '\r')

mutual

-- Choices between bars. `nested` tells them from those of the whole pattern, which take up the
-- flags set in front of it. `limit` bounds the nesting and the count of tokens.
def choices (nested : Bool) (flags : Flags) : Nat → Bool → Read (List Node)
  | 0, _ => malformed
  | limit + 1, isFirst => do
    let items ← sequence flags limit (!nested && isFirst) []
    if ← accept '|' then
      let whole := (← get).flags
      return .seq items :: (← choices nested (if nested then flags else whole) limit false)
    return [.seq items]

-- One row of items, behind those already read. `isFirst` tells whether flags of the whole pattern
-- may still come.
def sequence (flags : Flags) : Nat → Bool → List Node → Read (List Node)
  | 0, _, _ => malformed
  | limit + 1, isFirst, items => do
    match ← peek? with
    | none => return items
    | some (.escape c) =>
      let _ ← take?
      sequence flags limit isFirst (items ++ [← escapeNode flags c])
    | some (.char c) =>
      if c = '|' ∨ c = ')' then return items
      let _ ← take?
      if flags.spaced && isSpacing c then sequence flags limit isFirst items
      else if flags.spaced && c == '#' then
        skipLine
        sequence flags limit isFirst items
      else
        match c with
        | '[' =>
          let negated ← accept '^'
          let set ← setItems limit true
          sequence flags limit isFirst (items ++ [charSet flags set negated])
        | '?' => sequence flags limit isFirst (← repeatLast items 0 (some 1))
        | '*' => sequence flags limit isFirst (← repeatLast items 0 none)
        | '+' => sequence flags limit isFirst (← repeatLast items 1 none)
        | '\x7b' =>
          match ← bounds? with
          | some (least, most) =>
            sequence flags limit isFirst (← repeatLast items least most)
          | none => sequence flags limit isFirst (items ++ [literal flags c.toNat])
        | '.' => sequence flags limit isFirst (items ++ [anyChar flags])
        | '^' =>
          let place := if flags.multiLine then Anchor.lineStart else .textStart
          sequence flags limit isFirst (items ++ [.anchor place])
        | '$' =>
          let place := if flags.multiLine then Anchor.lineEnd else .lastLineEnd
          sequence flags limit isFirst (items ++ [.anchor place])
        | '(' =>
          match ← opening flags with
          | .comment => sequence flags limit isFirst items
          | .node node => sequence flags limit isFirst (items ++ [node])
          | .wholeFlags added =>
            if !isFirst || !items.isEmpty then malformed
            modify fun reading => { reading with flags := reading.flags.union added }
            sequence (← get).flags limit isFirst items
          | .plain name =>
            let index ← openGroup name
            let body := Node.branch (← choices true flags limit false)
            expect ')'
            closeGroup index body.width
            sequence flags limit isFirst (items ++ [.group index body])
          | .scoped inner =>
            let body := Node.branch (← choices true inner limit false)
            expect ')'
            sequence flags limit isFirst (items ++ [body])
          | .atomic =>
            let body := Node.branch (← choices true flags limit false)
            expect ')'
            sequence flags limit isFirst (items ++ [.atomic body])
          | .look behind negated =>
            let outer := (← get).lookBehindFrom
            if behind && outer.isNone then
              modify fun reading =>
                { reading with lookBehindFrom := some (reading.groups.length + 1) }
            let body := Node.branch (← choices true flags limit false)
            modify fun reading => { reading with lookBehindFrom := outer }
            expect ')'
            sequence flags limit isFirst (items ++ [.look behind negated body])
          | .condition index =>
            let yes ← sequence flags limit false []
            let no ← if ← accept '|' then sequence flags limit false [] else pure []
            expect ')'
            sequence flags limit isFirst (items ++ [.ifGroup index (.seq yes) (.seq no)])
        | c => sequence flags limit isFirst (items ++ [literal flags c.toNat])

end

def whole : Read Node := do
  let limit := 2 * (← get).tokens.length + 2
  let root := Node.branch (← choices false .none limit true)
  let reading ← get
  if reading.flags.asciiOnly && reading.flags.unicode then throw .incompatibleFlags
  if !reading.tokens.isEmpty then malformed
  if reading.conditions.any (reading.groups.length < ·) then malformed
  if !root.looksFixed then malformed
  if reading.flags.template && root.hasLoop then malformed
  return root

end Pattern

def Pattern.ofText (text : List Char) : Except PatternFault Pattern := do
  let tokens ← Pattern.Token.ofText text
  let (root, _) ← Pattern.whole.run { tokens := tokens }
  return ⟨root⟩

end LogSieve
