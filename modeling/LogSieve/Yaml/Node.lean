import LogSieve.Yaml.Tag
import LogSieve.Yaml.Token

namespace LogSieve.Yaml

-- An alias is replaced by the node that it names. One inside that node is marked as such.
inductive Node where
  | scalar (tag : Tag) (text : List Char)
  | sequence (tag : Tag) (items : List Node)
  | mapping (tag : Tag) (entries : List (Node × Node))
  | within (ofMapping : Bool)
deriving Inhabited

inductive Anchored where
  | node (node : Node)
  | unfinished (ofMapping : Bool)

-- What is known while a tree is read: the tokens left, what tag handles stand for, and the anchors.
structure Outline where
  tokens : List Token
  handles : List (String × String) := []
  anchors : List (String × Anchored) := []

abbrev Outlined := StateT Outline (Except Fault)

namespace Outline

def fail {α : Type} : Outlined α :=
  throw .malformed

def next : Outlined (Option Token) := do
  return (← get).tokens.head?

def nextIn (tokens : List Token) : Outlined Bool := do
  return (← next).any tokens.contains

def drop : Outlined Unit :=
  modify fun s => { s with tokens := s.tokens.tail }

def take (token : Token) : Outlined Bool := do
  if (← next) == some token then
    drop
    return true
  else return false

def expect (token : Token) : Outlined Unit := do
  if !(← take token) then fail

def empty : Node :=
  .scalar .null []

def anchor? : Outlined (Option String) := do
  match ← next with
  | some (.anchor name) =>
    drop
    return some name
  | _ => return none

def tagUri? : Outlined (Option String) := do
  match ← next with
  | some (.tag none suffix) =>
    drop
    return some suffix
  | some (.tag (some handle) suffix) =>
    drop
    match (← get).handles.lookup handle with
    | some target => return some (target ++ suffix)
    | none => fail
  | _ => return none

def properties : Outlined (Option String × Option String) := do
  match ← anchor? with
  | some name => return (some name, ← tagUri?)
  | none =>
    let uri ← tagUri?
    return (← anchor?, uri)

def declare (name : Option String) (anchored : Anchored) : Outlined Unit :=
  match name with
  | some name => modify fun s => { s with anchors := (name, anchored) :: s.anchors }
  | none => pure ()

def collection (name : Option String) (ofMapping : Bool) (contents : Outlined Node) :
    Outlined Node := do
  declare name (.unfinished ofMapping)
  let node ← contents
  declare name (.node node)
  return node

-- The type of a collection: what its tag says, unless that is missing or a lone exclamation mark.
def collectionTag (uri : Option String) (default : Tag) : Tag :=
  match uri with
  | none => default
  | some uri => if uri = "!" then default else Tag.ofUri uri

def scalarTag (uri : Option String) (text : List Char) (plain : Bool) : Tag :=
  match uri with
  | none => if plain then Tag.ofPlain text else .text
  | some uri => if uri = "!" then Tag.ofPlain text else Tag.ofUri uri

mutual

-- A node. Blocks start only where `inBlock` says so, and entries without a block of their own only
-- where `indentless` does.
def node (inBlock indentless : Bool) : Nat → Outlined Node
  | 0 => fail
  | limit + 1 => do
    if let some (.alias name) := ← next then
      drop
      match (← get).anchors.lookup name with
      | some (.node found) => return found
      | some (.unfinished ofMapping) => return .within ofMapping
      | none => fail
    else
      let (name, uri) ← properties
      let anchors := (← get).anchors
      if name.any fun name => (anchors.lookup name).isSome then fail
      let sequence (items : Outlined (List Node)) : Outlined Node :=
        collection name false do return .sequence (collectionTag uri .sequence) (← items)
      let mapping (entries : Outlined (List (Node × Node))) : Outlined Node :=
        collection name true do return .mapping (collectionTag uri .mapping) (← entries)
      match ← next, inBlock, indentless with
      | some (.scalar text plain), _, _ =>
        drop
        let found := Node.scalar (scalarTag uri text plain) text
        declare name (.node found)
        return found
      | some .flowSequenceStart, _, _ =>
        drop
        sequence (flowItems true limit)
      | some .flowMappingStart, _, _ =>
        drop
        mapping (flowEntries true limit)
      | some .blockSequenceStart, true, _ =>
        drop
        sequence (blockItems limit)
      | some .blockMappingStart, true, _ =>
        drop
        mapping (blockEntries limit)
      | some .blockEntry, _, true => sequence (indentlessItems limit)
      | _, _, _ =>
        if name.isNone && uri.isNone then fail
        let found := Node.scalar (scalarTag uri [] true) []
        declare name (.node found)
        return found

def nodeUnless (stops : List Token) (inBlock indentless : Bool) : Nat → Outlined Node
  | 0 => fail
  | limit + 1 => do
    if ← nextIn stops then return empty
    node inBlock indentless limit

def blockItems : Nat → Outlined (List Node)
  | 0 => fail
  | limit + 1 => do
    if ← take .blockEntry then
      let item ← nodeUnless [.blockEntry, .blockEnd] true false limit
      return item :: (← blockItems limit)
    else
      expect .blockEnd
      return []

def indentlessItems : Nat → Outlined (List Node)
  | 0 => fail
  | limit + 1 => do
    if ← take .blockEntry then
      let item ← nodeUnless [.blockEntry, .key, .value, .blockEnd] true false limit
      return item :: (← indentlessItems limit)
    else return []

def blockEntries : Nat → Outlined (List (Node × Node))
  | 0 => fail
  | limit + 1 => do
    let stops : List Token := [.key, .value, .blockEnd]
    if ← take .key then
      let key ← nodeUnless stops true true limit
      let value ← if ← take .value then nodeUnless stops true true limit else pure empty
      return (key, value) :: (← blockEntries limit)
    else
      expect .blockEnd
      return []

-- The items of a flow sequence up to its end. A pair among them is a mapping of its own.
def flowItems (first : Bool) : Nat → Outlined (List Node)
  | 0 => fail
  | limit + 1 => do
    if ← take .flowSequenceEnd then return []
    if !first then expect .flowEntry
    if ← take .key then
      let key ← nodeUnless [.value, .flowEntry, .flowSequenceEnd] false false limit
      let value ← if ← take .value then
          nodeUnless [.flowEntry, .flowSequenceEnd] false false limit
        else pure empty
      return .mapping .mapping [(key, value)] :: (← flowItems false limit)
    else if ← take .flowSequenceEnd then return []
    else
      let item ← node false false limit
      return item :: (← flowItems false limit)

def flowEntries (first : Bool) : Nat → Outlined (List (Node × Node))
  | 0 => fail
  | limit + 1 => do
    if ← take .flowMappingEnd then return []
    if !first then expect .flowEntry
    if ← take .key then
      let key ← nodeUnless [.value, .flowEntry, .flowMappingEnd] false false limit
      let value ← if ← take .value then
          nodeUnless [.flowEntry, .flowMappingEnd] false false limit
        else pure empty
      return (key, value) :: (← flowEntries false limit)
    else if ← take .flowMappingEnd then return []
    else
      let key ← node false false limit
      return (key, empty) :: (← flowEntries false limit)

end

def standardHandles : List (String × String) :=
  [("!", "!"), ("!!", Tag.standard)]

-- The directives in front of a document. None may stand twice, and the version must be 1.
def directives (versioned : Bool) (handles : List (String × String)) :
    List Token → Except Fault (List (String × String) × List Token)
  | .directive (.version major) :: rest =>
    if versioned || major != 1 then .error .malformed else directives true handles rest
  | .directive (.tagPrefix handle target) :: rest =>
    if (handles.lookup handle).isSome then .error .malformed
    else directives versioned ((handle, target) :: handles) rest
  | .directive .other :: rest => directives versioned handles rest
  | rest => .ok (handles, rest)

def document : Outlined (Option Node) := do
  let s ← get
  let limit := 4 * s.tokens.length + 4
  match s.tokens with
  | [] => return none
  | .directive _ :: _ | .documentStart :: _ =>
    let (handles, rest) ← directives false [] s.tokens
    set { s with tokens := rest, handles := handles ++ standardHandles }
    expect .documentStart
    match ← next with
    | none | some (.directive _) | some .documentStart | some .documentEnd => return some empty
    | _ => return some (← node true false limit)
  | _ =>
    set { s with handles := standardHandles }
    return some (← node true false limit)

end Outline

def Node.ofTokens (tokens : List Token) : Except Fault (Option Node) := do
  let (found, rest) ← Outline.document.run { tokens := tokens }
  if (rest.tokens.dropWhile (· == .documentEnd)).isEmpty then return found
  throw .malformed

end LogSieve.Yaml
