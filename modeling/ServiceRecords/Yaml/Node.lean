import ServiceRecords.Yaml.Token

set_option autoImplicit false

/-!
Documents of YAML. Tokens make up nodes: scalars, sequences and mappings, with tags and anchors,
and aliases of anchored nodes. What is left out is an empty scalar.
-/

namespace ServiceRecords.Yaml

/-- What is said about a node before it. -/
structure Properties where
  anchor : Option String := none
  /-- Written out, with what its handle stands for -/
  tag : Option String := none
  deriving DecidableEq, Repr

inductive Node where
  | scalar (properties : Properties) (text : String) (isPlain : Bool)
  | sequence (properties : Properties) (items : List Node)
  | mapping (properties : Properties) (members : List (Node × Node))
  | alias (name : String)

namespace Node

def empty : Node := .scalar {} "" true

/-- Reads from tokens. -/
abbrev Reader := StateT (List Token) Option

def peek : Reader (Option Token) := fun tokens => some (tokens.head?, tokens)

def skip : Reader Unit := fun tokens => some ((), tokens.drop 1)

def fail {α : Type} : Reader α := fun _ => none

/-- Passes a token, which has to be there. -/
def expect (token : Token) : Reader Unit := do
  if (← peek) = some token then skip else fail

/-- What the handles of tags stand for. -/
abbrev Handles := List (String × String)

def defaultHandles : Handles := [("!", "!"), ("!!", "tag:yaml.org,2002:")]

/-- The tag that a handle and a suffix make up. -/
def tag (handles : Handles) (handle suffix : String) : Reader String :=
  if handle = "" then pure suffix
  else
    match (handles ++ defaultHandles).lookup handle with
    | some start => pure (start ++ suffix)
    | none => fail

/-- Reads an anchor and a tag, in either order. -/
def properties (handles : Handles) : Reader Properties := do
  match ← peek with
  | some (.anchor name) =>
    skip
    match ← peek with
    | some (.tag handle suffix) =>
      skip
      return { anchor := name, tag := ← tag handles handle suffix }
    | _ => return { anchor := name }
  | some (.tag handle suffix) =>
    skip
    let tag ← tag handles handle suffix
    match ← peek with
    | some (.anchor name) =>
      skip
      return { anchor := name, tag }
    | _ => return { tag }
  | _ => return {}

/-- Whether a token ends an entry of a block before it has a node. -/
def endsBlockEntry : Option Token → Bool
  | some .key | some .value | some .blockEnd => true
  | _ => false

/-- Where a node stands. -/
inductive Place where
  | block
  /-- Behind a key or its colon, where the marks of a sequence need not be indented -/
  | member
  | flow
  deriving DecidableEq

mutual

/-- Reads a node. No more than `limit` readers are inside of each other. -/
def read (handles : Handles) (limit : Nat) (place : Place) : Reader Node :=
  match limit with
  | 0 => fail
  | limit + 1 => do
    if let some (.alias name) := ← peek then
      skip
      return .alias name
    let properties ← properties handles
    match ← peek with
    | some .blockEntry =>
      if place = .member then return .sequence properties (← looseItems handles limit)
      else absent properties
    | some (.scalar text isPlain) =>
      skip
      return .scalar properties text isPlain
    | some .flowSequence =>
      skip
      return .sequence properties (← flowItems handles limit true)
    | some .flowMapping =>
      skip
      return .mapping properties (← flowMembers handles limit true)
    | some .blockSequence =>
      if place = .flow then absent properties
      else
        skip
        return .sequence properties (← blockItems handles limit)
    | some .blockMapping =>
      if place = .flow then absent properties
      else
        skip
        return .mapping properties (← blockMembers handles limit)
    | _ => absent properties
where
  /-- The node that is left out behind an anchor or a tag. -/
  absent (properties : Properties) : Reader Node :=
    if properties = {} then fail else pure (.scalar properties "" true)

/-- Reads the entries of a sequence up to the end of its block. -/
def blockItems (handles : Handles) (limit : Nat) : Reader (List Node) :=
  match limit with
  | 0 => fail
  | limit + 1 => do
    match ← peek with
    | some .blockEntry =>
      skip
      let next ← peek
      let item ←
        if next = some .blockEntry ∨ next = some .blockEnd then pure empty
        else read handles limit .block
      return item :: (← blockItems handles limit)
    | some .blockEnd =>
      skip
      return []
    | _ => fail

/-- Reads the entries of a sequence that has no block of its own. -/
def looseItems (handles : Handles) (limit : Nat) : Reader (List Node) :=
  match limit with
  | 0 => fail
  | limit + 1 => do
    match ← peek with
    | some .blockEntry =>
      skip
      let next ← peek
      let item ←
        if next = some .blockEntry || endsBlockEntry next then pure empty
        else read handles limit .block
      return item :: (← looseItems handles limit)
    | _ => return []

/-- Reads the members of a mapping up to the end of its block. -/
def blockMembers (handles : Handles) (limit : Nat) : Reader (List (Node × Node)) :=
  match limit with
  | 0 => fail
  | limit + 1 => do
    match ← peek with
    | some .key =>
      skip
      let key ← if endsBlockEntry (← peek) then pure empty else read handles limit .member
      let value ←
        if (← peek) = some .value then
          skip
          if endsBlockEntry (← peek) then pure empty else read handles limit .member
        else pure empty
      return (key, value) :: (← blockMembers handles limit)
    | some .blockEnd =>
      skip
      return []
    | _ => fail

/-- Reads the entries of a sequence up to its bracket. An entry can be a single member. -/
def flowItems (handles : Handles) (limit : Nat) (isFirst : Bool) : Reader (List Node) :=
  match limit with
  | 0 => fail
  | limit + 1 => do
    if (← peek) = some .flowSequenceEnd then
      skip
      return []
    if !isFirst then expect .flowEntry
    match ← peek with
    | some .flowSequenceEnd =>
      skip
      return []
    | some .key =>
      skip
      let member ← flowMember handles limit
      return .mapping {} [member] :: (← flowItems handles limit false)
    | _ =>
      let item ← read handles limit .flow
      return item :: (← flowItems handles limit false)

/-- Reads a member that is an entry of a sequence, behind the mark of its key. -/
def flowMember (handles : Handles) (limit : Nat) : Reader (Node × Node) :=
  match limit with
  | 0 => fail
  | limit + 1 => do
    let ends (token : Option Token) : Bool :=
      token = some .flowEntry || token = some .flowSequenceEnd
    let next ← peek
    let key ←
      if next = some .value || ends next then
        skip
        pure empty
      else read handles limit .flow
    let value ←
      if (← peek) = some .value then
        skip
        if ends (← peek) then pure empty else read handles limit .flow
      else pure empty
    return (key, value)

/-- Reads the members of a mapping up to its bracket. -/
def flowMembers (handles : Handles) (limit : Nat) (isFirst : Bool) :
    Reader (List (Node × Node)) :=
  match limit with
  | 0 => fail
  | limit + 1 => do
    if (← peek) = some .flowMappingEnd then
      skip
      return []
    if !isFirst then expect .flowEntry
    let ends (token : Option Token) : Bool :=
      token = some .flowEntry || token = some .flowMappingEnd
    match ← peek with
    | some .flowMappingEnd =>
      skip
      return []
    | some .key =>
      skip
      let next ← peek
      let key ←
        if next = some .value || ends next then pure empty else read handles limit .flow
      let value ←
        if (← peek) = some .value then
          skip
          if ends (← peek) then pure empty else read handles limit .flow
        else pure empty
      return (key, value) :: (← flowMembers handles limit false)
    | _ =>
      let key ← read handles limit .flow
      return (key, empty) :: (← flowMembers handles limit false)

end

/-- Reads the directives before a document. Each is given once, and the version is the first or
the second of the first. -/
def directives (limit : Nat) (version : Bool) (handles : Handles) : Reader Handles :=
  match limit with
  | 0 => fail
  | limit + 1 => do
    match ← peek with
    | some (.version major minor) =>
      skip
      if version || major ≠ 1 || (minor ≠ 1 && minor ≠ 2) then fail
      else directives limit true handles
    | some (.handle name start) =>
      skip
      if (handles.lookup name).isSome then fail
      else directives limit version (handles ++ [(name, start)])
    | _ => return handles

/-- Passes the marks of the end of a document, all or at most one. -/
def skipEnds (limit : Nat) : Reader Unit :=
  match limit with
  | 0 => pure ()
  | limit + 1 => do
    if (← peek) = some .documentEnd then
      skip
      skipEnds limit

/-- Whether a token cannot begin the node of a document. -/
def endsDocument : Option Token → Bool
  | none | some .documentStart | some .documentEnd | some (.version ..) | some (.handle ..) => true
  | _ => false

/-- Reads a document behind its mark, or one that has none. -/
def document (limit : Nat) (isMarked : Bool) (handles : Handles) : Reader Node := do
  let node ←
    if isMarked && endsDocument (← peek) then pure empty else read handles limit .block
  skipEnds 1
  return node

/-- Whether the directives or the mark of a document come next. -/
def opensDocument : Option Token → Bool
  | some .documentStart | some (.version ..) | some (.handle ..) => true
  | _ => false

/-- Reads the documents up to the end of the tokens. Only the first can do without a mark. -/
def documents (limit : Nat) (isFirst : Bool) : Reader (List Node) :=
  match limit with
  | 0 => fail
  | limit + 1 => do
    if !isFirst then skipEnds limit
    let next ← peek
    if next.isNone then return []
    let node ←
      if isFirst && !opensDocument next then document limit false []
      else
        let handles ← directives limit false []
        expect .documentStart
        document limit true handles
    return node :: (← documents limit false)

/-- The documents of a text; a text without any has an empty one. -/
def ofText? (text : String) : Option (List Node) := do
  let source ← Source.ofText? text.toList
  let tokens ← Token.scan? source
  let (nodes, _) ← (documents (4 * tokens.length + 8) true).run tokens
  return if nodes.isEmpty then [empty] else nodes

end Node

end ServiceRecords.Yaml
