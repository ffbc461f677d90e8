import Turnstile.Yaml.Lexer
import Turnstile.Yaml.Node

/-!
# From tokens to documents

The grammar of documents. Each reader takes the tokens at hand and leaves those behind what it read.

* `Document.Source`: the tokens that are left, the anchors seen and the handles declared.
* `Document.readNode`: the reader of a node.
* `Document.stream?`: the documents of a text.
-/

namespace Turnstile.Yaml

namespace Document

/-- What a reader works on. -/
structure Source where
  dialect : Dialect
  tokens : List Token
  /-- The names of the anchors seen, the last one first. -/
  anchors : List String := []
  handles : List (String × String) := []

/-- A reader. -/
abbrev Read := StateT Source Option

/-- The next token, which stays. -/
def peek : Read (Option Token) := return (← get).tokens.head?

/-- Leaves the next token out. -/
def skip : Read Unit := modify fun s => { s with tokens := s.tokens.drop 1 }

/-- Whether the next token is one of these. -/
def next (ts : List Token) : Read Bool := return (← peek).any ts.contains

/-! ## Properties -/

/-- The name of a tag, whose handle must have been declared. -/
def tagOf (handle suffix : String) : Read Tag := do
  if handle = "" then return ⟨handle, suffix, suffix⟩
  else
    match (← get).handles.lookup handle with
    | some start => return ⟨handle, suffix, start ++ suffix⟩
    | none => failure

/-- Notes an anchor and returns its number. -/
def anchorOf (name : String) : Read Nat := do
  let s ← get
  set { s with anchors := name :: s.anchors }
  return s.anchors.length

/-- The number of the latest anchor of a name. -/
def referent (name : String) : Read Nat := do
  let anchors := (← get).anchors
  let after := anchors.findIdx (· == name)
  if after < anchors.length then return anchors.length - 1 - after else failure

/-- Reads an anchor and a tag, in either order. -/
def readProperties : Read Properties := do
  match ← peek with
  | some (.anchor name) =>
    skip
    let anchor ← anchorOf name
    match ← peek with
    | some (.tag handle suffix) =>
      skip
      return { anchor, tag := ← tagOf handle suffix }
    | _ => return { anchor }
  | some (.tag handle suffix) =>
    skip
    match ← peek with
    | some (.anchor name) =>
      skip
      let anchor ← anchorOf name
      return { anchor, tag := ← tagOf handle suffix }
    | _ => return { tag := ← tagOf handle suffix }
  | _ => return {}

/-! ## Nodes -/

mutual

/-- Reads a node. Block collections may begin only where `block` says so, and a sequence that is not
indented only as a member of a block mapping. -/
def readNode (block member : Bool) : Nat → Read Node
  | 0 => failure
  | fuel + 1 => do
    match ← peek with
    | some (.alias name) =>
      skip
      return .alias (← referent name)
    | _ =>
      let p ← readProperties
      match ← peek with
      | some (.scalar style text) =>
        skip
        return .scalar p style text
      | some .flowSequenceStart =>
        skip
        return .sequence p (← readFlowSequence true fuel)
      | some .flowMappingStart =>
        skip
        return .mapping p (← readFlowMapping true fuel)
      | t =>
        if member && t = some .blockEntry then return .sequence p (← readEntries false fuel)
        else if block && t = some .blockSequenceStart then
          skip
          return .sequence p (← readEntries true fuel)
        else if block && t = some .blockMappingStart then
          skip
          return .mapping p (← readBlockMapping fuel)
        else if p ≠ {} then return .scalar p .plain ""
        else failure

/-- Reads a node unless one of these tokens comes first. -/
def readUnless (ends : List Token) (block member : Bool) : Nat → Read Node
  | 0 => failure
  | fuel + 1 => do
    if ← next ends then return .absent else readNode block member fuel

/-- Reads the entries of a block sequence; one that is indented has an end of its own. -/
def readEntries (indented : Bool) : Nat → Read (List Node)
  | 0 => failure
  | fuel + 1 => do
    match ← peek with
    | some .blockEntry =>
      skip
      let ends := if indented then [.blockEntry, .blockEnd] else [.blockEntry, .key, .value, .blockEnd]
      let n ← readUnless ends true false fuel
      return n :: (← readEntries indented fuel)
    | t =>
      if !indented then return []
      else if t = some .blockEnd then
        skip
        return []
      else failure

/-- Reads the members of a block mapping. Only the lenient reading lets a key be left out. -/
def readBlockMapping : Nat → Read (List Node)
  | 0 => failure
  | fuel + 1 => do
    let ends := [.key, .value, .blockEnd]
    match ← peek with
    | some .blockEnd =>
      skip
      return []
    | some .key =>
      skip
      let k ← readUnless ends true true fuel
      let v ← readValue ends true fuel
      return k :: v :: (← readBlockMapping fuel)
    | some .value =>
      if (← get).dialect = .lenient then
        let v ← readValue ends true fuel
        return .absent :: v :: (← readBlockMapping fuel)
      else failure
    | _ => failure

/-- Reads the value of a member, which may be left out. -/
def readValue (ends : List Token) (block : Bool) : Nat → Read Node
  | 0 => failure
  | fuel + 1 => do
    if ← next [.value] then
      skip
      readUnless ends block block fuel
    else return .absent

/-- Reads the items of a flow sequence. An item with a key is a mapping of one member. -/
def readFlowSequence (first : Bool) : Nat → Read (List Node)
  | 0 => failure
  | fuel + 1 => do
    if ← next [.flowSequenceEnd] then
      skip
      return []
    else
      if !first then
        if ← next [.flowEntry] then skip else failure
      if ← next [.key] then
        skip
        let ends := [.value, .flowEntry, .flowSequenceEnd]
        let k ← (if ← next ends then do
            skip
            return .absent
          else readNode false false fuel)
        let v ← readValue [.flowEntry, .flowSequenceEnd] false fuel
        return .mapping {} [k, v] :: (← readFlowSequence false fuel)
      else if ← next [.flowSequenceEnd] then
        skip
        return []
      else
        let n ← readNode false false fuel
        return n :: (← readFlowSequence false fuel)

/-- Reads the members of a flow mapping. -/
def readFlowMapping (first : Bool) : Nat → Read (List Node)
  | 0 => failure
  | fuel + 1 => do
    if ← next [.flowMappingEnd] then
      skip
      return []
    else
      if !first then
        if ← next [.flowEntry] then skip else failure
      let valueEnds := [.flowEntry, .flowMappingEnd]
      if ← next [.key] then
        skip
        let k ← readUnless [.value, .flowEntry, .flowMappingEnd] false false fuel
        let v ← readValue valueEnds false fuel
        return k :: v :: (← readFlowMapping false fuel)
      else if ← next [.flowMappingEnd] then
        skip
        return []
      else if (← get).dialect = .lenient && (← next [.value]) then
        let v ← readValue valueEnds false fuel
        return .absent :: v :: (← readFlowMapping false fuel)
      else
        let k ← readNode false false fuel
        return k :: .absent :: (← readFlowMapping false fuel)

end

/-! ## Streams -/

/-- The handles that are declared from the start. -/
def defaultHandles : List (String × String) := [("!", "!"), ("!!", "tag:yaml.org,2002:")]

/-- Reads the directives before a document, none of which may be given twice. The strict reading takes
versions 1.1 and 1.2 only. -/
def readDirectives : Nat → Bool → Read Unit
  | 0, _ => failure
  | fuel + 1, versionSeen => do
    let s ← get
    match ← peek with
    | some (.version major minor) =>
      let known := major = 1 && (minor = 1 || minor = 2)
      if versionSeen || (s.dialect = .strict && !known) then failure
      else
        skip
        readDirectives fuel true
    | some (.tagHandle handle start) =>
      if (s.handles.lookup handle).isSome then failure
      else
        modify fun s => { s with handles := s.handles ++ [(handle, start)] }
        skip
        readDirectives fuel versionSeen
    | _ => modify fun s => { s with handles := s.handles ++ defaultHandles }

/-- Whether the next token begins a document that is announced. -/
def announced : Read Bool := do
  return match ← peek with
    | some (.version _ _) => true
    | some (.tagHandle _ _) => true
    | some .documentStart => true
    | _ => false

/-- Leaves out the marks behind a document. -/
def skipEnds : Nat → Read Unit
  | 0 => return
  | fuel + 1 => do
    if ← next [.documentEnd] then
      skip
      skipEnds fuel

/-- Reads the documents that are left. All but the first have to be announced. -/
def readStream (first : Bool) : Nat → Read (List Document)
  | 0 => failure
  | fuel + 1 => do
    if !first then skipEnds fuel
    if (← peek).isNone then return []
    else
      modify fun s => { s with anchors := [], handles := [] }
      let explicit := !first || (← announced)
      readDirectives fuel false
      let root ← (if explicit then do
          if !(← next [.documentStart]) then failure
          skip
          if (← peek).isNone || (← announced) || (← next [.documentEnd]) then return .absent
          else readNode true false fuel
        else readNode true false fuel)
      let anchors := (← get).anchors.reverse
      if ← next [.documentEnd] then skip
      return ⟨root, anchors⟩ :: (← readStream false fuel)

/-- The documents of a text, or nothing if it breaks a rule. -/
def stream? (d : Dialect) (s : String) : Option (List Document) := do
  let tokens ← Token.ofText? d s
  (readStream true (4 * tokens.length + 4)).run' { dialect := d, tokens }

end Document

end Turnstile.Yaml
