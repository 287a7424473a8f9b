import GoldenSuite.Yaml.ScalarKind
import GoldenSuite.Yaml.TokenQueue

/-! The first document of a stream as a tree of nodes. -/

namespace GoldenSuite.Yaml

/-- A node of a document, with its line from one. -/
inductive Node where
  | scalar (line : Nat) (tag : String) (text : String)
  | sequence (line : Nat) (tag : String) (items : List Node)
  | mapping (line : Nat) (tag : String) (entries : List (Node × Node))
  /-- Stands for the node with an anchor; `serial` tells aliases apart. -/
  | alias (line : Nat) (serial : Nat) (name : String) (target : Nat)
deriving Inhabited

/-- A document: its root, and the nodes with anchors by their numbers. -/
structure Document where
  root : Node
  anchored : List (Nat × Node)

/-- The state of reading a document. -/
structure Composer where
  queue : TokenQueue
  /-- What the handles of tags stand for. -/
  handles : List (String × String)
  /-- The latest number of each anchor. -/
  anchors : List (String × Nat)
  anchored : List (Nat × Node)
  /-- The next number of an anchor or an alias. -/
  serial : Nat

/-- A step that reads nodes and may fail. -/
abbrev Composing := StateT Composer (Except Problem)

namespace Composing

def start (source : Source) : Composer where
  queue := .start source
  handles := []
  anchors := []
  anchored := []
  serial := 0

/-- Runs a step that reads tokens. -/
def tokenizing {α : Type} (step : Tokenizing α) : Composing α := do
  let composer ← get
  match step.run composer.queue with
  | .ok (result, queue) =>
      set { composer with queue }
      return result
  | .error problem => throw problem

def peek : Composing Token :=
  tokenizing Tokenizing.peek

def skip : Composing Unit :=
  tokenizing Tokenizing.skip

/-- Passes one token and looks at the next. -/
def advance : Composing Token := do
  skip
  peek

def fail {α : Type} (cause : Misplaced) (context line : Nat) : Composing α :=
  throw (.misplaced cause context line)

-------------------------------------------------------------------------------
-- Anchors and tags
-------------------------------------------------------------------------------

/-- Gives out a new number. -/
def newSerial : Composing Nat := do
  let composer ← get
  set { composer with serial := composer.serial + 1 }
  return composer.serial

/-- Registers an anchor; from here on aliases of its name mean the node to come. -/
def register (anchor : Option String) : Composing (Option Nat) := do
  match anchor with
  | none => return none
  | some name =>
      let number ← newSerial
      modify fun composer => { composer with anchors := (name, number) :: composer.anchors }
      return some number

/-- Keeps a finished node under the number of its anchor. -/
def keep (number : Option Nat) (node : Node) : Composing Node := do
  match number with
  | none => return node
  | some number =>
      modify fun composer => { composer with anchored := (number, node) :: composer.anchored }
      return node

/-- An alias; the anchor has to be known already. -/
def aliasOf (name : String) (line : Nat) : Composing Node := do
  match (← get).anchors.lookup name with
  | none => throw (.unknownAnchor name)
  | some target => return .alias (line + 1) (← newSerial) name target

/-- The properties in front of a node. -/
structure Properties where
  anchor : Option String
  tag : Option (String × String)
  tagLine : Nat

/-- Reads an anchor and a tag, in any order. -/
def properties : Composing Properties := do
  let token ← peek
  match token.kind with
  | .anchor name =>
      let token ← advance
      match token.kind with
      | .tag handle suffix =>
          skip
          return ⟨some name, some (handle, suffix), token.line⟩
      | _ => return ⟨some name, none, 0⟩
  | .tag handle suffix =>
      let after ← advance
      match after.kind with
      | .anchor name =>
          skip
          return ⟨some name, some (handle, suffix), token.line⟩
      | _ => return ⟨none, some (handle, suffix), token.line⟩
  | _ => return ⟨none, none, 0⟩

/-- The whole tag, empty without one. -/
def resolveTag (properties : Properties) (context : Nat) : Composing String := do
  match properties.tag with
  | none => return ""
  | some ("", suffix) => return suffix
  | some (handle, suffix) =>
      match (← get).handles.lookup handle with
      | some start =>
          if start ++ suffix = "" then fail .unknownHandle context properties.tagLine
          else return start ++ suffix
      | none => fail .unknownHandle context properties.tagLine

/-- The tag of a node: its own one, or else what goes without saying. -/
def tagOr (own fallback : String) : String :=
  if own = "" || own = "!" then fallback else ScalarKind.shortTag own

/-- An empty scalar. -/
def nothing (line : Nat) : Node :=
  .scalar (line + 1) ScalarKind.nullTag ""

-------------------------------------------------------------------------------
-- Nodes
-------------------------------------------------------------------------------

/-- Whether a token closes a block mapping's key or value before it has begun. -/
def endsMappingPart : Token.Kind → Bool
  | .key | .value | .blockEnd => true
  | _ => false

mutual

/-- Reads a node. Block collections are allowed only where `block` says so, and sequences without
indentation only where `indentless` does. -/
def node (budget : Nat) (block indentless : Bool) : Composing Node :=
  match budget with
  | 0 => throw .tooLong
  | budget + 1 => do
      let first ← peek
      match first.kind with
      | .alias name =>
          skip
          aliasOf name first.line
      | _ =>
          let properties ← properties
          let token ← peek
          let tag ← resolveTag properties first.line
          let line := first.line + 1
          match token.kind with
          | .scalar text isPlain =>
              let fallback :=
                if !isPlain then ScalarKind.strTag
                else if text = "<<" then ScalarKind.mergeTag
                else (ScalarKind.ofPlain text).tag
              let number ← register properties.anchor
              skip
              keep number (.scalar line (tagOr tag fallback) text)
          | .flowSequenceStart =>
              let number ← register properties.anchor
              skip
              let items ← flowItems budget token.line true []
              keep number (.sequence line (tagOr tag ScalarKind.seqTag) items)
          | .flowMappingStart =>
              let number ← register properties.anchor
              skip
              let entries ← flowEntries budget token.line true []
              keep number (.mapping line (tagOr tag ScalarKind.mapTag) entries)
          | kind =>
              if indentless && kind = .blockEntry then
                let number ← register properties.anchor
                let items ← indentlessItems budget []
                keep number (.sequence line (tagOr tag ScalarKind.seqTag) items)
              else if block && kind = .blockSequenceStart then
                let number ← register properties.anchor
                skip
                let items ← blockItems budget token.line []
                keep number (.sequence line (tagOr tag ScalarKind.seqTag) items)
              else if block && kind = .blockMappingStart then
                let number ← register properties.anchor
                skip
                let entries ← blockEntries budget token.line []
                keep number (.mapping line (tagOr tag ScalarKind.mapTag) entries)
              else if properties.anchor.isSome || tag ≠ "" then
                let number ← register properties.anchor
                keep number (.scalar line (tagOr tag ScalarKind.nullTag) "")
              else fail .noContent first.line token.line

/-- Reads the items of a block sequence and its end. -/
def blockItems (budget : Nat) (context : Nat) (sofar : List Node) : Composing (List Node) :=
  match budget with
  | 0 => throw .tooLong
  | budget + 1 => do
      let token ← peek
      match token.kind with
      | .blockEntry =>
          let after ← advance
          let item ←
            if after.kind = .blockEntry || after.kind = .blockEnd then pure (nothing token.line)
            else node budget true false
          blockItems budget context (sofar ++ [item])
      | .blockEnd =>
          skip
          return sofar
      | _ => fail .noEntry context token.line

/-- Reads the items of a sequence that is not indented. -/
def indentlessItems (budget : Nat) (sofar : List Node) : Composing (List Node) :=
  match budget with
  | 0 => throw .tooLong
  | budget + 1 => do
      let token ← peek
      match token.kind with
      | .blockEntry =>
          let after ← advance
          let item ←
            if after.kind = .blockEntry || endsMappingPart after.kind then
              pure (nothing token.line)
            else node budget true false
          indentlessItems budget (sofar ++ [item])
      | _ => return sofar

/-- Reads the entries of a block mapping and its end. -/
def blockEntries (budget : Nat) (context : Nat) (sofar : List (Node × Node))
    : Composing (List (Node × Node)) :=
  match budget with
  | 0 => throw .tooLong
  | budget + 1 => do
      let token ← peek
      match token.kind with
      | .key =>
          let after ← advance
          let key ←
            if endsMappingPart after.kind then pure (nothing token.line)
            else node budget true true
          let token ← peek
          let value ←
            if token.kind = .value then do
              let after ← advance
              if endsMappingPart after.kind then pure (nothing token.line)
              else node budget true true
            else pure (nothing token.line)
          blockEntries budget context (sofar ++ [(key, value)])
      | .blockEnd =>
          skip
          return sofar
      | _ => fail .noKey context token.line

/-- Reads the items of a sequence in brackets and its end. -/
def flowItems (budget : Nat) (context : Nat) (first : Bool) (sofar : List Node)
    : Composing (List Node) :=
  match budget with
  | 0 => throw .tooLong
  | budget + 1 => do
      let token ← peek
      if token.kind = .flowSequenceEnd then
        skip
        return sofar
      else
        let token ←
          if first then pure token
          else if token.kind = .flowEntry then advance
          else fail .noCommaOrBracket context token.line
        if token.kind = .key then
          let after ← advance
          let key ←
            if after.kind = .value || after.kind = .flowEntry || after.kind = .flowSequenceEnd then do
              skip
              pure (nothing after.line)
            else node budget false false
          let colon ← peek
          let value ←
            if colon.kind = .value then do
              let after ← advance
              if after.kind = .flowEntry || after.kind = .flowSequenceEnd then
                pure (nothing colon.line)
              else node budget false false
            else pure (nothing colon.line)
          let _ ← peek
          let pair := Node.mapping (token.line + 1) ScalarKind.mapTag [(key, value)]
          flowItems budget context false (sofar ++ [pair])
        else if token.kind = .flowSequenceEnd then
          skip
          return sofar
        else
          let item ← node budget false false
          flowItems budget context false (sofar ++ [item])

/-- Reads the entries of a mapping in braces and its end. -/
def flowEntries (budget : Nat) (context : Nat) (first : Bool) (sofar : List (Node × Node))
    : Composing (List (Node × Node)) :=
  match budget with
  | 0 => throw .tooLong
  | budget + 1 => do
      let token ← peek
      if token.kind = .flowMappingEnd then
        skip
        return sofar
      else
        let token ←
          if first then pure token
          else if token.kind = .flowEntry then advance
          else fail .noCommaOrBrace context token.line
        if token.kind = .key then
          let after ← advance
          let key ←
            if after.kind = .value || after.kind = .flowEntry || after.kind = .flowMappingEnd then
              pure (nothing after.line)
            else node budget false false
          let colon ← peek
          let value ←
            if colon.kind = .value then do
              let after ← advance
              if after.kind = .flowEntry || after.kind = .flowMappingEnd then
                pure (nothing colon.line)
              else node budget false false
            else pure (nothing colon.line)
          flowEntries budget context false (sofar ++ [(key, value)])
        else if token.kind = .flowMappingEnd then
          skip
          return sofar
        else
          let key ← node budget false false
          let after ← peek
          flowEntries budget context false (sofar ++ [(key, nothing after.line)])

end

-------------------------------------------------------------------------------
-- Documents
-------------------------------------------------------------------------------

/-- The handles that every document knows. -/
def defaultHandles : List (String × String) :=
  [("!", "!"), ("!!", "tag:yaml.org,2002:")]

/-- Reads the directives in front of a document. -/
def directives (budget : Nat) (versioned : Bool) : Composing Unit :=
  match budget with
  | 0 => throw .tooLong
  | budget + 1 => do
      let token ← peek
      match token.kind with
      | .version major minor =>
          if versioned then fail .repeatedVersion 0 token.line
          if major ≠ 1 || minor ≠ 1 then fail .otherVersion 0 token.line
          skip
          directives budget true
      | .shorthand handle start =>
          let handles := (← get).handles
          if (handles.lookup handle).isSome then fail .repeatedHandle 0 token.line
          modify fun composer => { composer with handles := handles ++ [(handle, start)] }
          skip
          directives budget versioned
      | _ =>
          modify fun composer => { composer with handles := composer.handles ++ defaultHandles }

/-- Whether a document that begins here is empty. -/
def endsDocument : Token.Kind → Bool
  | .version _ _ | .shorthand _ _ | .documentStart | .documentEnd | .streamEnd => true
  | _ => false

/-- Whether a token has to come before an explicit document start. -/
def opensDocument : Token.Kind → Bool
  | .version _ _ | .shorthand _ _ | .documentStart => true
  | _ => false

/-- Reads the first document of a stream, if it has one. What follows it matters only as far as it
has to be looked at. -/
def document (budget : Nat) : Composing (Option Node) := do
  let _ ← peek
  let token ← advance
  if token.kind = .streamEnd then return none
  else
    let root ←
      if opensDocument token.kind then do
        directives budget false
        let token ← peek
        if token.kind ≠ .documentStart then fail .noDocumentStart 0 token.line
        let token ← advance
        if endsDocument token.kind then pure (nothing token.line)
        else node budget true false
      else do
        modify fun composer => { composer with handles := defaultHandles }
        node budget true false
    let _ ← peek
    return some root

end Composing

/-- Reads the first document of a stream. -/
def Document.read (bytes : Bytes) : Except Problem (Option Document) :=
  let source := Source.ofBytes bytes
  match (Composing.document (8 * source.text.length + 64)).run (Composing.start source) with
  | .error problem => .error problem
  | .ok (none, _) => .ok none
  | .ok (some root, composer) => .ok (some ⟨root, composer.anchored⟩)

end GoldenSuite.Yaml
