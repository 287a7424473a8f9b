import GoldenSuite.Text.Quoted
import GoldenSuite.Duration
import GoldenSuite.Yaml.Document

/-! Filling the fields of a record from a document. What does not fit is collected and the rest is
filled; a fault of the document itself ends everything. -/

namespace GoldenSuite.Yaml

-------------------------------------------------------------------------------
-- Faults
-------------------------------------------------------------------------------

/-- A part of a document that does not fit the record. -/
inductive Mismatch where
  | unknownField (line : Nat) (name type : String)
  | fieldSetTwice (line : Nat) (name type : String)
  | keyTwice (line : Nat) (key : String) (firstLine : Nat)
  | wrongKind (line : Nat) (tag text type : String)

namespace Mismatch

/-- The longest text that a message shows whole, and how much it shows of a longer one, in
bytes. -/
def shownWhole : Nat := 10
def shownPart : Nat := 7

/-- How a message shows the text of a scalar. -/
def shown (text : String) : String :=
  let bytes := Bytes.ofString text
  if shownWhole < bytes.length then Bytes.toStringLossy (bytes.take shownPart) ++ "..."
  else text

def message : Mismatch → String
  | .unknownField line name type =>
      "line " ++ toString line ++ ": field " ++ name ++ " not found in type " ++ type
  | .fieldSetTwice line name type =>
      "line " ++ toString line ++ ": field " ++ name ++ " already set in type " ++ type
  | .keyTwice line key firstLine =>
      "line " ++ toString line ++ ": mapping key " ++ Text.Quoted.ofString key
        ++ " already defined at line " ++ toString firstLine
  | .wrongKind line tag text type =>
      let value :=
        if tag = ScalarKind.seqTag || tag = ScalarKind.mapTag then text
        else " \x60" ++ shown text ++ "\x60"
      "line " ++ toString line ++ ": cannot unmarshal " ++ tag ++ value ++ " into " ++ type

end Mismatch

/-- Why a document cannot be used at all. -/
inductive Unusable where
  | problem (cause : Problem)
  | tagMismatch (kind text tag : String)
  | badBase64
  | mergeNeedsMap
  | selfContaining (anchor : String)
  | mismatches (all : List Mismatch)

def Unusable.message : Unusable → String
  | .problem cause => "yaml: " ++ cause.message
  | .tagMismatch kind text tag =>
      "yaml: cannot decode " ++ kind ++ " \x60" ++ text ++ "\x60 as a " ++ tag
  | .badBase64 => "yaml: !!binary value contains invalid base64 data"
  | .mergeNeedsMap => "yaml: map merge requires map or sequence of maps as the value"
  | .selfContaining anchor => "yaml: anchor '" ++ anchor ++ "' value contains itself"
  | .mismatches all =>
      "yaml: unmarshal errors:" ++ String.join (all.map fun one => "\n  " ++ one.message)

/-- A step of filling: it collects what does not fit. -/
abbrev Decoding := StateT (List Mismatch) (Except Unusable)

-------------------------------------------------------------------------------
-- Scalars
-------------------------------------------------------------------------------

/-- What a scalar gives to a field. -/
inductive Content where
  | nothing
  | bool (value : Bool)
  | text (text : String)
  /-- A number or a point in time. -/
  | other

namespace Content

def ofKind (text : String) : ScalarKind → Content
  | .null => .nothing
  | .bool value => .bool value
  | .str => .text text
  | _ => .other

/-- The value of a base-64 digit. -/
def base64Digit? (c : Char) : Option Nat :=
  if 'A' ≤ c && c ≤ 'Z' then some (c.toNat - 65)
  else if 'a' ≤ c && c ≤ 'z' then some (c.toNat - 71)
  else if c.isDigit then some (c.toNat + 4)
  else if c = '+' then some 62
  else if c = '/' then some 63
  else none

/-- The first `count` bytes of a group of base-64 digits. -/
def base64Group? (count : Nat) (digits : List Char) : Option Bytes := do
  let values ← digits.mapM base64Digit?
  let word := (values ++ List.replicate (4 - values.length) 0).foldl (fun n d => n * 64 + d) 0
  let bytes := [word / 65536, word / 256 % 256, word % 256].map UInt8.ofNat
  some (bytes.take count)

/-- The bytes that groups of four base-64 digits stand for; the last group may be filled up. -/
def base64Groups? : List Char → Option Bytes
  | [] => some []
  | [a, b, '=', '='] => base64Group? 1 [a, b]
  | [a, b, c, '='] => base64Group? 2 [a, b, c]
  | a :: b :: c :: d :: rest => do
      let group ← base64Group? 3 [a, b, c, d]
      let later ← base64Groups? rest
      some (group ++ later)
  | _ => none

/-- What base-64 text stands for; line breaks in it do not count. -/
def base64? (text : String) : Option String :=
  (base64Groups? (text.toList.filter fun c => c ≠ '\n' && c ≠ '\r')).map Bytes.toStringLossy

/-- The tags that ask for a meaning. -/
def meaningTags : List String :=
  [ScalarKind.boolTag, ScalarKind.intTag, ScalarKind.floatTag, ScalarKind.nullTag,
    ScalarKind.timestampTag]

/-- What a scalar with a tag gives. A tag that asks for a meaning has to get it; whole numbers are
fractions, too. -/
def of (tag text : String) : Except Unusable Content :=
  if tag = ScalarKind.binaryTag then
    match base64? text with
    | some decoded => .ok (.text decoded)
    | none => .error .badBase64
  else if tag ∈ meaningTags then
    let kind := ScalarKind.ofText (tag = ScalarKind.timestampTag) text
    let isWhole := match kind with
      | .int value => ScalarKind.fitsSigned value
      | _ => false
    if kind.tag = tag || (tag = ScalarKind.floatTag && isWhole) then .ok (ofKind text kind)
    else .error (.tagMismatch kind.tag text tag)
  else .ok (.text text)

end Content

-------------------------------------------------------------------------------
-- Fields
-------------------------------------------------------------------------------

namespace Decoding

def report (mismatch : Mismatch) : Decoding Unit :=
  modify (· ++ [mismatch])

def wrongKind (line : Nat) (tag text type : String) : Decoding Unit :=
  report (.wrongKind line tag text type)

/-- A scalar's content, or the end of everything. -/
def content (tag text : String) : Decoding Content :=
  match Content.of tag text with
  | .ok content => return content
  | .error unusable => throw unusable

/-- A node as two keys are compared: its sort and its text. -/
def keyIdentity : Node → Nat × String
  | .scalar _ _ text => (0, text)
  | .sequence _ _ _ => (1, "")
  | .mapping _ _ _ => (2, "")
  | .alias _ _ name _ => (3, name)

def lineOf : Node → Nat
  | .scalar line _ _ => line
  | .sequence line _ _ => line
  | .mapping line _ _ => line
  | .alias line _ _ _ => line

/-- The keys that come more than once, each pair of equal ones. -/
def keysTwice : List (Node × Node) → List Mismatch
  | [] => []
  | (key, _) :: rest =>
      ((rest.filter fun later => keyIdentity later.1 == keyIdentity key).map fun later =>
        Mismatch.keyTwice (lineOf later.1) (keyIdentity key).2 (lineOf key)) ++ keysTwice rest

/-- Reports the keys that come more than once; says whether there are any. -/
def reportKeysTwice (entries : List (Node × Node)) : Decoding Bool := do
  let found := keysTwice entries
  modify (· ++ found)
  return !found.isEmpty

/-- The node that is meant: that of the anchor for an alias. -/
def meant (document : Document) : Node → Node
  | .alias line _ _ target =>
      (document.anchored.lookup target).getD (.scalar line ScalarKind.nullTag "")
  | node => node

/-- What a node gives where no collection fits; collections are reported. -/
def scalarContent (document : Document) (type : String) (node : Node)
    : Decoding (Content × Nat × String × String) := do
  match meant document node with
  | .scalar line tag text => return (← content tag text, line, tag, text)
  | .sequence line tag _ =>
      wrongKind line tag "" type
      return (.nothing, line, tag, "")
  | .mapping line tag entries =>
      if !(← reportKeysTwice entries) then wrongKind line tag "" type
      return (.nothing, line, tag, "")
  | .alias line _ _ _ => return (.nothing, line, "", "")

/-- The text in a node; scalars of every kind have one. -/
def text? (document : Document) (node : Node) : Decoding (Option String) := do
  let (content, _, _, source) ← scalarContent document "string" node
  match content with
  | .nothing => return none
  | .text text => return some text
  | _ => return some source

/-- The words for truth values that count where a truth value is asked for. -/
def boolOfWord? (word : String) : Option Bool :=
  if word ∈ ["y", "Y", "yes", "Yes", "YES", "on", "On", "ON"] then some true
  else if word ∈ ["n", "N", "no", "No", "NO", "off", "Off", "OFF"] then some false
  else none

/-- The truth value in a node. -/
def bool? (document : Document) (node : Node) : Decoding (Option Bool) := do
  let (content, line, tag, source) ← scalarContent document "bool" node
  match content with
  | .nothing => return none
  | .bool value => return some value
  | .text word =>
      match boolOfWord? word with
      | some value => return some value
      | none =>
          wrongKind line tag source "bool"
          return none
  | .other =>
      wrongKind line tag source "bool"
      return none

/-- The duration in a node. -/
def duration? (document : Document) (node : Node) : Decoding (Option Duration) := do
  let (content, line, tag, source) ← scalarContent document "time.Duration" node
  let parsed := match content with
    | .text text => (Duration.parse text).toOption
    | _ => none
  match content, parsed with
  | .nothing, _ => return none
  | _, some duration => return some duration
  | _, none =>
      wrongKind line tag source "time.Duration"
      return none

-------------------------------------------------------------------------------
-- Records
-------------------------------------------------------------------------------

end Decoding

/-- How a field is filled from a node. -/
abbrev Filler (α : Type) := Document → Node → α → Decoding α

/-- The fields of a record by their names, and what messages call it. -/
structure Shape (α : Type) where
  type : String
  fields : List (String × Filler α)

namespace Decoding

variable {α : Type}

/-- A field for a text. -/
def textField (put : α → String → α) : Filler α := fun document node value => do
  match ← text? document node with
  | some text => return put value text
  | none => return value

/-- A field for a truth value. -/
def boolField (put : α → Bool → α) : Filler α := fun document node value => do
  match ← bool? document node with
  | some flag => return put value flag
  | none => return value

/-- A field for a duration. -/
def durationField (put : α → Duration → α) : Filler α := fun document node value => do
  match ← duration? document node with
  | some duration => return put value duration
  | none => return value

/-- Whether a key asks for the entries of other mappings. -/
def isMerge : Node → Bool
  | .scalar _ tag text => text = "<<" && tag = ScalarKind.mergeTag
  | _ => false

/-- Fills the fields that a mapping names, one entry after the other. `taken` are the names that
other mappings have given already, if this one is merged into them; `filled` are the fields of
this mapping so far. -/
def fillEntries (shape : Shape α) (document : Document)
    : List (Node × Node) → Option (List String) → List String → α
    → Decoding (α × Option (List String))
  | [], taken, _, record => return (record, taken)
  | (key, node) :: rest, taken, filled, record => do
      if isMerge key then fillEntries shape document rest taken filled record
      else
        match ← text? document key with
        | none => fillEntries shape document rest taken filled record
        | some name =>
            if taken.any (·.contains name) then
              fillEntries shape document rest taken filled record
            else
              let taken := taken.map (name :: ·)
              match shape.fields.lookup name with
              | none =>
                  report (.unknownField (lineOf key) name shape.type)
                  fillEntries shape document rest taken filled record
              | some fill =>
                  if filled.contains name then
                    report (.fieldSetTwice (lineOf key) name shape.type)
                    fillEntries shape document rest taken filled record
                  else
                    let record ← fill document node record
                    fillEntries shape document rest taken (name :: filled) record

/-- The names that a mapping gives by itself. -/
def ownNames (document : Document) : List (Node × Node) → Decoding (List String)
  | [] => return []
  | (key, _) :: rest => do
      let later ← ownNames document rest
      match meant document key with
      | .scalar _ tag text =>
          match ← content tag text with
          | .text name => return name :: later
          | _ => return later
      | _ => return later

mutual

/-- Fills a record from a mapping, and then from the mappings that are merged into it. `active`
are the aliases that are being followed. -/
def fillMapping (shape : Shape α) (document : Document) (budget : Nat) (active : List Nat)
    (entries : List (Node × Node)) (taken : Option (List String)) (record : α)
    : Decoding (α × Option (List String)) :=
  match budget with
  | 0 => throw (.problem .tooLong)
  | budget + 1 => do
      if ← reportKeysTwice entries then return (record, taken)
      else
        let (record, taken) ← fillEntries shape document entries taken [] record
        match entries.find? fun entry => isMerge entry.1 with
        | none => return (record, taken)
        | some (_, source) =>
            let names ←
              match taken with
              | some names => pure names
              | none => ownNames document entries
            let sources := match source with
              | .sequence _ _ items => items
              | other => [other]
            let (record, names) ← mergeAll shape document budget active sources names record
            return (record, taken.map fun _ => names)

/-- Merges mappings into a record, one after the other. -/
def mergeAll (shape : Shape α) (document : Document) (budget : Nat) (active : List Nat)
    (sources : List Node) (names : List String) (record : α)
    : Decoding (α × List String) :=
  match budget, sources with
  | 0, _ => throw (.problem .tooLong)
  | _ + 1, [] => return (record, names)
  | budget + 1, source :: rest => do
      match meant document source with
      | .mapping _ _ entries =>
          let followed ←
            match source with
            | .alias _ serial name _ =>
                if active.contains serial then throw (.selfContaining name)
                else pure (serial :: active)
            | _ => pure active
          let (record, later) ← fillMapping shape document budget followed entries (some names) record
          mergeAll shape document budget active rest (later.getD names) record
      | _ => throw .mergeNeedsMap

end

/-- The number of nodes in a document's parts, as far as a bound on steps needs it. -/
def nodeCount : Node → Nat
  | .scalar _ _ _ => 1
  | .alias _ _ _ _ => 1
  | .sequence _ _ items => countAll items
  | .mapping _ _ entries => countEntries entries
where
  countAll : List Node → Nat
    | [] => 1
    | item :: rest => nodeCount item + countAll rest
  countEntries : List (Node × Node) → Nat
    | [] => 1
    | (key, value) :: rest => nodeCount key + nodeCount value + countEntries rest

/-- Fills a record from a node. -/
def fillRecord (shape : Shape α) : Filler α := fun document node record => do
  match meant document node with
  | .mapping _ _ entries =>
      let size := nodeCount document.root + document.anchored.length + 2
      let active := match node with
        | .alias _ serial _ _ => [serial]
        | _ => []
      let (record, _) ← fillMapping shape document (size * size) active entries none record
      return record
  | _ =>
      let (content, line, tag, text) ← scalarContent document shape.type node
      match content with
      | .nothing => return record
      | _ =>
          wrongKind line tag text shape.type
          return record

end Decoding

/-- Fills a record from the first document of a stream. An empty stream leaves it as it is. -/
def decode {α : Type} (shape : Shape α) (bytes : Bytes) (record : α) : Except Unusable α :=
  match Document.read bytes with
  | .error problem => .error (.problem problem)
  | .ok none => .ok record
  | .ok (some document) =>
      match (Decoding.fillRecord shape document document.root record).run [] with
      | .error unusable => .error unusable
      | .ok (filled, []) => .ok filled
      | .ok (_, mismatches) => .error (.mismatches mismatches)

end GoldenSuite.Yaml
