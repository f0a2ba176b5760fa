import Tabula.Yaml.Token

/-!
# From YAML tokens to nodes

A document is a tree of scalars, sequences and mappings. Nodes that are not written
are plain scalars without text.

Anchors name nodes, and aliases stand for nodes that are named so, also for those
around them. An anchor numbers its node by the names that are known before it, so a
name that is given again can take the number of another one. Of the nodes with one
number the last counts, also for the aliases before it.
-/

namespace Tabula.Yaml

/-- A node of a document. -/
inductive Node where
  | scalar (text : String) (style : Style) (tag : Option String)
  | sequence (items : List Node)
  | mapping (entries : List (Node × Node))
  /-- The node of a number. -/
  | alias (number : Nat)
  deriving Repr

namespace Node

/-- A node that is not written. -/
def missing (tag : Option String) : Node :=
  .scalar "" .plain tag

mutual

/-- The number of parts of a node: its scalars and aliases, and the two ends of its
sequences and mappings. -/
def partCount : Node → Nat
  | .scalar .. | .alias _ => 1
  | .sequence items => 2 + itemParts items
  | .mapping entries => 2 + entryParts entries

/-- The number of parts of nodes. -/
def itemParts : List Node → Nat
  | [] => 0
  | item :: rest => partCount item + itemParts rest

/-- The number of parts of pairs of nodes. -/
def entryParts : List (Node × Node) → Nat
  | [] => 0
  | (key, value) :: rest => partCount key + partCount value + entryParts rest

end

end Node

/-- The anchors of a document. -/
structure Anchors where
  /-- The number of every name. -/
  names : List (String × Nat)
  /-- The numbers that have been given, the last first, with the count of those before
  each. -/
  given : List (Nat × Nat)
  /-- The nodes that have been read to their ends, by that count. -/
  nodes : List (Nat × Node)

namespace Anchors

/-- No anchors. -/
def empty : Anchors := ⟨[], [], []⟩

/-- Gives a number to the name of a node that begins. -/
def begin? (anchor : Option String) (anchors : Anchors) : Anchors :=
  match anchor with
  | some name =>
      let number := anchors.names.length
      { anchors with
        names := (name, number) :: anchors.names.filter fun other => other.1 ≠ name
        given := (number, anchors.given.length) :: anchors.given }
  | none => anchors

/-- Notes the node whose number was given after `before` other ones. -/
def finish (anchor : Option String) (before : Nat) (node : Node) (anchors : Anchors) : Anchors :=
  match anchor with
  | some _ => { anchors with nodes := (before, node) :: anchors.nodes }
  | none => anchors

/-- The node of an alias. -/
def node? (name : String) (anchors : Anchors) : Option Node :=
  (anchors.names.lookup name).map .alias

/-- The nodes by their numbers; of nodes with one number the last one comes first. -/
def numbered (anchors : Anchors) : List (Nat × Node) :=
  anchors.given.filterMap fun (number, before) =>
    (anchors.nodes.lookup before).map fun node => (number, node)

end Anchors

/-- A document: its node, and the nodes that aliases stand for, by their numbers. -/
structure Document where
  root : Node
  numbered : List (Nat × Node)
  deriving Repr

/-- The properties of a node. -/
structure Properties where
  anchor : Option String
  tag : Option String

namespace Properties

/-- Whether there are none. -/
def isEmpty (properties : Properties) : Bool :=
  properties.anchor.isNone && properties.tag.isNone

end Properties

/-- The beginnings that tag handles stand for. -/
abbrev Handles := List (String × String)

/-- The handles that every document has. -/
def defaultHandles : Handles :=
  [("!", "!"), ("!!", "tag:yaml.org,2002:")]

/-- The whole tag of a handle and a suffix. -/
def resolveTag (handles : Handles) (handle suffix : String) : Option String :=
  if handle = "" then some suffix
  else (handles.lookup handle).map (· ++ suffix)

/-- Reads the anchor and the tag of a node, which come in either order. -/
def readProperties (handles : Handles) : List Token → Option (Properties × List Token)
  | .anchor name :: .tag handle suffix :: rest | .tag handle suffix :: .anchor name :: rest =>
      (resolveTag handles handle suffix).map fun tag => (⟨some name, some tag⟩, rest)
  | .anchor name :: rest => some (⟨some name, none⟩, rest)
  | .tag handle suffix :: rest =>
      (resolveTag handles handle suffix).map fun tag => (⟨none, some tag⟩, rest)
  | tokens => some (⟨none, none⟩, tokens)

/-- Whether the next token is one of the given tokens. -/
def isNext (tokens expected : List Token) : Bool :=
  match tokens with
  | token :: _ => expected.contains token
  | [] => false

/-- What is read with the remaining tokens and the anchors. -/
abbrev Reading (α : Type) := Option (α × List Token × Anchors)

mutual

/-- Reads a node. In a block it may be a block of its own, and a sequence that is not
indented where `unindented` says so. Every function takes one of the `fuel`. -/
def readNode (fuel : Nat) (handles : Handles) (inBlock unindented : Bool) (tokens : List Token)
    (anchors : Anchors) : Reading Node :=
  match fuel with
  | 0 => none
  | fuel + 1 =>
      match tokens with
      | .alias name :: rest => (anchors.node? name).map fun node => (node, rest, anchors)
      | _ =>
          match readProperties handles tokens with
          | none => none
          | some (properties, content) =>
              let begun := anchors.begin? properties.anchor
              let before := anchors.given.length
              let finished (node : Node) (rest : List Token) (after : Anchors) : Reading Node :=
                some (node, rest, after.finish properties.anchor before node)
              match content with
              | .scalar text style :: rest =>
                  finished (.scalar text style properties.tag) rest begun
              | .blockEntry :: rest =>
                  if unindented then
                    match readEntries fuel handles false (.blockEntry :: rest) begun with
                    | some (items, rest, after) => finished (.sequence items) rest after
                    | none => none
                  else if properties.isEmpty then none
                  else finished (.missing properties.tag) content begun
              | .flowSequenceStart :: rest =>
                  match readFlowItems fuel handles true rest begun with
                  | some (items, rest, after) => finished (.sequence items) rest after
                  | none => none
              | .flowMappingStart :: rest =>
                  match readFlowPairs fuel handles true rest begun with
                  | some (entries, rest, after) => finished (.mapping entries) rest after
                  | none => none
              | _ =>
                  if inBlock && isNext content [.blockSequenceStart] then
                    match readEntries fuel handles true content.tail begun with
                    | some (items, rest, after) => finished (.sequence items) rest after
                    | none => none
                  else if inBlock && isNext content [.blockMappingStart] then
                    match readPairs fuel handles content.tail begun with
                    | some (entries, rest, after) => finished (.mapping entries) rest after
                    | none => none
                  else if properties.isEmpty then none
                  else finished (.missing properties.tag) content begun

/-- Reads a node unless one of the given tokens comes next. -/
def readOptional (fuel : Nat) (handles : Handles) (inBlock unindented : Bool)
    (ends : List Token) (tokens : List Token) (anchors : Anchors) : Reading Node :=
  match fuel with
  | 0 => none
  | fuel + 1 =>
      if isNext tokens ends then some (.missing none, tokens, anchors)
      else readNode fuel handles inBlock unindented tokens anchors

/-- Reads the items of a block sequence, which ends with its block if it is
indented. -/
def readEntries (fuel : Nat) (handles : Handles) (indented : Bool) (tokens : List Token)
    (anchors : Anchors) : Reading (List Node) :=
  match fuel with
  | 0 => none
  | fuel + 1 =>
      match tokens with
      | .blockEntry :: rest =>
          let ends :=
            if indented then [.blockEntry, .blockEnd] else [.blockEntry, .key, .value, .blockEnd]
          match readOptional fuel handles true false ends rest anchors with
          | none => none
          | some (item, rest, anchors) =>
              match readEntries fuel handles indented rest anchors with
              | some (items, rest, anchors) => some (item :: items, rest, anchors)
              | none => none
      | .blockEnd :: rest =>
          if indented then some ([], rest, anchors) else some ([], tokens, anchors)
      | _ => if indented then none else some ([], tokens, anchors)

/-- Reads the pairs of a block mapping. -/
def readPairs (fuel : Nat) (handles : Handles) (tokens : List Token) (anchors : Anchors) :
    Reading (List (Node × Node)) :=
  match fuel with
  | 0 => none
  | fuel + 1 =>
      match tokens with
      | .blockEnd :: rest => some ([], rest, anchors)
      | .key :: rest =>
          match readOptional fuel handles true true [.key, .value, .blockEnd] rest anchors with
          | none => none
          | some (key, rest, anchors) => readPairValue fuel handles key rest anchors
      | _ => none

/-- Reads the value of a pair of a block mapping, and the pairs after it. -/
def readPairValue (fuel : Nat) (handles : Handles) (key : Node) (tokens : List Token)
    (anchors : Anchors) : Reading (List (Node × Node)) :=
  match fuel with
  | 0 => none
  | fuel + 1 =>
      let value : Reading Node :=
        match tokens with
        | .value :: rest =>
            readOptional fuel handles true true [.key, .value, .blockEnd] rest anchors
        | _ => some (.missing none, tokens, anchors)
      match value with
      | none => none
      | some (value, rest, anchors) =>
          match readPairs fuel handles rest anchors with
          | some (entries, rest, anchors) => some ((key, value) :: entries, rest, anchors)
          | none => none

/-- Reads the items of a sequence in brackets. An item may be a single pair. -/
def readFlowItems (fuel : Nat) (handles : Handles) (isFirst : Bool) (tokens : List Token)
    (anchors : Anchors) : Reading (List Node) :=
  match fuel with
  | 0 => none
  | fuel + 1 =>
      if isNext tokens [.flowSequenceEnd] then some ([], tokens.tail, anchors)
      else
        let separated :=
          if isFirst then some tokens
          else if isNext tokens [.flowEntry] then some tokens.tail
          else none
        match separated with
        | none => none
        | some tokens =>
            if isNext tokens [.flowSequenceEnd] then some ([], tokens.tail, anchors)
            else
              let item : Reading Node :=
                if isNext tokens [.key] then readFlowPair fuel handles tokens.tail anchors
                else readNode fuel handles false false tokens anchors
              match item with
              | none => none
              | some (item, rest, anchors) =>
                  match readFlowItems fuel handles false rest anchors with
                  | some (items, rest, anchors) => some (item :: items, rest, anchors)
                  | none => none

/-- Reads a single pair among the items of a sequence, as a mapping. Where the key is
missing, the token in its place is passed over. -/
def readFlowPair (fuel : Nat) (handles : Handles) (tokens : List Token) (anchors : Anchors) :
    Reading Node :=
  match fuel with
  | 0 => none
  | fuel + 1 =>
      let key : Reading Node :=
        if isNext tokens [.value, .flowEntry, .flowSequenceEnd] then
          some (.missing none, tokens.tail, anchors)
        else readNode fuel handles false false tokens anchors
      match key with
      | none => none
      | some (key, rest, anchors) =>
          if isNext rest [.value] then
            match readOptional fuel handles false false [.flowEntry, .flowSequenceEnd] rest.tail
              anchors with
            | some (value, rest, anchors) => some (.mapping [(key, value)], rest, anchors)
            | none => none
          else some (.mapping [(key, .missing none)], rest, anchors)

/-- Reads the pairs of a mapping in braces. -/
def readFlowPairs (fuel : Nat) (handles : Handles) (isFirst : Bool) (tokens : List Token)
    (anchors : Anchors) : Reading (List (Node × Node)) :=
  match fuel with
  | 0 => none
  | fuel + 1 =>
      if isNext tokens [.flowMappingEnd] then some ([], tokens.tail, anchors)
      else
        let separated :=
          if isFirst then some tokens
          else if isNext tokens [.flowEntry] then some tokens.tail
          else none
        match separated with
        | none => none
        | some tokens =>
            if isNext tokens [.flowMappingEnd] then some ([], tokens.tail, anchors)
            else
              let key : Reading Node :=
                if isNext tokens [.key] then
                  readOptional fuel handles false false [.value, .flowEntry, .flowMappingEnd]
                    tokens.tail anchors
                else readNode fuel handles false false tokens anchors
              match key with
              | none => none
              | some (key, rest, anchors) =>
                  let value : Reading Node :=
                    if isNext tokens [.key] && isNext rest [.value] then
                      readOptional fuel handles false false [.flowEntry, .flowMappingEnd]
                        rest.tail anchors
                    else some (.missing none, rest, anchors)
                  match value with
                  | none => none
                  | some (value, rest, anchors) =>
                      match readFlowPairs fuel handles false rest anchors with
                      | some (entries, rest, anchors) =>
                          some ((key, value) :: entries, rest, anchors)
                      | none => none

end

/-- Reads directives, none of which may be repeated: the version, which must be 1.1 or
1.2, and tag handles. -/
def readDirectives (version : Bool) (own : Handles) :
    List Token → Option (Handles × List Token)
  | .versionDirective major minor :: rest =>
      if version || major ≠ 1 || !(minor = 1 || minor = 2) then none
      else readDirectives true own rest
  | .tagDirective handle beginning :: rest =>
      if (own.lookup handle).isSome then none
      else readDirectives version ((handle, beginning) :: own) rest
  | tokens => some (own ++ defaultHandles, tokens)

/-- Whether a token begins or ends a document or a directive. -/
def isDocumentBound : Token → Bool
  | .versionDirective .. | .tagDirective .. | .documentStart | .documentEnd => true
  | _ => false

/-- More than the steps that reading any node of the tokens takes. -/
def readingFuel (tokens : List Token) : Nat :=
  4 * tokens.length + 8

/-- Reads the node of a document that is not empty. -/
def readRoot (handles : Handles) (tokens : List Token) : Option (Document × List Token) :=
  (readNode (readingFuel tokens) handles true false tokens .empty).map
    fun (node, rest, anchors) => (⟨node, anchors.numbered⟩, rest)

/-- Reads a document after its beginning. -/
def readContent (handles : Handles) (tokens : List Token) : Option (Document × List Token) :=
  if tokens.head?.all isDocumentBound then some (⟨.missing none, []⟩, tokens)
  else readRoot handles tokens

namespace Document

/-- Reads the first document. -/
def read (tokens : List Token) : Option (Document × List Token) :=
  match tokens with
  | .versionDirective .. :: _ | .tagDirective .. :: _ | .documentStart :: _ =>
      match readDirectives false [] tokens with
      | some (handles, .documentStart :: rest) => readContent handles rest
      | _ => none
  | _ => readRoot defaultHandles tokens

/-- The document of a stream, which holds no other one. A stream without a document has
a missing node. -/
def ofTokens? (tokens : List Token) : Option Document :=
  if tokens.isEmpty then some ⟨.missing none, []⟩
  else
    match read tokens with
    | some (document, rest) => if rest.all (· = .documentEnd) then some document else none
    | none => none

end Document

end Tabula.Yaml
