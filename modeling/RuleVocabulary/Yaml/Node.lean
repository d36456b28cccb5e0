import RuleVocabulary.Yaml.Scalar
import RuleVocabulary.Yaml.Token

/-!
# Nodes of a YAML document

A node is a scalar, a list or a table, and tokens describe it. Anchors name nodes, and aliases
repeat them; an alias within the node that it names repeats nothing that is known. A table's nodes
are its keys and values in turn (`pairs?`), where an unknown node is no key: the next one takes its
place. Keys are scalars, and no key comes twice.
-/

set_option autoImplicit false

namespace RuleVocabulary.Yaml

/-- A node of a document. -/
inductive Node where
  | scalar (scalar : Scalar)
  | list (elements : List Node)
  | table (members : List (Scalar × Node))

namespace Node

/-- The node that means nothing. -/
def nothing : Node := .scalar .nothing

/-- The node that is not known. -/
def unknown : Node := .scalar .unknown

/-- The key that a node is. -/
def key? : Node → Option Scalar
  | scalar .nothing => none
  | scalar key => some key
  | list _ | table _ => none

/-- The members of a table whose keys and values come in turn. A key without a value is dropped. -/
def pairs? : (pending : Option Node) → (members : List (Scalar × Node)) → List Node →
    Option (List (Scalar × Node))
  | _, members, [] => some members
  | none, members, .scalar .unknown :: nodes => pairs? none members nodes
  | none, members, node :: nodes => pairs? (some node) members nodes
  | some key, members, node :: nodes =>
    match key.key? with
    | some key =>
      if members.any (·.1 = key) then none else pairs? none (members ++ [(key, node)]) nodes
    | none => none

/-- The table whose keys and values come in turn. -/
def table? (nodes : List Node) : Option Node :=
  (pairs? none [] nodes).map .table

end Node

/-- The nodes that anchors have named so far. -/
abbrev Anchors := Array (String × Node)

namespace Anchors

/-- Gives a name to a node that is not known yet. -/
def announce (anchors : Anchors) (name : String) : Anchors :=
  anchors.push (name, .unknown)

/-- Makes the node known that was announced in the given place. -/
def settle (anchors : Anchors) (place? : Option Nat) (node : Node) : Anchors :=
  match place? with
  | some place => anchors.modify place fun (name, _) => (name, node)
  | none => anchors

/-- The node that a name was given to last. -/
def node? (anchors : Anchors) (name : String) : Option Node :=
  (anchors.toList.reverse.find? (·.1 = name)).map (·.2)

end Anchors

/-- Tokens that are left, and the nodes that anchors have named so far. -/
structure Reader where
  tokens : List Token
  anchors : Anchors

namespace Reader

/-- The reader behind its next token. -/
def skip (reader : Reader) : Reader :=
  { reader with tokens := reader.tokens.tail }

/-- Whether the next token is one of the given ones. -/
def isAt (reader : Reader) (tokens : List Token) : Bool :=
  (reader.tokens.head?.map tokens.contains).getD false

/-- Reads the anchor and the tag in front of a node, in either order: the place of the anchor and
the tag. -/
def readProperties (prefixes : List (String × String)) (reader : Reader) :
    Option ((Option Nat × Option Tag) × Reader) :=
  let place := reader.anchors.size
  match reader.tokens with
  | .anchor name _ :: .tag tag _ :: tokens =>
    (tag.resolve? prefixes).map fun tag =>
      ((some place, some tag), ⟨tokens, reader.anchors.announce name⟩)
  | .tag tag _ :: .anchor name _ :: tokens =>
    (tag.resolve? prefixes).map fun tag =>
      ((some place, some tag), ⟨tokens, reader.anchors.announce name⟩)
  | .anchor name _ :: tokens => some ((some place, none), ⟨tokens, reader.anchors.announce name⟩)
  | .tag tag _ :: tokens =>
    (tag.resolve? prefixes).map fun tag => ((none, some tag), { reader with tokens })
  | _ => some ((none, none), reader)

/-- Reads the node of an anchor or a tag that nothing else belongs to. -/
def readBare (reader : Reader) (place? : Option Nat) (tag? : Option Tag) :
    Option (Node × Reader) :=
  if place?.isSome || tag?.isSome then some (.scalar (.ofText tag? true []), reader) else none

end Reader

section Reading

variable (prefixes : List (String × String))

mutual

/-- Reads a node. Blocks are allowed or not, and so is a list whose dashes stand in the column of
the key before it. -/
def readNode : (fuel : Nat) → (block listAtKey : Bool) → Reader → Option (Node × Reader)
  | 0, _, _, _ => none
  | fuel + 1, block, listAtKey, reader =>
    match reader.tokens with
    | .alias name :: tokens => (reader.anchors.node? name).map (·, { reader with tokens })
    | _ =>
      match reader.readProperties prefixes with
      | none => none
      | some ((place?, tag?), inner) =>
        let node? : Option (Node × Reader) :=
          match inner.tokens with
          | .scalar plain text :: _ => some (.scalar (.ofText tag? plain text), inner.skip)
          | .flowList :: _ =>
            (readFlowList fuel true inner.skip).map fun read => (.list read.1, read.2)
          | .flowTable :: _ =>
            (readFlowTable fuel true inner.skip).bind fun read =>
              (Node.table? read.1).map (·, read.2)
          | .blockList :: _ =>
            if block then (readBlockList fuel inner.skip).map fun read => (.list read.1, read.2)
            else inner.readBare place? tag?
          | .blockTable :: _ =>
            if block then
              (readBlockTable fuel inner.skip).bind fun read =>
                (Node.table? read.1).map (·, read.2)
            else inner.readBare place? tag?
          | .dash :: _ =>
            if listAtKey then
              (readListAtKey fuel inner).map fun read => (.list read.1, read.2)
            else inner.readBare place? tag?
          | _ => inner.readBare place? tag?
        node?.map fun (node, behind) =>
          (node, { behind with anchors := behind.anchors.settle place? node })

/-- Reads a node, or nothing in front of some tokens. -/
def readOptional (closing : List Token) :
    (fuel : Nat) → (block listAtKey : Bool) → Reader → Option (Node × Reader)
  | 0, _, _, _ => none
  | fuel + 1, block, listAtKey, reader =>
    if reader.isAt closing then some (.nothing, reader) else readNode fuel block listAtKey reader

/-- Reads the elements of a block list. -/
def readBlockList : (fuel : Nat) → Reader → Option (List Node × Reader)
  | 0, _ => none
  | fuel + 1, reader =>
    if reader.isAt [.blockEnd] then some ([], reader.skip)
    else if reader.isAt [.dash] then
      match readOptional [.dash, .blockEnd] fuel true false reader.skip with
      | some (node, behind) =>
        (readBlockList fuel behind).map fun read => (node :: read.1, read.2)
      | none => none
    else none

/-- Reads the elements of a list whose dashes stand in the column of the key before it. -/
def readListAtKey : (fuel : Nat) → Reader → Option (List Node × Reader)
  | 0, _ => none
  | fuel + 1, reader =>
    if reader.isAt [.dash] then
      match readOptional [.dash, .key, .value, .blockEnd] fuel true false reader.skip with
      | some (node, behind) =>
        (readListAtKey fuel behind).map fun read => (node :: read.1, read.2)
      | none => none
    else some ([], reader)

/-- Reads the keys and values of a block table. Either of a pair may be missing. -/
def readBlockTable : (fuel : Nat) → Reader → Option (List Node × Reader)
  | 0, _ => none
  | fuel + 1, reader =>
    let closing := [.key, .value, .blockEnd]
    if reader.isAt [.blockEnd] then some ([], reader.skip)
    else
      let key? : Option (Node × Reader) :=
        if reader.isAt [.key] then readOptional closing fuel true true reader.skip
        else if reader.isAt [.value] then some (.nothing, reader)
        else none
      match key? with
      | none => none
      | some (key, behind) =>
        let value? : Option (Node × Reader) :=
          if behind.isAt [.value] then readOptional closing fuel true true behind.skip
          else some (.nothing, behind)
        match value? with
        | none => none
        | some (value, behind) =>
          (readBlockTable fuel behind).map fun read => (key :: value :: read.1, read.2)

/-- Reads the elements of a list between brackets. Those behind the first one need a comma before
them. An element with a key is a table of one member. -/
def readFlowList : (fuel : Nat) → (first : Bool) → Reader → Option (List Node × Reader)
  | 0, _, _ => none
  | fuel + 1, first, reader =>
    if reader.isAt [.flowListEnd] then some ([], reader.skip)
    else if !first && !reader.isAt [.comma] then none
    else
      let reader := if first then reader else reader.skip
      if reader.isAt [.flowListEnd] then some ([], reader.skip)
      else
        let element? : Option (Node × Reader) :=
          if reader.isAt [.key] then readPair fuel reader.skip
          else readNode fuel false false reader
        match element? with
        | some (element, behind) =>
          (readFlowList fuel false behind).map fun read => (element :: read.1, read.2)
        | none => none

/-- Reads the member of a table that is an element of a list between brackets. What stands in
place of a missing key is passed. -/
def readPair : (fuel : Nat) → Reader → Option (Node × Reader)
  | 0, _ => none
  | fuel + 1, reader =>
    let key? : Option (Node × Reader) :=
      if reader.isAt [.value, .comma, .flowListEnd] then some (.nothing, reader.skip)
      else readNode fuel false false reader
    match key? with
    | none => none
    | some (key, behind) =>
      let value? : Option (Node × Reader) :=
        if behind.isAt [.value] then
          readOptional [.comma, .flowListEnd] fuel false false behind.skip
        else some (.nothing, behind)
      match value? with
      | none => none
      | some (value, behind) => (Node.table? [key, value]).map (·, behind)

/-- Reads the keys and values of a table between braces. Members behind the first one need a comma
before them. -/
def readFlowTable : (fuel : Nat) → (first : Bool) → Reader → Option (List Node × Reader)
  | 0, _, _ => none
  | fuel + 1, first, reader =>
    if reader.isAt [.flowTableEnd] then some ([], reader.skip)
    else if !first && !reader.isAt [.comma] then none
    else
      let reader := if first then reader else reader.skip
      if reader.isAt [.flowTableEnd] then some ([], reader.skip)
      else
        let shown := reader.isAt [.key]
        let key? : Option (Node × Reader) :=
          if shown then
            readOptional [.value, .comma, .flowTableEnd] fuel false false reader.skip
          else if reader.isAt [.value] then some (.nothing, reader)
          else readNode fuel false false reader
        match key? with
        | none => none
        | some (key, behind) =>
          let value? : Option (Node × Reader) :=
            if (shown || reader.isAt [.value]) && behind.isAt [.value] then
              readOptional [.comma, .flowTableEnd] fuel false false behind.skip
            else some (.nothing, behind)
          match value? with
          | none => none
          | some (value, behind) =>
            (readFlowTable fuel false behind).map fun read => (key :: value :: read.1, read.2)

end

end Reading

end RuleVocabulary.Yaml
