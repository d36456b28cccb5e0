import RuleVocabulary.Yaml.Node

/-!
# YAML documents

A text with one document holds the node of that document; one without a document holds an empty
table, and one with several is refused. Directives come before the line that opens a document, and
only the last of them counts. The data of a settings file are those of a table (`members?`).
-/

set_option autoImplicit false

namespace RuleVocabulary.Yaml

mutual

/-- The datum of a node. -/
def Node.datum? : Node → Option Datum
  | .scalar scalar => scalar.datum?
  | .list elements => (listData? elements).map .list
  | .table members => (tableData? [] members).map .table

/-- The data of the elements of a list. -/
def listData? : List Node → Option (List Datum)
  | [] => some []
  | node :: nodes => do return (← node.datum?) :: (← listData? nodes)

/-- The data of the members of a table, put behind those before them. -/
def tableData? (data : List (String × Datum)) :
    List (Scalar × Node) → Option (List (String × Datum))
  | [] => some data
  | (key, node) :: members => do
    let name ← key.name?
    tableData? (Table.put name (← node.datum?) data) members

end

/-- The directives at the beginning of a document. Only one may tell the version. -/
def readDirectives (version : Bool) (prefixes : List (String × String)) :
    List Token → Option (List (String × String) × List Token)
  | .directive .version :: tokens => if version then none else readDirectives true [] tokens
  | .directive (.prefixOf handle path) :: tokens =>
    readDirectives version [(handle, path)] tokens
  | tokens => some (prefixes, tokens)

/-- Whether a token cannot belong to the node of a document. -/
def Token.endsDocument : Token → Bool
  | directive _ | documentStart | documentEnd => true
  | _ => false

/-- Whether a token stands before the node of a document. -/
def Token.opensDocument : Token → Bool
  | directive _ | documentStart => true
  | _ => false

/-- Fuel that suffices for the nodes that tokens describe. -/
def enoughFuel (tokens : List Token) : Nat :=
  4 * tokens.length + 4

/-- Reads the node of the document that tokens begin with. -/
def readDocument (tokens : List Token) : Option (Node × List Token) := do
  let (prefixes, behind) ← readDirectives false [] tokens
  let node (tokens : List Token) : Option (Node × List Token) :=
    (readNode prefixes (enoughFuel tokens) true false ⟨tokens, #[]⟩).map fun read =>
      (read.1, read.2.tokens)
  if !(tokens.head?.map Token.opensDocument).getD false then node tokens
  else
    match behind with
    | .documentStart :: [] => return (.nothing, [])
    | .documentStart :: token :: tokens =>
      if token.endsDocument then return (.nothing, token :: tokens) else node (token :: tokens)
    | _ => none

/-- The members of the table that a text holds. -/
def members? (document : String) : Option (List (String × Datum)) := do
  let tokens ← tokens? (textOf document)
  let isEnd (token : Token) : Bool := token = .documentEnd
  match tokens.dropWhile isEnd with
  | [] => return []
  | tokens =>
    let (node, behind) ← readDocument tokens
    if !(behind.dropWhile isEnd).isEmpty then none
    else
      match ← node.datum? with
      | .table members => return members
      | _ => none

end RuleVocabulary.Yaml
