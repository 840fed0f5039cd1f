import WebhookRelay.Yaml.Token

/-!
YAML texts as trees. A reader takes the tokens that are left, and gives a node and the tokens after
it. Of the calls inside one another at most two start at one token, which bounds their depth.
-/

namespace WebhookRelay.Yaml

inductive Node where
  | scalar (plain : Bool) (text : String)
  | sequence (items : List Node)
  | mapping (pairs : List (Node × Node))

namespace Node

/-- What stands for a node that is left out. -/
def absent : Node := scalar true ""

/-- Where a node is due. In a mapping a block sequence need not be indented. -/
inductive Place where
  | flow
  | block
  | blockMapping
  deriving DecidableEq

/-- What `read` reads, unless a token follows that shows the node to be left out. -/
def orAbsent (ends : List Token) (read : List Token → Option (Node × List Token))
    (tokens : List Token) : Option (Node × List Token) :=
  if tokens.head?.any ends.contains then some (absent, tokens) else read tokens

mutual

/-- Reads the node that starts with the next token. -/
def read? (depth : Nat) (place : Place) (tokens : List Token) : Option (Node × List Token) :=
  match depth, tokens with
  | _ + 1, .scalar plain text :: rest => some (.scalar plain text, rest)
  | depth + 1, .flowSequence :: rest => readFlowItems? depth [] rest
  | depth + 1, .flowMapping :: rest => readFlowPairs? depth [] rest
  | depth + 1, .blockSequence :: .entry :: rest =>
    if place = .flow then none else readItems? depth true [] rest
  | depth + 1, .blockMapping :: .key :: rest =>
    if place = .flow then none else readPairs? depth [] rest
  | depth + 1, .entry :: rest =>
    if place = .blockMapping then readItems? depth false [] rest else none
  | _, _ => none

/-- Reads a sequence after a dash, with the items before it latest first. Without indentation no
token is its end. -/
def readItems? (depth : Nat) (indented : Bool) (items : List Node) (tokens : List Token) :
    Option (Node × List Token) :=
  match depth with
  | 0 => none
  | depth + 1 => do
    let ends : List Token :=
      if indented then [.entry, .blockEnd] else [.entry, .key, .value, .blockEnd]
    let (item, rest) ← orAbsent ends (read? depth .block) tokens
    match rest with
    | .entry :: rest => readItems? depth indented (item :: items) rest
    | .blockEnd :: after =>
      return (.sequence (item :: items).reverse, if indented then after else rest)
    | rest => if indented then none else return (.sequence (item :: items).reverse, rest)

/-- Reads a mapping after the mark of a key. -/
def readPairs? (depth : Nat) (pairs : List (Node × Node)) (tokens : List Token) :
    Option (Node × List Token) :=
  match depth with
  | 0 => none
  | depth + 1 => do
    let due := orAbsent [.key, .value, .blockEnd] (read? depth .blockMapping)
    let (key, rest) ← due tokens
    let (value, rest) ←
      match rest with
      | .value :: rest => due rest
      | rest => some (absent, rest)
    match rest with
    | .key :: rest => readPairs? depth ((key, value) :: pairs) rest
    | .blockEnd :: rest => return (.mapping ((key, value) :: pairs).reverse, rest)
    | _ => none

/-- Reads a sequence after its bracket or a comma. An item may be a single pair. If that has no
key, the token in its place is passed over. -/
def readFlowItems? (depth : Nat) (items : List Node) (tokens : List Token) :
    Option (Node × List Token) :=
  match depth, tokens with
  | 0, _ => none
  | _ + 1, .flowSequenceEnd :: rest => some (.sequence items.reverse, rest)
  | depth + 1, tokens => do
    let (item, rest) ←
      match tokens with
      | .key :: tokens => do
        let (key, rest) ←
          match tokens with
          | .value :: rest => some (absent, rest)
          | .comma :: rest => some (absent, rest)
          | .flowSequenceEnd :: rest => some (absent, rest)
          | tokens => read? depth .flow tokens
        let (value, rest) ←
          match rest with
          | .value :: rest => orAbsent [.comma, .flowSequenceEnd] (read? depth .flow) rest
          | rest => some (absent, rest)
        some (.mapping [(key, value)], rest)
      | tokens => read? depth .flow tokens
    match rest with
    | .comma :: rest => readFlowItems? depth (item :: items) rest
    | .flowSequenceEnd :: rest => return (.sequence (item :: items).reverse, rest)
    | _ => none

/-- Reads a mapping after its brace or a comma. A key may stand alone. -/
def readFlowPairs? (depth : Nat) (pairs : List (Node × Node)) (tokens : List Token) :
    Option (Node × List Token) :=
  match depth, tokens with
  | 0, _ => none
  | _ + 1, .flowMappingEnd :: rest => some (.mapping pairs.reverse, rest)
  | depth + 1, tokens => do
    let (pair, rest) ←
      match tokens with
      | .key :: tokens => do
        let (key, rest) ←
          orAbsent [.value, .comma, .flowMappingEnd] (read? depth .flow) tokens
        let (value, rest) ←
          match rest with
          | .value :: rest => orAbsent [.comma, .flowMappingEnd] (read? depth .flow) rest
          | rest => some (absent, rest)
        some ((key, value), rest)
      | tokens => (read? depth .flow tokens).map fun (key, rest) => ((key, absent), rest)
    match rest with
    | .comma :: rest => readFlowPairs? depth (pair :: pairs) rest
    | .flowMappingEnd :: rest => return (.mapping (pair :: pairs).reverse, rest)
    | _ => none

end

/-- The node of the only document. -/
def ofTokens? (tokens : List Token) : Option Node := do
  let read := read? (2 * tokens.length + 1) .block
  let (node, rest) ←
    match tokens with
    | [] => some (absent, [])
    | .documentStart :: [] => some (absent, [])
    | .documentStart :: rest => orAbsent [.documentStart, .documentEnd] read rest
    | tokens => read tokens
  if rest.all (· == .documentEnd) then return node else none

/-- The tree of a text, if that is one sound document. An empty text has an absent node. -/
def ofText? (text : String) : Option Node := (tokens? text).bind ofTokens?

/-! ### What nodes hold -/

/-- A scalar as it is written, in any style. -/
def text? : Node → Option String
  | scalar _ text => some text
  | _ => none

/-- An absent node counts as an empty sequence. -/
def items? : Node → Option (List Node)
  | sequence items => some items
  | scalar true "" => some []
  | _ => none

/-- An absent node counts as an empty mapping. -/
def pairs? : Node → Option (List (Node × Node))
  | mapping pairs => some pairs
  | scalar true "" => some []
  | _ => none

/-- The values of a mapping under these names. None of them may stand there twice, and other names
are passed over, but all have to be scalars. -/
def members? (names : List String) (node : Node) : Option (List (Option Node)) := do
  let members ← (← node.pairs?).mapM fun (key, value) => key.text?.map fun name => (name, value)
  names.mapM fun name =>
    match members.filter (·.1 == name) with
    | [] => some none
    | [(_, value)] => some (some value)
    | _ => none

end Node

end WebhookRelay.Yaml
