import WebhookRelay.Payload.Number
import WebhookRelay.Payload.Spelling
import WebhookRelay.Url.Reading

/-!
What a part of a payload has to look like, and reading nodes by it. A record may be written as an
object, whose members come in any order and may be unknown, or as a list of its fields.
-/

namespace WebhookRelay.Payload

/-- What the head of a node is, which says all to a reader who wants something else. -/
def Node.found : Node → Except Fault Found
  | .null => .ok .null
  | .flag b => .ok (.flag b)
  | .number spelling => do
    match ← Number.ofSpelling spelling with
    | .integer n => return .integer n
    | .real x => return .real x
  | .text spelling => return .text (← spelling.decode)
  | .list _ _ => .ok .list
  | .object _ _ => .ok .object
  | .brokenText spelling fault => .error (spelling.brokenFault fault)
  | .broken fault _ => .error fault

def Node.mismatch (node : Node) (wanted : String) : Fault :=
  match node.found with
  | .ok found => .mismatch found wanted
  | .error fault => fault

mutual

/-- A shape of nodes with the type of what they say. -/
inductive Shape : Type → Type 1 where
  | text : Shape String
  | flag : Shape Bool
  /-- A number without sign that fits this many bits. -/
  | natural (bits : Nat) : Shape Nat
  /-- A number with a sign that fits this many bits. -/
  | integer (bits : Nat) : Shape Int
  | time : Shape Timestamp
  | link : Shape Url
  | list {α : Type} (item : Shape α) : Shape (List α)
  | record {α γ : Type} (name : String) (build : γ) (fields : Fields γ α) : Shape α

/-- The fields of a record, which `γ` takes in turn to give an `α`. -/
inductive Fields : Type → Type → Type 1 where
  | done {α : Type} : Fields α α
  | required {α β γ : Type} (name : String) (shape : Shape β) (rest : Fields γ α) :
    Fields (β → γ) α
  /-- May be absent or null. -/
  | optional {α β γ : Type} (name : String) (shape : Shape β) (rest : Fields γ α) :
    Fields (Option β → γ) α
  /-- May be absent, but not null. -/
  | defaulted {α β γ : Type} (name : String) (value : β) (shape : Shape β) (rest : Fields γ α) :
    Fields (β → γ) α

end

namespace Fields

def size {γ α : Type} : Fields γ α → Nat
  | .done => 0
  | .required _ _ rest => rest.size + 1
  | .optional _ _ rest => rest.size + 1
  | .defaulted _ _ _ rest => rest.size + 1

/-- A place for what was read of each field. -/
def Slots {γ α : Type} : Fields γ α → Type
  | .done => Unit
  | .required (β := β) _ _ rest => Option β × rest.Slots
  | .optional (β := β) _ _ rest => Option (Option β) × rest.Slots
  | .defaulted (β := β) _ _ _ rest => Option β × rest.Slots

def empty {γ α : Type} : (fields : Fields γ α) → fields.Slots
  | .done => ()
  | .required _ _ rest => (none, rest.empty)
  | .optional _ _ rest => (none, rest.empty)
  | .defaulted _ _ _ rest => (none, rest.empty)

/-- Whether a field of this name was read. -/
def holds {γ α : Type} : (fields : Fields γ α) → fields.Slots → String → Bool
  | .done, _, _ => false
  | .required name _ rest, slots, key =>
    if name = key then slots.1.isSome else rest.holds slots.2 key
  | .optional name _ rest, slots, key =>
    if name = key then slots.1.isSome else rest.holds slots.2 key
  | .defaulted name _ _ rest, slots, key =>
    if name = key then slots.1.isSome else rest.holds slots.2 key

/-- Builds the record, unless a field is missing that has to be there. -/
def build {γ α : Type} : (fields : Fields γ α) → fields.Slots → γ → Except Fault α
  | .done, _, record => .ok record
  | .required name _ rest, slots, record =>
    match slots.1 with
    | some value => rest.build slots.2 (record value)
    | none => .error (.missing name)
  | .optional _ _ rest, slots, record => rest.build slots.2 (record (slots.1.getD none))
  | .defaulted _ value _ rest, slots, record => rest.build slots.2 (record (slots.1.getD value))

end Fields

/-- Puts what `read` gives into the slot of the field `name` if the key is that name, and leaves
the other slots to `rest`. -/
def place {β σ : Type} (name key : String) (read : Unit → Except Fault β)
    (rest : σ → Except Fault σ) (slots : Option β × σ) : Except Fault (Option β × σ) :=
  if name = key then
    if slots.1.isSome then .error (.duplicate name)
    else do return (some (← read ()), slots.2)
  else do return (slots.1, ← rest slots.2)

/-- Null is no value. -/
def orNull {β : Type} (read : Node → Except Fault β) : Node → Except Fault (Option β)
  | .null => .ok none
  | node => do return some (← read node)

/-- The next of a list of items, where it is missing only if the list ends well. -/
def takeItem (items : List Node) (close : ListEnd) :
    Except Fault (Option (Node × List Node)) :=
  match items, close.fault? with
  | node :: items, _ => .ok (some (node, items))
  | [], some fault => .error fault
  | [], none => .ok none

/-- How the type of a number with these bits is called. -/
def sized (sign : String) (bits : Nat) : String := sign ++ toString bits

/-- The integer that a node is, from `low` on and below `high`. -/
def boundedBy (low high : Int) (wanted : String) (node : Node) : Except Fault Int :=
  match node.found with
  | .ok (.integer n) => if low ≤ n ∧ n < high then .ok n else .error (.outOfRange n wanted)
  | _ => .error (node.mismatch wanted)

mutual

/-- Reads a node by a shape. -/
def Shape.read {α : Type} : Shape α → Node → Except Fault α
  | .text, node =>
    match node.found with
    | .ok (.text s) => .ok s
    | _ => .error (node.mismatch "a string")
  | .flag, node =>
    match node with
    | .flag b => .ok b
    | node => .error (node.mismatch "a boolean")
  | .natural bits, node => (boundedBy 0 (Nat.pow 2 bits) (sized "u" bits) node).map Int.toNat
  | .integer bits, node =>
    let half : Int := Nat.pow 2 (bits - 1)
    boundedBy (-half) half (sized "i" bits) node
  | .time, node =>
    match node.found with
    | .ok (.text s) => (Timestamp.parse s).mapError .badTime
    | _ => .error (node.mismatch "an RFC 3339 formatted date and time string")
  | .link, node =>
    match node.found with
    | .ok (.text s) => (Url.parse s).mapError (.badLink · s)
    | _ => .error (node.mismatch "a string representing an URL")
  | .list item, node =>
    match node with
    | .list items close => do
      let values ← items.mapM item.read
      match close.fault? with
      | some fault => .error fault
      | none => return values
    | node => .error (node.mismatch "a sequence")
  | .record name build fields, node =>
    match node with
    | .object members close => do
      let slots ← members.foldlM (fun slots (key, node) => do
        fields.store (← key.decode) node slots) fields.empty
      match close.key? with
      | some key =>
        if fields.holds slots (← key.decode) then .error (.duplicate (← key.decode))
      | none => pure ()
      match close.fault? with
      | some fault => .error fault
      | none => fields.build slots build
    | .list items close => fields.readItems name fields.size 0 items close build
    | node => .error (node.mismatch ("struct " ++ name))

/-- Reads a member into its slot. The members that are not fields are skipped. -/
def Fields.store {γ α : Type} :
    (fields : Fields γ α) → String → Node → fields.Slots → Except Fault fields.Slots
  | .done, _, node, slots =>
    match node.syntaxFault? with
    | some fault => .error fault
    | none => .ok slots
  | .required name shape rest, key, node, slots =>
    place name key (fun _ => shape.read node) (rest.store key node) slots
  | .optional name shape rest, key, node, slots =>
    place name key (fun _ => orNull shape.read node) (rest.store key node) slots
  | .defaulted name _ shape rest, key, node, slots =>
    place name key (fun _ => shape.read node) (rest.store key node) slots

/-- Reads a record of the given name and size from a list, from the field at `index` on. -/
def Fields.readItems {γ α : Type} (record : String) (size : Nat) :
    (fields : Fields γ α) → (index : Nat) → List Node → ListEnd → γ → Except Fault α
  | .done, _, items, close, value =>
    if items.isEmpty then
      match close.surplus? with
      | some fault => .error fault
      | none => .ok value
    else .error .trailingText
  | .required _ shape rest, index, items, close, build => do
    match ← takeItem items close with
    | some (node, items) =>
      rest.readItems record size (index + 1) items close (build (← shape.read node))
    | none => throw (.shortList index record size)
  | .optional _ shape rest, index, items, close, build => do
    match ← takeItem items close with
    | some (node, items) =>
      rest.readItems record size (index + 1) items close (build (← orNull shape.read node))
    | none => throw (.shortList index record size)
  | .defaulted _ value shape rest, index, items, close, build => do
    match ← takeItem items close with
    | some (node, items) =>
      rest.readItems record size (index + 1) items close (build (← shape.read node))
    | none => rest.readItems record size (index + 1) [] close (build value)

end

/-- Reads a whole text by a shape. -/
def Shape.parse {α : Type} (shape : Shape α) (text : Spelling) : Except Fault α := do
  let (node, rest) := scan text
  let value ← shape.read node
  if rest.all isBlank then return value else .error .trailingText

end WebhookRelay.Payload
