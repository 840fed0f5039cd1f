import WebhookRelay.Payload.Node
import WebhookRelay.Text.Hex

/-!
Scanning a JSON text in one pass, a byte at a time. The open brackets are part of the state, so
texts may be nested to any depth, and `Scan.run_append` lets a text be followed in pieces.
-/

namespace WebhookRelay.Payload

/-- Whether a byte is this ASCII character. -/
def is (c : Char) (b : UInt8) : Bool := b == c.toUInt8

def isBlank (b : UInt8) : Bool := is ' ' b || is '\t' b || is '\n' b || is '\x0d' b

def isDigit (b : UInt8) : Bool := 0x30 ≤ b && b ≤ 0x39

def hexValue? (b : UInt8) : Option Nat := Text.Hex.value? (Char.ofNat b.toNat)

namespace Scan

/-- An open bracket around the current value, with what is complete in it, latest first. -/
inductive Frame where
  | list (items : List Node)
  | object (members : List (Spelling × Node)) (key : Spelling)

/-- The part of a number that was read last. -/
inductive Part where
  | sign
  | zero
  | whole
  | point
  | fraction
  | mark
  | markSign
  | exponent
  deriving DecidableEq

/-- Where a string stands. -/
inductive Escape where
  | none
  | slash
  /-- Bytes that are still to come, and whether all so far were digits. -/
  | hex (left : Nat) (sound : Bool)
  deriving DecidableEq

/-- What is being read, inside `outer`. Spellings and members are kept latest first. -/
inductive State where
  | value (outer : List Frame)
  | item (first : Bool) (items : List Node) (outer : List Frame)
  | key (first : Bool) (members : List (Spelling × Node)) (outer : List Frame)
  | colon (members : List (Spelling × Node)) (key : Spelling) (outer : List Frame)
  | listMark (items : List Node) (outer : List Frame)
  | objectMark (members : List (Spelling × Node)) (outer : List Frame)
  | word (left : Spelling) (node : Node) (outer : List Frame)
  | number (part : Part) (spelling : Spelling) (outer : List Frame)
  | text (escape : Escape) (spelling : Spelling) (outer : List Frame)
  | keyText (escape : Escape) (spelling : Spelling) (members : List (Spelling × Node))
    (outer : List Frame)
  /-- The value is complete or broken, and `rest` follows. -/
  | over (node : Node) (rest : Spelling)

/-- The whole text as a node, if `node` breaks off. -/
def broken (node : Node) (fault : Fault) : List Frame → Node
  | [] => node
  | .list items :: outer =>
    broken (.list (items.reverse ++ [node]) (.inItem fault)) fault outer
  | .object members key :: outer =>
    broken (.object (members.reverse ++ [(key, node)]) (.inMember fault)) fault outer

def breakValue (fault syntaxFault : Fault) (outer : List Frame) : Node :=
  broken (.broken fault syntaxFault) syntaxFault outer

def breakText (fault : Fault) (spelling : Spelling) (outer : List Frame) : Node :=
  broken (.brokenText spelling.reverse fault) fault outer

def breakList (close : ListEnd) (items : List Node) (outer : List Frame) : Node :=
  let node : Node := .list items.reverse close
  broken node (node.syntaxFault?.getD .noValue) outer

def breakObject (close : ObjectEnd) (members : List (Spelling × Node)) (outer : List Frame) : Node :=
  let node : Node := .object members.reverse close
  broken node (node.syntaxFault?.getD .noValue) outer

/-- Puts a complete value where it belongs. -/
def complete (node : Node) : List Frame → State
  | [] => .over node []
  | .list items :: outer => .listMark (node :: items) outer
  | .object members key :: outer => .objectMark ((key, node) :: members) outer

/-- Starts a value at its first byte. -/
def start (outer : List Frame) (b : UInt8) : State :=
  if is '"' b then .text .none [] outer
  else if is '\x7b' b then .key true [] outer
  else if is '[' b then .item true [] outer
  else if is '-' b then .number .sign [b] outer
  else if is '0' b then .number .zero [b] outer
  else if isDigit b then .number .whole [b] outer
  else if is 'n' b then .word ("ull".toList.map Char.toUInt8) .null outer
  else if is 't' b then .word ("rue".toList.map Char.toUInt8) (.flag true) outer
  else if is 'f' b then .word ("alse".toList.map Char.toUInt8) (.flag false) outer
  else .over (breakValue .noValue .noValue outer) []

/-- What a number may go on with. Anything else ends it. -/
def Part.next? (part : Part) (b : UInt8) : Option Part :=
  let isMark := is 'e' b || is 'E' b
  match part with
  | sign => if is '0' b then some zero else if isDigit b then some whole else none
  | zero => if is '.' b then some point else if isMark then some mark else none
  | whole =>
    if isDigit b then some whole else if is '.' b then some point
    else if isMark then some mark else none
  | point => if isDigit b then some fraction else none
  | fraction => if isDigit b then some fraction else if isMark then some mark else none
  | mark =>
    if is '+' b || is '-' b then some markSign else if isDigit b then some exponent else none
  | markSign => if isDigit b then some exponent else none
  | exponent => if isDigit b then some exponent else none

/-- Whether a number may end there. -/
def Part.isWhole : Part → Bool
  | zero => true
  | whole => true
  | fraction => true
  | exponent => true
  | _ => false

/-- The next state of a string, or that it ends, or what is wrong with it. -/
def Escape.next (escape : Escape) (b : UInt8) : Except Fault (Option Escape) :=
  match escape with
  | none =>
    if is '"' b then .ok Option.none
    else if is '\\' b then .ok slash
    else if b < 0x20 then .error .controlCharacter
    else .ok none
  | slash =>
    if is 'u' b then .ok (hex 4 true)
    else if "\"\\/bfnrt".toList.any (is · b) then .ok none
    else .error .badEscape
  | hex left sound =>
    let sound := sound && (hexValue? b).isSome
    if 1 < left then .ok (hex (left - 1) sound)
    else if sound then .ok none
    else .error .badEscape

/-- What follows a complete value. -/
def stepAfter (b : UInt8) : State → State
  | .listMark items outer =>
    if isBlank b then .listMark items outer
    else if is ',' b then .item false items outer
    else if is ']' b then complete (.list items.reverse .closed) outer
    else .over (breakList .noMark items outer) []
  | .objectMark members outer =>
    if isBlank b then .objectMark members outer
    else if is ',' b then .key false members outer
    else if is '\x7d' b then complete (.object members.reverse .closed) outer
    else .over (breakObject .noMark members outer) []
  | .over node rest => .over node (b :: rest)
  | s => s

def step (s : State) (b : UInt8) : State :=
  match s with
  | .value outer => if isBlank b then s else start outer b
  | .item first items outer =>
    if isBlank b then s
    else if is ']' b then
      if first then complete (.list [] .closed) outer
      else .over (breakList .comma items outer) []
    else start (.list items :: outer) b
  | .key first members outer =>
    if isBlank b then s
    else if is '"' b then .keyText .none [] members outer
    else if is '\x7d' b then
      if first then complete (.object [] .closed) outer
      else .over (breakObject .comma members outer) []
    else .over (breakObject .keyNotText members outer) []
  | .colon members key outer =>
    if isBlank b then s
    else if is ':' b then .value (.object members key :: outer)
    else .over (breakObject (.noColon key) members outer) []
  | .word [] node outer => stepAfter b (complete node outer)
  | .word (c :: left) node outer =>
    if b != c then .over (breakValue .noWord .noWord outer) []
    else if left.isEmpty then complete node outer
    else .word left node outer
  | .number part spelling outer =>
    match part.next? b with
    | some part => .number part (b :: spelling) outer
    | none =>
      if part.isWhole && !(part == .zero && isDigit b) then
        stepAfter b (complete (.number spelling.reverse) outer)
      else .over (breakValue .badNumber .badNumber outer) []
  | .text escape spelling outer =>
    match escape.next b with
    | .ok (some escape) => .text escape (b :: spelling) outer
    | .ok none => complete (.text spelling.reverse) outer
    | .error fault => .over (breakText fault (b :: spelling) outer) []
  | .keyText escape spelling members outer =>
    match escape.next b with
    | .ok (some escape) => .keyText escape (b :: spelling) members outer
    | .ok none => .colon members spelling.reverse outer
    | .error fault =>
      .over (breakObject (.inKey (b :: spelling).reverse fault) members outer) []
  | s => stepAfter b s

/-- The node and what follows it, where the text ends. -/
def finish : State → Node × Spelling
  | .value outer => (breakValue .unfinishedValue .unfinishedValue outer, [])
  | .item first items outer =>
    (breakList (if first then .cut else .cutAfterComma) items outer, [])
  | .key first members outer =>
    (breakObject (if first then .cut else .cutAfterComma) members outer, [])
  | .colon members key outer => (breakObject (.cutAfterKey key) members outer, [])
  | .listMark items outer => (breakList .cut items outer, [])
  | .objectMark members outer => (breakObject .cut members outer, [])
  | .word _ _ outer => (breakValue .unfinishedValue .unfinishedValue outer, [])
  | .number part spelling outer =>
    if part.isWhole then
      match outer with
      | [] => (.number spelling.reverse, [])
      | .list items :: outer => (breakList .cut (.number spelling.reverse :: items) outer, [])
      | .object members key :: outer =>
        (breakObject .cut ((key, .number spelling.reverse) :: members) outer, [])
    else (breakValue .unfinishedValue .badNumber outer, [])
  | .text _ spelling outer => (breakText .unfinishedText spelling outer, [])
  | .keyText _ spelling members outer =>
    (breakObject (.inKey spelling.reverse .unfinishedText) members outer, [])
  | .over node rest => (node, rest.reverse)

def run (s : State) (text : Spelling) : State := text.foldl step s

@[simp] theorem run_nil (s : State) : run s [] = s := rfl

@[simp] theorem run_cons (s : State) (b : UInt8) (text : Spelling) :
    run s (b :: text) = run (step s b) text := rfl

theorem run_append (s : State) (a b : Spelling) : run s (a ++ b) = run (run s a) b := by
  simp [run, List.foldl_append]

end Scan

/-- The first value of a text and what follows it. -/
def scan (text : Spelling) : Node × Spelling := Scan.finish (Scan.run (.value []) text)

end WebhookRelay.Payload
