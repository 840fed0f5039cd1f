import WebhookRelay.Yaml.Scalar

/-!
The tokens of YAML texts. Indentation becomes tokens of its own, and the token that marks a key is
put in front of it once its colon is found. There are no anchors, tags or directives.
-/

namespace WebhookRelay.Yaml

inductive Token where
  | documentStart
  | documentEnd
  | blockSequence
  | blockMapping
  | blockEnd
  | flowSequence
  | flowSequenceEnd
  | flowMapping
  | flowMappingEnd
  | comma
  | entry
  | key
  | value
  | scalar (plain : Bool) (text : String)
  deriving DecidableEq

/-- The place of a token that is a key if a colon follows it. -/
structure KeySpot where
  /-- How many tokens come before. -/
  before : Nat
  line : Nat
  column : Nat
  index : Nat
  /-- Whether the token has to be a key, because it starts a line of a mapping. -/
  required : Bool

/-- What is read so far, and where the next character stands. -/
structure Scan where
  tokens : Array Token := #[]
  /-- The columns of the open blocks, innermost first. -/
  indents : List Nat := []
  spot : Option KeySpot := none
  /-- The spots around the open brackets, innermost first. -/
  outer : List (Option KeySpot) := []
  keyAllowed : Bool := true
  line : Nat := 0
  column : Nat := 0
  index : Nat := 0

namespace Scan

def inFlow (s : Scan) : Bool := !s.outer.isEmpty

def add (s : Scan) (t : Token) : Scan := { s with tokens := s.tokens.push t }

def insert (s : Scan) (before : Nat) (t : Token) : Scan :=
  { s with tokens := s.tokens.insertIdxIfInBounds before t }

def moveOver (s : Scan) (text : List Char) : Scan :=
  text.foldl (fun s c =>
    if isBreak c then { s with line := s.line + 1, column := 0, index := s.index + 1 }
    else { s with column := s.column + 1, index := s.index + 1 }) s

/-- Opens a block at a column further in, with its token in front of those after `before`. -/
def roll (s : Scan) (before column : Nat) (t : Token) : Scan :=
  if s.inFlow || s.indents.head?.any (column ≤ ·) then s
  else { s.insert before t with indents := column :: s.indents }

/-- Closes the blocks that `isOver` holds for, from the innermost on. -/
def unroll (s : Scan) (isOver : Nat → Bool) : Scan :=
  if s.inFlow then s
  else
    let closed := s.indents.takeWhile isOver
    { s with
      tokens := s.tokens ++ List.replicate closed.length Token.blockEnd
      indents := s.indents.drop closed.length }

/-- Gives up the spot. Nothing is the answer where it has to be a key. -/
def leave? (s : Scan) : Option Scan :=
  if s.spot.any (·.required) then none else some { s with spot := none }

/-- Gives up the spots that are on an earlier line or too far back. -/
def expire? (s : Scan) : Option Scan :=
  let past (k : KeySpot) : Bool := k.line < s.line || k.index + 1024 < s.index
  if (s.spot :: s.outer).any (·.any fun k => past k && k.required) then none
  else
    let keep (spot : Option KeySpot) : Option KeySpot := spot.filter (!past ·)
    some { s with spot := keep s.spot, outer := s.outer.map keep }

def here (s : Scan) : KeySpot where
  before := s.tokens.size
  line := s.line
  column := s.column
  index := s.index
  required := !s.inFlow && s.indents.head? == some s.column

/-- Remembers that what comes next may be a key. -/
def mark? (s : Scan) : Option Scan :=
  if s.keyAllowed then s.leave?.map fun s => { s with spot := some s.here } else some s

/-- What `-`, `?` and a colon without a key need in blocks. -/
def blockStart? (s : Scan) (t : Token) : Option Scan :=
  if s.inFlow then some s
  else if s.keyAllowed then some (s.roll s.tokens.size s.column t)
  else none

def document? (s : Scan) (t : Token) : Option Scan :=
  (s.unroll fun _ => true).leave?.map fun s => { s with keyAllowed := false }.add t

def openFlow? (s : Scan) (t : Token) : Option Scan :=
  s.mark?.map fun s => { s with spot := none, outer := s.spot :: s.outer, keyAllowed := true }.add t

def closeFlow? (s : Scan) (t : Token) : Option Scan :=
  s.leave?.map fun s =>
    { s with spot := s.outer.headD none, outer := s.outer.tail, keyAllowed := false }.add t

def comma? (s : Scan) : Option Scan :=
  s.leave?.map fun s => { s with keyAllowed := true }.add .comma

def entry? (s : Scan) : Option Scan := do
  let s ← (← s.blockStart? .blockSequence).leave?
  return { s with keyAllowed := true }.add .entry

def key? (s : Scan) : Option Scan := do
  let s ← (← s.blockStart? .blockMapping).leave?
  return { s with keyAllowed := !s.inFlow }.add .key

/-- At a colon the token at the spot turns out to be a key. -/
def value? (s : Scan) : Option Scan :=
  match s.spot with
  | some k =>
    let s := (s.insert k.before .key).roll k.before k.column .blockMapping
    some ({ s with spot := none, keyAllowed := false }.add .value)
  | none => (s.blockStart? .blockMapping).map fun s =>
    { s with keyAllowed := !s.inFlow }.add .value

/-- A scalar in quotes, and how much of `rest` it takes. -/
def quoted? (s : Scan) (quote : Char) (rest : List Char) : Option (Scan × Nat) := do
  let s ← s.mark?
  let (w, used) ← Yaml.quoted? quote .none {} 0 rest
  return ({ s with keyAllowed := false }.add (.scalar false w.value), used)

def block? (s : Scan) (folds : Bool) (rest : List Char) : Option (Scan × Nat) := do
  let s ← s.leave?
  let (text, used) ← Yaml.block? folds s.indents.head? rest
  return ({ s with keyAllowed := true }.add (.scalar false text), used)

def plain? (s : Scan) (c : Char) (rest : List Char) : Option (Scan × Nat) := do
  let s ← s.mark?
  let (w, used) ← Yaml.plain? s.inFlow (s.indents.head?.elim 0 (· + 1)) (Words.add {} c) 0 rest
  return ({ s with keyAllowed := w.gap.column?.isSome }.add (.scalar true w.value), used)

/-- Characters that no plain scalar starts with. -/
def indicators : List Char := [
  '-', '?', ':', ',', '[', ']', '\x7b', '\x7d', '#', '&', '*', '!', '|', '>', '\'', '"', '%', '@',
  '\x60']

/-- Whether a plain scalar starts with `c`, which is no indicator there. -/
def startsPlain (s : Scan) (c : Char) (rest : List Char) : Bool :=
  if isBlank c then false
  else if c == '-' then !rest.head?.any isBlank
  else if c == '?' || c == ':' then !s.inFlow && !endsWord rest
  else !indicators.contains c

/-- Reads a token that starts with `c`, and says how much of `rest` it takes. -/
def token? (s : Scan) (c : Char) (rest : List Char) : Option (Scan × Nat) :=
  let alone (s : Option Scan) : Option (Scan × Nat) := s.map (·, 0)
  if s.column = 0 ∧ isDocumentMark (c :: rest) then
    (s.document? (if c == '-' then .documentStart else .documentEnd)).map (·, 2)
  else
    match c with
    | '[' => alone (s.openFlow? .flowSequence)
    | '\x7b' => alone (s.openFlow? .flowMapping)
    | ']' => alone (s.closeFlow? .flowSequenceEnd)
    | '\x7d' => alone (s.closeFlow? .flowMappingEnd)
    | ',' => alone s.comma?
    | '\'' => s.quoted? c rest
    | '"' => s.quoted? c rest
    | c =>
      if c == '-' && endsWord rest then alone s.entry?
      else if c == '?' && (s.inFlow || endsWord rest) then alone s.key?
      else if c == ':' && (s.inFlow || endsWord rest) then alone s.value?
      else if c == '|' && !s.inFlow then s.block? false rest
      else if c == '>' && !s.inFlow then s.block? true rest
      else if s.startsPlain c rest then s.plain? c rest
      else none

/-- Reads a token, or skips a blank, a break or a comment. Tabs do not indent. -/
def step? (s : Scan) (c : Char) (rest : List Char) : Option (Scan × Nat) :=
  if c == ' ' || (c == '\t' && (s.inFlow || !s.keyAllowed)) then some (s, 0)
  else if c == '#' then some (s, (rest.takeWhile (!isBreak ·)).length)
  else if isBreak c then some ({ s with keyAllowed := !s.inFlow || s.keyAllowed }, 0)
  else do
    let s ← s.expire?
    (s.unroll (s.column < ·)).token? c rest

def run? (s : Scan) : List Char → Option Scan
  | [] => some s
  | c :: rest =>
    match s.step? c rest with
    | none => none
    | some (next, used) => run? (next.moveOver (c :: rest.take used)) (rest.drop used)
  termination_by text => text.length

/-- Ends the text: no key may be due. -/
def finish? (s : Scan) : Option (List Token) := do
  let s ← ((← s.expire?).unroll fun _ => true).leave?
  return s.tokens.toList

end Scan

/-- The characters that a text may hold. -/
def isAllowed (c : Char) : Bool :=
  let n := c.toNat
  n == 0x09 || n == 0x0A || n == 0x0D || (0x20 ≤ n && n ≤ 0x7E) || n == 0x85 ||
    (0xA0 ≤ n && n != 0xFFFE && n != 0xFFFF)

/-- Makes a line feed of each spelling of the break. -/
def unifyBreaks : List Char → List Char
  | '\x0d' :: '\n' :: rest => '\n' :: unifyBreaks rest
  | c :: rest => (if c == '\x0d' || c == '\u0085' then '\n' else c) :: unifyBreaks rest
  | [] => []

/-- The tokens of a text, if it has only allowed characters and every token is sound. -/
def tokens? (text : String) : Option (List Token) :=
  let text :=
    match text.toList with
    | '\ufeff' :: text => text
    | text => text
  if text.all isAllowed then do (← Scan.run? {} (unifyBreaks text)).finish? else none

end WebhookRelay.Yaml
