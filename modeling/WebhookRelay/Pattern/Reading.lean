import WebhookRelay.Pattern
import WebhookRelay.Text.Blank
import WebhookRelay.Text.Cut
import WebhookRelay.Text.Hex
import WebhookRelay.Text.LowerCase
import WebhookRelay.Text.Word

/-!
Reading patterns from their text, a step at a time. There are no back-references and no
assertions about more than one character. The properties known by name are those of letters, decimal
digits, white space and ASCII, and a pattern that names another one is refused.
-/

namespace WebhookRelay.Pattern

abbrev CharSet := Char → Bool

structure Flags where
  ignoreCase : Bool := false
  /-- `^` and `$` match at the ends of lines too. -/
  lines : Bool := false
  /-- `.` matches line breaks too. -/
  dotAll : Bool := false
  unicode : Bool := true
  /-- Blanks and comments do not count. -/
  spaced : Bool := false
  /-- A carriage return before a line feed ends lines too. -/
  crlf : Bool := false

namespace Flags

def set? (f : Flags) (letter : Char) (value : Bool) : Option Flags :=
  match letter with
  | 'i' => some { f with ignoreCase := value }
  | 'm' => some { f with lines := value }
  | 's' => some { f with dotAll := value }
  | 'u' => some { f with unicode := value }
  | 'x' => some { f with spaced := value }
  | 'R' => some { f with crlf := value }
  | 'U' => some f
  | _ => none

/-- The set of a character, a range or a table, with both cases of letters where case does not
count. -/
def fold (f : Flags) (set : CharSet) : CharSet :=
  if !f.ignoreCase then set
  else if f.unicode then fun c => (Text.caseVariants c).any set
  else fun c => set c || set c.toLower || set c.toUpper

def isBreak (f : Flags) (c : Char) : Bool := c == '\n' || (f.crlf && c == '\x0d')

def word (f : Flags) (c : Char) : Bool :=
  if f.unicode then Text.isWord c else c.isAlphanum || c == '_'

def digit (f : Flags) (c : Char) : Bool := if f.unicode then Text.isDecimal c else c.isDigit

def blank (f : Flags) (c : Char) : Bool :=
  Text.isBlank c && (f.unicode || c.toNat < 0x80)

/-- Without Unicode a complement would hold broken characters. -/
def complement? (f : Flags) (set : CharSet) : Option CharSet :=
  if f.unicode then some fun c => !set c else none

end Flags

/-- What a backslash and what follows it stand for. -/
inductive Escaped where
  | char (c : Char)
  | set (set : CharSet)
  | look (holds : (before after : Option Char) → Bool)

private def hexNumber? (digits : List Char) : Option Nat :=
  if digits.isEmpty then none
  else digits.foldlM (fun n c => (Text.Hex.value? c).map (16 * n + ·)) 0

private def charOf? (n : Nat) : Option Char := if n.isValidChar then some (Char.ofNat n) else none

/-- A character by its number, in braces or with a fixed count of digits, and how long that is. -/
private def hexChar? (count : Nat) : List Char → Option (Char × Nat)
  | '\x7b' :: rest => do
    let (digits, _) ← Text.splitFirst? '\x7d' rest
    return (← charOf? (← hexNumber? digits), digits.length + 2)
  | rest => do
    if rest.length < count then none
    return (← charOf? (← hexNumber? (rest.take count)), count)

private def property? (name : List Char) : Option CharSet :=
  let name := (name.filter fun c => !(c == ' ' || c == '_' || c == '-')).map Char.toLower
  match String.ofList name with
  | "any" => some fun _ => true
  | "ascii" => some (·.toNat < 0x80)
  | "l" => some Text.isLetter
  | "letter" => some Text.isLetter
  | "nd" => some Text.isDecimal
  | "decimalnumber" => some Text.isDecimal
  | "digit" => some Text.isDecimal
  | "whitespace" => some Text.isBlank
  | "space" => some Text.isBlank
  | _ => none

/-- The set of a property after `\p` or `\P`. There are none without Unicode. -/
private def propertySet? (f : Flags) (negated : Bool) (text : List Char) :
    Option (CharSet × Nat) := do
  if !f.unicode then none
  else
    let (inner, name, n) ←
      match text with
      | '\x7b' :: '^' :: rest => do
        let (name, _) ← Text.splitFirst? '\x7d' rest
        some (true, name, name.length + 3)
      | '\x7b' :: rest => do
        let (name, _) ← Text.splitFirst? '\x7d' rest
        some (false, name, name.length + 2)
      | letter :: _ => some (false, [letter], 1)
      | [] => none
    let set := f.fold (← property? name)
    return (if negated != inner then fun c => !set c else set, n)

private def isWordEdge (f : Flags) (before after : Option Char) : Bool :=
  (before.map f.word).getD false != (after.map f.word).getD false

private def isWordStart (f : Flags) (before after : Option Char) : Bool :=
  !(before.map f.word).getD false && (after.map f.word).getD false

private def isWordEnd (f : Flags) (before after : Option Char) : Bool :=
  (before.map f.word).getD false && !(after.map f.word).getD false

/-- What follows `\b`: it may name one side of a word. Braces around anything but a name belong to
a repetition. -/
private def wordEdge? (f : Flags) : List Char → Option (Escaped × Nat)
  | '\x7b' :: rest =>
    let name := rest.takeWhile (· != '\x7d')
    if (rest.head?.map fun c => c.isAlpha || c == '-').getD false then
      let side? : Option ((before after : Option Char) → Bool) :=
        match String.ofList name with
        | "start" => some (isWordStart f)
        | "end" => some (isWordEnd f)
        | "start-half" => some fun before _ => !(before.map f.word).getD false
        | "end-half" => some fun _ after => !(after.map f.word).getD false
        | _ => none
      if name.length < rest.length then side?.map fun side => (.look side, name.length + 2)
      else none
    else some (.look (isWordEdge f), 0)
  | _ => some (.look (isWordEdge f), 0)

/-- Reads what follows a backslash, and says how long it is. -/
def escaped? (f : Flags) : List Char → Option (Escaped × Nat)
  | [] => none
  | c :: rest =>
    let more (n : Nat) (e : Escaped) : Option (Escaped × Nat) := some (e, n + 1)
    match c with
    | 'd' => more 0 (.set f.digit)
    | 's' => more 0 (.set f.blank)
    | 'w' => more 0 (.set f.word)
    | 'D' => (f.complement? f.digit).bind (more 0 <| .set ·)
    | 'S' => (f.complement? f.blank).bind (more 0 <| .set ·)
    | 'W' => (f.complement? f.word).bind (more 0 <| .set ·)
    | 'a' => more 0 (.char '\x07')
    | 'f' => more 0 (.char '\x0c')
    | 't' => more 0 (.char '\t')
    | 'n' => more 0 (.char '\n')
    | 'r' => more 0 (.char '\x0d')
    | 'v' => more 0 (.char '\x0b')
    | 'x' => (hexChar? 2 rest).bind fun (c, n) => more n (.char c)
    | 'u' => (hexChar? 4 rest).bind fun (c, n) => more n (.char c)
    | 'U' => (hexChar? 8 rest).bind fun (c, n) => more n (.char c)
    | 'p' => (propertySet? f false rest).bind fun (set, n) => more n (.set set)
    | 'P' => (propertySet? f true rest).bind fun (set, n) => more n (.set set)
    | 'A' => more 0 (.look fun before _ => before.isNone)
    | 'z' => more 0 (.look fun _ after => after.isNone)
    | 'b' => (wordEdge? f rest).bind fun (e, n) => more n e
    | 'B' => more 0 (.look fun before after => !isWordEdge f before after)
    | '<' => more 0 (.look (isWordStart f))
    | '>' => more 0 (.look (isWordEnd f))
    | c => if c.toNat < 0x80 && !c.isAlphanum then more 0 (.char c) else none

inductive SetOp where
  | both
  | without
  | oneOf

def SetOp.apply (op : SetOp) (a b : CharSet) : CharSet := fun c =>
  match op with
  | both => a c && b c
  | without => a c && !b c
  | oneOf => a c != b c

/-- An open bracket: the sets so far, and an operation that waits for its second operand. -/
structure Bracket where
  negated : Bool
  waiting : Option (CharSet × SetOp) := none
  sets : CharSet

namespace Bracket

def add (b : Bracket) (set : CharSet) : Bracket := { b with sets := fun c => b.sets c || set c }

def operand (b : Bracket) : CharSet :=
  match b.waiting with
  | some (first, op) => op.apply first b.sets
  | none => b.sets

def operate (b : Bracket) (op : SetOp) : Bracket :=
  { b with waiting := some (b.operand, op), sets := fun _ => false }

def close? (f : Flags) (b : Bracket) : Option CharSet :=
  if b.negated then f.complement? b.operand else some b.operand

/-- What follows `[`: a caret negates, and dashes, or else one closing bracket, stand for
themselves. -/
def start (f : Flags) (text : List Char) : Bracket × Nat :=
  let (negated, rest) :=
    match text with
    | '^' :: rest => (true, rest)
    | rest => (false, rest)
  let dashes := (rest.takeWhile (· == '-')).length
  let skipped := text.length - rest.length
  if dashes = 0 ∧ rest.head? = some ']' then
    ({ negated, sets := f.fold (· == ']') }, skipped + 1)
  else ({ negated, sets := fun c => 0 < dashes && c == '-' }, skipped + dashes)

end Bracket

/-- The sets that go by a name in brackets. -/
private def namedSet? (name : List Char) : Option CharSet :=
  match String.ofList name with
  | "alnum" => some Char.isAlphanum
  | "alpha" => some Char.isAlpha
  | "ascii" => some (·.toNat < 0x80)
  | "blank" => some fun c => c == ' ' || c == '\t'
  | "cntrl" => some fun c => c.toNat < 0x20 || c == '\x7f'
  | "digit" => some Char.isDigit
  | "graph" => some fun c => 0x20 < c.toNat && c.toNat < 0x7F
  | "lower" => some Char.isLower
  | "print" => some fun c => 0x20 ≤ c.toNat && c.toNat < 0x7F
  | "punct" => some fun c => 0x20 < c.toNat && c.toNat < 0x7F && !c.isAlphanum
  | "space" => some fun c => c == ' ' || (0x09 ≤ c.toNat && c.toNat ≤ 0x0D)
  | "upper" => some Char.isUpper
  | "word" => some fun c => c.isAlphanum || c == '_'
  | "xdigit" => some fun c => (Text.Hex.value? c).isSome
  | _ => none

/-- A named set after its first bracket, as in `[:alpha:]`, and how long the rest of it is. -/
private def posix? (f : Flags) : List Char → Option (CharSet × Nat)
  | ':' :: rest => do
    let (negated, rest) :=
      match rest with
      | '^' :: rest => (true, rest)
      | rest => (false, rest)
    let (name, rest) ← Text.splitFirst? ':' rest
    let set ← namedSet? name
    if rest.head? = some ']' then
      let set := f.fold set
      some (if negated then fun c => !set c else set, name.length + (if negated then 4 else 3))
    else none
  | _ => none

/-- A character or an escape in brackets, and how much of `rest` belongs to it. -/
private def setItem? (f : Flags) (c : Char) (rest : List Char) : Option (Escaped × Nat) :=
  if c == '\\' then escaped? f rest else some (.char c, 0)

/-- A range, or a set or a character alone, and how much of `rest` belongs to it. -/
private def setRange? (f : Flags) (c : Char) (rest : List Char) : Option (CharSet × Nat) := do
  let (item, n) ← setItem? f c rest
  let alone ←
    match item with
    | .char c => some (f.fold (· == c))
    | .set set => some (f.fold set)
    | .look _ => none
  match rest.drop n with
  | '-' :: d :: more =>
    if d == ']' || d == '-' then return (alone, n)
    else
      match item, ← setItem? f d more with
      | .char low, (.char high, m) =>
        if low ≤ high then return (f.fold fun c => low ≤ c && c ≤ high, n + 2 + m) else none
      | _, _ => none
  | _ => return (alone, n)

/-- An open group, with what its branch had before it. Nothing stands for a change of flags, which
cannot be repeated. -/
structure Group where
  flags : Flags
  branches : List Pattern
  items : List (Option Pattern)

/-- What is read so far. Items and branches stand latest first, and open groups and brackets
innermost first. -/
structure State where
  flags : Flags := {}
  branches : List Pattern := []
  items : List (Option Pattern) := []
  groups : List Group := []
  names : List (List Char) := []
  brackets : List Bracket := []

namespace State

def add (s : State) (p : Pattern) : State := { s with items := some p :: s.items }

def branch (s : State) : Pattern :=
  s.items.foldl (fun after item =>
    match item, after with
    | none, after => after
    | some p, .empty => p
    | some p, after => .cat p after) .empty

/-- The branches in their order, as one pattern. -/
def whole (s : State) : Pattern := s.branches.foldl (fun after p => .alt p after) s.branch

def openGroup (s : State) (flags : Flags) : State :=
  { s with
    flags, branches := [], items := []
    groups := { flags := s.flags, branches := s.branches, items := s.items } :: s.groups }

def closeGroup? (s : State) : Option State :=
  match s.groups with
  | [] => none
  | g :: groups =>
    some { s with
      flags := g.flags, branches := g.branches, items := some s.whole :: g.items, groups }

def repeatLast? (s : State) (low : Nat) (high : Option Nat) : Option State :=
  match s.items with
  | some p :: items => some { s with items := some (.times p low high) :: items }
  | _ => none

end State

/-- The flags before `:` or `)`: letters to set and, after a dash, letters to clear. -/
private def flagsOf? (f : Flags) (letters : List Char) : Option Flags :=
  let repeated := letters.eraseDups.length < letters.length
  if repeated ∨ letters.getLast? = some '-' then none
  else do
    let (f, _) ← letters.foldlM (fun (f, value) c =>
      if c == '-' then some (f, false) else (f.set? c value).map fun f => (f, value)) (f, true)
    return f

private def isNameChar (first : Bool) (c : Char) : Bool :=
  c == '_' || Text.isLetter c ||
    (!first && (c == '.' || c == '[' || c == ']' || Text.isDecimal c))

/-- What follows `(`. -/
private def stepOpen (s : State) (rest : List Char) : Option (State × Nat) :=
  let named (text : List Char) (skipped : Nat) : Option (State × Nat) := do
    let (name, _) ← Text.splitFirst? '>' text
    let sound : Bool :=
      match name with
      | first :: more => isNameChar true first && more.all (isNameChar false)
      | [] => false
    if sound ∧ name ∉ s.names then
      some ({ s.openGroup s.flags with names := name :: s.names }, skipped + name.length + 1)
    else none
  match rest with
  | '?' :: '=' :: _ => none
  | '?' :: '!' :: _ => none
  | '?' :: '<' :: '=' :: _ => none
  | '?' :: '<' :: '!' :: _ => none
  | '?' :: 'P' :: '<' :: text => named text 3
  | '?' :: '<' :: text => named text 2
  | '?' :: text =>
    let letters := text.takeWhile fun c => c != ':' && c != ')'
    match text.drop letters.length, flagsOf? s.flags letters with
    | ':' :: _, some flags => some (s.openGroup flags, letters.length + 2)
    | ')' :: _, some flags =>
      if letters.isEmpty then none
      else some ({ s with flags, items := none :: s.items }, letters.length + 2)
    | _, _ => none
  | _ => some (s.openGroup s.flags, 0)

private def number? (text : List Char) : Option (Option Nat) :=
  let digits := Text.trim text
  if digits.isEmpty then some none
  else if digits.all Char.isDigit then
    let n := digits.foldl (fun n c => 10 * n + (c.toNat - 0x30)) 0
    if n < UInt32.size then some (some n) else none
  else none

/-- What follows `{`: one count, or a least and perhaps a greatest one. -/
private def counts? (text : List Char) : Option (Nat × Option Nat × Nat) := do
  let (inner, _) ← Text.splitFirst? '\x7d' text
  match Text.splitFirst? ',' inner with
  | none =>
    let n ← (← number? inner)
    return (n, some n, inner.length + 1)
  | some (low, high) =>
    let low ← (← number? low)
    if high.isEmpty then return (low, none, inner.length + 1)
    else
      let high ← (← number? high)
      if low ≤ high then return (low, some high, inner.length + 1) else none

/-- Repeats the last item. A question mark after it does not change what matches. -/
private def stepRepeat (s : State) (low : Nat) (high : Option Nat) (used : Nat) (rest : List Char) :
    Option (State × Nat) :=
  (s.repeatLast? low high).map fun s =>
    (s, used + if (rest.drop used).head? = some '?' then 1 else 0)

private def stepPlain (s : State) (c : Char) (rest : List Char) : Option (State × Nat) :=
  let f := s.flags
  match c with
  | '(' => stepOpen s rest
  | ')' => s.closeGroup?.map (·, 0)
  | '|' => some ({ s with branches := s.branch :: s.branches, items := [] }, 0)
  | '*' => stepRepeat s 0 none 0 rest
  | '+' => stepRepeat s 1 none 0 rest
  | '?' => stepRepeat s 0 (some 1) 0 rest
  | '\x7b' => do
    let (low, high, used) ← counts? rest
    stepRepeat s low high used rest
  | '[' =>
    let (bracket, n) := Bracket.start f rest
    some ({ s with brackets := [bracket] }, n)
  | '\\' => do
    let (e, n) ← escaped? f rest
    match e with
    | .char c => return (s.add (.one (f.fold (· == c))), n)
    | .set set => return (s.add (.one set), n)
    | .look holds => return (s.add (.look holds), n)
  | '.' =>
    if !f.unicode then none
    else some (s.add (.one fun c => f.dotAll || !f.isBreak c), 0)
  | '^' =>
    some (s.add (.look fun before _ =>
      before.isNone || (f.lines && (before.map f.isBreak).getD false)), 0)
  | '$' =>
    some (s.add (.look fun _ after =>
      after.isNone || (f.lines && (after.map f.isBreak).getD false)), 0)
  | c => if f.unicode || c.toNat < 0x80 then some (s.add (.one (f.fold (· == c))), 0) else none

private def stepBracket (s : State) (b : Bracket) (outer : List Bracket) (c : Char)
    (rest : List Char) : Option (State × Nat) :=
  let f := s.flags
  match c, rest with
  | '[', rest =>
    match posix? f rest with
    | some (set, n) => some ({ s with brackets := b.add set :: outer }, n)
    | none =>
      let (inner, n) := Bracket.start f rest
      some ({ s with brackets := inner :: b :: outer }, n)
  | ']', _ => do
    let set ← b.close? f
    match outer with
    | [] => return ({ s with brackets := [] }.add (.one set), 0)
    | around :: outer => return ({ s with brackets := around.add set :: outer }, 0)
  | '&', '&' :: _ => some ({ s with brackets := b.operate .both :: outer }, 1)
  | '-', '-' :: _ => some ({ s with brackets := b.operate .without :: outer }, 1)
  | '~', '~' :: _ => some ({ s with brackets := b.operate .oneOf :: outer }, 1)
  | c, rest => do
    let (set, n) ← setRange? f c rest
    return ({ s with brackets := b.add set :: outer }, n)

/-- Reads on from the character `c`, and says how much of `rest` was read with it. -/
def State.step (s : State) (c : Char) (rest : List Char) : Option (State × Nat) :=
  if s.flags.spaced && Text.isBlank c then some (s, 0)
  else if s.flags.spaced && c == '#' then some (s, (rest.takeWhile (· != '\n')).length)
  else
    match s.brackets with
    | [] => stepPlain s c rest
    | b :: outer => stepBracket s b outer c rest

def State.run (s : State) : List Char → Option State
  | [] => some s
  | c :: rest =>
    match s.step c rest with
    | some (s, n) => s.run (rest.drop n)
    | none => none
termination_by text => text.length
decreasing_by simp only [List.length_drop, List.length_cons]; omega

/-- Larger patterns are refused. -/
def maxSize : Nat := 250000

def ofText? (text : String) : Option Pattern := do
  let s ← State.run {} text.toList
  if s.groups.isEmpty ∧ s.brackets.isEmpty ∧ s.whole.size ≤ maxSize then some s.whole else none

end WebhookRelay.Pattern
