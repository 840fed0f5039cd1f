import WebhookRelay.Text.Hex

/-!
The scalars of YAML texts: plain, quoted and in blocks of lines. A reader starts after the indicator,
if there is one, and gives the value and how many characters it takes. Line breaks are single
characters here.
-/

namespace WebhookRelay.Yaml

def isBlank (c : Char) : Bool := c == ' ' || c == '\t'

def isBreak (c : Char) : Bool := c == '\n' || c == '\u2028' || c == '\u2029'

/-- Whether nothing, a blank or a break follows. -/
def endsWord : List Char → Bool
  | [] => true
  | c :: _ => isBlank c || isBreak c

/-- What separates documents, at the start of a line. -/
def isDocumentMark : List Char → Bool
  | '-' :: '-' :: '-' :: rest => endsWord rest
  | '.' :: '.' :: '.' :: rest => endsWord rest
  | _ => false

/-- What stands between two words, latest first. -/
inductive Gap where
  | blanks (chars : List Char)
  /-- The first break, or none if it is escaped, those after it, and the column reached. -/
  | lines (first : Option Char) (more : List Char) (column : Nat)

namespace Gap

def blank : Gap → Char → Gap
  | blanks chars, c => blanks (c :: chars)
  | lines first more column, _ => lines first more (column + 1)

def line : Gap → Char → Gap
  | blanks _, c => lines (some c) [] 0
  | lines first more _, c => lines first (c :: more) 0

/-- How far the last line is indented, if there was a break. -/
def column? : Gap → Option Nat
  | blanks _ => none
  | lines _ _ column => some column

/-- One line feed counts as a space, and of several all but the first are kept. -/
def folded : Gap → List Char
  | blanks chars => chars
  | lines (some '\n') [] _ => [' ']
  | lines (some '\n') more _ => more
  | lines first more _ => more ++ first.toList

end Gap

/-- What is read of a scalar, latest first, and what stands after it. -/
structure Words where
  text : List Char := []
  gap : Gap := .blanks []

namespace Words

def settle (w : Words) : Words := { text := w.gap.folded ++ w.text }

def add (w : Words) (c : Char) : Words := { text := c :: w.settle.text }

def blank (w : Words) (c : Char) : Words := { w with gap := w.gap.blank c }

def line (w : Words) (c : Char) : Words := { w with gap := w.gap.line c }

def value (w : Words) : String := String.ofList w.text.reverse

end Words

/-! ### Plain scalars -/

/-- Whether a plain scalar ends before the next word. -/
private def endsPlain (inFlow : Bool) (indent : Nat) (gap : Gap) (c : Char) (rest : List Char) : Bool :=
  let betweenWords :=
    match gap with
    | .blanks chars => !chars.isEmpty && c == '#'
    | .lines _ _ column =>
      c == '#' || (!inFlow && column < indent) || (column == 0 && isDocumentMark (c :: rest))
  betweenWords || (c == ':' && endsWord rest) ||
    (inFlow && [',', '[', ']', '\x7b', '\x7d'].contains c)

/-- Reads a plain scalar, and what stands between it and the next token. Lines outside brackets have
to be indented. -/
def plain? (inFlow : Bool) (indent : Nat) (w : Words) (used : Nat) :
    List Char → Option (Words × Nat)
  | [] => some (w, used)
  | c :: rest =>
    if isBlank c then
      if c == '\t' && w.gap.column?.any (· < indent) then none
      else plain? inFlow indent (w.blank c) (used + 1) rest
    else if isBreak c then plain? inFlow indent (w.line c) (used + 1) rest
    else if endsPlain inFlow indent w.gap c rest then some (w, used)
    else if inFlow && c == ':' && rest.head?.any ['?', ',', '[', ']', '\x7b', '\x7d'].contains then none
    else plain? inFlow indent (w.add c) (used + 1) rest

/-! ### Quoted scalars -/

/-- Where a quoted scalar stands. -/
inductive Escape where
  | none
  | slash
  /-- The first of two quotes that stand for one. -/
  | quote
  | hex (left value : Nat)

/-- The characters that a letter after a backslash stands for. -/
def namedEscapes : List (Char × Char) := [
  ('0', '\x00'), ('a', '\x07'), ('b', '\x08'), ('t', '\t'), ('\t', '\t'), ('n', '\n'),
  ('v', '\x0b'), ('f', '\x0c'), ('r', '\x0d'), ('e', '\x1b'), (' ', ' '), ('"', '"'),
  ('/', '/'), ('\\', '\\'), ('N', '\u0085'), ('_', '\u00a0'), ('L', '\u2028'), ('P', '\u2029')]

/-- How many digits follow the letter. -/
def hexEscapes : List (Char × Nat) := [('x', 2), ('u', 4), ('U', 8)]

/-- Reads a quoted scalar after its first quote. -/
def quoted? (quote : Char) (escape : Escape) (w : Words) (used : Nat) :
    List Char → Option (Words × Nat)
  | [] => none
  | c :: rest =>
    match escape with
    | .quote => quoted? quote .none (w.add c) (used + 1) rest
    | .slash =>
      if isBreak c then
        quoted? quote .none { w.settle with gap := .lines none [] 0 } (used + 1) rest
      else
        match namedEscapes.lookup c, hexEscapes.lookup c with
        | some c, _ => quoted? quote .none (w.add c) (used + 1) rest
        | none, some digits => quoted? quote (.hex digits 0) w (used + 1) rest
        | none, none => none
    | .hex left value =>
      match Text.Hex.value? c with
      | none => none
      | some digit =>
        let value := 16 * value + digit
        if 1 < left then quoted? quote (.hex (left - 1) value) w (used + 1) rest
        else if value.isValidChar then
          quoted? quote .none (w.add (Char.ofNat value)) (used + 1) rest
        else none
    | .none =>
      if isBlank c then quoted? quote .none (w.blank c) (used + 1) rest
      else if isBreak c then quoted? quote .none (w.line c) (used + 1) rest
      else if w.gap.column?.any (· == 0) && isDocumentMark (c :: rest) then none
      else if c == quote then
        if quote == '\'' && rest.head? == some '\'' then quoted? quote .quote w (used + 1) rest
        else some (w.settle, used + 1)
      else if quote == '"' && c == '\\' then quoted? quote .slash w (used + 1) rest
      else quoted? quote .none (w.add c) (used + 1) rest

/-! ### Block scalars -/

/-- What becomes of the breaks after the last line. -/
inductive Chomping where
  | strip
  | clip
  | keep
  deriving DecidableEq

structure BlockStyle where
  /-- A single break between lines that are not indented further counts as a space. -/
  folds : Bool
  chomping : Chomping := .clip
  /-- How far the lines are indented, where the header says so. -/
  indent : Option Nat := none

/-- The lines so far, latest first. -/
structure Block where
  indent : Option Nat
  text : List Char := []
  /-- The break that ended the last line, and those of empty lines after it. -/
  lineEnd : Option Char := none
  empties : List Char := []
  /-- Whether the last line begins with a blank. -/
  led : Bool := false
  /-- The column in the margin, or nothing inside a line. -/
  margin : Option Nat := some 0
  widest : Nat := 0

namespace Block

/-- Begins a line with its first character. -/
def beginLine (folds : Bool) (b : Block) (c : Char) : Block :=
  let ended :=
    if folds && b.lineEnd == some '\n' && !b.led && !isBlank c then
      if b.empties.isEmpty then [' '] else []
    else b.lineEnd.toList
  { b with
    text := c :: (b.empties ++ ended ++ b.text)
    lineEnd := none, empties := [], led := isBlank c, margin := none }

def value (chomping : Chomping) (b : Block) : String :=
  let ended := if chomping = .strip then [] else b.lineEnd.toList
  let empties := if chomping = .keep then b.empties else []
  String.ofList (empties ++ ended ++ b.text).reverse

end Block

/-- Reads the lines of a block scalar. Without a given indent the first line that is not empty sets
it, `least` at the least. -/
def lines? (folds : Bool) (least : Nat) (b : Block) (used : Nat) : List Char → Option (Block × Nat)
  | [] => some (b, used)
  | c :: rest =>
    match b.margin with
    | none =>
      let b := if isBreak c then { b with lineEnd := some c, margin := some 0 }
        else { b with text := c :: b.text }
      lines? folds least b (used + 1) rest
    | some column =>
      let inMargin := b.indent.all (column < ·)
      if inMargin && c == ' ' then
        lines? folds least { b with margin := some (column + 1) } (used + 1) rest
      else if inMargin && c == '\t' then none
      else
        let b := { b with widest := max b.widest column }
        if isBreak c then
          lines? folds least { b with empties := c :: b.empties, margin := some 0 } (used + 1) rest
        else
          let indent := b.indent.getD (max least b.widest)
          if column = indent then
            lines? folds least ({ b with indent := some indent }.beginLine folds c) (used + 1) rest
          else some (b, used)

/-- The style that the characters after `|` or `>` set, and how many they are. -/
def blockStyle? (folds : Bool) (outer : Option Nat) (text : List Char) : Option (BlockStyle × Nat) :=
  let header := text.takeWhile (!isBreak ·)
  let marks := header.takeWhile fun c => !isBlank c && c != '#'
  let comment := (header.drop marks.length).dropWhile isBlank
  if comment.head?.any (· != '#') then none
  else do
    let style (style : BlockStyle) : Char → Option BlockStyle
      | '+' => some { style with chomping := .keep }
      | '-' => some { style with chomping := .strip }
      | c =>
        if c.isDigit && c != '0' then
          some { style with indent := some (outer.getD 0 + (c.toNat - 0x30)) }
        else none
    let isChomping (c : Char) : Bool := c == '+' || c == '-'
    match marks with
    | [] => return ({ folds }, header.length)
    | [a] => return (← style { folds } a, header.length)
    | [a, b] =>
      if isChomping a == isChomping b then none
      else return (← style (← style { folds } a) b, header.length)
    | _ => none

/-- Reads a block scalar after its indicator, inside a block that starts in column `outer`. -/
def block? (folds : Bool) (outer : Option Nat) (text : List Char) : Option (String × Nat) := do
  let (style, header) ← blockStyle? folds outer text
  let least := max 1 (outer.elim 0 (· + 1))
  let used := min text.length (header + 1)
  let (b, used) ← lines? folds least { indent := style.indent } used (text.drop used)
  return (b.value style.chomping, used)

end WebhookRelay.Yaml
