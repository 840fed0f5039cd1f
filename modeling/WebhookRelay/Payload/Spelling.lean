import WebhookRelay.Payload.Scan
import WebhookRelay.Text.Utf8

/-!
The text that the spelling of a JSON string stands for.
-/

namespace WebhookRelay.Payload.Spelling

/-- The unit that four digits spell. -/
def hex (text : Spelling) : Except Fault Nat :=
  let digits := text.take 4
  if digits.length < 4 then .error .unfinishedText
  else
    match digits.foldlM (fun n b => (hexValue? b).map (16 * n + ·)) 0 with
    | some n => .ok n
    | none => .error .badEscape

def isLead (unit : Nat) : Bool := 0xD800 ≤ unit && unit < 0xDC00

def isTail (unit : Nat) : Bool := 0xDC00 ≤ unit && unit < 0xE000

def encoded (point : Nat) : Spelling := String.utf8EncodeChar (Char.ofNat point)

/-- The second half of a pair of surrogates, at the backslash that it has to start with. `closed`
says that the string ends where the text does. -/
def tailUnit (closed : Bool) : Spelling → Except Fault Nat
  | [] => .error (if closed then .brokenPair else .unfinishedText)
  | b :: text =>
    if !is '\\' b then .error .brokenPair
    else
      match text with
      | [] => .error .unfinishedText
      | b :: text => do
        if !is 'u' b then .error .brokenPair
        let unit ← hex text
        if isTail unit then return unit else .error .loneSurrogate

/-- What an escape without its backslash stands for, and how long it is. Characters beyond the
basic plane are spelled as a pair. -/
def escape (closed : Bool) : Spelling → Except Fault (Spelling × Nat)
  | [] => .error .unfinishedText
  | b :: text =>
    if is 'u' b then do
      let unit ← hex text
      if isTail unit then .error .loneSurrogate
      else if isLead unit then
        let second ← tailUnit closed (text.drop 4)
        return (encoded (0x10000 + (unit - 0xD800) * 0x400 + (second - 0xDC00)), 11)
      else return (encoded unit, 5)
    else if is '"' b || is '\\' b || is '/' b then .ok ([b], 1)
    else if is 'b' b then .ok ([0x08], 1)
    else if is 'f' b then .ok ([0x0C], 1)
    else if is 'n' b then .ok ([0x0A], 1)
    else if is 'r' b then .ok ([0x0D], 1)
    else if is 't' b then .ok ([0x09], 1)
    else .error .badEscape

/-- The bytes of the text, after those `done`, which stand latest first. -/
def unescape (closed : Bool) (done text : Spelling) : Except Fault Spelling :=
  match text with
  | [] => if closed then .ok done.reverse else .error .unfinishedText
  | b :: rest =>
    if is '\\' b then
      match escape closed rest with
      | .ok (bytes, size) => unescape closed (bytes.reverse ++ done) (rest.drop size)
      | .error fault => .error fault
    else if b < 0x20 then .error .controlCharacter
    else unescape closed (b :: done) rest
termination_by text.length
decreasing_by
  all_goals simp only [List.length_drop, List.length_cons]; omega

/-- The text of a whole string. -/
def decode (spelling : Spelling) : Except Fault String := do
  let bytes ← unescape true [] spelling
  match Text.Utf8.decode? bytes with
  | some text => return text
  | none => .error .notUnicode

/-- What a reader of the text finds wrong with a string that breaks off. -/
def brokenFault (spelling : Spelling) (syntaxFault : Fault) : Fault :=
  match unescape false [] spelling with
  | .error fault => fault
  | .ok _ => syntaxFault

end WebhookRelay.Payload.Spelling
