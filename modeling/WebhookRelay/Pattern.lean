/-!
Patterns for names: regular expressions with assertions about what stands around a position. A
pattern is searched for anywhere in a text.
-/

namespace WebhookRelay

inductive Pattern where
  | empty
  | one (set : Char → Bool)
  /-- Matches no character. It holds or not by those before and after. -/
  | look (holds : (before after : Option Char) → Bool)
  | cat (first second : Pattern)
  | alt (first second : Pattern)
  /-- Repeated `low` times at least and, if there is a bound, `high` times at most. -/
  | times (body : Pattern) (low : Nat) (high : Option Nat)

namespace Pattern

/-- Adds to `ends` what `step` reaches from the `fresh` ones, `rounds` times at most. -/
def reach (step : List Nat → List Nat) : (rounds : Nat) → (ends fresh : List Nat) → List Nat
  | 0, ends, _ => ends
  | rounds + 1, ends, fresh =>
    match ((step fresh).filter (!ends.contains ·)).eraseDups with
    | [] => ends
    | found => reach step rounds (ends ++ found) found

/-- The positions where a match can end that starts at one of the given ones. -/
def ends (text : Array Char) : Pattern → List Nat → List Nat
  | empty, starts => starts
  | one set, starts =>
    (starts.filter fun i => (text[i]?.map set).getD false).map (· + 1)
  | look holds, starts =>
    starts.filter fun i => holds (if i = 0 then none else text[i - 1]?) text[i]?
  | cat first second, starts => ends text second (ends text first starts)
  | alt first second, starts => (ends text first starts ++ ends text second starts).eraseDups
  | times body low high, starts =>
    let least := Nat.repeat (ends text body) low starts
    let rounds := (high.map (· - low)).getD (text.size + 1)
    reach (ends text body) rounds least least

/-- Whether the pattern matches somewhere in the text. -/
def occursIn (p : Pattern) (text : String) : Bool :=
  let text := text.toList.toArray
  !(p.ends text (List.range (text.size + 1))).isEmpty

/-- How many characters and assertions the pattern has with its repetitions written out. -/
def size : Pattern → Nat
  | empty => 0
  | one _ => 1
  | look _ => 1
  | cat first second => first.size + second.size
  | alt first second => first.size + second.size
  | times body low high => body.size * max 1 (high.getD low)

end Pattern

end WebhookRelay
