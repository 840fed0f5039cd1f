import WebhookRelay.Url.Address
import WebhookRelay.Url.Domain

/-!
The host of a URL: a name, or an address in numbers.
-/

namespace WebhookRelay.Url

/-- Why a text is no absolute URL. -/
inductive Fault where
  | noScheme
  | emptyHost
  | badPort
  | badIpv4
  | badIpv6
  | badDomain
  | badHostCharacter
  deriving DecidableEq, Repr

def Fault.message : Fault → String
  | noScheme => "relative URL without a base"
  | emptyHost => "empty host"
  | badPort => "invalid port number"
  | badIpv4 => "invalid IPv4 address"
  | badIpv6 => "invalid IPv6 address"
  | badDomain => "invalid international domain name"
  | badHostCharacter => "invalid domain character"

inductive Host where
  | name (text : String)
  | ipv4 (address : Nat)
  | ipv6 (groups : List Nat)
  deriving DecidableEq, Repr

namespace Host

def toText : Host → String
  | name text => text
  | ipv4 address => String.ofList (Ipv4.toText address)
  | ipv6 groups => String.ofList ('[' :: Ipv6.toText groups ++ [']'])

private def bracketed (text : List Char) : Except Fault Host :=
  match (Text.stripTail? [']'] text).bind Ipv6.parse? with
  | some groups => .ok (.ipv6 groups)
  | none => .error .badIpv6

/-- The host of a URL for the web: a domain name, unless it looks like an address. -/
def ofDomain : List Char → Except Fault Host
  | '[' :: text => bracketed text
  | text =>
    match Domain.toAscii? text with
    | none => .error .badDomain
    | some [] => .error .emptyHost
    | some domain =>
      if Ipv4.claims domain then
        match Ipv4.parse? domain with
        | some address => .ok (.ipv4 address)
        | none => .error .badIpv4
      else .ok (.name (String.ofList domain))

/-- Controls, and characters beyond ASCII wherever `Text.Percent.encode` is used. -/
def isControl (c : Char) : Bool := c.toNat < 0x20 || c == '\x7f'

/-- A host whose scheme has no rules for it, kept as it is written. -/
def verbatim : List Char → Except Fault Host
  | '[' :: text => bracketed text
  | text =>
    if text.any (· ∈ "\x00\t\n\x0d #/:<>?@[\\]^|".toList) then .error .badHostCharacter
    else .ok (.name (String.ofList (Text.Percent.encode isControl text)))

end Host

end WebhookRelay.Url
