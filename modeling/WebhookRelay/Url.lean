import WebhookRelay.Url.Path

/-!
Absolute URLs in the form that web clients give them, and their text.
-/

namespace WebhookRelay

namespace Url

structure Authority where
  user : String := ""
  password : String := ""
  host : Host
  port : Option Nat := none
  deriving DecidableEq, Repr

end Url

structure Url where
  scheme : String
  authority : Option Url.Authority
  path : Url.Path
  query : Option String := none
  fragment : Option String := none
  deriving DecidableEq, Repr

namespace Url

def Authority.toText (a : Authority) : String :=
  let secret := if a.password.isEmpty then "" else ":" ++ a.password
  let who := a.user ++ secret
  (if who.isEmpty then "" else who ++ "@") ++ a.host.toText ++
    (a.port.map fun port => ":" ++ toString port).getD ""

/-- Two slashes at the start of a path would read as an authority, so a dot stands before them. -/
def pathText (u : Url) : String :=
  match u.authority, u.path with
  | none, .segments ("" :: rest@(_ :: _)) => "/." ++ (Path.segments ("" :: rest)).toText
  | _, path => path.toText

def toText (u : Url) : String :=
  u.scheme ++ ":" ++ (u.authority.map fun a => "//" ++ a.toText).getD "" ++ u.pathText ++
    (u.query.map ("?" ++ ·)).getD "" ++ (u.fragment.map ("#" ++ ·)).getD ""

/-- The host as it is written, empty without one. -/
def hostText (u : Url) : String := (u.authority.map (·.host.toText)).getD ""

end Url

end WebhookRelay
