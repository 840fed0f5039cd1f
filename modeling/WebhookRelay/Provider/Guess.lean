import WebhookRelay.Provider
import WebhookRelay.Url.Reading

/-!
The provider behind the URL of a repository, which its host alone decides.
-/

namespace WebhookRelay.Provider

/-- Why a URL tells no provider. -/
inductive GuessError where
  | badUrl (fault : Url.Fault)
  | unknownHost (host : String)
  deriving DecidableEq, Repr

def unknownMessage (name : String) : String := "unsupported driver `" ++ name ++ "`"

def GuessError.message : GuessError → String
  | badUrl fault => "invalid repository url: " ++ fault.message
  | unknownHost host => unknownMessage host

/-- The provider behind the host of a URL. -/
def ofUrl (text : String) : Except GuessError Provider :=
  match Url.parse text with
  | .error fault => .error (.badUrl fault)
  | .ok url => (ofHost url.hostText).mapError .unknownHost

end WebhookRelay.Provider
