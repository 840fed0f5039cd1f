import WebhookRelay.Text.Percent
import WebhookRelay.Url.Host

/-!
The path of a URL: segments in which `.` and `..` are already worked out, or one text that the
scheme alone can read.
-/

namespace WebhookRelay.Url

inductive Path where
  | whole (text : String)
  | segments (items : List String)
  deriving DecidableEq, Repr

namespace Path

def isReserved (c : Char) : Bool := Host.isControl c || c ∈ " \"<>`#?\x7b\x7d".toList

/-- A dot of a segment may be spelled `%2e`. -/
def isHere (segment : List Char) : Bool :=
  [".".toList, "%2e".toList].contains (segment.map Char.toLower)

def isParent (segment : List Char) : Bool :=
  ["..".toList, ".%2e".toList, "%2e.".toList, "%2e%2e".toList].contains
    (segment.map Char.toLower)

/-- A letter and a colon, or a bar for it. -/
def isDrive : List Char → Bool
  | [letter, mark] => letter.isAlpha && (mark == ':' || mark == '|')
  | _ => false

/-- Gives up the last of the `done` segments, latest first. A file path keeps its drive. -/
def parent (file : Bool) : List (List Char) → List (List Char)
  | [] => []
  | [segment] => if file && isDrive segment then [segment] else []
  | _ :: done => done

/-- Works out the segments in turn onto those `done`, latest first. A path that ends in a dot
segment ends in a slash. -/
def resolve (file : Bool) (done : List (List Char)) : List (List Char) → List (List Char)
  | [] => done
  | segment :: rest =>
    let close (done : List (List Char)) := if rest.isEmpty then [] :: done else done
    if isParent segment then resolve file (close (parent file done)) rest
    else if isHere segment then resolve file (close done) rest
    else if file && done.isEmpty && isDrive segment then
      resolve file ((segment.take 1 ++ [':']) :: done) rest
    else resolve file (segment :: done) rest

/-- A file path has no empty segments in front. -/
def dropEmpty : List (List Char) → List (List Char)
  | [] :: segment :: rest => dropEmpty (segment :: rest)
  | pieces => pieces

/-- The segments of a path that is written without its first slash. -/
def ofText (file : Bool) (text : List Char) : Path :=
  let pieces := (text.splitOn '/').map (Text.Percent.encode isReserved)
  let resolved := (resolve file [] pieces).reverse
  .segments ((if file then dropEmpty resolved else resolved).map String.ofList)

def hasDrive : Path → Bool
  | segments (first :: _) => isDrive first.toList
  | _ => false

def toText : Path → String
  | whole text => text
  | segments items => String.join (items.map ("/" ++ ·))

end Path

end WebhookRelay.Url
