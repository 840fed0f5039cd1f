import WebhookRelay.Payload.Fault

/-!
A JSON text as it is written: the spelling of numbers and strings and the order and repetition of
members are kept, and a text that breaks off is a node too, down to where it breaks. So the parts
of a text can be judged in their order, whatever comes later.
-/

namespace WebhookRelay.Payload

/-- Bytes of a text as they are written. -/
abbrev Spelling := List UInt8

/-- How a list ends. -/
inductive ListEnd where
  | closed
  /-- A comma stands before the bracket. -/
  | comma
  /-- Neither a comma nor the bracket follows an item. -/
  | noMark
  | cut
  | cutAfterComma
  /-- The last item breaks off. The fault is what is wrong with it if only its syntax counts. -/
  | inItem (fault : Fault)
  deriving Repr

/-- How an object ends. -/
inductive ObjectEnd where
  | closed
  | comma
  | noMark
  | cut
  | cutAfterComma
  | keyNotText
  /-- A key breaks off. -/
  | inKey (key : Spelling) (fault : Fault)
  | noColon (key : Spelling)
  | cutAfterKey (key : Spelling)
  | inMember (fault : Fault)
  deriving Repr

inductive Node where
  | null
  | flag (b : Bool)
  | number (spelling : Spelling)
  /-- What stands between the quotes. -/
  | text (spelling : Spelling)
  | list (items : List Node) (close : ListEnd)
  | object (members : List (Spelling × Node)) (close : ObjectEnd)
  /-- A string that breaks off, up to the byte where it does. -/
  | brokenText (spelling : Spelling) (fault : Fault)
  /-- No value. The first fault is for a reader of values, the second if only syntax counts. -/
  | broken (fault syntaxFault : Fault)
  deriving Repr

namespace ListEnd

/-- What a reader of items finds after the last one. -/
def fault? : ListEnd → Option Fault
  | closed => none
  | comma => some .trailingComma
  | noMark => some .noListMark
  | cut => some .unfinishedList
  | cutAfterComma => some .unfinishedValue
  | inItem fault => some fault

def syntaxFault? : ListEnd → Option Fault
  | comma => some .noValue
  | close => close.fault?

/-- What a reader finds who wants no more items. -/
def surplus? : ListEnd → Option Fault
  | noMark => some .trailingText
  | cutAfterComma => some .trailingText
  | close => close.fault?

end ListEnd

namespace ObjectEnd

/-- The key that no value follows. -/
def key? : ObjectEnd → Option Spelling
  | inKey key _ => some key
  | noColon key => some key
  | cutAfterKey key => some key
  | _ => none

def fault? : ObjectEnd → Option Fault
  | closed => none
  | comma => some .trailingComma
  | noMark => some .noObjectMark
  | cut => some .unfinishedObject
  | cutAfterComma => some .unfinishedValue
  | keyNotText => some .keyNotText
  | inKey _ fault => some fault
  | noColon _ => some .noColon
  | cutAfterKey _ => some .unfinishedObject
  | inMember fault => some fault

def syntaxFault? : ObjectEnd → Option Fault
  | comma => some .keyNotText
  | cutAfterComma => some .unfinishedObject
  | close => close.fault?

end ObjectEnd

/-- What is wrong with a node of which only the syntax counts. -/
def Node.syntaxFault? : Node → Option Fault
  | .list _ close => close.syntaxFault?
  | .object _ close => close.syntaxFault?
  | .brokenText _ fault => some fault
  | .broken _ fault => some fault
  | _ => none

end WebhookRelay.Payload
