import Mathlib.Logic.Relation
import WebhookRelay.Proofs.Payload.Grammar
import WebhookRelay.Proofs.Payload.Members

/-!
Ways to rewrite a payload that say nothing: blanks, escapes, the order of members, members that are
no fields, and null for a field that may be left out. A reader cannot tell the texts apart, whether
it gets a value from them or not.
-/

namespace WebhookRelay.Payload

/-- Whether two spellings stand for the same text, or both for none. -/
def Spelling.Same (a b : Spelling) : Prop := a.decode.toOption = b.decode.toOption

/-- Where an item is read if a record is written as a list. -/
def Fields.itemSite? {γ α : Type} : Fields γ α → Nat → Option Site
  | .done, _ => none
  | .required _ shape _, 0 => some ⟨shape⟩
  | .required _ _ rest, index + 1 => rest.itemSite? index
  | .optional _ shape _, 0 => some ⟨shape⟩
  | .optional _ _ rest, index + 1 => rest.itemSite? index
  | .defaulted _ _ shape _, 0 => some ⟨shape⟩
  | .defaulted _ _ _ rest, index + 1 => rest.itemSite? index

namespace Site

/-- Where the member of a name is read, if an object stands at a site. -/
def member? : Site → String → Option Site
  | ⟨.record _ _ fields⟩, name => fields.site? name
  | _, _ => none

/-- Where an item is read, if a list stands at a site. -/
def item? : Site → Nat → Option Site
  | ⟨.list item⟩, _ => some ⟨item⟩
  | ⟨.record _ _ fields⟩, index => fields.itemSite? index
  | _, _ => none

def MayBeNull : Site → String → Prop
  | ⟨.record _ _ fields⟩, name => fields.MayBeNull name
  | _, _ => False

end Site

/-- Where a member is read, if its object is read at all and its key is a text. -/
def memberSite? (site : Option Site) (key : Spelling) : Option Site :=
  site.bind fun site => key.decode.toOption.bind site.member?

def itemSite? (site : Option Site) (index : Nat) : Option Site := site.bind (·.item? index)

/-- One edit of a node that is read at a site, or is skipped. The spelling of a number and the
order of a list stay as they are. -/
inductive Edit : Option Site → Node → Node → Prop
  | same {site : Option Site} {node : Node} : Edit site node node
  | respell {site : Option Site} {a b : Spelling} (h : a.Same b) : Edit site (.text a) (.text b)
  | rename {site : Option Site} {before after : List (Spelling × Node)} {a b : Spelling}
      {node : Node} (h : a.Same b) :
      Edit site (.object (before ++ (a, node) :: after) .closed)
        (.object (before ++ (b, node) :: after) .closed)
  | reorder {site : Option Site} {members others : List (Spelling × Node)}
      (h : members.Perm others) : Edit site (.object members .closed) (.object others .closed)
  | insert {site : Option Site} {before after : List (Spelling × Node)} {key text : Spelling}
      {node : Node} (hs : ∀ s ∈ site, ∃ name, key.decode = .ok name ∧ s.member? name = none)
      (hn : Writes (.value node) text) :
      Edit site (.object (before ++ after) .closed)
        (.object (before ++ (key, node) :: after) .closed)
  | insertNull {site : Site} {before after : List (Spelling × Node)} {key : Spelling}
      {name : String} (hk : key.decode = .ok name) (ho : site.MayBeNull name)
      (hm : ∀ member ∈ before ++ after, isUnder name member = false) :
      Edit (some site) (.object (before ++ after) .closed)
        (.object (before ++ (key, .null) :: after) .closed)
  | member {site : Option Site} {before after : List (Spelling × Node)} {key : Spelling}
      {a b : Node} (h : Edit (memberSite? site key) a b) :
      Edit site (.object (before ++ (key, a) :: after) .closed)
        (.object (before ++ (key, b) :: after) .closed)
  | item {site : Option Site} {before after : List Node} {a b : Node}
      (h : Edit (itemSite? site before.length) a b) :
      Edit site (.list (before ++ a :: after) .closed) (.list (before ++ b :: after) .closed)

/-- Whether both texts are well formed, and one edit is between them but for blanks. An object may
repeat a name, which does not change what the edit says. -/
def Rewrites (site : Option Site) (s t : Spelling) : Prop :=
  ∃ a b, Writes (.spaced a) s ∧ Writes (.spaced b) t ∧ Edit site a b

/-- Of a string a reader gets at most what the text that it stands for tells. -/
theorem exists_toOption_read_text {α : Type} (shape : Shape α) :
    ∃ f : String → Option α, ∀ spelling,
      (shape.read (.text spelling)).toOption = spelling.decode.toOption.bind f := by
  cases shape with
  | text =>
    refine ⟨some, fun spelling => ?_⟩
    simp only [Shape.read, Node.found]
    cases spelling.decode <;> rfl
  | time =>
    refine ⟨fun s => ((Timestamp.parse s).mapError Fault.badTime).toOption, fun spelling => ?_⟩
    simp only [Shape.read, Node.found]
    cases spelling.decode <;> rfl
  | link =>
    refine ⟨fun s => ((Url.parse s).mapError (Fault.badLink · s)).toOption, fun spelling => ?_⟩
    simp only [Shape.read, Node.found]
    cases spelling.decode <;> rfl
  | natural bits =>
    refine ⟨fun _ => none, fun spelling => ?_⟩
    simp only [Shape.read, Node.found, boundedBy]
    cases spelling.decode <;> rfl
  | integer bits =>
    refine ⟨fun _ => none, fun spelling => ?_⟩
    simp only [Shape.read, Node.found, boundedBy]
    cases spelling.decode <;> rfl
  | _ =>
    refine ⟨fun _ => none, fun spelling => ?_⟩
    cases spelling.decode <;> rfl

theorem alike_text {site : Option Site} {a b : Spelling} (h : a.Same b) :
    Alike site (.text a) (.text b) where
  fault_eq := rfl
  null_iff := by constructor <;> exact nofun
  read_eq := by
    rintro ⟨shape⟩ -
    obtain ⟨f, hf⟩ := exists_toOption_read_text shape
    rw [hf, hf, h]

theorem alike_object {site : Option Site} {members others : List (Spelling × Node)}
    (h : ∀ {α γ : Type} {record : String} {make : γ} {fields : Fields γ α},
      site = some ⟨.record record make fields⟩ →
      fields.made? make members = fields.made? make others) :
    Alike site (.object members .closed) (.object others .closed) where
  fault_eq := rfl
  null_iff := by constructor <;> exact nofun
  read_eq := by
    rintro ⟨shape⟩ hs
    cases shape with
    | record record make fields =>
      rw [Fields.toOption_read_object, Fields.toOption_read_object]
      exact h hs
    | _ => rfl

theorem toOption_mapM_congr {ε α β : Type} {f : α → Except ε β} {a b : α}
    (h : (f a).toOption = (f b).toOption) (before after : List α) :
    ((before ++ a :: after).mapM f).toOption = ((before ++ b :: after).mapM f).toOption := by
  simp only [List.mapM_append, List.mapM_cons, toOption_bind, h]

section Items

variable {α β γ : Type} {record name : String} {size index : Nat} {shape : Shape β}
  {rest : Fields γ α}

theorem toOption_readItems_required {make : β → γ} (node : Node) (items : List Node) :
    ((Fields.required name shape rest).readItems record size index (node :: items) .closed
      make).toOption = (shape.read node).toOption.bind fun value =>
        (rest.readItems record size (index + 1) items .closed (make value)).toOption := by
  rw [Fields.readItems]
  show (shape.read node >>= fun value =>
    rest.readItems record size (index + 1) items .closed (make value)).toOption = _
  exact toOption_bind _ _

theorem toOption_readItems_optional {make : Option β → γ} (node : Node) (items : List Node) :
    ((Fields.optional name shape rest).readItems record size index (node :: items) .closed
      make).toOption = (orNull shape.read node).toOption.bind fun value =>
        (rest.readItems record size (index + 1) items .closed (make value)).toOption := by
  rw [Fields.readItems]
  show (orNull shape.read node >>= fun value =>
    rest.readItems record size (index + 1) items .closed (make value)).toOption = _
  exact toOption_bind _ _

theorem toOption_readItems_defaulted {value : β} {make : β → γ} (node : Node)
    (items : List Node) :
    ((Fields.defaulted name value shape rest).readItems record size index (node :: items) .closed
      make).toOption = (shape.read node).toOption.bind fun value =>
        (rest.readItems record size (index + 1) items .closed (make value)).toOption := by
  rw [Fields.readItems]
  show (shape.read node >>= fun value =>
    rest.readItems record size (index + 1) items .closed (make value)).toOption = _
  exact toOption_bind _ _

end Items

theorem toOption_readItems_congr {γ α : Type} {record : String} {size : Nat} {after : List Node}
    {a b : Node} : (fields : Fields γ α) → {index : Nat} → {make : γ} → (before : List Node) →
    Alike (fields.itemSite? before.length) a b →
    (fields.readItems record size index (before ++ a :: after) .closed make).toOption =
      (fields.readItems record size index (before ++ b :: after) .closed make).toOption
  | .done, _, _, before, _ => by
    cases before <;> rfl
  | .required _ shape rest, index, make, before, h => by
    cases before with
    | nil =>
      have hr := h.read_eq ⟨shape⟩ rfl
      rw [List.nil_append, List.nil_append, toOption_readItems_required,
        toOption_readItems_required, hr]
    | cons node before =>
      rw [List.cons_append, List.cons_append, toOption_readItems_required,
        toOption_readItems_required]
      exact congrArg _ (funext fun _ => toOption_readItems_congr rest before h)
  | .optional _ shape rest, index, make, before, h => by
    cases before with
    | nil =>
      have hr := toOption_orNull h.null_iff (h.read_eq ⟨shape⟩ rfl)
      rw [List.nil_append, List.nil_append, toOption_readItems_optional,
        toOption_readItems_optional, hr]
    | cons node before =>
      rw [List.cons_append, List.cons_append, toOption_readItems_optional,
        toOption_readItems_optional]
      exact congrArg _ (funext fun _ => toOption_readItems_congr rest before h)
  | .defaulted _ _ shape rest, index, make, before, h => by
    cases before with
    | nil =>
      have hr := h.read_eq ⟨shape⟩ rfl
      rw [List.nil_append, List.nil_append, toOption_readItems_defaulted,
        toOption_readItems_defaulted, hr]
    | cons node before =>
      rw [List.cons_append, List.cons_append, toOption_readItems_defaulted,
        toOption_readItems_defaulted]
      exact congrArg _ (funext fun _ => toOption_readItems_congr rest before h)

theorem alike_list {site : Option Site} {before after : List Node} {a b : Node}
    (h : Alike (itemSite? site before.length) a b) :
    Alike site (.list (before ++ a :: after) .closed) (.list (before ++ b :: after) .closed) where
  fault_eq := rfl
  null_iff := by constructor <;> exact nofun
  read_eq := by
    rintro ⟨shape⟩ rfl
    cases shape with
    | list item =>
      have hi := toOption_mapM_congr (h.read_eq ⟨item⟩ rfl) before after
      simp only [Shape.read, ListEnd.fault?, toOption_bind, hi]
    | record record make fields => exact toOption_readItems_congr fields before h
    | _ => rfl

theorem syntaxFault?_of_writes {node : Node} {text : Spelling} (h : Writes (.value node) text) :
    node.syntaxFault? = none := by
  cases h <;> rfl

/-- No reader can tell an edited node from the one before. -/
theorem alike_of_edit {site : Option Site} {a b : Node} (h : Edit site a b) : Alike site a b := by
  -- The induction goes down to where the edit is, and the site goes along.
  induction h with
  | same => exact .refl _ _
  | respell h => exact alike_text h
  | rename h => exact alike_object fun _ => Fields.made?_congr h fun _ _ => .refl _ _
  | reorder h => exact alike_object fun _ => Fields.made?_perm h
  | insert hs hn =>
    refine alike_object fun h => ?_
    obtain ⟨name, hk, hm⟩ := hs _ h
    exact (Fields.made?_skip hk hm (syntaxFault?_of_writes hn)).symm
  | insertNull hk ho hm =>
    refine alike_object fun h => ?_
    cases h
    exact (Fields.made?_null hk ho hm).symm
  | member _ ih =>
    refine alike_object fun h => Fields.made?_congr rfl fun name hk => ?_
    rw [h, memberSite?, hk] at ih
    exact ih
  | item _ ih => exact alike_list ih

section Parse

variable {α : Type} {shape : Shape α} {s t : Spelling}

theorem parse_of_writes {node : Node} (h : Writes (.spaced node) s) :
    shape.parse s = shape.read node := by
  obtain ⟨blanks, hs, hb⟩ := scan_of_writes h
  simp only [Shape.parse, hs, hb, if_true, bind_pure]

theorem toOption_parse_of_rewrites (h : Relation.EqvGen (Rewrites (some ⟨shape⟩)) s t) :
    (shape.parse s).toOption = (shape.parse t).toOption := by
  induction h with
  | rel s t h =>
    obtain ⟨a, b, ha, hb, he⟩ := h
    rw [parse_of_writes ha, parse_of_writes hb]
    exact (alike_of_edit he).read_eq _ rfl
  | refl s => rfl
  | symm s t _ ih => exact ih.symm
  | trans s t u _ _ ih ih' => exact ih.trans ih'

end Parse

end WebhookRelay.Payload
