import WebhookRelay.Proofs.Payload.Rewriting

/-!
Exchanging one part of a payload for another. If the part is that of one field, the payload can
still be read wherever the field takes the new part, and what is read differs in that field alone.
-/

namespace WebhookRelay.Payload

section Values

variable {β : Type} (shape : Shape β)

/-- What a field that has to be there is, by the part that it is read from. -/
def Shape.required? (part : Option Node) : Option β :=
  part.bind fun node => (shape.read node).toOption

/-- What a field that may be absent or null is. -/
def Shape.optional? : Option Node → Option (Option β)
  | none => some none
  | some node => (orNull shape.read node).toOption

/-- What a field that may be absent, but not null, is. -/
def Shape.defaulted? (value : β) : Option Node → Option β
  | none => some value
  | some node => (shape.read node).toOption

end Values

namespace Fields

/-- The place of a field in its record. -/
def index? {γ α : Type} : Fields γ α → String → Option Nat
  | .done, _ => none
  | .required name _ rest, key => if name = key then some 0 else (rest.index? key).map (· + 1)
  | .optional name _ rest, key => if name = key then some 0 else (rest.index? key).map (· + 1)
  | .defaulted name _ _ rest, key => if name = key then some 0 else (rest.index? key).map (· + 1)

/-- Whether a field takes a part. What is read by no field has to be well formed. -/
def Accepts {γ α : Type} : Fields γ α → (name : String) → (part : Option Node) → Prop
  | .done, _, part => ∀ node ∈ part, node.syntaxFault? = none
  | .required field shape rest, name, part =>
    if field = name then ∃ x, shape.required? part = some x else rest.Accepts name part
  | .optional field shape rest, name, part =>
    if field = name then ∃ x, shape.optional? part = some x else rest.Accepts name part
  | .defaulted field value shape rest, name, part =>
    if field = name then ∃ x, shape.defaulted? value part = some x else rest.Accepts name part

/-- Whether two records are made of the same values. -/
def Same {γ α : Type} : Fields γ α → (make other : γ) → (v w : α) → Prop
  | .done, make, other, v, w => v = make ∧ w = other
  | .required _ _ rest, make, other, v, w => ∃ x, rest.Same (make x) (other x) v w
  | .optional _ _ rest, make, other, v, w => ∃ x, rest.Same (make x) (other x) v w
  | .defaulted _ _ _ rest, make, other, v, w => ∃ x, rest.Same (make x) (other x) v w

/-- Whether two records are made of the same values but for one field, which the first has from
`a` and the second from `b`. -/
def Differ {γ α : Type} (name : String) (a b : Option Node) :
    Fields γ α → (make other : γ) → (v w : α) → Prop
  | .done, make, other, v, w => v = make ∧ w = other
  | .required field shape rest, make, other, v, w =>
    if field = name then
      ∃ x y, shape.required? a = some x ∧ shape.required? b = some y ∧
        rest.Same (make x) (other y) v w
    else ∃ x, rest.Differ name a b (make x) (other x) v w
  | .optional field shape rest, make, other, v, w =>
    if field = name then
      ∃ x y, shape.optional? a = some x ∧ shape.optional? b = some y ∧
        rest.Same (make x) (other y) v w
    else ∃ x, rest.Differ name a b (make x) (other x) v w
  | .defaulted field value shape rest, make, other, v, w =>
    if field = name then
      ∃ x y, shape.defaulted? value a = some x ∧ shape.defaulted? value b = some y ∧
        rest.Same (make x) (other y) v w
    else ∃ x, rest.Differ name a b (make x) (other x) v w

section Kept

variable {α β : Type} {o a b : Option β} {f g : β → Option α} {v : α}

/-- What is read first is kept, and the rest differs as it may after that. -/
theorem exists_bind_kept {R : β → α → α → Prop}
    (hf : ∀ x, f x = some v → ∃ w, g x = some w ∧ R x v w) (h : o.bind f = some v) :
    ∃ w, o.bind g = some w ∧ ∃ x, R x v w := by
  obtain ⟨x, rfl, h⟩ := Option.bind_eq_some_iff.1 h
  obtain ⟨w, hw, hr⟩ := hf x h
  exact ⟨w, hw, x, hr⟩

/-- What is read first is exchanged, and the rest is kept. -/
theorem exists_bind_exchanged {R : β → β → α → α → Prop}
    (ht : (∃ x, a = some x) → ∃ y, b = some y)
    (hf : ∀ x y, f x = some v → ∃ w, g y = some w ∧ R x y v w) (h : a.bind f = some v) :
    ∃ w, b.bind g = some w ∧ ∃ x y, a = some x ∧ b = some y ∧ R x y v w := by
  obtain ⟨x, rfl, h⟩ := Option.bind_eq_some_iff.1 h
  obtain ⟨y, rfl⟩ := ht ⟨x, rfl⟩
  obtain ⟨w, hw, hr⟩ := hf x y h
  exact ⟨w, hw, x, y, rfl, rfl, hr⟩

end Kept

section Placed

variable {α β σ : Type} {name key : String} {value : Option β} {rest : σ → Option σ}
  {slots : Option β × σ}

theorem placed?_bind_own (hs : slots.1 = none) (f : Option β × σ → Option α) :
    (placed? name name value rest slots).bind f =
      value.bind fun value => f (some value, slots.2) := by
  rw [placed?_own, hs]
  cases value <;> rfl

theorem placed?_bind_other (hn : name ≠ key) (f : Option β × σ → Option α) :
    (placed? name key value rest slots).bind f =
      (rest slots.2).bind fun others => f (slots.1, others) := by
  rw [placed?_other hn]
  cases rest slots.2 <;> rfl

end Placed

/-- The slots once one more part is read, if it is there. -/
def filled? {γ α : Type} (fields : Fields γ α) (name : String) (slots : fields.Slots) :
    Option Node → Option fields.Slots
  | none => some slots
  | some node => fields.stored? name node slots

/-- The record that the slots make with one more part. -/
def completed? {γ α : Type} (fields : Fields γ α) (name : String) (part : Option Node)
    (slots : fields.Slots) (make : γ) : Option α :=
  (fields.filled? name slots part).bind fun slots => (fields.build slots make).toOption

section Completed

variable {α β γ : Type} {name key : String} {shape : Shape β} {rest : Fields γ α}
  {part : Option Node}

theorem completed?_done {slots : (Fields.done (α := α)).Slots} {make v : α} :
    Fields.done.completed? name part slots make = some v ↔
      Fields.done.Accepts (γ := α) name part ∧ v = make := by
  cases part with
  | none => simp [completed?, filled?, Accepts, build, Except.toOption, eq_comm]
  | some node =>
    cases hn : node.syntaxFault? with
    | none =>
      simp [completed?, filled?, Accepts, hn, stored?, store, build, Except.toOption, eq_comm]
    | some fault => simp [completed?, filled?, Accepts, hn, stored?, store, Except.toOption]

theorem completed?_required_own {slots : (Fields.required name shape rest).Slots}
    (hs : slots.1 = none) (make : β → γ) :
    (Fields.required name shape rest).completed? name part slots make =
      (shape.required? part).bind fun x => (rest.build slots.2 (make x)).toOption := by
  obtain ⟨slot, slots⟩ := slots
  obtain rfl : slot = none := hs
  cases part with
  | none => rfl
  | some node =>
    simp only [completed?, filled?, stored?_required]
    exact placed?_bind_own rfl _

theorem completed?_required_other (hn : name ≠ key)
    (slots : (Fields.required name shape rest).Slots) (make : β → γ) :
    (Fields.required name shape rest).completed? key part slots make =
      slots.1.bind fun x => rest.completed? key part slots.2 (make x) := by
  obtain ⟨slot, slots⟩ := slots
  cases part with
  | none => cases slot <;> rfl
  | some node =>
    simp only [completed?, filled?, stored?_required]
    refine (placed?_bind_other hn _).trans ?_
    cases slot with
    | none => cases rest.stored? key node slots <;> rfl
    | some x => rfl

theorem completed?_optional_own {slots : (Fields.optional name shape rest).Slots}
    (hs : slots.1 = none) (make : Option β → γ) :
    (Fields.optional name shape rest).completed? name part slots make =
      (shape.optional? part).bind fun x => (rest.build slots.2 (make x)).toOption := by
  obtain ⟨slot, slots⟩ := slots
  obtain rfl : slot = none := hs
  cases part with
  | none => rfl
  | some node =>
    simp only [completed?, filled?, stored?_optional]
    exact placed?_bind_own rfl _

theorem completed?_optional_other (hn : name ≠ key)
    (slots : (Fields.optional name shape rest).Slots) (make : Option β → γ) :
    (Fields.optional name shape rest).completed? key part slots make =
      rest.completed? key part slots.2 (make (slots.1.getD none)) := by
  cases part with
  | none => rfl
  | some node =>
    simp only [completed?, filled?, stored?_optional]
    exact placed?_bind_other hn _

theorem completed?_defaulted_own {value : β}
    {slots : (Fields.defaulted name value shape rest).Slots} (hs : slots.1 = none)
    (make : β → γ) :
    (Fields.defaulted name value shape rest).completed? name part slots make =
      (shape.defaulted? value part).bind fun x => (rest.build slots.2 (make x)).toOption := by
  obtain ⟨slot, slots⟩ := slots
  obtain rfl : slot = none := hs
  cases part with
  | none => rfl
  | some node =>
    simp only [completed?, filled?, stored?_defaulted]
    exact placed?_bind_own rfl _

theorem completed?_defaulted_other {value : β} (hn : name ≠ key)
    (slots : (Fields.defaulted name value shape rest).Slots) (make : β → γ) :
    (Fields.defaulted name value shape rest).completed? key part slots make =
      rest.completed? key part slots.2 (make (slots.1.getD value)) := by
  cases part with
  | none => rfl
  | some node =>
    simp only [completed?, filled?, stored?_defaulted]
    exact placed?_bind_other hn _

end Completed

theorem toOption_build_required {α β γ : Type} {name : String} {shape : Shape β}
    {rest : Fields γ α} (slots : (Fields.required name shape rest).Slots) (make : β → γ) :
    ((Fields.required name shape rest).build slots make).toOption =
      slots.1.bind fun x => (rest.build slots.2 (make x)).toOption := by
  simp only [build]
  cases slots.1 <;> rfl

/-- The slots make a record of any kind if they make one. -/
theorem exists_build {γ α : Type} : (fields : Fields γ α) → {slots : fields.Slots} →
    {make other : γ} → {v : α} → (fields.build slots make).toOption = some v →
    ∃ w, (fields.build slots other).toOption = some w ∧ fields.Same make other v w
  | .done, _, _, other, _, h => ⟨other, rfl, (Option.some.inj h).symm, rfl⟩
  | .required _ _ rest, slots, _, _, _, h => by
    rw [toOption_build_required] at h ⊢
    exact exists_bind_kept (fun _ => exists_build rest) h
  | .optional _ _ rest, slots, _, _, _, h => by
    obtain ⟨w, hw, hs⟩ := exists_build rest h
    exact ⟨w, hw, slots.1.getD none, hs⟩
  | .defaulted _ value _ rest, slots, _, _, _, h => by
    obtain ⟨w, hw, hs⟩ := exists_build rest h
    exact ⟨w, hw, slots.1.getD value, hs⟩

/-- If the slots make a record with one part of a field, they make one with any other part that
the field takes. -/
theorem exists_completed {γ α : Type} {name : String} {a b : Option Node} :
    (fields : Fields γ α) → {slots : fields.Slots} → {make other : γ} → {v : α} →
    fields.holds slots name = false → (fields.Accepts name a → fields.Accepts name b) →
    fields.completed? name a slots make = some v →
    ∃ w, fields.completed? name b slots other = some w ∧ fields.Differ name a b make other v w
  | .done, slots, make, other, v, _, ht, h => by
    obtain ⟨ha, hm⟩ := completed?_done.1 h
    exact ⟨other, completed?_done.2 ⟨ht ha, rfl⟩, hm, rfl⟩
  | .required field shape rest, slots, _, _, _, hs, ht, h => by
    -- Up to the field what is read is kept, and after it the slots of the rest make any record.
    by_cases hn : field = name
    · subst hn
      simp only [holds, Accepts, Differ, if_true] at hs ht ⊢
      have hs : slots.1 = none := by simpa using hs
      rw [completed?_required_own hs] at h ⊢
      exact exists_bind_exchanged ht (fun _ _ => exists_build rest) h
    · simp only [holds, Accepts, Differ, if_neg hn] at hs ht ⊢
      rw [completed?_required_other hn] at h ⊢
      exact exists_bind_kept (fun _ => exists_completed rest hs ht) h
  | .optional field shape rest, slots, _, _, _, hs, ht, h => by
    by_cases hn : field = name
    · subst hn
      simp only [holds, Accepts, Differ, if_true] at hs ht ⊢
      have hs : slots.1 = none := by simpa using hs
      rw [completed?_optional_own hs] at h ⊢
      exact exists_bind_exchanged ht (fun _ _ => exists_build rest) h
    · simp only [holds, Accepts, Differ, if_neg hn] at hs ht ⊢
      rw [completed?_optional_other hn] at h ⊢
      obtain ⟨w, hw, hm⟩ := exists_completed rest hs ht h
      exact ⟨w, hw, slots.1.getD none, hm⟩
  | .defaulted field value shape rest, slots, _, _, _, hs, ht, h => by
    by_cases hn : field = name
    · subst hn
      simp only [holds, Accepts, Differ, if_true] at hs ht ⊢
      have hs : slots.1 = none := by simpa using hs
      rw [completed?_defaulted_own hs] at h ⊢
      exact exists_bind_exchanged ht (fun _ _ => exists_build rest) h
    · simp only [holds, Accepts, Differ, if_neg hn] at hs ht ⊢
      rw [completed?_defaulted_other hn] at h ⊢
      obtain ⟨w, hw, hm⟩ := exists_completed rest hs ht h
      exact ⟨w, hw, slots.1.getD value, hm⟩

section Object

variable {γ α : Type} {fields : Fields γ α} {name : String} {part : Option Node} {make : γ}
  {members others : List (Spelling × Node)}

/-- What an object makes, if one member at most is read into a field. -/
theorem made?_split
    (hm : (members.filter (isUnder name)).map Prod.snd = part.toList) :
    fields.made? make members =
      (fields.gathered? (members.filter fun member => !isUnder name member)).bind
        (fields.completed? name part · make) := by
  -- The order says nothing, so what is under the name may as well come last.
  have hp := List.filter_append_perm (fun member => !isUnder name member) members
  simp only [Bool.not_not] at hp
  rw [← made?_perm hp, made?, gathered?_append]
  cases part with
  | none =>
    rw [List.map_eq_nil_iff.1 hm]
    rfl
  | some node =>
    obtain ⟨⟨key, found⟩, hf, rfl⟩ := List.map_eq_singleton_iff.1 hm
    have hu : isUnder name (key, found) = true :=
      (List.mem_filter.1 (hf ▸ List.mem_singleton_self (key, found))).2
    rw [hf, List.foldl_cons, List.foldl_nil, taken?_of_ok (decode_of_isUnder hu), Option.bind_assoc]
    rfl

/-- If an object makes a record, it makes one with any other part that the field takes. -/
theorem exists_made {a b : Option Node} {other : γ} {v : α}
    (ha : (members.filter (isUnder name)).map Prod.snd = a.toList)
    (hb : (others.filter (isUnder name)).map Prod.snd = b.toList)
    (hp : (members.filter fun member => !isUnder name member).Perm
      (others.filter fun member => !isUnder name member))
    (ht : fields.Accepts name a → fields.Accepts name b) (h : fields.made? make members = some v) :
    ∃ w, fields.made? other others = some w ∧ fields.Differ name a b make other v w := by
  rw [made?_split ha] at h
  obtain ⟨slots, hs, h⟩ := Option.bind_eq_some_iff.1 h
  have hf : fields.holds slots name = false := by
    refine (holds_of_gathered? (fun member hm => ?_) hs).trans (holds_empty name fields)
    simpa using (List.mem_filter.1 hm).2
  obtain ⟨w, hw, hd⟩ : ∃ w, fields.completed? name b slots other = some w ∧ _ :=
    exists_completed fields hf ht h
  refine ⟨w, ?_, hd⟩
  rw [made?_split hb, ← gathered?_perm hp, hs]
  exact hw

end Object

section Items

theorem exists_eq_cons {α : Type} {o : Option Nat} {items : List α}
    (h : o.map (· + 1) = some items.length) :
    ∃ item others, items = item :: others ∧ o = some others.length := by
  obtain ⟨place, ho, hl⟩ := Option.map_eq_some_iff.1 h
  obtain ⟨item, others, rfl⟩ := List.exists_cons_of_length_eq_add_one hl.symm
  obtain rfl : place = others.length := Nat.succ.inj hl
  exact ⟨item, others, rfl, ho⟩

variable {name record : String} {size : Nat} {after : List Node} {a b : Node}

theorem exists_readItems {γ α : Type} : (fields : Fields γ α) → {index : Nat} →
    {make other : γ} → {v : α} → (items : List Node) →
    (fields.readItems record size index items .closed make).toOption = some v →
    ∃ w, (fields.readItems record size index items .closed other).toOption = some w ∧
      fields.Same make other v w
  | .done, _, _, other, _, [], h => ⟨other, rfl, (Option.some.inj h).symm, rfl⟩
  | .done, _, _, _, _, _ :: _, h => by cases h
  | .required _ _ _, _, _, _, _, [], h => by cases h
  | .required _ _ rest, _, _, _, _, node :: items, h => by
    rw [toOption_readItems_required] at h ⊢
    exact exists_bind_kept (fun _ => exists_readItems rest items) h
  | .optional _ _ _, _, _, _, _, [], h => by cases h
  | .optional _ _ rest, _, _, _, _, node :: items, h => by
    rw [toOption_readItems_optional] at h ⊢
    exact exists_bind_kept (fun _ => exists_readItems rest items) h
  | .defaulted _ value _ rest, _, _, _, _, [], h => by
    obtain ⟨w, hw, hs⟩ := exists_readItems rest [] h
    exact ⟨w, hw, value, hs⟩
  | .defaulted _ _ _ rest, _, _, _, _, node :: items, h => by
    rw [toOption_readItems_defaulted] at h ⊢
    exact exists_bind_kept (fun _ => exists_readItems rest items) h

/-- If a list makes a record, it makes one with any other item that the field takes. -/
theorem exists_readItems_exchanged {γ α : Type} : (fields : Fields γ α) → {index : Nat} →
    {make other : γ} → {v : α} → (before : List Node) → fields.index? name = some before.length →
    (fields.Accepts name (some a) → fields.Accepts name (some b)) →
    (fields.readItems record size index (before ++ a :: after) .closed make).toOption = some v →
    ∃ w, (fields.readItems record size index (before ++ b :: after) .closed other).toOption =
      some w ∧ fields.Differ name (some a) (some b) make other v w
  | .done, _, _, _, _, _, hi, _, _ => by cases hi
  | .required field _ rest, _, _, _, _, before, hi, ht, h => by
    by_cases hn : field = name
    · simp only [index?, Accepts, Differ, if_pos hn] at hi ht ⊢
      obtain rfl : before = [] := List.length_eq_zero_iff.1 (Option.some.inj hi).symm
      rw [List.nil_append, toOption_readItems_required] at h ⊢
      exact exists_bind_exchanged ht (fun _ _ => exists_readItems rest after) h
    · simp only [index?, Accepts, Differ, if_neg hn] at hi ht ⊢
      obtain ⟨node, before, rfl, hr⟩ := exists_eq_cons hi
      rw [List.cons_append, toOption_readItems_required] at h ⊢
      exact exists_bind_kept (fun _ => exists_readItems_exchanged rest before hr ht) h
  | .optional field _ rest, _, _, _, _, before, hi, ht, h => by
    by_cases hn : field = name
    · simp only [index?, Accepts, Differ, if_pos hn] at hi ht ⊢
      obtain rfl : before = [] := List.length_eq_zero_iff.1 (Option.some.inj hi).symm
      rw [List.nil_append, toOption_readItems_optional] at h ⊢
      exact exists_bind_exchanged ht (fun _ _ => exists_readItems rest after) h
    · simp only [index?, Accepts, Differ, if_neg hn] at hi ht ⊢
      obtain ⟨node, before, rfl, hr⟩ := exists_eq_cons hi
      rw [List.cons_append, toOption_readItems_optional] at h ⊢
      exact exists_bind_kept (fun _ => exists_readItems_exchanged rest before hr ht) h
  | .defaulted field _ _ rest, _, _, _, _, before, hi, ht, h => by
    by_cases hn : field = name
    · simp only [index?, Accepts, Differ, if_pos hn] at hi ht ⊢
      obtain rfl : before = [] := List.length_eq_zero_iff.1 (Option.some.inj hi).symm
      rw [List.nil_append, toOption_readItems_defaulted] at h ⊢
      exact exists_bind_exchanged ht (fun _ _ => exists_readItems rest after) h
    · simp only [index?, Accepts, Differ, if_neg hn] at hi ht ⊢
      obtain ⟨node, before, rfl, hr⟩ := exists_eq_cons hi
      rw [List.cons_append, toOption_readItems_defaulted] at h ⊢
      exact exists_bind_kept (fun _ => exists_readItems_exchanged rest before hr ht) h

end Items

end Fields

def Site.index? : Site → String → Option Nat
  | ⟨.record _ _ fields⟩, name => fields.index? name
  | _, _ => none

/-- Whether nodes that are read at a site are equal but for what they have under one name, which
is `part` in the first and `other` in the second. The order of members says nothing. -/
inductive Exchanged (site : Site) (name : String) (part other : Option Node) : Node → Node → Prop
  | object {members others : List (Spelling × Node)}
      (hm : (members.filter (isUnder name)).map Prod.snd = part.toList)
      (ho : (others.filter (isUnder name)).map Prod.snd = other.toList)
      (hp : (members.filter fun member => !isUnder name member).Perm
        (others.filter fun member => !isUnder name member)) :
      Exchanged site name part other (.object members .closed) (.object others .closed)
  | list {before after : List Node} {a b : Node} (hi : site.index? name = some before.length)
      (ha : part = some a) (hb : other = some b) :
      Exchanged site name part other (.list (before ++ a :: after) .closed)
        (.list (before ++ b :: after) .closed)

/-- Whether nodes are equal but for what they have at the end of a path of names. -/
inductive ExchangedAt : Site → List String → Option Node → Option Node → Node → Node → Prop
  | here {site : Site} {name : String} {part other : Option Node} {a b : Node}
      (h : Exchanged site name part other a b) : ExchangedAt site [name] part other a b
  | within {site inner : Site} {name : String} {path : List String} {part other : Option Node}
      {a b c d : Node} (hs : site.member? name = some inner)
      (h : ExchangedAt inner path part other c d) (ho : Exchanged site name (some c) (some d) a b) :
      ExchangedAt site (name :: path) part other a b

section Members

variable {site : Site} {name : String} {before after : List (Spelling × Node)} {key : Spelling}
  {a b : Node}

theorem filter_isUnder_eq_nil {members : List (Spelling × Node)}
    (hm : ∀ member ∈ members, isUnder name member = false) :
    members.filter (isUnder name) = [] :=
  List.filter_eq_nil_iff.2 fun member hi => by simp [hm member hi]

theorem exchanged_member (hk : key.decode = .ok name)
    (hm : ∀ member ∈ before ++ after, isUnder name member = false) :
    Exchanged site name (some a) (some b) (.object (before ++ (key, a) :: after) .closed)
      (.object (before ++ (key, b) :: after) .closed) := by
  have hu (node : Node) : isUnder name (key, node) = true := by simp [isUnder, hk]
  have hb := fun member hi => hm member (List.mem_append_left _ hi)
  have ha := fun member hi => hm member (List.mem_append_right _ hi)
  refine .object ?_ ?_ (.of_eq ?_) <;>
    simp [hu, filter_isUnder_eq_nil hb, filter_isUnder_eq_nil ha]

theorem exchanged_absent (hk : key.decode = .ok name)
    (hm : ∀ member ∈ before ++ after, isUnder name member = false) :
    Exchanged site name none (some b) (.object (before ++ after) .closed)
      (.object (before ++ (key, b) :: after) .closed) := by
  have hu : isUnder name (key, b) = true := by simp [isUnder, hk]
  have hb := fun member hi => hm member (List.mem_append_left _ hi)
  have ha := fun member hi => hm member (List.mem_append_right _ hi)
  refine .object ?_ ?_ (.of_eq ?_) <;>
    simp [hu, filter_isUnder_eq_nil hb, filter_isUnder_eq_nil ha]

end Members

section Record

variable {γ α : Type} {record name : String} {make : γ} {fields : Fields γ α}
  {part other : Option Node} {a b : Node} {v : α}

/-- If a node is read as a record, it is with any other part that the field takes, and the records
differ in that field alone. -/
theorem exists_read_exchanged
    (h : Exchanged ⟨.record record make fields⟩ name part other a b)
    (ht : fields.Accepts name part → fields.Accepts name other)
    (ha : (Shape.record record make fields).read a = .ok v) :
    ∃ w, (Shape.record record make fields).read b = .ok w ∧
      fields.Differ name part other make make v w := by
  cases h with
  | object hm ho hp =>
    rw [← toOption_eq_some_iff, Fields.toOption_read_object] at ha
    obtain ⟨w, hw, hd⟩ : ∃ w, fields.made? make _ = some w ∧ _ :=
      Fields.exists_made hm ho hp ht ha
    exact ⟨w, toOption_eq_some_iff.1 (Fields.toOption_read_object _ _ _ ▸ hw), hd⟩
  | list hi hp ho =>
    subst hp ho
    rw [← toOption_eq_some_iff] at ha
    obtain ⟨w, hw, hd⟩ := fields.exists_readItems_exchanged _ hi ht ha
    exact ⟨w, toOption_eq_some_iff.1 hw, hd⟩

end Record

theorem orNull_of_ne_null {β : Type} (read : Node → Except Fault β) {node : Node}
    (hn : node ≠ .null) : orNull read node = some <$> read node := by
  cases node with
  | null => exact absurd rfl hn
  | _ => rfl

theorem optional?_of_read {γ α : Type} {record : String} {make : γ} {fields : Fields γ α}
    {node : Node} {a : α} (h : (Shape.record record make fields).read node = .ok a) :
    (Shape.record record make fields).optional? (some node) = some (some a) := by
  have hn : node ≠ .null := by
    rintro rfl
    simp [Shape.read] at h
  simp only [Shape.optional?, orNull_of_ne_null _ hn, h]
  rfl

theorem optional?_missing {α : Type} {shape : Shape α} {part : Option Node}
    (hp : part = none ∨ part = some .null) : shape.optional? part = some none := by
  rcases hp with rfl | rfl <;> rfl

/-- A part that is absent or null is read as nothing, and any other as what it says. -/
theorem cases_of_optional? {α : Type} {shape : Shape α} {part : Option Node} {x : Option α}
    (h : shape.optional? part = some x) :
    (x = none ∧ (part = none ∨ part = some .null)) ∨
      ∃ node a, x = some a ∧ part = some node ∧ shape.read node = .ok a := by
  cases part with
  | none => exact .inl ⟨(Option.some.inj h).symm, .inl rfl⟩
  | some node =>
    by_cases hn : node = .null
    · subst hn
      exact .inl ⟨(Option.some.inj h).symm, .inr rfl⟩
    · simp only [Shape.optional?, orNull_of_ne_null _ hn] at h
      cases hr : shape.read node with
      | error fault =>
        rw [hr] at h
        cases h
      | ok a =>
        rw [hr] at h
        exact .inr ⟨node, a, (Option.some.inj h).symm, rfl, hr⟩

theorem eq_none_iff_of_optional? {α : Type} {shape : Shape α} {part : Option Node} {x : Option α}
    (h : shape.optional? part = some x) : x = none ↔ part = none ∨ part = some .null := by
  constructor
  · rintro rfl
    obtain ⟨-, hp⟩ | ⟨node, a, hx, -⟩ := cases_of_optional? h
    · exact hp
    · cases hx
  · intro hp
    exact (Option.some.inj ((optional?_missing hp).symm.trans h)).symm

theorem takes_required {β : Type} {shape : Shape β} {a b : Node}
    (h : ∀ x, shape.read a = .ok x → ∃ y, shape.read b = .ok y) :
    (∃ x, shape.required? (some a) = some x) → ∃ y, shape.required? (some b) = some y := by
  rintro ⟨x, hx⟩
  obtain ⟨y, hy⟩ := h x (toOption_eq_some_iff.1 hx)
  exact ⟨y, toOption_eq_some_iff.2 hy⟩

section List

variable {α β : Type} {item : Shape β}

theorem read_list_eq_ok_iff {items : List Node} {values : List β} :
    (Shape.list item).read (.list items .closed) = .ok values ↔
      items.mapM item.read = .ok values := by
  simp only [Shape.read, ListEnd.fault?, bind_eq_ok_iff]
  constructor
  · rintro ⟨_, hv, ⟨⟩⟩
    exact hv
  · intro hv
    exact ⟨values, hv, rfl⟩

theorem exists_mapM_eq_ok {ε : Type} {f : α → Except ε β} {items : List α}
    (h : ∀ item ∈ items, ∃ value, f item = .ok value) : ∃ values, items.mapM f = .ok values := by
  induction items with
  | nil => exact ⟨[], rfl⟩
  | cons item items ih =>
    obtain ⟨value, hv⟩ := h item List.mem_cons_self
    obtain ⟨values, hs⟩ := ih fun item hi => h item (List.mem_cons_of_mem _ hi)
    exact ⟨value :: values, by rw [List.mapM_cons, hv, hs]; rfl⟩

/-- A list is read with any other items after the first, if these are read. -/
theorem exists_read_list {first : Node} {later others : List Node} {values : List β}
    (h : (Shape.list item).read (.list (first :: later) .closed) = .ok values)
    (ho : ∀ node ∈ others, ∃ value, item.read node = .ok value) :
    ∃ value rest changed, values = value :: rest ∧
      (Shape.list item).read (.list (first :: others) .closed) = .ok (value :: changed) := by
  rw [read_list_eq_ok_iff, List.mapM_cons] at h
  obtain ⟨value, hv, h⟩ := bind_eq_ok_iff.1 h
  obtain ⟨rest, -, h⟩ := bind_eq_ok_iff.1 h
  obtain ⟨changed, hc⟩ := exists_mapM_eq_ok ho
  refine ⟨value, rest, changed, (Except.ok.inj h).symm, read_list_eq_ok_iff.2 ?_⟩
  rw [List.mapM_cons, hv, hc]
  rfl

theorem exists_defaulted_list {first : Node} {later others : List Node} {values missing : List β}
    (h : (Shape.list item).defaulted? missing (some (.list (first :: later) .closed)) = some values)
    (ho : ∀ node ∈ others, ∃ value, item.read node = .ok value) :
    ∃ value rest changed, values = value :: rest ∧
      (Shape.list item).defaulted? missing (some (.list (first :: others) .closed)) =
        some (value :: changed) := by
  obtain ⟨value, rest, changed, hv, hr⟩ := exists_read_list (toOption_eq_some_iff.1 h) ho
  exact ⟨value, rest, changed, hv, toOption_eq_some_iff.2 hr⟩

/-- A field that has taken a list takes one with other items after the first. -/
theorem takes_list {first : Node} {later others : List Node} {missing : List β}
    (ho : ∀ node ∈ others, ∃ value, item.read node = .ok value)
    (h : ∃ values, (Shape.list item).defaulted? missing
      (some (.list (first :: later) .closed)) = some values) :
    ∃ values, (Shape.list item).defaulted? missing
      (some (.list (first :: others) .closed)) = some values := by
  obtain ⟨values, hv⟩ := h
  obtain ⟨value, rest, changed, -, hc⟩ := exists_defaulted_list hv ho
  exact ⟨value :: changed, hc⟩

end List

/-- Whether a text says a node, with blanks after it at most. -/
structure Says (text : Spelling) (node : Node) : Prop where
  node_eq : (scan text).1 = node
  blank : (scan text).2.all isBlank = true

theorem Says.of_scan {text : Spelling} {node : Node} (h : scan text = (node, [])) :
    Says text node := by
  constructor <;> rw [h]
  rfl

theorem Says.parse_eq {α : Type} {text : Spelling} {node : Node} (h : Says text node)
    (shape : Shape α) : shape.parse text = shape.read node := by
  obtain ⟨rfl, hb⟩ := h
  simp only [Shape.parse, hb, if_true, bind_pure]

/-- Whether texts say nodes that are equal but for what they have at the end of a path. -/
def Exchanges (site : Site) (path : List String) (part other : Option Node) (s t : Spelling) :
    Prop :=
  ∃ a b, Says s a ∧ Says t b ∧ ExchangedAt site path part other a b

/-- Whether a text has this part at the end of a path of names. -/
def Has (site : Site) (path : List String) (part : Option Node) (text : Spelling) : Prop :=
  Exchanges site path part part text text

section Parse

variable {γ α : Type} {record name : String} {make : γ} {fields : Fields γ α}
  {part other : Option Node} {s t : Spelling} {v : α}

/-- If a text is parsed as a record, it is with any other part that the field takes, and the
records differ in that field alone. -/
theorem exists_parse_exchanged
    (h : Exchanges ⟨.record record make fields⟩ [name] part other s t)
    (ht : fields.Accepts name part → fields.Accepts name other)
    (hs : (Shape.record record make fields).parse s = .ok v) :
    ∃ w, (Shape.record record make fields).parse t = .ok w ∧
      fields.Differ name part other make make v w := by
  obtain ⟨a, b, ha, hb, he⟩ := h
  rw [ha.parse_eq] at hs
  rw [hb.parse_eq]
  cases he with
  | here he => exact exists_read_exchanged he ht hs
  | within _ he => cases he

/-- If a text is parsed as a record with another record in a field that has to be there, it is with
any other part that a field of the inner one takes, and the inner records differ in that field
alone. -/
theorem exists_parse_inner {δ β : Type} {field inner : String} {innerMake : δ}
    {innerFields : Fields δ β}
    (h : Exchanges ⟨.record record make fields⟩ [name, field] part other s t)
    (hi : fields.site? name = some ⟨.record inner innerMake innerFields⟩)
    (hr : ∀ node, fields.Accepts name (some node) ↔
      ∃ x, (Shape.record inner innerMake innerFields).required? (some node) = some x)
    (ht : innerFields.Accepts field part → innerFields.Accepts field other)
    (hs : (Shape.record record make fields).parse s = .ok v) :
    ∃ w c d, (Shape.record record make fields).parse t = .ok w ∧
      fields.Differ name (some c) (some d) make make v w ∧
      ∀ x y, (Shape.record inner innerMake innerFields).required? (some c) = some x →
        (Shape.record inner innerMake innerFields).required? (some d) = some y →
        innerFields.Differ field part other innerMake innerMake x y := by
  obtain ⟨a, b, ha, hb, he⟩ := h
  rw [ha.parse_eq] at hs
  rw [hb.parse_eq]
  cases he with
  | @within _ _ _ _ _ _ _ _ c d hm he ho =>
    obtain rfl := Option.some.inj (hm.symm.trans hi)
    cases he with
    | within _ he => cases he
    | here he =>
      have hread (x : β) (hx : (Shape.record inner innerMake innerFields).read c = .ok x) :=
        exists_read_exchanged he ht hx
      have htakes (hc : fields.Accepts name (some c)) : fields.Accepts name (some d) :=
        (hr d).2 (takes_required (fun x hx => (hread x hx).imp fun _ hy => hy.1) ((hr c).1 hc))
      obtain ⟨w, hw, hd⟩ := exists_read_exchanged ho htakes hs
      refine ⟨w, c, d, hw, hd, fun x y hx hy => ?_⟩
      -- The inner node is read one way only, so what it is read as here is what stands in `w`.
      obtain ⟨z, hz, hin⟩ := hread x (toOption_eq_some_iff.1 hx)
      obtain rfl : z = y := Except.ok.inj (hz.symm.trans (toOption_eq_some_iff.1 hy))
      exact hin

end Parse

end WebhookRelay.Payload
