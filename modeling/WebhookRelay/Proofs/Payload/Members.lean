import WebhookRelay.Proofs.Payload.Record

/-!
What a record reads of an object, if only the result counts and not what is wrong with it. Then the
order of the members says nothing, and those that are no fields may be left out.
-/

namespace WebhookRelay.Payload

section ToOption

variable {ε α β : Type}

theorem toOption_bind (x : Except ε α) (f : α → Except ε β) :
    (x >>= f).toOption = x.toOption.bind fun a => (f a).toOption := by
  cases x <;> rfl

theorem toOption_map (x : Except ε α) (f : α → β) :
    (f <$> x).toOption = x.toOption.map f := by
  cases x <;> rfl

theorem foldl_bind_none {σ : Type} (f : σ → α → Option σ) (items : List α) :
    items.foldl (fun o item => o.bind fun s => f s item) none = none := by
  induction items with
  | nil => rfl
  | cons item items ih => exact ih

theorem toOption_foldlM {σ : Type} (f : σ → α → Except ε σ) (items : List α) (s : σ) :
    (items.foldlM f s).toOption =
      items.foldl (fun o item => o.bind fun s => (f s item).toOption) (some s) := by
  induction items generalizing s with
  | nil => rfl
  | cons item items ih =>
    rw [List.foldlM_cons, toOption_bind, List.foldl_cons, Option.bind_some]
    cases f s item with
    | error fault => exact (foldl_bind_none _ items).symm
    | ok s => exact ih s

end ToOption

/-- A place in a payload where a value of some shape is read. -/
structure Site where
  {α : Type}
  shape : Shape α

/-- Whether nodes cannot be told apart where one is read by the shape of a site, or skipped. -/
structure Alike (site : Option Site) (a b : Node) : Prop where
  fault_eq : a.syntaxFault? = b.syntaxFault?
  null_iff : a = .null ↔ b = .null
  read_eq : ∀ s, site = some s → (s.shape.read a).toOption = (s.shape.read b).toOption

theorem Alike.refl (site : Option Site) (a : Node) : Alike site a a :=
  ⟨rfl, .rfl, fun _ _ => rfl⟩

theorem toOption_orNull {β : Type} {read : Node → Except Fault β} {a b : Node}
    (hn : a = .null ↔ b = .null) (h : (read a).toOption = (read b).toOption) :
    (orNull read a).toOption = (orNull read b).toOption := by
  have orNull_of_ne {node : Node} (hn : node ≠ .null) : orNull read node = some <$> read node := by
    cases node with
    | null => exact absurd rfl hn
    | _ => rfl
  by_cases ha : a = .null
  · rw [ha, hn.1 ha]
  · rw [orNull_of_ne ha, orNull_of_ne (mt hn.2 ha), toOption_map, toOption_map, h]

section Place

variable {β σ : Type} {name key other : String}

/-- The result of `place`. -/
def placed? (name key : String) (value : Option β) (rest : σ → Option σ)
    (slots : Option β × σ) : Option (Option β × σ) :=
  if name = key then
    if slots.1.isSome then none else value.map fun value => (some value, slots.2)
  else (rest slots.2).map fun rest => (slots.1, rest)

theorem toOption_place (name key : String) (read : Unit → Except Fault β)
    (rest : σ → Except Fault σ) (slots : Option β × σ) :
    (place name key read rest slots).toOption =
      placed? name key (read ()).toOption (fun slots => (rest slots).toOption) slots := by
  unfold place placed?
  split
  · split
    · rfl
    · cases read () <;> rfl
  · dsimp only
    cases rest slots.2 <;> rfl

theorem placed?_own (value : Option β) (rest : σ → Option σ) (slots : Option β × σ) :
    placed? name name value rest slots =
      if slots.1.isSome then none else value.map fun value => (some value, slots.2) :=
  if_pos rfl

theorem placed?_other (hk : name ≠ key) (value : Option β) (rest : σ → Option σ)
    (slots : Option β × σ) :
    placed? name key value rest slots = (rest slots.2).map fun rest => (slots.1, rest) :=
  if_neg hk

theorem placed?_own_comm (hk : name ≠ key) (value otherValue : Option β)
    (rest otherRest : σ → Option σ) (slots : Option β × σ) :
    (placed? name name value rest slots).bind (placed? name key otherValue otherRest) =
      (placed? name key otherValue otherRest slots).bind (placed? name name value rest) := by
  rw [placed?_own, placed?_other hk]
  cases hs : slots.1.isSome <;> cases value <;> cases ho : otherRest slots.2 <;>
    simp [placed?_own, placed?_other hk, hs, ho]

/-- Two members go into the slots in either order. Under one name they do not go at all. -/
theorem placed?_comm {value otherValue : Option β} {rest otherRest : σ → Option σ}
    (hr : ∀ slots, (rest slots).bind otherRest = (otherRest slots).bind rest)
    (slots : Option β × σ) :
    (placed? name key value rest slots).bind (placed? name other otherValue otherRest) =
      (placed? name other otherValue otherRest slots).bind (placed? name key value rest) := by
  by_cases hk : name = key
  · subst hk
    by_cases ho : name = other
    · subst ho
      rw [placed?_own, placed?_own]
      cases slots.1.isSome <;> cases value <;> cases otherValue <;> simp [placed?_own]
    · exact placed?_own_comm ho value otherValue rest otherRest slots
  · by_cases ho : name = other
    · subst ho
      exact (placed?_own_comm hk otherValue value otherRest rest slots).symm
    · -- Neither is for this entry, so they commute as they do in the slots after it.
      have hr := congrArg (Option.map fun rest => (slots.1, rest)) (hr slots.2)
      rw [Option.map_bind, Option.map_bind] at hr
      have hp {key : String} (h : name ≠ key) (value : Option β) (rest : σ → Option σ) :
          placed? name key value rest ∘ (fun rest => (slots.1, rest)) =
            Option.map (fun rest => (slots.1, rest)) ∘ rest :=
        funext fun others => placed?_other h value rest (slots.1, others)
      rw [placed?_other hk, placed?_other ho, Option.bind_map, Option.bind_map, hp hk, hp ho]
      exact hr

theorem placed?_congr {value otherValue : Option β} {rest otherRest : σ → Option σ}
    (hv : name = key → value = otherValue) (hr : name ≠ key → rest = otherRest) :
    placed? name key value rest = placed? name key otherValue otherRest := by
  funext slots
  by_cases hk : name = key
  · rw [placed?, placed?, if_pos hk, if_pos hk, hv hk]
  · rw [placed?, placed?, if_neg hk, if_neg hk, hr hk]

theorem placed?_skip (hk : name ≠ key) (value : Option β) :
    placed? name key value (some : σ → Option σ) = some :=
  funext fun slots => placed?_other hk value some slots

theorem placed?_of_other (hk : name ≠ key) {value : Option β} {rest : σ → Option σ}
    {slots : Option β × σ} {others : σ} (hr : rest slots.2 = some others) :
    placed? name key value rest slots = some (slots.1, others) := by
  rw [placed?_other hk, hr, Option.map_some]

theorem placed?_of_free {value : β} {rest : σ → Option σ} {slots : Option β × σ}
    (hs : slots.1 = none) :
    placed? name name (some value) rest slots = some (some value, slots.2) := by
  rw [placed?_own, hs, Option.isSome_none, if_neg Bool.false_ne_true, Option.map_some]

/-- A member under another name leaves it open what an entry holds. -/
theorem placed?_holds {value : Option β} {rest : σ → Option σ} {held : σ → Bool}
    {slots final : Option β × σ} (hk : key ≠ other)
    (hr : ∀ {slots final}, rest slots = some final → held final = held slots)
    (h : placed? name key value rest slots = some final) :
    (if name = other then final.1.isSome else held final.2) =
      if name = other then slots.1.isSome else held slots.2 := by
  by_cases hn : name = key
  · subst hn
    rw [if_neg hk, if_neg hk]
    rw [placed?_own] at h
    split at h
    · cases h
    · obtain ⟨_, -, rfl⟩ := Option.map_eq_some_iff.1 h
      rfl
  · rw [placed?_other hn] at h
    obtain ⟨others, ho, rfl⟩ := Option.map_eq_some_iff.1 h
    rw [hr ho]

end Place

namespace Fields

/-- Where the member of a name is read. The others are skipped. -/
def site? {γ α : Type} : Fields γ α → String → Option Site
  | .done, _ => none
  | .required name shape rest, key => if name = key then some ⟨shape⟩ else rest.site? key
  | .optional name shape rest, key => if name = key then some ⟨shape⟩ else rest.site? key
  | .defaulted name _ shape rest, key => if name = key then some ⟨shape⟩ else rest.site? key

/-- Whether null says the same under a name as no member does. -/
def MayBeNull {γ α : Type} : Fields γ α → String → Prop
  | .done, _ => False
  | .required name _ rest, key => name ≠ key ∧ rest.MayBeNull key
  | .optional name _ rest, key => name = key ∨ rest.MayBeNull key
  | .defaulted name _ _ rest, key => name ≠ key ∧ rest.MayBeNull key

/-- The result of storing a member. -/
def stored? {γ α : Type} (fields : Fields γ α) (key : String) (node : Node)
    (slots : fields.Slots) : Option fields.Slots :=
  (fields.store key node slots).toOption

theorem ite_some_eq_none {α : Type 1} {p : Prop} [Decidable p] {a : α} {o : Option α}
    (h : (if p then some a else o) = none) : ¬ p ∧ o = none := by
  split at h
  · cases h
  · next hp => exact ⟨hp, h⟩

section Stored

variable {α β γ : Type} {name key : String} {shape : Shape β} {rest : Fields γ α} {node : Node}

theorem stored?_required :
    (Fields.required name shape rest).stored? key node =
      placed? name key (shape.read node).toOption (rest.stored? key node) :=
  funext fun slots => toOption_place _ _ _ _ slots

theorem stored?_optional :
    (Fields.optional name shape rest).stored? key node =
      placed? name key (orNull shape.read node).toOption (rest.stored? key node) :=
  funext fun slots => toOption_place _ _ _ _ slots

theorem stored?_defaulted {value : β} :
    (Fields.defaulted name value shape rest).stored? key node =
      placed? name key (shape.read node).toOption (rest.stored? key node) :=
  funext fun slots => toOption_place _ _ _ _ slots

end Stored

theorem stored?_comm {γ α : Type} {key other : String} {node otherNode : Node} :
    (fields : Fields γ α) → (slots : fields.Slots) →
    (fields.stored? key node slots).bind (fields.stored? other otherNode) =
      (fields.stored? other otherNode slots).bind (fields.stored? key node)
  | .done, slots => by
    unfold stored?
    simp only [store]
    cases node.syntaxFault? <;> cases otherNode.syntaxFault? <;> simp [Except.toOption]
  | .required name shape rest, slots => by
    rw [stored?_required, stored?_required]
    exact placed?_comm (stored?_comm rest) slots
  | .optional name shape rest, slots => by
    rw [stored?_optional, stored?_optional]
    exact placed?_comm (stored?_comm rest) slots
  | .defaulted name value shape rest, slots => by
    rw [stored?_defaulted, stored?_defaulted]
    exact placed?_comm (stored?_comm rest) slots

theorem stored?_congr {γ α : Type} {key : String} {a b : Node} : (fields : Fields γ α) →
    Alike (fields.site? key) a b → fields.stored? key a = fields.stored? key b
  | .done, h => by
    funext slots
    simp only [stored?, store, h.fault_eq]
  | .required name shape rest, h => by
    rw [stored?_required, stored?_required]
    refine placed?_congr (fun hk => ?_) (fun hk => ?_)
    · rw [site?, if_pos hk] at h
      exact h.read_eq _ rfl
    · rw [site?, if_neg hk] at h
      exact stored?_congr rest h
  | .optional name shape rest, h => by
    rw [stored?_optional, stored?_optional]
    refine placed?_congr (fun hk => ?_) (fun hk => ?_)
    · rw [site?, if_pos hk] at h
      exact toOption_orNull h.null_iff (h.read_eq _ rfl)
    · rw [site?, if_neg hk] at h
      exact stored?_congr rest h
  | .defaulted name value shape rest, h => by
    rw [stored?_defaulted, stored?_defaulted]
    refine placed?_congr (fun hk => ?_) (fun hk => ?_)
    · rw [site?, if_pos hk] at h
      exact h.read_eq _ rfl
    · rw [site?, if_neg hk] at h
      exact stored?_congr rest h

/-- A member that is no field is skipped if it is well formed. -/
theorem stored?_skip {γ α : Type} {key : String} {node : Node} (hn : node.syntaxFault? = none) :
    (fields : Fields γ α) → fields.site? key = none → fields.stored? key node = some
  | .done, _ => by
    funext slots
    simp only [stored?, store, hn]
    rfl
  | .required name shape rest, h => by
    obtain ⟨hk, h⟩ := ite_some_eq_none h
    rw [stored?_required, stored?_skip hn rest h]
    exact placed?_skip hk _
  | .optional name shape rest, h => by
    obtain ⟨hk, h⟩ := ite_some_eq_none h
    rw [stored?_optional, stored?_skip hn rest h]
    exact placed?_skip hk _
  | .defaulted name value shape rest, h => by
    obtain ⟨hk, h⟩ := ite_some_eq_none h
    rw [stored?_defaulted, stored?_skip hn rest h]
    exact placed?_skip hk _

theorem holds_of_stored? {γ α : Type} {name key : String} {node : Node} (hk : key ≠ name) :
    (fields : Fields γ α) → {slots final : fields.Slots} →
    fields.stored? key node slots = some final → fields.holds final name = fields.holds slots name
  | .done, _, _, _ => rfl
  | .required field shape rest, slots, final, h => by
    rw [stored?_required] at h
    exact placed?_holds hk (holds_of_stored? hk rest) h
  | .optional field shape rest, slots, final, h => by
    rw [stored?_optional] at h
    exact placed?_holds hk (holds_of_stored? hk rest) h
  | .defaulted field value shape rest, slots, final, h => by
    rw [stored?_defaulted] at h
    exact placed?_holds hk (holds_of_stored? hk rest) h

/-- Null takes the place of a field that may be left out, and changes nothing. -/
theorem stored?_null {γ α : Type} {key : String} : (fields : Fields γ α) →
    fields.MayBeNull key → {slots : fields.Slots} → fields.holds slots key = false →
    ∃ final, fields.stored? key .null slots = some final ∧
      ∀ make, fields.build final make = fields.build slots make
  | .done, h, _, _ => h.elim
  | .required field shape rest, h, slots, hs => by
    obtain ⟨hk, h⟩ : field ≠ key ∧ rest.MayBeNull key := h
    simp only [holds, if_neg hk] at hs
    obtain ⟨final, hf, hb⟩ := stored?_null rest h hs
    refine ⟨(slots.1, final), ?_, fun make => ?_⟩
    · rw [stored?_required]
      exact placed?_of_other hk hf
    · simp only [build, hb]
  | .optional field shape rest, h, slots, hs => by
    by_cases hk : field = key
    · subst hk
      simp only [holds, if_true] at hs
      have hs : slots.1 = none := Option.isSome_eq_false_iff.1 hs |> Option.isNone_iff_eq_none.1
      refine ⟨(some none, slots.2), ?_, fun make => ?_⟩
      · rw [stored?_optional]
        exact placed?_of_free hs
      · simp only [build, hs, Option.getD_some, Option.getD_none]
    · simp only [holds, if_neg hk] at hs
      obtain ⟨final, hf, hb⟩ := stored?_null rest (h.resolve_left hk) hs
      refine ⟨(slots.1, final), ?_, fun make => ?_⟩
      · rw [stored?_optional]
        exact placed?_of_other hk hf
      · simp only [build, hb]
  | .defaulted field value shape rest, h, slots, hs => by
    obtain ⟨hk, h⟩ : field ≠ key ∧ rest.MayBeNull key := h
    simp only [holds, if_neg hk] at hs
    obtain ⟨final, hf, hb⟩ := stored?_null rest h hs
    refine ⟨(slots.1, final), ?_, fun make => ?_⟩
    · rw [stored?_defaulted]
      exact placed?_of_other hk hf
    · simp only [build, hb]

theorem holds_empty {γ α : Type} (name : String) : (fields : Fields γ α) →
    fields.holds fields.empty name = false
  | .done => rfl
  | .required field shape rest => by
    simp only [holds, empty, Option.isSome_none, holds_empty name rest, ite_self]
  | .optional field shape rest => by
    simp only [holds, empty, Option.isSome_none, holds_empty name rest, ite_self]
  | .defaulted field value shape rest => by
    simp only [holds, empty, Option.isSome_none, holds_empty name rest, ite_self]

section Gathered

variable {α γ : Type} {fields : Fields γ α}

/-- The result of reading one member after others. -/
def taken? (fields : Fields γ α) (slots : Option fields.Slots) (member : Spelling × Node) :
    Option fields.Slots :=
  slots.bind fun slots => member.1.decode.toOption.bind fun key =>
    fields.stored? key member.2 slots

/-- The result of reading the members of an object. -/
def gathered? (fields : Fields γ α) (members : List (Spelling × Node)) : Option fields.Slots :=
  members.foldl fields.taken? (some fields.empty)

/-- The record that the members of an object make. -/
def made? (fields : Fields γ α) (make : γ) (members : List (Spelling × Node)) : Option α :=
  (fields.gathered? members).bind fun slots => (fields.build slots make).toOption

theorem toOption_read_object (record : String) (make : γ) (members : List (Spelling × Node)) :
    ((Shape.record record make fields).read (.object members .closed)).toOption =
      fields.made? make members := by
  simp only [Shape.read, ObjectEnd.key?, ObjectEnd.fault?]
  rw [toOption_bind, toOption_foldlM]
  simp only [toOption_bind]
  rfl

theorem taken?_of_ok {slots : Option fields.Slots} {member : Spelling × Node} {key : String}
    (hk : member.1.decode = .ok key) :
    fields.taken? slots member = slots.bind (fields.stored? key member.2) := by
  rw [taken?, hk]
  rfl

theorem taken?_comm (slots : Option fields.Slots) (member other : Spelling × Node) :
    fields.taken? (fields.taken? slots member) other =
      fields.taken? (fields.taken? slots other) member := by
  unfold taken?
  cases slots with
  | none => rfl
  | some slots =>
    cases member.1.decode.toOption with
    | none => cases other.1.decode.toOption <;> simp
    | some key =>
      cases other.1.decode.toOption with
      | none => simp
      | some name => exact stored?_comm fields slots

theorem gathered?_perm {members others : List (Spelling × Node)} (h : members.Perm others) :
    fields.gathered? members = fields.gathered? others :=
  h.foldl_eq' (fun member _ other _ slots => taken?_comm slots member other) _

theorem made?_perm {make : γ} {members others : List (Spelling × Node)}
    (h : members.Perm others) : fields.made? make members = fields.made? make others := by
  rw [made?, made?, gathered?_perm h]

theorem gathered?_append (members others : List (Spelling × Node)) :
    fields.gathered? (members ++ others) = others.foldl fields.taken? (fields.gathered? members) :=
  List.foldl_append

/-- What is read under a name that no member has is nothing. -/
theorem holds_of_gathered? {name : String} {members : List (Spelling × Node)}
    {start slots : fields.Slots} (hm : ∀ member ∈ members, isUnder name member = false)
    (h : members.foldl fields.taken? (some start) = some slots) :
    fields.holds slots name = fields.holds start name := by
  induction members generalizing start with
  | nil =>
    cases h
    rfl
  | cons member members ih =>
    rw [List.foldl_cons] at h
    cases ht : fields.taken? (some start) member with
    | none =>
      rw [ht] at h
      cases (foldl_bind_none _ members).symm.trans h
    | some middle =>
      rw [ht] at h
      rw [taken?, Option.bind_some] at ht
      obtain ⟨key, hk, hs⟩ := Option.bind_eq_some_iff.1 ht
      have hk := toOption_eq_some_iff.1 hk
      have hn : key ≠ name := by
        have hu := hm member List.mem_cons_self
        simpa [isUnder, hk] using hu
      rw [ih (fun member hi => hm member (List.mem_cons_of_mem _ hi)) h, holds_of_stored? hn fields hs]

variable {before after : List (Spelling × Node)} {key : Spelling} {node : Node} {make : γ}

/-- A member may be written with another spelling of its key, and with another node that reads
alike. -/
theorem made?_congr {other : Spelling} {otherNode : Node}
    (hk : key.decode.toOption = other.decode.toOption)
    (hn : ∀ name, key.decode = .ok name → Alike (fields.site? name) node otherNode) :
    fields.made? make (before ++ (key, node) :: after) =
      fields.made? make (before ++ (other, otherNode) :: after) := by
  have ht (slots : Option fields.Slots) :
      fields.taken? slots (key, node) = fields.taken? slots (other, otherNode) := by
    cases hd : key.decode with
    | error fault =>
      unfold taken?
      rw [← hk, hd]
      rfl
    | ok name =>
      rw [hd] at hk
      rw [taken?_of_ok hd, taken?_of_ok (toOption_eq_some_iff.1 hk.symm),
        stored?_congr fields (hn name hd)]
  rw [made?, made?, gathered?_append, gathered?_append, List.foldl_cons, List.foldl_cons, ht]

theorem made?_skip {name : String} (hk : key.decode = .ok name) (hs : fields.site? name = none)
    (hn : node.syntaxFault? = none) :
    fields.made? make (before ++ (key, node) :: after) = fields.made? make (before ++ after) := by
  have ht (slots : Option fields.Slots) : fields.taken? slots (key, node) = slots := by
    rw [taken?_of_ok hk, stored?_skip hn fields hs]
    cases slots <;> rfl
  rw [made?, made?, gathered?_append, gathered?_append, List.foldl_cons, ht]

/-- Null may be written for a field that may be left out, or nothing. -/
theorem made?_null {name : String} (hk : key.decode = .ok name) (ho : fields.MayBeNull name)
    (hm : ∀ member ∈ before ++ after, isUnder name member = false) :
    fields.made? make (before ++ (key, .null) :: after) = fields.made? make (before ++ after) := by
  -- Null may as well come last: then it meets slots that the other members have all gone to.
  have hp : (before ++ (key, .null) :: after).Perm (before ++ after ++ [(key, .null)]) :=
    List.perm_middle.trans (List.perm_append_singleton _ _).symm
  rw [made?_perm hp, made?, made?, gathered?_append, List.foldl_cons, List.foldl_nil,
    taken?_of_ok hk]
  cases hg : fields.gathered? (before ++ after) with
  | none => rfl
  | some slots =>
    have hh : fields.holds slots name = false :=
      (holds_of_gathered? hm hg).trans (holds_empty name fields)
    obtain ⟨final, hf, hb⟩ := stored?_null fields ho hh
    rw [Option.bind_some, hf, Option.bind_some, Option.bind_some, hb]

end Gathered

end Fields

end WebhookRelay.Payload
