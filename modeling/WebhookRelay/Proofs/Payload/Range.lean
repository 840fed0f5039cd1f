import WebhookRelay.Payload.Shape

/-!
Which values are read by a shape: numbers that fit their bits, and moments and links that some text
spells. A record is what its constructor gives for such values.
-/

namespace WebhookRelay.Payload

theorem bind_eq_ok_iff {ε α β : Type} {x : Except ε α} {f : α → Except ε β} {b : β} :
    x >>= f = .ok b ↔ ∃ a, x = .ok a ∧ f a = .ok b := by
  cases x <;> simp [bind, Except.bind]

@[simp] theorem mapError_eq_ok_iff {ε δ α : Type} {x : Except ε α} {f : ε → δ} {a : α} :
    x.mapError f = .ok a ↔ x = .ok a := by
  cases x with
  | error cause => constructor <;> intro h <;> cases h
  | ok b =>
    constructor <;> intro h
    · rw [Except.ok.inj h]
    · cases h
      rfl

@[simp] theorem toOption_eq_some_iff {ε α : Type} {x : Except ε α} {a : α} :
    x.toOption = some a ↔ x = .ok a := by
  cases x with
  | error cause => constructor <;> intro h <;> cases h
  | ok b =>
    constructor <;> intro h
    · rw [Option.some.inj h]
    · cases h
      rfl

mutual

/-- Whether a value is one that some node may be read as. -/
def Shape.Range {α : Type} : Shape α → α → Prop
  | .text, _ => True
  | .flag, _ => True
  | .natural bits, n => n < Nat.pow 2 bits
  | .integer bits, n =>
    -Int.ofNat (Nat.pow 2 (bits - 1)) ≤ n ∧ n < Int.ofNat (Nat.pow 2 (bits - 1))
  | .time, t => ∃ text, Timestamp.parse text = .ok t
  | .link, url => ∃ text, Url.parse text = .ok url
  | .list item, values => ∀ value ∈ values, item.Range value
  | .record _ make fields, a => fields.Range make a

/-- Whether a record is what `make` gives for such values of its fields. -/
def Fields.Range {γ α : Type} : Fields γ α → γ → α → Prop
  | .done, make, a => a = make
  | .required _ shape rest, make, a => ∃ value, shape.Range value ∧ rest.Range (make value) a
  | .optional _ shape rest, make, a =>
    ∃ found, (∀ value ∈ found, shape.Range value) ∧ rest.Range (make found) a
  | .defaulted _ value shape rest, make, a =>
    ∃ found, (found = value ∨ shape.Range found) ∧ rest.Range (make found) a

end

/-- Whether all that was read of the fields of a record is in range. -/
def Fields.InRange {γ α : Type} : (fields : Fields γ α) → fields.Slots → Prop
  | .done, _ => True
  | .required _ shape rest, slots => (∀ value ∈ slots.1, shape.Range value) ∧ rest.InRange slots.2
  | .optional _ shape rest, slots =>
    (∀ found ∈ slots.1, ∀ value ∈ found, shape.Range value) ∧ rest.InRange slots.2
  | .defaulted _ _ shape rest, slots =>
    (∀ value ∈ slots.1, shape.Range value) ∧ rest.InRange slots.2

section Readers

variable {ε α β σ : Type}

theorem forall_of_foldlM {P : σ → Prop} {step : σ → α → Except ε σ} {items : List α} {s final : σ}
    (hp : P s) (hs : ∀ {item s t}, P s → step s item = .ok t → P t)
    (h : items.foldlM step s = .ok final) : P final := by
  induction items generalizing s with
  | nil =>
    obtain rfl : s = final := Except.ok.inj h
    exact hp
  | cons item items ih =>
    rw [List.foldlM_cons] at h
    obtain ⟨t, ht, h⟩ := bind_eq_ok_iff.1 h
    exact ih (hs hp ht) h

theorem forall_of_mapM {P : β → Prop} {f : α → Except ε β} {items : List α} {values : List β}
    (hf : ∀ {item value}, f item = .ok value → P value) (h : items.mapM f = .ok values) :
    ∀ value ∈ values, P value := by
  induction items generalizing values with
  | nil =>
    obtain rfl : [] = values := Except.ok.inj h
    exact nofun
  | cons item items ih =>
    rw [List.mapM_cons] at h
    obtain ⟨value, hv, h⟩ := bind_eq_ok_iff.1 h
    obtain ⟨others, ho, h⟩ := bind_eq_ok_iff.1 h
    obtain rfl : value :: others = values := Except.ok.inj h
    exact List.forall_mem_cons.2 ⟨hf hv, ih ho⟩

theorem forall_of_orNull {P : β → Prop} {read : Node → Except Fault β} {node : Node}
    {found : Option β} (hr : ∀ {value}, read node = .ok value → P value)
    (h : orNull read node = .ok found) : ∀ value ∈ found, P value := by
  unfold orNull at h
  split at h
  · cases h
    exact nofun
  · obtain ⟨value, hv, h⟩ := bind_eq_ok_iff.1 h
    cases h
    rintro value ⟨⟩
    exact hr hv

theorem forall_of_place {P : β → Prop} {Q : σ → Prop} {name key : String}
    {read : Unit → Except Fault β} {rest : σ → Except Fault σ} {slots final : Option β × σ}
    (hs : (∀ value ∈ slots.1, P value) ∧ Q slots.2) (hp : ∀ {value}, read () = .ok value → P value)
    (hq : ∀ {others}, rest slots.2 = .ok others → Q others)
    (h : place name key read rest slots = .ok final) :
    (∀ value ∈ final.1, P value) ∧ Q final.2 := by
  unfold place at h
  split at h
  · split at h
    · cases h
    · obtain ⟨value, hv, h⟩ := bind_eq_ok_iff.1 h
      cases h
      refine ⟨?_, hs.2⟩
      rintro value ⟨⟩
      exact hp hv
  · obtain ⟨others, ho, h⟩ := bind_eq_ok_iff.1 h
    cases h
    exact ⟨hs.1, hq ho⟩

theorem bounds_of_boundedBy {low high n : Int} {wanted : String} {node : Node}
    (h : boundedBy low high wanted node = .ok n) : low ≤ n ∧ n < high := by
  unfold boundedBy at h
  split at h
  · split at h
    · next hb =>
      cases h
      exact hb
    · cases h
  · cases h

theorem lt_of_boundedBy {bits n : Nat} {wanted : String} {node : Node}
    (h : (boundedBy 0 (Nat.pow 2 bits) wanted node).map Int.toNat = .ok n) :
    n < Nat.pow 2 bits := by
  cases hb : boundedBy 0 (Nat.pow 2 bits) wanted node with
  | error fault =>
    rw [hb] at h
    cases h
  | ok m =>
    rw [hb] at h
    cases h
    obtain ⟨hl, hh⟩ := bounds_of_boundedBy hb
    exact (Int.toNat_lt hl).2 hh

end Readers

namespace Fields

/-- Once its members are read, an object is built, unless it does not end as it has to. -/
theorem build_of_close {γ α : Type} {a : α} (fields : Fields γ α) {slots : fields.Slots} {make : γ}
    {close : ObjectEnd}
    (h : (do
      match close.key? with
      | some key =>
        if fields.holds slots (← key.decode) then .error (.duplicate (← key.decode))
      | none => pure ()
      match close.fault? with
      | some fault => .error fault
      | none => fields.build slots make) = Except.ok a) :
    fields.build slots make = .ok a := by
  dsimp only at h
  split at h
  · obtain ⟨key, -, h⟩ := bind_eq_ok_iff.1 h
    split at h
    · obtain ⟨_, -, h⟩ := bind_eq_ok_iff.1 h
      cases h
    · split at h
      · cases h
      · exact h
  · split at h
    · cases h
    · exact h

theorem inRange_empty {γ α : Type} : (fields : Fields γ α) → fields.InRange fields.empty
  | .done => trivial
  | .required _ _ rest => ⟨nofun, inRange_empty rest⟩
  | .optional _ _ rest => ⟨nofun, inRange_empty rest⟩
  | .defaulted _ _ _ rest => ⟨nofun, inRange_empty rest⟩

theorem inRange_of_members {γ α : Type} (fields : Fields γ α) {members : List (Spelling × Node)}
    {slots : fields.Slots}
    (hs : ∀ {key node s t}, fields.InRange s → fields.store key node s = .ok t → fields.InRange t)
    (h : members.foldlM (fun slots (key, node) => do
      fields.store (← key.decode) node slots) fields.empty = .ok slots) : fields.InRange slots := by
  refine forall_of_foldlM fields.inRange_empty (fun {member s t} hp h => ?_) h
  obtain ⟨key, -, h⟩ := bind_eq_ok_iff.1 h
  exact hs hp h

theorem range_of_build {γ α : Type} {a : α} : (fields : Fields γ α) → {slots : fields.Slots} →
    {make : γ} → fields.InRange slots → fields.build slots make = .ok a → fields.Range make a
  | .done, slots, make, _, h => (Except.ok.inj h).symm
  | .required _ _ rest, slots, make, hs, h => by
    simp only [build] at h
    split at h
    · next value hv => exact ⟨value, hs.1 value hv, range_of_build rest hs.2 h⟩
    · cases h
  | .optional _ _ rest, slots, make, hs, h => by
    refine ⟨slots.1.getD none, fun value hv => ?_, range_of_build rest hs.2 h⟩
    cases hf : slots.1 with
    | none => simp [hf] at hv
    | some found => exact hs.1 found hf value (by simpa [hf] using hv)
  | .defaulted _ value _ rest, slots, make, hs, h => by
    refine ⟨slots.1.getD value, ?_, range_of_build rest hs.2 h⟩
    cases hf : slots.1 with
    | none => exact .inl rfl
    | some found => exact .inr (hs.1 found hf)

end Fields

mutual

theorem Shape.range_of_read {α : Type} {a : α} : (shape : Shape α) → {node : Node} →
    shape.read node = .ok a → shape.Range a
  | .text, _, _ => trivial
  | .flag, _, _ => trivial
  | .natural bits, node, h => lt_of_boundedBy h
  | .integer bits, node, h => bounds_of_boundedBy h
  | .time, node, h => by
    simp only [Shape.read] at h
    split at h
    · next text _ => exact ⟨text, mapError_eq_ok_iff.1 h⟩
    · cases h
  | .link, node, h => by
    simp only [Shape.read] at h
    split at h
    · next text _ => exact ⟨text, mapError_eq_ok_iff.1 h⟩
    · cases h
  | .list item, node, h => by
    simp only [Shape.read] at h
    split at h
    · obtain ⟨values, hv, h⟩ := bind_eq_ok_iff.1 h
      split at h
      · cases h
      · cases h
        exact forall_of_mapM item.range_of_read hv
    · cases h
  | .record record make fields, node, h => by
    simp only [Shape.read] at h
    split at h
    · next members close =>
      obtain ⟨slots, hf, h⟩ := bind_eq_ok_iff.1 h
      have hs := fields.inRange_of_members fields.inRange_of_store hf
      exact fields.range_of_build hs (fields.build_of_close h)
    · exact fields.range_of_readItems h
    · cases h

theorem Fields.inRange_of_store {γ α : Type} {key : String} {node : Node} :
    (fields : Fields γ α) → {slots final : fields.Slots} → fields.InRange slots →
    fields.store key node slots = .ok final → fields.InRange final
  | .done, _, _, _, _ => trivial
  | .required _ shape rest, _, _, hs, h =>
    forall_of_place hs shape.range_of_read (rest.inRange_of_store hs.2) h
  | .optional _ shape rest, _, _, hs, h =>
    forall_of_place hs (forall_of_orNull shape.range_of_read) (rest.inRange_of_store hs.2) h
  | .defaulted _ _ shape rest, _, _, hs, h =>
    forall_of_place hs shape.range_of_read (rest.inRange_of_store hs.2) h

theorem Fields.range_of_readItems {γ α : Type} {a : α} {record : String} {size : Nat}
    {close : ListEnd} : (fields : Fields γ α) → {index : Nat} → {items : List Node} → {make : γ} →
    fields.readItems record size index items close make = .ok a → fields.Range make a
  | .done, index, items, make, h => by
    simp only [Fields.readItems] at h
    split at h
    · split at h
      · cases h
      · exact (Except.ok.inj h).symm
    · cases h
  | .required _ shape rest, index, items, make, h => by
    simp only [Fields.readItems] at h
    obtain ⟨next, -, h⟩ := bind_eq_ok_iff.1 h
    cases next with
    | none => cases h
    | some next =>
      obtain ⟨value, hv, h⟩ := bind_eq_ok_iff.1 h
      exact ⟨value, shape.range_of_read hv, rest.range_of_readItems h⟩
  | .optional _ shape rest, index, items, make, h => by
    simp only [Fields.readItems] at h
    obtain ⟨next, -, h⟩ := bind_eq_ok_iff.1 h
    cases next with
    | none => cases h
    | some next =>
      obtain ⟨found, hv, h⟩ := bind_eq_ok_iff.1 h
      exact ⟨found, forall_of_orNull shape.range_of_read hv, rest.range_of_readItems h⟩
  | .defaulted _ value shape rest, index, items, make, h => by
    simp only [Fields.readItems] at h
    obtain ⟨next, -, h⟩ := bind_eq_ok_iff.1 h
    cases next with
    | none => exact ⟨value, .inl rfl, rest.range_of_readItems h⟩
    | some next =>
      obtain ⟨found, hv, h⟩ := bind_eq_ok_iff.1 h
      exact ⟨found, .inr (shape.range_of_read hv), rest.range_of_readItems h⟩

end

theorem parse_eq_ok_iff {α : Type} {shape : Shape α} {body : List UInt8} {a : α} :
    shape.parse body = .ok a ↔
      shape.read (scan body).1 = .ok a ∧ (scan body).2.all isBlank = true := by
  simp only [Shape.parse, bind_eq_ok_iff]
  constructor
  · rintro ⟨b, hb, h⟩
    split at h
    · next hr =>
      cases h
      exact ⟨hb, hr⟩
    · cases h
  · rintro ⟨ha, hr⟩
    exact ⟨a, ha, by rw [if_pos hr]; rfl⟩

/-- Whatever a text is read as by a shape is in its range. -/
theorem Shape.range_of_parse {α : Type} {shape : Shape α} {text : Spelling} {a : α}
    (h : shape.parse text = .ok a) : shape.Range a :=
  shape.range_of_read (parse_eq_ok_iff.1 h).1

end WebhookRelay.Payload
