import WebhookRelay.Proofs.Payload.Range

/-!
Which part of a node the first field of a record is read from: the member of its name in an
object, the first item of a list.
-/

namespace WebhookRelay.Payload

/-- The text that a node is. -/
def Node.text? : Node → Option String
  | .text spelling => spelling.decode.toOption
  | _ => none

/-- Whether a member of an object stands under a key. -/
def isUnder (key : String) (member : Spelling × Node) : Bool :=
  match member.1.decode with
  | .ok found => found = key
  | .error _ => false

theorem decode_of_isUnder {key : String} {member : Spelling × Node}
    (h : isUnder key member = true) : member.1.decode = .ok key := by
  unfold isUnder at h
  split at h
  · next found hf => rw [hf, of_decide_eq_true h]
  · cases h

/-- The part of a node that a record reads its first field from. -/
def Node.leading? (key : String) : Node → Option Node
  | .object members _ => (members.find? (isUnder key)).map Prod.snd
  | .list items _ => items.head?
  | _ => none

theorem orNull_text {node : Node} {value : Option String}
    (h : orNull Shape.text.read node = .ok value) : value = node.text? := by
  have found_text {s : String} (hf : node.found = .ok (.text s)) : node.text? = some s := by
    cases node with
    | text spelling =>
      obtain ⟨t, ht, he⟩ := bind_eq_ok_iff.1 hf
      cases he
      simp [Node.text?, ht, Except.toOption]
    | number spelling =>
      obtain ⟨n, -, he⟩ := bind_eq_ok_iff.1 hf
      cases n <;> cases he
    | _ => simp [Node.found] at hf
  unfold orNull at h
  split at h
  · cases h
    rfl
  · obtain ⟨s, hs, he⟩ := bind_eq_ok_iff.1 h
    cases he
    simp only [Shape.read] at hs
    split at hs
    · next t ht =>
      cases hs
      exact (found_text ht).symm
    · cases hs

section Leading

variable {α β γ : Type} {name : String} {shape : Shape β} {rest : Fields γ α}

/-- Members under other keys leave the slot of the first field alone, and one that is read twice
is a fault. -/
theorem store_leading {members : List (Spelling × Node)}
    {slots final : (Fields.optional name shape rest).Slots}
    (h : members.foldlM (fun slots (key, node) => do
      (Fields.optional name shape rest).store (← key.decode) node slots) slots = .ok final) :
    match slots.1, members.find? (isUnder name) with
    | some value, _ => final.1 = some value
    | none, some member => ∃ value, orNull shape.read member.2 = .ok value ∧ final.1 = some value
    | none, none => final.1 = none := by
  induction members generalizing slots with
  | nil =>
    obtain rfl : slots = final := Except.ok.inj h
    cases slots.1 <;> simp
  | cons member members ih =>
    rw [List.foldlM_cons] at h
    obtain ⟨middle, hm, h⟩ := bind_eq_ok_iff.1 h
    obtain ⟨key, hk, hm⟩ := bind_eq_ok_iff.1 hm
    have ih := ih h
    simp only [Fields.store, place] at hm
    by_cases hn : name = key
    · rw [if_pos hn] at hm
      split at hm
      · cases hm
      · next hs =>
        obtain ⟨value, hv, hm⟩ := bind_eq_ok_iff.1 hm
        cases hm
        have hu : isUnder name member = true := by simp [isUnder, hk, hn]
        have hs : slots.1 = none := by simpa using hs
        simp only [hs, List.find?_cons_of_pos hu]
        exact ⟨value, hv, ih⟩
    · rw [if_neg hn] at hm
      obtain ⟨others, -, hm⟩ := bind_eq_ok_iff.1 hm
      cases hm
      have hu : ¬ isUnder name member = true := by simp [isUnder, hk, Ne.symm hn]
      simpa only [List.find?_cons_of_neg hu] using ih

/-- The first field of a record comes from the leading part of the node. -/
theorem leading_of_read {record : String} {make : Option β → γ} {node : Node} {a : α}
    (h : (Shape.record record make (.optional name shape rest)).read node = .ok a) :
    ∃ value, rest.Range (make value) a ∧
      match node.leading? name with
      | some part => orNull shape.read part = .ok value
      | none => value = none := by
  simp only [Shape.read] at h
  split at h
  · next members close =>
    obtain ⟨slots, hf, h⟩ := bind_eq_ok_iff.1 h
    let fields := Fields.optional name shape rest
    have hb := fields.build_of_close h
    have hr := fields.inRange_of_members fields.inRange_of_store hf
    have hs := store_leading hf
    refine ⟨slots.1.getD none, rest.range_of_build hr.2 hb, ?_⟩
    simp only [Node.leading?]
    cases hm : members.find? (isUnder name) with
    | none =>
      simp only [Fields.empty, hm] at hs
      simp [hs]
    | some member =>
      simp only [Fields.empty, hm] at hs
      obtain ⟨value, hv, hs⟩ := hs
      simp [hs, hv]
  · next items close =>
    simp only [Fields.readItems] at h
    obtain ⟨next, hn, h⟩ := bind_eq_ok_iff.1 h
    cases items with
    | nil =>
      obtain rfl : next = none := by
        simp only [takeItem] at hn
        split at hn <;> simp_all
      cases h
    | cons part items =>
      obtain rfl : some (part, items) = next := Except.ok.inj hn
      obtain ⟨value, hv, h⟩ := bind_eq_ok_iff.1 h
      exact ⟨value, rest.range_of_readItems h, hv⟩
  · cases h

/-- Where that field is a text it is the one of the leading part, if there is any. -/
theorem range_leading_text {rest : Fields γ α} {record : String} {make : Option String → γ}
    {node : Node} {a : α}
    (h : (Shape.record record make (.optional name .text rest)).read node = .ok a) :
    rest.Range (make ((node.leading? name).bind Node.text?)) a := by
  obtain ⟨value, hm, hv⟩ := leading_of_read h
  cases hl : node.leading? name with
  | none =>
    rw [hl] at hv
    simpa [← show value = none from hv] using hm
  | some part =>
    rw [hl] at hv
    simpa [← orNull_text hv] using hm

end Leading

end WebhookRelay.Payload
