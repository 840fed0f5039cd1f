import WebhookRelay.Delivery

/-!
What a header or a parameter of the query gives: of the values under its name the first that is
not empty.
-/

namespace WebhookRelay

/-- Whether all values are empty under names of the kind `p`. -/
def NoneGiven (pairs : List (String × String)) (p : String → Prop) : Prop :=
  ∀ pair ∈ pairs, p pair.1 → pair.2 = ""

/-- Whether `value` is the first value that is not empty under a name of the kind `p`. -/
def FirstGiven (pairs : List (String × String)) (p : String → Prop) (value : String) : Prop :=
  ∃ before name after, pairs = before ++ (name, value) :: after ∧ p name ∧ value ≠ "" ∧
    NoneGiven before p

theorem find_given_eq_some_iff {pairs : List (String × String)} (p : String → Bool)
    {value : String} :
    (pairs.find? fun pair => p pair.1 && !pair.2.isEmpty).map Prod.snd = some value ↔
      FirstGiven pairs (p · = true) value := by
  simp only [Option.map_eq_some_iff, List.find?_eq_some_iff_append, FirstGiven, NoneGiven]
  constructor
  · rintro ⟨⟨name, value⟩, ⟨hp, before, after, rfl, hb⟩, rfl⟩
    simp only [Bool.and_eq_true, Bool.not_eq_true', String.isEmpty_eq_false_iff] at hp
    refine ⟨before, name, after, rfl, hp.1, hp.2, fun pair hm hn => ?_⟩
    simpa [hn] using hb pair hm
  · rintro ⟨before, name, after, rfl, hn, hv, hb⟩
    refine ⟨(name, value), ⟨by simpa [hn] using hv, before, after, rfl, fun pair hm => ?_⟩, rfl⟩
    have hb := hb pair hm
    cases hp : p pair.1 <;> simp_all

theorem find_given_eq_none_iff {pairs : List (String × String)} (p : String → Bool) :
    (pairs.find? fun pair => p pair.1 && !pair.2.isEmpty).map Prod.snd = none ↔
      NoneGiven pairs (p · = true) := by
  simp [NoneGiven]

/-- The first value that is not empty under a name of the kind `p`. -/
def valueUnder? (p : String → Bool) (pairs : List (String × String)) : Option String :=
  (pairs.find? fun pair => p pair.1 && !pair.2.isEmpty).map Prod.snd

/-- Under other names the same value is found, if they are of one kind where the old ones are of
the other. -/
theorem valueUnder?_map {p q : String → Bool} {rename : String → String}
    {pairs : List (String × String)} (h : ∀ pair ∈ pairs, p (rename pair.1) = q pair.1) :
    valueUnder? p (pairs.map fun pair => (rename pair.1, pair.2)) = valueUnder? q pairs := by
  unfold valueUnder?
  induction pairs with
  | nil => rfl
  | cons pair pairs ih =>
    have ih := ih fun later hm => h later (List.mem_cons_of_mem pair hm)
    rw [List.map_cons, List.find?_cons, List.find?_cons, h pair List.mem_cons_self]
    cases q pair.1 && !pair.2.isEmpty with
    | true => rfl
    | false => exact ih

namespace Delivery

theorem param?_eq (delivery : Delivery) (name : String) :
    delivery.param? name = valueUnder? (· == name) (Query.params (delivery.query.getD "")) := by
  unfold param?
  cases delivery.query with
  | none =>
    have hp : Query.params "" = [] := by decide +kernel
    rw [Option.getD_none, hp]
    rfl
  | some query => rfl

theorem sameName_iff {a b : String} :
    sameName a b = true ↔ a.map Char.toLower = b.map Char.toLower := beq_iff_eq

theorem sameName_congr {a b : String} (h : sameName a b = true) (name : String) :
    sameName a name = sameName b name := by
  rw [sameName, sameName, sameName_iff.1 h]

theorem sameName_eq (a b : String) :
    sameName a b = (a.toList.map Char.toLower == b.toList.map Char.toLower) := by
  rw [Bool.eq_iff_iff]
  simp [sameName, ← String.toList_inj]

theorem header?_eq_some_iff {delivery : Delivery} {name value : String} :
    delivery.header? name = some value ↔
      FirstGiven delivery.headers (sameName · name = true) value :=
  find_given_eq_some_iff (sameName · name)

theorem header?_eq_none_iff {delivery : Delivery} {name : String} :
    delivery.header? name = none ↔ NoneGiven delivery.headers (sameName · name = true) :=
  find_given_eq_none_iff (sameName · name)

theorem param?_eq_some_iff {delivery : Delivery} {name value : String} :
    delivery.param? name = some value ↔
      ∃ query, delivery.query = some query ∧ FirstGiven (Query.params query) (· = name) value := by
  simp only [param?, Option.bind_eq_bind, Option.bind_eq_some_iff,
    find_given_eq_some_iff (· == name), beq_iff_eq]

end Delivery

end WebhookRelay
