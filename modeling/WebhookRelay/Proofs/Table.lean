/-!
Looking up tables that are lists of keys with values.
-/

namespace WebhookRelay

variable {β : Type} {table : List (String × β)} {key : String} {value : β}

theorem lookup_eq_none_iff (table : List (String × β)) (key : String) :
    table.lookup key = none ↔ key ∉ table.map Prod.fst := by
  rw [List.lookup_eq_none_iff, List.mem_map]
  constructor
  · rintro h ⟨pair, hp, rfl⟩
    have := h pair hp
    simp at this
  · intro h pair hp
    rw [bne_iff_ne]
    rintro rfl
    exact h ⟨pair, hp, rfl⟩

theorem mem_of_lookup (h : table.lookup key = some value) : (key, value) ∈ table := by
  obtain ⟨before, after, ht, -⟩ := List.lookup_eq_some_iff.1 h
  rw [ht]
  exact List.mem_append_right before List.mem_cons_self

/-- In a table that finds each of its own pairs, no pair hides another. -/
theorem lookup_eq_some_iff (hall : ∀ pair ∈ table, table.lookup pair.1 = some pair.2) :
    table.lookup key = some value ↔ (key, value) ∈ table :=
  ⟨mem_of_lookup, hall (key, value)⟩

end WebhookRelay
