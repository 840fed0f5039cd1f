import Mathlib.Logic.Relation
import WebhookRelay.Rule

/-!
The rule that decides for a repository, and the changes of a list of rules that leave it the same.
-/

namespace WebhookRelay.Rule

def Applies (rule : Rule) (provider : Provider) (fullName : String) : Prop :=
  rule.provider = provider ∧ rule.pattern.occursIn fullName = true

/-- Whether a rule applies to a repository and none before it does. -/
def IsFirst (rules : List Rule) (provider : Provider) (fullName : String) (rule : Rule) : Prop :=
  ∃ before after, rules = before ++ rule :: after ∧ rule.Applies provider fullName ∧
    ∀ other ∈ before, ¬ other.Applies provider fullName

/-- Whether deliveries for a repository need no proof. -/
def Unguarded (rules : List Rule) (provider : Provider) (fullName : String) : Prop :=
  (∀ rule ∈ rules, ¬ rule.Applies provider fullName) ∨
    ∃ rule, IsFirst rules provider fullName rule ∧ rule.secret = ""

/-- A change that does not concern a repository: behind a rule that applies to it, or of a rule
that does not. -/
inductive Edit (provider : Provider) (fullName : String) : List Rule → List Rule → Prop
  | behind (before after other : List Rule) {rule : Rule} (h : rule.Applies provider fullName) :
      Edit provider fullName (before ++ rule :: after) (before ++ rule :: other)
  | insert (before after : List Rule) {rule : Rule} (h : ¬ rule.Applies provider fullName) :
      Edit provider fullName (before ++ after) (before ++ rule :: after)
  | delete (before after : List Rule) {rule : Rule} (h : ¬ rule.Applies provider fullName) :
      Edit provider fullName (before ++ rule :: after) (before ++ after)
  | swap (before after : List Rule) {rule other : Rule}
      (h : ¬ rule.Applies provider fullName ∨ ¬ other.Applies provider fullName) :
      Edit provider fullName (before ++ rule :: other :: after) (before ++ other :: rule :: after)

variable {rules other : List Rule} {provider : Provider} {fullName : String} {rule : Rule}

theorem appliesTo_iff : rule.appliesTo provider fullName = true ↔ rule.Applies provider fullName := by
  simp [appliesTo, Applies]

theorem first?_eq_some_iff :
    first? rules provider fullName = some rule ↔ IsFirst rules provider fullName rule := by
  simp only [first?, List.find?_eq_some_iff_append, appliesTo_iff, IsFirst, Bool.not_eq_true',
    ← Bool.not_eq_true]
  constructor
  · rintro ⟨ha, before, after, hr, hb⟩
    exact ⟨before, after, hr, ha, hb⟩
  · rintro ⟨before, after, hr, ha, hb⟩
    exact ⟨ha, before, after, hr, hb⟩

theorem first?_eq_none_iff :
    first? rules provider fullName = none ↔ ∀ rule ∈ rules, ¬ rule.Applies provider fullName := by
  simp only [first?, List.find?_eq_none, appliesTo_iff]

theorem keyFor_of_isFirst (h : IsFirst rules provider fullName rule) :
    keyFor rules provider fullName = rule.secret := by
  rw [keyFor, first?_eq_some_iff.2 h]
  rfl

theorem keyFor_of_none (h : ∀ rule ∈ rules, ¬ rule.Applies provider fullName) :
    keyFor rules provider fullName = "" := by
  rw [keyFor, first?_eq_none_iff.2 h]
  rfl

theorem keyFor_eq_empty_iff :
    keyFor rules provider fullName = "" ↔ Unguarded rules provider fullName := by
  constructor
  · intro hk
    cases hf : first? rules provider fullName with
    | none => exact .inl (first?_eq_none_iff.1 hf)
    | some rule =>
      have hr := first?_eq_some_iff.1 hf
      exact .inr ⟨rule, hr, (keyFor_of_isFirst hr).symm.trans hk⟩
  · rintro (hn | ⟨rule, hr, hs⟩)
    · exact keyFor_of_none hn
    · exact (keyFor_of_isFirst hr).trans hs

theorem not_unguarded_iff :
    ¬ Unguarded rules provider fullName ↔
      ∃ rule, IsFirst rules provider fullName rule ∧ rule.secret ≠ "" := by
  rw [← keyFor_eq_empty_iff]
  constructor
  · intro hk
    cases hf : first? rules provider fullName with
    | none => exact absurd (keyFor_of_none (first?_eq_none_iff.1 hf)) hk
    | some rule =>
      have hr := first?_eq_some_iff.1 hf
      exact ⟨rule, hr, keyFor_of_isFirst hr ▸ hk⟩
  · rintro ⟨rule, hr, hs⟩
    rwa [keyFor_of_isFirst hr]

theorem first?_of_edit (h : Edit provider fullName rules other) :
    first? rules provider fullName = first? other provider fullName := by
  have skip {rule : Rule} (h : ¬ rule.Applies provider fullName) :
      rule.appliesTo provider fullName = false :=
    Bool.eq_false_iff.2 (mt appliesTo_iff.1 h)
  cases h with
  | behind before after other h =>
    simp only [first?, List.find?_append, List.find?_cons, appliesTo_iff.2 h]
  | insert before after h => simp only [first?, List.find?_append, List.find?_cons, skip h]
  | delete before after h => simp only [first?, List.find?_append, List.find?_cons, skip h]
  | swap before after h =>
    obtain h | h := h <;> simp only [first?, List.find?_append, List.find?_cons, skip h]

theorem keyFor_of_edits (h : Relation.ReflTransGen (Edit provider fullName) rules other) :
    keyFor rules provider fullName = keyFor other provider fullName := by
  induction h with
  | refl => rfl
  | tail _ he ih => rw [ih, keyFor, first?_of_edit he, keyFor]

end WebhookRelay.Rule
