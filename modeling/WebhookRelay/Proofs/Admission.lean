import WebhookRelay.Proofs.Receiver
import WebhookRelay.Proofs.Rule

/-!
Which deliveries need a proof, and of which key: that is for the first rule for their repository to
say, whatever the other rules are.
-/

namespace WebhookRelay.Receiver

open Rule

variable {rules other : List Rule} {r : Request} {provider : Provider} {delivery : Delivery}
  {event : Event}

theorem admitted_of_unguarded (hu : Unguarded rules provider event.repo.fullName) :
    Admitted rules provider delivery event :=
  .inl (keyFor_eq_empty_iff.2 hu)

theorem admitted_iff_of_isFirst {rule : Rule}
    (hr : IsFirst rules provider event.repo.fullName rule) (hs : rule.secret ≠ "") :
    Admitted rules provider delivery event ↔ Proves provider delivery event rule.secret := by
  simp only [Admitted, keyFor_of_isFirst hr, hs, false_or]

theorem admitted_of_edits
    (he : Relation.ReflTransGen (Edit provider event.repo.fullName) rules other) :
    Admitted rules provider delivery event ↔ Admitted other provider delivery event := by
  simp only [Admitted, keyFor_of_edits he]

theorem reply_of_not_admitted (h : r.Brings provider delivery event)
    (ha : ¬ Admitted rules provider delivery event) :
    reply rules true r = { answer := .refused (.unparsed (.forged event)), lines := [] } := by
  rw [reply, serve, (handle_of_brings h _).2 ha]
  rfl

theorem status_eq_iff_admitted (h : r.Brings provider delivery event) :
    (reply rules true r).status = 200 ↔ Admitted rules provider delivery event := by
  by_cases ha : Admitted rules provider delivery event
  · rw [reply_of_admitted h ha]
    exact iff_of_true rfl ha
  · rw [reply_of_not_admitted h ha]
    exact iff_of_false (show (401 : Nat) ≠ 200 by decide) ha

theorem status_of_unguarded (h : r.Brings provider delivery event)
    (hu : Unguarded rules provider event.repo.fullName) : (reply rules true r).status = 200 :=
  (status_eq_iff_admitted h).2 (admitted_of_unguarded hu)

theorem status_eq_iff_proves {rule : Rule} (h : r.Brings provider delivery event)
    (hr : IsFirst rules provider event.repo.fullName rule) (hs : rule.secret ≠ "") :
    (reply rules true r).status = 200 ↔ Proves provider delivery event rule.secret := by
  rw [status_eq_iff_admitted h, admitted_iff_of_isFirst hr hs]

theorem status_of_not_proves {rule : Rule} (h : r.Brings provider delivery event)
    (hr : IsFirst rules provider event.repo.fullName rule) (hs : rule.secret ≠ "")
    (hn : ¬ Proves provider delivery event rule.secret) : (reply rules true r).status = 401 := by
  rw [reply_of_not_admitted h (mt (admitted_iff_of_isFirst hr hs).1 hn)]
  rfl

theorem status_eq_iff_unguarded (h : r.Brings provider delivery event)
    (hn : ∀ rule, IsFirst rules provider event.repo.fullName rule → rule.secret ≠ "" →
      ¬ Proves provider delivery event rule.secret) :
    (reply rules true r).status = 200 ↔ Unguarded rules provider event.repo.fullName := by
  constructor
  · intro hp
    refine Classical.byContradiction fun hu => ?_
    obtain ⟨rule, hr, hs⟩ := not_unguarded_iff.1 hu
    exact hn rule hr hs ((status_eq_iff_proves h hr hs).1 hp)
  · exact status_of_unguarded h

theorem handle_of_edits (h : r.Brings provider delivery event)
    (he : Relation.ReflTransGen (Edit provider event.repo.fullName) rules other)
    (channel : Channel) : handle rules channel r = handle other channel r := by
  by_cases ha : Admitted rules provider delivery event
  · rw [(handle_of_brings h channel).1 ha,
      (handle_of_brings h channel).1 ((admitted_of_edits he).1 ha)]
  · rw [(handle_of_brings h channel).2 ha,
      (handle_of_brings h channel).2 (mt (admitted_of_edits he).2 ha)]

/-- The first rule for the repository decides, by its secret alone, whether a delivery needs a
proof. Without such a rule, or with an empty secret, it needs none. Rules behind that one, and rules
that do not apply to the repository, can come, go and move without any effect. -/
theorem first_rule_decides (rules : List Rule) (h : r.Brings provider delivery event) :
    (Unguarded rules provider event.repo.fullName → (reply rules true r).status = 200) ∧
    (∀ rule, IsFirst rules provider event.repo.fullName rule → rule.secret ≠ "" →
      ((reply rules true r).status = 200 ↔ Proves provider delivery event rule.secret) ∧
      (¬ Proves provider delivery event rule.secret → (reply rules true r).status = 401)) ∧
    ((∀ rule, IsFirst rules provider event.repo.fullName rule → rule.secret ≠ "" →
        ¬ Proves provider delivery event rule.secret) →
      ((reply rules true r).status = 200 ↔ Unguarded rules provider event.repo.fullName)) ∧
    (∀ other, Relation.ReflTransGen (Edit provider event.repo.fullName) rules other →
      ∀ channel, handle rules channel r = handle other channel r) ∧
    (∃ key, (key = "" ↔ Unguarded rules provider event.repo.fullName) ∧
      (∀ rule, IsFirst rules provider event.repo.fullName rule → rule.secret = key) ∧
      ∀ same : Event, same.repo.fullName = event.repo.fullName →
        resolver rules provider same = .ok key) := by
  refine ⟨status_of_unguarded h, fun rule hr hs => ⟨status_eq_iff_proves h hr hs, ?_⟩,
    status_eq_iff_unguarded h, fun other he => handle_of_edits h he, ?_⟩
  · exact status_of_not_proves h hr hs
  · refine ⟨keyFor rules provider event.repo.fullName, keyFor_eq_empty_iff, ?_, ?_⟩
    · intro rule hr
      exact (keyFor_of_isFirst hr).symm
    · intro same hs
      rw [resolver, hs]

def gitHubOpen : Rule where
  provider := .github
  spelling := ""
  pattern := .empty
  secret := ""

def giteaGuarded : Rule where
  provider := .gitea
  spelling := ""
  pattern := .empty
  secret := "k"

/-- A rule for another provider does not open the way for a forged delivery. -/
theorem pushRequest_unauthorized : pushRequest.Brings .gitea signedPush pushedEvent ∧
    (reply [gitHubOpen, giteaGuarded] true pushRequest).status = 401 ∧
    ∀ channel, handle [gitHubOpen, giteaGuarded] channel pushRequest =
      handle [giteaGuarded] channel pushRequest := by
  have hr : IsFirst [gitHubOpen, giteaGuarded] .gitea pushedEvent.repo.fullName giteaGuarded :=
    first?_eq_some_iff.1 (by rfl)
  have hn : ¬ gitHubOpen.Applies .gitea pushedEvent.repo.fullName := fun ⟨hp, _⟩ => by cases hp
  have he : Edit .gitea pushedEvent.repo.fullName [gitHubOpen, giteaGuarded] [giteaGuarded] :=
    .delete [] [giteaGuarded] hn
  have h := first_rule_decides [gitHubOpen, giteaGuarded] pushRequest_brings
  exact ⟨pushRequest_brings, (h.2.1 giteaGuarded hr (by decide)).2 signedPush_not_proves,
    h.2.2.2.1 [giteaGuarded] (.single he)⟩

end WebhookRelay.Receiver
