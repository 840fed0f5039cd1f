import Mathlib.Data.List.Forall2
import WebhookRelay.Proofs.Table
import WebhookRelay.Provider

/-!
The guess of a provider from the name of a host. Providers are ranked, and of those whose names
stand in the host the first counts, in whatever case and at whatever places they stand there.
-/

namespace WebhookRelay.Provider

/-- The providers that hosts are named after, the ones that count first before the others. -/
def ranking : List Provider := [github, gitlab, gitea, gogs, stash, bitbucket]

/-- A host with its ASCII letters in lower case. -/
def lowered (host : String) : String := host.map Char.toLower

/-- Whether the name of a provider is a part of a text. -/
def NamedIn (provider : Provider) (text : String) : Prop := provider.name.toList <:+: text.toList

/-- Whether a provider is named in a text and none that ranks before it is. -/
def FirstNamedIn (provider : Provider) (text : String) : Prop :=
  ∃ before after, ranking = before ++ provider :: after ∧ provider.NamedIn text ∧
    ∀ other ∈ before, ¬ other.NamedIn text

/-- The letters that have a case in ASCII, the upper before the lower. -/
def letters : List (Char × Char) :=
  "ABCDEFGHIJKLMNOPQRSTUVWXYZ".toList.zip "abcdefghijklmnopqrstuvwxyz".toList

/-- Whether a character is another one, but for the case of an ASCII letter. -/
def Recased (c d : Char) : Prop := d = c ∨ (c, d) ∈ letters ∨ (d, c) ∈ letters

/-- Whether two texts differ in nothing but the case of ASCII letters. -/
def SameButCase (text other : String) : Prop := List.Forall₂ Recased text.toList other.toList

instance : DecidableRel Recased := fun c d =>
  inferInstanceAs (Decidable (d = c ∨ (c, d) ∈ letters ∨ (d, c) ∈ letters))

instance : DecidableRel SameButCase := fun text other =>
  inferInstanceAs (Decidable (List.Forall₂ Recased text.toList other.toList))

section Named

variable {text : String} {provider : Provider}

/-- The provider that ranks first of those that are named in a text. -/
def named? (text : String) : Option Provider :=
  ranking.find? fun provider => Text.occurs provider.name.toList text.toList

theorem named?_eq_some_iff : named? text = some provider ↔ provider.FirstNamedIn text := by
  simp only [named?, List.find?_eq_some_iff_append, Bool.not_eq_true', ← Bool.not_eq_true,
    Text.occurs_iff, FirstNamedIn, NamedIn]
  constructor
  · rintro ⟨hn, before, after, hr, hb⟩
    exact ⟨before, after, hr, hn, hb⟩
  · rintro ⟨before, after, hr, hn, hb⟩
    exact ⟨hn, before, after, hr, hb⟩

theorem named?_eq_none_iff : named? text = none ↔ ∀ other ∈ ranking, ¬ other.NamedIn text := by
  simp only [named?, List.find?_eq_none, Text.occurs_iff, NamedIn]

/-- What the marks of hosts tell is what the names of providers tell. -/
theorem find_hostMarks (text : String) :
    (hostMarks.find? fun (mark, _) => Text.occurs mark.toList text.toList) =
      (named? text).map fun provider => (provider.name, provider) := by
  have hm : hostMarks = ranking.map fun provider => (provider.name, provider) := rfl
  rw [hm, List.find?_map]
  rfl

/-- A known host names the provider that it belongs to. -/
theorem named?_of_known : ∀ pair ∈ knownHosts, named? pair.1 = some pair.2 := by decide +kernel

end Named

/-- The known hosts are told by the names in them like all other hosts. -/
theorem ofHost_eq (host : String) :
    ofHost host =
      match named? (lowered host) with
      | some provider => .ok provider
      | none => .error (lowered host) := by
  have hm := find_hostMarks (lowered host)
  rw [lowered] at hm ⊢
  simp only [ofHost, hm]
  cases hk : knownHosts.lookup (host.map Char.toLower) with
  | some provider => rw [named?_of_known _ (mem_of_lookup hk)]
  | none => cases named? (host.map Char.toLower) <;> rfl

theorem ofHost_eq_ok_iff {host : String} {provider : Provider} :
    ofHost host = .ok provider ↔ provider.FirstNamedIn (lowered host) := by
  rw [ofHost_eq, ← named?_eq_some_iff]
  cases named? (lowered host) <;> simp

theorem ofHost_eq_error_iff {host rest : String} :
    ofHost host = .error rest ↔
      rest = lowered host ∧ ∀ other ∈ ranking, ¬ other.NamedIn (lowered host) := by
  rw [ofHost_eq, ← named?_eq_none_iff]
  cases named? (lowered host) <;> simp [eq_comm]

theorem toLower_of_mem_letters :
    ∀ pair ∈ letters, pair.1.toLower = pair.2 ∧ pair.2.toLower = pair.2 := by decide

theorem toLower_of_recased {c d : Char} (h : Recased c d) : c.toLower = d.toLower := by
  rcases h with rfl | h | h
  · rfl
  · obtain ⟨hc, hd⟩ := toLower_of_mem_letters _ h
    exact hc.trans hd.symm
  · obtain ⟨hd, hc⟩ := toLower_of_mem_letters _ h
    exact hc.trans hd.symm

theorem lowered_of_sameButCase {host other : String} (h : SameButCase host other) :
    lowered other = lowered host := by
  have hl : List.Forall₂ (fun c d : Char => c.toLower = d.toLower) host.toList other.toList :=
    h.imp fun _ _ hc => toLower_of_recased hc
  rw [← String.toList_inj, lowered, lowered, String.toList_map, String.toList_map, eq_comm,
    ← List.forall₂_eq_eq_eq, List.forall₂_map_left_iff, List.forall₂_map_right_iff]
  exact hl

/-- A host is taken for the first provider in the ranking whose name stands in it, whatever the
case of its letters. It is unknown if no name stands in it. No known host is an exception. -/
theorem host_told_by_first_name (host : String) :
    (∀ provider, ofHost host = .ok provider ↔ provider.FirstNamedIn (lowered host)) ∧
    (∀ rest, ofHost host = .error rest ↔
      rest = lowered host ∧ ∀ other ∈ ranking, ¬ other.NamedIn (lowered host)) ∧
    (∀ provider, (lowered host, provider) ∈ knownHosts → provider.FirstNamedIn (lowered host)) ∧
    ∀ other, SameButCase host other → ofHost other = ofHost host := by
  refine ⟨fun _ => ofHost_eq_ok_iff, fun _ => ofHost_eq_error_iff, fun provider hk => ?_,
    fun other hs => ?_⟩
  · exact named?_eq_some_iff.1 (named?_of_known _ hk)
  · rw [ofHost_eq, ofHost_eq, lowered_of_sameButCase hs]

/-- The names of two providers stand in this host. -/
theorem stashHost_told :
    SameButCase "Stash.BitBucket.org" "STASH.bitbucket.org" ∧
      ofHost "STASH.bitbucket.org" = ofHost "Stash.BitBucket.org" ∧
      ofHost "Stash.BitBucket.org" = .ok stash := by
  have hs : SameButCase "Stash.BitBucket.org" "STASH.bitbucket.org" := by decide +kernel
  have hn : stash.FirstNamedIn (lowered "Stash.BitBucket.org") :=
    named?_eq_some_iff.1 (by decide +kernel)
  obtain ⟨hok, -, -, hcase⟩ := host_told_by_first_name "Stash.BitBucket.org"
  exact ⟨hs, hcase _ hs, (hok stash).2 hn⟩

end WebhookRelay.Provider
