import WebhookRelay.Proofs.Payload.Literal
import WebhookRelay.Proofs.Receiver
import WebhookRelay.Proofs.Route
import WebhookRelay.Provider.Reading
import WebhookRelay.Rule.Reading

/-!
What the names of providers stand for, wherever they are read or written: in the path of a request,
in a JSON text, in a rule and in the lines of events.
-/

namespace WebhookRelay

namespace Provider

/-- The names that a provider goes by beside its own. -/
def aliases : Provider → List String
  | bitbucket => ["bitbucketcloud"]
  | stash => ["bitbucketserver"]
  | fake => ["fakegit"]
  | _ => []

theorem ofName?_eq_some_iff {name : String} {provider : Provider} :
    ofName? name = some provider ↔
      name = "" ∧ provider = github ∨ name = provider.name ∨ name ∈ provider.aliases := by
  rw [← mem_spellings_iff]
  cases provider <;> simp [spellings, Provider.name, aliases, or_comm]

theorem ofTag?_eq_some_iff {text : String} {provider : Provider} :
    ofTag? text = some provider ↔ text = provider.tag ∨ text ∈ provider.aliases := by
  have hm : ofTag? text = some provider ↔ (text, provider) ∈ tags :=
    lookup_eq_some_iff (by decide +kernel)
  rw [hm]
  cases provider <;> simp [tags, tag, aliases, or_comm]

theorem ofName?_name (provider : Provider) : ofName? provider.name = some provider :=
  ofName?_eq_some_iff.2 (.inr (.inl rfl))

theorem empty_not_called (provider : Provider) :
    ¬ ("" = provider.tag ∨ "" ∈ provider.aliases) := by
  cases provider <;> decide

/-- Only the empty name is read in a path and not in a record. -/
theorem ofTag?_iff {name : String} {provider : Provider} :
    ofTag? name = some provider ↔ name ≠ "" ∧ ofName? name = some provider := by
  rw [ofTag?_eq_some_iff, ofName?_eq_some_iff, ← tag_eq_name]
  constructor
  · intro h
    refine ⟨?_, .inr h⟩
    rintro rfl
    exact provider.empty_not_called h
  · rintro ⟨hn, ⟨he, -⟩ | h⟩
    · exact absurd he hn
    · exact h

section Json

open Payload

theorem named_eq_ok_iff {spelling : Spelling} {name : String} (h : spelling.decode = .ok name)
    {provider : Provider} :
    Reading.named (.text spelling) = .ok provider ↔ ofTag? name = some provider := by
  simp only [Reading.named, Node.found, h]
  cases hp : ofTag? name <;> simp [hp, pure, Except.pure, bind, Except.bind]

theorem lead_quote {before : Spelling} (hb : before.all isBlank = true) (rest : Spelling) :
    Reading.lead (before ++ '"'.toUInt8 :: rest) =
      (Reading.named (scan ('"'.toUInt8 :: rest)).1).map fun provider =>
        (provider, (scan ('"'.toUInt8 :: rest)).2) := by
  have hq : isBlank '"'.toUInt8 = false := rfl
  have hd : (before ++ '"'.toUInt8 :: rest).dropWhile isBlank = '"'.toUInt8 :: rest := by
    rw [List.dropWhile_append_of_pos (List.all_eq_true.1 hb),
      List.dropWhile_cons_of_neg (by simp [hq])]
  have hi : is '"' '"'.toUInt8 = true := rfl
  rw [Reading.lead, hd]
  simp only [hi, if_true]
  cases Reading.named (scan ('"'.toUInt8 :: rest)).1 <;> rfl

/-- A literal is read as the name that it denotes, whatever its escapes. -/
theorem ofJson_of_literal {name : String} {text : Spelling} (h : Literal name text) :
    ∃ spelling, spelling.decode = .ok name ∧ ofJson text = Reading.named (.text spelling) := by
  obtain @⟨before, spelling, after, hb, h, ha⟩ := h
  have hn : Literal name ([] ++ ('"'.toUInt8 :: (spelling ++ ['"'.toUInt8]) ++ after)) :=
    .mk rfl h ha
  obtain ⟨found, blanks, hs, hr, hf⟩ := scan_of_literal hn
  rw [List.nil_append, List.cons_append] at hs
  refine ⟨found, hf, ?_⟩
  rw [ofJson, List.cons_append, lead_quote hb, hs]
  cases Reading.named (.text found) with
  | error fault => rfl
  | ok provider => exact if_pos hr

theorem ofJson_eq_ok_iff {name : String} {text : Spelling} (h : Literal name text)
    {provider : Provider} :
    ofJson text = .ok provider ↔ name ≠ "" ∧ ofName? name = some provider := by
  obtain ⟨spelling, hs, ht⟩ := ofJson_of_literal h
  rw [ht, named_eq_ok_iff hs, ofTag?_iff]

end Json

end Provider

namespace Rule

/-- Whether a node is that of a rule, except that `name` may be no name of a provider. -/
inductive Written (name : String) : Yaml.Node → Prop
  | mk {node driver repository secret : Yaml.Node} {spelling key : String} {pattern : Pattern}
      (hm : node.members? ["driver", "repository", "secret"] =
        some [some driver, some repository, some secret])
      (hd : driver.text? = some name) (hr : repository.text? = some spelling)
      (hp : Pattern.ofText? spelling = some pattern) (hs : secret.text? = some key) :
      Written name node

theorem map_provider_ofNode? {name : String} {node : Yaml.Node} (h : Written name node) :
    (ofNode? node).map Rule.provider = Provider.ofTag? name := by
  obtain ⟨hm, hd, hr, hp, hs⟩ := h
  simp only [ofNode?, hm, hd, hr, hp, hs, Option.bind_eq_bind, Option.bind_some]
  cases Provider.ofTag? name <;> rfl

theorem exists_written {node : Yaml.Node} {rule : Rule} (h : ofNode? node = some rule) :
    ∃ name, Written name node := by
  obtain ⟨members, hm, h⟩ := Option.bind_eq_some_iff.1 h
  split at h
  · next driver repository secret =>
    simp only [Option.bind_eq_bind, Option.bind_eq_some_iff] at h
    obtain ⟨name, hd, provider, -, spelling, hr, pattern, hp, key, hs, -⟩ := h
    exact ⟨name, .mk hm hd hr hp hs⟩
  · cases h

end Rule

namespace Receiver

theorem mem_of_mem_requests {isOpen : Bool} {occasions : List Occasion} {pair : Request × Bool}
    (h : pair ∈ requests isOpen occasions) : .request pair.1 ∈ occasions := by
  induction occasions generalizing isOpen with
  | nil => cases h
  | cons occasion rest ih =>
    cases occasion with
    | request r =>
      rcases List.mem_cons.1 h with rfl | h
      · exact List.mem_cons_self
      · exact List.mem_cons_of_mem _ (ih h)
    | close => exact List.mem_cons_of_mem _ (ih h)

/-- Every line that is written tells an event that some request brought. -/
theorem exists_brings_of_line {rules : List Rule} {isOpen : Bool} {occasions : List Occasion}
    {response : Response} {line : String} (h : response ∈ run rules isOpen occasions)
    (hl : line ∈ response.lines) :
    ∃ r provider delivery event, .request r ∈ occasions ∧ r.Brings provider delivery event ∧
      line = event.line provider := by
  rw [run_eq_map] at h
  obtain ⟨⟨r, isOpen⟩, hr, rfl⟩ := List.mem_map.1 h
  have hf := reply_faithful rules r isOpen
  by_cases hs : (reply rules isOpen r).status = 200
  · obtain ⟨provider, delivery, event, hb, he, -⟩ := hf.of_accepted hs
    rw [he] at hl
    exact ⟨r, provider, delivery, event, mem_of_mem_requests hr, hb, List.mem_singleton.1 hl⟩
  · rw [(hf.of_refused hs).1] at hl
    cases hl

/-- A rule and a delivery that are for the same name are for the same provider. -/
theorem Request.carries_iff_rule {name : String} {node : Yaml.Node} (hw : Rule.Written name node)
    {r : Request} (hn : r.Names name) {delivery : Delivery} (hd : r.delivery = .ok delivery)
    (provider : Provider) :
    r.Carries provider delivery ↔
      ∃ rule, Rule.ofNode? node = some rule ∧ rule.provider = provider := by
  rw [← Option.map_eq_some_iff, Rule.map_provider_ofNode? hw, Provider.ofTag?_iff, carries_iff,
    route?_eq_some_iff.2 hn]
  simp [hn.ne_empty, hd]

end Receiver

namespace Provider

open Json Payload Receiver

theorem compact_toJson (provider : Provider) :
    provider.toJson.compact = "\"" ++ provider.name ++ "\"" := by
  cases provider <;> decide +kernel

theorem ofJson_toJson (provider : Provider) :
    ofJson (Text.Utf8.encode provider.toJson.compact) = .ok provider := by
  have hl : Literal provider.tag (Text.Utf8.encode provider.toJson.compact) :=
    literal_compact provider.tag
  exact (ofJson_eq_ok_iff hl).2 (ofTag?_iff.1 (ofTag?_eq_some_iff.2 (.inl rfl)))

/-- A name stands for the same provider wherever it is read, and what is written of a provider is
a name of it. -/
theorem names_agree :
    (∀ name text, Literal name text → ∀ provider,
      ofJson text = .ok provider ↔ name ≠ "" ∧ ofName? name = some provider) ∧
    (∀ name provider, ofName? name = some provider ↔
      name = "" ∧ provider = github ∨ name = provider.name ∨ name ∈ provider.aliases) ∧
    (∀ provider, ofName? provider.name = some provider ∧
      provider.toJson.compact = "\"" ++ provider.name ++ "\"" ∧
      ofJson (Text.Utf8.encode provider.toJson.compact) = .ok provider) ∧
    (∀ node rule, Rule.ofNode? node = some rule → ∃ name, Rule.Written name node) ∧
    (∀ name node, Rule.Written name node →
      ∀ (r : Request) delivery, r.Names name → r.delivery = .ok delivery →
        ∀ provider, r.Carries provider delivery ↔
          ∃ rule, Rule.ofNode? node = some rule ∧ rule.provider = provider) ∧
    (∀ rules isOpen occasions, ∀ response ∈ run rules isOpen occasions,
      ∀ line ∈ response.lines, ∃ r provider delivery event name,
        .request r ∈ occasions ∧ r.Brings provider delivery event ∧
        Value.ofText? line = some (.obj [("driver", .str name), ("event", event.toJson)]) ∧
        ofName? name = some provider) := by
  refine ⟨fun name text h provider => ofJson_eq_ok_iff h,
    fun name provider => ofName?_eq_some_iff,
    fun provider => ⟨ofName?_name provider, compact_toJson provider, ofJson_toJson provider⟩,
    fun node rule => Rule.exists_written,
    fun name node hw r delivery hn hd provider => Request.carries_iff_rule hw hn hd provider, ?_⟩
  intro rules isOpen occasions response h line hl
  obtain ⟨r, provider, delivery, event, hr, hb, rfl⟩ := exists_brings_of_line h hl
  refine ⟨r, provider, delivery, event, provider.tag, hr, hb, Value.ofText?_compact _, ?_⟩
  rw [tag_eq_name]
  exact ofName?_name provider

/-- The rule of an alias, and a request for it. -/
def aliasNode : Yaml.Node := .mapping [
  (.scalar true "driver", .scalar true "bitbucketserver"),
  (.scalar true "repository", .scalar false ".*"),
  (.scalar true "secret", .scalar true "key")]

def aliasRequest : Request where
  target := "/api/webhooks/bitbucketserver?secret=key"

theorem aliasNode_written : Rule.Written "bitbucketserver" aliasNode := by
  have hp : (Pattern.ofText? ".*").isSome := by decide +kernel
  obtain ⟨pattern, hp⟩ := Option.isSome_iff_exists.1 hp
  exact .mk rfl rfl rfl hp rfl

theorem literal_alias :
    Literal "bitbucketserver" (Text.Utf8.encode " \"\\u0062itbucketserver\"\n") := by
  have hb : SpellsChar 'b' (unitEscape ['0'.toUInt8, '0'.toUInt8, '6'.toUInt8, '2'.toUInt8]) :=
    .unit (.mk (hexValue?_eq_some_iff.1 rfl) (hexValue?_eq_some_iff.1 rfl)
      (hexValue?_eq_some_iff.1 rfl) (hexValue?_eq_some_iff.1 rfl) rfl)
  have ht : SpellsText "bitbucketserver".toList _ :=
    .cons hb (spellsText_flatMap "itbucketserver".toList)
  have hl : [' '.toUInt8].all isBlank = true := rfl
  have hr : ['\n'.toUInt8].all isBlank = true := rfl
  exact .mk hl ht hr

theorem alias_agrees :
    ofJson (Text.Utf8.encode " \"\\u0062itbucketserver\"\n") = .ok stash ∧
      aliasRequest.Carries stash { query := some "secret=key" } := by
  obtain ⟨hj, -, -, -, hr, -⟩ := names_agree
  have hn : aliasRequest.Names "bitbucketserver" := Request.route?_eq_some_iff.1 (by decide +kernel)
  refine ⟨(hj _ _ literal_alias stash).2 (by decide +kernel), ?_⟩
  -- The rule alone has to be read for the provider of the delivery.
  refine (hr _ _ aliasNode_written aliasRequest _ hn rfl stash).2 ?_
  exact Option.map_eq_some_iff.1 (by decide +kernel)

end Provider

end WebhookRelay
