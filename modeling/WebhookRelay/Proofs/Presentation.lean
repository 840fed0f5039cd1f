import WebhookRelay.Proofs.Decoding
import WebhookRelay.Proofs.Payload.Rewriting

/-!
Decoding depends on what a payload says, and not on how it is written.
-/

namespace WebhookRelay

/-- The site of the whole payload of a named event. Nothing is read of that of an unknown one. -/
def Provider.site? (provider : Provider) (event : String) : Option Payload.Site :=
  (provider.reading? event).map fun reading => ⟨reading.shape⟩

/-- Whether two results are the same event with the same secret, or blame the same unknown kind, or
find both payloads malformed. -/
inductive SameVerdict : Except DecodeError Decoded → Except DecodeError Decoded → Prop
  | decoded (event : Decoded) : SameVerdict (.ok event) (.ok event)
  | unknown (kind : String) :
      SameVerdict (.error (.unknownEvent kind)) (.error (.unknownEvent kind))
  | malformed (fault other : Payload.Fault) :
      SameVerdict (.error (.malformed fault)) (.error (.malformed other))

theorem SameVerdict.refl (result : Except DecodeError Decoded) : SameVerdict result result :=
  match result with
  | .ok event => .decoded event
  | .error (.unknownEvent kind) => .unknown kind
  | .error (.malformed fault) => .malformed fault fault

theorem Reading.sameVerdict_run {reading : Reading} {s t : List UInt8}
    (h : (reading.shape.parse s).toOption = (reading.shape.parse t).toOption) :
    SameVerdict (reading.run s) (reading.run t) := by
  unfold Reading.run
  cases hs : reading.shape.parse s with
  | error fault =>
    cases ht : reading.shape.parse t with
    | error other => exact .malformed fault other
    | ok payload =>
      rw [hs, ht] at h
      cases h
  | ok payload =>
    rw [hs] at h
    rw [Payload.toOption_eq_some_iff.1 h.symm]
    exact .refl _

/-- However the payload of an event is rewritten, it is decoded to the same. -/
theorem decode_of_rewrites {provider : Provider} {dialect : Dialect}
    (hd : provider.dialect? = some dialect) (event : String) {s t : List UInt8}
    (h : Relation.EqvGen (Payload.Rewrites (provider.site? event)) s t) :
    SameVerdict (dialect.decode event s) (dialect.decode event t) := by
  unfold Provider.site? at h
  cases hr : provider.reading? event with
  | none =>
    have he := Provider.reading?_eq_none_iff.1 hr
    rw [decode_of_unknown hd he, decode_of_unknown hd he]
    exact .unknown event
  | some reading =>
    rw [hr] at h
    rw [decode_of_reading hd hr, decode_of_reading hd hr]
    exact Reading.sameVerdict_run (Payload.toOption_parse_of_rewrites h)

section Example

open Payload

def tagRepo : Node :=
  .object [(ascii "id", .number (ascii "1")), (ascii "owner", .object [] .closed),
    (ascii "name", .text (ascii "n"))] .closed

theorem writes_tagRepo :
    Writes (.value tagRepo) (ascii "\x7b\"id\":1,\"owner\":\x7b\x7d,\"name\":\"n\"\x7d") := by
  have hone : IsWhole (ascii "1") := @IsWhole.digits _ [] rfl rfl rfl
  have hid : Writes (.member (ascii "id") (.number (ascii "1"))) _ :=
    writes_member (isText_of_plain rfl) (.number (.mk (.inl rfl) hone .none .none))
  have howner : Writes (.member (ascii "owner") (.object [] .closed)) _ :=
    writes_member (isText_of_plain rfl) (@Writes.emptyObject [] rfl)
  have hname : Writes (.member (ascii "name") (.text (ascii "n"))) _ :=
    writes_member (isText_of_plain rfl) (.text (isText_of_plain rfl))
  exact .object (.members hid (.members howner (.lastMember hname)))

/-- What tells of a new tag, after its name. -/
def tagMembers : List (Spelling × Node) :=
  [(ascii "ref_type", .text (ascii "tag")), (ascii "repository", tagRepo),
    (ascii "sender", .object [] .closed)]

def tagText : Spelling :=
  ascii <|
    "\"ref_type\":\"tag\",\"repository\":\x7b\"id\":1,\"owner\":\x7b\x7d,\"name\":\"n\"\x7d," ++
    "\"sender\":\x7b\x7d"

theorem writes_tagMembers : Writes (.members tagMembers) tagText := by
  have htype : Writes (.member (ascii "ref_type") (.text (ascii "tag"))) _ :=
    writes_member (isText_of_plain rfl) (.text (isText_of_plain rfl))
  have hrepo : Writes (.member (ascii "repository") tagRepo) _ :=
    writes_member (isText_of_plain rfl) writes_tagRepo
  have hsender : Writes (.member (ascii "sender") (.object [] .closed)) _ :=
    writes_member (isText_of_plain rfl) (@Writes.emptyObject [] rfl)
  exact .members htype (.members hrepo (.lastMember hsender))

def plainTag : List UInt8 := ascii "\x7b\"ref\":\"v\"," ++ tagText ++ ascii "\x7d"

/-- The same with a hash that is null. -/
def nullTag : List UInt8 := ascii "\x7b\"ref\":\"v\",\"sha\":null," ++ tagText ++ ascii "\x7d"

/-- The same with an escape too, and a blank before and after. -/
def escapedTag : List UInt8 :=
  ascii " \x7b\"ref\":\"\\u0076\",\"sha\":null," ++ tagText ++ ascii "\x7d\n"

theorem writes_nullTag :
    Writes (.spaced (.object ((ascii "ref", .text (ascii "v")) :: (ascii "sha", .null) ::
      tagMembers) .closed)) nullTag := by
  have href : Writes (.member (ascii "ref") (.text (ascii "v"))) _ :=
    writes_member (isText_of_plain rfl) (.text (isText_of_plain rfl))
  have hsha : Writes (.member (ascii "sha") .null) _ :=
    writes_member (isText_of_plain rfl) .null
  exact @Writes.spaced _ [] _ [] rfl (.object (.members href (.members hsha writes_tagMembers))) rfl

theorem plainTag_rewrites_nullTag :
    Rewrites (Provider.gitea.site? "create") plainTag nullTag := by
  have href : Writes (.member (ascii "ref") (.text (ascii "v"))) _ :=
    writes_member (isText_of_plain rfl) (.text (isText_of_plain rfl))
  have hp : Writes (.spaced (.object ((ascii "ref", .text (ascii "v")) :: tagMembers) .closed))
      plainTag := @Writes.spaced _ [] _ [] rfl (.object (.members href writes_tagMembers)) rfl
  have hk : (ascii "sha").decode = .ok "sha" := by
    apply toOption_eq_some_iff.1
    decide +kernel
  have hr : "ref" ≠ "sha" := by decide
  have ht : "ref_type" ≠ "sha" := by decide
  have ho : Site.MayBeNull ⟨Gitea.RefPayload.shape⟩ "sha" :=
    And.intro hr (And.intro ht (Or.inl rfl))
  have hm : ∀ member ∈ (ascii "ref", .text (ascii "v")) :: tagMembers,
      isUnder "sha" member = false := by decide +kernel
  exact ⟨_, _, hp, writes_nullTag,
    @Edit.insertNull _ [(ascii "ref", .text (ascii "v"))] _ _ _ hk ho hm⟩

theorem nullTag_rewrites_escapedTag :
    Rewrites (Provider.gitea.site? "create") nullTag escapedTag := by
  have hu : IsText (ascii "\\u0076") := .unit rfl rfl rfl rfl .nil
  have href : Writes (.member (ascii "ref") (.text (ascii "\\u0076"))) _ :=
    writes_member (isText_of_plain rfl) (.text hu)
  have hsha : Writes (.member (ascii "sha") .null) _ :=
    writes_member (isText_of_plain rfl) .null
  have he : Writes (.spaced (.object ((ascii "ref", .text (ascii "\\u0076")) ::
      (ascii "sha", .null) :: tagMembers) .closed)) escapedTag :=
    @Writes.spaced _ (ascii " ") _ (ascii "\n") rfl
      (.object (.members href (.members hsha writes_tagMembers))) rfl
  have hs : (ascii "v").Same (ascii "\\u0076") := by
    unfold Spelling.Same
    decide +kernel
  exact ⟨_, _, writes_nullTag, he, @Edit.member _ [] _ _ _ _ (.respell hs)⟩

theorem escapedTag_same :
    Relation.EqvGen (Rewrites (Provider.gitea.site? "create")) plainTag escapedTag ∧
    SameVerdict (Gitea.dialect.decode "create" plainTag)
      (Gitea.dialect.decode "create" escapedTag) ∧
    (Gitea.dialect.decode "create" plainTag).toOption.isSome = true := by
  have hr : Relation.EqvGen (Rewrites (Provider.gitea.site? "create")) plainTag escapedTag :=
    .trans _ _ _ (.rel _ _ plainTag_rewrites_nullTag) (.rel _ _ nullTag_rewrites_escapedTag)
  have hd : Provider.gitea.dialect? = some Gitea.dialect := rfl
  exact ⟨hr, decode_of_rewrites hd "create" hr, by decide +kernel⟩

end Example

end WebhookRelay
