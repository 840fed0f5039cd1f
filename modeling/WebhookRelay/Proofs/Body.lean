import WebhookRelay.Delivery
import Mathlib.Logic.ExistsUnique

/-!
The body of a delivery: what a source holds becomes the body, however it is cut into reads. A
longer one than a delivery may hold is refused before its end is reached, if it has an end.
-/

namespace WebhookRelay

/-- How a source stops. -/
inductive Stop where
  | ends
  | fails (cause : String)
  deriving DecidableEq, Repr

/-- The read that stops a source. -/
def Stop.read : Stop → Except String (List UInt8)
  | ends => .ok []
  | fails cause => .error cause

theorem Stop.read_inj {a b : Stop} (h : a.read = b.read) : a = b := by
  cases a <;> cases b <;> simp_all [read]

theorem Stop.read_ne_ok_cons (stop : Stop) (b : UInt8) (chunk : List UInt8) :
    stop.read ≠ .ok (b :: chunk) := by
  cases stop <;> simp [read]

/-- The bytes of a source, with no regard to where one read ends and the next begins. -/
inductive Content where
  | finite (bytes : List UInt8) (stop : Stop)
  | endless (bytes : Nat → UInt8)

/-- Whether at least `n` bytes come before the source stops. -/
def Content.Reaches (n : Nat) : Content → Prop
  | finite bytes _ => n ≤ bytes.length
  | endless _ => True

namespace Source

/-- The bytes of the first `turns` reads, if each of them gives some. -/
def given? (source : Source) : Nat → Option (List UInt8)
  | 0 => some []
  | turns + 1 => do
    let given ← source.given? turns
    match source turns with
    | .ok (b :: chunk) => some (given ++ b :: chunk)
    | _ => none

/-- Whether a source has this content. -/
inductive Holds (source : Source) : Content → Prop
  | finite {turns : Nat} {bytes : List UInt8} {stop : Stop}
      (hg : source.given? turns = some bytes) (hs : source turns = stop.read) :
      Holds source (.finite bytes stop)
  | endless {bytes : Nat → UInt8}
      (hg : ∀ turns, ∃ given, source.given? turns = some given ∧
        given = (List.range given.length).map bytes) :
      Holds source (.endless bytes)

section given?

variable {source : Source} {turns : Nat} {given : List UInt8}

theorem given?_succ {b : UInt8} {chunk : List UInt8} (hg : source.given? turns = some given)
    (hr : source turns = .ok (b :: chunk)) :
    source.given? (turns + 1) = some (given ++ b :: chunk) := by
  simp only [given?, hg, hr, Option.bind_eq_bind, Option.bind_some]

theorem exists_of_given?_succ (h : source.given? (turns + 1) = some given) :
    ∃ before b chunk, source.given? turns = some before ∧ source turns = .ok (b :: chunk) ∧
      given = before ++ b :: chunk := by
  rw [given?, Option.bind_eq_bind, Option.bind_eq_some_iff] at h
  obtain ⟨before, hb, hr⟩ := h
  split at hr
  · next b chunk hc => exact ⟨before, b, chunk, hb, hc, (Option.some.inj hr).symm⟩
  · exact nomatch hr

theorem le_length_of_given? (h : source.given? turns = some given) : turns ≤ given.length := by
  induction turns generalizing given with
  | zero => exact Nat.zero_le _
  | succ turns ih =>
    obtain ⟨before, b, chunk, hb, -, rfl⟩ := exists_of_given?_succ h
    have hl := ih hb
    rw [List.length_append, List.length_cons]
    omega

/-- Fewer reads give the beginning of what more of them give. -/
theorem exists_prefix_of_le {fewer : Nat} (hle : fewer ≤ turns)
    (h : source.given? turns = some given) :
    ∃ before, source.given? fewer = some before ∧ before <+: given := by
  induction hle generalizing given with
  | refl => exact ⟨given, h, List.prefix_rfl⟩
  | step hle ih =>
    obtain ⟨middle, b, chunk, hm, -, rfl⟩ := exists_of_given?_succ h
    obtain ⟨before, hb, hp⟩ := ih hm
    exact ⟨before, hb, hp.trans (List.prefix_append middle _)⟩

theorem prefix_of_given? {fewer : Nat} {before : List UInt8} (hle : fewer ≤ turns)
    (hb : source.given? fewer = some before) (h : source.given? turns = some given) :
    before <+: given := by
  obtain ⟨same, hs, hp⟩ := exists_prefix_of_le hle h
  obtain rfl := Option.some.inj (hb.symm.trans hs)
  exact hp

/-- No read gives anything past the one that stops the source. -/
theorem le_of_stop {last : Nat} {stop : Stop} (hs : source last = stop.read)
    (h : source.given? turns = some given) : turns ≤ last := by
  apply Nat.le_of_not_lt
  intro hlt
  obtain ⟨past, hp, -⟩ := exists_prefix_of_le (Nat.succ_le_of_lt hlt) h
  obtain ⟨before, b, chunk, -, hr, -⟩ := exists_of_given?_succ hp
  exact stop.read_ne_ok_cons b chunk (hs.symm.trans hr)

theorem exists_stop_of_given?_eq_none (h : source.given? turns = none) :
    ∃ last given stop, source.given? last = some given ∧ source last = Stop.read stop := by
  induction turns with
  | zero => exact nomatch h
  | succ turns ih =>
    cases hg : source.given? turns with
    | none => exact ih hg
    | some given =>
      match hr : source turns with
      | .error cause => exact ⟨turns, given, .fails cause, hg, hr⟩
      | .ok [] => exact ⟨turns, given, .ends, hg, hr⟩
      | .ok (b :: chunk) => exact nomatch h.symm.trans (given?_succ hg hr)

end given?

section Holds

variable {source : Source} {content other : Content}

theorem Holds.unique (h : source.Holds content) (ho : source.Holds other) : content = other := by
  cases h with
  | @finite turns bytes stop hg hs =>
    cases ho with
    | @finite turns' bytes' stop' hg' hs' =>
      obtain rfl : turns = turns' := Nat.le_antisymm (le_of_stop hs' hg) (le_of_stop hs hg')
      obtain rfl := Option.some.inj (hg.symm.trans hg')
      obtain rfl := Stop.read_inj (hs.symm.trans hs')
      rfl
    | endless hg' =>
      obtain ⟨given, hg', -⟩ := hg' (turns + 1)
      exact absurd (le_of_stop hs hg') (Nat.not_succ_le_self turns)
  | @endless bytes hg =>
    cases ho with
    | @finite turns' bytes' stop' hg' hs' =>
      obtain ⟨given, hg, -⟩ := hg (turns' + 1)
      exact absurd (le_of_stop hs' hg) (Nat.not_succ_le_self turns')
    | @endless bytes' hg' =>
      congr 1
      funext i
      obtain ⟨given, h, he⟩ := hg (i + 1)
      obtain ⟨given', h', he'⟩ := hg' (i + 1)
      obtain rfl := Option.some.inj (h.symm.trans h')
      have hi : i < given.length := le_length_of_given? h
      have hb : ∀ j ∈ List.range given.length, bytes j = bytes' j :=
        List.map_inj_left.1 (he.symm.trans he')
      exact hb i (List.mem_range.2 hi)

/-- The byte at `i`, taken from the reads up to the one that is sure to give it. -/
def byteAt (source : Source) (i : Nat) : UInt8 :=
  ((source.given? (i + 1)).getD [])[i]?.getD 0

theorem given_eq_map_byteAt (h : ∀ turns, ∃ given, source.given? turns = some given) {turns : Nat}
    {given : List UInt8} (hg : source.given? turns = some given) :
    given = (List.range given.length).map source.byteAt := by
  apply List.ext_getElem
  · rw [List.length_map, List.length_range]
  intro i hi _
  obtain ⟨upTo, hu⟩ := h (i + 1)
  have hi' : i < upTo.length := le_length_of_given? hu
  have hb : source.byteAt i = upTo[i] := by
    rw [byteAt, hu, Option.getD_some, List.getElem?_eq_getElem hi', Option.getD_some]
  rw [List.getElem_map, List.getElem_range, hb]
  rcases Nat.le_total turns (i + 1) with hle | hle
  · exact (prefix_of_given? hle hg hu).getElem hi
  · exact ((prefix_of_given? hle hu hg).getElem hi').symm

theorem exists_holds (source : Source) : ∃ content, source.Holds content := by
  by_cases h : ∀ turns, ∃ given, source.given? turns = some given
  · refine ⟨.endless source.byteAt, .endless fun turns => ?_⟩
    obtain ⟨given, hg⟩ := h turns
    exact ⟨given, hg, given_eq_map_byteAt h hg⟩
  · obtain ⟨turns, hn⟩ := Classical.not_forall.1 h
    have hn : source.given? turns = none :=
      Option.eq_none_iff_forall_ne_some.2 fun given hg => hn ⟨given, hg⟩
    obtain ⟨last, given, stop, hg, hs⟩ := exists_stop_of_given?_eq_none hn
    exact ⟨.finite given stop, .finite hg hs⟩

theorem Holds.reaches {turns n : Nat} {given : List UInt8} (h : source.Holds content)
    (hg : source.given? turns = some given) (hn : n ≤ given.length) : content.Reaches n := by
  cases h with
  | finite hb hs =>
    have hp := prefix_of_given? (le_of_stop hs hg) hg hb
    exact Nat.le_trans hn hp.length_le
  | endless => exact trivial

end Holds

/-- How gathering comes out. -/
inductive Gathered (source : Source) : Except BodyError (List (List UInt8)) → Prop
  | tooLarge {turns : Nat} {given : List UInt8} (hg : source.given? turns = some given)
      (hl : maxBody < given.length) : Gathered source (.error .tooLarge)
  | unreadable {turns : Nat} {given : List UInt8} {cause : String}
      (hg : source.given? turns = some given) (hl : given.length ≤ maxBody)
      (hs : source turns = .error cause) : Gathered source (.error (.unreadable cause))
  | whole {turns : Nat} {chunks : List (List UInt8)}
      (hg : source.given? turns = some chunks.flatten) (hl : chunks.flatten.length ≤ maxBody)
      (hs : source turns = .ok []) : Gathered source (.ok chunks)

/-- The chunks so far are what the reads so far gave, and `size` is how much that is. -/
theorem gathered_gather {source : Source} {turn size : Nat} {chunks : List (List UInt8)}
    (hg : source.given? turn = some chunks.reverse.flatten)
    (hs : size = chunks.reverse.flatten.length) :
    source.Gathered (source.gather turn chunks size) := by
  fun_induction source.gather turn chunks size with
  | case1 turn chunks size hl => exact .tooLarge hg (hs ▸ hl)
  | case2 turn chunks size hl cause hr => exact .unreadable hg (hs ▸ Nat.le_of_not_lt hl) hr
  | case3 turn chunks size hl hr => exact .whole hg (hs ▸ Nat.le_of_not_lt hl) hr
  | case4 turn chunks size hl b chunk hr ih =>
    have he : ((b :: chunk) :: chunks).reverse.flatten = chunks.reverse.flatten ++ b :: chunk := by
      rw [List.reverse_cons, List.flatten_append, List.flatten_singleton]
    apply ih
    · rw [he]
      exact given?_succ hg hr
    · rw [he, List.length_append, List.length_cons, hs]
      omega

end Source

theorem Delivery.ofBody_eq_ok {bytes : List UInt8} (h : bytes.length ≤ maxBody) :
    Delivery.ofBody bytes = .ok { body := bytes, body_le := h } := dif_pos h

theorem Delivery.ofBody_eq_error {bytes : List UInt8} (h : maxBody < bytes.length) :
    Delivery.ofBody bytes = .error .tooLarge := dif_neg (Nat.not_le_of_lt h)

/-- The delivery that a content makes: nothing past the limit counts, and no failure past it. -/
def Content.delivery : Content → Except BodyError Delivery
  | finite bytes .ends => Delivery.ofBody bytes
  | finite bytes (.fails cause) =>
    if maxBody < bytes.length then .error .tooLarge else .error (.unreadable cause)
  | endless _ => .error .tooLarge

theorem Content.delivery_eq_tooLarge_iff {content : Content} :
    content.delivery = .error .tooLarge ↔ content.Reaches (maxBody + 1) := by
  cases content with
  | finite bytes stop =>
    rw [Reaches, Nat.succ_le_iff]
    rcases Nat.lt_or_ge maxBody bytes.length with hl | hl
    · refine iff_of_true ?_ hl
      cases stop with
      | ends => exact Delivery.ofBody_eq_error hl
      | fails cause => exact if_pos hl
    · refine iff_of_false ?_ (Nat.not_lt_of_le hl)
      cases stop with
      | ends =>
        rw [delivery, Delivery.ofBody_eq_ok hl]
        exact nofun
      | fails cause =>
        rw [delivery, if_neg (Nat.not_lt_of_le hl)]
        exact nofun
  | endless bytes => exact iff_of_true rfl trivial

namespace Delivery

/-- The answer is that of the content, so the reads that it came in do not matter. -/
theorem ofSource_eq {source : Source} {content : Content} (h : source.Holds content) :
    ofSource source = content.delivery := by
  have hg : source.Gathered (source.gather 0 [] 0) := Source.gathered_gather rfl rfl
  rw [ofSource]
  cases hr : source.gather 0 [] 0 with
  | error e =>
    rw [hr] at hg
    cases hg with
    | tooLarge hg hl => exact (Content.delivery_eq_tooLarge_iff.2 (h.reaches hg hl)).symm
    | @unreadable turns given cause hg hl hs =>
      have hf : source.Holds (.finite given (.fails cause)) := .finite hg hs
      obtain rfl := h.unique hf
      exact (if_neg (Nat.not_lt_of_le hl)).symm
  | ok chunks =>
    rw [hr] at hg
    cases hg with
    | @whole turns chunks hg hl hs =>
      have hf : source.Holds (.finite chunks.flatten .ends) := .finite hg hs
      obtain rfl := h.unique hf
      rfl

/-- Deliveries as they are made at first. -/
inductive IsNew : Delivery → Prop
  | empty : IsNew {}
  | ofBody {bytes : List UInt8} {d : Delivery} (h : ofBody bytes = .ok d) : IsNew d
  | ofSource {source : Source} {d : Delivery} (h : ofSource source = .ok d) : IsNew d

/-- What becomes of a delivery as headers and queries are set, in any order. -/
inductive Becomes (new : Delivery) : Delivery → Prop
  | refl : Becomes new new
  | withHeader {d : Delivery} (h : Becomes new d) (name value : String) :
      Becomes new (d.withHeader name value)
  | withQuery {d : Delivery} (h : Becomes new d) (query : String) : Becomes new (d.withQuery query)

theorem Becomes.body_eq {new d : Delivery} (h : Becomes new d) : d.body = new.body := by
  induction h with
  | refl => rfl
  | withHeader _ _ _ ih => exact ih
  | withQuery _ _ ih => exact ih

theorem body_of_ofBody {bytes : List UInt8} {d : Delivery} (h : ofBody bytes = .ok d) :
    d.body = bytes ∧ bytes.length ≤ maxBody := by
  rcases Nat.lt_or_ge maxBody bytes.length with hl | hl
  · exact nomatch h.symm.trans (ofBody_eq_error hl)
  · obtain rfl := Except.ok.inj ((ofBody_eq_ok hl).symm.trans h)
    exact ⟨rfl, hl⟩

theorem exists_ofBody_of_ofSource {source : Source} {d : Delivery} (h : ofSource source = .ok d) :
    ∃ bytes, source.Holds (.finite bytes .ends) ∧ ofBody bytes = .ok d := by
  obtain ⟨content, hc⟩ := source.exists_holds
  rw [ofSource_eq hc] at h
  match content with
  | .finite bytes .ends => exact ⟨bytes, hc, h⟩
  | .finite bytes (.fails cause) =>
    rw [Content.delivery] at h
    split at h
    · exact nomatch h
    · exact nomatch h
  | .endless bytes => exact nomatch h

theorem IsNew.length_body_le {d : Delivery} (h : IsNew d) : d.body.length ≤ maxBody := by
  cases h with
  | empty => exact Nat.zero_le _
  | ofBody h =>
    obtain ⟨rfl, hl⟩ := body_of_ofBody h
    exact hl
  | ofSource h =>
    obtain ⟨bytes, -, h⟩ := exists_ofBody_of_ofSource h
    obtain ⟨rfl, hl⟩ := body_of_ofBody h
    exact hl

end Delivery

/-- Every source has one content, and the content alone decides what a delivery is made of it. At
10000001 bytes it is refused whatever follows; below, a failure is told and an end makes the
delivery of just these bytes. No delivery has a longer body, as headers and queries leave it. -/
theorem body_of_source :
    (∀ source : Source, ∃! content, source.Holds content) ∧
      (∀ (source : Source) (content : Content), source.Holds content →
        (Delivery.ofSource source = .error .tooLarge ↔ content.Reaches 10000001) ∧
        (∀ bytes cause, content = .finite bytes (.fails cause) → ¬ content.Reaches 10000001 →
          Delivery.ofSource source = .error (.unreadable cause)) ∧
        (∀ bytes, content = .finite bytes .ends → ¬ content.Reaches 10000001 →
          ∃ d, Delivery.ofSource source = .ok d ∧ Delivery.ofBody bytes = .ok d ∧
            d.body = bytes ∧ d.headers = [] ∧ d.query = none)) ∧
      (∀ (source other : Source) (content : Content), source.Holds content →
        other.Holds content → Delivery.ofSource source = Delivery.ofSource other) ∧
      (∀ new d : Delivery, new.Becomes d → d.body = new.body) ∧
      (∀ new d : Delivery, new.IsNew → new.Becomes d → d.body.length ≤ 10000000) := by
  refine ⟨fun source => ?_, fun source content hc => ?_, fun source other content hs ho => ?_,
    fun new d hd => hd.body_eq, fun new d hn hd => ?_⟩
  · obtain ⟨content, hc⟩ := source.exists_holds
    exact ⟨content, hc, fun other ho => ho.unique hc⟩
  · rw [Delivery.ofSource_eq hc]
    refine ⟨Content.delivery_eq_tooLarge_iff, fun bytes cause he hr => ?_, fun bytes he hr => ?_⟩
    · subst he
      exact if_neg hr
    · subst he
      have hl : bytes.length ≤ maxBody := Nat.le_of_not_lt hr
      have hb := Delivery.ofBody_eq_ok hl
      exact ⟨_, hb, hb, rfl, rfl, rfl⟩
  · rw [Delivery.ofSource_eq hs, Delivery.ofSource_eq ho]
  · rw [hd.body_eq]
    exact hn.length_body_le

/-- A space at each of the first `n` reads, and then the stop. -/
def spaces (n : Nat) (stop : Stop) : Source := fun turn =>
  if turn < n then .ok [0x20] else stop.read

theorem holds_spaces (n : Nat) (stop : Stop) :
    (spaces n stop).Holds (.finite (List.replicate n 0x20) stop) := by
  have hg : ∀ turns ≤ n, (spaces n stop).given? turns = some (List.replicate turns 0x20) := by
    intro turns ht
    induction turns with
    | zero => rfl
    | succ turns ih =>
      rw [List.replicate_succ']
      exact Source.given?_succ (ih (Nat.le_of_succ_le ht)) (if_pos ht)
  exact .finite (hg n (Nat.le_refl n)) (if_neg (Nat.lt_irrefl n))

theorem holds_endless_spaces : Source.Holds (fun _ => .ok [0x20]) (.endless fun _ => 0x20) := by
  have hg : ∀ turns, Source.given? (fun _ => .ok [0x20]) turns =
      some (List.replicate turns 0x20) := by
    intro turns
    induction turns with
    | zero => rfl
    | succ turns ih =>
      rw [List.replicate_succ']
      exact Source.given?_succ ih rfl
  refine .endless fun turns => ⟨List.replicate turns 0x20, hg turns, ?_⟩
  rw [List.map_const', List.length_range, List.length_replicate]

/-- At the limit a failure and an end count, past it they do not and need not come. -/
theorem limit_of_spaces :
    Delivery.ofSource (spaces 10000000 (.fails "reset")) = .error (.unreadable "reset") ∧
      Delivery.ofSource (spaces 10000001 (.fails "reset")) = .error .tooLarge ∧
      Delivery.ofSource (spaces 10000001 .ends) = .error .tooLarge ∧
      Delivery.ofSource (fun _ => .ok [0x20]) = .error .tooLarge ∧
      ∃ d, Delivery.ofSource (spaces 10000000 .ends) = .ok d ∧
        d.body = List.replicate 10000000 0x20 ∧
        ((d.withHeader "name" "value").withQuery "query").body.length ≤ 10000000 := by
  obtain ⟨-, answers, -, -, bounded⟩ := body_of_source
  have below : ∀ stop, ¬ (Content.finite (List.replicate 10000000 0x20) stop).Reaches 10000001 := by
    intro stop
    rw [Content.Reaches, List.length_replicate]
    decide
  have above : ∀ stop, (Content.finite (List.replicate 10000001 0x20) stop).Reaches 10000001 := by
    intro stop
    have hl : (List.replicate 10000001 (0x20 : UInt8)).length = 10000001 := List.length_replicate
    exact Nat.le_of_eq hl.symm
  have failed := (answers _ _ (holds_spaces 10000000 (.fails "reset"))).2.1 _ _ rfl (below _)
  have late := (answers _ _ (holds_spaces 10000001 (.fails "reset"))).1.2 (above _)
  have long := (answers _ _ (holds_spaces 10000001 .ends)).1.2 (above _)
  have endless := (answers _ _ holds_endless_spaces).1.2 trivial
  obtain ⟨d, hd, -, hb, -⟩ := (answers _ _ (holds_spaces 10000000 .ends)).2.2 _ rfl (below _)
  have grown : d.Becomes ((d.withHeader "name" "value").withQuery "query") :=
    .withQuery (.withHeader .refl "name" "value") "query"
  exact ⟨failed, late, long, endless, d, hd, hb, bounded d _ (.ofSource hd) grown⟩

end WebhookRelay
