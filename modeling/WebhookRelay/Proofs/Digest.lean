import WebhookRelay.Proofs.Signature

/-!
What a digest header takes for a proof: its lead and then the keyed digest of the body, spelled in
digits of either case. No value passes that breaks the lead or the spelling.
-/

namespace WebhookRelay

namespace Text.Hex

/-- The digits that bytes are written in. -/
def digits : List Char := "0123456789abcdef".toList

theorem digit_mem_digits {n : Nat} (h : n < 16) : digit n ∈ digits := by
  have hall : ∀ k < 16, digit k ∈ digits := by decide
  exact hall n h

theorem mem_digits_of_mem_encode {bytes : List UInt8} {c : Char} (h : c ∈ encode bytes) :
    c ∈ digits := by
  obtain ⟨b, -, hc⟩ := List.mem_flatMap.1 h
  have hh : b.toNat / 16 < 16 := Nat.div_lt_of_lt_mul b.toNat_lt
  have hl : b.toNat % 16 < 16 := Nat.mod_lt _ (by decide)
  simp only [encodeByte, List.mem_cons, List.not_mem_nil, or_false] at hc
  rcases hc with rfl | rfl
  · exact digit_mem_digits hh
  · exact digit_mem_digits hl

theorem toLower_of_mem_digits {c : Char} (h : c ∈ digits) : c.toLower = c := by
  have hall : digits.all (fun d => d.toLower == d) = true := by decide
  exact beq_iff_eq.1 (List.all_eq_true.1 hall c h)

end Text.Hex

namespace Algorithm

/-- How many digits spell a digest. -/
def width : Algorithm → Nat
  | sha1 => 40
  | sha256 => 64

theorem width_inj {a b : Algorithm} (h : a.width = b.width) : a = b := by
  cases a <;> cases b <;> simp_all [width]

theorem even_width (algorithm : Algorithm) : algorithm.width % 2 = 0 := by
  cases algorithm <;> rfl

theorem length_keyed (algorithm : Algorithm) (key data : List UInt8) :
    2 * (algorithm.hash.keyed key data).length = algorithm.width := by
  cases algorithm with
  | sha1 => rw [hash, Digest.BlockHash.keyed, Digest.Sha1.length_digest, width]
  | sha256 => rw [hash, Digest.BlockHash.keyed, Digest.Sha256.length_digest, width]

/-- Whether a text has the digits of a digest, all in lower case. -/
structure IsDigest (algorithm : Algorithm) (text : String) : Prop where
  length_eq : text.length = algorithm.width
  mem_digits : ∀ c ∈ text.toList, c ∈ Text.Hex.digits

theorem isDigest_sign (algorithm : Algorithm) (key data : List UInt8) :
    algorithm.IsDigest (algorithm.sign key data) where
  length_eq := by
    rw [sign, String.length_ofList, Text.Hex.length_encode, length_keyed]
  mem_digits c hc := by
    rw [sign, String.toList_ofList] at hc
    exact Text.Hex.mem_digits_of_mem_encode hc

/-- Whether a text spells the keyed digest, in digits of either case. -/
def Spells (algorithm : Algorithm) (key data : List UInt8) (signature : String) : Prop :=
  signature.map Char.toLower = algorithm.sign key data

section Spells

variable {algorithm : Algorithm} {key data : List UInt8} {signature : String}

theorem spells_sign (algorithm : Algorithm) (key data : List UInt8) :
    algorithm.Spells key data (algorithm.sign key data) := by
  have hd := (algorithm.isDigest_sign key data).mem_digits
  have hl : (algorithm.sign key data).toList.map Char.toLower =
      (algorithm.sign key data).toList.map id :=
    List.map_congr_left fun c hc => Text.Hex.toLower_of_mem_digits (hd c hc)
  rw [Spells, ← String.toList_inj, String.toList_map, hl, List.map_id]

theorem Spells.length_eq (h : algorithm.Spells key data signature) :
    signature.length = algorithm.width := by
  have hl := congrArg String.length h
  rw [String.length_map] at hl
  exact hl.trans (algorithm.isDigest_sign key data).length_eq

theorem Spells.toLower_mem (h : algorithm.Spells key data signature) {c : Char}
    (hc : c ∈ signature.toList) : c.toLower ∈ Text.Hex.digits := by
  apply (algorithm.isDigest_sign key data).mem_digits
  rw [← show signature.map Char.toLower = _ from h, String.toList_map]
  exact List.mem_map_of_mem hc

end Spells

end Algorithm

/-- Values that a digest header has to refuse, for what is wrong with them. -/
inductive Flawed (algorithm : Algorithm) (lead key : String) (body : List UInt8) : String → Prop
  | unled {value : String} (hl : ¬ lead.toList <+: value.toList) : Flawed algorithm lead key body value
  | ledTwice {signature : String} (hl : lead ≠ "")
      (hs : algorithm.Spells (Text.Utf8.encode key) body signature) :
      Flawed algorithm lead key body (lead ++ (lead ++ signature))
  | odd {signature : String} (ho : signature.length % 2 = 1) :
      Flawed algorithm lead key body (lead ++ signature)
  | short {signature : String} (hs : signature.length < algorithm.width) :
      Flawed algorithm lead key body (lead ++ signature)
  | long {signature : String} (hl : algorithm.width < signature.length) :
      Flawed algorithm lead key body (lead ++ signature)
  | stray {signature : String} {c : Char} (hc : c ∈ signature.toList)
      (hd : c.toLower ∉ Text.Hex.digits) : Flawed algorithm lead key body (lead ++ signature)
  | foreign {other : Algorithm} {signature : String} (ho : other ≠ algorithm)
      (hs : other.Spells (Text.Utf8.encode key) body signature) :
      Flawed algorithm lead key body (lead ++ signature)

section Flawed

variable {algorithm : Algorithm} {lead key value : String} {body : List UInt8}

theorem Flawed.not_spells (h : Flawed algorithm lead key body value) {signature : String}
    (hv : value = lead ++ signature) : ¬ algorithm.Spells (Text.Utf8.encode key) body signature := by
  intro hs
  have hw := hs.length_eq
  cases h with
  | unled hl =>
    apply hl
    rw [hv, String.toList_append]
    exact List.prefix_append _ _
  | ledTwice hl ht =>
    obtain rfl := (String.append_right_inj lead).1 hv
    rw [String.length_append, ht.length_eq] at hw
    have hz : lead.length = 0 := by omega
    exact hl (String.length_eq_zero_iff.1 hz)
  | odd ho =>
    obtain rfl := (String.append_right_inj lead).1 hv
    have he := algorithm.even_width
    omega
  | short hl =>
    obtain rfl := (String.append_right_inj lead).1 hv
    omega
  | long hl =>
    obtain rfl := (String.append_right_inj lead).1 hv
    omega
  | stray hc hd =>
    obtain rfl := (String.append_right_inj lead).1 hv
    exact hd (hs.toLower_mem hc)
  | foreign ho ht =>
    obtain rfl := (String.append_right_inj lead).1 hv
    exact ho (Algorithm.width_inj (ht.length_eq.symm.trans hw))

end Flawed

/-- A keyed digest is written in a fixed number of digits in lower case. It is proved by exactly
the values that spell it in either case behind the lead of the header, and by no flawed one. -/
theorem digest_proved_exactly (algorithm : Algorithm) (body : List UInt8) :
    (∀ key, algorithm.IsDigest (algorithm.sign key body)) ∧
      (∀ key signature, algorithm.verify key body signature = true ↔
        signature.map Char.toLower = algorithm.sign key body) ∧
      ∀ (lead : Option String) (key value : String),
        ((Scheme.digest algorithm lead).verify key body value = true ↔
          ∃ signature, value = lead.getD "" ++ signature ∧
            signature.map Char.toLower = algorithm.sign (Text.Utf8.encode key) body) ∧
        (Flawed algorithm (lead.getD "") key body value →
          (Scheme.digest algorithm lead).verify key body value = false) := by
  refine ⟨fun key => algorithm.isDigest_sign key body, fun key => algorithm.verify_iff key body,
    fun lead key value => ?_⟩
  have hv : (Scheme.digest algorithm lead).verify key body value = true ↔
      ∃ signature, value = lead.getD "" ++ signature ∧
        algorithm.Spells (Text.Utf8.encode key) body signature :=
    Scheme.verify_iff (.digest algorithm lead) key body value
  refine ⟨hv, fun hf => ?_⟩
  rw [← Bool.not_eq_true, hv]
  rintro ⟨signature, he, hs⟩
  exact hf.not_spells he hs

/-- The digest of another algorithm is refused, also behind the right lead. -/
theorem foreignDigest_refused :
    (Scheme.digest .sha256 (some "sha256=")).verify "key" [0x7B, 0x7D]
      ("sha256=" ++ Algorithm.sha1.sign (Text.Utf8.encode "key") [0x7B, 0x7D]) = false := by
  have ho : Algorithm.sha1 ≠ .sha256 := by decide
  have hs := Algorithm.sha1.spells_sign (Text.Utf8.encode "key") [0x7B, 0x7D]
  exact ((digest_proved_exactly .sha256 [0x7B, 0x7D]).2.2 (some "sha256=") "key" _).2
    (.foreign ho hs)

/-- A known digest by either algorithm. -/
example :
    Algorithm.sha256.sign (Text.Utf8.encode "Jefe")
        (Text.Utf8.encode "what do ya want for nothing?") =
      "5bdcc146bf60754e6a042426089575c75a003f089d2739839dec58b964ec3843" := by
  decide +kernel

example :
    Algorithm.sha1.sign (Text.Utf8.encode "Jefe")
        (Text.Utf8.encode "what do ya want for nothing?") =
      "effcdf6ae5eb2fa2d27416d5f184df9c259a7c79" := by
  decide +kernel

end WebhookRelay
