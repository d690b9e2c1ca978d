import BimodalArbitrage.Security.Kms

/-!
# What a text says about a key

A text of hexadecimal digits is also one of base64 digits. It is the length of the key
that tells the two apart.
-/

namespace BimodalArbitrage.Security
open Codec

/-- `raw` is an encoding of the key, but for white space around it. -/
structure Encodes (raw : String) (key : Bytes) : Prop where
  size : key.length = KEY_SIZE_BYTES
  text : Base64.decode (pyStrip raw).toList = some key ∨ Hex.decode (pyStrip raw).toList = some key

section
variable {cs : List Char} {key key' : Bytes}

theorem pad_not_mem (h : Hex.decode cs = some key) : Base64.pad ∉ cs := by
  intro hmem
  rcases Hex.of_decode h _ hmem with hblank | hdigit
  · exact absurd hblank (by decide)
  · exact absurd hdigit (by decide)

/-- 32 bytes are not a multiple of three, so in base64 they end in padding. -/
theorem size_of_hex (hhex : Hex.decode cs = some key) (hbase : Base64.decode cs = some key') :
    key'.length ≠ KEY_SIZE_BYTES := by
  have hlength := Base64.length_of_decode hbase (pad_not_mem hhex)
  unfold KEY_SIZE_BYTES
  omega

theorem ofKeySize_eq_some {decoded : Option Bytes} :
    ofKeySize decoded = some key ↔ decoded = some key ∧ key.length = KEY_SIZE_BYTES := by
  simp only [ofKeySize, Option.filter_eq_some_iff, decide_eq_true_eq]

theorem ne_of_ofKeySize_none {decoded : Option Bytes} (h : ofKeySize decoded = none)
    (hkey : key.length = KEY_SIZE_BYTES) : decoded ≠ some key := by
  intro hdecoded
  rw [ofKeySize_eq_some.mpr ⟨hdecoded, hkey⟩] at h
  cases h

end

theorem tried_b64decode (s : String) :
    exceptValueError (b64decode s) = .ok (Base64.decode s.toList) := by
  unfold b64decode
  cases Base64.decode s.toList <;> rfl

theorem tried_fromhex (s : String) :
    exceptValueError (fromhex s) = .ok (Hex.decode s.toList) := by
  unfold fromhex
  cases Hex.decode s.toList <;> rfl

theorem decodeKeyMaterial_eq (raw : String) :
    decodeKeyMaterial raw =
      match ofKeySize (Base64.decode (pyStrip raw).toList) with
      | some decoded => .ok decoded
      | none =>
        match ofKeySize (Hex.decode (pyStrip raw).toList) with
        | some decoded => .ok decoded
        | none => .error undecodable := by
  simp only [decodeKeyMaterial, tried_b64decode, tried_fromhex, ok_bind]
  cases ofKeySize (Base64.decode (pyStrip raw).toList) with
  | some decoded => rfl
  | none => cases ofKeySize (Hex.decode (pyStrip raw).toList) <;> rfl

/-- It returns what the text encodes, in whichever way. -/
theorem decodeKeyMaterial_ok {raw : String} {key : Bytes} :
    decodeKeyMaterial raw = .ok key ↔ Encodes raw key := by
  rw [decodeKeyMaterial_eq]
  cases hbase : ofKeySize (Base64.decode (pyStrip raw).toList) with
  | some decoded =>
    obtain ⟨hdecoded, hsize⟩ := ofKeySize_eq_some.mp hbase
    constructor
    · intro h
      cases h
      exact ⟨hsize, .inl hdecoded⟩
    · rintro ⟨hkey, htext | htext⟩
      · rw [hdecoded] at htext
        cases htext
        rfl
      · exact absurd hsize (size_of_hex htext hdecoded)
  | none =>
    cases hhex : ofKeySize (Hex.decode (pyStrip raw).toList) with
    | some decoded =>
      obtain ⟨hdecoded, hsize⟩ := ofKeySize_eq_some.mp hhex
      constructor
      · intro h
        cases h
        exact ⟨hsize, .inr hdecoded⟩
      · rintro ⟨hkey, htext | htext⟩
        · exact absurd htext (ne_of_ofKeySize_none hbase hkey)
        · rw [hdecoded] at htext
          cases htext
          rfl
    | none =>
      refine iff_of_false (fun h => nomatch h) ?_
      rintro ⟨hkey, htext | htext⟩
      · exact ne_of_ofKeySize_none hbase hkey htext
      · exact ne_of_ofKeySize_none hhex hkey htext

/-! ### Both ways round -/

theorem base64_not_blank {bs : Bytes} : ∀ c ∈ Base64.encode bs, isPySpace c = false := by
  intro c hc
  rcases Base64.mem_encode hc with rfl | ⟨n, hn, rfl⟩
  · decide
  · have hall : ∀ m : Fin 64, isPySpace (Base64.digit m) = false := by decide
    exact hall ⟨n, hn⟩

theorem hex_not_blank {letters : Hex.LetterCase} {bs : Bytes} :
    ∀ c ∈ Hex.encode letters bs, isPySpace c = false := by
  intro c hc
  obtain ⟨n, hn, rfl⟩ := Hex.mem_encode hc
  have hall : ∀ m : Fin 16, isPySpace (Hex.digit letters m) = false := by
    cases letters <;> decide
  exact hall ⟨n, hn⟩

/-- What can be said of the texts that are read as a key. -/
structure KeysUnambiguous : Prop where
  base64 : ∀ (key : Bytes) (before after : List Char), key.length = KEY_SIZE_BYTES →
    (∀ c ∈ before, isPySpace c = true) → (∀ c ∈ after, isPySpace c = true) →
    decodeKeyMaterial (String.ofList (before ++ Base64.encode key ++ after)) = .ok key
  hex : ∀ (letters : Hex.LetterCase) (key : Bytes) (before after : List Char),
    key.length = KEY_SIZE_BYTES →
    (∀ c ∈ before, isPySpace c = true) → (∀ c ∈ after, isPySpace c = true) →
    decodeKeyMaterial (String.ofList (before ++ Hex.encode letters key ++ after)) = .ok key
  size : ∀ raw key, decodeKeyMaterial raw = .ok key → key.length = KEY_SIZE_BYTES
  disjoint : ∀ text key key', b64decode text = .ok key → key.length = KEY_SIZE_BYTES →
    fromhex text = .ok key' → key'.length = KEY_SIZE_BYTES → False

theorem keys_unambiguous : KeysUnambiguous where
  base64 key before after hsize hbefore hafter := by
    refine decodeKeyMaterial_ok.mpr ⟨hsize, .inl ?_⟩
    rw [pyStrip_ofList hbefore hafter (Text.trimmed_of_forall base64_not_blank),
      String.toList_ofList]
    exact Base64.decode_encode key
  hex letters key before after hsize hbefore hafter := by
    refine decodeKeyMaterial_ok.mpr ⟨hsize, .inr ?_⟩
    rw [pyStrip_ofList hbefore hafter (Text.trimmed_of_forall hex_not_blank),
      String.toList_ofList]
    exact Hex.decode_encode letters key
  size raw key h := (decodeKeyMaterial_ok.mp h).size
  disjoint text key key' hbase hsize hhex _ := by
    have hdecode : Base64.decode text.toList = some key := by
      have htried := tried_b64decode text
      rw [hbase] at htried
      exact (Except.ok.inj htried).symm
    have hdecode' : Hex.decode text.toList = some key' := by
      have htried := tried_fromhex text
      rw [hhex] at htried
      exact (Except.ok.inj htried).symm
    exact size_of_hex hdecode' hdecode hsize

end BimodalArbitrage.Security
