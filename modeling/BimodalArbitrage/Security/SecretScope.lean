import BimodalArbitrage.Security.Envelope

/-!
# What becomes of a decrypted secret
-/

namespace BimodalArbitrage.Security

/-! ### The zeroing loop -/

theorem zeroBuffer_steps (buffer : Bytes) {n : ℕ} (h : n ≤ buffer.length) :
    (List.range n).foldl (fun buffer i => buffer.set i 0) buffer =
      List.replicate n 0 ++ buffer.drop n := by
  induction n with
  | zero => rfl
  | succ n ih =>
    have hn : n < buffer.length := h
    rw [List.range_succ, List.foldl_append, ih hn.le, List.foldl_cons, List.foldl_nil,
      List.set_append_right _ _ (List.length_replicate ..).le, List.length_replicate,
      Nat.sub_self, List.drop_eq_getElem_cons hn, List.set_cons_zero, List.replicate_succ',
      List.append_assoc]
    rfl

theorem zeroBuffer_eq (buffer : Bytes) : zeroBuffer buffer = List.replicate buffer.length 0 := by
  rw [zeroBuffer, zeroBuffer_steps buffer le_rfl, List.drop_length, List.append_nil]

/-! ### The block -/

section
variable {α : Type} {aesgcm : AesGcm} {ciphertext key : Bytes}

/-- On both exits the buffer that the block leaves is zeroed, and its outcome passes. -/
theorem tryFinally_run (block : Block α) (buffer : Bytes) :
    (tryFinally block (modify zeroBuffer)).run.run buffer =
      ((block.run.run buffer).1, zeroBuffer (block.run.run buffer).2) := by
  have hexit : ∀ exit, block buffer = exit →
      (tryFinally block (modify zeroBuffer)).run.run buffer = (exit.1, zeroBuffer exit.2) := by
    rintro ⟨outcome, left⟩ hblock
    simp only [tryFinally, tryFinally', ExceptT.run_map, StateT.run_map, ExceptT.run_mk]
    simp only [StateT.run, bind, StateT.bind, hblock, pure]
    cases outcome <;> rfl
  exact hexit _ rfl

theorem ephemeralSecret_eq {plaintext : String}
    (h : decryptSecret aesgcm ciphertext key = .ok plaintext) (block : Block α) :
    ephemeralSecret aesgcm ciphertext key block =
      .ok ⟨utf8Encode plaintext, (block.run.run (utf8Encode plaintext)).1,
        zeroBuffer (block.run.run (utf8Encode plaintext)).2⟩ := by
  simp only [ephemeralSecret, h, ok_bind, tryFinally_run]
  rfl

theorem ephemeralSecret_error {e : PyError} (h : decryptSecret aesgcm ciphertext key = .error e)
    (block : Block α) : ephemeralSecret aesgcm ciphertext key block = .error e := by
  simp only [ephemeralSecret, h]
  rfl

theorem validateKey_of_size (h : key.length = KEY_SIZE_BYTES) : validateKey key = .ok () :=
  if_neg (not_not_intro h)

theorem decryptSecret_refuses (hkey : key.length = KEY_SIZE_BYTES)
    (h : ciphertext.length < NONCE_SIZE_BYTES ∨ aesgcm.decrypt key
      (ciphertext.take NONCE_SIZE_BYTES) (ciphertext.drop NONCE_SIZE_BYTES) = none) :
    ∃ e, decryptSecret aesgcm ciphertext key = .error e ∧ e.cls = .envelopeDecryptionError := by
  simp only [decryptSecret, validateKey_of_size hkey, ok_bind]
  by_cases hshort : ciphertext.length < NONCE_SIZE_BYTES
  · rw [if_pos hshort]
    exact ⟨_, rfl, rfl⟩
  · rw [if_neg hshort, h.resolve_left hshort]
    exact ⟨_, rfl, rfl⟩

/-- The nonce is split off where it was put. -/
theorem decryptSecret_encrypt (haes : aesgcm.Inverts) {nonce : Bytes}
    (hkey : key.length = KEY_SIZE_BYTES) (hnonce : nonce.length = NONCE_SIZE_BYTES)
    (plaintext : String) :
    ∃ ciphertext, encryptSecret aesgcm nonce plaintext key = .ok ciphertext ∧
      decryptSecret aesgcm ciphertext key = .ok plaintext := by
  refine ⟨nonce ++ aesgcm.encrypt key nonce (utf8Encode plaintext), ?_, ?_⟩
  · simp only [encryptSecret, validateKey_of_size hkey, ok_bind]
    rfl
  · have hlong : ¬(nonce ++ aesgcm.encrypt key nonce (utf8Encode plaintext)).length <
        NONCE_SIZE_BYTES := by
      rw [List.length_append, hnonce]
      omega
    simp only [decryptSecret, validateKey_of_size hkey, ok_bind]
    rw [if_neg hlong, List.take_left' hnonce, List.drop_left' hnonce,
      haes key nonce _ hkey hnonce]
    exact utf8Decode_encode plaintext

end

/-- Secrets reach a block as they were encrypted, leave nothing behind, and a refused one does
not reach it. -/
structure SecretsScoped (aesgcm : AesGcm) : Prop where
  roundTrip : ∀ (plaintext : String) (key nonce : Bytes), key.length = KEY_SIZE_BYTES →
    nonce.length = NONCE_SIZE_BYTES → ∃ ciphertext,
      encryptSecret aesgcm nonce plaintext key = .ok ciphertext ∧
        ∀ {α : Type} (block : Block α), ∃ scope,
          ephemeralSecret aesgcm ciphertext key block = .ok scope ∧
            scope.entered = utf8Encode plaintext ∧
            scope.outcome = (block.run.run (utf8Encode plaintext)).1
  wiped : ∀ {α : Type} (ciphertext key : Bytes) (block : Block α) scope,
    ephemeralSecret aesgcm ciphertext key block = .ok scope →
      (∀ b ∈ scope.left, b = 0) ∧
        ((∀ buffer, (block.run.run buffer).2.length = buffer.length) →
          scope.left.length = scope.entered.length)
  refused : ∀ {α : Type} (ciphertext key : Bytes) (block : Block α), key.length = KEY_SIZE_BYTES →
    (ciphertext.length < NONCE_SIZE_BYTES ∨ aesgcm.decrypt key
      (ciphertext.take NONCE_SIZE_BYTES) (ciphertext.drop NONCE_SIZE_BYTES) = none) →
    ∃ e, ephemeralSecret aesgcm ciphertext key block = .error e ∧ e.cls = .envelopeDecryptionError

theorem secrets_scoped (aesgcm : AesGcm) (haes : aesgcm.Inverts) : SecretsScoped aesgcm where
  roundTrip plaintext key nonce hkey hnonce := by
    obtain ⟨ciphertext, hencrypt, hdecrypt⟩ := decryptSecret_encrypt haes hkey hnonce plaintext
    exact ⟨ciphertext, hencrypt, fun block => ⟨_, ephemeralSecret_eq hdecrypt block, rfl, rfl⟩⟩
  wiped ciphertext key block scope h := by
    cases hdecrypt : decryptSecret aesgcm ciphertext key with
    | error e =>
      rw [ephemeralSecret_error hdecrypt] at h
      cases h
    | ok plaintext =>
      rw [ephemeralSecret_eq hdecrypt] at h
      cases h
      rw [zeroBuffer_eq]
      exact ⟨fun b hb => List.eq_of_mem_replicate hb,
        fun hsize => (List.length_replicate ..).trans (hsize _)⟩
  refused ciphertext key block hkey h := by
    obtain ⟨e, he, hcls⟩ := decryptSecret_refuses hkey h
    exact ⟨e, ephemeralSecret_error he block, hcls⟩

def sampleKey : Bytes := List.replicate 32 0

def sampleNonce : Bytes := List.replicate 12 0

def sampleCiphertext : Bytes :=
  [173, 203, 131, 148, 48, 86, 149, 77, 180, 225, 1, 224, 116, 42, 188, 227, 154, 133, 109, 158]

/-- AES-256-GCM on one secret under the zero key and the zero nonce, and nothing but a tag of
zeros on every other one. -/
def sampleAesGcm : AesGcm where
  encrypt key nonce plaintext :=
    if key = sampleKey ∧ nonce = sampleNonce ∧ plaintext = utf8Encode "clé" then sampleCiphertext
    else plaintext ++ List.replicate 16 0
  decrypt key nonce ciphertext :=
    if key = sampleKey ∧ nonce = sampleNonce ∧ ciphertext = sampleCiphertext then
      some (utf8Encode "clé")
    else if ciphertext.drop (ciphertext.length - 16) = List.replicate 16 0 then
      some (ciphertext.take (ciphertext.length - 16))
    else none

theorem sampleAesGcm_inverts : sampleAesGcm.Inverts := by
  intro key nonce plaintext _ _
  by_cases hsample : key = sampleKey ∧ nonce = sampleNonce ∧ plaintext = utf8Encode "clé"
  · obtain ⟨rfl, rfl, rfl⟩ := hsample
    simp only [sampleAesGcm, and_self, if_true]
  · have htag : plaintext ++ List.replicate 16 0 ≠ sampleCiphertext := by
      intro heq
      have hzero : (158 : UInt8) = 0 := by
        have hlast := congrArg List.getLast? heq
        rw [List.getLast?_append, List.getLast?_replicate] at hlast
        exact (Option.some.inj hlast).symm
      exact absurd hzero (by decide)
    have hlength : (plaintext ++ List.replicate 16 (0 : UInt8)).length - 16 = plaintext.length := by
      rw [List.length_append, List.length_replicate, Nat.add_sub_cancel]
    simp only [sampleAesGcm, hsample, htag, if_false, and_false, hlength, List.drop_left,
      List.take_left, if_true]

/-- The block overwrites the first byte of the secret and raises. -/
def spoiling : Block Unit := do
  modify fun buffer => buffer.set 0 88
  throw ⟨.runtimeError, "order dispatch failed mid-flight"⟩

theorem secrets_scoped_sample :
    SecretsScoped sampleAesGcm ∧
      (encryptSecret sampleAesGcm sampleNonce "clé" sampleKey).bind
        (fun ciphertext => (ephemeralSecret sampleAesGcm ciphertext sampleKey spoiling).map
          fun scope => (scope.entered, scope.left)) = .ok ([99, 108, 195, 169], [0, 0, 0, 0]) :=
  ⟨secrets_scoped sampleAesGcm sampleAesGcm_inverts, by decide +kernel⟩

end BimodalArbitrage.Security
