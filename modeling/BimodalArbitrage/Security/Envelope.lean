import BimodalArbitrage.Security.Kms

/-!
# Secrets at rest and in use (`backend/security/envelope.py`, `ephemeral.py`)
-/

namespace BimodalArbitrage.Security

def NONCE_SIZE_BYTES : ℕ := 12

def envelopeDecryptionError (message : String) : PyError := ⟨.envelopeDecryptionError, message⟩

/-- `AESGCM`; what it refuses to decrypt raises `InvalidTag`. -/
structure AesGcm where
  encrypt : (key nonce plaintext : Bytes) → Bytes
  decrypt : (key nonce ciphertext : Bytes) → Option Bytes

def AesGcm.Inverts (aesgcm : AesGcm) : Prop :=
  ∀ key nonce plaintext, key.length = KEY_SIZE_BYTES → nonce.length = NONCE_SIZE_BYTES →
    aesgcm.decrypt key nonce (aesgcm.encrypt key nonce plaintext) = some plaintext

/-! ### UTF-8 -/

/-- `s.encode("utf-8")`. -/
def utf8Encode (s : String) : Bytes := s.toUTF8.data.toList

/-- `bs.decode("utf-8")`. -/
def utf8Decode (bs : Bytes) : Except PyError String :=
  match String.fromUTF8? ⟨bs.toArray⟩ with
  | some s => .ok s
  | none => .error (valueError "'utf-8' codec can't decode bytes")

theorem utf8Decode_encode (s : String) : utf8Decode (utf8Encode s) = .ok s := by
  have hbytes : (⟨(utf8Encode s).toArray⟩ : ByteArray) = s.toByteArray := rfl
  rw [utf8Decode, hbytes, String.fromUTF8?, dif_pos s.isValidUTF8]
  rfl

/-! ### Envelopes -/

def validateKey (key : Bytes) : Except PyError Unit :=
  if key.length ≠ KEY_SIZE_BYTES then
    .error (valueError ("envelope key must be exactly " ++ toString KEY_SIZE_BYTES ++
      " bytes (AES-256), got " ++ toString key.length))
  else .ok ()

/-- `nonce` is what `os.urandom` draws. -/
def encryptSecret (aesgcm : AesGcm) (nonce : Bytes) (plaintext : String) (key : Bytes) :
    Except PyError Bytes := do
  validateKey key
  let ciphertext := aesgcm.encrypt key nonce (utf8Encode plaintext)
  pure (nonce ++ ciphertext)

def tooShort : PyError := envelopeDecryptionError "ciphertext too short to contain a nonce"

def tagMismatch : PyError := envelopeDecryptionError
  ("failed to decrypt secret: authentication tag mismatch (wrong key or tampered/corrupted " ++
    "ciphertext)")

def decryptSecret (aesgcm : AesGcm) (ciphertext key : Bytes) : Except PyError String := do
  validateKey key
  if ciphertext.length < NONCE_SIZE_BYTES then .error tooShort
  else
    let nonce := ciphertext.take NONCE_SIZE_BYTES
    let actualCiphertext := ciphertext.drop NONCE_SIZE_BYTES
    match aesgcm.decrypt key nonce actualCiphertext with
    | some plaintext => utf8Decode plaintext
    | none => .error tagMismatch

/-! ### The scope of a secret -/

def zeroBuffer (buffer : Bytes) : Bytes :=
  (List.range buffer.length).foldl (fun buffer i => buffer.set i 0) buffer

/-- The body of a `with` block, which may write into the buffer and raise. -/
abbrev Block (α : Type) := ExceptT PyError (StateM Bytes) α

/-- A `with` block that was entered: the buffer on entry, how the block ended, and the
buffer after that. -/
structure Scope (α : Type) where
  entered : Bytes
  outcome : Except PyError α
  left : Bytes

/-- An error of this function itself is raised before there is a buffer. -/
def ephemeralSecret {α : Type} (aesgcm : AesGcm) (ciphertext key : Bytes) (block : Block α) :
    Except PyError (Scope α) := do
  let plaintextStr ← decryptSecret aesgcm ciphertext key
  let buffer := utf8Encode plaintextStr
  let (outcome, left) := (tryFinally block (modify zeroBuffer)).run.run buffer
  pure ⟨buffer, outcome, left⟩

end BimodalArbitrage.Security
