import BimodalArbitrage.Codec.Base64
import BimodalArbitrage.Codec.Hex
import BimodalArbitrage.Security.KeyValidation

/-!
# The master key (`backend/security/kms.py`)
-/

namespace BimodalArbitrage.Security

abbrev Bytes := List UInt8

def KEY_SIZE_BYTES : ℕ := 32

def kmsUnavailableError (message : String) : PyError := ⟨.kmsUnavailableError, message⟩

/-! ### Key material -/

/-- `base64.b64decode(s, validate=True)`. -/
def b64decode (s : String) : Except PyError Bytes :=
  match Codec.Base64.decode s.toList with
  | some decoded => .ok decoded
  | none => .error (valueError "Invalid base64-encoded string")

/-- `bytes.fromhex(s)`. -/
def fromhex (s : String) : Except PyError Bytes :=
  match Codec.Hex.decode s.toList with
  | some decoded => .ok decoded
  | none => .error (valueError "non-hexadecimal number found in fromhex() arg")

def ofKeySize (decoded : Option Bytes) : Option Bytes :=
  decoded.filter fun bs => bs.length = KEY_SIZE_BYTES

def undecodable : PyError := kmsUnavailableError
  ("Master key material is not a valid base64 or hex encoding of " ++ toString KEY_SIZE_BYTES ++
    " bytes.")

def decodeKeyMaterial (raw : String) : Except PyError Bytes := do
  let raw := pyStrip raw
  match ofKeySize (← exceptValueError (b64decode raw)) with
  | some decoded => pure decoded
  | none =>
    match ofKeySize (← exceptValueError (fromhex raw)) with
    | some decoded => pure decoded
    | none => .error undecodable

/-! ### Where it comes from -/

/-- `a or b` of two variables that may be missing. -/
def pyOr (a b : Option String) : Option String :=
  match a with
  | some s => if s = "" then b else some s
  | none => b

def refusedInLiveMode : PyError := kmsUnavailableError
  ("modal.Secret lookup failed and TRADING_MODE=live: refusing to fall back to a local env-var " ++
    "master key in production. Fix the Modal KMS secret configuration instead.")

def noKeyConfigured : PyError := kmsUnavailableError
  ("No modal.Secret master key available and no local dev fallback key configured (set " ++
    "MASTER_KEY_OVERRIDE or ENVELOPE_KEY_ID to a real base64/hex 32-byte key for local " ++
    "development).")

def devFallbackKey (environ : String → Option String) : Except PyError Bytes :=
  let tradingMode := pyLower (pyStrip ((environ "TRADING_MODE").getD "testnet"))
  if tradingMode = "live" then .error refusedInLiveMode
  else
    match pyOr (environ "MASTER_KEY_OVERRIDE") (environ "ENVELOPE_KEY_ID") with
    | none => .error noKeyConfigured
    | some raw =>
      if raw = "" ∨ raw = "change-me" then .error noKeyConfigured else decodeKeyMaterial raw

/-- The `modal` package, if there is one: what `Secret.from_name` does. -/
abbrev ModalPackage := Option (String → Except PyError Unit)

/-- The body of the `try`: a key, or nothing where no variable holds one. -/
def injectedKey (fromName : String → Except PyError Unit) (environ : String → Option String)
    (secretName : String) : Except PyError (Option Bytes) := do
  fromName secretName
  match pyOr (environ "MASTER_KEY") (environ secretName) with
  | none => pure none
  | some raw => if raw = "" then pure none else some <$> decodeKeyMaterial raw

def resolvedName (environ : String → Option String) (secretName : Option String) : String :=
  nameOr secretName ((environ "KMS_SECRET_NAME").getD "arbitrage-secrets")

def getMasterKey (modal : ModalPackage) (environ : String → Option String)
    (secretName : Option String) : Except PyError Bytes :=
  match modal with
  | none => devFallbackKey environ
  | some fromName =>
    match injectedKey fromName environ (resolvedName environ secretName) with
    | .ok (some key) => .ok key
    | .ok none => devFallbackKey environ
    | .error _ => devFallbackKey environ

end BimodalArbitrage.Security
