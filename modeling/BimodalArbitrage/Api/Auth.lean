import BimodalArbitrage.Python

/-!
# JWT authentication (`backend/api/auth.py`)
-/

namespace BimodalArbitrage.Api

/-- `fastapi.HTTPException`; every 401 of this module has the same header. -/
structure HTTPException where
  statusCode : ℕ
  detail : String
  deriving DecidableEq

/-- How `jwt.decode` refuses a token. -/
inductive JwtError where
  | expiredSignature
  | invalidToken
  deriving DecidableEq

/-- The package: `decode` reads the `sub` claim of a token that was signed with the secret,
as `str` prints it; `none` where the claim is missing or null. -/
structure Jwt where
  decode : (token secret : String) → (now : ℚ) → Except JwtError (Option String)

def unauthorized (detail : String) : HTTPException := ⟨401, detail⟩

/-- `_get_jwt_secret` on the value of `JWT_SECRET`. -/
def getJwtSecret (secret : Option String) : Except HTTPException String :=
  match secret with
  | some secret => if secret = "" then .error ⟨500, "JWT_SECRET is not configured"⟩ else .ok secret
  | none => .error ⟨500, "JWT_SECRET is not configured"⟩

def decodeToken (jwt : Jwt) (secret : Option String) (token : String) (now : ℚ) :
    Except HTTPException (Option String) := do
  let secret ← getJwtSecret secret
  match jwt.decode token secret now with
  | .ok sub => .ok sub
  | .error .expiredSignature => .error (unauthorized "Token expired")
  | .error .invalidToken => .error (unauthorized "Invalid authentication token")

def getCurrentUserId (jwt : Jwt) (secret : Option String) (token : String) (now : ℚ) :
    Except HTTPException String := do
  let sub ← decodeToken jwt secret token now
  match sub with
  | some userId => .ok userId
  | none => .error (unauthorized "Token missing 'sub' claim")

end BimodalArbitrage.Api
