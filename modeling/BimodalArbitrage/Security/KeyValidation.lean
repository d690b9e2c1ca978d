import BimodalArbitrage.Python

/-!
# API key permission gate (`backend/security/key_validation.py`)
-/

namespace BimodalArbitrage.Security

inductive PyObject where
  | none
  | bool (b : Bool)
  | int (n : ℤ)
  | float (x : ℚ)
  | str (s : String)
  | list (items : List PyObject)
  | tuple (items : List PyObject)
  | set (items : List PyObject)
  | dict (items : List (PyObject × PyObject))
  -- of any other class, without an `items`
  | object (truth : Bool)

/-- `bool(x)`. -/
def PyObject.truthy : PyObject → Bool
  | .none => false
  | .bool b => b
  | .int n => decide (n ≠ 0)
  | .float x => decide (x ≠ 0)
  | .str s => decide (s ≠ "")
  | .list items => !items.isEmpty
  | .tuple items => !items.isEmpty
  | .set items => !items.isEmpty
  | .dict items => !items.isEmpty
  | .object truth => truth

def withdrawalAliases : List String :=
  ["withdraw", "withdrawal", "withdrawals", "enablewithdrawals", "can_withdraw", "canwithdraw"]

def transferAliases : List String :=
  ["transfer", "transfers", "internal_transfer", "internaltransfer", "enableinternaltransfer",
    "can_transfer", "cantransfer"]

def spotAliases : List String :=
  ["spot", "spot_trading", "spottrading", "enablespottrading", "can_trade"]

def readAliases : List String := ["read", "read_only", "readonly", "enablereading", "can_read"]

structure KeyPermissionReport where
  exchange : String
  withdrawalEnabled : Bool
  transferEnabled : Bool
  spotTradingEnabled : Bool
  readEnabled : Bool
  rawPermissions : PyObject

def KeyPermissionReport.isSafe (r : KeyPermissionReport) : Bool :=
  !r.withdrawalEnabled && !r.transferEnabled && r.spotTradingEnabled && r.readEnabled

abbrev Normalized := String → Option Bool

/-- `name.strip().lower()`. -/
def normalName (name : String) : String := pyLower (pyStrip name)

def add (normalized : Normalized) (name : PyObject) (value : Bool) : Normalized :=
  match name with
  | .str s => Function.update normalized (normalName s) (some value)
  | _ => normalized

def addEntry (normalized : Normalized) (key value : PyObject) : Normalized :=
  match value with
  | .dict items => items.foldl (fun n item => add n item.1 item.2.truthy) normalized
  | .list items => items.foldl (fun n item => add n item true) normalized
  | .tuple items => items.foldl (fun n item => add n item true) normalized
  | .set items => items.foldl (fun n item => add n item true) normalized
  | _ => add normalized key value.truthy

def attributeError : PyError := ⟨.other, "object has no attribute 'items'"⟩

def normalizePermissions : PyObject → Except PyError Normalized
  | .dict items => .ok (items.foldl (fun n item => addEntry n item.1 item.2) fun _ => none)
  | _ => .error attributeError

def flagFromAliases (normalized : Normalized) (aliases : List String) : Bool :=
  aliases.any fun a => (normalized a).getD false

def evaluatePermissions (exchangeName : String) (rawPermissions : PyObject) :
    Except PyError KeyPermissionReport :=
  (normalizePermissions rawPermissions).map fun normalized =>
    { exchange := exchangeName
      withdrawalEnabled := flagFromAliases normalized withdrawalAliases
      transferEnabled := flagFromAliases normalized transferAliases
      spotTradingEnabled := flagFromAliases normalized spotAliases
      readEnabled := flagFromAliases normalized readAliases
      rawPermissions := rawPermissions }

/-! ### The exchange client -/

inductive CcxtError where
  | notSupported (message : String)
  | baseError (message : String)

/-- A client shows the attributes it has, and what calling them does. -/
structure CcxtClient where
  id : Option String
  fetchPermissions : Option (Except CcxtError PyObject)
  fetchAccount : Option (Except CcxtError PyObject)
  fetchAccountCamel : Option (Except CcxtError PyObject)

def insecureApiKeyError (message : String) : PyError := ⟨.insecureApiKeyError, message⟩

def unverifiableKey : PyError := insecureApiKeyError
  ("Exchange client does not expose a way to verify API key permissions " ++
    "(no fetch_permissions/fetch_account). Refusing to accept an unverifiable key.")

/-- The calls tried when there is no `fetch_permissions`, in order. -/
def fetchAccountInfo : List (Option (Except CcxtError PyObject)) → Except PyError PyObject
  | [] => .error unverifiableKey
  | none :: rest => fetchAccountInfo rest
  | some (.ok (.dict items)) :: _ => .ok (.dict items)
  | some (.ok _) :: rest => fetchAccountInfo rest
  | some (.error (.notSupported message)) :: _ => .error ⟨.other, message⟩
  | some (.error (.baseError message)) :: _ => .error ⟨.other, message⟩

def fetchKeyPermissions (client : CcxtClient) : Except PyError PyObject :=
  match client.fetchPermissions with
  | some (.ok permissions) => .ok (if permissions.truthy then permissions else .dict [])
  | some (.error (.baseError message)) => .error (insecureApiKeyError
      ("Could not verify permissions for exchange key on " ++ client.id.getD "unknown" ++ ": " ++
        message ++ ". Refusing to accept a key whose permissions cannot be verified."))
  | some (.error (.notSupported _)) =>
    fetchAccountInfo [client.fetchAccount, client.fetchAccountCamel]
  | none => fetchAccountInfo [client.fetchAccount, client.fetchAccountCamel]

def nameOr (name : Option String) (other : String) : String :=
  match name with
  | some n => if n = "" then other else n
  | none => other

def enforce (name : String) (report : KeyPermissionReport) :
    Except PyError KeyPermissionReport :=
  if report.withdrawalEnabled || report.transferEnabled then
    .error (insecureApiKeyError ("Rejected API key for exchange '" ++ name ++
      "': withdrawal_enabled=" ++ pyBool report.withdrawalEnabled ++ ", transfer_enabled=" ++
      pyBool report.transferEnabled ++ ". Only spot trading and balance read permissions are " ++
      "allowed — disable withdrawals and external transfers on this key before adding it."))
  else if !report.spotTradingEnabled || !report.readEnabled then
    .error (insecureApiKeyError ("Rejected API key for exchange '" ++ name ++
      "': key must have spot trading and balance read permissions enabled " ++
      "(spot_trading_enabled=" ++ pyBool report.spotTradingEnabled ++ ", read_enabled=" ++
      pyBool report.readEnabled ++ ")."))
  else .ok report

def validateKeyPermissions (client : CcxtClient) (exchangeName : Option String)
    (rawPermissions : Option PyObject) : Except PyError KeyPermissionReport := do
  let name := nameOr exchangeName (nameOr client.id "unknown")
  let permissions ← match rawPermissions with
    | some raw => .ok raw
    | none => fetchKeyPermissions client
  let report ← evaluatePermissions name permissions
  enforce name report

end BimodalArbitrage.Security
