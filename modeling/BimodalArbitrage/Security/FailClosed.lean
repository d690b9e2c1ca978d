import BimodalArbitrage.Security.KeyValidation

/-!
# When the key gate fails closed

The payload is read entry by entry and the last entry of a normalised name is the
one that counts.
-/

namespace BimodalArbitrage.Security

/-! ### The last write wins -/

def write (m : Normalized) (w : String × Bool) : Normalized :=
  Function.update m w.1 (some w.2)

theorem foldl_write (ws : List (String × Bool)) (m : Normalized) (name : String) :
    ws.foldl write m name = (ws.reverse.lookup name).or (m name) := by
  induction ws generalizing m with
  | nil => simp
  | cons w ws ih =>
    obtain ⟨key, value⟩ := w
    rw [List.foldl_cons, ih, List.reverse_cons, List.lookup_append]
    by_cases hn : name = key
    · cases hl : ws.reverse.lookup name <;> simp [write, hn]
    · have hb : (name == key) = false := by simpa using hn
      cases hl : ws.reverse.lookup name <;> simp [write, hn, List.lookup_cons, hb]

/-! ### What is read -/

/-- A name and whether it is read as enabled; only strings are names. -/
def readItem (name : PyObject) (value : Bool) : List (String × Bool) :=
  match name with
  | .str s => [(normalName s, value)]
  | _ => []

def readEntry (key value : PyObject) : List (String × Bool) :=
  match value with
  | .dict items => items.flatMap fun item => readItem item.1 item.2.truthy
  | .list items => items.flatMap fun item => readItem item true
  | .tuple items => items.flatMap fun item => readItem item true
  | .set items => items.flatMap fun item => readItem item true
  | _ => readItem key value.truthy

def reads (items : List (PyObject × PyObject)) : List (String × Bool) :=
  items.flatMap fun item => readEntry item.1 item.2

def lastRead (items : List (PyObject × PyObject)) (name : String) : Option Bool :=
  (reads items).reverse.lookup name

theorem add_eq_foldl (n : Normalized) (name : PyObject) (value : Bool) :
    add n name value = (readItem name value).foldl write n := by
  cases name <;> simp only [add, readItem, List.foldl_nil, List.foldl_cons, write]

theorem addEntry_eq_foldl (n : Normalized) (key value : PyObject) :
    addEntry n key value = (readEntry key value).foldl write n := by
  cases value <;>
    simp only [addEntry, readEntry, List.foldl_flatMap, add_eq_foldl]

theorem normalizePermissions_dict (items : List (PyObject × PyObject)) :
    normalizePermissions (.dict items) = .ok (lastRead items) := by
  simp only [normalizePermissions, addEntry_eq_foldl, ← List.foldl_flatMap]
  congr 1
  funext name
  rw [lastRead, reads, foldl_write, Option.or_none]

/-! ### The gate -/

def NamesForbidden (items : List (PyObject × PyObject)) : Prop :=
  ∃ name, (name, true) ∈ reads items ∧ (name ∈ withdrawalAliases ∨ name ∈ transferAliases)

def LastEnabled (items : List (PyObject × PyObject)) (aliases : List String) : Prop :=
  ∃ a ∈ aliases, lastRead items a = some true

def Rejects (client : CcxtClient) (exchangeName : Option String)
    (items : List (PyObject × PyObject)) : Prop :=
  ∃ e, validateKeyPermissions client exchangeName (some (.dict items)) = .error e ∧
    e.cls = .insecureApiKeyError

theorem flagFromAliases_iff (items : List (PyObject × PyObject)) (aliases : List String) :
    flagFromAliases (lastRead items) aliases = true ↔ LastEnabled items aliases := by
  simp only [flagFromAliases, List.any_eq_true, LastEnabled]
  refine exists_congr fun a => and_congr_right fun _ => ?_
  cases lastRead items a with
  | none => simp
  | some b => cases b <;> simp

theorem enforce_rejects_iff (name : String) (report : KeyPermissionReport) :
    (∃ e, enforce name report = .error e ∧ e.cls = .insecureApiKeyError) ↔
      report.withdrawalEnabled = true ∨ report.transferEnabled = true ∨
        report.spotTradingEnabled = false ∨ report.readEnabled = false := by
  unfold enforce
  cases report.withdrawalEnabled <;> cases report.transferEnabled <;>
    cases report.spotTradingEnabled <;> cases report.readEnabled <;> simp [insecureApiKeyError]

theorem rejects_iff (client : CcxtClient) (exchangeName : Option String)
    (items : List (PyObject × PyObject)) :
    Rejects client exchangeName items ↔
      LastEnabled items withdrawalAliases ∨ LastEnabled items transferAliases ∨
        ¬LastEnabled items spotAliases ∨ ¬LastEnabled items readAliases := by
  have hrun : validateKeyPermissions client exchangeName (some (.dict items)) =
      enforce (nameOr exchangeName (nameOr client.id "unknown"))
        { exchange := nameOr exchangeName (nameOr client.id "unknown")
          withdrawalEnabled := flagFromAliases (lastRead items) withdrawalAliases
          transferEnabled := flagFromAliases (lastRead items) transferAliases
          spotTradingEnabled := flagFromAliases (lastRead items) spotAliases
          readEnabled := flagFromAliases (lastRead items) readAliases
          rawPermissions := .dict items } := by
    simp only [validateKeyPermissions, evaluatePermissions, bind, Except.bind,
      normalizePermissions_dict, Except.map]
  simp only [Rejects, hrun, enforce_rejects_iff, flagFromAliases_iff, ← Bool.not_eq_true]

/-- A payload that names a forbidden permission is rejected, unless every entry of
it is overwritten by a later one of the same normalised name. -/
theorem validate_failsClosed_iff (client : CcxtClient) (exchangeName : Option String)
    (items : List (PyObject × PyObject)) :
    (NamesForbidden items → Rejects client exchangeName items) ↔
      (NamesForbidden items → LastEnabled items withdrawalAliases ∨
        LastEnabled items transferAliases ∨ ¬LastEnabled items spotAliases ∨
          ¬LastEnabled items readAliases) :=
  imp_congr_right fun _ => rejects_iff client exchangeName items

/-- The second spelling of a name disables what the first one enabled. -/
def overwritten : List (PyObject × PyObject) :=
  [(.str "withdraw", .bool true), (.str "spot", .bool true), (.str "read", .bool true),
    (.str "Withdraw", .bool false)]

theorem validate_failsClosed_overwritten :
    NamesForbidden overwritten ∧ ¬Rejects ⟨some "binance", none, none, none⟩ none overwritten := by
  refine ⟨⟨"withdraw", by decide +kernel, .inl (by decide +kernel)⟩, ?_⟩
  rintro ⟨e, he, -⟩
  have hok : (validateKeyPermissions ⟨some "binance", none, none, none⟩ none
      (some (.dict overwritten))).isOk = true := by decide +kernel
  rw [he] at hok
  cases hok

end BimodalArbitrage.Security
