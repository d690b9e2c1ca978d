import BimodalArbitrage.Security.FailClosed

/-!
# How the key gate ends

The payload of `fetch_permissions` is not checked to be a dictionary, and the calls tried
in its place are not guarded.
-/

namespace BimodalArbitrage.Security

def PyObject.IsDict (x : PyObject) : Prop := ∃ items, x = .dict items

namespace CcxtClient

def Returned (client : CcxtClient) (payload : PyObject) : Prop :=
  client.fetchPermissions = some (.ok payload) ∨ client.fetchAccount = some (.ok payload) ∨
    client.fetchAccountCamel = some (.ok payload)

/-- What the fallback calls, in the order of the calls. -/
def AccountsReturn (client : CcxtClient) : Prop :=
  (∀ e, client.fetchAccount ≠ some (.error e)) ∧
    ((∃ items, client.fetchAccount = some (.ok (.dict items))) ∨
      ∀ e, client.fetchAccountCamel ≠ some (.error e))

/-- No answer of the client is of a kind that the gate does not handle. -/
def Answers (client : CcxtClient) : Prop :=
  match client.fetchPermissions with
  | some (.ok permissions) => permissions.truthy = true → permissions.IsDict
  | some (.error (.baseError _)) => True
  | some (.error (.notSupported _)) => client.AccountsReturn
  | none => client.AccountsReturn

end CcxtClient

/-- A safe report on a payload of the client, or the exception of the gate. -/
def EndsSafely (client : CcxtClient) (exchangeName : Option String) : Prop :=
  (∃ report, validateKeyPermissions client exchangeName none = .ok report ∧
    report.isSafe = true ∧ client.Returned report.rawPermissions ∧
    evaluatePermissions report.exchange report.rawPermissions = .ok report) ∨
  ∃ e, validateKeyPermissions client exchangeName none = .error e ∧ e.cls = .insecureApiKeyError

/-! ### The fallback -/

section
variable {call : Option (Except CcxtError PyObject)}
  {rest : List (Option (Except CcxtError PyObject))}

theorem fetchAccountInfo_raises (e : CcxtError) :
    ∃ e', fetchAccountInfo (some (.error e) :: rest) = .error e' ∧ e'.cls = .other := by
  cases e with
  | notSupported message => exact ⟨_, rfl, rfl⟩
  | baseError message => exact ⟨_, rfl, rfl⟩

/-- A method that is missing or returns no dictionary is passed over. -/
theorem fetchAccountInfo_skips (hraise : ∀ e, call ≠ some (.error e))
    (hdict : ∀ items, call ≠ some (.ok (.dict items))) :
    fetchAccountInfo (call :: rest) = fetchAccountInfo rest := by
  cases call with
  | none => rfl
  | some answer =>
    cases answer with
    | error e => exact absurd rfl (hraise e)
    | ok payload =>
      cases payload with
      | dict items => exact absurd rfl (hdict items)
      | _ => rfl

/-- A method either raises, returns a dictionary, or is passed over. -/
theorem call_cases (call : Option (Except CcxtError PyObject)) :
    (∃ e, call = some (.error e)) ∨ (∃ items, call = some (.ok (.dict items))) ∨
      (∀ e, call ≠ some (.error e)) ∧ ∀ items, call ≠ some (.ok (.dict items)) := by
  by_cases hraise : ∃ e, call = some (.error e)
  · exact .inl hraise
  · by_cases hdict : ∃ items, call = some (.ok (.dict items))
    · exact .inr (.inl hdict)
    · exact .inr (.inr ⟨not_exists.mp hraise, not_exists.mp hdict⟩)

end

/-- The fallback ends in a dictionary of the client or in the exception of the gate. -/
def AccountsEnd (client : CcxtClient) : Prop :=
  (∃ items, fetchAccountInfo [client.fetchAccount, client.fetchAccountCamel] = .ok (.dict items) ∧
    client.Returned (.dict items)) ∨
  fetchAccountInfo [client.fetchAccount, client.fetchAccountCamel] = .error unverifiableKey

section
variable {client : CcxtClient}

theorem accounts_end (h : client.AccountsReturn) : AccountsEnd client := by
  unfold AccountsEnd
  obtain ⟨hfirst, hsecond⟩ := h
  rcases call_cases client.fetchAccount with ⟨e, he⟩ | ⟨items, hitems⟩ | ⟨hraise, hdict⟩
  · exact absurd he (hfirst e)
  · refine .inl ⟨items, ?_, .inr (.inl hitems)⟩
    rw [hitems]
    rfl
  · rw [fetchAccountInfo_skips hraise hdict]
    have hcamel := hsecond.resolve_left fun ⟨items, hitems⟩ => hdict items hitems
    rcases call_cases client.fetchAccountCamel with ⟨e, he⟩ | ⟨items, hitems⟩ | ⟨hraise, hdict⟩
    · exact absurd he (hcamel e)
    · refine .inl ⟨items, ?_, .inr (.inr hitems)⟩
      rw [hitems]
      rfl
    · rw [fetchAccountInfo_skips hraise hdict]
      exact .inr rfl

theorem accounts_raise (h : ¬client.AccountsReturn) :
    ∃ e, fetchAccountInfo [client.fetchAccount, client.fetchAccountCamel] = .error e ∧
      e.cls = .other := by
  rcases call_cases client.fetchAccount with ⟨e, he⟩ | ⟨items, hitems⟩ | ⟨hraise, hdict⟩
  · rw [he]
    exact fetchAccountInfo_raises e
  · refine absurd ⟨fun e he => ?_, .inl ⟨items, hitems⟩⟩ h
    rw [hitems] at he
    cases he
  · rw [fetchAccountInfo_skips hraise hdict]
    have hcamel : ∃ e, client.fetchAccountCamel = some (.error e) := by
      by_contra hnone
      exact h ⟨hraise, .inr (not_exists.mp hnone)⟩
    obtain ⟨e, he⟩ := hcamel
    rw [he]
    exact fetchAccountInfo_raises e

end

/-! ### The payload -/

theorem enforce_ends (name : String) (report : KeyPermissionReport) :
    (enforce name report = .ok report ∧ report.isSafe = true) ∨
      ∃ e, enforce name report = .error e ∧ e.cls = .insecureApiKeyError := by
  unfold enforce KeyPermissionReport.isSafe
  cases report.withdrawalEnabled <;> cases report.transferEnabled <;>
    cases report.spotTradingEnabled <;> cases report.readEnabled <;> simp [insecureApiKeyError]

theorem evaluatePermissions_dict (name : String) (items : List (PyObject × PyObject)) :
    ∃ report, evaluatePermissions name (.dict items) = .ok report ∧ report.exchange = name ∧
      report.rawPermissions = .dict items := by
  rw [evaluatePermissions, normalizePermissions_dict]
  exact ⟨_, rfl, rfl, rfl⟩

theorem evaluatePermissions_of_not_dict (name : String) {payload : PyObject}
    (h : ¬payload.IsDict) : evaluatePermissions name payload = .error attributeError := by
  cases payload with
  | dict items => exact absurd ⟨items, rfl⟩ h
  | _ => rfl

section
variable {client : CcxtClient} {exchangeName : Option String}

theorem endsSafely_of_dict {items : List (PyObject × PyObject)}
    (hfetch : fetchKeyPermissions client = .ok (.dict items))
    (hreturned : client.Returned (.dict items)) : EndsSafely client exchangeName := by
  have hrun (report : KeyPermissionReport) (name : String)
      (hname : name = nameOr exchangeName (nameOr client.id "unknown"))
      (hreport : evaluatePermissions name (.dict items) = .ok report) :
      validateKeyPermissions client exchangeName none = enforce name report := by
    subst hname
    simp only [validateKeyPermissions, hfetch, ok_bind, hreport]
  obtain ⟨report, hreport, hname, hraw⟩ :=
    evaluatePermissions_dict (nameOr exchangeName (nameOr client.id "unknown")) items
  have hvalidate := hrun report _ rfl hreport
  rcases enforce_ends (nameOr exchangeName (nameOr client.id "unknown")) report with
    ⟨hok, hsafe⟩ | ⟨e, he, hcls⟩
  · refine .inl ⟨report, hvalidate.trans hok, hsafe, ?_, ?_⟩
    · exact hraw ▸ hreturned
    · rw [hname, hraw]
      exact hreport
  · exact .inr ⟨e, hvalidate.trans he, hcls⟩

theorem validate_of_error {e : PyError} (hfetch : fetchKeyPermissions client = .error e) :
    validateKeyPermissions client exchangeName none = .error e := by
  simp only [validateKeyPermissions, hfetch]
  rfl

theorem not_endsSafely {e : PyError}
    (h : validateKeyPermissions client exchangeName none = .error e) (hcls : e.cls = .other) :
    ¬EndsSafely client exchangeName := by
  rintro (⟨report, hok, -⟩ | ⟨e', he', hcls'⟩)
  · rw [h] at hok
    cases hok
  · rw [h] at he'
    cases he'
    rw [hcls] at hcls'
    cases hcls'

theorem endsSafely_accounts_iff
    (hfetch : fetchKeyPermissions client =
      fetchAccountInfo [client.fetchAccount, client.fetchAccountCamel]) :
    EndsSafely client exchangeName ↔ client.AccountsReturn := by
  constructor
  · intro h
    by_contra hraise
    obtain ⟨e, he, hcls⟩ := accounts_raise hraise
    exact not_endsSafely (validate_of_error (hfetch.trans he)) hcls h
  · intro h
    rcases accounts_end h with ⟨items, hitems, hreturned⟩ | hunverifiable
    · exact endsSafely_of_dict (hfetch.trans hitems) hreturned
    · exact .inr ⟨_, validate_of_error (hfetch.trans hunverifiable), rfl⟩

/-- A payload that is falsy counts as `{}`, which lacks what a key must have. -/
theorem endsSafely_permissions_iff {permissions : PyObject}
    (h : client.fetchPermissions = some (.ok permissions)) :
    EndsSafely client exchangeName ↔ (permissions.truthy = true → permissions.IsDict) := by
  have hfetch : fetchKeyPermissions client =
      .ok (if permissions.truthy then permissions else .dict []) := by
    rw [fetchKeyPermissions, h]
  by_cases htruthy : permissions.truthy = true
  · rw [if_pos htruthy] at hfetch
    by_cases hdict : permissions.IsDict
    · obtain ⟨items, rfl⟩ := hdict
      exact iff_of_true (endsSafely_of_dict hfetch (.inl h)) fun _ => ⟨items, rfl⟩
    · have hvalidate : validateKeyPermissions client exchangeName none = .error attributeError := by
        simp only [validateKeyPermissions, hfetch, ok_bind, evaluatePermissions_of_not_dict _ hdict]
        rfl
      exact iff_of_false (not_endsSafely hvalidate rfl) fun hall => hdict (hall htruthy)
  · rw [if_neg htruthy] at hfetch
    have hvalidate : ∃ e, validateKeyPermissions client exchangeName none = .error e ∧
        e.cls = .insecureApiKeyError := by
      simp only [validateKeyPermissions, hfetch, ok_bind]
      exact ⟨_, rfl, rfl⟩
    exact iff_of_true (.inr hvalidate) fun hall => absurd hall htruthy

end

theorem validate_endsSafely_iff (client : CcxtClient) (exchangeName : Option String) :
    EndsSafely client exchangeName ↔ client.Answers := by
  cases hpermissions : client.fetchPermissions with
  | none =>
    have hfetch : fetchKeyPermissions client =
        fetchAccountInfo [client.fetchAccount, client.fetchAccountCamel] := by
      rw [fetchKeyPermissions, hpermissions]
    rw [CcxtClient.Answers, hpermissions]
    exact endsSafely_accounts_iff hfetch
  | some answer =>
    cases answer with
    | ok permissions =>
      rw [CcxtClient.Answers, hpermissions]
      exact endsSafely_permissions_iff hpermissions
    | error e =>
      cases e with
      | baseError message =>
        have hfetch : ∃ e, fetchKeyPermissions client = .error e ∧
            e.cls = .insecureApiKeyError := by
          rw [fetchKeyPermissions, hpermissions]
          exact ⟨_, rfl, rfl⟩
        obtain ⟨e, he, hcls⟩ := hfetch
        rw [CcxtClient.Answers, hpermissions]
        exact iff_of_true (.inr ⟨e, validate_of_error he, hcls⟩) trivial
      | notSupported message =>
        have hfetch : fetchKeyPermissions client =
            fetchAccountInfo [client.fetchAccount, client.fetchAccountCamel] := by
          rw [fetchKeyPermissions, hpermissions]
        rw [CcxtClient.Answers, hpermissions]
        exact endsSafely_accounts_iff hfetch

/-- The account call meets a network error, and a list of permissions is no dictionary. -/
theorem validate_endsSafely_unguarded :
    ¬EndsSafely ⟨some "binance", none, some (.error (.baseError "connection reset")), none⟩ none ∧
      ¬EndsSafely ⟨some "binance", some (.ok (.list [.str "spot", .str "read"])), none, none⟩
        none :=
  ⟨not_endsSafely (e := ⟨.other, "connection reset"⟩) rfl rfl,
    not_endsSafely (e := attributeError) rfl rfl⟩

end BimodalArbitrage.Security
