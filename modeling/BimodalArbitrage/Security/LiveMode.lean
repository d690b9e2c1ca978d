import BimodalArbitrage.Security.KeyMaterial

/-!
# The master key in live mode
-/

namespace BimodalArbitrage.Security

def LiveMode (environ : String → Option String) : Prop :=
  ∃ mode, environ "TRADING_MODE" = some mode ∧ pyLower (pyStrip mode) = "live"

def localVariables : List String := ["MASTER_KEY_OVERRIDE", "ENVELOPE_KEY_ID"]

/-- A variable counts as set when it holds a text that is not empty. -/
def IsSet (environ : String → Option String) (name raw : String) : Prop :=
  environ name = some raw ∧ raw ≠ ""

/-- The text that `MASTER_KEY` holds or, that not being set, the variable of the secret. -/
def Configured (environ : String → Option String) (secretName raw : String) : Prop :=
  IsSet environ "MASTER_KEY" raw ∨
    (∀ other, ¬IsSet environ "MASTER_KEY" other) ∧ IsSet environ secretName raw

def SameOutsideLocal (environ environ' : String → Option String) : Prop :=
  ∀ name, name ∉ localVariables → environ' name = environ name

section
variable {environ environ' : String → Option String} {secretName : String}

theorem devFallbackKey_live (h : LiveMode environ) :
    devFallbackKey environ = .error refusedInLiveMode := by
  obtain ⟨mode, hmode, hlive⟩ := h
  simp only [devFallbackKey, hmode, Option.getD_some, hlive, if_true]

theorem configured_of_pyOr {raw : String}
    (h : pyOr (environ "MASTER_KEY") (environ secretName) = some raw) (hraw : raw ≠ "") :
    Configured environ secretName raw := by
  unfold pyOr at h
  split at h
  · next s hs =>
    split at h
    · next hempty =>
      refine .inr ⟨fun other hother => ?_, h, hraw⟩
      have hsame := Option.some.inj (hs.symm.trans hother.1)
      exact hother.2 (hsame.symm.trans hempty)
    · cases h
      exact .inl ⟨hs, hraw⟩
  · next hnone =>
    refine .inr ⟨fun other hother => ?_, h, hraw⟩
    cases hnone.symm.trans hother.1

/-- The key is the injected one or that of the fallback. -/
theorem getMasterKey_cases (modal : ModalPackage) (environ : String → Option String)
    (secretName : Option String) :
    getMasterKey modal environ secretName = devFallbackKey environ ∨
      ∃ fromName key, injectedKey fromName environ (resolvedName environ secretName) =
        .ok (some key) ∧ getMasterKey modal environ secretName = .ok key := by
  unfold getMasterKey
  split
  · exact .inl rfl
  · next fromName =>
    split
    · next key hkey => exact .inr ⟨fromName, key, hkey, rfl⟩
    · exact .inl rfl
    · exact .inl rfl

/-- A key that is injected is the one that the configured text encodes. -/
theorem injectedKey_some {fromName : String → Except PyError Unit} {key : Bytes}
    (h : injectedKey fromName environ secretName = .ok (some key)) :
    ∃ raw, Configured environ secretName raw ∧ Encodes raw key := by
  obtain ⟨-, -, hrest⟩ := bind_ok h
  split at hrest
  · cases hrest
  · next raw hraw =>
    split at hrest
    · cases hrest
    · next hne =>
      cases hdecode : decodeKeyMaterial raw with
      | error e =>
        rw [hdecode] at hrest
        cases hrest
      | ok decoded =>
        rw [hdecode] at hrest
        cases hrest
        exact ⟨raw, configured_of_pyOr hraw hne, decodeKeyMaterial_ok.mp hdecode⟩

theorem injectedKey_congr (h : SameOutsideLocal environ environ')
    (hsecret : secretName ∉ localVariables) (fromName : String → Except PyError Unit) :
    injectedKey fromName environ' secretName = injectedKey fromName environ secretName := by
  simp only [injectedKey, h "MASTER_KEY" (by decide), h secretName hsecret]

theorem LiveMode.congr (hlive : LiveMode environ) (h : SameOutsideLocal environ environ') :
    LiveMode environ' := by
  obtain ⟨mode, hmode, hlower⟩ := hlive
  exact ⟨mode, (h "TRADING_MODE" (by decide)).trans hmode, hlower⟩

theorem resolvedName_congr (h : SameOutsideLocal environ environ') (secretName : Option String) :
    resolvedName environ' secretName = resolvedName environ secretName := by
  simp only [resolvedName, h "KMS_SECRET_NAME" (by decide)]

end

/-- The key is the configured one or there is none, and the local variables have no say. -/
structure LocalKeyUnused (modal : ModalPackage) (environ : String → Option String)
    (secretName : Option String) : Prop where
  configured : ∀ key, getMasterKey modal environ secretName = .ok key →
    ∃ raw, Configured environ (resolvedName environ secretName) raw ∧ Encodes raw key
  unavailable : ∀ e, getMasterKey modal environ secretName = .error e →
    e.cls = .kmsUnavailableError
  blind : ∀ environ', SameOutsideLocal environ environ' →
    getMasterKey modal environ' secretName = getMasterKey modal environ secretName

theorem localKey_unused (modal : ModalPackage) (environ : String → Option String)
    (secretName : Option String) (hlive : LiveMode environ)
    (hsecret : resolvedName environ secretName ∉ localVariables) :
    LocalKeyUnused modal environ secretName := by
  have hfallback := devFallbackKey_live hlive
  constructor
  · intro key hkey
    rcases getMasterKey_cases modal environ secretName with hdev | ⟨_, found, hinjected, hfound⟩
    · rw [hdev, hfallback] at hkey
      cases hkey
    · rw [hfound] at hkey
      cases hkey
      exact injectedKey_some hinjected
  · intro e he
    rcases getMasterKey_cases modal environ secretName with hdev | ⟨_, found, -, hfound⟩
    · rw [hdev, hfallback] at he
      cases he
      rfl
    · rw [hfound] at he
      cases he
  · intro environ' hsame
    have hfallback' := devFallbackKey_live (hlive.congr hsame)
    unfold getMasterKey
    rw [resolvedName_congr hsame, hfallback, hfallback']
    cases modal with
    | none => rfl
    | some fromName =>
      simp only [injectedKey_congr hsame hsecret fromName]

/-- A live deployment with its secret and the key of a developer. -/
def liveWithOverride (name : String) : Option String :=
  [("TRADING_MODE", " Live\n"), ("MASTER_KEY", "AAECAwQFBgcICQoLDA0ODxAREhMUFRYXGBkaGxwdHh8="),
    ("MASTER_KEY_OVERRIDE",
      "1f1e1d1c1b1a191817161514131211100f0e0d0c0b0a09080706050403020100")].lookup name

theorem localKey_unused_liveWithOverride :
    LocalKeyUnused (some fun _ => .ok ()) liveWithOverride none ∧
      getMasterKey (some fun _ => .ok ()) liveWithOverride none =
        .ok ((List.range 32).map UInt8.ofNat) ∧
      getMasterKey none liveWithOverride none = .error refusedInLiveMode := by
  have hlive : LiveMode liveWithOverride := ⟨" Live\n", by decide +kernel, by decide +kernel⟩
  refine ⟨localKey_unused _ _ _ hlive (by decide +kernel), by decide +kernel, ?_⟩
  simp only [getMasterKey]
  exact devFallbackKey_live hlive

end BimodalArbitrage.Security
