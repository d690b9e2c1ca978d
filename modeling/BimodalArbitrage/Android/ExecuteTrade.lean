import BimodalArbitrage.Android.Agreement

/-!
# The gate on the device (`ExecuteTradeUseCase.kt`)

The device refuses what the gateway is said to refuse again. The gateway takes its alpha
floor from the request and never looks at the exchange names.
-/

namespace BimodalArbitrage.Android
open Coop Execution Api BimodalArbitrage.Runtime
variable {N : Type} [PyFloat N]

/-- `Char.isWhitespace` of the JVM. -/
def isKotlinWhitespace (c : Char) : Bool :=
  let n := c.toNat
  (9 ≤ n && n ≤ 13) || (28 ≤ n && n ≤ 32) || n == 160 || n == 5760 ||
    (8192 ≤ n && n ≤ 8202) || n == 8232 || n == 8233 || n == 8239 || n == 8287 || n == 12288

def isBlank (s : String) : Bool := s.toList.all isKotlinWhitespace

/-- `TradeSignalRequest` of the domain model, which nothing has validated. -/
structure TradeSignalRequest (N : Type) where
  userId : String
  symbol : String
  exchangeBuy : String
  exchangeSell : String
  capitalAllocationUsd : N
  minAlphaBps : N
  tradingMode : TradingMode

/-- What the user holds in hand where the gateway gets `r`. -/
def ofRequest (r : Api.TradeSignalRequest N) : TradeSignalRequest N :=
  ⟨r.userId, r.symbol, r.exchangeBuy, r.exchangeSell, r.capitalAllocationUsd, r.minAlphaBps,
    r.tradingMode⟩

/-- A reason to refuse, or `none`; `showDouble` is the text of a `Double`. -/
def localRejectionReason (showDouble : N → String) (request : TradeSignalRequest N)
    (limits : RiskLimits N) : Option String :=
  if limits.killSwitchEngaged then some "Kill switch is engaged; trade execution is halted."
  else if request.capitalAllocationUsd ≤ 0 then some "capitalAllocationUsd must be positive."
  else if request.capitalAllocationUsd > limits.maxNotionalUsdPerTrade then
    some ("capitalAllocationUsd (" ++ showDouble request.capitalAllocationUsd ++ ") exceeds " ++
      "maxNotionalUsdPerTrade (" ++ showDouble limits.maxNotionalUsdPerTrade ++ ").")
  else if request.minAlphaBps < limits.minAlphaBps then
    some ("Requested minAlphaBps (" ++ showDouble request.minAlphaBps ++
      ") is below the configured floor (" ++ showDouble limits.minAlphaBps ++ ").")
  else if isBlank request.exchangeBuy || isBlank request.exchangeSell then
    some "exchangeBuy/exchangeSell must not be blank."
  else if request.exchangeBuy = request.exchangeSell then
    some "exchangeBuy and exchangeSell must differ."
  else none

/-- The checks of the device that the gateway has no counterpart of. -/
def OnlyLocal (request : Api.TradeSignalRequest N) : Prop :=
  request.minAlphaBps < defaultRiskLimits.minAlphaBps ∨ isBlank request.exchangeBuy = true ∨
    isBlank request.exchangeSell = true ∨ request.exchangeBuy = request.exchangeSell

def callsDispatchOrders (t : List (Obs (Event N) (Call N) Call.Reply PyError)) : Prop :=
  ∃ request signal, .event (.dispatchOrders request signal) ∈ t

section
variable {showDouble : N → String} {request : Api.TradeSignalRequest N} {userId : String}
  {env : Env (AppState N) (Event N) (Call N) Call.Reply PyError} {signal : ArbitrageSignal N}

theorem localRejectionReason_ne_none (showDouble : N → String)
    (request : Api.TradeSignalRequest N) :
    localRejectionReason showDouble (ofRequest request) defaultRiskLimits ≠ none ↔
      defaultRiskLimits.maxNotionalUsdPerTrade < request.capitalAllocationUsd ∨
        OnlyLocal request := by
  have hcapital : ¬(ofRequest request).capitalAllocationUsd ≤ 0 :=
    PyFloat.not_le_of_lt request.capital_pos
  have hswitch : ¬(defaultRiskLimits : RiskLimits N).killSwitchEngaged = true :=
    Bool.false_ne_true
  unfold localRejectionReason OnlyLocal
  rw [if_neg hswitch, if_neg hcapital]
  split
  · next hlarge => exact iff_of_true (by simp) (.inl hlarge)
  next hlarge =>
  split
  · next hfloor => exact iff_of_true (by simp) (.inr (.inl hfloor))
  next hfloor =>
  split
  · next hblank =>
    rw [Bool.or_eq_true] at hblank
    exact iff_of_true (by simp) (.inr (.inr (hblank.imp_right .inl)))
  next hblank =>
  split
  · next hsame => exact iff_of_true (by simp) (.inr (.inr (.inr (.inr hsame))))
  next hsame =>
  rw [Bool.or_eq_true, not_or] at hblank
  refine iff_of_false (by simp) ?_
  simp only [not_or]
  exact ⟨hlarge, hfloor, hblank.1, hblank.2, hsame⟩

theorem callsDispatchOrders_iff (hsignal : env.answer [] .evaluateSpread = .ok signal)
    (s : AppState N) :
    callsDispatchOrders (handled env request userId s).trace ↔
      request.userId = userId ∧ Passes request signal := by
  rw [← gateCall_verdict_iff, handled]
  by_cases huser : request.userId = userId
  · simp only [processArbitrageIntent, huser, ne_eq, not_true_eq_false, if_false, Coro.bind_eq,
      Coro.play_bind, Coro.play_call, hsignal, Outcome.andThen, Coro.report, Coro.play,
      List.nil_append, List.cons_append, true_and]
    cases hverdict : (gateCall request signal).verdict.1 with
    | false => simp [Coro.play, callsDispatchOrders]
    | true =>
      simp only [Bool.not_true, Bool.false_eq_true, if_false, Coro.play_bind, Coro.play,
        Outcome.andThen, List.cons_append, List.nil_append, Coro.play_attempt, Coro.play_call,
        iff_true]
      refine ⟨request, signal, ?_⟩
      cases env.answer [.reply .evaluateSpread (.ok signal),
        .event (.shouldExecute (.intent request) (gateCall request signal)),
        .event (.dispatchOrders request signal)] (.dispatchOrders request signal) <;>
          simp [Coro.play]
  · simp [processArbitrageIntent, huser, Coro.play, callsDispatchOrders]

/-- The gateway backs a refusal of the device exactly when the device has none of its own
reasons, or the request is not the caller's or one of the gate's comparisons refuses it. -/
theorem gateway_backs_device_iff (showDouble : N → String) (request : Api.TradeSignalRequest N)
    (userId : String) (env : Env (AppState N) (Event N) (Call N) Call.Reply PyError)
    (s : AppState N) {signal : ArbitrageSignal N}
    (hsignal : env.answer [] .evaluateSpread = .ok signal) :
    (localRejectionReason showDouble (ofRequest request) defaultRiskLimits ≠ none →
        ¬callsDispatchOrders (handled env request userId s).trace) ↔
      ¬OnlyLocal request ∨ request.userId ≠ userId ∨ ¬Passes request signal := by
  rw [localRejectionReason_ne_none, callsDispatchOrders_iff hsignal s, ← not_and_or]
  constructor
  · intro h
    by_cases hlocal : OnlyLocal request
    · exact .inr (h (.inr hlocal))
    · exact .inl hlocal
  · rintro hbacked (hlarge | hlocal) hcalled
    · exact hcalled.2.capital hlarge
    · exact hbacked.elim (· hlocal) (· hcalled)

end

def oversizedRequest : Api.TradeSignalRequest Binary64 :=
  aliceRequest 60 15 (by decide +kernel) Api.smallRequest.minAlpha_pos

theorem gateway_backs_device_oversized :
    localRejectionReason (fun _ => "") (ofRequest oversizedRequest) defaultRiskLimits ≠ none ∧
      ¬callsDispatchOrders (handled sampleBackend oversizedRequest "alice" .initial).trace := by
  have hrefused : localRejectionReason (fun _ => "") (ofRequest oversizedRequest)
      defaultRiskLimits ≠ none := by decide +kernel
  have hlarge : ¬Passes oversizedRequest ⟨0.95, 30, 0.05⟩ := fun h =>
    h.capital (by decide +kernel)
  exact ⟨hrefused, (gateway_backs_device_iff (fun _ => "") oversizedRequest "alice" sampleBackend
    .initial rfl).mpr (.inr (.inr hlarge)) hrefused⟩

def lowFloorRequest : Api.TradeSignalRequest Binary64 :=
  aliceRequest 25 5 Api.smallRequest.capital_pos (by decide +kernel)

theorem gateway_backs_device_lowFloor :
    localRejectionReason (fun _ => "") (ofRequest lowFloorRequest) defaultRiskLimits ≠ none ∧
      callsDispatchOrders (handled sampleBackend lowFloorRequest "alice" .initial).trace := by
  refine ⟨by decide +kernel, ?_⟩
  have hsignal : sampleBackend.answer [] .evaluateSpread = .ok ⟨0.95, 30, 0.05⟩ := rfl
  refine (callsDispatchOrders_iff hsignal _).mpr ⟨rfl, ?_, ?_, ?_, ?_, ?_⟩ <;> decide +kernel

end BimodalArbitrage.Android
