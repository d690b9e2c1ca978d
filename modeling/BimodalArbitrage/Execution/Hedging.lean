import BimodalArbitrage.Execution.HedgeRuns

/-!
# The hedge loop against an honest client
-/

namespace BimodalArbitrage.Execution
open Coop
variable {S Ev : Type}

/-- How the re-peg loop may end that entered with `remaining` to close and
`filledTotal` closed: the two keep their sum, or a call raised with some of
`remaining` still open. -/
def Repegged (exchange symbol : String) (side : Side) (remaining filledTotal : ℚ)
    (result : Except PyError (ℚ × ℚ)) (t : List (Seen Ev)) : Prop :=
  Ends result
    (fun p => netBase t = side.signed (p.2 - filledTotal) ∧
      closingOrders exchange symbol side t = p.2 - filledTotal ∧
      p.1 + p.2 = remaining + filledTotal ∧ filledTotal ≤ p.2 ∧ (0 ≤ remaining → 0 ≤ p.1))
    (fun _ => closingOrders exchange symbol side t < remaining)

theorem repegged_step {exchange symbol : String} {side : Side} {remaining filledTotal pegPrice : ℚ}
    {result : LegResult} {r : Except PyError (ℚ × ℚ)} {t : List (Seen Ev)}
    (hopen : 0 < remaining) (hfill : Within remaining result)
    (hrest : Repegged exchange symbol side (remaining - result.filledAmount)
      (filledTotal + result.filledAmount) r t) :
    Repegged exchange symbol side remaining filledTotal r
      (.reply (.bestBid exchange symbol) (.ok pegPrice) ::
        .reply (.placeLimitOrder exchange symbol side remaining pegPrice) (.ok result) :: t) := by
  obtain ⟨hpos, hle⟩ := hfill hopen.le
  cases r with
  | error e =>
    rw [Repegged, ends_error] at hrest ⊢
    simp only [closingOrders, tally_reply, ClientCall.closing, and_self, if_true] at hrest ⊢
    linarith
  | ok p =>
    obtain ⟨hnet, hclosing, hsum, htotal, hleft⟩ := hrest
    refine ⟨?_, ?_, by linarith, by linarith, fun _ => hleft (by linarith)⟩
    · have hsplit : p.2 - filledTotal =
          result.filledAmount + (p.2 - (filledTotal + result.filledAmount)) := by ring
      simp only [netBase, tally_reply, ClientCall.moved, value_rat, zero_add] at hnet ⊢
      rw [hnet, hsplit, signed_add]
    · simp only [closingOrders, tally_reply, ClientCall.closing, and_self, if_true] at hclosing ⊢
      linarith

theorem Rounds.repegged {exchange symbol : String} {side : Side} {n : ℕ}
    {remaining filledTotal : ℚ} {r : Except PyError (ℚ × ℚ)} {t : List (Seen Ev)}
    (h : Rounds exchange symbol side n remaining filledTotal r t) :
    Repegged exchange symbol side remaining filledTotal r t := by
  induction h with
  | spent => simp [Repegged, netBase, closingOrders]
  | closed hclosed => simp [Repegged, netBase, closingOrders]
  | noBid hopen => simpa [Repegged, closingOrders, ClientCall.closing] using hopen
  | noOrder hopen => simpa [Repegged, closingOrders, ClientCall.closing] using hopen
  | round hopen hfill hrest ih => exact repegged_step (not_le.mp hopen) hfill ih

def MarketReturns (client : Client S Ev) : Prop :=
  ∀ h exchange symbol side amount, ∃ r,
    client.answer h (.placeMarketOrder exchange symbol side amount) = .ok r

def Hedged (client : Client S Ev) (exchange symbol : String) (side : Side) (amount : ℚ)
    (result : Except PyError ℚ) (t : List (Seen Ev)) : Prop :=
  Ends result
    (fun filled => netBase t = side.signed filled ∧ filled ≤ amount ∧
      amount ≤ closingOrders exchange symbol side t)
    (fun _ => MarketReturns client → closingOrders exchange symbol side t < amount)

theorem liquidate_shows {client : Client S Ev} (hc : FillsWithin client) (exchange symbol : String)
    (side : Side) {amount remaining filledTotal : ℚ} (f : LegResult → ℚ)
    (hf : ∀ r, f r = filledTotal + r.filledAmount) {t : List (Seen Ev)}
    (hnet : netBase t = side.signed filledTotal)
    (hclosing : closingOrders exchange symbol side t = filledTotal)
    (hsum : remaining + filledTotal = amount) (hopen : 0 ≤ remaining) :
    Coro.Shows client
      ((remoteClient.placeMarketOrder exchange symbol side remaining).bind fun r => .pure (f r))
      (fun r u => Hedged client exchange symbol side amount r (t ++ u)) := by
  refine Coro.shows_call_bind fun hist => ?_
  have hfill := hc hist (.placeMarketOrder exchange symbol side remaining)
  cases hr : client.answer hist (.placeMarketOrder exchange symbol side remaining) with
  | error e =>
    intro hm
    obtain ⟨r, hr'⟩ := hm hist exchange symbol side remaining
    rw [hr] at hr'
    cases hr'
  | ok result =>
    rw [hr] at hfill
    rw [ends_ok]
    refine Coro.shows_pure _ ⟨?_, ?_, ?_⟩
    · simp only [netBase, tally_append, tally_reply, tally_nil, ClientCall.moved, value_rat,
        add_zero] at hnet ⊢
      rw [hf, hnet, signed_add]
    · rw [hf]
      linarith [(hfill hopen).2]
    · simp only [closingOrders, tally_append, tally_reply, tally_nil, ClientCall.closing, and_self,
        if_true] at hclosing ⊢
      linarith

theorem autoHedge_shows {client : Client S Ev} (hc : FillsWithin client) (maxRepegs : ℕ)
    (exchange symbol : String) (side : Side) {amount : ℚ} (ha : 0 ≤ amount)
    (highVolatility : Bool) :
    Coro.Shows client
      ((mitigator S Ev maxRepegs).autoHedge exchange symbol side amount highVolatility)
      (Hedged client exchange symbol side amount) := by
  unfold BrokenLegMitigator.autoHedge
  cases highVolatility with
  | true =>
    exact liquidate_shows hc exchange symbol side LegResult.filledAmount
      (fun r => (zero_add _).symm) (t := []) (signed_zero side).symm rfl (add_zero amount) ha
  | false =>
    refine Coro.shows_bind (repeg_rounds hc maxRepegs exchange symbol side maxRepegs amount 0) ?_
    rintro (e | ⟨remaining, filledTotal⟩) t hrounds
    · exact fun _ => hrounds.repegged
    obtain ⟨hnet, hclosing, hsum, htotal, hleft⟩ := hrounds.repegged
    simp only [sub_zero, add_zero] at hnet hclosing hsum htotal
    rw [ends_ok]
    dsimp only
    split
    · next hopen =>
      exact liquidate_shows hc exchange symbol side _ (fun r => rfl) hnet hclosing hsum hopen.le
    next hclosed =>
    refine Coro.shows_pure _ ⟨by simpa using hnet, ?_, ?_⟩
    · linarith [hleft ha]
    · rw [List.append_nil, hclosing]
      linarith

/-! ### When the hedge returns -/

/-- As long as something is open and rounds are left, both calls of a round return.
`h` is what has been observed before. -/
def RepegsReturn (client : Client S Ev) (exchange symbol : String) (side : Side) :
    ℕ → ℚ → List (Seen Ev) → Prop
  | 0, _, _ => True
  | n + 1, remaining, h => 0 < remaining → ∃ pegPrice result,
      client.answer h (.bestBid exchange symbol) = .ok pegPrice ∧
      client.answer (h ++ [.reply (.bestBid exchange symbol) (.ok pegPrice)])
        (.placeLimitOrder exchange symbol side remaining pegPrice) = .ok result ∧
      RepegsReturn client exchange symbol side n (remaining - result.filledAmount)
        (h ++ [.reply (.bestBid exchange symbol) (.ok pegPrice)] ++
          [.reply (.placeLimitOrder exchange symbol side remaining pegPrice) (.ok result)])

theorem repeg_returns_iff (client : Client S Ev) (maxRepegs : ℕ) (exchange symbol : String)
    (side : Side) (n : ℕ) (remaining filledTotal : ℚ) (s : S) (h : List (Seen Ev)) :
    (((mitigator S Ev maxRepegs).repeg exchange symbol side n remaining filledTotal).play
        client s h).Returns ↔ RepegsReturn client exchange symbol side n remaining h := by
  induction n generalizing remaining filledTotal s h with
  | zero => exact iff_of_true ⟨_, rfl⟩ trivial
  | succ n ih =>
    by_cases hopen : 0 < remaining
    · simp only [BrokenLegMitigator.repeg, not_le.mpr hopen, if_false]
      constructor
      · intro hreturns _
        obtain ⟨pegPrice, hbid, hreturns⟩ := (Coro.play_call_bind_returns ..).mp hreturns
        obtain ⟨result, hlimit, hreturns⟩ := (Coro.play_call_bind_returns ..).mp hreturns
        exact ⟨pegPrice, result, hbid, hlimit, (ih ..).mp hreturns⟩
      · intro hreturn
        obtain ⟨pegPrice, result, hbid, hlimit, hrest⟩ := hreturn hopen
        refine (Coro.play_call_bind_returns ..).mpr ⟨pegPrice, hbid, ?_⟩
        exact (Coro.play_call_bind_returns ..).mpr ⟨result, hlimit, (ih ..).mpr hrest⟩
    · simp only [BrokenLegMitigator.repeg, not_lt.mp hopen, if_true]
      exact iff_of_true ⟨_, rfl⟩ fun hremaining => absurd hremaining hopen

theorem liquidate_returns {client : Client S Ev} (hm : MarketReturns client)
    (exchange symbol : String) (side : Side) (amount : ℚ) (f : LegResult → ℚ) (s : S)
    (h : List (Seen Ev)) :
    (((remoteClient.placeMarketOrder exchange symbol side amount).bind fun r => .pure (f r)).play
      client s h).Returns := by
  obtain ⟨r, hr⟩ := hm h exchange symbol side amount
  exact (Coro.play_call_bind_returns ..).mpr ⟨r, hr, _, rfl⟩

theorem autoHedge_returns_iff {client : Client S Ev} (hm : MarketReturns client) (maxRepegs : ℕ)
    (exchange symbol : String) (side : Side) (amount : ℚ) (highVolatility : Bool) (s : S)
    (h : List (Seen Ev)) :
    (((mitigator S Ev maxRepegs).autoHedge exchange symbol side amount highVolatility).play
        client s h).Returns ↔
      highVolatility = true ∨ RepegsReturn client exchange symbol side maxRepegs amount h := by
  cases highVolatility with
  | true =>
    have hmarket := liquidate_returns hm exchange symbol side amount LegResult.filledAmount s h
    exact iff_of_true hmarket (.inl rfl)
  | false =>
    simp only [BrokenLegMitigator.autoHedge, Bool.false_eq_true, if_false, false_or,
      Coro.bind_eq, Coro.play_bind, Outcome.andThen_returns]
    rw [← repeg_returns_iff client maxRepegs exchange symbol side maxRepegs amount 0 s h]
    constructor
    · rintro ⟨p, hp, -⟩
      exact ⟨p, hp⟩
    · rintro ⟨p, hp⟩
      refine ⟨p, hp, ?_⟩
      split
      · exact liquidate_returns hm exchange symbol side p.1 _ _ _
      · exact ⟨_, rfl⟩

end BimodalArbitrage.Execution
