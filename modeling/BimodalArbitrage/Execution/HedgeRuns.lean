import BimodalArbitrage.Coop.Play
import BimodalArbitrage.Execution.Exposure

/-!
# The runs of the hedge loop

What `_auto_hedge` asks of a client, and what comes of it: rounds of a best bid and a
limit order, then at most one market order.
-/

namespace BimodalArbitrage.Execution
open Coop
variable {S Ev N : Type}

abbrev mitigator (S Ev : Type) (maxRepegs : ℕ) (N : Type := ℚ) :
    BrokenLegMitigator S Ev (ClientCall N) ClientCall.Reply N := ⟨remoteClient, maxRepegs⟩

/-! ### Calls that raise -/

def Raised (t : List (Seen Ev N)) : Prop := ∃ c e, .reply c (.error e) ∈ t

/-- A run raises exactly where one of its calls does. -/
def RaisesWithCalls {α : Type} (r : Except PyError α) (t : List (Seen Ev N)) : Prop :=
  Ends r (fun _ => ¬Raised t) (fun _ => Raised t)

section
variable {t : List (Seen Ev N)}

theorem not_raised_nil : ¬Raised ([] : List (Seen Ev N)) := by
  rintro ⟨c, e, hmem⟩
  cases hmem

theorem raised_error (c : ClientCall N) (e : PyError) (t : List (Seen Ev N)) :
    Raised (.reply c (.error e) :: t) := ⟨c, e, List.mem_cons_self ..⟩

theorem raised_ok (c : ClientCall N) (r : c.Reply) (t : List (Seen Ev N)) :
    Raised (.reply c (.ok r) :: t) ↔ Raised t := by
  constructor
  · rintro ⟨c', e, hmem⟩
    rcases List.mem_cons.mp hmem with heq | hmem
    · cases heq
    · exact ⟨c', e, hmem⟩
  · rintro ⟨c', e, hmem⟩
    exact ⟨c', e, List.mem_cons_of_mem _ hmem⟩

theorem raised_append (t u : List (Seen Ev N)) : Raised (t ++ u) ↔ Raised t ∨ Raised u := by
  simp only [Raised, List.mem_append, exists_or]

end

/-! ### Runs -/

variable [PyFloat N]

/-- A run of the re-peg loop: at most `n` rounds, entered with `remaining` still open and
`filledTotal` filled so far. -/
inductive Rounds (exchange symbol : String) (side : Side) :
    ℕ → N → N → Except PyError (N × N) → List (Seen Ev N) → Prop where
  | spent {remaining filledTotal : N} :
      Rounds exchange symbol side 0 remaining filledTotal (.ok (remaining, filledTotal)) []
  | closed {n : ℕ} {remaining filledTotal : N} (hclosed : remaining ≤ 0) :
      Rounds exchange symbol side (n + 1) remaining filledTotal (.ok (remaining, filledTotal)) []
  | noBid {n : ℕ} {remaining filledTotal : N} {e : PyError} (hopen : ¬remaining ≤ 0) :
      Rounds exchange symbol side (n + 1) remaining filledTotal (.error e)
        [.reply (.bestBid exchange symbol) (.error e)]
  | noOrder {n : ℕ} {remaining filledTotal pegPrice : N} {e : PyError} (hopen : ¬remaining ≤ 0) :
      Rounds exchange symbol side (n + 1) remaining filledTotal (.error e)
        [.reply (.bestBid exchange symbol) (.ok pegPrice),
          .reply (.placeLimitOrder exchange symbol side remaining pegPrice) (.error e)]
  | round {n : ℕ} {remaining filledTotal pegPrice : N} {result : LegResult N}
      {r : Except PyError (N × N)} {t : List (Seen Ev N)} (hopen : ¬remaining ≤ 0)
      (hfill : Within remaining result)
      (hrest : Rounds exchange symbol side n (remaining - result.filledAmount)
        (filledTotal + result.filledAmount) r t) :
      Rounds exchange symbol side (n + 1) remaining filledTotal r
        (.reply (.bestBid exchange symbol) (.ok pegPrice) ::
          .reply (.placeLimitOrder exchange symbol side remaining pegPrice) (.ok result) :: t)

/-- One market order for `remaining`, with `filledTotal` filled before. -/
inductive Liquidated (exchange symbol : String) (side : Side) (remaining filledTotal : N) :
    Except PyError N → List (Seen Ev N) → Prop where
  | raised {e : PyError} : Liquidated exchange symbol side remaining filledTotal (.error e)
      [.reply (.placeMarketOrder exchange symbol side remaining) (.error e)]
  | answered {result : LegResult N} (hfill : Within remaining result) :
      Liquidated exchange symbol side remaining filledTotal
        (.ok (filledTotal + result.filledAmount))
        [.reply (.placeMarketOrder exchange symbol side remaining) (.ok result)]

/-- A run of `_auto_hedge`. -/
inductive HedgeRun (exchange symbol : String) (side : Side) (maxRepegs : ℕ) (amount : N) :
    Bool → Except PyError N → List (Seen Ev N) → Prop where
  | liquidated {r : Except PyError N} {t : List (Seen Ev N)}
      (hmarket : Liquidated exchange symbol side amount 0 r t) :
      HedgeRun exchange symbol side maxRepegs amount true r t
  | raised {e : PyError} {t : List (Seen Ev N)}
      (hrounds : Rounds exchange symbol side maxRepegs amount 0 (.error e) t) :
      HedgeRun exchange symbol side maxRepegs amount false (.error e) t
  | closed {remaining filledTotal : N} {t : List (Seen Ev N)}
      (hrounds : Rounds exchange symbol side maxRepegs amount 0 (.ok (remaining, filledTotal)) t)
      (hclosed : ¬0 < remaining) :
      HedgeRun exchange symbol side maxRepegs amount false (.ok filledTotal) t
  | fallback {remaining filledTotal : N} {r : Except PyError N} {t u : List (Seen Ev N)}
      (hrounds : Rounds exchange symbol side maxRepegs amount 0 (.ok (remaining, filledTotal)) t)
      (hopen : 0 < remaining)
      (hmarket : Liquidated exchange symbol side remaining filledTotal r u) :
      HedgeRun exchange symbol side maxRepegs amount false r (t ++ u)

theorem repeg_rounds {client : Client S Ev N} (hc : FillsWithin client) (maxRepegs : ℕ)
    (exchange symbol : String) (side : Side) (n : ℕ) (remaining filledTotal : N) :
    Coro.Shows client
      ((mitigator S Ev maxRepegs N).repeg exchange symbol side n remaining filledTotal)
      (Rounds exchange symbol side n remaining filledTotal) := by
  induction n generalizing remaining filledTotal with
  | zero => exact Coro.shows_pure _ .spent
  | succ n ih =>
    simp only [BrokenLegMitigator.repeg]
    split
    · next hclosed => exact Coro.shows_pure _ (.closed hclosed)
    next hopen =>
    refine Coro.shows_call_bind fun hist => ?_
    cases client.answer hist (.bestBid exchange symbol) with
    | error e => exact .noBid hopen
    | ok pegPrice =>
      rw [ends_ok]
      refine Coro.shows_call_bind fun hist' => ?_
      have hfill := hc hist' (.placeLimitOrder exchange symbol side remaining pegPrice)
      cases hr : client.answer hist' (.placeLimitOrder exchange symbol side remaining pegPrice) with
      | error e => exact .noOrder hopen
      | ok result =>
        rw [hr] at hfill
        rw [ends_ok]
        exact Coro.shows_mono (ih _ _) fun r t hrest => .round hopen hfill hrest

theorem liquidate_run {client : Client S Ev N} (hc : FillsWithin client) (exchange symbol : String)
    (side : Side) (remaining filledTotal : N) (f : LegResult N → N)
    (hf : ∀ r, f r = filledTotal + r.filledAmount) :
    Coro.Shows client
      ((remoteClient.placeMarketOrder exchange symbol side remaining).bind fun r => .pure (f r))
      (Liquidated exchange symbol side remaining filledTotal) := by
  refine Coro.shows_call_bind fun hist => ?_
  have hfill := hc hist (.placeMarketOrder exchange symbol side remaining)
  cases hr : client.answer hist (.placeMarketOrder exchange symbol side remaining) with
  | error e => exact .raised
  | ok result =>
    rw [hr] at hfill
    rw [ends_ok]
    refine Coro.shows_pure _ ?_
    rw [hf]
    exact .answered hfill

theorem autoHedge_run {client : Client S Ev N} (hc : FillsWithin client) (maxRepegs : ℕ)
    (exchange symbol : String) (side : Side) (amount : N) (highVolatility : Bool) :
    Coro.Shows client
      ((mitigator S Ev maxRepegs N).autoHedge exchange symbol side amount highVolatility)
      (HedgeRun exchange symbol side maxRepegs amount highVolatility) := by
  unfold BrokenLegMitigator.autoHedge
  cases highVolatility with
  | true =>
    have hmarket := liquidate_run hc exchange symbol side amount 0 LegResult.filledAmount
      fun r => (PyFloat.zero_add r.filledAmount).symm
    exact Coro.shows_mono hmarket fun r t h => .liquidated h
  | false =>
    refine Coro.shows_bind (repeg_rounds hc maxRepegs exchange symbol side maxRepegs amount 0) ?_
    rintro (e | ⟨remaining, filledTotal⟩) t hrounds
    · exact .raised hrounds
    rw [ends_ok]
    dsimp only
    split
    · next hopen =>
      have hmarket := liquidate_run hc exchange symbol side remaining filledTotal
        (fun r => filledTotal + r.filledAmount) fun r => rfl
      exact Coro.shows_mono hmarket fun r u h => .fallback hrounds hopen h
    next hclosed =>
    refine Coro.shows_pure _ ?_
    rw [List.append_nil]
    exact .closed hrounds hclosed

section
variable {exchange symbol : String} {side : Side} {n maxRepegs : ℕ}
  {amount remaining filledTotal : N} {t : List (Seen Ev N)}

theorem Rounds.raises {r : Except PyError (N × N)}
    (h : Rounds exchange symbol side n remaining filledTotal r t) : RaisesWithCalls r t := by
  induction h with
  | spent => exact not_raised_nil
  | closed hclosed => exact not_raised_nil
  | noBid hopen => exact raised_error ..
  | noOrder hopen => exact (raised_ok ..).mpr (raised_error ..)
  | @round n remaining filledTotal pegPrice result r t hopen hfill hrest ih =>
    unfold RaisesWithCalls at ih ⊢
    rw [raised_ok, raised_ok]
    exact ih

theorem Liquidated.raises {r : Except PyError N}
    (h : Liquidated exchange symbol side remaining filledTotal r t) : RaisesWithCalls r t := by
  cases h with
  | raised => exact raised_error ..
  | answered hfill =>
    intro hraised
    exact not_raised_nil ((raised_ok ..).mp hraised)

theorem HedgeRun.raises {highVolatility : Bool} {r : Except PyError N}
    (h : HedgeRun exchange symbol side maxRepegs amount highVolatility r t) :
    RaisesWithCalls r t := by
  cases h with
  | liquidated hmarket => exact hmarket.raises
  | raised hrounds => exact hrounds.raises
  | closed hrounds hclosed => exact hrounds.raises
  | @fallback _ _ r t u hrounds hopen hmarket =>
    have hreturns : ¬Raised t := hrounds.raises
    have hmarket := hmarket.raises
    unfold RaisesWithCalls at hmarket ⊢
    rwa [raised_append, or_iff_right hreturns]

end

end BimodalArbitrage.Execution
