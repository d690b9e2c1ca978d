import BimodalArbitrage.Execution.BrokenLeg
import BimodalArbitrage.Marketdata.OrderbookCache

/-!
# Simulated fills (`backend/execution/paper_exchange.py`)

Every order fills in full at the requested price. The balances are left out: they
are seeded and never read. A fill is told by `paperFill`, the audit trail's entry.
-/

namespace BimodalArbitrage.Execution
open Coop Marketdata
variable {S Ev C : Type} {R : C → Type} {N : Type}

structure PaperExchangeClient (S Ev C : Type) (R : C → Type) (N : Type := ℚ) where
  cache : OrderBookCache S Ev C R N
  paperFill (exchange symbol : String) (side : Side) (amount price : N) : Ev

namespace PaperExchangeClient

def bestPrice (p : PaperExchangeClient S Ev C R N) (exchange symbol : String) (side : Side) :
    Coro S Ev C R PyError N := do
  let snapshot ← p.cache.getSnapshot exchange symbol
  match snapshot with
  | none => .throw ⟨.runtimeError, "no cached order book for " ++ exchange ++ "/" ++ symbol ++
      " — paper fill needs a recent real snapshot (the runner ingests these continuously)"⟩
  | some snapshot =>
    match if side = .buy then snapshot.asks else snapshot.bids with
    | [] => .throw ⟨.runtimeError, "cached order book for " ++ exchange ++ "/" ++ symbol ++
        " has no " ++ (if side = .buy then "buy" else "sell") ++ " side"⟩
    | level :: _ => pure level.price

def fill (p : PaperExchangeClient S Ev C R N) (exchange symbol : String) (side : Side)
    (amount price : N) : Coro S Ev C R PyError (LegResult N) := do
  Coro.report (p.paperFill exchange symbol side amount price)
  pure ⟨true, amount, price, none⟩

def placeMarketOrder (p : PaperExchangeClient S Ev C R N) (exchange symbol : String) (side : Side)
    (amount : N) : Coro S Ev C R PyError (LegResult N) := do
  let price ← p.bestPrice exchange symbol side
  p.fill exchange symbol side amount price

def bestBid (p : PaperExchangeClient S Ev C R N) (exchange symbol : String) :
    Coro S Ev C R PyError N := do
  let snapshot ← p.cache.getSnapshot exchange symbol
  match snapshot with
  | some ⟨_, _, _, level :: _, _⟩ => pure level.price
  | _ => .throw ⟨.runtimeError, "no cached bid for " ++ exchange ++ "/" ++ symbol⟩

def toExchangeClient (p : PaperExchangeClient S Ev C R N) : ExchangeClient S Ev C R N where
  placeIocOrder := p.fill
  placeLimitOrder := p.fill
  placeMarketOrder := p.placeMarketOrder
  bestBid := p.bestBid

end PaperExchangeClient
end BimodalArbitrage.Execution
