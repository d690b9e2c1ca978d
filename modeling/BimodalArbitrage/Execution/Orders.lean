import BimodalArbitrage.Schemas

/-!
# Orders and the calls of an exchange client
-/

namespace BimodalArbitrage.Execution

inductive Side where
  | buy
  | sell
  deriving DecidableEq, Repr

def Side.opposite : Side → Side
  | .buy => .sell
  | .sell => .buy

structure LegResult (N : Type := ℚ) where
  accepted : Bool
  filledAmount : N
  avgPrice : N
  reason : Option String
  deriving DecidableEq

def Side.signed (side : Side) (amount : ℚ) : ℚ :=
  match side with
  | .buy => amount
  | .sell => -amount

/-- The calls of the `ExchangeClient` protocol, as a remote exchange sees them. -/
inductive ClientCall (N : Type := ℚ) where
  | placeIocOrder (exchange symbol : String) (side : Side) (amount price : N)
  | placeLimitOrder (exchange symbol : String) (side : Side) (amount price : N)
  | placeMarketOrder (exchange symbol : String) (side : Side) (amount : N)
  | bestBid (exchange symbol : String)
  deriving DecidableEq

@[reducible] def ClientCall.Reply {N : Type} : ClientCall N → Type
  | .placeIocOrder .. => LegResult N
  | .placeLimitOrder .. => LegResult N
  | .placeMarketOrder .. => LegResult N
  | .bestBid .. => N

/-- The three markets of a triangle, in the order of its legs. -/
inductive TriangleMarket where
  | bridgeQuote
  | targetBridge
  | targetQuote
  deriving DecidableEq, Repr

/-- One cycle quote -> bridge -> target -> quote on `exchange`. -/
structure TriangleConfig where
  exchange : String
  quote : String
  bridge : String
  target : String
  deriving DecidableEq

namespace TriangleConfig

def symbolBridgeQuote (t : TriangleConfig) : String := t.bridge ++ "/" ++ t.quote
def symbolTargetBridge (t : TriangleConfig) : String := t.target ++ "/" ++ t.bridge
def symbolTargetQuote (t : TriangleConfig) : String := t.target ++ "/" ++ t.quote

def symbolOf (t : TriangleConfig) : TriangleMarket → String
  | .bridgeQuote => t.symbolBridgeQuote
  | .targetBridge => t.symbolTargetBridge
  | .targetQuote => t.symbolTargetQuote

def label (t : TriangleConfig) : String :=
  t.quote ++ "->" ++ t.bridge ++ "->" ++ t.target ++ "->" ++ t.quote

end TriangleConfig
end BimodalArbitrage.Execution
