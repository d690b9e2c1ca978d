import BimodalArbitrage.Coop.Loop
import BimodalArbitrage.Coop.Rely
import BimodalArbitrage.Execution.BrokenLeg
import Mathlib.Tactic.Linarith

/-!
# What the orders of a client leave open

A mitigator is run against a client that chooses every reply. The ledger of such
a run is read off the observed replies: what the orders moved of the base asset,
and what has been submitted to close a leg.
-/

namespace BimodalArbitrage.Execution
open Coop
variable {S Ev N : Type}

abbrev Seen (Ev : Type) (N : Type := ℚ) := Obs Ev (ClientCall N) ClientCall.Reply PyError

abbrev Client (S Ev : Type) (N : Type := ℚ) := Env S Ev (ClientCall N) ClientCall.Reply PyError

/-- What holds of the answer to every order; a call that raises answers none. -/
def ClientCall.OnFill (P : N → LegResult N → Prop) :
    (c : ClientCall N) → Except PyError c.Reply → Prop
  | .placeIocOrder _ _ _ amount _, .ok r => P amount r
  | .placeLimitOrder _ _ _ amount _, .ok r => P amount r
  | .placeMarketOrder _ _ _ amount, .ok r => P amount r
  | _, _ => True

section
variable {client : Client S Ev N} {P : N → LegResult N → Prop} {h : List (Seen Ev N)}
  {exchange symbol : String} {side : Side} {amount price : N} {r : LegResult N}

theorem onFill_ioc (hP : ∀ h (c : ClientCall N), c.OnFill P (client.answer h c))
    (hr : client.answer h (.placeIocOrder exchange symbol side amount price) = .ok r) :
    P amount r := by
  have hfill := hP h (.placeIocOrder exchange symbol side amount price)
  rw [hr] at hfill
  exact hfill

theorem onFill_market (hP : ∀ h (c : ClientCall N), c.OnFill P (client.answer h c))
    (hr : client.answer h (.placeMarketOrder exchange symbol side amount) = .ok r) :
    P amount r := by
  have hfill := hP h (.placeMarketOrder exchange symbol side amount)
  rw [hr] at hfill
  exact hfill

end

def tally (f : (c : ClientCall N) → Except PyError c.Reply → ℚ) : List (Seen Ev N) → ℚ
  | [] => 0
  | .reply c r :: t => f c r + tally f t
  | .event _ :: t => tally f t
  | .turn :: t => tally f t

section
variable (f : (c : ClientCall N) → Except PyError c.Reply → ℚ)

@[simp] theorem tally_nil : tally f ([] : List (Seen Ev N)) = 0 := rfl

@[simp] theorem tally_reply (c : ClientCall N) (r : Except PyError c.Reply)
    (t : List (Seen Ev N)) :
    tally f (.reply c r :: t) = f c r + tally f t := rfl

@[simp] theorem tally_turn (t : List (Seen Ev N)) : tally f (.turn :: t) = tally f t := rfl

@[simp] theorem tally_append (t u : List (Seen Ev N)) :
    tally f (t ++ u) = tally f t + tally f u := by
  induction t with
  | nil => exact (zero_add _).symm
  | cons o t ih =>
    cases o with
    | event e => exact ih
    | turn => exact ih
    | reply c r => simp only [List.cons_append, tally_reply, ih, add_assoc]

end

section
variable [PyFloat N]

def Within (amount : N) (r : LegResult N) : Prop :=
  0 ≤ amount → 0 ≤ r.filledAmount ∧ r.filledAmount ≤ amount

def FillsWithin (client : Client S Ev N) : Prop :=
  ∀ h (c : ClientCall N), c.OnFill Within (client.answer h c)

def RejectsEmpty (client : Client S Ev N) : Prop :=
  ∀ h (c : ClientCall N),
    c.OnFill (fun _ r => r.accepted = false → r.filledAmount = 0) (client.answer h c)

/-- What an order moves of the base asset, exactly. -/
def ClientCall.moved : (c : ClientCall N) → Except PyError c.Reply → ℚ
  | .placeIocOrder _ _ side _ _, .ok r => side.signed (PyFloat.value r.filledAmount)
  | .placeLimitOrder _ _ side _ _, .ok r => side.signed (PyFloat.value r.filledAmount)
  | .placeMarketOrder _ _ side _, .ok r => side.signed (PyFloat.value r.filledAmount)
  | _, _ => 0

/-- What an answered call has submitted to close `side` of a leg: the fill of a
limit order, which is cancelled for the rest, and the whole of a market order. -/
def ClientCall.closing (exchange symbol : String) (side : Side) :
    (c : ClientCall) → Except PyError c.Reply → ℚ
  | .placeLimitOrder ex sym sd _ _, .ok r =>
    if ex = exchange ∧ sym = symbol ∧ sd = side then r.filledAmount else 0
  | .placeMarketOrder ex sym sd amount, _ =>
    if ex = exchange ∧ sym = symbol ∧ sd = side then amount else 0
  | _, _ => 0

def netBase (t : List (Seen Ev N)) : ℚ := tally ClientCall.moved t

def closingOrders (exchange symbol : String) (side : Side) (t : List (Seen Ev)) : ℚ :=
  tally (ClientCall.closing exchange symbol side) t

end

@[simp] theorem signed_zero (side : Side) : side.signed 0 = 0 := by
  cases side
  · rfl
  · exact neg_zero

theorem signed_add (side : Side) (a b : ℚ) :
    side.signed (a + b) = side.signed a + side.signed b := by
  cases side
  · rfl
  · exact neg_add a b

theorem signed_inj (side : Side) {a b : ℚ} : side.signed a = side.signed b ↔ a = b := by
  cases side
  · exact Iff.rfl
  · exact neg_inj

/-! ### Clients that follow a script -/

section
variable [PyFloat N]

/-- A client whose legs answer as `ioc` says and whose best bids are `bid`; its
other orders fill in full. -/
def scripted (ioc : Side → N → Except PyError (LegResult N)) (bid : Except PyError N) :
    Client Unit Ev N where
  answer _ c := match c with
    | .placeIocOrder _ _ side amount _ => ioc side amount
    | .placeLimitOrder _ _ _ amount price => .ok ⟨true, amount, price, none⟩
    | .placeMarketOrder _ _ _ amount => .ok ⟨true, amount, 100, none⟩
    | .bestBid _ _ => bid
  drift _ s := s

def filled (amount : N) : LegResult N := ⟨true, amount, 100, none⟩

def rejected : LegResult N := ⟨false, 0, 0, some "rejected"⟩

end

section
variable [PyFloat N] {ioc : Side → N → Except PyError (LegResult N)} (bid : Except PyError N)

theorem scripted_fills (h : ∀ side amount r, ioc side amount = .ok r → Within amount r) :
    FillsWithin (scripted ioc bid : Client Unit Ev N) := by
  intro hist c
  cases c with
  | placeIocOrder exchange symbol side amount price =>
    cases hr : ioc side amount with
    | error e => simp [scripted, hr, ClientCall.OnFill]
    | ok r => simpa [scripted, hr, ClientCall.OnFill] using h side amount r hr
  | placeLimitOrder exchange symbol side amount price =>
    exact fun ha => ⟨ha, (PyFloat.le_self ha).2⟩
  | placeMarketOrder exchange symbol side amount => exact fun ha => ⟨ha, (PyFloat.le_self ha).2⟩
  | bestBid exchange symbol => trivial

theorem scripted_rejectsEmpty
    (h : ∀ side amount r, ioc side amount = .ok r → r.accepted = false → r.filledAmount = 0) :
    RejectsEmpty (scripted ioc bid : Client Unit Ev N) := by
  intro hist c
  cases c with
  | placeIocOrder exchange symbol side amount price =>
    cases hr : ioc side amount with
    | error e => simp [scripted, hr, ClientCall.OnFill]
    | ok r => simpa [scripted, hr, ClientCall.OnFill] using h side amount r hr
  | placeLimitOrder exchange symbol side amount price => exact fun ha => nomatch ha
  | placeMarketOrder exchange symbol side amount => exact fun ha => nomatch ha
  | bestBid exchange symbol => trivial

def buyAlone : Side → N → Except PyError (LegResult N)
  | .buy, amount => .ok (filled amount)
  | .sell, _ => .ok rejected

theorem buyAlone_within (side : Side) (amount : N) (r : LegResult N)
    (h : buyAlone side amount = .ok r) : Within amount r := by
  cases side <;> cases h
  · exact fun ha => ⟨ha, (PyFloat.le_self ha).2⟩
  · exact fun ha => ⟨(PyFloat.le_self ha).1, ha⟩

theorem buyAlone_rejects (side : Side) (amount : N) (r : LegResult N)
    (h : buyAlone side amount = .ok r) (hacc : r.accepted = false) : r.filledAmount = 0 := by
  cases side <;> cases h
  · cases hacc
  · rfl

end

end BimodalArbitrage.Execution
