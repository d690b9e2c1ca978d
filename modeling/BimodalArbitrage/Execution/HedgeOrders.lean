import BimodalArbitrage.Coop.History
import BimodalArbitrage.Execution.HedgeRuns

/-!
# What a hedge conserves

Every order of a hedge is for what is left of the amount by subtracting the fills so far,
and its result is what adding up the fills gives. Where neither is rounded, the fills are
never more than the amount, and all of it once the market order fills in full.
-/

namespace BimodalArbitrage.Execution
open Coop Rounding
variable {S Ev N : Type}

def ClientCall.requested : ClientCall N → Option N
  | .placeIocOrder _ _ _ amount _ => some amount
  | .placeLimitOrder _ _ _ amount _ => some amount
  | .placeMarketOrder _ _ _ amount => some amount
  | .bestBid _ _ => none

def ClientCall.isLimit : ClientCall N → Bool
  | .placeLimitOrder .. => true
  | _ => false

def ClientCall.isMarket : ClientCall N → Bool
  | .placeMarketOrder .. => true
  | _ => false

/-- What an order filled; a call that raised filled nothing. -/
def ClientCall.fill : (c : ClientCall N) → Except PyError c.Reply → List N
  | .placeIocOrder .., .ok r => [r.filledAmount]
  | .placeLimitOrder .., .ok r => [r.filledAmount]
  | .placeMarketOrder .., .ok r => [r.filledAmount]
  | _, _ => []

/-- The fills of the orders that are `p`, in the order they came. -/
def fillsOf (p : ClientCall N → Bool) : List (Seen Ev N) → List N
  | [] => []
  | .reply c r :: t => if p c then c.fill r ++ fillsOf p t else fillsOf p t
  | .event _ :: t => fillsOf p t
  | .turn :: t => fillsOf p t

def fills (t : List (Seen Ev N)) : List N := fillsOf (fun _ => true) t

def limitFills (t : List (Seen Ev N)) : List N := fillsOf ClientCall.isLimit t

/-- The orders of a trace, in the order they were placed. -/
def placed : List (Seen Ev N) → List (ClientCall N)
  | [] => []
  | .reply c _ :: t => if c.requested.isSome then c :: placed t else placed t
  | .event _ :: t => placed t
  | .turn :: t => placed t

/-- No call but a market order has raised. -/
def LimitsReturn (t : List (Seen Ev N)) : Prop :=
  ∀ c e, .reply c (.error e) ∈ t → c.isMarket = true

section
variable [PyFloat N]

/-- What the fills leave of `amount`, each of them subtracted as it came. -/
def openAfter (amount : N) (xs : List N) : N := xs.foldl (· - ·) amount

/-- Every order is for exactly what the fills before it leave open of `amount`. -/
def AsksForOpen (amount : N) (before : List (Seen Ev N)) (o : Seen Ev N) : Prop :=
  ∀ c r q, o = .reply c r → c.requested = some q → q = openAfter amount (fills before)

/-- An order is placed while something is open. -/
def WhileOpen (amount : N) (before : List (Seen Ev N)) (o : Seen Ev N) : Prop :=
  ∀ c r, o = .reply c r → c.requested.isSome → ¬openAfter amount (fills before) ≤ 0

def exactSum (xs : List N) : ℚ := (xs.map PyFloat.value).sum

/-- At no point is what is open or what is filled rounded. -/
def Unrounded (amount : N) (xs : List N) : Prop :=
  ∀ before, before <+: xs →
    Exactly (openAfter amount before) (PyFloat.value amount - exactSum before) ∧
      Exactly (PyFloat.sum before) (exactSum before)

structure Conserves (exchange symbol : String) (side : Side) (maxRepegs : ℕ) (amount : N)
    (highVolatility : Bool) (result : Except PyError N) (t : List (Seen Ev N)) : Prop where
  requests : Throughout (AsksForOpen amount) t
  returned : ∀ filled, result = .ok filled → filled = PyFloat.sum (fills t)
  orders : ∃ limits markets, placed t = limits ++ markets ∧
    (∀ c ∈ limits, c.isLimit = true) ∧ limits.length ≤ maxRepegs ∧
    (∀ c ∈ markets, c.isMarket = true) ∧ markets.length ≤ 1
  /-- No order follows another one when nothing is open, and a loop that starts with
  nothing open places none. -/
  stops : Throughout (fun before o => placed before = [] ∧ highVolatility = true ∨
    WhileOpen amount before o) t
  fallback : highVolatility = false → LimitsReturn t →
    ((∃ c ∈ placed t, c.isMarket = true) ↔ 0 < openAfter amount (limitFills t))
  bounded : Unrounded amount (fills t) →
    ∀ before, before <+: fills t → exactSum before ≤ PyFloat.value amount
  full : ∀ q r, .reply (.placeMarketOrder exchange symbol side q) (.ok r) ∈ t →
    r.filledAmount = q → Unrounded amount (fills t) → result = .ok amount

end

section
variable {exchange symbol : String} {side : Side} {t u : List (Seen Ev N)}

@[simp] theorem fillsOf_nil (p : ClientCall N → Bool) :
    fillsOf p ([] : List (Seen Ev N)) = [] := rfl

@[simp] theorem fillsOf_append (p : ClientCall N → Bool) (t u : List (Seen Ev N)) :
    fillsOf p (t ++ u) = fillsOf p t ++ fillsOf p u := by
  induction t with
  | nil => rfl
  | cons o t ih =>
    cases o with
    | event e => exact ih
    | turn => exact ih
    | reply c r =>
      simp only [List.cons_append, fillsOf, ih]
      split
      · exact (List.append_assoc ..).symm
      · rfl

@[simp] theorem fills_nil : fills ([] : List (Seen Ev N)) = [] := rfl

@[simp] theorem fills_append (t u : List (Seen Ev N)) : fills (t ++ u) = fills t ++ fills u :=
  fillsOf_append ..

@[simp] theorem fills_reply (c : ClientCall N) (r : Except PyError c.Reply)
    (t : List (Seen Ev N)) : fills (.reply c r :: t) = c.fill r ++ fills t := rfl

@[simp] theorem fill_bid (exchange symbol : String)
    (r : Except PyError (ClientCall.bestBid exchange symbol : ClientCall N).Reply) :
    (ClientCall.bestBid exchange symbol).fill r = [] := by
  cases r <;> rfl

@[simp] theorem fill_raised (c : ClientCall N) (e : PyError) : c.fill (.error e) = [] := by
  cases c <;> rfl

@[simp] theorem placed_nil : placed ([] : List (Seen Ev N)) = [] := rfl

@[simp] theorem placed_append (t u : List (Seen Ev N)) :
    placed (t ++ u) = placed t ++ placed u := by
  induction t with
  | nil => rfl
  | cons o t ih =>
    cases o with
    | event e => exact ih
    | turn => exact ih
    | reply c r =>
      simp only [List.cons_append, placed, ih]
      split <;> rfl

theorem mem_placed {c : ClientCall N} {a : Except PyError c.Reply} (horder : c.requested.isSome)
    (hmem : .reply c a ∈ t) : c ∈ placed t := by
  induction t with
  | nil => cases hmem
  | cons o t ih =>
    rcases List.mem_cons.mp hmem with rfl | hmem
    · simp [placed, horder]
    · have htail := ih hmem
      cases o with
      | event e => exact htail
      | turn => exact htail
      | reply c' a' =>
        rw [placed]
        split
        · exact List.mem_cons_of_mem _ htail
        · exact htail

theorem isMarket_of_isLimit {c : ClientCall N} (h : c.isLimit = true) : c.isMarket = false := by
  cases c <;> first | rfl | cases h

end

/-! ### The loop -/

section
variable [PyFloat N] {exchange symbol : String} {side : Side} {n : ℕ} {remaining filledTotal : N}
  {r : Except PyError (N × N)} {t u : List (Seen Ev N)}

theorem openAfter_append (amount : N) (xs ys : List N) :
    openAfter amount (xs ++ ys) = openAfter (openAfter amount xs) ys := List.foldl_append

theorem asksForOpen_reply (amount : N) (c : ClientCall N) (r : Except PyError c.Reply) :
    (fun before : List (Seen Ev N) => AsksForOpen amount (.reply c r :: before)) =
      AsksForOpen (openAfter amount (c.fill r)) := by
  funext before o
  simp only [AsksForOpen, fills_reply, openAfter_append]

theorem whileOpen_reply (amount : N) (c : ClientCall N) (r : Except PyError c.Reply) :
    (fun before : List (Seen Ev N) => WhileOpen amount (.reply c r :: before)) =
      WhileOpen (openAfter amount (c.fill r)) := by
  funext before o
  simp only [WhileOpen, fills_reply, openAfter_append]

theorem asksForOpen_order {c : ClientCall N} {amount : N} (hc : c.requested = some amount)
    (r : Except PyError c.Reply) : AsksForOpen amount ([] : List (Seen Ev N)) (.reply c r) := by
  intro c' r' q heq hq
  cases heq
  rw [hc, Option.some.injEq] at hq
  exact hq.symm

theorem asksForOpen_bid (amount : N) (exchange symbol : String)
    (r : Except PyError ((ClientCall.bestBid exchange symbol : ClientCall N).Reply)) :
    AsksForOpen amount ([] : List (Seen Ev N)) (.reply (.bestBid exchange symbol) r) := by
  intro c' r' q heq hq
  cases heq
  cases hq

theorem whileOpen_of_open {amount : N} (hopen : ¬amount ≤ 0) (o : Seen Ev N) :
    WhileOpen amount [] o := fun _ _ _ _ => hopen

theorem Rounds.requests (h : Rounds exchange symbol side n remaining filledTotal r t) :
    Throughout (AsksForOpen remaining) t := by
  induction h with
  | spent => exact throughout_nil
  | closed hclosed => exact throughout_nil
  | noBid hopen => exact (throughout_cons _).mpr ⟨asksForOpen_bid _ _ _ _, throughout_nil⟩
  | noOrder hopen =>
    refine (throughout_cons _).mpr ⟨asksForOpen_bid _ _ _ _, ?_⟩
    rw [asksForOpen_reply, fill_bid]
    exact (throughout_cons _).mpr ⟨asksForOpen_order rfl _, throughout_nil⟩
  | round hopen hfill hrest ih =>
    refine (throughout_cons _).mpr ⟨asksForOpen_bid _ _ _ _, ?_⟩
    rw [asksForOpen_reply, fill_bid]
    refine (throughout_cons _).mpr ⟨asksForOpen_order rfl _, ?_⟩
    rw [asksForOpen_reply]
    exact ih

theorem Rounds.whileOpen (h : Rounds exchange symbol side n remaining filledTotal r t) :
    Throughout (WhileOpen remaining) t := by
  induction h with
  | spent => exact throughout_nil
  | closed hclosed => exact throughout_nil
  | noBid hopen => exact (throughout_cons _).mpr ⟨whileOpen_of_open hopen _, throughout_nil⟩
  | noOrder hopen =>
    refine (throughout_cons _).mpr ⟨whileOpen_of_open hopen _, ?_⟩
    rw [whileOpen_reply, fill_bid]
    exact (throughout_cons _).mpr ⟨whileOpen_of_open hopen _, throughout_nil⟩
  | round hopen hfill hrest ih =>
    refine (throughout_cons _).mpr ⟨whileOpen_of_open hopen _, ?_⟩
    rw [whileOpen_reply, fill_bid]
    refine (throughout_cons _).mpr ⟨whileOpen_of_open hopen _, ?_⟩
    rw [whileOpen_reply]
    exact ih

/-- The two accumulators of the loop are folds over its fills. -/
theorem Rounds.ends (h : Rounds exchange symbol side n remaining filledTotal r t) :
    Ends r (fun p => p = (openAfter remaining (fills t), (fills t).foldl (· + ·) filledTotal))
      (fun _ => ¬LimitsReturn t) := by
  induction h with
  | spent => exact rfl
  | closed hclosed => exact rfl
  | @noBid n remaining filledTotal e hopen =>
    intro hreturn
    have hmarket := hreturn (.bestBid exchange symbol) e (by simp)
    cases hmarket
  | @noOrder n remaining filledTotal pegPrice e hopen =>
    intro hreturn
    have hmarket := hreturn (.placeLimitOrder exchange symbol side remaining pegPrice) e (by simp)
    cases hmarket
  | @round n remaining filledTotal pegPrice result r t hopen hfill hrest ih =>
    cases r with
    | error e =>
      intro hreturn
      refine ih fun c e' hmem => hreturn c e' ?_
      exact List.mem_cons_of_mem _ (List.mem_cons_of_mem _ hmem)
    | ok p => exact ih

theorem Rounds.placed_limits (h : Rounds exchange symbol side n remaining filledTotal r t) :
    (∀ c ∈ placed t, c.isLimit = true) ∧ (placed t).length ≤ n := by
  induction h with
  | spent => simp
  | closed hclosed => simp
  | noBid hopen => simp [placed, ClientCall.requested]
  | noOrder hopen => simp [placed, ClientCall.requested, ClientCall.isLimit]
  | round hopen hfill hrest ih =>
    simp only [placed, ClientCall.requested, Option.isSome_none, Option.isSome_some, if_true,
      Bool.false_eq_true, if_false, List.forall_mem_cons, List.length_cons]
    exact ⟨⟨rfl, ih.1⟩, Nat.succ_le_succ ih.2⟩

theorem Rounds.limitFills_eq (h : Rounds exchange symbol side n remaining filledTotal r t) :
    limitFills t = fills t := by
  induction h with
  | spent => rfl
  | closed hclosed => rfl
  | noBid hopen => rfl
  | noOrder hopen => rfl
  | round hopen hfill hrest ih => exact congrArg (List.cons _) ih

theorem Rounds.no_market (h : Rounds exchange symbol side n remaining filledTotal r t) :
    ¬∃ c ∈ placed t, c.isMarket = true := by
  rintro ⟨c, hc, hmarket⟩
  rw [isMarket_of_isLimit (h.placed_limits.1 c hc)] at hmarket
  cases hmarket

theorem Rounds.no_market_reply (h : Rounds exchange symbol side n remaining filledTotal r t)
    {q : N} {a : LegResult N} :
    .reply (.placeMarketOrder exchange symbol side q) (.ok a) ∉ t :=
  fun hmem => h.no_market ⟨_, mem_placed rfl hmem, rfl⟩

theorem Liquidated.trace {result : Except PyError N}
    (h : Liquidated exchange symbol side remaining filledTotal result t) :
    ∃ a : Except PyError (LegResult N),
      t = [.reply (.placeMarketOrder exchange symbol side remaining) a] ∧
      result = a.map (fun r => filledTotal + r.filledAmount) ∧
      ∀ r, a = .ok r → Within remaining r := by
  cases h with
  | raised => exact ⟨.error _, rfl, rfl, fun _ h => nomatch h⟩
  | answered hfill => exact ⟨.ok _, rfl, rfl, fun _ h => Except.ok.inj h ▸ hfill⟩

theorem exactSum_cons (x : N) (xs : List N) :
    exactSum (x :: xs) = PyFloat.value x + exactSum xs := List.sum_cons

theorem exactSum_append (xs ys : List N) : exactSum (xs ++ ys) = exactSum xs + exactSum ys := by
  rw [exactSum, List.map_append, List.sum_append, exactSum, exactSum]

theorem Rounds.netBase_eq (h : Rounds exchange symbol side n remaining filledTotal r t) :
    netBase t = side.signed (exactSum (fills t)) := by
  induction h with
  | spent => simp [netBase, exactSum]
  | closed hclosed => simp [netBase, exactSum]
  | noBid hopen => simp [netBase, exactSum, ClientCall.moved]
  | noOrder hopen => simp [netBase, exactSum, ClientCall.moved, ClientCall.fill]
  | @round n remaining filledTotal pegPrice result r t hopen hfill hrest ih =>
    have hfills : fills (.reply (.bestBid exchange symbol) (.ok pegPrice) ::
        .reply (.placeLimitOrder exchange symbol side remaining pegPrice) (.ok result) :: t) =
          result.filledAmount :: fills t := rfl
    rw [hfills, exactSum_cons, signed_add, ← ih]
    exact zero_add _

theorem Liquidated.netBase_eq {result : Except PyError N}
    (h : Liquidated exchange symbol side remaining filledTotal result t) :
    netBase t = side.signed (exactSum (fills t)) := by
  cases h with
  | raised => simp [netBase, exactSum, ClientCall.moved, ClientCall.fill]
  | answered hfill => simp [netBase, exactSum, ClientCall.moved, ClientCall.fill]

/-- The orders of a hedge move what they filled, all to one side. -/
theorem HedgeRun.netBase_eq {maxRepegs : ℕ} {amount : N} {highVolatility : Bool}
    {result : Except PyError N}
    (h : HedgeRun exchange symbol side maxRepegs amount highVolatility result t) :
    netBase t = side.signed (exactSum (fills t)) := by
  cases h with
  | liquidated hmarket => exact hmarket.netBase_eq
  | raised hrounds => exact hrounds.netBase_eq
  | closed hrounds hclosed => exact hrounds.netBase_eq
  | fallback hrounds hopen hmarket =>
    rw [netBase, tally_append, ← netBase, ← netBase, hrounds.netBase_eq, hmarket.netBase_eq,
      fills_append, exactSum_append, signed_add]

/-- A hedge returns the fills of its orders, added up as they came. -/
theorem HedgeRun.returned {maxRepegs : ℕ} {amount filled : N} {highVolatility : Bool}
    (h : HedgeRun exchange symbol side maxRepegs amount highVolatility (.ok filled) t) :
    filled = PyFloat.sum (fills t) := by
  cases h with
  | liquidated hmarket =>
    cases hmarket
    exact (PyFloat.zero_add _).trans (PyFloat.sum_singleton _).symm
  | closed hrounds hclosed =>
    rw [PyFloat.sum_eq_foldl]
    exact congrArg Prod.snd hrounds.ends
  | @fallback remaining filledTotal _ t u hrounds hopen hmarket =>
    have hfilled : filledTotal = PyFloat.sum (fills t) :=
      (congrArg Prod.snd hrounds.ends).trans (PyFloat.sum_eq_foldl _).symm
    cases hmarket
    rw [fills_append, hfilled]
    exact (PyFloat.sum_snoc _ _).symm

end

/-! ### The whole hedge -/

/-- Every fill is of what was open just before it. -/
def WithinOpen (amount : Binary64) (xs : List Binary64) : Prop :=
  ∀ before x, before ++ [x] <+: xs → (openAfter amount before).IsFinite →
    0 ≤ x ∧ x ≤ openAfter amount before

section
variable {exchange symbol : String} {side : Side} {n maxRepegs : ℕ}
  {amount remaining filledTotal : Binary64} {highVolatility : Bool}
  {result : Except PyError Binary64} {t u : List (Seen Ev Binary64)} {xs : List Binary64}

theorem withinOpen_nil : WithinOpen amount [] := fun _ _ hbegins =>
  absurd (List.prefix_nil.mp hbegins) (List.concat_ne_nil _ _)

theorem withinOpen_cons {x : Binary64} (hx : amount.IsFinite → 0 ≤ x ∧ x ≤ amount)
    (h : WithinOpen (amount - x) xs) : WithinOpen amount (x :: xs) := by
  intro before y hbegins hfinite
  cases before with
  | nil =>
    obtain ⟨rfl, -⟩ := List.cons_prefix_cons.mp hbegins
    exact hx hfinite
  | cons x' before =>
    obtain ⟨rfl, hrest⟩ := List.cons_prefix_cons.mp hbegins
    exact h before y hrest hfinite

theorem withinOpen_snoc (h : WithinOpen amount xs) {x : Binary64}
    (hx : (openAfter amount xs).IsFinite → 0 ≤ x ∧ x ≤ openAfter amount xs) :
    WithinOpen amount (xs ++ [x]) := by
  intro before y hbegins hfinite
  rcases List.prefix_concat_iff.mp hbegins with heq | hbegins
  · obtain ⟨rfl, rfl⟩ := List.append_inj' heq rfl |>.imp_right List.singleton_inj.mp
    exact hx hfinite
  · exact h before y hbegins hfinite

theorem nonneg_of_open (hopen : ¬amount ≤ 0) (hfinite : amount.IsFinite) : 0 ≤ amount :=
  Floating.le_of_not_le hfinite.ne_nan (Floating.ofRat_ne_nan 0) hopen

theorem Rounds.within {r : Except PyError (Binary64 × Binary64)}
    (h : Rounds exchange symbol side n remaining filledTotal r t) :
    WithinOpen remaining (fills t) := by
  induction h with
  | spent => exact withinOpen_nil
  | closed hclosed => exact withinOpen_nil
  | noBid hopen => exact withinOpen_nil
  | noOrder hopen => exact withinOpen_nil
  | round hopen hfill hrest ih =>
    exact withinOpen_cons (fun hfinite => hfill (nonneg_of_open hopen hfinite)) ih

/-! ### Where nothing is rounded -/

theorem exactSum_snoc (xs : List Binary64) (x : Binary64) :
    exactSum (xs ++ [x]) = exactSum xs + x.value :=
  (exactSum_append xs [x]).trans (congrArg _ (add_zero _))

theorem Unrounded.amount_finite (h : Unrounded amount xs) : amount.IsFinite :=
  of_decide_eq_true (h [] List.nil_prefix).1.1

theorem Unrounded.open_finite (h : Unrounded amount xs) {before : List Binary64}
    (hbegins : before <+: xs) : (openAfter amount before).IsFinite :=
  of_decide_eq_true (h before hbegins).1.1

theorem WithinOpen.bounded (h : WithinOpen amount xs) (ha : 0 ≤ amount)
    (hunrounded : Unrounded amount xs) {before : List Binary64} (hbegins : before <+: xs) :
    exactSum before ≤ amount.value := by
  rcases before.eq_nil_or_concat with rfl | ⟨before, x, rfl⟩
  · have hzero : (0 : Binary64).IsFinite ∧ (0 : Binary64).value = 0 := by decide +kernel
    show 0 ≤ amount.value
    rw [← hzero.2]
    exact (Floating.value_le_value hzero.1 hunrounded.amount_finite).mpr ha
  · rw [List.concat_eq_append] at hbegins ⊢
    have hbefore : before <+: xs := (List.prefix_append before [x]).trans hbegins
    have hfinite := hunrounded.open_finite hbefore
    obtain ⟨hpos, hle⟩ := h before x hbegins hfinite
    have hvalue := (Floating.value_le_value (hfinite.of_le hpos hle) hfinite).mpr hle
    have hopen : (openAfter amount before).value = amount.value - exactSum before :=
      (hunrounded before hbefore).1.2
    rw [exactSum_snoc]
    linarith

/-- The last fill is all that was open. -/
theorem Unrounded.full (h : Unrounded amount (xs ++ [openAfter amount xs])) :
    PyFloat.sum (xs ++ [openAfter amount xs]) = amount := by
  obtain ⟨hfinite, hsum⟩ := (h _ List.prefix_rfl).2
  have hopen : (openAfter amount xs).value = amount.value - exactSum xs :=
    (h xs (List.prefix_append ..)).1.2
  refine (Floating.value_inj (of_decide_eq_true hfinite) h.amount_finite).mp (hsum.trans ?_)
  rw [exactSum_snoc, hopen]
  ring

theorem Rounds.conserves (h : Rounds exchange symbol side maxRepegs amount 0 r t)
    (ha : 0 ≤ amount) (hreturned : ∀ filled, result = .ok filled → filled = PyFloat.sum (fills t))
    (hopen : LimitsReturn t → ¬0 < openAfter amount (limitFills t)) :
    Conserves exchange symbol side maxRepegs amount false result t where
  requests := h.requests
  returned := hreturned
  orders := ⟨placed t, [], (List.append_nil _).symm, h.placed_limits.1, h.placed_limits.2,
    by simp, by simp⟩
  stops := throughout_mono h.whileOpen fun _ _ hopen => .inr hopen
  fallback _ hreturn := iff_of_false h.no_market (hopen hreturn)
  bounded hunrounded _ hbegins := h.within.bounded ha hunrounded hbegins
  full _ _ hmem _ _ := absurd hmem h.no_market_reply

theorem limitFills_market (t : List (Seen Ev Binary64)) (quantity : Binary64)
    (a : Except PyError (LegResult Binary64)) :
    limitFills (t ++ [.reply (.placeMarketOrder exchange symbol side quantity) a]) =
      limitFills t := by
  rw [limitFills, fillsOf_append, ← limitFills]
  exact List.append_nil _

theorem fills_market_full (t : List (Seen Ev Binary64)) {quantity : Binary64}
    {r : LegResult Binary64} (hfull : r.filledAmount = quantity) :
    fills (t ++ [.reply (.placeMarketOrder exchange symbol side quantity) (.ok r)]) =
      fills t ++ [quantity] := by
  rw [fills_append, ← hfull]
  rfl

theorem Rounds.conserves_market
    (h : Rounds exchange symbol side n amount 0 (.ok (remaining, filledTotal)) t)
    (hn : n ≤ maxRepegs) (ha : 0 ≤ amount)
    (hmarket : Liquidated exchange symbol side remaining filledTotal result u)
    (hreturned : ∀ filled, result = .ok filled → filled = PyFloat.sum (fills (t ++ u)))
    (hfirst : (placed t = [] ∧ highVolatility = true ∧ 0 ≤ remaining) ∨ 0 < remaining) :
    Conserves exchange symbol side maxRepegs amount highVolatility result (t ++ u) := by
  obtain ⟨rfl, rfl⟩ := Prod.mk.inj h.ends
  obtain ⟨a, rfl, rfl, hle⟩ := hmarket.trace
  have hnonneg : 0 ≤ openAfter amount (fills t) :=
    hfirst.elim (fun h => h.2.2) Floating.le_of_lt
  have hopen : (highVolatility = true ∧ placed t = []) ∨ ¬openAfter amount (fills t) ≤ 0 :=
    hfirst.imp (fun h => ⟨h.2.1, h.1⟩) Floating.not_le_of_lt
  have hwithin : WithinOpen amount (fills (t ++
      [.reply (.placeMarketOrder exchange symbol side (openAfter amount (fills t))) a])) := by
    rw [fills_append, fills_reply, fills_nil, List.append_nil]
    cases a with
    | error e => exact (List.append_nil (fills t)).symm ▸ h.within
    | ok r => exact withinOpen_snoc h.within fun _ => hle r rfl hnonneg
  constructor
  case requests =>
    refine (throughout_snoc _).mpr ⟨h.requests, ?_⟩
    intro c r q heq hq
    cases heq
    exact (Option.some.inj hq).symm
  case returned => exact hreturned
  case orders =>
    refine ⟨placed t, _, placed_append .., h.placed_limits.1, h.placed_limits.2.trans hn, ?_, ?_⟩
    · simp [placed, ClientCall.requested, ClientCall.isMarket]
    · simp [placed, ClientCall.requested]
  case stops =>
    refine (throughout_snoc _).mpr ⟨throughout_mono h.whileOpen fun _ _ hopen => .inr hopen, ?_⟩
    exact hopen.imp And.symm fun hopen c r _ _ => hopen
  case fallback =>
    intro hlow _
    have hpos : 0 < openAfter amount (fills t) :=
      hfirst.resolve_left fun hhigh => absurd hhigh.2.1 (hlow ▸ Bool.false_ne_true)
    rw [limitFills_market, h.limitFills_eq]
    refine iff_of_true ⟨.placeMarketOrder exchange symbol side (openAfter amount (fills t)),
      ?_, rfl⟩ hpos
    exact mem_placed rfl (List.mem_append_right _ (List.mem_singleton_self _))
  case bounded => exact fun hunrounded _ hbegins => hwithin.bounded ha hunrounded hbegins
  case full =>
    intro q r hmem hfull hunrounded
    rcases List.mem_append.mp hmem with hmem | hmem
    · exact absurd hmem h.no_market_reply
    · cases List.mem_singleton.mp hmem
      rw [fills_market_full t hfull] at hreturned hunrounded
      exact congrArg Except.ok ((hreturned _ rfl).trans hunrounded.full)

theorem HedgeRun.conserves
    (h : HedgeRun exchange symbol side maxRepegs amount highVolatility result t) (ha : 0 ≤ amount) :
    Conserves exchange symbol side maxRepegs amount highVolatility result t := by
  have hreturned : ∀ filled, result = .ok filled → filled = PyFloat.sum (fills t) :=
    fun filled hfilled => (hfilled ▸ h).returned
  cases h with
  | liquidated hmarket =>
    have hrounds : Rounds exchange symbol side 0 amount 0 (.ok (amount, 0))
        ([] : List (Seen Ev Binary64)) := .spent
    exact hrounds.conserves_market (Nat.zero_le _) ha hmarket hreturned (.inl ⟨rfl, rfl, ha⟩)
  | raised hrounds =>
    exact hrounds.conserves ha hreturned fun hreturn => absurd hreturn hrounds.ends
  | closed hrounds hclosed =>
    obtain ⟨rfl, rfl⟩ := Prod.mk.inj hrounds.ends
    refine hrounds.conserves ha hreturned fun _ => ?_
    rwa [hrounds.limitFills_eq]
  | fallback hrounds hopen hmarket =>
    exact hrounds.conserves_market le_rfl ha hmarket hreturned (.inr hopen)

/-- A hedge asks for no more than it computes to be open, whatever the client fills, and
returns what it adds up; where nothing is rounded it misses nothing of what the market order
fills. -/
theorem autoHedge_conserves (client : Client S Ev Binary64) (hc : FillsWithin client)
    (maxRepegs : ℕ) (exchange symbol : String) (side : Side) (amount : Binary64)
    (ha : 0 ≤ amount) (highVolatility : Bool) :
    Coro.Shows client
      ((mitigator S Ev maxRepegs Binary64).autoHedge exchange symbol side amount highVolatility)
      (Conserves exchange symbol side maxRepegs amount highVolatility) :=
  Coro.shows_mono (autoHedge_run hc maxRepegs exchange symbol side amount highVolatility)
    fun _ _ hrun => hrun.conserves ha

end

/-- Limit orders fill a fifth and no more, so that something is left to the market. -/
def fifth : Client Unit Unit Binary64 where
  answer _ c := match c with
    | .placeIocOrder _ _ _ amount _ => .ok (filled amount)
    | .placeLimitOrder _ _ _ amount price => .ok ⟨true, min amount 0.2, price, none⟩
    | .placeMarketOrder _ _ _ amount => .ok (filled amount)
    | .bestBid _ _ => .ok 99
  drift _ s := s

theorem fifth_fills : FillsWithin fifth := by
  intro h c
  cases c with
  | placeIocOrder exchange symbol side amount price =>
    exact fun ha => ⟨ha, Floating.le_refl (Floating.ne_nan_of_le ha).2⟩
  | placeLimitOrder exchange symbol side amount price =>
    exact fun ha => ⟨Floating.le_min ha (by decide +kernel),
      Floating.min_le_left (Floating.ne_nan_of_le ha).2⟩
  | placeMarketOrder exchange symbol side amount =>
    exact fun ha => ⟨ha, Floating.le_refl (Floating.ne_nan_of_le ha).2⟩
  | bestBid exchange symbol => trivial

theorem autoHedge_conserves_fifth :
    ∃ t : List (Seen Unit Binary64), Conserves "A" "BTC/USDT" .sell 1 0.5 false (.ok 0.5) t ∧
      fills t = [0.2, 0.3] := by
  obtain ⟨t, htrace, hconserves⟩ := autoHedge_conserves fifth fifth_fills 1 "A" "BTC/USDT" .sell
    0.5 (by decide +kernel) false () []
  rw [List.nil_append] at htrace
  refine ⟨t, ?_, ?_⟩
  · have hresult : (((mitigator Unit Unit 1 Binary64).autoHedge "A" "BTC/USDT" .sell 0.5
        false).play fifth () []).result = .ok 0.5 := by decide +kernel
    rwa [hresult] at hconserves
  · rw [← htrace]
    decide +kernel

/-- Of 0.9 a limit order fills 0.2 and the market order all that is left, and less than 0.9
is returned. -/
theorem autoHedge_conserves_rounded :
    FillsWithin fifth ∧
      let out := ((mitigator Unit Unit 1 Binary64).autoHedge "A" "BTC/USDT" .sell 0.9 false).play
        fifth () []
      placed out.trace = [.placeLimitOrder "A" "BTC/USDT" .sell 0.9 99,
          .placeMarketOrder "A" "BTC/USDT" .sell 0.7] ∧
        fills out.trace = [0.2, 0.7] ∧
        out.result = .ok 0.8999999999999999 ∧ out.result ≠ .ok 0.9 :=
  ⟨fifth_fills, by decide +kernel⟩

end BimodalArbitrage.Execution
