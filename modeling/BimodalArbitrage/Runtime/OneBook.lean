import BimodalArbitrage.Marketdata.Provenance
import BimodalArbitrage.Runtime.LatestBook

/-!
# The book of a decision

The windows of a pair follow what its buy feed delivers, the price and the size follow
what the cache holds. In any run the two are one book exactly where an evaluation reads
the last book that the windows took, and no estimate has been made of it.
-/

namespace BimodalArbitrage.Runtime
open Coop Execution Marketdata Ml Api Coro

def Event.use (k : ℕ) : Event → Option BookUse
  | .book k' use => if k' = k then some use else none
  | _ => none

/-- What the monitor of a pair did with the books of its buy side. -/
def bookUses (k : ℕ) (log : Log) : List BookUse := log.filterMap fun e => e.event.use k

def KnownUse (before : List BookUse) (use : BookUse) : Prop :=
  ∀ buySnapshot temporal depth, use = .heuristicUpdate buySnapshot temporal depth →
    Known (provenance before) temporal depth

section
variable {k : ℕ} {log : Log} {i : TaskId} {s : AppState} {e : Event}

theorem bookUses_snoc (use : BookUse) :
    bookUses k (log ++ [⟨i, s, .book k use⟩]) = bookUses k log ++ [use] := by
  simp [bookUses, Event.use]

theorem bookUses_snoc_of_none (h : e.use k = none) :
    bookUses k (log ++ [⟨i, s, e⟩]) = bookUses k log := by
  simp [bookUses, h]

theorem Event.use_of_ne {k' : ℕ} (h : k' ≠ k) (use : BookUse) : (Event.book k' use).use k = none :=
  if_neg h

theorem Event.use_of_aside (h : e.usesBook = false) : e.use k = none := by
  cases e with
  | book => cases h
  | _ => rfl

end

/-! ### The invariant -/

def BooksInv (w : World TaskId AppState Event) : Prop :=
  ∀ k, RowsOf (provenance (bookUses k w.log)) (w.state.temporalWindow k)
    (w.state.depthBuilder k) ∧ Throughout KnownUse (bookUses k w.log)

/-- The windows of a pair and the use of its books stay as they are. -/
structure SameTicks (k : ℕ) (u w : World TaskId AppState Event) : Prop where
  uses : bookUses k w.log = bookUses k u.log
  window : w.state.temporalWindow k = u.state.temporalWindow k
  builder : w.state.depthBuilder k = u.state.depthBuilder k

theorem SameTicks.trans {k : ℕ} {u v w : World TaskId AppState Event} (h : SameTicks k u v)
    (h' : SameTicks k v w) : SameTicks k u w :=
  ⟨h'.uses.trans h.uses, h'.window.trans h.window, h'.builder.trans h.builder⟩

/-- Only its buy feed touches the books of a pair. -/
def booksContract : Contract TaskId AppState Event Input where
  inv := BooksInv
  rely i u w := ∀ k, i = .feed (.buy k) → SameTicks k u w
  guar i u w := ∀ k, i ≠ .feed (.buy k) → SameTicks k u w
  allows _ _ := True
  rely_refl _ _ _ _ := ⟨rfl, rfl, rfl⟩
  rely_trans _ _ _ _ huv hvw k hk := (huv k hk).trans (hvw k hk)
  guar_rely _ _ _ _ hij h k hk := h k (hk ▸ hij)

/-- What the feed of a pair knows of its own books. -/
def Knows (k : ℕ) (A : Provenance → TemporalFeatureWindow → DepthMatrixBuilder → Prop)
    (u w : World TaskId AppState Event) : Prop :=
  booksContract.Rests (.feed (.buy k)) u w ∧
    A (provenance (bookUses k w.log)) (w.state.temporalWindow k) (w.state.depthBuilder k)

section
variable {host : Host} {config : RunnerConfig} {i : TaskId} {u w : World TaskId AppState Event}
  {k : ℕ} {A : Provenance → TemporalFeatureWindow → DepthMatrixBuilder → Prop}

theorem sameTicks_put {s : AppState} (hs : SameBooks w.state s) (k : ℕ) :
    SameTicks k w (w.put s) :=
  ⟨rfl, by rw [World.put_state, hs.temporalWindow], by rw [World.put_state, hs.depthBuilder]⟩

theorem sameTicks_emit {e : Event} (he : e.use k = none) : SameTicks k w (w.emit i e) :=
  ⟨bookUses_snoc_of_none he, rfl, rfl⟩

theorem booksInv_of_same (h : BooksInv u) (hsame : ∀ k, SameTicks k u w) : BooksInv w := by
  intro k
  rw [(hsame k).uses, (hsame k).window, (hsame k).builder]
  exact h k

theorem books_self (h : BooksInv w) : booksContract.Rests i w w := ⟨h, fun _ _ => ⟨rfl, rfl, rfl⟩⟩

theorem books_move (h : booksContract.Rests i u w) {v : World TaskId AppState Event}
    (hsame : ∀ k, SameTicks k w v) : booksContract.Rests i u v :=
  ⟨booksInv_of_same h.1 hsame, fun k hk => (h.2 k hk).trans (hsame k)⟩

theorem answerCall_ticks {s s' : AppState} {c : Call} {x : Input} {r : Except PyError c.Reply}
    (h : answerCall config s c x = some (r, s')) :
    s'.temporalWindow = s.temporalWindow ∧ s'.depthBuilder = s.depthBuilder :=
  answerCall_moves
    (T := fun s s' => s'.temporalWindow = s.temporalWindow ∧ s'.depthBuilder = s.depthBuilder)
    (fun _ _ => ⟨rfl, rfl⟩) h

theorem sameTicks_answer {c : Call} {x : Input} {r : Except PyError c.Reply} {s : AppState}
    (h : answerCall config w.state c x = some (r, s)) (k : ℕ) : SameTicks k w (w.put s) :=
  ⟨rfl, congrFun (answerCall_ticks h).1 k, congrFun (answerCall_ticks h).2 k⟩

theorem books_put (h : booksContract.Rests i u w) {s : AppState} (hs : SameBooks w.state s) :
    booksContract.Rests i u (w.put s) := books_move h fun k => sameTicks_put hs k

theorem books_emit (h : booksContract.Rests i u w) {e : Event} (he : e.usesBook = false) :
    booksContract.Rests i u (w.emit i e) :=
  books_move h fun _ => sameTicks_emit (Event.use_of_aside he)

theorem books_kept : Kept (processRules host config) booksContract i SameBooks
    (fun e => e.usesBook = false) (booksContract.Rests i) where
  set h hs := books_put h hs
  emit h he := books_emit h he
  rests h := h
  turn _ _ hv := books_self hv
  reply _ _ hv hans := books_move (books_self hv) fun k => sameTicks_answer hans k

theorem Knows.move (h : Knows k A u w) {v : World TaskId AppState Event}
    (hsame : ∀ k, SameTicks k w v) : Knows k A u v := by
  refine ⟨books_move h.1 hsame, ?_⟩
  rw [(hsame k).uses, (hsame k).window, (hsame k).builder]
  exact h.2

theorem Knows.put (h : Knows k A u w) {s : AppState} (hs : SameBooks w.state s) :
    Knows k A u (w.put s) := h.move fun k => sameTicks_put hs k

theorem Knows.emit (h : Knows k A u w) {e : Event} (he : e.usesBook = false) :
    Knows k A u (w.emit i e) := h.move fun _ => sameTicks_emit (Event.use_of_aside he)

theorem knows_kept : Kept (processRules host config) booksContract (.feed (.buy k)) SameBooks
    (fun e => e.usesBook = false) (Knows k A) where
  set h hs := h.put hs
  emit h he := h.emit he
  rests h := h.1
  turn h hrely hv := by
    refine ⟨books_self hv, ?_⟩
    rw [(hrely k rfl).uses, (hrely k rfl).window, (hrely k rfl).builder]
    exact h.2
  reply h hrely hv hans := by
    have hwoken : Knows k A _ _ := ⟨books_self hv, by
      rw [(hrely k rfl).uses, (hrely k rfl).window, (hrely k rfl).builder]
      exact h.2⟩
    exact hwoken.move fun k => sameTicks_answer hans k

end

/-! ### The buy feed -/

section
variable {host : Host} {config : RunnerConfig} {m : PairMonitor}
  {u w : World TaskId AppState Event}

theorem books_own {k : ℕ} (h : booksContract.Rests (.feed (.buy k)) u w)
    {v : World TaskId AppState Event} (hothers : ∀ k', k' ≠ k → SameTicks k' w v)
    (hrows : RowsOf (provenance (bookUses k v.log)) (v.state.temporalWindow k)
      (v.state.depthBuilder k)) (hknown : Throughout KnownUse (bookUses k v.log)) :
    booksContract.Rests (.feed (.buy k)) u v := by
  refine ⟨fun k' => ?_, fun k' hk' => ?_⟩
  · by_cases hk : k' = k
    · subst hk
      exact ⟨hrows, hknown⟩
    · rw [(hothers k' hk).uses, (hothers k' hk).window, (hothers k' hk).builder]
      exact h.1 k'
  · refine (h.2 k' hk').trans (hothers k' ?_)
    rintro rfl
    exact hk' rfl

theorem books_estimate {buySnapshot : OrderBookSnapshot} {temporal : TemporalFeatures}
    {depth : DepthMatrix}
    (h : Knows m.index (fun p window builder => p.Fresh ∧
      window.toTemporalFeatures = some temporal ∧ builder.toDepthMatrix = some depth) u w) :
    booksContract.Rests (.feed (.buy m.index)) u (w.emit (.feed (.buy m.index))
      (.book m.index (.heuristicUpdate buySnapshot temporal depth))) := by
  obtain ⟨hrests, hfresh, htemporal, hdepth⟩ := h
  obtain ⟨hrows, hknown⟩ := hrests.1 m.index
  refine books_own hrests (fun k hk => sameTicks_emit (Event.use_of_ne (Ne.symm hk) _)) ?_ ?_
  · rw [World.emit_log, bookUses_snoc, provenance_snoc]
    exact hrows.feed ..
  · rw [World.emit_log, bookUses_snoc]
    refine (throughout_snoc _).mpr ⟨hknown, ?_⟩
    intro buy temporal' depth' heq
    cases heq
    exact hrows.known hfresh htemporal hdepth

theorem books_deliver {k : ℕ} {snapshot : OrderBookSnapshot} {window : TemporalFeatureWindow}
    {builder : DepthMatrixBuilder} (h : booksContract.Rests (.feed (.buy k)) u w)
    (hwindow : (w.state.temporalWindow k).update snapshot = .ok window)
    (hbuilder : (w.state.depthBuilder k).update snapshot = .ok builder)
    {v : World TaskId AppState Event}
    (hlog : bookUses k v.log =
      bookUses k w.log ++ [.temporalUpdate snapshot] ++ [.depthUpdate snapshot])
    (hwindow' : v.state.temporalWindow = Function.update w.state.temporalWindow k window)
    (hbuilder' : v.state.depthBuilder = Function.update w.state.depthBuilder k builder)
    (hothers : ∀ k', k' ≠ k → bookUses k' v.log = bookUses k' w.log) :
    Knows k (fun p _ _ => p.Fresh) u v := by
  obtain ⟨hrows, hknown⟩ := h.1 k
  refine ⟨books_own h (fun k' hk => ⟨hothers k' hk, ?_, ?_⟩) ?_ ?_, ?_⟩
  · rw [hwindow', Function.update_of_ne hk]
  · rw [hbuilder', Function.update_of_ne hk]
  · rw [hlog, provenance_snoc, provenance_snoc, hwindow', hbuilder', Function.update_self,
      Function.update_self]
    exact hrows.deliver hwindow hbuilder
  · rw [hlog]
    refine (throughout_snoc _).mpr ⟨(throughout_snoc _).mpr ⟨hknown, ?_⟩, ?_⟩
    · intro buy temporal depth heq
      cases heq
    · intro buy temporal depth heq
      cases heq
  · rw [hlog, provenance_snoc, provenance_snoc]
    exact fresh_deliver

theorem books_decideOn {buySnapshot : OrderBookSnapshot} {q : PairQuote}
    {temporal : TemporalFeatures} {depth : DepthMatrix}
    (h : Knows m.index (fun p window builder => p.Fresh ∧
      window.toTemporalFeatures = some temporal ∧ builder.toDepthMatrix = some depth) u w) :
    wp (processRules host config) booksContract (.feed (.buy m.index))
      (m.decideOn buySnapshot q temporal depth)
      (fun _ => booksContract.Rests (.feed (.buy m.index))) u w := by
  refine wp_acts_bind knows_kept (does_logSample ..).acts h
    (fun _ u w h => ?_) fun _ _ _ h => h.1
  refine wp_lift_bind (fun hazard _ => wp_report_bind ?_) fun _ _ => h.1
  refine wp_of_acts books_kept ?_ (books_estimate h) fun _ _ _ h => h
  exact (does_bind (does_updateHeuristic ..) fun signal s =>
    m.does_gated (fun _ he => he) ..).acts

theorem books_evaluateOnce (h : Knows m.index (fun p _ _ => p.Fresh) u w) :
    wp (processRules host config) booksContract (.feed (.buy m.index)) m.evaluateOnce
      (fun _ => booksContract.Rests (.feed (.buy m.index))) u w := by
  refine wp_report_bind (wp_acts_bind knows_kept (does_readBooks m).acts (h.emit rfl)
    (fun books u w h => ?_) fun _ _ _ h => h.1)
  obtain ⟨buy, sell⟩ := books
  cases buy with
  | none => exact h.1
  | some buy =>
  cases sell with
  | none => exact h.1
  | some sell =>
  simp only [PairMonitor.evaluateBooks]
  split
  · refine wp_state_bind ?_
    split
    next temporal depth htemporal hdepth =>
      refine wp_lift_bind (fun quote _ => ?_) fun _ _ => h.1
      cases quote with
      | none => exact h.1
      | some q => exact books_decideOn ⟨h.1, h.2, htemporal, hdepth⟩
    · exact h.1
  · exact h.1

theorem books_maybeEvaluate (h : Knows m.index (fun p _ _ => p.Fresh) u w) :
    wp (processRules host config) booksContract (.feed (.buy m.index)) m.maybeEvaluate
      (fun _ => booksContract.Rests (.feed (.buy m.index))) u w := by
  refine wp_state_bind ?_
  split
  · rw [wp_underLock_iff]
    split
    · exact h.1
    · refine wp_mono _ (fun _ u w h => ?_)
        (books_evaluateOnce (h.put (sameBooks_onMonitor ..)))
      exact books_put (books_emit h rfl) (sameBooks_onMonitor ..)
  · exact h.1

theorem books_onBuySnapshot (snapshot : OrderBookSnapshot)
    (h : booksContract.Rests (.feed (.buy m.index)) u w) :
    wp (processRules host config) booksContract (.feed (.buy m.index)) (m.onBuySnapshot snapshot)
      (fun _ => booksContract.Rests (.feed (.buy m.index))) u w := by
  refine wp_acts_bind books_kept (does_setSnapshot snapshot).acts h (fun _ u w h => ?_)
    fun _ _ _ h => h
  refine wp_state_bind (wp_lift_bind (fun window hwindow => ?_) fun _ _ => h)
  obtain ⟨builder, hbuilder, -⟩ := (w.state.depthBuilder m.index).update_ok snapshot
  refine wp_lift_bind (fun builder' hbuilder' => ?_) fun e he => ?_
  · refine books_maybeEvaluate (books_deliver h hwindow hbuilder' ?_ rfl rfl fun k hk => ?_)
    · rw [World.emit_log, bookUses_snoc, World.put_log, World.emit_log, bookUses_snoc,
        World.put_log]
    · have hnone : ∀ use, (Event.book m.index use).use k = none :=
        Event.use_of_ne (Ne.symm hk)
      rw [World.emit_log, bookUses_snoc_of_none (hnone _), World.put_log, World.emit_log,
        bookUses_snoc_of_none (hnone _), World.put_log]
  · cases hbuilder.symm.trans he

theorem books_callback {k : ℕ} (snapshot : OrderBookSnapshot)
    (h : booksContract.Rests (.feed (.buy k)) u w) :
    wp (processRules host config) booksContract (.feed (.buy k))
      (callback host config (.buy k) snapshot)
      (fun _ => booksContract.Rests (.feed (.buy k))) u w := by
  simp only [callback]
  split
  next pair _ => exact books_onBuySnapshot (m := ⟨host, config, k, pair⟩) snapshot h
  · exact h

theorem books_delivery {f : Feed} (snapshot : OrderBookSnapshot) (h : BooksInv w) :
    Keeps (processRules host config) booksContract (.feed f) (deliver host config f snapshot)
      w w := by
  by_cases hf : ∃ k, f = .buy k
  · obtain ⟨k, rfl⟩ := hf
    refine (keeps_deliver (.buy k) snapshot).mpr ?_
    refine wp_mono _ (fun r u w h => ?_)
      (books_callback snapshot (books_put (books_self h) (sameBooks_setFeed ..)))
    cases r with
    | ok _ => exact books_put h (sameBooks_setFeed ..)
    | error e => exact books_put h ((sameBooks_setFeed ..).trans (sameBooks_onMonitor ..))
  · refine keeps_of_acts books_kept (does_deliver (fun _ _ h => h) f snapshot fun s => ?_).acts
      (books_self h)
    exact does_callback (fun _ he => he) (fun k hk => hf ⟨k, hk⟩) snapshot

theorem books_sound : Sound (processRules host config) booksContract where
  starts w i x c hinv _ hstart := by
    have hself : booksContract.Rests i w w := books_self hinv
    cases started_of_startTask hstart with
    | launch => exact keeps_of_acts books_kept (does_runForever config).acts hself
    | boot m label failure =>
      exact keeps_of_acts books_kept (does_runMonitor (fun _ he => he) m label failure).acts hself
    | delivered f => exact books_delivery _ hinv
    | fetchFailed f e => exact keeps_of_acts books_kept (does_fetchFails f e).acts hself
    | intent n request userId =>
      have hintent : LeavesBooks (fun e => e.usesBook = false)
          (processArbitrageIntent request userId) w.state := does_intent (fun _ he => he) ..
      exact keeps_of_acts books_kept (acts_bind hintent.acts fun _ _ => trivial) hself
    | dashboard n x f =>
      exact keeps_of_acts books_kept (acts_modify ⟨⟨rfl, rfl⟩, rfl, rfl⟩) hself
  drifts w x s hinv _ hdrift := by
    obtain ⟨seconds, -, -, rfl⟩ := drift_tick hdrift
    have hsame : ∀ k, SameTicks k w (w.put { w.state with now := w.state.now + seconds }) :=
      fun _ => ⟨rfl, rfl, rfl⟩
    exact ⟨booksInv_of_same hinv hsame, fun _ k _ => hsame k⟩

end

/-! ### Every run -/

theorem booksInv_of_run {host : Host} {config : RunnerConfig} {chs : List (Choice TaskId Input)}
    {L : ProcessLoop} (hrun : runProcess host config chs = some L) : BooksInv L.world := by
  have hinit : BooksInv ⟨AppState.initial, []⟩ := fun _ => ⟨rowsOf_initial, throughout_nil⟩
  exact run_inv_free books_sound (fun _ _ => trivial) .initial hinit chs hrun

/-- Every estimate uses the rows of the book it is priced with, and uses them first. -/
def DecidesOnOneBook (uses : List BookUse) : Prop :=
  Throughout (fun before use => ∀ buySnapshot temporal depth,
    use = .heuristicUpdate buySnapshot temporal depth →
      UsesOneBook (provenance before) buySnapshot temporal depth) uses

def DecidesOnLastTwoSided (uses : List BookUse) : Prop :=
  Throughout (fun before use => ∀ buySnapshot temporal depth,
    use = .heuristicUpdate buySnapshot temporal depth →
      ReadsLastTwoSided (provenance before) buySnapshot) uses

/-- In every run a pair decides on one book exactly where it reads the last two-sided one
that its buy feed delivered, with a positive mid price, and has not come back to it. -/
theorem decidesOnOneBook_iff (host : Host) (config : RunnerConfig)
    (chs : List (Choice TaskId Input)) (L : ProcessLoop)
    (hrun : runProcess host config chs = some L) (k : ℕ) :
    DecidesOnOneBook (bookUses k L.world.log) ↔ DecidesOnLastTwoSided (bookUses k L.world.log) := by
  refine throughout_congr (booksInv_of_run hrun k).2 fun before use hknown => ?_
  refine forall_congr' fun buySnapshot => forall_congr' fun temporal => forall_congr' fun depth =>
    forall_congr' fun heq => ?_
  exact (hknown buySnapshot temporal depth heq).usesOneBook_iff

/-! ### A pair that is warmed up -/

section
variable {N : Type} [PyFloat N]

def onePair : RunnerConfig N := ⟨[⟨"BTC/USDT", "alpha", "beta"⟩], [], 50, 0, true, false⟩

def bothSides : OrderBookSnapshot N := ⟨"alpha", "BTC/USDT", 0, [⟨10, 10⟩], [⟨11, 10⟩]⟩

def deliverBuy (snapshot : OrderBookSnapshot N) : List (Choice TaskId (Input N)) :=
  [.start (.feed (.buy 0)) (.delivered snapshot.timestamp snapshot.bids snapshot.asks),
    .reply (.feed (.buy 0)) .replied, .turn (.feed (.buy 0))]

def readPair : List (Choice TaskId (Input N)) :=
  (List.replicate 2 [.reply (.feed (.buy 0)) .replied, .turn (.feed (.buy 0))]).flatten

/-- The first evaluation comes with the hundredth book. -/
def warmPair : List (Choice TaskId (Input N)) :=
  [.start .runForever .launch, .reply .runForever (.user "u"),
    .start (.run (.pair 0)) (.boot none),
    .start (.feed (.sell 0)) (.delivered 0 [⟨10, 10⟩] [⟨11, 10⟩]),
    .reply (.feed (.sell 0)) .replied, .turn (.feed (.sell 0))] ++
      (List.replicate 100 (deliverBuy bothSides)).flatten ++ readPair

end

theorem decidesOnOneBook_warm :
    ∃ L, runProcess (N := ℚ) bareHost onePair warmPair = some L ∧
      (DecidesOnOneBook (bookUses 0 L.world.log) ↔
        DecidesOnLastTwoSided (bookUses 0 L.world.log)) := by
  have hsome : (runProcess (N := ℚ) bareHost onePair warmPair).isSome = true := by decide +kernel
  obtain ⟨L, hL⟩ := Option.isSome_iff_exists.mp hsome
  exact ⟨L, hL, decidesOnOneBook_iff bareHost onePair _ L hL 0⟩

def asksAlone : OrderBookSnapshot := ⟨"alpha", "BTC/USDT", 0, [], [⟨11, 10⟩]⟩

def BookUse.estimated : BookUse → Option OrderBookSnapshot
  | .heuristicUpdate buySnapshot _ _ => some buySnapshot
  | _ => none

/-- The windows skip a book without bids, the evaluation does not. -/
theorem decidesOnOneBook_asksAlone :
    ∃ L, runProcess bareHost onePair (warmPair ++ deliverBuy asksAlone ++ readPair) = some L ∧
      ¬DecidesOnOneBook (bookUses 0 L.world.log) := by
  have hlast : (runProcess bareHost onePair (warmPair ++ deliverBuy asksAlone ++ readPair)).map
      (fun L => ((bookUses 0 L.world.log).getLast?.bind BookUse.estimated,
        (provenance (bookUses 0 L.world.log).dropLast).temporal)) =
          some (some asksAlone, some bothSides) := by decide +kernel
  obtain ⟨L, hL, hpair⟩ := Option.map_eq_some_iff.mp hlast
  refine ⟨L, hL, fun hone => ?_⟩
  obtain ⟨hestimate, htemporal⟩ := Prod.mk.inj hpair
  obtain ⟨use, huse, hbook⟩ := Option.bind_eq_some_iff.mp hestimate
  cases use with
  | heuristicUpdate buySnapshot temporal depth =>
    cases hbook
    obtain ⟨before, hsplit⟩ := List.getLast?_eq_some_iff.mp huse
    have huses := hone before _ [] hsplit asksAlone temporal depth rfl
    rw [hsplit, List.dropLast_concat, huses.temporal_book] at htemporal
    exact absurd htemporal (by decide +kernel)
  | _ => cases hbook

end BimodalArbitrage.Runtime
