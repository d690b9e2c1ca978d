import BimodalArbitrage.Api.RateBound
import BimodalArbitrage.Api.RequestPipeline
import BimodalArbitrage.Quota.Tickets

/-!
# What the gateway does for a user

The gate is asked for a user only by a request that carries the user's token, names the
user and was granted by the limiter, once for each grant.
-/

namespace BimodalArbitrage.Api
open Coop Execution Quota BimodalArbitrage.Runtime

/-! ### Reading the log -/

def limiterLog (log : GatewayLog) : List (Entry ℕ LimiterState Answer) :=
  log.filterMap fun e => match e.event with
    | .answered a => some ⟨e.task, e.state.limiter, a⟩
    | _ => none

/-- The grants of the limiter, each spent by the next question its request has for the
gate. -/
def grants (log : GatewayLog) : Tickets ℕ Answer :=
  log.foldl (fun t e => match e.event with
    | .answered a => if a.granted then t.give e.task a else t
    | .handler (.shouldExecute ..) => t.spend e.task
    | _ => t) .empty

/-- The request the gate is asked about. -/
def GatewayEvent.gated : GatewayEvent → Option TradeSignalRequest
  | .handler (.shouldExecute (.intent request) _) => some request
  | _ => none

/-- The requests the gate was asked about, the latest first. -/
def gatedRequests (log : GatewayLog) : List TradeSignalRequest :=
  (log.filterMap fun e => e.event.gated).reverse

structure GatewayInv (g : Gateway) (w : World ℕ GatewayState GatewayEvent) : Prop where
  served : ∀ key, Served g.limiter (w.state.limiter.buckets key) (answersOn key (limiterLog w.log))
  inTurn : ∀ i, ∃ st, stageAfter g i w.log = some st

/-- A request is at the stage its own events have brought it to. -/
def gatewayContract (g : Gateway) : Contract ℕ GatewayState GatewayEvent GatewayInput where
  inv := GatewayInv g
  rely i u v := stageAfter g i v.log = stageAfter g i u.log
  guar i u v := ∀ j, j ≠ i → stageAfter g j v.log = stageAfter g j u.log
  allows _ _ := True
  rely_refl _ _ := rfl
  rely_trans _ _ _ _ huv hvw := hvw.trans huv
  guar_rely _ j _ _ hij h := h j hij.symm

/-- The request runs and is at the stage. -/
def AtStage (g : Gateway) (i : ℕ) (st : RequestStage) (u w : World ℕ GatewayState GatewayEvent) :
    Prop :=
  (gatewayContract g).Rests i u w ∧ stageAfter g i w.log = some st

section
variable {g : Gateway} {i j : ℕ} {st st' : RequestStage} {e : GatewayEvent}
  {u v w : World ℕ GatewayState GatewayEvent}

theorem stageAfter_snoc (i : ℕ) (log : GatewayLog) (e : Entry ℕ GatewayState GatewayEvent) :
    stageAfter g i (log ++ [e]) =
      if e.task = i then (stageAfter g i log).bind (·.next g e) else stageAfter g i log :=
  List.foldl_append ..

theorem limiterLog_snoc (log : GatewayLog) (e : Entry ℕ GatewayState GatewayEvent) :
    limiterLog (log ++ [e]) = limiterLog log ++ (match e.event with
      | .answered a => [⟨e.task, e.state.limiter, a⟩]
      | _ => []) := by
  rw [limiterLog, List.filterMap_append, List.filterMap_cons, List.filterMap_nil, limiterLog]
  cases e.event <;> rfl

/-- A move of one request with one event, whatever becomes of its bucket. -/
theorem AtStage.move (h : AtStage g i st u w) {s : GatewayState}
    (hnext : st.next g ⟨i, s, e⟩ = some st') (hlog : v.log = w.log ++ [⟨i, s, e⟩])
    (hserved : ∀ key, Served g.limiter (v.state.limiter.buckets key)
      (answersOn key (limiterLog v.log))) : AtStage g i st' u v := by
  have hself : stageAfter g i v.log = some st' := by
    rw [hlog, stageAfter_snoc, if_pos rfl, h.2, Option.bind_some, hnext]
  have hothers : ∀ j, j ≠ i → stageAfter g j v.log = stageAfter g j w.log := by
    intro j hj
    rw [hlog, stageAfter_snoc, if_neg hj.symm]
  refine ⟨⟨⟨hserved, fun j => ?_⟩, fun j hj => (hothers j hj).trans (h.1.2 j hj)⟩, hself⟩
  by_cases hj : j = i
  · exact ⟨st', hj ▸ hself⟩
  · exact (hothers j hj).symm ▸ h.1.1.inTurn j

theorem AtStage.emit (h : AtStage g i st u w) (hnext : st.next g ⟨i, w.state, e⟩ = some st')
    (he : ∀ a, e ≠ .answered a) : AtStage g i st' u (w.emit i e) := by
  have hlog : limiterLog (w.emit i e).log = limiterLog w.log := by
    rw [World.emit_log, limiterLog_snoc]
    cases e with
    | answered a => exact absurd rfl (he a)
    | _ => exact List.append_nil _
  refine h.move hnext rfl fun key => ?_
  rw [hlog]
  exact h.1.1.served key

theorem AtStage.resume (h : AtStage g i st u w) (hrely : (gatewayContract g).rely i w v)
    (hinv : (gatewayContract g).inv v) : AtStage g i st v v :=
  ⟨⟨hinv, fun _ _ => rfl⟩, Eq.trans hrely h.2⟩

theorem AtStage.put (h : AtStage g i st u w) (app : AppState) :
    AtStage g i st u (w.put { w.state with app := app }) :=
  ⟨⟨⟨h.1.1.served, h.1.1.inTurn⟩, h.1.2⟩, h.2⟩

end

/-! ### The steps of a request -/

section
variable {g : Gateway} {config : RunnerConfig} {i : ℕ} {u w : World ℕ GatewayState GatewayEvent}

theorem served_answered {l : TokenBucketRateLimiter} {buckets : String → Option Bucket}
    {log : List (Entry ℕ LimiterState Answer)}
    (h : ∀ key, Served l (buckets key) (answersOn key log)) (userId : String) (now : ℚ)
    (s : LimiterState) (key : String) :
    Served l (Function.update buckets userId (some (l.serve (buckets userId) now).1) key)
      (answersOn key (log ++ [⟨i, s, ⟨userId, now, (l.serve (buckets userId) now).2⟩⟩])) := by
  rw [answersOn_append]
  by_cases hkey : userId = key
  · subst hkey
    rw [if_pos rfl, Function.update_self]
    exact (h userId).next userId now
  · rw [if_neg hkey, Function.update_of_ne (Ne.symm hkey)]
    exact h key

theorem wp_allow {userId : String} {Q : Except PyError Bool → World ℕ GatewayState GatewayEvent →
      World ℕ GatewayState GatewayEvent → Prop}
    (hgranted : ∀ now u w, AtStage g i (.granted ⟨userId, now, true⟩) u w → Q (.ok true) u w)
    (hrefused : ∀ u w, AtStage g i .refused u w → Q (.ok false) u w)
    (h : AtStage g i (.known userId) u w) :
    wp (gatewayRules g config) (gatewayContract g) i
      ((g.limiter.allow userId).embed limiterPart) Q u w := by
  simp only [TokenBucketRateLimiter.allow, Coro.bind_eq, Coro.pure_eq, Coro.embed_bind, wp_bind,
    Coro.wp_embed_state, ends_ok, Coro.embed_yield, wp_yield, Coro.wp_embed_modify,
    Coro.embed_report, wp_report, Coro.embed_pure, wp_pure]
  refine ⟨h.1, fun v hrely hinv _ => ?_⟩
  replace h := h.resume hrely hinv
  generalize hnow : (limiterPart.get w.state).clock = now
  generalize hserve : g.limiter.serve ((limiterPart.get v.state).buckets userId) now = served
  have hserved : ∀ s key, Served g.limiter
      (Function.update v.state.limiter.buckets userId (some served.1) key)
      (answersOn key (limiterLog v.log ++ [⟨i, s, ⟨userId, now, served.2⟩⟩])) := by
    intro s
    rw [← hserve]
    exact served_answered h.1.1.served userId now s
  obtain ⟨bucket, granted⟩ := served
  cases granted with
  | true =>
    have hnext : ∀ s, RequestStage.next g (.known userId)
        ⟨i, s, .answered ⟨userId, now, true⟩⟩ = some (.granted ⟨userId, now, true⟩) :=
      fun _ => if_pos rfl
    refine hgranted now v _ (h.move (hnext _) rfl fun key => ?_)
    rw [World.emit_log, limiterLog_snoc]
    exact hserved _ key
  | false =>
    have hnext : ∀ s, RequestStage.next g (.known userId)
        ⟨i, s, .answered ⟨userId, now, false⟩⟩ = some .refused := fun _ => if_pos rfl
    refine hrefused v _ (h.move (hnext _) rfl fun key => ?_)
    rw [World.emit_log, limiterLog_snoc]
    exact hserved _ key

/-- The request can be answered as it stands. -/
def Answerable (g : Gateway) (i : ℕ)
    (r : Except PyError (Except HTTPException TradeSignalResponse))
    (u w : World ℕ GatewayState GatewayEvent) : Prop :=
  match r with
  | .ok response => ∃ st, AtStage g i st u w ∧
      ∀ s, st.next g ⟨i, s, .responded response⟩ = some .unknown
  | .error _ => (gatewayContract g).Rests i u w

theorem answer_app {s s' : GatewayState} {c : Call} {x : GatewayInput} {r : Except PyError c.Reply}
    (h : (gatewayRules g config).answer s c x = some (r, s')) :
    ∃ app, s' = { s with app := app } := by
  simp only [gatewayRules] at h
  split at h
  · obtain ⟨a, -, h⟩ := Option.map_eq_some_iff.mp h
    cases h
    exact ⟨a.2, rfl⟩
  · cases h

theorem wp_processArbitrageIntent {a : Answer} (request : TradeSignalRequest)
    (h : AtStage g i (.granted a) u w) :
    wp (gatewayRules g config) (gatewayContract g) i
      ((processArbitrageIntent request a.key).embed handlerPart)
      (fun r => Answerable g i (r.map .ok)) u w := by
  unfold processArbitrageIntent
  split
  · exact ⟨_, h, fun _ => by simp [RequestStage.next]⟩
  next hkey =>
  replace hkey := not_not.mp hkey
  rw [Coro.bind_eq, Coro.embed_bind, wp_bind, Coro.wp_embed_call]
  refine ⟨h.1, fun v x r s hrely hinv _ hans => ?_⟩
  obtain ⟨app, rfl⟩ := answer_app hans
  replace h := (h.resume hrely hinv).put app
  cases r with
  | error e => exact h.1
  | ok signal =>
  have hasked : ∀ s, RequestStage.next g (.granted a) ⟨i, s, .handler (.shouldExecute
      (.intent request) (gateCall request signal))⟩ =
        some (.decided a (gateCall request signal).verdict.1) := fun _ => if_pos hkey
  change wp _ _ i ((Coro.embed handlerPart (Coro.bind (Coro.report _) _))) _ _ _
  rw [Coro.embed_bind, wp_bind, Coro.embed_report, wp_report, ends_ok]
  replace h := h.emit (hasked _) (by simp)
  split
  next hrejected =>
    replace hrejected : (!(gateCall request signal).verdict.1) = true := hrejected
    rw [Bool.not_eq_true'] at hrejected
    rw [hrejected] at h
    exact ⟨_, h, fun _ => by simp [RequestStage.next, rejected]⟩
  next happroved =>
    replace happroved : ¬(!(gateCall request signal).verdict.1) = true := happroved
    rw [Bool.not_eq_true', Bool.not_eq_false] at happroved
    have hdispatch : ∀ s, RequestStage.next g (.decided a true) ⟨i, s, .handler (.dispatchOrders
        request signal)⟩ = some .dispatching := fun _ => if_pos hkey
    rw [happroved] at h
    rw [Coro.bind_eq, Coro.embed_bind, wp_bind, Coro.embed_report, wp_report, ends_ok]
    replace h := h.emit (hdispatch _) (by simp)
    rw [Coro.bind_eq, Coro.embed_bind, wp_bind, Coro.embed_attempt, wp_attempt, Coro.wp_embed_call]
    refine ⟨h.1, fun v x r s hrely hinv _ hans => ?_⟩
    obtain ⟨app, rfl⟩ := answer_app hans
    replace h := (h.resume hrely hinv).put app
    cases r with
    | error e => exact ⟨_, h, fun _ => rfl⟩
    | ok result => exact ⟨_, h, fun _ => rfl⟩

theorem wp_handle (credentials : Option String) (request : TradeSignalRequest)
    (h : AtStage g i .unknown u w) :
    wp (gatewayRules g config) (gatewayContract g) i (g.handle credentials request)
      (Answerable g i) u w := by
  cases credentials with
  | none => exact ⟨_, h, fun _ => rfl⟩
  | some token =>
  simp only [Gateway.handle, Coro.bind_eq, wp_bind, wp_yield, wp_state, ends_ok]
  refine ⟨h.1, fun v hrely hinv _ => ?_⟩
  replace h := h.resume hrely hinv
  cases huser : getCurrentUserId g.jwt g.jwtSecret token v.state.time with
  | error e => exact ⟨_, h, fun _ => rfl⟩
  | ok userId =>
  simp only [wp_bind, wp_report, ends_ok, wp_yield]
  replace h := h.emit (e := .authenticated token userId) (if_pos huser) (by simp)
  refine ⟨h.1, fun v hrely hinv _ => ?_⟩
  replace h := h.resume hrely hinv
  rw [Gateway.rateLimitDependency, Coro.bind_eq, wp_bind]
  refine wp_allow (fun now u w h => ?_) (fun u w h => ?_) h
  · simp only [ends_ok, Coro.pure_eq, wp_pure, if_true, wp_bind, wp_yield]
    refine ⟨h.1, fun v hrely hinv _ => ?_⟩
    replace h := h.resume hrely hinv
    refine wp_mono _ (fun r u w h => ?_) (wp_processArbitrageIntent request h)
    cases r with
    | ok response => exact h
    | error e => exact h
  · exact ⟨_, h, fun _ => by simp [RequestStage.next]⟩

theorem gateway_sound : Sound (gatewayRules g config) (gatewayContract g) where
  starts w i x c hinv _ hstart := by
    cases x with
    | http credentials request =>
      cases hstart
      obtain ⟨st, hst⟩ := hinv.inTurn i
      have hself : AtStage g i st w w := ⟨⟨hinv, fun _ _ => rfl⟩, hst⟩
      have hreceived : ∀ s, st.next g ⟨i, s, .received⟩ = some .unknown := fun _ => by
        cases st <;> rfl
      simp only [Keeps, Gateway.serve, Coro.bind_eq, wp_bind, wp_report, ends_ok]
      refine wp_mono _ (fun r u w h => ?_)
        (wp_handle credentials request (hself.emit (hreceived _) (by simp)))
      cases r with
      | error e => exact h
      | ok response =>
        obtain ⟨st, h, hnext⟩ := h
        exact (h.emit (hnext _) (by simp)).1
    | _ => cases hstart
  drifts w x s hinv _ hdrift := by
    have hsame : s.limiter.buckets = w.state.limiter.buckets := by
      cases x with
      | tick seconds =>
        simp only [gatewayRules] at hdrift
        split at hdrift <;> cases hdrift
        rfl
      | wall time =>
        cases hdrift
        rfl
      | process app =>
        cases hdrift
        rfl
      | _ => cases hdrift
    refine ⟨⟨fun key => ?_, hinv.inTurn⟩, fun _ => rfl⟩
    rw [World.put_state, hsame]
    exact hinv.served key

end

/-! ### Grants and questions -/

/-- The grants the limiter gave, the latest first. -/
def grantedAnswers (log : GatewayLog) : List Answer :=
  (((limiterLog log).map Entry.event).filter Answer.granted).reverse

section
variable {g : Gateway} {log : GatewayLog}

theorem grants_snoc (log : GatewayLog) (e : Entry ℕ GatewayState GatewayEvent) :
    grants (log ++ [e]) = (match e.event with
      | .answered a => if a.granted then (grants log).give e.task a else grants log
      | .handler (.shouldExecute ..) => (grants log).spend e.task
      | _ => grants log) :=
  List.foldl_append ..

theorem grantedAnswers_snoc (log : GatewayLog) (e : Entry ℕ GatewayState GatewayEvent) :
    grantedAnswers (log ++ [e]) = (match e.event with
      | .answered a => if a.granted then a :: grantedAnswers log else grantedAnswers log
      | _ => grantedAnswers log) := by
  rw [grantedAnswers, limiterLog_snoc]
  cases e.event with
  | answered a => cases ha : a.granted <;> simp [ha, grantedAnswers]
  | _ => simp [grantedAnswers]

theorem gatedRequests_snoc (log : GatewayLog) (e : Entry ℕ GatewayState GatewayEvent) :
    gatedRequests (log ++ [e]) = e.event.gated.toList ++ gatedRequests log := by
  rw [gatedRequests, List.filterMap_append, List.filterMap_cons, List.filterMap_nil, gatedRequests]
  cases e.event.gated with
  | none => simp
  | some request => simp

theorem grants_accounts (log : GatewayLog) : (grants log).Accounts (grantedAnswers log) := by
  induction log using List.reverseRecOn with
  | nil => exact Tickets.accounts_empty
  | append_singleton log e ih =>
    rw [grants_snoc, grantedAnswers_snoc]
    cases e.event with
    | answered a =>
      by_cases ha : a.granted = true
      · simpa only [if_pos ha] using ih.give e.task a
      · simpa only [if_neg ha] using ih
    | handler x =>
      cases x with
      | shouldExecute _ _ => exact ih.spend e.task
      | _ => exact ih
    | _ => exact ih

theorem next_granted {st : RequestStage} {e : Entry ℕ GatewayState GatewayEvent} {a : Answer}
    (h : st.next g e = some (.granted a)) : e.event = .answered a ∧ a.granted = true := by
  unfold RequestStage.next at h
  split at h
  case h_4 hevent =>
    split at h
    · split at h
      next hgranted =>
        cases h
        exact ⟨hevent, hgranted⟩
      next => cases h
    · cases h
  all_goals
    first
    | cases h
    | (split at h <;> cases h)

theorem next_gated {st st' : RequestStage} {e : Entry ℕ GatewayState GatewayEvent}
    {origin : GatePath} {call : GateCall} (h : st.next g e = some st')
    (hevent : e.event = .handler (.shouldExecute origin call)) :
    ∃ a request, st = .granted a ∧ origin = .intent request ∧ request.userId = a.key := by
  unfold RequestStage.next at h
  rw [hevent] at h
  split at h
  case h_7 request _ heq =>
    cases heq
    split at h
    next hkey => exact ⟨_, request, rfl, rfl, hkey⟩
    next => cases h
  all_goals
    first
    | contradiction
    | simp_all

/-- The grants are there when they are spent, and spent on the requests of their users. -/
structure Metered (g : Gateway) (log : GatewayLog) : Prop where
  held : ∀ i a, stageAfter g i log = some (.granted a) → (grants log).holds i = some a
  asked : List.Forall₂ (fun (a : Answer) (request : TradeSignalRequest) => request.userId = a.key)
    (grants log).spent (gatedRequests log)

theorem Metered.snoc {e : Entry ℕ GatewayState GatewayEvent} (h : Metered g log)
    (hturn : ∃ st, stageAfter g e.task (log ++ [e]) = some st) : Metered g (log ++ [e]) := by
  obtain ⟨st', hst'⟩ := hturn
  rw [stageAfter_snoc, if_pos rfl] at hst'
  obtain ⟨st, hst, hnext⟩ := Option.bind_eq_some_iff.mp hst'
  constructor
  · intro i a hi
    rw [stageAfter_snoc] at hi
    split at hi
    next htask =>
      subst htask
      rw [hst, Option.bind_some] at hi
      obtain ⟨hevent, hgranted⟩ := next_granted hi
      rw [grants_snoc, hevent]
      simp only [hgranted, if_true]
      exact Tickets.holds_give_self
    next htask =>
      have hheld := h.held i a hi
      rw [grants_snoc]
      cases e.event with
      | answered b =>
        by_cases hb : b.granted = true
        · simpa only [if_pos hb] using (Tickets.holds_give_of_ne (Ne.symm htask)).trans hheld
        · simpa only [if_neg hb] using hheld
      | handler x =>
        cases x with
        | shouldExecute _ _ => exact (Tickets.holds_spend_of_ne (Ne.symm htask)).trans hheld
        | _ => exact hheld
      | _ => exact hheld
  · rw [grants_snoc, gatedRequests_snoc]
    cases hevent : e.event with
    | answered b =>
      change List.Forall₂ _ (if b.granted = true then (grants log).give e.task b
        else grants log).spent (gatedRequests log)
      split <;> exact h.asked
    | handler x =>
      cases x with
      | shouldExecute origin call =>
        obtain ⟨a, request, rfl, rfl, hkey⟩ := next_gated hnext hevent
        change List.Forall₂ _ ((grants log).spend e.task).spent (request :: gatedRequests log)
        rw [Tickets.spend_of_holds (h.held _ _ hst)]
        exact .cons hkey h.asked
      | _ => exact h.asked
    | _ => exact h.asked

theorem metered_of_inTurn (h : ∀ i, ∃ st, stageAfter g i log = some st) : Metered g log := by
  induction log using List.reverseRecOn with
  | nil => exact ⟨nofun, .nil⟩
  | append_singleton log e ih =>
    refine (ih fun i => ?_).snoc (h e.task)
    obtain ⟨st', hst'⟩ := h i
    rw [stageAfter_snoc] at hst'
    split at hst'
    · obtain ⟨st, hst, -⟩ := Option.bind_eq_some_iff.mp hst'
      exact ⟨st, hst⟩
    · exact ⟨st', hst'⟩

end

/-! ### Every run -/

theorem grantedWithin_le_of_served {l : TokenBucketRateLimiter} (hcap : 1 ≤ l.capacity)
    (hrate : 0 < l.refillPerSecond) {bucket : Option Bucket} {answers : List Answer}
    (h : Served l bucket answers) (horder : InReadingOrder answers) {s t : ℚ} (hst : s ≤ t) :
    (grantedWithin s t answers : ℚ) ≤ l.capacity + l.refillPerSecond * (t - s) := by
  have hcap0 : 0 ≤ l.capacity := zero_le_one.trans hcap
  obtain ⟨draws, hmeter, hdraws, -⟩ := served_metered hcap0 hrate.le h horder
  rw [← drawnWithin_eq s t hdraws]
  exact drawnWithin_le hcap0 hrate.le hmeter hst

/-- The grants on the key whose reading of the clock lies in the window. -/
def onWithin (key : String) (s t : ℚ) (a : Answer) : Bool :=
  a.key = key ∧ s ≤ a.now ∧ a.now ≤ t

theorem countP_grantedAnswers (log : GatewayLog) (key : String) (s t : ℚ) :
    (grantedAnswers log).countP (onWithin key s t) =
      grantedWithin s t (answersOn key (limiterLog log)) := by
  rw [grantedAnswers, grantedWithin, answersOn, List.countP_reverse, List.countP_reverse,
    List.countP_filter, List.countP_filter]
  refine List.countP_congr fun a _ => ?_
  simp only [onWithin, Bool.and_eq_true, decide_eq_true_eq]
  tauto

/-- In every run each request meets its events in turn, every question to the gate spends
a grant of the user it names, and in a window a user spends no more than the capacity and
what the window refills. -/
theorem questions_metered (g : Gateway) (config : RunnerConfig) (clock time : ℚ)
    (chs : List (Choice ℕ GatewayInput)) (L : GatewayLoop)
    (hrun : run (gatewayRules g config) (Loop.quiet (.initial clock time)) chs = some L) :
    (∀ i, ∃ st, stageAfter g i L.world.log = some st) ∧
      List.Forall₂ (fun (a : Answer) (request : TradeSignalRequest) => request.userId = a.key)
        (grants L.world.log).spent (gatedRequests L.world.log) ∧
      (1 ≤ g.limiter.capacity → 0 < g.limiter.refillPerSecond → ∀ userId s t, s ≤ t →
        InReadingOrder (answersOn userId (limiterLog L.world.log)) →
          ((grants L.world.log).spent.countP (onWithin userId s t) : ℚ) ≤
            g.limiter.capacity + g.limiter.refillPerSecond * (t - s)) := by
  have hstart : GatewayInv g ⟨.initial clock time, []⟩ :=
    ⟨fun _ => .fresh, fun _ => ⟨.unknown, rfl⟩⟩
  have hinv : GatewayInv g L.world := run_inv gateway_sound (.initial clock time) hstart chs
    (along_of_forall _ (fun _ _ _ => trivial) _) hrun
  refine ⟨hinv.inTurn, (metered_of_inTurn hinv.inTurn).asked, ?_⟩
  intro hcap hrate userId s t hst horder
  calc ((grants L.world.log).spent.countP (onWithin userId s t) : ℚ)
      ≤ ((grantedAnswers L.world.log).countP (onWithin userId s t) : ℚ) :=
        Nat.cast_le.mpr ((grants_accounts L.world.log).countP_spent_le _)
    _ = (grantedWithin s t (answersOn userId (limiterLog L.world.log)) : ℚ) := by
        rw [countP_grantedAnswers]
    _ ≤ g.limiter.capacity + g.limiter.refillPerSecond * (t - s) :=
        grantedWithin_le_of_served hcap hrate (hinv.served userId) horder hst

/-- Knows one token, and grants each user a request a second. -/
def oneToken : Gateway where
  jwt := ⟨fun token secret _ =>
    if token = "alice" ∧ secret = "secret" then .ok (some "alice") else .error .invalidToken⟩
  jwtSecret := some "secret"
  limiter := ⟨1, 1⟩
  bearerRefusal := ⟨401, "Not authenticated"⟩

/-- Two requests with the same token at once, only one of which is granted. -/
def askedTwice : List (Choice ℕ GatewayInput) :=
  [.start 0 (.http (some "alice") (aliceRequest 25 15 (by decide +kernel) (by decide +kernel))),
    .start 1 (.http (some "alice") (aliceRequest 25 15 (by decide +kernel) (by decide +kernel))),
    .turn 0, .turn 1, .turn 1, .turn 0, .turn 1, .turn 0, .turn 1,
    .reply 1 (.world (.signal ⟨9 / 10, 20, 1 / 10⟩)), .reply 1 (.world .replied)]

theorem questions_metered_askedTwice :
    ∃ L, run (gatewayRules oneToken (triangleConfig [])) (Loop.quiet (.initial 0 0)) askedTwice =
        some L ∧ (grants L.world.log).spent = [⟨"alice", 0, true⟩] ∧
      (∀ i, ∃ st, stageAfter oneToken i L.world.log = some st) ∧
      List.Forall₂ (fun (a : Answer) (request : TradeSignalRequest) => request.userId = a.key)
        (grants L.world.log).spent (gatedRequests L.world.log) ∧
      ∀ userId s t, s ≤ t → InReadingOrder (answersOn userId (limiterLog L.world.log)) →
        ((grants L.world.log).spent.countP (onWithin userId s t) : ℚ) ≤
          oneToken.limiter.capacity + oneToken.limiter.refillPerSecond * (t - s) := by
  have hspent : (run (gatewayRules oneToken (triangleConfig [])) (Loop.quiet (.initial 0 0))
      askedTwice).map (fun L => (grants L.world.log).spent) = some [⟨"alice", 0, true⟩] := by
    decide +kernel
  obtain ⟨L, hL, hone⟩ := Option.map_eq_some_iff.mp hspent
  obtain ⟨hturns, hasked, hwindow⟩ :=
    questions_metered oneToken (triangleConfig []) 0 0 askedTwice L hL
  exact ⟨L, hL, hone, hturns, hasked, hwindow (by decide +kernel) (by decide +kernel)⟩

end BimodalArbitrage.Api
