import BimodalArbitrage.Coop.Rely
import BimodalArbitrage.Ml.ModalWorker

/-!
# One network for all requests (`backend/ml/model_cache.py`)

Requests evaluate the cached network in worker threads. `train` and `eval` write the modes
of its modules one after the other, and a forward pass reads a mode when it gets there;
between any two of these steps another thread may run.
-/

namespace BimodalArbitrage.Ml
open Coop

/-- A `BimodalArbitrageNet`: its modules in the order of `modules()`, itself being the first,
and the modules whose modes the forward pass reads, in that order. -/
structure Network where
  submodules : ℕ
  reads : List ℕ
  forward : List Bool → Tensor ℚ → Tensor ℚ → Except PyError Outputs

namespace Network

def modules (network : Network) : List ℕ := List.range (network.submodules + 1)

/-- The network as long as no other thread has it. -/
def alone (network : Network) (training : Bool) : Net where
  training := training
  forward mode := network.forward (network.reads.map fun _ => mode)

end Network

/-- The networks made so far are numbered; `training` has the mode of each module of each. -/
structure ModelState where
  made : ℕ
  cached : Option ℕ
  training : ℕ → ℕ → Bool

def ModelState.initial : ModelState := ⟨0, none, fun _ _ => true⟩

structure Evaluated where
  network : ℕ
  temporal : TemporalFeatures
  depth : DepthMatrix
  signal : Except PyError (ArbitrageSignal ℚ)

abbrev ModelProc (α : Type) := Coro ModelState Evaluated Empty (fun _ => Unit) PyError α

def setMode (network m : ℕ) (mode : Bool) (s : ModelState) : ModelState :=
  let modes := Function.update (s.training network) m mode
  { s with training := Function.update s.training network modes }

def setModes (network : ℕ) (mode : Bool) (training : ℕ → ℕ → Bool) : ℕ → ℕ → Bool :=
  Function.update training network fun _ => mode

/-- A new network is in training mode. The event loop runs this, before any thread has
the network. -/
def getModel : ModelProc ℕ := do
  let s ← Coro.state
  match s.cached with
  | some network => pure network
  | none => do
    let network := s.made
    Coro.modify fun s => ⟨s.made + 1, some network, setModes network true s.training⟩
    Coro.modify fun s => { s with training := setModes network false s.training }
    pure network

/-- `model.train(mode)`. -/
def trainModules (network : ℕ) (mode : Bool) : List ℕ → ModelProc Unit
  | [] => pure ()
  | m :: modules => do
    Coro.modify (setMode network m mode)
    Coro.yield
    trainModules network mode modules

def readModes (network : ℕ) : List ℕ → ModelProc (List Bool)
  | [] => pure []
  | m :: modules => do
    let s ← Coro.state
    Coro.yield
    let modes ← readModes network modules
    pure (s.training network m :: modes)

section
variable (torch : Torch) (networks : ℕ → Network)

/-- `evaluate_spread` in a thread of its own. -/
def evaluateSpreadThread (network : ℕ) (temporal : TemporalFeatures) (depth : DepthMatrix) :
    ModelProc (ArbitrageSignal ℚ) := do
  let s ← Coro.state
  let wasTraining := s.training network 0
  Coro.yield
  trainModules network false (networks network).modules
  Coro.ensuring (do
    let tensors ← Coro.lift (spreadTensors torch temporal depth)
    let modes ← readModes network (networks network).reads
    let outputs ← Coro.lift ((networks network).forward modes tensors.1 tensors.2)
    let executionProbability ← Coro.lift (torch.item outputs.executionProbability)
    let expectedAlphaBps ← Coro.lift (torch.item outputs.expectedAlphaBps)
    let adverseHazard ← Coro.lift (torch.item outputs.adverseHazard)
    pure ⟨executionProbability, expectedAlphaBps, adverseHazard⟩)
    (trainModules network wasTraining (networks network).modules)

def evaluateShared (temporal : TemporalFeatures) (depth : DepthMatrix) : ModelProc Unit := do
  let network ← getModel
  Coro.yield
  let signal ← (evaluateSpreadThread torch networks network temporal depth).attempt
  Coro.report ⟨network, temporal, depth, signal⟩

/-- Requests with any inputs come at any time. -/
def modelRules : Rules ℕ ModelState Evaluated Empty (fun _ => Unit) PyError
    (TemporalFeatures × DepthMatrix) where
  start _ _ x := some (evaluateShared torch networks x.1 x.2)
  answer _ c := c.elim
  drift _ _ := none

end

/-! ### The mode is never training -/

structure Shared (torch : Torch) (networks : ℕ → Network) (w : World ℕ ModelState Evaluated) :
    Prop where
  cached : (w.state.cached = none ∧ w.state.made = 0) ∨
    (w.state.cached = some 0 ∧ w.state.made = 1 ∧ ∀ m, w.state.training 0 m = false)
  signals : ∀ e ∈ w.log, e.event.network = 0 ∧ e.event.signal =
    (evaluateSpread torch ((networks 0).alone false) e.event.temporal e.event.depth).1

/-- A network once cached stays cached. -/
def sharedContract (torch : Torch) (networks : ℕ → Network) :
    Contract ℕ ModelState Evaluated (TemporalFeatures × DepthMatrix) where
  inv := Shared torch networks
  rely _ u v := u.state.cached = some 0 → v.state.cached = some 0
  guar _ u v := u.state.cached = some 0 → v.state.cached = some 0
  allows _ _ := True
  rely_refl _ _ h := h
  rely_trans _ _ _ _ huv hvw h := hvw (huv h)
  guar_rely _ _ _ _ _ h := h

section
variable {torch : Torch} {networks : ℕ → Network} {i : ℕ} {u v w : World ℕ ModelState Evaluated}

/-- The invariant holds, of the one network. -/
def Holds (torch : Torch) (networks : ℕ → Network) (w : World ℕ ModelState Evaluated) : Prop :=
  Shared torch networks w ∧ w.state.cached = some 0

theorem Holds.rests (h : Holds torch networks w) : (sharedContract torch networks).Rests i u w :=
  ⟨h.1, fun _ => h.2⟩

theorem Holds.resume (h : Holds torch networks w)
    (hrely : (sharedContract torch networks).rely i w v)
    (hinv : (sharedContract torch networks).inv v) : Holds torch networks v :=
  ⟨hinv, hrely h.2⟩

theorem Holds.modes (h : Holds torch networks w) (m : ℕ) :
    w.state.training 0 m = false := by
  obtain ⟨hnone, -⟩ | ⟨-, -, hmodes⟩ := h.1.cached
  · rw [h.2] at hnone
    cases hnone
  · exact hmodes m

theorem Holds.setMode (h : Holds torch networks w) (m : ℕ) :
    Holds torch networks (w.put (setMode 0 m false w.state)) := by
  obtain ⟨hnone, -⟩ | ⟨hcached, hmade, hmodes⟩ := h.1.cached
  · rw [h.2] at hnone
    cases hnone
  · refine ⟨⟨.inr ⟨hcached, hmade, fun other => ?_⟩, h.1.signals⟩, h.2⟩
    simp only [World.put_state, Ml.setMode, Function.update_self]
    by_cases hother : other = m
    · rw [hother, Function.update_self]
    · rw [Function.update_of_ne hother, hmodes]

theorem wp_trainModules {Q : Except PyError Unit → World ℕ ModelState Evaluated →
      World ℕ ModelState Evaluated → Prop} (modules : List ℕ)
    (hQ : ∀ u w, Holds torch networks w → Q (.ok ()) u w) (h : Holds torch networks w) :
    wp (modelRules torch networks) (sharedContract torch networks) i
      (trainModules 0 false modules) Q u w := by
  induction modules generalizing u w with
  | nil => exact hQ u w h
  | cons m modules ih =>
    have hset := h.setMode m
    simp only [trainModules, Coro.bind_eq, wp_bind, wp_modify, ends_ok, wp_yield]
    exact ⟨hset.rests, fun v hrely hinv _ => ih (hset.resume hrely hinv)⟩

theorem wp_readModes {Q : Except PyError (List Bool) → World ℕ ModelState Evaluated →
      World ℕ ModelState Evaluated → Prop} (modules : List ℕ)
    (hQ : ∀ u w, Holds torch networks w → Q (.ok (modules.map fun _ => false)) u w)
    (h : Holds torch networks w) :
    wp (modelRules torch networks) (sharedContract torch networks) i
      (readModes 0 modules) Q u w := by
  induction modules generalizing u w Q with
  | nil => exact hQ u w h
  | cons m modules ih =>
    simp only [readModes, Coro.bind_eq, Coro.pure_eq, wp_bind, wp_state, ends_ok, wp_yield]
    rw [h.modes m]
    exact ⟨h.rests, fun v hrely hinv _ => ih hQ (h.resume hrely hinv)⟩

/-- The signal of a thread is the one it would get alone. -/
theorem wp_evaluateSpreadThread {Q : Except PyError (ArbitrageSignal ℚ) →
      World ℕ ModelState Evaluated → World ℕ ModelState Evaluated → Prop}
    (temporal : TemporalFeatures) (depth : DepthMatrix)
    (hQ : ∀ u w, Holds torch networks w →
      Q (evaluateSpread torch ((networks 0).alone false) temporal depth).1 u w)
    (h : Holds torch networks w) :
    wp (modelRules torch networks) (sharedContract torch networks) i
      (evaluateSpreadThread torch networks 0 temporal depth) Q u w := by
  simp only [evaluateSpreadThread, Coro.bind_eq, wp_bind, wp_state, ends_ok, wp_yield, wp_ensuring,
    wp_lift, h.modes]
  refine ⟨h.rests, fun v hrely hinv _ => ?_⟩
  refine wp_trainModules _ (fun u w h => ?_) (h.resume hrely hinv)
  have hfinally : ∀ r {u w}, Holds torch networks w →
      r = (evaluateSpread torch ((networks 0).alone false) temporal depth).1 →
        wp (modelRules torch networks) (sharedContract torch networks) i
          (trainModules 0 false (networks 0).modules)
          (fun q u w => Ends q (fun _ => Q r u w) fun e => Q (.error e) u w) u w :=
    fun r _ _ h hr => wp_trainModules _ (fun u w h => hr ▸ hQ u w h) h
  rw [ends_ok]
  cases htensors : spreadTensors torch temporal depth with
  | error e => exact hfinally (.error e) h (by simp [evaluateSpread, htensors, bind, Except.bind])
  | ok tensors =>
    refine wp_readModes _ (fun u w h => ?_) h
    rw [ends_ok]
    have hsignal : (evaluateSpread torch ((networks 0).alone false) temporal depth).1 =
        (do
          let outputs ← (networks 0).forward ((networks 0).reads.map fun _ => false)
            tensors.1 tensors.2
          let executionProbability ← torch.item outputs.executionProbability
          let expectedAlphaBps ← torch.item outputs.expectedAlphaBps
          let adverseHazard ← torch.item outputs.adverseHazard
          pure ⟨executionProbability, expectedAlphaBps, adverseHazard⟩) := by
      rw [evaluateSpread, htensors]
      rfl
    cases hforward : (networks 0).forward ((networks 0).reads.map fun _ => false)
        tensors.1 tensors.2 with
    | error e => exact hfinally (.error e) h (by rw [hsignal, hforward]; rfl)
    | ok outputs =>
      rw [hforward, ok_bind] at hsignal
      rw [ends_ok]
      cases hprobability : torch.item outputs.executionProbability with
      | error e => exact hfinally (.error e) h (by rw [hsignal, hprobability]; rfl)
      | ok executionProbability =>
        rw [hprobability, ok_bind] at hsignal
        rw [ends_ok]
        cases halpha : torch.item outputs.expectedAlphaBps with
        | error e => exact hfinally (.error e) h (by rw [hsignal, halpha]; rfl)
        | ok expectedAlphaBps =>
          rw [halpha, ok_bind] at hsignal
          rw [ends_ok]
          cases hhazard : torch.item outputs.adverseHazard with
          | error e => exact hfinally (.error e) h (by rw [hsignal, hhazard]; rfl)
          | ok adverseHazard => exact hfinally (.ok _) h (by rw [hsignal, hhazard]; rfl)

theorem wp_getModel {Q : Except PyError ℕ → World ℕ ModelState Evaluated →
      World ℕ ModelState Evaluated → Prop} (hinv : Shared torch networks w)
    (hQ : ∀ w, Holds torch networks w → Q (.ok 0) u w) :
    wp (modelRules torch networks) (sharedContract torch networks) i getModel Q u w := by
  rw [getModel, Coro.bind_eq, wp_bind, wp_state, ends_ok]
  obtain ⟨hcached, hmade⟩ | ⟨hcached, hmade, hmodes⟩ := hinv.cached
  · simp only [hcached, hmade, Coro.bind_eq, Coro.pure_eq, wp_bind, wp_modify, ends_ok, wp_pure]
    refine hQ _ ⟨⟨.inr ⟨rfl, rfl, fun m => ?_⟩, hinv.signals⟩, rfl⟩
    simp only [World.put_state, setModes, Function.update_self]
  · simp only [hcached]
    exact hQ w ⟨hinv, hcached⟩

theorem shared_sound : Sound (modelRules torch networks) (sharedContract torch networks) where
  starts w i x c hinv _ hstart := by
    cases hstart
    simp only [Keeps, evaluateShared, Coro.bind_eq, wp_bind]
    refine wp_getModel hinv fun w h => ?_
    simp only [ends_ok, wp_yield, wp_attempt]
    refine ⟨h.rests, fun v hrely hinv _ => ?_⟩
    refine wp_evaluateSpreadThread x.1 x.2 (fun u w h => ?_) (h.resume hrely hinv)
    refine ⟨⟨h.1.cached, ?_⟩, fun _ => h.2⟩
    intro e he
    obtain he | he := List.mem_append.mp he
    · exact h.1.signals e he
    · cases List.mem_singleton.mp he
      exact ⟨rfl, rfl⟩
  drifts w x s _ _ hdrift := nomatch hdrift

end

/-- In every run one network is made, and every request gets the signal that
`evaluate_spread` computes with it when nothing else runs. -/
theorem evaluations_shared (torch : Torch) (networks : ℕ → Network)
    (chs : List (Choice ℕ (TemporalFeatures × DepthMatrix)))
    (L : Loop ℕ ModelState Evaluated Empty (fun _ => Unit) PyError)
    (hrun : run (modelRules torch networks) (Loop.quiet .initial) chs = some L) :
    L.world.state.made ≤ 1 ∧ ∀ e ∈ L.world.log, e.event.network = 0 ∧ e.event.signal =
      (evaluateSpread torch ((networks 0).alone false) e.event.temporal e.event.depth).1 := by
  have hstart : Shared torch networks ⟨.initial, []⟩ := ⟨.inl ⟨rfl, rfl⟩, nofun⟩
  have hinv : Shared torch networks L.world := run_inv shared_sound .initial hstart chs
    (along_of_forall _ (fun _ _ _ => trivial) _) hrun
  refine ⟨?_, hinv.signals⟩
  obtain ⟨-, hmade⟩ | ⟨-, hmade, -⟩ := hinv.cached
  · omega
  · omega

/-! ### Two requests at once -/

/-- Its signals tell the mode its one module was in. -/
def modeNetwork : Network where
  submodules := 0
  reads := [0]
  forward modes _ _ := .ok (.ofSignal ⟨if modes = [true] then 1 else 0, 0, 0⟩)

def sampleSpread : TemporalFeatures × DepthMatrix := (⟨[[1, 2]]⟩, ⟨[[3]]⟩)

/-- The second request reads the mode that the first one restores. -/
def overlapping : List (Choice ℕ (TemporalFeatures × DepthMatrix)) :=
  [.start 0 sampleSpread, .start 1 sampleSpread, .turn 0, .turn 0, .turn 1, .turn 1, .turn 0,
    .turn 0, .turn 1, .turn 1, .turn 1, .turn 0]

theorem evaluations_shared_overlapping :
    ∃ L, run (modelRules exactTorch fun _ => modeNetwork) (Loop.quiet .initial) overlapping =
        some L ∧ L.world.log.map (fun e => e.task) = [1, 0] ∧ L.world.state.made ≤ 1 ∧
      ∀ e ∈ L.world.log, e.event.network = 0 ∧ e.event.signal =
        (evaluateSpread exactTorch (modeNetwork.alone false) e.event.temporal e.event.depth).1 := by
  have htasks : (run (modelRules exactTorch fun _ => modeNetwork) (Loop.quiet .initial)
      overlapping).map (fun L => L.world.log.map fun e => e.task) = some [1, 0] := by
    decide +kernel
  obtain ⟨L, hL, horder⟩ := Option.map_eq_some_iff.mp htasks
  exact ⟨L, hL, horder, evaluations_shared exactTorch (fun _ => modeNetwork) overlapping L hL⟩

/-- A network that came in training mode would be put back into it under a request. -/
example : (run (modelRules exactTorch fun _ => modeNetwork)
    (Loop.quiet ⟨1, some 0, fun _ _ => true⟩) overlapping).map
      (fun L => L.world.log.map fun e => e.event.signal.toOption.map
        ArbitrageSignal.executionProbability) = some [some 1, some 0] := by
  decide +kernel

end BimodalArbitrage.Ml
