import BimodalArbitrage.Marketdata.OrderbookCache
import BimodalArbitrage.Runtime.CacheAccess
import BimodalArbitrage.Store.Latest

/-!
# The latest book

In any run Redis is an expiring store of what the feeds had it set. What it returns is
the latest book exactly as long as the books of a key are stored in their order.
-/

namespace BimodalArbitrage.Runtime
open Coop Execution Marketdata

abbrev ServerOp := Store.Op String SnapshotPayload ℚ

def AppState.server (s : AppState) : Store.Server String SnapshotPayload ℚ := ⟨s.now, s.redis⟩

/-- What `get_snapshot` returns when the server answers it in this state. -/
def AppState.bookOf (exchange symbol : String) (s : AppState) : Option OrderBookSnapshot :=
  (s.redisLookup (cacheKey exchange symbol)).map jsonToSnapshot

def commandOf : Call → Input → Option ServerOp
  | .redisSet key value _, .replied => some (.set key value)
  | _, _ => none

/-- The command that a choice has the server carry out, or the time it lets pass. -/
def serverOp (L : ProcessLoop) : Choice TaskId Input → Option ServerOp
  | .reply i x => match L.slots i with
    | .waiting c _ => commandOf c x
    | _ => none
  | .drift (.tick seconds) => some (.advance seconds)
  | _ => none

def serverOps (host : Host) (config : RunnerConfig) (chs : List (Choice TaskId Input)) :
    List ServerOp :=
  observe (processRules host config) serverOp (Loop.quiet .initial) chs

/-! ### The server of a run -/

theorem answerCall_server {config : RunnerConfig} {s s' : AppState} {c : Call} {x : Input}
    {r : Except PyError c.Reply} (h : answerCall config s c x = some (r, s'))
    (hcall : c.FromCache) :
    s'.server = (commandOf c x).elim s.server (s.server.step (defaultTtlSeconds : ℚ)) := by
  cases c with
  | redisSet key value ex =>
    obtain ⟨-, rfl⟩ := hcall
    cases x with
    | replied =>
      cases h
      rfl
    | failed e =>
      cases h
      rfl
    | _ => cases h
  | _ =>
    rw [answerCall_frame h fun _ _ _ heq => by cases heq]
    rfl

section
variable {host : Host} {config : RunnerConfig} {chs : List (Choice TaskId Input)}
  {ch : Choice TaskId Input} {L L' : ProcessLoop}

theorem server_step (hslots : ∀ i, (L.slots i).Does SameServer (fun _ => True) Call.FromCache)
    (hstep : step (processRules host config) L ch = some L') :
    L'.world.state.server = (serverOp L ch).elim L.world.state.server
      (L.world.state.server.step (defaultTtlSeconds : ℚ)) := by
  have hmoved := (step_does process_confined hslots hstep).2
  have hserver : L'.world.state.server = (outside (processRules host config) L ch).server := by
    rw [AppState.server, AppState.server, hmoved.now, hmoved.redis]
  rw [hserver]
  cases ch with
  | start i x => rfl
  | turn i => rfl
  | drift x =>
    obtain ⟨s, hdrift, -⟩ := Option.map_eq_some_iff.mp hstep
    simp only [outside, hdrift, Option.getD_some]
    obtain ⟨seconds, rfl, -, rfl⟩ := drift_tick hdrift
    rfl
  | reply i x =>
    simp only [step] at hstep
    split at hstep
    next c k hslot =>
      obtain ⟨a, hanswer, -⟩ := Option.map_eq_some_iff.mp hstep
      have hcall := hslots i
      rw [hslot] at hcall
      simp only [outside, serverOp, hslot, hanswer, Option.map_some, Option.getD_some]
      exact answerCall_server hanswer hcall.1
    · contradiction

/-- Time does not go back, and a book is stored under its own key. -/
theorem serverOp_step (hslots : ∀ i, (L.slots i).Does SameServer (fun _ => True) Call.FromCache)
    (hstep : step (processRules host config) L ch = some L') :
    (∀ dt, serverOp L ch = some (.advance dt) → 0 ≤ dt) ∧
      ∀ key value, serverOp L ch = some (.set key value) →
        key = cacheKey value.exchange value.symbol := by
  cases ch with
  | start i x => exact ⟨fun _ h => (by cases h), fun _ _ h => (by cases h)⟩
  | turn i => exact ⟨fun _ h => (by cases h), fun _ _ h => (by cases h)⟩
  | drift x =>
    obtain ⟨s, hdrift, -⟩ := Option.map_eq_some_iff.mp hstep
    obtain ⟨seconds, rfl, hseconds, -⟩ := drift_tick hdrift
    refine ⟨fun dt h => ?_, fun _ _ h => (by cases h)⟩
    cases h
    exact hseconds
  | reply i x =>
    simp only [step] at hstep
    split at hstep
    next c k hslot =>
      have hcall := hslots i
      rw [hslot] at hcall
      simp only [serverOp, hslot, commandOf]
      split
      · refine ⟨fun _ h => (by cases h), fun key value h => ?_⟩
        cases h
        exact hcall.1.1
      · exact ⟨fun _ h => (by cases h), fun _ _ h => (by cases h)⟩
    · contradiction

/-- What holds of the server after the schedule. -/
structure Served (host : Host) (config : RunnerConfig) (chs : List (Choice TaskId Input))
    (L : ProcessLoop) : Prop where
  slots : ∀ i, (L.slots i).Does SameServer (fun _ => True) Call.FromCache
  server : L.world.state.server =
    Store.Server.empty.run (defaultTtlSeconds : ℚ) (serverOps host config chs)
  advance : ∀ dt, .advance dt ∈ serverOps host config chs → 0 ≤ dt
  keys : ∀ key value, .set key value ∈ serverOps host config chs →
    key = cacheKey value.exchange value.symbol

theorem serverOps_snoc (hrun : runProcess host config chs = some L) :
    serverOps host config (chs ++ [ch]) = serverOps host config chs ++ (serverOp L ch).toList :=
  observe_snoc hrun

theorem Served.step (h : Served host config chs L) (hrun : runProcess host config chs = some L)
    (hstep : Coop.step (processRules host config) L ch = some L') :
    Served host config (chs ++ [ch]) L' where
  slots := (step_does process_confined h.slots hstep).1
  server := by
    rw [server_step h.slots hstep, serverOps_snoc hrun, Store.Server.run_append, ← h.server]
    cases serverOp L ch <;> rfl
  advance dt hdt := by
    rw [serverOps_snoc hrun, List.mem_append, Option.mem_toList] at hdt
    exact hdt.elim (h.advance dt) ((serverOp_step h.slots hstep).1 dt)
  keys key value hset := by
    rw [serverOps_snoc hrun, List.mem_append, Option.mem_toList] at hset
    exact hset.elim (h.keys key value) ((serverOp_step h.slots hstep).2 key value)

theorem served_of_run (hrun : runProcess host config chs = some L) :
    Served host config chs L := by
  induction chs using List.reverseRecOn generalizing L with
  | nil =>
    cases hrun
    exact ⟨fun _ => trivial, rfl, fun _ h => (by cases h), fun _ _ h => (by cases h)⟩
  | append_singleton chs ch ih =>
    rw [runProcess, run_snoc] at hrun
    obtain ⟨M, hM, hstep⟩ := Option.bind_eq_some_iff.mp hrun
    exact (ih hM).step hM hstep

end

/-! ### Every run -/

/-- No book that is returned is older than one that was stored before under the same key
and has not expired. -/
def ReturnsLatest (host : Host) (config : RunnerConfig) (chs : List (Choice TaskId Input))
    (L : ProcessLoop) : Prop :=
  ∀ exchange symbol, ∀ snapshot ∈ L.world.state.bookOf exchange symbol, ∀ stored age,
    Store.Stored (cacheKey exchange symbol) (snapshotToJson stored) age
      (serverOps host config chs) → age < defaultTtlSeconds →
        stored.timestamp ≤ snapshot.timestamp

/-- A book that is stored finds no younger one under its key. -/
def StoresInOrder (L : ProcessLoop) (ch : Choice TaskId Input) : Prop :=
  ∀ key value, serverOp L ch = some (.set key value) →
    ∀ held ∈ L.world.state.redisLookup key, held.timestamp ≤ value.timestamp

section
variable {host : Host} {config : RunnerConfig} {chs : List (Choice TaskId Input)}
  {ch : Choice TaskId Input} {L L' : ProcessLoop}

theorem Served.returnsLatest_iff (h : Served host config chs L) :
    ReturnsLatest host config chs L ↔ Store.ServesLatest SnapshotPayload.timestamp
      (defaultTtlSeconds : ℚ) (serverOps host config chs) := by
  rw [Store.ServesLatest, ← h.server]
  constructor
  · intro hlatest key value hget other age hstored hage
    obtain rfl := h.keys key other hstored.mem
    rw [← snapshotToJson_jsonToSnapshot other] at hstored
    exact hlatest other.exchange other.symbol (jsonToSnapshot value)
      (Option.mem_map_of_mem jsonToSnapshot hget) (jsonToSnapshot other) age hstored hage
  · intro hlatest exchange symbol snapshot hbook stored age hstored hage
    obtain ⟨value, hget, rfl⟩ := Option.mem_map.mp hbook
    exact hlatest _ value hget _ age hstored hage

theorem returnsLatest_step (hrun : runProcess host config chs = some L)
    (hstep : step (processRules host config) L ch = some L')
    (hlatest : ReturnsLatest host config chs L) :
    ReturnsLatest host config (chs ++ [ch]) L' ↔ StoresInOrder L ch := by
  have hserved := served_of_run hrun
  have hafter := hserved.step hrun hstep
  rw [hafter.returnsLatest_iff, serverOps_snoc hrun]
  cases hop : serverOp L ch with
  | none =>
    rw [Option.toList_none, List.append_nil]
    refine iff_of_true (hserved.returnsLatest_iff.mp hlatest) fun key value heq => ?_
    rw [hop] at heq
    cases heq
  | some op =>
    have hadvance := hafter.advance
    rw [serverOps_snoc hrun, hop] at hadvance
    rw [Option.toList_some, Store.servesLatest_snoc (hserved.returnsLatest_iff.mp hlatest)
      hadvance (by decide +kernel), ← hserved.server]
    simp only [StoresInOrder, Store.Supersedes, hop, Option.some.injEq]
    exact Iff.rfl

end

/-- The cache returns the latest book in every state of a run exactly when no step of it
stores a book over a younger one. -/
theorem cache_latest_iff (host : Host) (config : RunnerConfig) (chs : List (Choice TaskId Input))
    (L : ProcessLoop) (hrun : runProcess host config chs = some L) :
    (∀ before M, before <+: chs → runProcess host config before = some M →
        ReturnsLatest host config before M) ↔
      ∀ before ch after M, chs = before ++ ch :: after →
        runProcess host config before = some M → StoresInOrder M ch := by
  refine throughout_run_iff ?_ (fun _ _ _ _ hM hstep => returnsLatest_step hM hstep) hrun
  intro exchange symbol snapshot hbook
  cases hbook

/-! ### Two triangles on one book -/

def earlierBook : OrderBookSnapshot := ⟨"alpha", "BTC/USDT", 1, [⟨10, 1⟩], [⟨11, 1⟩]⟩

def laterBook : OrderBookSnapshot := ⟨"alpha", "BTC/USDT", 2, [⟨12, 1⟩], [⟨13, 1⟩]⟩

/-- Each triangle fetches one of the books; `first` and `second` store theirs in turn. -/
def sharedBook (first second : ℕ) : List (Choice TaskId Input) :=
  startTriangles 2 ++
    [.start (.feed (.leg 0 .bridgeQuote)) (.delivered 1 earlierBook.bids earlierBook.asks),
      .start (.feed (.leg 1 .bridgeQuote)) (.delivered 2 laterBook.bids laterBook.asks),
      .reply (.feed (.leg first .bridgeQuote)) .replied,
      .reply (.feed (.leg second .bridgeQuote)) .replied]

theorem cache_latest_inOrder :
    ∃ L, runProcess bareHost twoTriangles (sharedBook 0 1) = some L ∧
      ((∀ before M, before <+: sharedBook 0 1 →
          runProcess bareHost twoTriangles before = some M →
            ReturnsLatest bareHost twoTriangles before M) ↔
        ∀ before ch after M, sharedBook 0 1 = before ++ ch :: after →
          runProcess bareHost twoTriangles before = some M → StoresInOrder M ch) := by
  have hsome : (runProcess bareHost twoTriangles (sharedBook 0 1)).isSome = true := by
    decide +kernel
  obtain ⟨L, hL⟩ := Option.isSome_iff_exists.mp hsome
  exact ⟨L, hL, cache_latest_iff bareHost twoTriangles _ L hL⟩

/-- The older book is stored over the younger one, and returned in its place. -/
theorem cache_latest_overtaken :
    ∃ L, runProcess bareHost twoTriangles (sharedBook 1 0) = some L ∧
      ¬∀ before M, before <+: sharedBook 1 0 →
        runProcess bareHost twoTriangles before = some M →
          ReturnsLatest bareHost twoTriangles before M := by
  have hheld : (runProcess bareHost twoTriangles (sharedBook 1 0)).map
      (fun L => L.world.state.bookOf "alpha" "BTC/USDT") = some (some earlierBook) := by
    decide +kernel
  have hops : serverOps bareHost twoTriangles (sharedBook 1 0) =
      [.set (cacheKey "alpha" "BTC/USDT") (snapshotToJson laterBook),
        .set (cacheKey "alpha" "BTC/USDT") (snapshotToJson earlierBook)] := by decide +kernel
  obtain ⟨L, hL, hbook⟩ := Option.map_eq_some_iff.mp hheld
  refine ⟨L, hL, fun hlatest => ?_⟩
  have hle := hlatest _ L (List.prefix_refl _) hL "alpha" "BTC/USDT" earlierBook hbook laterBook 0
    ⟨[], _, hops, rfl⟩ (by decide +kernel)
  exact absurd hle (by decide +kernel)

end BimodalArbitrage.Runtime
