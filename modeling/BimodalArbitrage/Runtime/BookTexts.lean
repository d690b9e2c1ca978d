import BimodalArbitrage.Marketdata.SnapshotText
import BimodalArbitrage.Runtime.LatestBook

/-!
# The texts of a run's books

A run keeps the books themselves where Redis keeps their texts. Printed and read back as
the cache does it, the texts that the same commands leave behind give every evaluation the
very book the run gives it.
-/

namespace BimodalArbitrage.Runtime
open Coop Execution Marketdata

def CacheOp.ofServerOp : ServerOp → CacheOp
  | .set _ value => .set (jsonToSnapshot value)
  | .advance dt => .advance dt

/-- What the clients of Redis did in a run. -/
def cacheOps (host : Host) (config : RunnerConfig) (chs : List (Choice TaskId Input)) :
    List CacheOp :=
  (serverOps host config chs).map CacheOp.ofServerOp

def AppState.texts (codec : Codec) (s : AppState) : TextServer :=
  s.server.map fun payload => codec.snapshotToJson (jsonToSnapshot payload)

section
variable {host : Host} {config : RunnerConfig} {chs : List (Choice TaskId Input)}
  {L : ProcessLoop} {codec : Codec} {exchange symbol : String}

theorem texts_run (hrun : runProcess host config chs = some L) (codec : Codec) :
    L.world.state.texts codec =
      (TextCache.mk codec defaultTtlSeconds).run (cacheOps host config chs) := by
  have hserved := served_of_run hrun
  have hkeys := hserved.keys
  rw [AppState.texts, hserved.server, cacheOps]
  generalize serverOps host config chs = ops at hkeys
  induction ops using List.reverseRecOn with
  | nil => rfl
  | append_singleton ops op ih =>
    have hbefore := ih fun key value hset => hkeys key value (List.mem_append_left _ hset)
    rw [List.map_append, TextCache.run, List.foldl_append, ← TextCache.run, ← hbefore,
      Store.Server.run_append]
    cases op with
    | advance dt => rfl
    | set key value =>
      obtain rfl := hkeys key value (by simp)
      exact Store.Server.set_map ..

theorem getSnapshot_texts {s : AppState}
    (hcodec : ∀ snapshot ∈ s.bookOf exchange symbol, codec.Inverse snapshot) :
    (TextCache.mk codec defaultTtlSeconds).getSnapshot exchange symbol (s.texts codec) =
      .ok (s.bookOf exchange symbol) := by
  have hget : s.server.get (cacheKey exchange symbol) =
      s.redisLookup (cacheKey exchange symbol) := rfl
  rw [TextCache.getSnapshot, AppState.texts, Store.Server.get_map, hget]
  rw [AppState.bookOf] at hcodec ⊢
  cases hlookup : s.redisLookup (cacheKey exchange symbol) with
  | none => rfl
  | some payload =>
    rw [hlookup] at hcodec
    simp only [Option.map_some]
    rw [jsonToSnapshot_of_inverse (hcodec _ rfl)]
    rfl

/-- A book that is read was stored. -/
theorem set_of_bookOf (hrun : runProcess host config chs = some L) {snapshot : OrderBookSnapshot}
    (hbook : snapshot ∈ L.world.state.bookOf exchange symbol) :
    .set snapshot ∈ cacheOps host config chs := by
  obtain ⟨payload, hget, rfl⟩ := Option.mem_map.mp hbook
  have hserver : payload ∈ L.world.state.server.get (cacheKey exchange symbol) := hget
  rw [(served_of_run hrun).server] at hserver
  obtain ⟨age, hlast, -⟩ := Store.lastSet_of_get hserver
  exact List.mem_map_of_mem (f := CacheOp.ofServerOp) hlast.stored.mem

end

end BimodalArbitrage.Runtime
