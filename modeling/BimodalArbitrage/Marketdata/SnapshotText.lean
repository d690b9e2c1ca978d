import BimodalArbitrage.Calendar.IsoFormat
import BimodalArbitrage.Json.Print
import BimodalArbitrage.Marketdata.CacheText

/-!
# The texts of the order book cache

`_snapshot_to_json` and `_json_to_snapshot` on the texts of `json` and `datetime`. Only the
printing of a float is a parameter.
-/

namespace BimodalArbitrage.Marketdata
open Json (Numeral Printable PrintableElements PrintableMembers Clean)

/-! ### Values -/

def codePoints (s : String) : List ℕ := s.toList.map Char.toNat

/-- A Python string without surrogates. -/
def ofCodePoints (s : List ℕ) : Option String :=
  if ∀ n ∈ s, n.isValidChar then some (String.ofList (s.map Char.ofNat)) else none

namespace JsonValue

mutual

def toJson : JsonValue → Json.Value
  | .string s => .string (codePoints s)
  | .number q => .float q
  | .array elements => .array (elementsToJson elements)
  | .object members => .object (membersToJson members)

def elementsToJson : List JsonValue → List Json.Value
  | [] => []
  | v :: vs => v.toJson :: elementsToJson vs

def membersToJson : List (String × JsonValue) → List (List ℕ × Json.Value)
  | [] => []
  | (key, v) :: ms => (codePoints key, v.toJson) :: membersToJson ms

end

mutual

/-- What no snapshot has, a constant or an unpaired surrogate, is left out. -/
def ofJson : Json.Value → Option JsonValue
  | .string s => (ofCodePoints s).map .string
  | .int n => some (.number n)
  | .float q => some (.number q)
  | .array elements => (elementsOfJson elements).map .array
  | .object members => (membersOfJson members).map .object
  | _ => none

def elementsOfJson : List Json.Value → Option (List JsonValue)
  | [] => some []
  | v :: vs => do
    let v ← ofJson v
    let vs ← elementsOfJson vs
    pure (v :: vs)

def membersOfJson : List (List ℕ × Json.Value) → Option (List (String × JsonValue))
  | [] => some []
  | (key, v) :: ms => do
    let key ← ofCodePoints key
    let v ← ofJson v
    let ms ← membersOfJson ms
    pure ((key, v) :: ms)

end

end JsonValue

/-! ### The codec -/

/-- Seconds from the first day of the calendar to the epoch. -/
def epoch : ℕ := 62135596800

def microsecondsOf (timestamp : ℚ) : ℕ := ((timestamp + epoch) * 1000000).floor.toNat

def timestampOf (microseconds : ℤ) : ℚ := microseconds / 1000000 - epoch

/-- `json` and `datetime`, where `repr` prints a float. -/
def pythonCodec (repr : ℚ → List Char) : Codec where
  dumps v := String.ofList (Json.dumps repr v.toJson)
  loads raw := match (Json.loads raw.toList).bind JsonValue.ofJson with
    | some v => .ok v
    | none => .error (valueError "JSONDecodeError")
  isoformat timestamp := String.ofList (Calendar.isoformat (microsecondsOf timestamp))
  fromisoformat text := match Calendar.fromisoformat text.toList with
    | some microseconds => .ok (timestampOf microseconds)
    | none => .error (valueError ("Invalid isoformat string: " ++ pyRepr text))

/-- A `datetime` in UTC. -/
def IsDatetime (timestamp : ℚ) : Prop :=
  ∃ n < Calendar.maxOrdinal * Calendar.perDay, timestamp = timestampOf n

/-- `repr` prints a numeral of the float. -/
def PrintsFloat (repr : ℚ → List Char) (q : ℚ) : Prop :=
  ∃ n : Numeral, repr q = n.text ∧ n.value = q

structure Storable (repr : ℚ → List Char) (snapshot : OrderBookSnapshot) : Prop where
  timestamp : IsDatetime snapshot.timestamp
  levels : ∀ lvl ∈ snapshot.bids ++ snapshot.asks,
    PrintsFloat repr lvl.price ∧ PrintsFloat repr lvl.volume

/-! ### Reading back -/

section
variable {repr : ℚ → List Char}

theorem ofCodePoints_codePoints (s : String) : ofCodePoints (codePoints s) = some s := by
  have hvalid : ∀ n ∈ codePoints s, n.isValidChar := by
    intro n hn
    obtain ⟨c, -, rfl⟩ := List.mem_map.mp hn
    exact c.valid
  have hchars : (codePoints s).map Char.ofNat = s.toList := by
    rw [codePoints, List.map_map]
    exact (List.map_congr_left fun c _ => Char.ofNat_toNat c).trans (List.map_id _)
  rw [ofCodePoints, if_pos hvalid, hchars, String.ofList_toList]

theorem clean_codePoints (s : String) : Clean (codePoints s) := by
  have hpoint : ∀ n ∈ codePoints s, n < 0xD800 ∨ 0xDFFF < n ∧ n < 0x110000 := by
    intro n hn
    obtain ⟨c, -, rfl⟩ := List.mem_map.mp hn
    exact c.valid
  refine ⟨fun n hn => ?_, List.Pairwise.isChain (List.pairwise_of_forall_mem_list ?_)⟩
  · have hn := hpoint n hn
    omega
  · rintro n hn m - ⟨hhigh, -⟩
    have hn := hpoint n hn
    have hlow := hhigh.1
    have hup := hhigh.2
    omega

mutual

theorem ofJson_toJson (v : JsonValue) : JsonValue.ofJson v.toJson = some v := by
  cases v with
  | string s =>
    rw [JsonValue.toJson, JsonValue.ofJson, ofCodePoints_codePoints]
    rfl
  | number q => rw [JsonValue.toJson, JsonValue.ofJson]
  | array elements =>
    rw [JsonValue.toJson, JsonValue.ofJson, elementsOfJson_elementsToJson]
    rfl
  | object members =>
    rw [JsonValue.toJson, JsonValue.ofJson, membersOfJson_membersToJson]
    rfl

theorem elementsOfJson_elementsToJson (vs : List JsonValue) :
    JsonValue.elementsOfJson (JsonValue.elementsToJson vs) = some vs := by
  cases vs with
  | nil => rw [JsonValue.elementsToJson, JsonValue.elementsOfJson]
  | cons v vs =>
    rw [JsonValue.elementsToJson, JsonValue.elementsOfJson, ofJson_toJson,
      elementsOfJson_elementsToJson]
    rfl

theorem membersOfJson_membersToJson (ms : List (String × JsonValue)) :
    JsonValue.membersOfJson (JsonValue.membersToJson ms) = some ms := by
  cases ms with
  | nil => rw [JsonValue.membersToJson, JsonValue.membersOfJson]
  | cons m ms =>
    obtain ⟨key, v⟩ := m
    rw [JsonValue.membersToJson, JsonValue.membersOfJson, ofCodePoints_codePoints, ofJson_toJson,
      membersOfJson_membersToJson]
    rfl

end

/-- A value made of strings, lists and dicts prints if its numbers do. -/
theorem loads_dumps_toJson {v : JsonValue} (h : Printable repr v.toJson) :
    (pythonCodec repr).loads ((pythonCodec repr).dumps v) = .ok v := by
  simp only [pythonCodec, String.toList_ofList, Json.loads_dumps h, Option.bind_some,
    ofJson_toJson]

theorem printable_levels {levels : List OrderBookLevel}
    (h : ∀ lvl ∈ levels, PrintsFloat repr lvl.price ∧ PrintsFloat repr lvl.volume) :
    PrintableElements repr (JsonValue.elementsToJson (levels.map JsonValue.ofLevel)) := by
  induction levels with
  | nil =>
    rw [List.map_nil, JsonValue.elementsToJson, PrintableElements]
    trivial
  | cons lvl levels ih =>
    obtain ⟨hprice, hvolume⟩ := h lvl (List.mem_cons_self ..)
    rw [List.map_cons, JsonValue.elementsToJson, PrintableElements]
    refine ⟨?_, ih fun lvl hlvl => h lvl (List.mem_cons_of_mem _ hlvl)⟩
    simp only [JsonValue.ofLevel, JsonValue.toJson, JsonValue.elementsToJson, Printable,
      PrintableElements, and_true]
    exact ⟨hprice, hvolume⟩

theorem printable_payload (c : Codec) {snapshot : OrderBookSnapshot}
    (h : ∀ lvl ∈ snapshot.bids ++ snapshot.asks,
      PrintsFloat repr lvl.price ∧ PrintsFloat repr lvl.volume) :
    Printable repr (c.payload snapshot).toJson := by
  have hbids := printable_levels fun lvl hlvl => h lvl (List.mem_append_left _ hlvl)
  have hasks := printable_levels fun lvl hlvl => h lvl (List.mem_append_right _ hlvl)
  simp only [Codec.payload, JsonValue.toJson, JsonValue.membersToJson, Printable,
    PrintableMembers, clean_codePoints, true_and, and_true]
  exact ⟨hbids, hasks⟩

theorem fromisoformat_isoformat {timestamp : ℚ} (h : IsDatetime timestamp) :
    (pythonCodec repr).fromisoformat ((pythonCodec repr).isoformat timestamp) = .ok timestamp := by
  obtain ⟨n, hn, rfl⟩ := h
  have hmicroseconds : microsecondsOf (timestampOf n) = n := by
    have hsum : (timestampOf n + epoch) * 1000000 = (n : ℚ) := by
      rw [timestampOf]
      push_cast
      ring
    rw [microsecondsOf, hsum, ← Int.cast_natCast, Rat.floor_intCast, Int.toNat_natCast]
  simp only [pythonCodec, String.toList_ofList, hmicroseconds,
    Calendar.fromisoformat_isoformat hn]

theorem Storable.inverse {snapshot : OrderBookSnapshot} (h : Storable repr snapshot) :
    (pythonCodec repr).Inverse snapshot where
  json := loads_dumps_toJson (printable_payload _ h.levels)
  datetime := fromisoformat_isoformat h.timestamp

/-! ### The cache -/

def pythonCache (repr : ℚ → List Char) (ttlSeconds : ℕ) : TextCache :=
  ⟨pythonCodec repr, ttlSeconds⟩

/-- What the callers of the cache set: a snapshot of a feed, of an exchange whose name has
no colon. -/
def Feeds (repr : ℚ → List Char) (history : List CacheOp) : Prop :=
  ∀ snapshot, .set snapshot ∈ history → Storable repr snapshot ∧ ':' ∉ snapshot.exchange.toList

theorem entries_of_history {cache : TextCache} {redis : TextServer} {history : List CacheOp}
    {key text : String} {deadline : ℚ}
    (h : (history.foldl cache.step redis).entries key = some (text, deadline)) :
    redis.entries key = some (text, deadline) ∨
      ∃ snapshot, .set snapshot ∈ history ∧ text = cache.codec.snapshotToJson snapshot := by
  induction history generalizing redis with
  | nil => exact .inl h
  | cons op history ih =>
    obtain hentry | ⟨snapshot, hmem, htext⟩ := ih h
    · cases op with
      | advance dt => exact .inl hentry
      | set snapshot =>
        simp only [TextCache.step, TextCache.setSnapshot, Store.Server.set] at hentry
        by_cases hkey : key = cacheKey snapshot.exchange snapshot.symbol
        · rw [hkey, Function.update_self] at hentry
          cases hentry
          exact .inr ⟨snapshot, List.mem_cons_self .., rfl⟩
        · rw [Function.update_of_ne hkey] at hentry
          exact .inl hentry
    · exact .inr ⟨snapshot, List.mem_cons_of_mem _ hmem, htext⟩

end

/-! ### A book of whole numbers -/

/-- The digits of a number and a zero after the point. -/
def wholeNumeral (n : ℕ) : Numeral where
  negative := false
  whole := Nat.toDigits 10 n
  part := ['0']
  exponent := none
  whole_digits := fun _ hc => Nat.isDigit_of_mem_toDigits (by decide) (by decide) hc
  whole_ne_nil := List.ne_nil_of_length_pos Nat.length_toDigits_pos
  no_leading_zero := fun h => by rw [Json.toDigits_head h, Nat.toDigits_zero]
  part_digits := fun _ hc => List.mem_singleton.mp hc ▸ rfl
  exponent_digits := nofun
  not_whole := .inl nofun

/-- `float.__repr__` of a whole number. -/
def wholeRepr (q : ℚ) : List Char := (wholeNumeral q.num.natAbs).text

theorem printsFloat_whole (n : ℕ) : PrintsFloat wholeRepr n := by
  refine ⟨wholeNumeral n, congrArg (fun m => (wholeNumeral m).text) rfl, ?_⟩
  have hdigits : Json.ofDigits (Nat.toDigits 10 n ++ ['0']) = 10 * n := by
    rw [Json.ofDigits, List.foldl_append]
    exact congrArg (fun m => 10 * m + 0) Nat.ofDigitChars_ten_toDigits
  simp only [Numeral.value, wholeNumeral, hdigits, Numeral.scale]
  norm_num
  ring

theorem storable_whole {snapshot : OrderBookSnapshot} (htimestamp : IsDatetime snapshot.timestamp)
    (hwhole : ∀ lvl ∈ snapshot.bids ++ snapshot.asks,
      lvl.price = ⌊lvl.price⌋₊ ∧ lvl.volume = ⌊lvl.volume⌋₊) : Storable wholeRepr snapshot where
  timestamp := htimestamp
  levels lvl hlvl := by
    obtain ⟨hprice, hvolume⟩ := hwhole lvl hlvl
    rw [hprice, hvolume]
    exact ⟨printsFloat_whole _, printsFloat_whole _⟩

theorem storable_sampleBook : Storable wholeRepr TextCache.sampleBook :=
  storable_whole ⟨63839664000000000, by decide,
    by norm_num [TextCache.sampleBook, timestampOf, epoch]⟩ (by decide +kernel)

end BimodalArbitrage.Marketdata
