import BimodalArbitrage.Json.Numeral
import Mathlib.Data.List.Chain

/-!
# Printing strings

Only printable ASCII is printed as it is. A code point beyond the sixteen bits of an escape
is printed as the two escapes of a surrogate pair, which is where a text that has the two
halves as code points of its own is not read back.
-/

namespace Json

def escapeUnit (n : ℕ) : List Char :=
  ['\\', 'u', Nat.digitChar (n / 4096 % 16), Nat.digitChar (n / 256 % 16),
    Nat.digitChar (n / 16 % 16), Nat.digitChar (n % 16)]

/-- The units of a code point in UTF-16. -/
def unitsOf (n : ℕ) : List ℕ :=
  if n < 0x10000 then [n]
  else [0xD800 + (n - 0x10000) / 0x400, 0xDC00 + (n - 0x10000) % 0x400]

def shortEscape : ℕ → Option Char
  | 34 => some '"'
  | 92 => some '\\'
  | 8 => some 'b'
  | 12 => some 'f'
  | 10 => some 'n'
  | 13 => some 'r'
  | 9 => some 't'
  | _ => none

def printPoint (n : ℕ) : List Char :=
  match shortEscape n with
  | some c => ['\\', c]
  | none =>
    if 32 ≤ n ∧ n ≤ 126 then [Char.ofNat n] else (unitsOf n).flatMap escapeUnit

def printString (s : List ℕ) : List Char := '"' :: s.flatMap printPoint ++ ['"']

def High (n : ℕ) : Prop := 0xD800 ≤ n ∧ n < 0xDC00

def Low (n : ℕ) : Prop := 0xDC00 ≤ n ∧ n < 0xE000

/-- No half of a surrogate pair is followed by its other half. -/
def NoSplitPair (s : List ℕ) : Prop := s.IsChain fun a b => ¬(High a ∧ Low b)

/-- The string that is read where `s` was printed. -/
def reread (s : List ℕ) : List ℕ := joinSurrogates (s.flatMap unitsOf)

/-! ### Reading escapes -/

section
variable {cs : List Char} {units : List ℕ} {n : ℕ}

theorem hexDigit_digitChar {d : ℕ} (hd : d < 16) : hexDigit (Nat.digitChar d) = some d := by
  have hall : ∀ m : Fin 16, hexDigit (Nat.digitChar m) = some m.val := by decide
  exact hall ⟨d, hd⟩

theorem stringUnits_escapeUnit (hn : n < 0x10000) :
    stringUnits (escapeUnit n ++ cs) =
      (stringUnits cs).map fun (units, rest) => (n :: units, rest) := by
  have hhex : hexFour (Nat.digitChar (n / 4096 % 16)) (Nat.digitChar (n / 256 % 16))
      (Nat.digitChar (n / 16 % 16)) (Nat.digitChar (n % 16)) = some n := by
    simp only [hexFour, hexDigit_digitChar (Nat.mod_lt _ (by decide : 0 < 16)),
      Option.bind_eq_bind, Option.bind_some, Option.pure_def, Option.some.injEq]
    omega
  simp only [escapeUnit, List.cons_append, List.nil_append, stringUnits, hhex,
    Option.bind_eq_bind, Option.bind_some]
  cases stringUnits cs <;> rfl

theorem stringUnits_short {c : Char} (hc : c ≠ 'u') (hescape : escape c = some n) :
    stringUnits ('\\' :: c :: cs) =
      (stringUnits cs).map fun (units, rest) => (n :: units, rest) := by
  rw [stringUnits]
  · rw [hescape]
    cases stringUnits cs <;> rfl
  · rintro _ _ _ _ _ rfl
    exact fun _ => hc rfl

theorem stringUnits_plain {c : Char} (hquote : c ≠ '"') (hbackslash : c ≠ '\\')
    (hprintable : 32 ≤ c.toNat) :
    stringUnits (c :: cs) =
      (stringUnits cs).map fun (units, rest) => (c.toNat :: units, rest) := by
  have hcontrol : (c.toNat < 32 || c == '\\') = false := by
    simp [hbackslash, Nat.not_lt.mpr hprintable]
  rw [stringUnits, hcontrol]
  · cases stringUnits cs <;> rfl
  · exact fun h => hquote h
  · rintro a b c d cs h
    exact absurd h hbackslash
  · rintro d cs h
    exact absurd h hbackslash

theorem toNat_ofNat_printable (hprintable : 32 ≤ n ∧ n ≤ 126) : (Char.ofNat n).toNat = n := by
  have hvalid : n.isValidChar := .inl (by omega)
  rw [Char.ofNat, dif_pos hvalid]
  rfl

theorem shortEscape_spec {c : Char} (h : shortEscape n = some c) :
    n < 0x10000 ∧ c ≠ 'u' ∧ escape c = some n := by
  unfold shortEscape at h
  split at h
  all_goals
    cases h
    try decide

theorem stringUnits_printPoint (hn : n < 0x110000) :
    stringUnits (printPoint n ++ cs) =
      (stringUnits cs).map fun (units, rest) => (unitsOf n ++ units, rest) := by
  have hsmall : n < 0x10000 → unitsOf n = [n] := fun h => if_pos h
  unfold printPoint
  split
  next c hshort =>
    obtain ⟨hbmp, hu, hescape⟩ := shortEscape_spec hshort
    rw [hsmall hbmp]
    exact stringUnits_short hu hescape
  next hshort =>
    split
    next hprintable =>
      have htoNat := toNat_ofNat_printable hprintable
      have hquote : Char.ofNat n ≠ '"' := by
        intro h
        rw [← htoNat, h] at hshort
        cases hshort
      have hbackslash : Char.ofNat n ≠ '\\' := by
        intro h
        rw [← htoNat, h] at hshort
        cases hshort
      have hplain : stringUnits (Char.ofNat n :: cs) = _ :=
        stringUnits_plain hquote hbackslash (by rw [htoNat]; exact hprintable.1)
      rw [htoNat] at hplain
      rw [hsmall (by omega)]
      exact hplain
    next =>
      by_cases hbmp : n < 0x10000
      · rw [hsmall hbmp, List.flatMap_singleton]
        exact stringUnits_escapeUnit hbmp
      · rw [unitsOf, if_neg hbmp, List.flatMap_cons, List.flatMap_singleton, List.append_assoc,
          stringUnits_escapeUnit (by omega), stringUnits_escapeUnit (by omega), Option.map_map]
        rfl

theorem stringUnits_printString {s : List ℕ} (hs : ∀ n ∈ s, n < 0x110000) (rest : List Char) :
    stringUnits (s.flatMap printPoint ++ '"' :: rest) = some (s.flatMap unitsOf, rest) := by
  induction s with
  | nil => rfl
  | cons n s ih =>
    rw [List.flatMap_cons, List.append_assoc, stringUnits_printPoint (hs n (List.mem_cons_self ..)),
      ih fun m hm => hs m (List.mem_cons_of_mem _ hm), List.flatMap_cons]
    rfl

theorem string_printString {s : List ℕ} (hs : ∀ n ∈ s, n < 0x110000) (rest : List Char) :
    string (s.flatMap printPoint ++ '"' :: rest) = some (reread s, rest) := by
  rw [string, stringUnits_printString hs]
  rfl

end

/-! ### Surrogates -/

theorem reread_cons_beyond {n : ℕ} {s : List ℕ} (hn : ¬n < 0x10000) (hmax : n < 0x110000) :
    reread (n :: s) = n :: reread s := by
  have hpair : 0xD800 ≤ 0xD800 + (n - 0x10000) / 0x400 ∧ 0xD800 + (n - 0x10000) / 0x400 < 0xDC00 ∧
      0xDC00 ≤ 0xDC00 + (n - 0x10000) % 0x400 ∧ 0xDC00 + (n - 0x10000) % 0x400 < 0xE000 := by
    omega
  have hjoined : 0x10000 + (0xD800 + (n - 0x10000) / 0x400 - 0xD800) * 0x400 +
      (0xDC00 + (n - 0x10000) % 0x400 - 0xDC00) = n := by
    omega
  rw [reread, List.flatMap_cons, unitsOf, if_neg hn, List.cons_append, List.cons_append,
    List.nil_append, joinSurrogates, if_pos hpair, hjoined]
  rfl

theorem reread_cons_pair {n m : ℕ} {s : List ℕ} (hn : High n) (hm : Low m) :
    reread (n :: m :: s) = (0x10000 + (n - 0xD800) * 0x400 + (m - 0xDC00)) :: reread s := by
  have hunits : unitsOf n = [n] := if_pos (by have := hn.2; omega)
  have hunits' : unitsOf m = [m] := if_pos (by have := hm.2; omega)
  rw [reread, List.flatMap_cons, List.flatMap_cons, hunits, hunits', List.singleton_append,
    List.singleton_append, joinSurrogates, if_pos ⟨hn.1, hn.2, hm.1, hm.2⟩]
  rfl

theorem reread_cons {n : ℕ} {s : List ℕ} (hn : n < 0x10000) (hmax : ∀ m ∈ s, m < 0x110000)
    (hs : ∀ m ∈ s.head?, ¬(High n ∧ Low m)) : reread (n :: s) = n :: reread s := by
  have hunits : unitsOf n = [n] := if_pos hn
  rw [reread, reread, List.flatMap_cons, hunits, List.singleton_append]
  cases s with
  | nil => rfl
  | cons m s =>
    have hm := hmax m (List.mem_cons_self ..)
    obtain ⟨first, later, hfirst, hlow⟩ : ∃ first later, unitsOf m = first :: later ∧
        (Low first → Low m) := by
      unfold unitsOf
      split
      · exact ⟨_, _, rfl, id⟩
      · exact ⟨_, _, rfl, fun h => absurd h.1 (by omega)⟩
    have hnot : ¬(0xD800 ≤ n ∧ n < 0xDC00 ∧ 0xDC00 ≤ first ∧ first < 0xE000) :=
      fun h => hs m rfl ⟨⟨h.1, h.2.1⟩, hlow h.2.2⟩
    rw [List.flatMap_cons, hfirst, List.cons_append, joinSurrogates, if_neg hnot]

/-- A string is read back as it was, but for split pairs. -/
theorem reread_eq_iff {s : List ℕ} (hs : ∀ n ∈ s, n < 0x110000) :
    reread s = s ↔ NoSplitPair s := by
  induction s with
  | nil => exact iff_of_true rfl .nil
  | cons n s ih =>
    have hn := hs n (List.mem_cons_self ..)
    have hrest : ∀ m ∈ s, m < 0x110000 := fun m hm => hs m (List.mem_cons_of_mem _ hm)
    have hkept : (∀ m ∈ s.head?, ¬(High n ∧ Low m)) → reread (n :: s) = n :: reread s := by
      intro hhead
      by_cases hbmp : n < 0x10000
      · exact reread_cons hbmp hrest hhead
      · exact reread_cons_beyond hbmp hn
    rw [NoSplitPair, List.isChain_cons]
    by_cases hhead : ∀ m ∈ s.head?, ¬(High n ∧ Low m)
    · rw [hkept hhead, List.cons.injEq, ih hrest]
      exact ⟨fun h => ⟨hhead, h.2⟩, fun h => ⟨rfl, h.2⟩⟩
    · refine iff_of_false (fun h => ?_) fun h => hhead h.1
      cases s with
      | nil => exact hhead nofun
      | cons m s =>
        have hpair : High n ∧ Low m := by
          by_contra hnot
          refine hhead fun m' hm' => ?_
          cases hm'
          exact hnot
        rw [reread_cons_pair hpair.1 hpair.2] at h
        have hfirst := (List.cons.inj h).1
        have hhigh := hpair.1.2
        omega

end Json
