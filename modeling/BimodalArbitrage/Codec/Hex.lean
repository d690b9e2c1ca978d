import Mathlib.Data.List.Basic
import Mathlib.Data.Nat.Basic

/-!
# Hexadecimal digits

Two digits a byte, of either case. ASCII white space may stand between bytes.
-/

namespace Codec.Hex

inductive LetterCase where
  | lower
  | upper

def digit (letters : LetterCase) (n : ℕ) : Char :=
  if n < 10 then Char.ofNat (48 + n)
  else match letters with
    | .lower => Char.ofNat (87 + n)
    | .upper => Char.ofNat (55 + n)

def value (c : Char) : Option ℕ :=
  if 48 ≤ c.toNat ∧ c.toNat ≤ 57 then some (c.toNat - 48)
  else if 97 ≤ c.toNat ∧ c.toNat ≤ 102 then some (c.toNat - 87)
  else if 65 ≤ c.toNat ∧ c.toNat ≤ 70 then some (c.toNat - 55)
  else none

def blank (c : Char) : Bool := c.toNat == 32 || (9 ≤ c.toNat && c.toNat ≤ 13)

theorem digit_spec (letters : LetterCase) {n : ℕ} (h : n < 16) :
    value (digit letters n) = some n ∧ blank (digit letters n) = false := by
  have hall : ∀ m : Fin 16, value (digit letters m) = some m.val ∧
      blank (digit letters m) = false := by
    cases letters <;> decide
  exact hall ⟨n, h⟩

/-! ### Texts -/

def encode (letters : LetterCase) (bs : List UInt8) : List Char :=
  bs.flatMap fun b => [digit letters (b.toNat / 16), digit letters (b.toNat % 16)]

def decode : List Char → Option (List UInt8)
  | [] => some []
  | [c] => if blank c then some [] else none
  | c :: d :: rest =>
    if blank c then decode (d :: rest)
    else do
      let high ← value c
      let low ← value d
      let tail ← decode rest
      pure (UInt8.ofNat (16 * high + low) :: tail)

theorem mem_encode {letters : LetterCase} {c : Char} {bs : List UInt8} (h : c ∈ encode letters bs) :
    ∃ n < 16, c = digit letters n := by
  obtain ⟨b, -, hc⟩ := List.mem_flatMap.mp h
  have hb := b.toNat_lt
  simp only [List.mem_cons, List.not_mem_nil, or_false] at hc
  rcases hc with rfl | rfl
  · exact ⟨_, by omega, rfl⟩
  · exact ⟨_, Nat.mod_lt _ (by decide), rfl⟩

theorem decode_encode (letters : LetterCase) (bs : List UInt8) :
    decode (encode letters bs) = some bs := by
  induction bs with
  | nil => rfl
  | cons b bs ih =>
    have hb := b.toNat_lt
    have hhigh : b.toNat / 16 < 16 := by omega
    have hlow : b.toNat % 16 < 16 := Nat.mod_lt _ (by decide)
    have hsum : 16 * (b.toNat / 16) + b.toNat % 16 = b.toNat := Nat.div_add_mod ..
    unfold encode at ih ⊢
    rw [List.flatMap_cons, List.cons_append, List.cons_append, List.nil_append, decode,
      (digit_spec letters hhigh).2, (digit_spec letters hhigh).1, (digit_spec letters hlow).1, ih]
    simp only [Bool.false_eq_true, if_false, Option.bind_eq_bind, Option.bind_some, hsum,
      UInt8.ofNat_toNat]
    rfl

/-- Every character is white space or a digit. -/
theorem of_decode {cs : List Char} {bs : List UInt8} (h : decode cs = some bs) :
    ∀ c ∈ cs, blank c = true ∨ (value c).isSome := by
  induction cs using decode.induct generalizing bs with
  | case1 => exact fun c hc => absurd hc List.not_mem_nil
  | case2 c hblank =>
    intro c' hc'
    exact .inl (List.mem_singleton.mp hc' ▸ hblank)
  | case3 c hblank =>
    rw [decode, if_neg hblank] at h
    cases h
  | case4 c d rest hblank ih =>
    rw [decode, if_pos hblank] at h
    intro c' hc'
    rcases List.mem_cons.mp hc' with rfl | hc'
    · exact .inl hblank
    · exact ih h c' hc'
  | case5 c d rest hblank ih =>
    rw [decode, if_neg hblank] at h
    simp only [Option.bind_eq_bind, Option.bind_eq_some_iff] at h
    obtain ⟨high, hhigh, low, hlow, tail, htail, -⟩ := h
    intro c' hc'
    rcases List.mem_cons.mp hc' with rfl | hc'
    · exact .inr (Option.isSome_of_eq_some hhigh)
    · rcases List.mem_cons.mp hc' with rfl | hc'
      · exact .inr (Option.isSome_of_eq_some hlow)
      · exact ih htail c' hc'

end Codec.Hex
