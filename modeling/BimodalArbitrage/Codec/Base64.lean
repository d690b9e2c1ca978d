import Mathlib.Data.List.Basic
import Mathlib.Data.Nat.Basic

/-!
# Base 64

Three bytes are four digits of six bits. A last group of one or two bytes is padded. What
the unused bits of its last digit hold is left to the encoder.
-/

namespace Codec.Base64

def pad : Char := '='

def digit (n : ℕ) : Char :=
  if n < 26 then Char.ofNat (65 + n)
  else if n < 52 then Char.ofNat (71 + n)
  else if n < 62 then Char.ofNat (n - 4)
  else if n = 62 then '+' else '/'

def value (c : Char) : Option ℕ :=
  if 65 ≤ c.toNat ∧ c.toNat ≤ 90 then some (c.toNat - 65)
  else if 97 ≤ c.toNat ∧ c.toNat ≤ 122 then some (c.toNat - 71)
  else if 48 ≤ c.toNat ∧ c.toNat ≤ 57 then some (c.toNat + 4)
  else if c = '+' then some 62
  else if c = '/' then some 63
  else none

theorem value_pad : value pad = none := by decide

theorem value_digit {n : ℕ} (h : n < 64) : value (digit n) = some n := by
  have hall : ∀ m : Fin 64, value (digit m) = some m.val := by decide
  exact hall ⟨n, h⟩

theorem digit_ne_pad {n : ℕ} (h : n < 64) : digit n ≠ pad := by
  intro heq
  have hvalue := value_digit h
  rw [heq, value_pad] at hvalue
  cases hvalue

/-! ### Groups -/

/-- The number that three bytes make. -/
def group (a b c : UInt8) : ℕ := a.toNat * 65536 + b.toNat * 256 + c.toNat

def digits (n : ℕ) : List Char :=
  [digit (n / 262144), digit (n / 4096 % 64), digit (n / 64 % 64), digit (n % 64)]

def bytes (n : ℕ) : List UInt8 :=
  [UInt8.ofNat (n / 65536), UInt8.ofNat (n / 256 % 256), UInt8.ofNat (n % 256)]

theorem group_lt (a b c : UInt8) : group a b c < 16777216 := by
  have ha := a.toNat_lt
  have hb := b.toNat_lt
  have hc := c.toNat_lt
  unfold group
  omega

theorem bytes_group (a b c : UInt8) : bytes (group a b c) = [a, b, c] := by
  have hb := b.toNat_lt
  have hc := c.toNat_lt
  have hfirst : group a b c / 65536 = a.toNat := by
    unfold group
    omega
  have hsecond : group a b c / 256 % 256 = b.toNat := by
    unfold group
    omega
  have hthird : group a b c % 256 = c.toNat := by
    unfold group
    omega
  simp only [bytes, hfirst, hsecond, hthird, UInt8.ofNat_toNat]

/-- A number is put together again from its digits. -/
theorem digits_sum (n : ℕ) :
    n / 262144 * 262144 + n / 4096 % 64 * 4096 + n / 64 % 64 * 64 + n % 64 = n := by
  omega

/-! ### Texts -/

def encode : List UInt8 → List Char
  | [] => []
  | [a] => (digits (group a 0 0)).take 2 ++ [pad, pad]
  | [a, b] => (digits (group a b 0)).take 3 ++ [pad]
  | a :: b :: c :: rest => digits (group a b c) ++ encode rest

def decode : List Char → Option (List UInt8)
  | [] => some []
  | c₁ :: c₂ :: c₃ :: c₄ :: rest =>
    if c₃ = pad ∧ c₄ = pad ∧ rest = [] then do
      let i ← value c₁
      let j ← value c₂
      pure ((bytes (i * 262144 + j * 4096)).take 1)
    else if c₄ = pad ∧ rest = [] then do
      let i ← value c₁
      let j ← value c₂
      let k ← value c₃
      pure ((bytes (i * 262144 + j * 4096 + k * 64)).take 2)
    else do
      let i ← value c₁
      let j ← value c₂
      let k ← value c₃
      let m ← value c₄
      let tail ← decode rest
      pure (bytes (i * 262144 + j * 4096 + k * 64 + m) ++ tail)
  | _ => none

theorem mem_digits {c : Char} {n : ℕ} (hn : n < 16777216) (h : c ∈ digits n) :
    ∃ m < 64, c = digit m := by
  simp only [digits, List.mem_cons, List.not_mem_nil, or_false] at h
  rcases h with rfl | rfl | rfl | rfl
  · exact ⟨_, by omega, rfl⟩
  · exact ⟨_, Nat.mod_lt _ (by decide), rfl⟩
  · exact ⟨_, Nat.mod_lt _ (by decide), rfl⟩
  · exact ⟨_, Nat.mod_lt _ (by decide), rfl⟩

theorem mem_encode {c : Char} {bs : List UInt8} (h : c ∈ encode bs) :
    c = pad ∨ ∃ n < 64, c = digit n := by
  induction bs using encode.induct with
  | case1 => exact absurd h List.not_mem_nil
  | case2 a =>
    rcases List.mem_append.mp h with h | h
    · exact .inr (mem_digits (group_lt a 0 0) (List.mem_of_mem_take h))
    · exact .inl (by simpa using h)
  | case3 a b =>
    rcases List.mem_append.mp h with h | h
    · exact .inr (mem_digits (group_lt a b 0) (List.mem_of_mem_take h))
    · exact .inl (List.mem_singleton.mp h)
  | case4 a b c rest ih =>
    rcases List.mem_append.mp h with h | h
    · exact .inr (mem_digits (group_lt a b c) h)
    · exact ih h

theorem decode_full {a b c : UInt8} (rest : List Char) :
    decode (digits (group a b c) ++ rest) = (decode rest).map ([a, b, c] ++ ·) := by
  have hlt := group_lt a b c
  have hlast : digit (group a b c % 64) ≠ pad := digit_ne_pad (Nat.mod_lt _ (by decide))
  have hhigh : group a b c / 262144 < 64 := by omega
  simp only [digits, List.cons_append, List.nil_append, decode, hlast, false_and, and_false,
    if_false]
  rw [value_digit hhigh, value_digit (Nat.mod_lt _ (by decide)),
    value_digit (Nat.mod_lt _ (by decide)), value_digit (Nat.mod_lt _ (by decide))]
  simp only [Option.bind_eq_bind, Option.bind_some, digits_sum, bytes_group]
  cases decode rest <;> rfl

theorem decode_one (a : UInt8) :
    decode ((digits (group a 0 0)).take 2 ++ [pad, pad]) = some [a] := by
  have hlt := group_lt a 0 0
  have hhigh : group a 0 0 / 262144 < 64 := by omega
  have hsum : group a 0 0 / 262144 * 262144 + group a 0 0 / 4096 % 64 * 4096 = group a 0 0 := by
    have hzero : (0 : UInt8).toNat = 0 := rfl
    unfold group
    omega
  simp only [digits, List.take_succ_cons, List.take_zero, List.cons_append, List.nil_append, decode,
    and_self, if_true, value_digit hhigh, value_digit (Nat.mod_lt _ (Nat.succ_pos 63)),
    Option.bind_eq_bind, Option.bind_some, hsum, bytes_group]
  rfl

theorem decode_two (a b : UInt8) :
    decode ((digits (group a b 0)).take 3 ++ [pad]) = some [a, b] := by
  have hlt := group_lt a b 0
  have hhigh : group a b 0 / 262144 < 64 := by omega
  have hthird : digit (group a b 0 / 64 % 64) ≠ pad := digit_ne_pad (Nat.mod_lt _ (by decide))
  have hsum : group a b 0 / 262144 * 262144 + group a b 0 / 4096 % 64 * 4096 +
      group a b 0 / 64 % 64 * 64 = group a b 0 := by
    have hzero : (0 : UInt8).toNat = 0 := rfl
    unfold group
    omega
  simp only [digits, List.take_succ_cons, List.take_zero, List.cons_append, List.nil_append, decode,
    hthird, false_and, and_self, if_true, if_false, value_digit hhigh,
    value_digit (Nat.mod_lt _ (Nat.succ_pos 63)), Option.bind_eq_bind, Option.bind_some, hsum,
    bytes_group]
  rfl

theorem decode_encode (bs : List UInt8) : decode (encode bs) = some bs := by
  induction bs using encode.induct with
  | case1 => rfl
  | case2 a => exact decode_one a
  | case3 a b => exact decode_two a b
  | case4 a b c rest ih =>
    rw [encode, decode_full, ih]
    rfl

/-- Without padding, four digits stand for three bytes. -/
theorem length_of_decode {cs : List Char} {bs : List UInt8} (h : decode cs = some bs)
    (hpad : pad ∉ cs) : 4 * bs.length = 3 * cs.length := by
  induction cs using decode.induct generalizing bs with
  | case1 =>
    cases h
    rfl
  | case2 c₁ c₂ c₃ c₄ rest hlast => exact absurd (by simp [hlast]) hpad
  | case3 c₁ c₂ c₃ c₄ rest _ hlast => exact absurd (by simp [hlast]) hpad
  | case4 c₁ c₂ c₃ c₄ rest hboth hlast ih =>
    rw [decode, if_neg hboth, if_neg hlast] at h
    simp only [Option.bind_eq_bind, Option.bind_eq_some_iff] at h
    obtain ⟨i, -, j, -, k, -, m, -, tail, htail, hbs⟩ := h
    cases hbs
    have hrest : pad ∉ rest := fun hmem => hpad (by simp [hmem])
    have hlength := ih htail hrest
    simp only [bytes, List.length_append, List.length_cons, List.length_nil]
    omega
  | case5 cs hnil hgroup =>
    rw [decode] at h
    · cases h
    · exact hnil
    · exact hgroup

example : encode [77, 97, 110, 77] = "TWFuTQ==".toList := by decide

end Codec.Base64
