import BimodalArbitrage.Json.Text
import Mathlib.Data.List.Basic
import Mathlib.Data.List.TakeDrop

/-!
# Numerals

What is printed of a number is read back as that number, and as no more than it.
-/

namespace Json

/-- Nothing here goes on with a number. -/
def Stops (cs : List Char) : Prop :=
  ∀ c ∈ cs.head?, c.isDigit = false ∧ c ≠ '.' ∧ c ≠ 'e' ∧ c ≠ 'E'

/-- A decimal numeral with a fraction, an exponent or both; the sign of the exponent is
always printed. -/
structure Numeral where
  negative : Bool
  whole : List Char
  part : List Char
  exponent : Option (Bool × List Char)
  whole_digits : ∀ c ∈ whole, c.isDigit = true
  whole_ne_nil : whole ≠ []
  no_leading_zero : whole.head? = some '0' → whole = ['0']
  part_digits : ∀ c ∈ part, c.isDigit = true
  exponent_digits : ∀ e ∈ exponent, e.2 ≠ [] ∧ ∀ c ∈ e.2, c.isDigit = true
  not_whole : part ≠ [] ∨ exponent ≠ none

namespace Numeral

def scale : Option (Bool × List Char) → ℤ
  | none => 0
  | some (negative, digits) => if negative then -(ofDigits digits : ℤ) else ofDigits digits

def value (n : Numeral) : ℚ :=
  (if n.negative then (-1 : ℤ) else 1 : ℤ) * ofDigits (n.whole ++ n.part) *
    10 ^ (scale n.exponent - n.part.length)

def partText (part : List Char) : List Char := if part = [] then [] else '.' :: part

def exponentText : Option (Bool × List Char) → List Char
  | none => []
  | some (negative, digits) => 'e' :: (if negative then '-' else '+') :: digits

def unsignedText (n : Numeral) : List Char :=
  n.whole ++ partText n.part ++ exponentText n.exponent

def text (n : Numeral) : List Char :=
  if n.negative then '-' :: n.unsignedText else n.unsignedText

end Numeral

/-- A whole number. -/
def intText (n : ℤ) : List Char :=
  if n < 0 then '-' :: Nat.toDigits 10 n.natAbs else Nat.toDigits 10 n.natAbs

/-! ### Reading digits -/

section
variable {ds rest : List Char}

theorem Stops.head (h : Stops rest) : ∀ c ∈ rest.head?, c.isDigit = false :=
  fun c hc => (h c hc).1

theorem takeWhile_digits (hds : ∀ c ∈ ds, c.isDigit = true)
    (hrest : ∀ c ∈ rest.head?, c.isDigit = false) :
    (ds ++ rest).takeWhile Char.isDigit = ds := by
  rw [List.takeWhile_append_of_pos hds]
  cases rest with
  | nil => exact List.append_nil ds
  | cons c rest => simp [hrest c rfl]

theorem dropWhile_digits (hds : ∀ c ∈ ds, c.isDigit = true)
    (hrest : ∀ c ∈ rest.head?, c.isDigit = false) :
    (ds ++ rest).dropWhile Char.isDigit = rest := by
  rw [List.dropWhile_append_of_pos hds]
  cases rest with
  | nil => rfl
  | cons c rest => simp [hrest c rfl]

theorem span_digits (hds : ∀ c ∈ ds, c.isDigit = true)
    (hrest : ∀ c ∈ rest.head?, c.isDigit = false) :
    (ds ++ rest).span Char.isDigit = (ds, rest) := by
  rw [List.span_eq_takeWhile_dropWhile, takeWhile_digits hds hrest, dropWhile_digits hds hrest]

theorem integer_append (hds : ∀ c ∈ ds, c.isDigit = true) (hne : ds ≠ [])
    (hzero : ds.head? = some '0' → ds = ['0'])
    (hrest : ∀ c ∈ rest.head?, c.isDigit = false) : integer (ds ++ rest) = some (ds, rest) := by
  unfold integer
  split
  next rest' heq =>
    have hhead : ds.head? = some '0' := by
      cases ds with
      | nil => exact absurd rfl hne
      | cons c ds => exact congrArg some (List.cons.inj heq).1
    rw [hzero hhead] at heq ⊢
    cases heq
    rfl
  next =>
    rw [span_digits hds hrest]
    cases ds with
    | nil => exact absurd rfl hne
    | cons c ds => rfl

theorem fraction_append (part : List Char) (hpart : ∀ c ∈ part, c.isDigit = true)
    (hrest : ∀ c ∈ rest.head?, c.isDigit = false ∧ c ≠ '.') :
    fraction (Numeral.partText part ++ rest) = (part, rest) := by
  unfold Numeral.partText
  split
  next hnil =>
    rw [hnil, List.nil_append]
    unfold fraction
    split
    next => exact absurd rfl (hrest '.' rfl).2
    next => rfl
  next hne =>
    rw [List.cons_append, fraction, span_digits hpart fun c hc => (hrest c hc).1]
    cases part with
    | nil => exact absurd rfl hne
    | cons c part => rfl

theorem exponent_none (hrest : Stops rest) : exponent rest = (none, rest) := by
  cases rest with
  | nil => rfl
  | cons c rest =>
    obtain ⟨-, -, he, hE⟩ := hrest c rfl
    simp [exponent, he, hE]

theorem exponent_some {negative : Bool} {digits : List Char} (hne : digits ≠ [])
    (hdigits : ∀ c ∈ digits, c.isDigit = true)
    (hrest : ∀ c ∈ rest.head?, c.isDigit = false) :
    exponent (Numeral.exponentText (some (negative, digits)) ++ rest) =
      (some (Numeral.scale (some (negative, digits))), rest) := by
  have htake := takeWhile_digits hdigits hrest
  have hdrop := dropWhile_digits hdigits hrest
  cases negative with
  | true => simp [exponent, Numeral.exponentText, Numeral.scale, htake, hdrop, hne]
  | false => simp [exponent, Numeral.exponentText, Numeral.scale, htake, hdrop, hne]

end

/-! ### Reading numerals -/

section
variable {rest : List Char}

theorem exponent_text (n : Numeral) (hrest : Stops rest) :
    exponent (Numeral.exponentText n.exponent ++ rest) =
      (n.exponent.map fun e => Numeral.scale (some e), rest) := by
  cases hexp : n.exponent with
  | none => exact exponent_none hrest
  | some e =>
    obtain ⟨hne, hdigits⟩ := n.exponent_digits e hexp
    exact exponent_some hne hdigits hrest.head

theorem exponentText_head (e : Option (Bool × List Char)) (hrest : Stops rest) :
    ∀ c ∈ (Numeral.exponentText e ++ rest).head?, c.isDigit = false ∧ c ≠ '.' := by
  cases e with
  | none => exact fun c hc => ⟨(hrest c hc).1, (hrest c hc).2.1⟩
  | some e =>
    rintro c ⟨⟩
    decide

theorem partText_head (part : List Char) (hrest : ∀ c ∈ rest.head?, c.isDigit = false) :
    ∀ c ∈ (Numeral.partText part ++ rest).head?, c.isDigit = false := by
  unfold Numeral.partText
  split
  next => exact hrest
  next =>
    rintro c ⟨⟩
    decide

theorem number_numeral (n : Numeral) (sign : ℤ) (hrest : Stops rest) :
    number sign (n.unsignedText ++ rest) =
      some (.float (sign * ofDigits (n.whole ++ n.part) *
        10 ^ (Numeral.scale n.exponent - n.part.length)), rest) := by
  have hexponent := exponentText_head n.exponent hrest
  have hpart := partText_head n.part fun c hc => (hexponent c hc).1
  simp only [Numeral.unsignedText, List.append_assoc, number,
    integer_append n.whole_digits n.whole_ne_nil n.no_leading_zero hpart, Option.bind_eq_bind,
    Option.bind_some, fraction_append n.part n.part_digits hexponent, exponent_text n hrest]
  cases hexp : n.exponent with
  | none =>
    have hne : n.part ≠ [] := n.not_whole.resolve_right fun h => h hexp
    cases hdigits : n.part with
    | nil => exact absurd hdigits hne
    | cons c part => rfl
  | some e => cases n.part <;> rfl

theorem number_whole {ds : List Char} (hds : ∀ c ∈ ds, c.isDigit = true) (hne : ds ≠ [])
    (hzero : ds.head? = some '0' → ds = ['0']) (sign : ℤ) (hrest : Stops rest) :
    number sign (ds ++ rest) = some (.int (sign * ofDigits ds), rest) := by
  have hfraction : fraction rest = ([], rest) :=
    fraction_append [] nofun fun c hc => ⟨(hrest c hc).1, (hrest c hc).2.1⟩
  simp only [number, integer_append hds hne hzero hrest.head, Option.bind_eq_bind,
    Option.bind_some, hfraction, exponent_none hrest]
  rfl

/-! ### Reading scalars -/

theorem not_constant {c : Char} (hc : c.isDigit = true) (cs : List Char) :
    constants.find? (fun (word, _) => word.toList.isPrefixOf (c :: cs)) = none := by
  have hn : c ≠ 'n' := by rintro rfl; simp at hc
  have ht : c ≠ 't' := by rintro rfl; simp at hc
  have hf : c ≠ 'f' := by rintro rfl; simp at hc
  have hN : c ≠ 'N' := by rintro rfl; simp at hc
  have hI : c ≠ 'I' := by rintro rfl; simp at hc
  have hminus : c ≠ '-' := by rintro rfl; simp at hc
  simp [constants, hn.symm, ht.symm, hf.symm, hN.symm, hI.symm, hminus.symm]

theorem not_constant_minus {c : Char} (hc : c.isDigit = true) (cs : List Char) :
    constants.find? (fun (word, _) => word.toList.isPrefixOf ('-' :: c :: cs)) = none := by
  have hI : c ≠ 'I' := by rintro rfl; simp at hc
  simp [constants, hI.symm]

theorem scalar_unsigned {c : Char} (hc : c.isDigit = true) (cs : List Char) :
    scalar (c :: cs) = number 1 (c :: cs) := by
  rw [scalar, not_constant hc]
  rintro tail ⟨⟩
  simp at hc

theorem scalar_minus {c : Char} (hc : c.isDigit = true) (cs : List Char) :
    scalar ('-' :: c :: cs) = number (-1) (c :: cs) := by
  rw [scalar, not_constant_minus hc]

theorem Numeral.unsignedText_cons (n : Numeral) :
    ∃ c cs, n.unsignedText = c :: cs ∧ c.isDigit = true := by
  obtain ⟨c, whole, hwhole⟩ := List.exists_cons_of_ne_nil n.whole_ne_nil
  refine ⟨c, whole ++ partText n.part ++ exponentText n.exponent, ?_, ?_⟩
  · rw [unsignedText, hwhole]
    rfl
  · exact n.whole_digits c (hwhole ▸ List.mem_cons_self ..)

theorem scalar_numeral (n : Numeral) (hrest : Stops rest) :
    scalar (n.text ++ rest) = some (.float n.value, rest) := by
  obtain ⟨c, cs, htext, hc⟩ := n.unsignedText_cons
  have hnumber := number_numeral n (if n.negative then -1 else 1) hrest
  cases hsign : n.negative with
  | true =>
    rw [Numeral.text, hsign, if_pos rfl, htext, List.cons_append, List.cons_append, scalar_minus hc,
      Numeral.value, hsign, ← List.cons_append, ← htext]
    simpa [hsign] using hnumber
  | false =>
    rw [Numeral.text, hsign, if_neg Bool.false_ne_true, htext, List.cons_append, scalar_unsigned hc,
      Numeral.value, hsign, ← List.cons_append, ← htext]
    simpa [hsign] using hnumber

theorem toDigits_head {n : ℕ} (h : (Nat.toDigits 10 n).head? = some '0') : n = 0 := by
  induction n using Nat.strongRecOn with
  | _ n ih =>
    by_cases hn : n < 10
    · rw [Nat.toDigits_of_lt_base hn] at h
      exact Nat.digitChar_eq_zero.mp (Option.some.inj h)
    · rw [Nat.toDigits_of_base_le (by decide) (by omega), List.head?_append_of_ne_nil _
        (List.ne_nil_of_length_pos Nat.length_toDigits_pos)] at h
      have hdiv := ih (n / 10) (by omega) h
      omega

theorem scalar_int (n : ℤ) (hrest : Stops rest) :
    scalar (intText n ++ rest) = some (.int n, rest) := by
  have hds : ∀ c ∈ Nat.toDigits 10 n.natAbs, c.isDigit = true :=
    fun c hc => Nat.isDigit_of_mem_toDigits (by decide) (by decide) hc
  have hne : Nat.toDigits 10 n.natAbs ≠ [] := List.ne_nil_of_length_pos Nat.length_toDigits_pos
  have hzero : (Nat.toDigits 10 n.natAbs).head? = some '0' → Nat.toDigits 10 n.natAbs = ['0'] :=
    fun h => by rw [toDigits_head h, Nat.toDigits_zero]
  have hvalue : ofDigits (Nat.toDigits 10 n.natAbs) = n.natAbs := Nat.ofDigitChars_ten_toDigits
  obtain ⟨c, cs, htext⟩ := List.exists_cons_of_ne_nil hne
  have hc : c.isDigit = true := hds c (htext ▸ List.mem_cons_self ..)
  rw [intText]
  split
  next hneg =>
    rw [htext, List.cons_append, List.cons_append, scalar_minus hc, ← List.cons_append, ← htext,
      number_whole hds hne hzero _ hrest, hvalue]
    exact congrArg (fun m => some (Value.int m, rest)) (by omega)
  next hneg =>
    rw [htext, List.cons_append, scalar_unsigned hc, ← List.cons_append, ← htext,
      number_whole hds hne hzero _ hrest, hvalue]
    exact congrArg (fun m => some (Value.int m, rest)) (by omega)

end
end Json
