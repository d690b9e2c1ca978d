import Mathlib.Algebra.Order.Field.Rat
import Mathlib.Data.List.DropRight
import Mathlib.Data.List.Forall2
import Mathlib.Data.Rat.Floor
import BimodalArbitrage.Rounding.Floating
import BimodalArbitrage.Text.Trim

/-!
# What the program takes from its language

Exceptions, floats and their division and formatting, bounded deques and the two string
methods that normalise names. A definition that computes is stated over any numbers with
the operations of floats: the rationals, where nothing is rounded, and `Binary64`.
-/

namespace BimodalArbitrage

/-- The exception classes some handler of the program tells apart. -/
inductive ExceptionClass where
  | valueError
  | zeroDivisionError
  | overflowError
  | runtimeError
  | notImplementedError
  | insecureApiKeyError
  | kmsUnavailableError
  | envelopeDecryptionError
  | other
  deriving DecidableEq, Repr

def ExceptionClass.name : ExceptionClass → String
  | .valueError => "ValueError"
  | .zeroDivisionError => "ZeroDivisionError"
  | .overflowError => "OverflowError"
  | .runtimeError => "RuntimeError"
  | .notImplementedError => "NotImplementedError"
  | .insecureApiKeyError => "InsecureApiKeyError"
  | .kmsUnavailableError => "KmsUnavailableError"
  | .envelopeDecryptionError => "EnvelopeDecryptionError"
  | .other => "Exception"

structure PyError where
  cls : ExceptionClass
  message : String
  deriving DecidableEq, Repr

def valueError (message : String) : PyError := ⟨.valueError, message⟩

/-- `repr(exc)`; a message in brackets is that of an exception with two arguments. -/
def PyError.repr (e : PyError) : String :=
  if e.message.toList.head? = some '(' then e.cls.name ++ e.message
  else e.cls.name ++ "('" ++ e.message ++ "')"

theorem bind_ok {α β : Type} {x : Except PyError α} {f : α → Except PyError β} {b : β}
    (h : x >>= f = .ok b) : ∃ a, x = .ok a ∧ f a = .ok b := by
  cases x with
  | ok a => exact ⟨a, rfl, h⟩
  | error e => cases h

theorem mapM_ok_iff {α β : Type} {f : α → Except PyError β} {xs : List α} {ys : List β} :
    xs.mapM f = .ok ys ↔ List.Forall₂ (fun x y => f x = .ok y) xs ys := by
  induction xs generalizing ys with
  | nil =>
    constructor
    · intro h
      cases h
      exact .nil
    · intro h
      cases h
      rfl
  | cons x xs ih =>
    rw [List.mapM_cons]
    constructor
    · intro h
      obtain ⟨y, hy, h⟩ := bind_ok h
      obtain ⟨rest, hrest, h⟩ := bind_ok h
      cases h
      exact .cons hy (ih.mp hrest)
    · intro h
      cases h with
      | cons hy hrest =>
        rw [hy, ih.mpr hrest]
        rfl

theorem mapM_ite {α β : Type} {f : α → Except PyError β} {g : α → β} {P : α → Prop}
    [DecidablePred P] {e : PyError} (h : ∀ x, f x = if P x then .error e else .ok (g x))
    (xs : List α) :
    xs.mapM f = if ∃ x ∈ xs, P x then .error e else .ok (xs.map g) := by
  induction xs with
  | nil => rfl
  | cons x xs ih =>
    rw [List.mapM_cons, h x, ih]
    by_cases hx : P x
    · simp [hx, bind, Except.bind]
    · by_cases hrest : ∃ y ∈ xs, P y
      · simp [hx, hrest, bind, Except.bind]
      · simp [hx, hrest, bind, Except.bind, pure, Except.pure]

theorem mapM_error {α β : Type} {f : α → Except PyError β} {xs : List α} {e : PyError}
    (h : xs.mapM f = .error e) : ∃ x ∈ xs, f x = .error e := by
  induction xs with
  | nil => cases h
  | cons x xs ih =>
    rw [List.mapM_cons] at h
    cases hx : f x with
    | error raised =>
      rw [hx] at h
      cases h
      exact ⟨x, List.mem_cons_self .., hx⟩
    | ok y =>
      cases hrest : xs.mapM f with
      | error raised =>
        rw [hx, hrest] at h
        cases h
        obtain ⟨x', hx', herror⟩ := ih hrest
        exact ⟨x', List.mem_cons_of_mem _ hx', herror⟩
      | ok ys =>
        rw [hx, hrest] at h
        cases h

theorem mapM_returns {α β : Type} {f : α → Except PyError β} {xs : List α} :
    (∃ ys, xs.mapM f = .ok ys) ↔ ∀ x ∈ xs, ∃ y, f x = .ok y := by
  constructor
  · rintro ⟨ys, hys⟩ x hx
    obtain ⟨k, hk, rfl⟩ := List.getElem_of_mem hx
    have hall := mapM_ok_iff.mp hys
    have hlength := hall.length_eq
    exact ⟨_, hall.get hk (hlength ▸ hk)⟩
  · intro hall
    cases hmap : xs.mapM f with
    | ok ys => exact ⟨ys, rfl⟩
    | error e =>
      obtain ⟨x, hx, herror⟩ := mapM_error hmap
      obtain ⟨y, hy⟩ := hall x hx
      rw [herror] at hy
      cases hy

/-- `try: x except ValueError: return`; the other exceptions pass. -/
def exceptValueError {α : Type} : Except PyError α → Except PyError (Option α)
  | .ok a => .ok (some a)
  | .error e => if e.cls = .valueError then .ok none else .error e

/-! ### Floats -/

/-- Numbers that `f"{x:.nf}"` can print. -/
class FormatFixed (N : Type) where
  formatFixed : ℕ → N → String

/-- The operations of floats the program uses. -/
class PyFloat (N : Type) extends Add N, Sub N, Mul N, Div N, Neg N, Min N, Max N, LT N, LE N,
    BEq N, NatCast N, OfScientific N, FormatFixed N where
  ofNat : (n : ℕ) → OfNat N n
  decLT : DecidableLT N
  decLE : DecidableLE N
  /-- `p / q` of two integers, of which `q` is not zero. -/
  ratio : ℕ → ℕ → N
  /-- `sum(xs)`, added up from the left, as the Python 3.11 of `ci.yml` does. -/
  sum : List N → N
  /-- `x ** 2`. -/
  square : N → Except PyError N
  /-- `int(x)`: truncation toward zero. -/
  int : N → Except PyError ℤ
  /-- `math.isfinite(x)`, which holds of the numbers JSON can print. -/
  isFinite : N → Bool
  /-- The rational that `x` is; the numbers that are none count for 0. -/
  value : N → ℚ
  ofNat_zero_add : ∀ a : N, (ofNat 0).ofNat + a = a
  sum_eq_foldl : ∀ xs : List N, sum xs = xs.foldl (· + ·) (ofNat 0).ofNat
  le_of_beq : ∀ {a b : N}, (a == b) = true → a ≤ b
  le_self : ∀ {a b : N}, a ≤ b → a ≤ a ∧ b ≤ b
  not_le_of_lt : ∀ {a b : N}, a < b → ¬b ≤ a

attribute [reducible, instance] PyFloat.decLT PyFloat.decLE

instance (priority := low) {N : Type} [PyFloat N] (n : ℕ) : OfNat N n := PyFloat.ofNat n

theorem PyFloat.zero_add {N : Type} [PyFloat N] (a : N) : 0 + a = a := PyFloat.ofNat_zero_add a

theorem PyFloat.sum_singleton {N : Type} [PyFloat N] (a : N) : PyFloat.sum [a] = a :=
  (PyFloat.sum_eq_foldl [a]).trans (PyFloat.zero_add a)

theorem PyFloat.sum_snoc {N : Type} [PyFloat N] (xs : List N) (a : N) :
    PyFloat.sum (xs ++ [a]) = PyFloat.sum xs + a := by
  rw [PyFloat.sum_eq_foldl, PyFloat.sum_eq_foldl, List.foldl_append]
  rfl

/-- `a` is a number, and the very number `x`. -/
def Exactly {N : Type} [PyFloat N] (a : N) (x : ℚ) : Prop :=
  PyFloat.isFinite a = true ∧ PyFloat.value a = x

/-- `a / b`. -/
def pyDiv {N : Type} [PyFloat N] (a b : N) : Except PyError N :=
  if b == 0 then .error ⟨.zeroDivisionError, "float division by zero"⟩ else .ok (a / b)

theorem pyDiv_of_not_beq {N : Type} [PyFloat N] {a b : N} (h : ¬(b == 0) = true) :
    pyDiv a b = .ok (a / b) := if_neg h

theorem not_beq_of_not_le {N : Type} [PyFloat N] {a b : N} (h : ¬a ≤ b) : ¬(a == b) = true :=
  fun hab => h (PyFloat.le_of_beq hab)

theorem pyDiv_of_pos {N : Type} [PyFloat N] {a b : N} (h : 0 < b) : pyDiv a b = .ok (a / b) :=
  pyDiv_of_not_beq (not_beq_of_not_le (PyFloat.not_le_of_lt h))

/-! ### Exact numbers -/

/-- The integer part of `x`. -/
def pyInt (x : ℚ) : ℤ := if 0 ≤ x then ⌊x⌋ else ⌈x⌉

def zeroPad (width : ℕ) (digits : String) : String :=
  String.ofList (List.replicate (width - digits.length) '0') ++ digits

instance : FormatFixed ℚ where
  formatFixed n x :=
    let scaled := (Rounding.halfEven (|x| * 10 ^ n)).toNat
    (if x < 0 then "-" else "") ++ toString (scaled / 10 ^ n) ++ "." ++
      zeroPad n (toString (scaled % 10 ^ n))

instance : PyFloat ℚ where
  ofNat _ := inferInstance
  decLT := inferInstance
  decLE := inferInstance
  ratio p q := p / q
  sum := List.sum
  square x := .ok (x ^ 2)
  int x := .ok (pyInt x)
  isFinite _ := true
  value x := x
  ofNat_zero_add := zero_add
  sum_eq_foldl _ := List.sum_eq_foldl
  le_of_beq h := (beq_iff_eq.mp h).le
  le_self _ := ⟨le_rfl, le_rfl⟩
  not_le_of_lt := not_le.mpr

theorem pyDiv_ok {a b q : ℚ} (h : pyDiv a b = .ok q) : b ≠ 0 ∧ q = a / b := by
  unfold pyDiv at h
  split at h
  · contradiction
  · next hb => exact ⟨fun h => hb (beq_iff_eq.mpr h), (Except.ok.inj h).symm⟩

theorem pyDiv_of_ne {a b : ℚ} (h : b ≠ 0) : pyDiv a b = .ok (a / b) :=
  if_neg fun hb => h (beq_iff_eq.mp hb)

@[simp] theorem value_rat (x : ℚ) : PyFloat.value x = x := rfl

/-! ### Machine numbers -/

abbrev Binary64 := Rounding.Floating Rounding.binary64

namespace Binary64
open Rounding

instance : FormatFixed Binary64 where
  formatFixed
    | _, .nan => "nan"
    | _, .infinite negative => if negative then "-inf" else "inf"
    | n, .finite x _ => FormatFixed.formatFixed n x

def overflowError : PyError := ⟨.overflowError, "(34, 'Numerical result out of range')"⟩

/-- A finite number whose square is out of range raises. -/
def square (x : Binary64) : Except PyError Binary64 :=
  if x.IsFinite ∧ ¬(x * x).IsFinite then .error overflowError else .ok (x * x)

def int : Binary64 → Except PyError ℤ
  | .nan => .error (valueError "cannot convert float NaN to integer")
  | .infinite _ => .error ⟨.overflowError, "cannot convert float infinity to integer"⟩
  | .finite x _ => .ok (pyInt x)

instance : PyFloat Binary64 where
  natCast n := .ofRat n
  ofScientific m s e := .ofRat (OfScientific.ofScientific m s e)
  ofNat n := ⟨.ofRat n⟩
  decLT := inferInstance
  decLE := inferInstance
  ratio p q := .ofRat (p / q)
  sum xs := xs.foldl (· + ·) (.ofRat 0)
  square := square
  int := int
  isFinite x := decide x.IsFinite
  value := Floating.value
  ofNat_zero_add := Floating.ofRat_zero_add
  sum_eq_foldl _ := rfl
  le_of_beq h := (of_decide_eq_true h).1
  le_self h := (Floating.ne_nan_of_le h).imp Floating.le_refl Floating.le_refl
  not_le_of_lt := Floating.not_le_of_lt

theorem exactly_iff {a : Binary64} {x : ℚ} : Exactly a x ↔ a.IsFinite ∧ a.value = x :=
  and_congr_left' (decide_eq_true_iff (p := a.IsFinite))

theorem value_zero : PyFloat.value (0 : Binary64) = 0 := by decide +kernel

theorem one_le_natCast {n : ℕ} (h : 0 < n) : (1 : Binary64) ≤ (n : Binary64) :=
  Floating.ofRat_mono (by exact_mod_cast h)

theorem natCast_ne_zero {n : ℕ} (h : 0 < n) : ¬((n : Binary64) == 0) = true :=
  not_beq_of_not_le fun hzero => absurd (Floating.le_trans (one_le_natCast h) hzero)
    (by decide +kernel)

end Binary64

/-! ### Exceptions that are caught -/

theorem exceptValueError_some {α : Type} {x : Except PyError α} {a : α}
    (h : exceptValueError x = .ok (some a)) : x = .ok a := by
  cases x with
  | ok b => simpa [exceptValueError] using h
  | error e =>
    by_cases hc : e.cls = .valueError
    · simp [exceptValueError, hc] at h
    · simp [exceptValueError, hc] at h

/-- `x` raises nothing but a `ValueError`, and what it returns has `P`. -/
def OrValueError {α : Type} (P : α → Prop) : Except PyError α → Prop
  | .ok a => P a
  | .error e => e.cls = .valueError

section
variable {α β : Type} {P : α → Prop} {Q : β → Prop} {x : Except PyError α}

theorem ok_bind (a : α) (f : α → Except PyError β) : Except.ok a >>= f = f a := rfl

theorem bind_returns {f : α → Except PyError β} :
    (∃ r, (x >>= f) = .ok r) ↔ ∃ a, x = .ok a ∧ ∃ r, f a = .ok r := by
  constructor
  · rintro ⟨r, hr⟩
    obtain ⟨a, ha, hrest⟩ := bind_ok hr
    exact ⟨a, ha, r, hrest⟩
  · rintro ⟨a, rfl, hr⟩
    exact hr

theorem orValueError_bind {f : α → Except PyError β} :
    OrValueError Q (x >>= f) ↔ OrValueError (fun a => OrValueError Q (f a)) x := by
  cases x <;> exact Iff.rfl

theorem orValueError_pyDiv {N : Type} [PyFloat N] {P : N → Prop} (a b : N) :
    OrValueError P (pyDiv a b) ↔ ¬(b == 0) = true ∧ P (a / b) := by
  by_cases hb : (b == 0) = true
  · rw [pyDiv, if_pos hb]
    exact iff_of_false (fun h => nomatch h) fun h => h.1 hb
  · rw [pyDiv_of_not_beq hb]
    exact (and_iff_right hb).symm

/-- A handler that goes on without a result is reached or not, and only what `x` returns
matters. -/
theorem tried_ok {f : Option α → Except PyError β} (hnone : ∃ r, f none = .ok r) :
    (∃ r, (exceptValueError x >>= f) = .ok r) ↔
      OrValueError (fun a => ∃ r, f (some a) = .ok r) x := by
  cases x with
  | ok a => exact Iff.rfl
  | error e =>
    by_cases hcls : e.cls = .valueError
    · rw [exceptValueError, if_pos hcls]
      exact iff_of_true hnone hcls
    · rw [exceptValueError, if_neg hcls]
      exact iff_of_false (fun ⟨_, hr⟩ => nomatch hr) hcls

theorem tried_total (h : OrValueError (fun _ => True) x) : ∃ r, exceptValueError x = .ok r := by
  cases x with
  | ok a => exact ⟨some a, rfl⟩
  | error e => exact ⟨none, if_pos h⟩

end

/-! ### Formatting -/

/-- An optional text inside an f-string. -/
def pyStr : Option String → String
  | none => "None"
  | some s => s

def pyBool (b : Bool) : String := if b then "True" else "False"

/-! ### Deques and strings -/

/-- `deque(maxlen=n).append(x)`: the oldest entries make room. -/
def pushBounded {α : Type} (maxlen : ℕ) (xs : List α) (x : α) : List α :=
  (xs ++ [x]).drop (xs.length + 1 - maxlen)

theorem length_pushBounded {α : Type} (maxlen : ℕ) (xs : List α) (x : α) :
    (pushBounded maxlen xs x).length = min (xs.length + 1) maxlen := by
  rw [pushBounded, List.length_drop, List.length_append, List.length_singleton]
  omega

theorem pushBounded_rtake {α : Type} (n : ℕ) (xs : List α) (x : α) :
    pushBounded n (xs.rtake n) x = (xs ++ [x]).rtake n := by
  have hsplit : xs.rtake n ++ [x] = (xs ++ [x]).drop (xs.length - n) := by
    rw [List.rtake, List.drop_append_of_le_length (Nat.sub_le _ _)]
  rw [pushBounded, hsplit, List.drop_drop, List.rtake, List.rtake, List.length_drop,
    List.length_append, List.length_singleton]
  congr 1
  omega

/-- `xs[start:]`; a negative start counts from the end. -/
def pySliceFrom {α : Type} (xs : List α) (start : ℤ) : List α :=
  xs.drop (if start < 0 then (xs.length + start).toNat else start.toNat)

theorem pySliceFrom_neg {α : Type} (xs : List α) {n : ℕ} (hn : 0 < n) :
    pySliceFrom xs (-n) = xs.rtake n := by
  have hneg : -(n : ℤ) < 0 := by omega
  have hstart : ((xs.length : ℤ) + -n).toNat = xs.length - n := by omega
  rw [pySliceFrom, if_pos hneg, hstart, List.rtake]

/-- The code points `str.strip` removes. -/
def isPySpace (c : Char) : Bool :=
  let n := c.toNat
  (9 ≤ n && n ≤ 13) || (28 ≤ n && n ≤ 32) || n == 133 || n == 160 || n == 5760 ||
    (8192 ≤ n && n ≤ 8202) || n == 8232 || n == 8233 || n == 8239 || n == 8287 || n == 12288

def pyStrip (s : String) : String :=
  String.ofList ((s.toList.dropWhile isPySpace).reverse.dropWhile isPySpace).reverse

theorem toList_pyStrip (s : String) : (pyStrip s).toList = Text.trim isPySpace s.toList :=
  String.toList_ofList

theorem pyStrip_ofList {before text after : List Char} (hbefore : ∀ c ∈ before, isPySpace c = true)
    (hafter : ∀ c ∈ after, isPySpace c = true) (h : Text.Trimmed isPySpace text) :
    pyStrip (String.ofList (before ++ text ++ after)) = String.ofList text := by
  have htrim := Text.trim_append hbefore hafter h
  rw [← String.toList_ofList (l := before ++ text ++ after), ← toList_pyStrip] at htrim
  exact String.ofList_toList.symm.trans (congrArg String.ofList htrim)

/-- Lower case of one character. Of the characters outside ASCII only the Kelvin
sign and the dotted capital I have an ASCII letter in their lower case; the
others stay outside ASCII and are kept as they are. -/
def lowerChar (c : Char) : List Char :=
  if c.toNat = 8490 then ['k']
  else if c.toNat = 304 then ['i', Char.ofNat 775]
  else [c.toLower]

def pyLower (s : String) : String := String.ofList (s.toList.flatMap lowerChar)

/-- `s.split(sep)` for a separator of one character. -/
def pySplit (sep : Char) (s : String) : List String := (s.toList.splitOn sep).map String.ofList

/-- One character of `repr(s)`, between `quote`s. -/
def reprChar (quote c : Char) : String :=
  let n := c.toNat
  if c = quote || n == 92 then "\\" ++ c.toString
  else if n == 9 then "\\t"
  else if n == 10 then "\\n"
  else if n == 13 then "\\r"
  else if n < 32 || n == 127 then
    "\\x" ++ String.ofList [Nat.digitChar (n / 16), Nat.digitChar (n % 16)]
  else c.toString

/-- `repr(s)`; characters outside ASCII are taken to be printable. -/
def pyRepr (s : String) : String :=
  let apostrophe := Char.ofNat 39
  let quote := if s.toList.contains apostrophe && !s.toList.contains '"' then '"' else apostrophe
  quote.toString ++ String.join (s.toList.map (reprChar quote)) ++ quote.toString

/-- `str.upper()` on exchange ids, which are ASCII. -/
def pyUpper (s : String) : String := s.map Char.toUpper

example : pyLower (pyStrip " Enable_READING ") = "enable_reading" := by decide +kernel

example : pyRepr "a\tb" = "'a\\tb'" := by decide +kernel

example : (FormatFixed.formatFixed 4 (-1 / 32 : ℚ)) = "-0.0312" := by decide +kernel

end BimodalArbitrage
