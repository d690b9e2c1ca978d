import Mathlib.Algebra.Order.Field.Rat

/-!
# Reading JSON text

The grammar of `json.loads`: the JSON of the standard, with the three constants
`NaN`, `Infinity` and `-Infinity` beside it. `none` is a decoding error.
-/

namespace Json

/-- Texts are lists of code points, since an escape may name half a surrogate pair. -/
inductive Value where
  | null
  | bool (b : Bool)
  | int (n : ℤ)
  | float (q : ℚ)
  | nan
  | infinity (negative : Bool)
  | string (s : List ℕ)
  | array (elements : List Value)
  | object (members : List (List ℕ × Value))

/-- `d.get(key)`; of several members of one key the last counts. -/
def find (key : List ℕ) (members : List (List ℕ × Value)) : Option Value :=
  (members.reverse.find? fun kv => kv.1 == key).map (·.2)

def isSpace (c : Char) : Bool := c == ' ' || c == '\t' || c == '\n' || c == '\r'

def skipSpace (cs : List Char) : List Char := cs.dropWhile isSpace

/-! ### Strings -/

def hexDigit (c : Char) : Option ℕ :=
  if c.isDigit then some (c.toNat - 48)
  else if 97 ≤ c.toNat ∧ c.toNat ≤ 102 then some (c.toNat - 87)
  else if 65 ≤ c.toNat ∧ c.toNat ≤ 70 then some (c.toNat - 55)
  else none

def hexFour (a b c d : Char) : Option ℕ := do
  let a ← hexDigit a
  let b ← hexDigit b
  let c ← hexDigit c
  let d ← hexDigit d
  pure (4096 * a + 256 * b + 16 * c + d)

def escape : Char → Option ℕ
  | '"' => some 34
  | '\\' => some 92
  | '/' => some 47
  | 'b' => some 8
  | 'f' => some 12
  | 'n' => some 10
  | 'r' => some 13
  | 't' => some 9
  | _ => none

/-- What follows the opening quote; control characters are refused. -/
def stringUnits : List Char → Option (List ℕ × List Char)
  | [] => none
  | '"' :: cs => some ([], cs)
  | '\\' :: 'u' :: a :: b :: c :: d :: cs => do
    let unit ← hexFour a b c d
    let (units, rest) ← stringUnits cs
    pure (unit :: units, rest)
  | '\\' :: c :: cs => do
    let unit ← escape c
    let (units, rest) ← stringUnits cs
    pure (unit :: units, rest)
  | c :: cs =>
    if c.toNat < 32 || c == '\\' then none
    else do
      let (units, rest) ← stringUnits cs
      pure (c.toNat :: units, rest)

/-- The escapes of a surrogate pair name one code point. -/
def joinSurrogates : List ℕ → List ℕ
  | high :: low :: units =>
    if 0xD800 ≤ high ∧ high < 0xDC00 ∧ 0xDC00 ≤ low ∧ low < 0xE000 then
      (0x10000 + (high - 0xD800) * 0x400 + (low - 0xDC00)) :: joinSurrogates units
    else high :: joinSurrogates (low :: units)
  | units => units

def string (cs : List Char) : Option (List ℕ × List Char) :=
  (stringUnits cs).map fun (units, rest) => (joinSurrogates units, rest)

/-! ### Numbers and constants -/

def ofDigits (ds : List Char) : ℕ := ds.foldl (fun n d => 10 * n + (d.toNat - 48)) 0

/-- The digits after a point, if any follows it. -/
def fraction : List Char → List Char × List Char
  | '.' :: cs =>
    let (ds, rest) := cs.span Char.isDigit
    if ds.isEmpty then ([], '.' :: cs) else (ds, rest)
  | cs => ([], cs)

def exponent (cs : List Char) : Option ℤ × List Char :=
  match cs with
  | e :: tail =>
    if e == 'e' || e == 'E' then
      let (negative, digits) : Bool × List Char := match tail with
        | '-' :: digits => (true, digits)
        | '+' :: digits => (false, digits)
        | digits => (false, digits)
      let (ds, rest) := digits.span Char.isDigit
      if ds.isEmpty then (none, cs)
      else (some (if negative then -(ofDigits ds : ℤ) else ofDigits ds), rest)
    else (none, cs)
  | [] => (none, [])

/-- No digit follows a leading zero. -/
def integer (cs : List Char) : Option (List Char × List Char) :=
  match cs with
  | '0' :: rest => some (['0'], rest)
  | _ =>
    let (ds, rest) := cs.span Char.isDigit
    if ds.isEmpty then none else some (ds, rest)

/-- A number with neither a fraction nor an exponent is an integer. -/
def number (sign : ℤ) (cs : List Char) : Option (Value × List Char) := do
  let (whole, rest) ← integer cs
  let (part, rest) := fraction rest
  match part, exponent rest with
  | [], (none, rest) => pure (.int (sign * ofDigits whole), rest)
  | part, (e, rest) =>
    pure (.float (sign * ofDigits (whole ++ part) * 10 ^ (e.getD 0 - part.length)), rest)

def constants : List (String × Value) :=
  [("null", .null), ("true", .bool true), ("false", .bool false), ("NaN", .nan),
    ("Infinity", .infinity false), ("-Infinity", .infinity true)]

def scalar (cs : List Char) : Option (Value × List Char) :=
  match constants.find? fun (word, _) => word.toList.isPrefixOf cs with
  | some (word, v) => some (v, cs.drop word.length)
  | none => match cs with
    | '-' :: tail => number (-1) tail
    | _ => number 1 cs

/-! ### Texts

Two nested calls take a character off the text at least, so twice its length is fuel enough. -/

mutual

def value : ℕ → List Char → Option (Value × List Char)
  | 0, _ => none
  | fuel + 1, '\x7b' :: cs => match skipSpace cs with
    | '\x7d' :: rest => some (.object [], rest)
    | cs => (members fuel cs).map fun (ms, rest) => (.object ms, rest)
  | fuel + 1, '[' :: cs => match skipSpace cs with
    | ']' :: rest => some (.array [], rest)
    | cs => (elements fuel cs).map fun (vs, rest) => (.array vs, rest)
  | _ + 1, '"' :: cs => (string cs).map fun (s, rest) => (.string s, rest)
  | _ + 1, cs => scalar cs

def members : ℕ → List Char → Option (List (List ℕ × Value) × List Char)
  | 0, _ => none
  | fuel + 1, '"' :: cs => do
    let (key, cs) ← string cs
    match skipSpace cs with
    | ':' :: cs =>
      let (v, cs) ← value fuel (skipSpace cs)
      match skipSpace cs with
      | ',' :: cs => do
        let (ms, rest) ← members fuel (skipSpace cs)
        pure ((key, v) :: ms, rest)
      | '\x7d' :: rest => pure ([(key, v)], rest)
      | _ => none
    | _ => none
  | _ + 1, _ => none

def elements : ℕ → List Char → Option (List Value × List Char)
  | 0, _ => none
  | fuel + 1, cs => do
    let (v, cs) ← value fuel cs
    match skipSpace cs with
    | ',' :: cs => do
      let (vs, rest) ← elements fuel (skipSpace cs)
      pure (v :: vs, rest)
    | ']' :: rest => pure ([v], rest)
    | _ => none

end

/-- One value and nothing but white space around it. A byte order mark is an error. -/
def loads (cs : List Char) : Option Value := do
  let (v, rest) ← value (2 * cs.length + 1) (skipSpace cs)
  if (skipSpace rest).isEmpty then pure v else none

end Json
