import BimodalArbitrage.Json.Escape

/-!
# Printing JSON text

The texts of `json.dumps` at its defaults, with one blank after each comma and colon. How
a float is printed is a parameter; the theorem asks for a numeral of the same value.
-/

namespace Json

mutual

def printValue (repr : ℚ → List Char) : Value → List Char
  | .null => ['n', 'u', 'l', 'l']
  | .bool true => ['t', 'r', 'u', 'e']
  | .bool false => ['f', 'a', 'l', 's', 'e']
  | .int n => intText n
  | .float q => repr q
  | .nan => ['N', 'a', 'N']
  | .infinity false => ['I', 'n', 'f', 'i', 'n', 'i', 't', 'y']
  | .infinity true => ['-', 'I', 'n', 'f', 'i', 'n', 'i', 't', 'y']
  | .string s => printString s
  | .array vs => '[' :: (printElements repr vs).drop 2 ++ [']']
  | .object ms => '\x7b' :: (printMembers repr ms).drop 2 ++ ['\x7d']

/-- Every element after a separator; the first one is dropped. -/
def printElements (repr : ℚ → List Char) : List Value → List Char
  | [] => []
  | v :: vs => ',' :: ' ' :: (printValue repr v ++ printElements repr vs)

def printMembers (repr : ℚ → List Char) : List (List ℕ × Value) → List Char
  | [] => []
  | (key, v) :: ms =>
    ',' :: ' ' :: (printString key ++ ':' :: ' ' :: (printValue repr v ++ printMembers repr ms))

end

/-- A string of code points that is read back as it was. -/
structure Clean (s : List ℕ) : Prop where
  points : ∀ n ∈ s, n < 0x110000
  noSplitPair : NoSplitPair s

mutual

/-- The floats are printed as numerals of their values, and no string has a split pair. -/
def Printable (repr : ℚ → List Char) : Value → Prop
  | .float q => ∃ n : Numeral, repr q = n.text ∧ n.value = q
  | .string s => Clean s
  | .array vs => PrintableElements repr vs
  | .object ms => PrintableMembers repr ms
  | _ => True

def PrintableElements (repr : ℚ → List Char) : List Value → Prop
  | [] => True
  | v :: vs => Printable repr v ∧ PrintableElements repr vs

def PrintableMembers (repr : ℚ → List Char) : List (List ℕ × Value) → Prop
  | [] => True
  | (key, v) :: ms => Clean key ∧ Printable repr v ∧ PrintableMembers repr ms

end

def dumps (repr : ℚ → List Char) (v : Value) : List Char := printValue repr v

/-! ### First characters -/

section
variable {repr : ℚ → List Char} {v : Value} {rest : List Char}

theorem skipSpace_cons {c : Char} (hc : isSpace c = false) (cs : List Char) :
    skipSpace (c :: cs) = c :: cs := by
  simp [skipSpace, hc]

theorem skipSpace_blank (cs : List Char) : skipSpace (' ' :: cs) = skipSpace cs := rfl

theorem digit_head {c : Char} (hc : c.isDigit = true) :
    isSpace c = false ∧ c ≠ ']' ∧ c ≠ '\x7b' ∧ c ≠ '[' ∧ c ≠ '"' := by
  refine ⟨?_, ?_, ?_, ?_, ?_⟩
  · have h1 : c ≠ ' ' := by rintro rfl; simp at hc
    have h2 : c ≠ '\t' := by rintro rfl; simp at hc
    have h3 : c ≠ '\n' := by rintro rfl; simp at hc
    have h4 : c ≠ '\r' := by rintro rfl; simp at hc
    simp [isSpace, h1, h2, h3, h4]
  all_goals
    rintro rfl
    simp at hc

/-- A number starts with a digit or a minus sign. -/
theorem numeralText_head (n : Numeral) :
    ∃ c cs, n.text = c :: cs ∧ isSpace c = false ∧ c ≠ ']' ∧ c ≠ '\x7b' ∧ c ≠ '[' ∧ c ≠ '"' := by
  obtain ⟨c, cs, htext, hc⟩ := n.unsignedText_cons
  unfold Numeral.text
  split
  · exact ⟨'-', _, rfl, by decide⟩
  · exact ⟨c, cs, htext, digit_head hc⟩

theorem intText_head (n : ℤ) :
    ∃ c cs, intText n = c :: cs ∧ isSpace c = false ∧ c ≠ ']' ∧ c ≠ '\x7b' ∧ c ≠ '[' ∧ c ≠ '"' := by
  have hne : Nat.toDigits 10 n.natAbs ≠ [] := List.ne_nil_of_length_pos Nat.length_toDigits_pos
  obtain ⟨c, cs, htext⟩ := List.exists_cons_of_ne_nil hne
  have hc : c.isDigit = true :=
    Nat.isDigit_of_mem_toDigits (by decide) (by decide) (htext ▸ List.mem_cons_self ..)
  unfold intText
  split
  · exact ⟨'-', _, rfl, by decide⟩
  · exact ⟨c, cs, htext, digit_head hc⟩

theorem printValue_head (h : Printable repr v) :
    ∃ c cs, printValue repr v = c :: cs ∧ isSpace c = false ∧ c ≠ ']' := by
  cases v with
  | int n =>
    obtain ⟨c, cs, htext, hspace, hclose, -⟩ := intText_head n
    rw [printValue, htext]
    exact ⟨c, cs, rfl, hspace, hclose⟩
  | float q =>
    rw [Printable] at h
    obtain ⟨n, htext, -⟩ := h
    obtain ⟨c, cs, hhead, hspace, hclose, -⟩ := numeralText_head n
    rw [printValue, htext, hhead]
    exact ⟨c, cs, rfl, hspace, hclose⟩
  | bool b =>
    cases b <;>
    · rw [printValue]
      exact ⟨_, _, rfl, by decide⟩
  | infinity negative =>
    cases negative <;>
    · rw [printValue]
      exact ⟨_, _, rfl, by decide⟩
  | string s =>
    rw [printValue, printString]
    exact ⟨_, _, rfl, by decide⟩
  | _ =>
    rw [printValue]
    exact ⟨_, _, rfl, by decide⟩

/-! ### Reading values back -/

theorem value_scalar {c : Char} {cs : List Char} (fuel : ℕ) (hbrace : c ≠ '\x7b')
    (hbracket : c ≠ '[') (hquote : c ≠ '"') : value (fuel + 1) (c :: cs) = scalar (c :: cs) := by
  rw [value]
  · rintro cs ⟨⟩
    exact hbrace rfl
  · rintro cs ⟨⟩
    exact hbracket rfl
  · rintro cs ⟨⟩
    exact hquote rfl

theorem stops_cons {c : Char} (hc : c.isDigit = false ∧ c ≠ '.' ∧ c ≠ 'e' ∧ c ≠ 'E')
    (cs : List Char) : Stops (c :: cs) := by
  rintro _ ⟨⟩
  exact hc

theorem stops_nil : Stops [] := nofun

theorem stops_elements (repr : ℚ → List Char) (vs : List Value) (rest : List Char) :
    Stops (printElements repr vs ++ ']' :: rest) := by
  cases vs with
  | nil =>
    rw [printElements]
    exact stops_cons (by decide) _
  | cons v vs =>
    rw [printElements]
    exact stops_cons (by decide) _

theorem stops_members (repr : ℚ → List Char) (ms : List (List ℕ × Value)) (rest : List Char) :
    Stops (printMembers repr ms ++ '\x7d' :: rest) := by
  cases ms with
  | nil =>
    rw [printMembers]
    exact stops_cons (by decide) _
  | cons m ms =>
    rw [printMembers]
    exact stops_cons (by decide) _

theorem length_printValue_pos (h : Printable repr v) : 0 < (printValue repr v).length := by
  obtain ⟨c, cs, htext, -⟩ := printValue_head h
  rw [htext]
  exact Nat.succ_pos _

mutual

theorem value_printValue (v : Value) (h : Printable repr v) (fuel : ℕ)
    (hfuel : 2 * (printValue repr v).length ≤ fuel) {rest : List Char} (hrest : Stops rest) :
    value fuel (printValue repr v ++ rest) = some (v, rest) := by
  have hpos := length_printValue_pos h
  obtain ⟨fuel, rfl⟩ : ∃ fuel', fuel = fuel' + 1 := ⟨fuel - 1, by omega⟩
  cases v with
  | null =>
    rw [printValue]
    exact value_scalar _ (by decide) (by decide) (by decide)
  | nan =>
    rw [printValue]
    exact value_scalar _ (by decide) (by decide) (by decide)
  | bool b =>
    cases b <;>
    · rw [printValue]
      exact value_scalar _ (by decide) (by decide) (by decide)
  | infinity negative =>
    cases negative <;>
    · rw [printValue]
      exact value_scalar _ (by decide) (by decide) (by decide)
  | int n =>
    obtain ⟨c, cs, htext, -, -, hbrace, hbracket, hquote⟩ := intText_head n
    rw [printValue, htext, List.cons_append, value_scalar _ hbrace hbracket hquote,
      ← List.cons_append, ← htext, scalar_int n hrest]
  | float q =>
    rw [Printable] at h
    obtain ⟨n, hrepr, rfl⟩ := h
    obtain ⟨c, cs, htext, -, -, hbrace, hbracket, hquote⟩ := numeralText_head n
    rw [printValue, hrepr, htext, List.cons_append, value_scalar _ hbrace hbracket hquote,
      ← List.cons_append, ← htext, scalar_numeral n hrest]
  | string s =>
    rw [Printable] at h
    rw [printValue, printString, List.cons_append, List.cons_append, List.append_assoc,
      List.singleton_append, value, string_printString h.points,
      (reread_eq_iff h.points).mpr h.noSplitPair]
    rfl
  | array vs =>
    rw [Printable] at h
    rw [printValue] at hfuel ⊢
    simp only [List.length_cons, List.length_append, List.length_drop, List.length_nil] at hfuel
    rw [List.cons_append, List.cons_append, List.append_assoc, List.singleton_append, value]
    cases vs with
    | nil =>
      rw [printElements]
      rfl
    | cons v vs =>
      have helements := elements_printElements (v :: vs) h nofun fuel (by omega) rest
      rw [PrintableElements] at h
      obtain ⟨c, cs, htext, hspace, hclose⟩ := printValue_head h.1
      have hhead : (printElements repr (v :: vs)).drop 2 ++ ']' :: rest =
          c :: (cs ++ printElements repr vs ++ ']' :: rest) := by
        rw [printElements, htext]
        rfl
      rw [hhead] at helements ⊢
      rw [skipSpace_cons hspace]
      split
      next heq => exact absurd (List.cons.inj heq).1 hclose
      next => rw [helements]; rfl
  | object ms =>
    rw [Printable] at h
    rw [printValue] at hfuel ⊢
    simp only [List.length_cons, List.length_append, List.length_drop, List.length_nil] at hfuel
    rw [List.cons_append, List.cons_append, List.append_assoc, List.singleton_append, value]
    cases ms with
    | nil =>
      rw [printMembers]
      rfl
    | cons m ms =>
      have hmembers := members_printMembers (m :: ms) h nofun fuel (by omega) rest
      obtain ⟨key, v⟩ := m
      rw [printMembers, printString, List.drop_succ_cons, List.drop_succ_cons, List.drop_zero]
        at hmembers ⊢
      simp only [List.cons_append] at hmembers ⊢
      rw [skipSpace_cons (by decide)]
      change (members fuel _).map _ = _
      rw [hmembers]
      rfl

theorem elements_printElements (vs : List Value) (h : PrintableElements repr vs) (hne : vs ≠ [])
    (fuel : ℕ) (hfuel : 2 * (printElements repr vs).length ≤ fuel + 3) (rest : List Char) :
    elements fuel ((printElements repr vs).drop 2 ++ ']' :: rest) = some (vs, rest) := by
  cases vs with
  | nil => exact absurd rfl hne
  | cons v vs =>
    rw [PrintableElements] at h
    have hpos := length_printValue_pos h.1
    rw [printElements] at hfuel ⊢
    simp only [List.length_cons, List.length_append] at hfuel
    obtain ⟨fuel, rfl⟩ : ∃ fuel', fuel = fuel' + 1 := ⟨fuel - 1, by omega⟩
    have hvalue := value_printValue v h.1 fuel (by omega) (stops_elements repr vs rest)
    rw [List.drop_succ_cons, List.drop_succ_cons, List.drop_zero, List.append_assoc, elements,
      hvalue, Option.bind_eq_bind, Option.bind_some]
    cases vs with
    | nil =>
      rw [printElements]
      rfl
    | cons w ws =>
      have helements := elements_printElements (w :: ws) h.2 nofun fuel (by omega) rest
      rw [PrintableElements] at h
      obtain ⟨c, cs, htext, hspace, -⟩ := printValue_head h.2.1
      rw [printElements, htext] at helements ⊢
      simp only [List.drop_succ_cons, List.drop_zero, List.cons_append] at helements ⊢
      rw [skipSpace_cons (by decide)]
      change (elements fuel (skipSpace (' ' :: c :: _))).bind _ = _
      rw [skipSpace_blank, skipSpace_cons hspace, helements]
      rfl

theorem members_printMembers (ms : List (List ℕ × Value)) (h : PrintableMembers repr ms)
    (hne : ms ≠ []) (fuel : ℕ) (hfuel : 2 * (printMembers repr ms).length ≤ fuel + 3)
    (rest : List Char) :
    members fuel ((printMembers repr ms).drop 2 ++ '\x7d' :: rest) = some (ms, rest) := by
  cases ms with
  | nil => exact absurd rfl hne
  | cons m ms =>
    obtain ⟨key, v⟩ := m
    rw [PrintableMembers] at h
    have hpos := length_printValue_pos h.2.1
    obtain ⟨c, cs, htext, hspace, -⟩ := printValue_head h.2.1
    rw [printMembers, printString] at hfuel ⊢
    simp only [List.length_cons, List.length_append] at hfuel
    obtain ⟨fuel, rfl⟩ : ∃ fuel', fuel = fuel' + 1 := ⟨fuel - 1, by omega⟩
    have hvalue := value_printValue v h.2.1 fuel (by omega) (stops_members repr ms rest)
    have hkey := string_printString h.1.points (':' :: ' ' :: (printValue repr v ++
      (printMembers repr ms ++ '\x7d' :: rest)))
    rw [(reread_eq_iff h.1.points).mpr h.1.noSplitPair] at hkey
    simp only [List.drop_succ_cons, List.drop_zero, List.cons_append, List.append_assoc,
      List.nil_append]
    rw [members, hkey, Option.bind_eq_bind, Option.bind_some]
    change (value fuel (skipSpace (' ' :: (printValue repr v ++ _)))).bind _ = _
    have hblank : skipSpace (' ' :: (printValue repr v ++
        (printMembers repr ms ++ '\x7d' :: rest))) =
          printValue repr v ++ (printMembers repr ms ++ '\x7d' :: rest) := by
      rw [skipSpace_blank, htext]
      exact skipSpace_cons hspace _
    rw [hblank, hvalue, Option.bind_some]
    cases ms with
    | nil =>
      rw [printMembers]
      rfl
    | cons m ms =>
      have hmembers := members_printMembers (m :: ms) h.2.2 nofun fuel (by omega) rest
      obtain ⟨key', w⟩ := m
      rw [printMembers, printString] at hmembers ⊢
      simp only [List.drop_succ_cons, List.drop_zero, List.cons_append] at hmembers ⊢
      rw [skipSpace_cons (by decide)]
      change (members fuel (skipSpace (' ' :: '"' :: _))).bind _ = _
      rw [skipSpace_blank, skipSpace_cons (by decide), hmembers]
      rfl

end

theorem loads_dumps (h : Printable repr v) : loads (dumps repr v) = some v := by
  obtain ⟨c, cs, htext, hspace, -⟩ := printValue_head h
  have hvalue := value_printValue v h (2 * (printValue repr v).length + 1) (by omega) stops_nil
  rw [List.append_nil] at hvalue
  have hskip : skipSpace (printValue repr v) = printValue repr v := by
    rw [htext]
    exact skipSpace_cons hspace cs
  rw [loads, dumps, hskip, hvalue]
  rfl

/-! ### Characters -/

/-- Printable ASCII. -/
def Plain (cs : List Char) : Prop := ∀ c ∈ cs, 32 ≤ c.toNat ∧ c.toNat ≤ 126

theorem Plain.append {cs ds : List Char} (hcs : Plain cs) (hds : Plain ds) : Plain (cs ++ ds) :=
  fun c hc => (List.mem_append.mp hc).elim (hcs c) (hds c)

theorem Plain.cons {c : Char} {cs : List Char} (hc : 32 ≤ c.toNat ∧ c.toNat ≤ 126)
    (hcs : Plain cs) : Plain (c :: cs) := by
  rintro d (_ | ⟨_, hd⟩)
  · exact hc
  · exact hcs d hd

theorem Plain.of_all {cs : List Char}
    (h : (cs.all fun c => decide (32 ≤ c.toNat) && decide (c.toNat ≤ 126)) = true) : Plain cs := by
  intro c hc
  simpa using List.all_eq_true.mp h c hc

theorem Plain.flatMap {α : Type} {xs : List α} {f : α → List Char} (h : ∀ x ∈ xs, Plain (f x)) :
    Plain (xs.flatMap f) := by
  intro c hc
  obtain ⟨x, hx, hcx⟩ := List.mem_flatMap.mp hc
  exact h x hx c hcx

theorem plain_digits {ds : List Char} (h : ∀ c ∈ ds, c.isDigit = true) : Plain ds := by
  intro c hc
  have hdigit := h c hc
  simp only [Char.isDigit, Bool.and_eq_true, decide_eq_true_eq] at hdigit
  obtain ⟨hlow, hhigh⟩ := hdigit
  have hlow' : 48 ≤ c.toNat := hlow
  have hhigh' : c.toNat ≤ 57 := hhigh
  omega

theorem plain_numeral (n : Numeral) : Plain n.text := by
  have hpart : Plain (Numeral.partText n.part) := by
    unfold Numeral.partText
    split
    · exact nofun
    · exact .cons (by decide) (plain_digits n.part_digits)
  have hexponent : Plain (Numeral.exponentText n.exponent) := by
    cases hexp : n.exponent with
    | none => exact nofun
    | some e =>
      obtain ⟨negative, digits⟩ := e
      refine .cons (by decide) (.cons ?_ (plain_digits (n.exponent_digits _ hexp).2))
      cases negative <;> decide
  have htext : Plain n.unsignedText := ((plain_digits n.whole_digits).append hpart).append hexponent
  unfold Numeral.text
  split
  · exact .cons (by decide) htext
  · exact htext

theorem plain_int (n : ℤ) : Plain (intText n) := by
  have hdigits : Plain (Nat.toDigits 10 n.natAbs) :=
    plain_digits fun c hc => Nat.isDigit_of_mem_toDigits (by decide) (by decide) hc
  unfold intText
  split
  · exact .cons (by decide) hdigits
  · exact hdigits

theorem plain_escapeUnit (n : ℕ) : Plain (escapeUnit n) := by
  have hdigit : ∀ m, 32 ≤ (Nat.digitChar (m % 16)).toNat ∧
      (Nat.digitChar (m % 16)).toNat ≤ 126 := by
    have hall : ∀ d : Fin 16, 32 ≤ (Nat.digitChar d).toNat ∧ (Nat.digitChar d).toNat ≤ 126 := by
      decide
    exact fun m => hall ⟨m % 16, Nat.mod_lt _ (by decide)⟩
  exact .cons (by decide) (.cons (by decide) (.cons (hdigit _) (.cons (hdigit _) (.cons (hdigit _)
    (.cons (hdigit _) nofun)))))

theorem plain_printString (s : List ℕ) : Plain (printString s) := by
  have hpoint : ∀ n, Plain (printPoint n) := by
    intro n
    unfold printPoint
    split
    next c hshort =>
      refine .cons (by decide) (.cons ?_ nofun)
      unfold shortEscape at hshort
      split at hshort <;> cases hshort <;> decide
    next =>
      split
      next hprintable =>
        refine .cons ?_ nofun
        rw [toNat_ofNat_printable hprintable]
        exact hprintable
      next => exact .flatMap fun m _ => plain_escapeUnit m
  exact ((Plain.flatMap fun n _ => hpoint n).cons (by decide)).append (.cons (by decide) nofun)

mutual

/-- Whatever the strings hold, the text is printable ASCII, on one line. -/
theorem plain_printValue (v : Value) (h : Printable repr v) : Plain (printValue repr v) := by
  cases v with
  | bool b =>
    cases b <;>
    · rw [printValue]
      exact .of_all rfl
  | infinity negative =>
    cases negative <;>
    · rw [printValue]
      exact .of_all rfl
  | int n =>
    rw [printValue]
    exact plain_int n
  | float q =>
    rw [Printable] at h
    obtain ⟨n, hrepr, -⟩ := h
    rw [printValue, hrepr]
    exact plain_numeral n
  | string s =>
    rw [printValue]
    exact plain_printString s
  | array vs =>
    rw [Printable] at h
    rw [printValue]
    refine (Plain.cons (by decide) fun c hc => ?_).append (.cons (by decide) nofun)
    exact plain_printElements vs h c (List.mem_of_mem_drop hc)
  | object ms =>
    rw [Printable] at h
    rw [printValue]
    refine (Plain.cons (by decide) fun c hc => ?_).append (.cons (by decide) nofun)
    exact plain_printMembers ms h c (List.mem_of_mem_drop hc)
  | _ =>
    rw [printValue]
    exact .of_all rfl

theorem plain_printElements (vs : List Value) (h : PrintableElements repr vs) :
    Plain (printElements repr vs) := by
  cases vs with
  | nil =>
    rw [printElements]
    exact nofun
  | cons v vs =>
    rw [PrintableElements] at h
    rw [printElements]
    exact .cons (by decide) (.cons (by decide)
      ((plain_printValue v h.1).append (plain_printElements vs h.2)))

theorem plain_printMembers (ms : List (List ℕ × Value)) (h : PrintableMembers repr ms) :
    Plain (printMembers repr ms) := by
  cases ms with
  | nil =>
    rw [printMembers]
    exact nofun
  | cons m ms =>
    obtain ⟨key, v⟩ := m
    rw [PrintableMembers] at h
    rw [printMembers]
    exact .cons (by decide) (.cons (by decide) ((plain_printString key).append
      (.cons (by decide) (.cons (by decide)
        ((plain_printValue v h.2.1).append (plain_printMembers ms h.2.2))))))

end

end
end Json
