import Mathlib.Data.List.Basic

/-!
# A file of lines that crashes tear

Every append writes one line. A crash may cut it short, and what is appended next then goes
on in the torn line.
-/

namespace Crash
variable {α β : Type}

/-- How a text file ends its lines. -/
inductive Newline where
  | lf
  | crlf

def Newline.chars : Newline → List Char
  | .lf => ['\n']
  | .crlf => ['\r', '\n']

/-- The lines of a text whose first line goes on after `line`. All newlines count, and a
last line need not have one. -/
def linesFrom (line : List Char) : List Char → List (List Char)
  | [] => if line = [] then [] else [line]
  | '\r' :: '\n' :: cs => line :: linesFrom [] cs
  | '\r' :: cs => line :: linesFrom [] cs
  | '\n' :: cs => line :: linesFrom [] cs
  | c :: cs => linesFrom (line ++ [c]) cs

def lines (cs : List Char) : List (List Char) := linesFrom [] cs

/-- An append of the line of `value`, torn after some of its characters or whole. -/
structure LineWrite (α : Type) where
  value : α
  torn : Option ℕ

section
variable (print : α → List Char) (newline : Newline)

def LineWrite.written (w : LineWrite α) : List Char :=
  match w.torn with
  | none => print w.value ++ newline.chars
  | some k => (print w.value ++ newline.chars).take k

def appended (history : List (LineWrite α)) : List Char :=
  history.flatMap (LineWrite.written print newline)

end

/-- The values of the whole appends, but for those right after a torn one. -/
def intactFrom (clean : Bool) : List (LineWrite α) → List α
  | [] => []
  | ⟨a, none⟩ :: history => if clean then a :: intactFrom true history else intactFrom true history
  | ⟨_, some _⟩ :: history => intactFrom false history

def intact (history : List (LineWrite α)) : List α := intactFrom true history

/-! ### Lines -/

/-- No end of a line. -/
def OneLine (cs : List Char) : Prop := ∀ c ∈ cs, c ≠ '\r' ∧ c ≠ '\n'

section
variable {cs : List Char} {newline : Newline}

theorem linesFrom_append (h : OneLine cs) (line rest : List Char) :
    linesFrom line (cs ++ rest) = linesFrom (line ++ cs) rest := by
  induction cs generalizing line with
  | nil => rw [List.nil_append, List.append_nil]
  | cons c cs ih =>
    obtain ⟨hcr, hlf⟩ := h c (List.mem_cons_self ..)
    rw [List.cons_append, linesFrom]
    · rw [ih fun d hd => h d (List.mem_cons_of_mem _ hd), List.append_assoc, List.singleton_append]
    · exact fun _ hc _ => hcr hc
    · exact hcr
    · exact hlf

theorem linesFrom_newline (line rest : List Char) :
    linesFrom line (newline.chars ++ rest) = line :: linesFrom [] rest := by
  cases newline with
  | lf => rfl
  | crlf => rfl

theorem linesFrom_return (line : List Char) {rest : List Char} (h : rest.head? ≠ some '\n') :
    linesFrom line ('\r' :: rest) = line :: linesFrom [] rest := by
  rw [linesFrom]
  rintro cs rfl
  exact h rfl

end

/-! ### What is read back -/

section
variable {print : α → List Char} {newline : Newline} {read : List Char → Option β} {value : α → β}
  {history : List (LineWrite α)}

theorem appended_cons (w : LineWrite α) (history : List (LineWrite α)) :
    appended print newline (w :: history) =
      w.written print newline ++ appended print newline history :=
  List.flatMap_cons ..

theorem appended_head (hprint : ∀ w ∈ history, OneLine (print w.value)) :
    (appended print .crlf history).head? ≠ some '\n' := by
  induction history with
  | nil => exact nofun
  | cons w history ih =>
    have hline : (print w.value ++ Newline.crlf.chars).head? ≠ some '\n' := by
      have hw := hprint w (List.mem_cons_self ..)
      cases htext : print w.value with
      | nil => decide
      | cons c cs => exact fun h => (hw c (htext ▸ List.mem_cons_self ..)).2 (Option.some.inj h)
    have hrest := ih fun w hw => hprint w (List.mem_cons_of_mem _ hw)
    rw [appended_cons, List.head?_append, LineWrite.written]
    split
    next =>
      intro h
      obtain h | ⟨-, h⟩ := Option.or_eq_some_iff.mp h
      · exact hline h
      · exact hrest h
    next k _ =>
      intro h
      obtain h | ⟨-, h⟩ := Option.or_eq_some_iff.mp h
      · rw [List.head?_take] at h
        split at h
        · cases h
        · exact hline h
      · exact hrest h

/-- What a torn append leaves of its line, and where the next one goes on. -/
theorem linesFrom_torn (newline : Newline) {w : LineWrite α} {k : ℕ} (hw : w.torn = some k)
    (hprint : ∀ v ∈ w :: history, OneLine (print v.value)) (line : List Char) :
    ∃ done line', linesFrom line (appended print newline (w :: history)) =
      done ++ linesFrom line' (appended print newline history) := by
  have hline := hprint w (List.mem_cons_self ..)
  have hrest : ∀ v ∈ history, OneLine (print v.value) :=
    fun v hv => hprint v (List.mem_cons_of_mem _ hv)
  rw [appended_cons, LineWrite.written, hw]
  by_cases hk : k ≤ (print w.value).length
  · have htake : (print w.value ++ newline.chars).take k = (print w.value).take k :=
      List.take_append_of_le_length hk
    refine ⟨[], line ++ (print w.value).take k, ?_⟩
    change linesFrom line ((print w.value ++ newline.chars).take k ++ _) = _
    rw [htake, linesFrom_append fun c hc => hline c (List.mem_of_mem_take hc)]
    rfl
  · refine ⟨[line ++ print w.value], [], ?_⟩
    change linesFrom line ((print w.value ++ newline.chars).take k ++ _) = _
    rw [List.take_append, List.take_of_length_le (Nat.le_of_not_le hk), List.append_assoc,
      linesFrom_append hline]
    obtain ⟨m, hm⟩ : ∃ m, k - (print w.value).length = m + 1 :=
      ⟨k - (print w.value).length - 1, by omega⟩
    rw [hm]
    cases newline with
    | lf =>
      rw [List.take_of_length_le (Nat.le_add_left 1 m)]
      exact linesFrom_newline _ _
    | crlf =>
      cases m with
      | zero => exact linesFrom_return _ (appended_head hrest)
      | succ m =>
        rw [List.take_of_length_le (Nat.le_add_left 2 m)]
        exact linesFrom_newline _ _

theorem linesFrom_intact (hread : ∀ w ∈ history, read (print w.value) = some (value w.value))
    (hprint : ∀ w ∈ history, OneLine (print w.value)) (clean : Bool) (line : List Char)
    (hclean : clean = true → line = []) :
    ((intactFrom clean history).map value).Sublist
      ((linesFrom line (appended print newline history)).filterMap read) := by
  induction history generalizing clean line with
  | nil => exact List.nil_sublist _
  | cons w history ih =>
    have hread' : ∀ v ∈ history, read (print v.value) = some (value v.value) :=
      fun v hv => hread v (List.mem_cons_of_mem _ hv)
    have hprint' : ∀ v ∈ history, OneLine (print v.value) :=
      fun v hv => hprint v (List.mem_cons_of_mem _ hv)
    obtain ⟨a, torn⟩ := w
    cases torn with
    | none =>
      have hrest := ih hread' hprint' true [] fun _ => rfl
      rw [appended_cons, LineWrite.written, List.append_assoc,
        linesFrom_append (hprint _ (List.mem_cons_self ..)), linesFrom_newline]
      cases clean with
      | true =>
        rw [hclean rfl, List.nil_append, List.filterMap_cons, hread _ (List.mem_cons_self ..)]
        exact hrest.cons_cons _
      | false =>
        refine hrest.trans ?_
        exact ((List.sublist_cons_self _ _).filterMap read)
    | some k =>
      obtain ⟨done, line', hlines⟩ := linesFrom_torn newline rfl hprint line
      have hrest := ih hread' hprint' false line' nofun
      rw [hlines, List.filterMap_append]
      exact hrest.trans (List.sublist_append_right _ _)

/-- Crashes lose what they tear and the append right after it, and no more. -/
theorem lines_intact (hread : ∀ w ∈ history, read (print w.value) = some (value w.value))
    (hprint : ∀ w ∈ history, OneLine (print w.value)) :
    ((intact history).map value).Sublist
      ((lines (appended print newline history)).filterMap read) :=
  linesFrom_intact hread hprint true [] fun _ => rfl

theorem lines_whole (hprint : ∀ w ∈ history, OneLine (print w.value))
    (hwhole : ∀ w ∈ history, w.torn = none) :
    lines (appended print newline history) = history.map fun w => print w.value := by
  induction history with
  | nil => rfl
  | cons w history ih =>
    have hw := hwhole w (List.mem_cons_self ..)
    rw [appended_cons, LineWrite.written, hw, lines]
    change linesFrom [] (print w.value ++ newline.chars ++ _) = _
    rw [List.append_assoc, linesFrom_append (hprint w (List.mem_cons_self ..)), linesFrom_newline,
      List.nil_append, List.map_cons]
    exact congrArg _ (ih (fun v hv => hprint v (List.mem_cons_of_mem _ hv))
      fun v hv => hwhole v (List.mem_cons_of_mem _ hv))

end
end Crash
