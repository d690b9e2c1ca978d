import BimodalArbitrage.Coop.Rely

/-!
# What a run shows

`Shows env x P`: wherever `x` is run against `env`, it ends in a result and
appends observations that meet `P`.
-/

namespace Coop
variable {S Ev C : Type} {R : C → Type} {E α β : Type}

namespace Coro

def Shows (env : Env S Ev C R E) (x : Coro S Ev C R E α)
    (P : Except E α → List (Obs Ev C R E) → Prop) : Prop :=
  ∀ s h, ∃ t, (x.play env s h).trace = h ++ t ∧ P (x.play env s h).result t

variable {env : Env S Ev C R E}

theorem shows_pure {P : Except E α → List (Obs Ev C R E) → Prop} (a : α) (h : P (.ok a) []) :
    Shows env (.pure a) P :=
  fun _ hist => ⟨[], (List.append_nil hist).symm, h⟩

theorem shows_call {P : Except E (R c) → List (Obs Ev C R E) → Prop}
    (h : ∀ hist, P (env.answer hist c) [.reply c (env.answer hist c)]) :
    Shows env (call c) P := by
  intro s hist
  rw [play_call]
  exact ⟨_, rfl, h hist⟩

theorem shows_bind {x : Coro S Ev C R E α} {f : α → Coro S Ev C R E β}
    {P : Except E α → List (Obs Ev C R E) → Prop} {Q : Except E β → List (Obs Ev C R E) → Prop}
    (hx : Shows env x P)
    (hf : ∀ r t, P r t → Ends r (fun a => Shows env (f a) fun r' t' => Q r' (t ++ t'))
      (fun e => Q (.error e) t)) :
    Shows env (x.bind f) Q := by
  intro s hist
  obtain ⟨t, htrace, hP⟩ := hx s hist
  have hrest := hf _ t hP
  rw [play_bind]
  cases hr : (x.play env s hist).result with
  | error e =>
    rw [hr] at hrest
    simp only [Outcome.andThen, hr]
    exact ⟨t, htrace, hrest⟩
  | ok a =>
    rw [hr] at hrest
    simp only [Outcome.andThen, hr]
    obtain ⟨t', htrace', hQ⟩ := hrest (x.play env s hist).state (x.play env s hist).trace
    exact ⟨t ++ t', by rw [htrace', htrace, List.append_assoc], hQ⟩

theorem shows_call_bind {c : C} {f : R c → Coro S Ev C R E β}
    {Q : Except E β → List (Obs Ev C R E) → Prop}
    (h : ∀ hist, Ends (env.answer hist c)
      (fun a => Shows env (f a) fun r t => Q r (.reply c (.ok a) :: t))
      (fun e => Q (.error e) [.reply c (.error e)])) :
    Shows env ((call c).bind f) Q := by
  refine shows_bind (P := fun r t => ∃ hist, r = env.answer hist c ∧ t = [.reply c r])
    (shows_call fun hist => ⟨hist, rfl, rfl⟩) ?_
  rintro r t ⟨hist, hr, rfl⟩
  have hend := h hist
  rw [← hr] at hend
  cases r with
  | ok a => exact hend
  | error e => exact hend

theorem shows_report_bind {e : Ev} {f : Unit → Coro S Ev C R E β}
    {Q : Except E β → List (Obs Ev C R E) → Prop}
    (h : Shows env (f ()) fun r t => Q r (.event e :: t)) : Shows env ((report e).bind f) Q :=
  shows_bind (P := fun r t => r = .ok () ∧ t = [.event e]) (fun _ _ => ⟨_, rfl, rfl, rfl⟩)
    fun _ _ ⟨hr, ht⟩ => hr ▸ ht ▸ h

theorem shows_state_bind {f : S → Coro S Ev C R E β} {Q : Except E β → List (Obs Ev C R E) → Prop}
    (h : ∀ s, Shows env (f s) Q) : Shows env (state.bind f) Q :=
  fun s hist => h s s hist

theorem shows_modify_bind {g : S → S} {f : Unit → Coro S Ev C R E β}
    {Q : Except E β → List (Obs Ev C R E) → Prop} (h : Shows env (f ()) Q) :
    Shows env ((modify g).bind f) Q :=
  fun s hist => h (g s) hist

theorem shows_lift_bind {r : Except E α} {f : α → Coro S Ev C R E β}
    {Q : Except E β → List (Obs Ev C R E) → Prop}
    (h : Ends r (fun a => Shows env (f a) Q) (fun e => Q (.error e) [])) :
    Shows env ((lift r).bind f) Q := by
  cases r with
  | ok a => exact h
  | error e => exact fun _ hist => ⟨[], (List.append_nil hist).symm, h⟩

theorem shows_emit {e : Ev} {x : Coro S Ev C R E β}
    {Q : Except E β → List (Obs Ev C R E) → Prop}
    (h : Shows env x fun r t => Q r (.event e :: t)) : Shows env (.emit e x) Q := by
  intro s hist
  obtain ⟨t, htrace, hQ⟩ := h s (hist ++ [.event e])
  exact ⟨.event e :: t, by rw [List.append_cons]; exact htrace, hQ⟩

theorem shows_turn {x : Coro S Ev C R E β} {Q : Except E β → List (Obs Ev C R E) → Prop}
    (h : Shows env x fun r t => Q r (.turn :: t)) : Shows env (.turn x) Q := by
  intro s hist
  obtain ⟨t, htrace, hQ⟩ := h (env.drift hist s) (hist ++ [.turn])
  exact ⟨.turn :: t, by rw [List.append_cons]; exact htrace, hQ⟩

theorem shows_mono {x : Coro S Ev C R E α} {P Q : Except E α → List (Obs Ev C R E) → Prop}
    (hx : Shows env x P) (hPQ : ∀ r t, P r t → Q r t) : Shows env x Q := by
  intro s hist
  obtain ⟨t, htrace, hP⟩ := hx s hist
  exact ⟨t, htrace, hPQ _ t hP⟩

/-! ### Results -/

/-- Whatever it reads and is told, the coroutine returns nothing but results in `P`. -/
def OnlyReturns (P : α → Prop) : Coro S Ev C R E α → Prop
  | .pure a => P a
  | .throw _ => True
  | .get k => ∀ s, (k s).OnlyReturns P
  | .set _ k => k.OnlyReturns P
  | .emit _ k => k.OnlyReturns P
  | .turn k => k.OnlyReturns P
  | .await _ k => ∀ r, (k r).OnlyReturns P

theorem onlyReturns_bind {P : β → Prop} (x : Coro S Ev C R E α) {f : α → Coro S Ev C R E β}
    (hf : ∀ a, (f a).OnlyReturns P) : (x.bind f).OnlyReturns P := by
  induction x with
  | pure a => exact hf a
  | throw e => trivial
  | get k ih => exact fun s => ih s
  | set s k ih => exact ih
  | emit e k ih => exact ih
  | turn k ih => exact ih
  | await c k ih => exact fun r => ih r

theorem OnlyReturns.result {P : α → Prop} {x : Coro S Ev C R E α} (hx : x.OnlyReturns P) {s : S}
    {h : List (Obs Ev C R E)} {a : α} (hresult : (x.play env s h).result = .ok a) : P a := by
  induction x generalizing s h with
  | pure b =>
    cases hresult
    exact hx
  | throw e => cases hresult
  | get k ih => exact ih s (hx s) hresult
  | set s' k ih => exact ih hx hresult
  | emit e k ih => exact ih hx hresult
  | turn k ih => exact ih hx hresult
  | await c k ih => exact ih _ (hx _) hresult

/-! ### Exceptions -/

/-- The play ends in an exception that no answer brought in, and nothing in `last` was
reported before. -/
def BreaksBefore (last : Ev → Prop) (env : Env S Ev C R E) (x : Coro S Ev C R E α) (s : S)
    (h : List (Obs Ev C R E)) : Prop :=
  ∃ e t, (x.play env s h).result = .error e ∧ (x.play env s h).trace = h ++ t ∧
    (∀ ev, .event ev ∈ t → ¬last ev) ∧ ∀ c e', .reply c (.error e') ∉ t

/-- Told nothing but results, the coroutine reports something in `last` before it raises. -/
def Blameless (last : Ev → Prop) : Coro S Ev C R E α → Prop
  | .pure _ => True
  | .throw _ => False
  | .get k => ∀ s, (k s).Blameless last
  | .set _ k => k.Blameless last
  | .emit e k => last e ∨ k.Blameless last
  | .turn k => k.Blameless last
  | .await _ k => ∀ a, (k (.ok a)).Blameless last

section
variable {last : Ev → Prop}

theorem play_trace (env : Env S Ev C R E) (x : Coro S Ev C R E α) (s : S)
    (h : List (Obs Ev C R E)) : ∃ t, (x.play env s h).trace = h ++ t := by
  induction x generalizing s h with
  | pure a => exact ⟨[], (List.append_nil h).symm⟩
  | throw e => exact ⟨[], (List.append_nil h).symm⟩
  | get k ih => exact ih s s h
  | set s' k ih => exact ih s' h
  | emit e k ih =>
    obtain ⟨t, ht⟩ := ih s (h ++ [.event e])
    exact ⟨.event e :: t, by rw [List.append_cons]; exact ht⟩
  | turn k ih =>
    obtain ⟨t, ht⟩ := ih (env.drift h s) (h ++ [.turn])
    exact ⟨.turn :: t, by rw [List.append_cons]; exact ht⟩
  | await c k ih =>
    obtain ⟨t, ht⟩ := ih (env.answer h c) (env.drift h s) (h ++ [.reply c (env.answer h c)])
    exact ⟨.reply c (env.answer h c) :: t, by rw [List.append_cons]; exact ht⟩

theorem play_trace_tail {x : Coro S Ev C R E α} {s : S} {h t : List (Obs Ev C R E)}
    {o : Obs Ev C R E} (htrace : (x.play env s (h ++ [o])).trace = h ++ t) :
    ∃ t', t = o :: t' ∧ (x.play env s (h ++ [o])).trace = h ++ [o] ++ t' := by
  obtain ⟨t', ht'⟩ := play_trace env x s (h ++ [o])
  have hsame : h ++ t = h ++ (o :: t') := by
    rw [← htrace, ht', List.append_assoc, List.singleton_append]
  exact ⟨t', List.append_cancel_left hsame, ht'⟩

theorem Blameless.not_breaksBefore {x : Coro S Ev C R E α} (hx : x.Blameless last) (s : S)
    (h : List (Obs Ev C R E)) : ¬x.BreaksBefore last env s h := by
  rintro ⟨e, t, hresult, htrace, hlast, hreply⟩
  induction x generalizing s h t with
  | pure a => cases hresult
  | throw e => exact hx
  | get k ih => exact ih s (hx s) s h t hresult htrace hlast hreply
  | set s' k ih => exact ih hx s' h t hresult htrace hlast hreply
  | emit ev k ih =>
    obtain ⟨t', rfl, htrace'⟩ := play_trace_tail htrace
    rcases hx with hev | hk
    · exact hlast ev (List.mem_cons_self ..) hev
    · exact ih hk s _ t' hresult htrace' (fun ev' hmem => hlast ev' (List.mem_cons_of_mem _ hmem))
        fun c e' hmem => hreply c e' (List.mem_cons_of_mem _ hmem)
  | turn k ih =>
    obtain ⟨t', rfl, htrace'⟩ := play_trace_tail htrace
    exact ih hx _ _ t' hresult htrace' (fun ev' hmem => hlast ev' (List.mem_cons_of_mem _ hmem))
      fun c e' hmem => hreply c e' (List.mem_cons_of_mem _ hmem)
  | await c k ih =>
    obtain ⟨t', rfl, htrace'⟩ := play_trace_tail htrace
    cases hanswer : env.answer h c with
    | error e' => exact hreply c e' (hanswer ▸ List.mem_cons_self ..)
    | ok a =>
      refine ih _ (hanswer ▸ hx a) _ _ t' hresult htrace'
        (fun ev' hmem => hlast ev' (List.mem_cons_of_mem _ hmem))
        fun c e' hmem => hreply c e' (List.mem_cons_of_mem _ hmem)

theorem breaksBefore_state_bind {f : S → Coro S Ev C R E β} {s : S} {h : List (Obs Ev C R E)} :
    (state.bind f).BreaksBefore last env s h ↔ (f s).BreaksBefore last env s h := Iff.rfl

variable (env) in
/-- What was observed first is neither what ends the play nor an exception. -/
theorem breaksBefore_cons {x : Coro S Ev C R E α} {s : S} {h : List (Obs Ev C R E)}
    {o : Obs Ev C R E} (hlast : ∀ ev, o = .event ev → ¬last ev)
    (hreply : ∀ c e, o ≠ .reply c (.error e)) :
    (∃ e t, (x.play env s (h ++ [o])).result = .error e ∧
        (x.play env s (h ++ [o])).trace = h ++ t ∧ (∀ ev, .event ev ∈ t → ¬last ev) ∧
        ∀ c e', .reply c (.error e') ∉ t) ↔
      x.BreaksBefore last env s (h ++ [o]) := by
  constructor
  · rintro ⟨e, t, hresult, htrace, hnone, hanswers⟩
    obtain ⟨t', rfl, htrace'⟩ := play_trace_tail htrace
    exact ⟨e, t', hresult, htrace', fun ev hmem => hnone ev (List.mem_cons_of_mem _ hmem),
      fun c e' hmem => hanswers c e' (List.mem_cons_of_mem _ hmem)⟩
  · rintro ⟨e, t, hresult, htrace, hnone, hanswers⟩
    refine ⟨e, o :: t, hresult, by rw [htrace, List.append_assoc, List.singleton_append],
      fun ev hmem => ?_,
      fun c e' hmem => ?_⟩
    · rcases List.mem_cons.mp hmem with heq | hmem
      · exact hlast ev heq.symm
      · exact hnone ev hmem
    · rcases List.mem_cons.mp hmem with heq | hmem
      · exact hreply c e' heq.symm
      · exact hanswers c e' hmem

theorem breaksBefore_report_bind {ev : Ev} (hev : ¬last ev) {f : Unit → Coro S Ev C R E β} {s : S}
    {h : List (Obs Ev C R E)} :
    ((report ev).bind f).BreaksBefore last env s h ↔
      (f ()).BreaksBefore last env s (h ++ [.event ev]) :=
  breaksBefore_cons env (fun _ heq => by cases heq; exact hev) fun _ _ heq => by cases heq

theorem breaksBefore_lift_bind {r : Except E α} {f : α → Coro S Ev C R E β} {s : S}
    {h : List (Obs Ev C R E)} :
    ((lift r).bind f).BreaksBefore last env s h ↔
      ∀ a, r = .ok a → (f a).BreaksBefore last env s h := by
  cases r with
  | ok a =>
    constructor
    · intro hbreaks a' heq
      cases heq
      exact hbreaks
    · intro hbreaks
      exact hbreaks a rfl
  | error e =>
    refine iff_of_true ⟨e, [], rfl, (List.append_nil h).symm, ?_, ?_⟩ fun a heq => by cases heq
    · exact fun ev hmem => absurd hmem List.not_mem_nil
    · exact fun c e' => List.not_mem_nil

theorem lift_bind_survives_iff {r : Except E α} {f : α → Coro S Ev C R E β} {s : S}
    {h : List (Obs Ev C R E)} (hf : ∀ a, (f a).Blameless last) :
    ¬((lift r).bind f).BreaksBefore last env s h ↔ ∃ a, r = .ok a := by
  rw [breaksBefore_lift_bind]
  push Not
  exact exists_congr fun a => and_iff_left ((hf a).not_breaksBefore s h)

theorem breaksBefore_call_bind {c : C} {f : R c → Coro S Ev C R E β} {s : S}
    {h : List (Obs Ev C R E)} :
    ((call c).bind f).BreaksBefore last env s h ↔
      ∃ a, env.answer h c = .ok a ∧
        (f a).BreaksBefore last env (env.drift h s) (h ++ [.reply c (.ok a)]) := by
  have hplay : ((call c).bind f).play env s h = ((lift (env.answer h c)).bind f).play env
      (env.drift h s) (h ++ [.reply c (env.answer h c)]) := rfl
  unfold BreaksBefore
  rw [hplay]
  cases env.answer h c with
  | ok a =>
    have hlast : ∀ ev, (.reply c (.ok a) : Obs Ev C R E) = .event ev → ¬last ev :=
      fun _ heq => by cases heq
    have hreply : ∀ c' e, (.reply c (.ok a) : Obs Ev C R E) ≠ .reply c' (.error e) :=
      fun _ _ heq => by cases heq
    have hcons := breaksBefore_cons env (x := f a) (s := env.drift h s) (h := h) hlast hreply
    exact ⟨fun hbreaks => ⟨a, rfl, hcons.mp hbreaks⟩, fun ⟨a', heq, hbreaks⟩ => by
      cases heq
      exact hcons.mpr hbreaks⟩
  | error e =>
    refine iff_of_false ?_ fun ⟨a, heq, _⟩ => by cases heq
    rintro ⟨e', t, -, htrace, -, hanswers⟩
    obtain ⟨t', rfl, -⟩ := play_trace_tail htrace
    exact hanswers c e (List.mem_cons_self ..)

end
end Coro
end Coop
