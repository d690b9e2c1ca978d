import BimodalArbitrage.Coop.Rely

/-!
# Footprints

Most of a program does not touch what an invariant is about. `Acts T P` bounds what
a coroutine can do, whatever it reads and whatever it is told; `wp_of_acts` carries
a property of the world over code with such a bound.
-/

namespace Coop
variable {ι S Ev C : Type} {R : C → Type} {E Inp α β γ : Type}

namespace Coro

/-- Started in `s`, the coroutine moves the state by `T` and reports events in `P`. -/
def Acts (T : S → S → Prop) (P : Ev → Prop) : Coro S Ev C R E α → S → Prop
  | .pure _, _ => True
  | .throw _, _ => True
  | .get k, s => (k s).Acts T P s
  | .set s' k, s => T s s' ∧ k.Acts T P s'
  | .emit e k, s => P e ∧ k.Acts T P s
  | .turn k, _ => ∀ s, k.Acts T P s
  | .await _ k, _ => ∀ r s, (k r).Acts T P s

section
variable {T : S → S → Prop} {P : Ev → Prop} {s : S}

theorem acts_bind {x : Coro S Ev C R E α} {f : α → Coro S Ev C R E β} (hx : x.Acts T P s)
    (hf : ∀ a s, (f a).Acts T P s) : (x.bind f).Acts T P s := by
  induction x generalizing s with
  | pure a => exact hf a s
  | throw e => trivial
  | get k ih => exact ih s hx
  | set s' k ih => exact ⟨hx.1, ih hx.2⟩
  | emit e k ih => exact ⟨hx.1, ih hx.2⟩
  | turn k ih => exact fun s' => ih (hx s')
  | await c k ih => exact fun r s' => ih r (hx r s')

theorem acts_attempt {x : Coro S Ev C R E α} (hx : x.Acts T P s) : x.attempt.Acts T P s := by
  induction x generalizing s with
  | pure a => trivial
  | throw e => trivial
  | get k ih => exact ih s hx
  | set s' k ih => exact ⟨hx.1, ih hx.2⟩
  | emit e k ih => exact ⟨hx.1, ih hx.2⟩
  | turn k ih => exact fun s' => ih (hx s')
  | await c k ih => exact fun r s' => ih r (hx r s')

theorem Acts.mono {T' : S → S → Prop} {P' : Ev → Prop} {x : Coro S Ev C R E α}
    (hx : x.Acts T P s) (hT : ∀ s s', T s s' → T' s s') (hP : ∀ e, P e → P' e) :
    x.Acts T' P' s := by
  induction x generalizing s with
  | pure a => trivial
  | throw e => trivial
  | get k ih => exact ih s hx
  | set s' k ih => exact ⟨hT _ _ hx.1, ih hx.2⟩
  | emit e k ih => exact ⟨hP _ hx.1, ih hx.2⟩
  | turn k ih => exact fun s' => ih (hx s')
  | await c k ih => exact fun r s' => ih r (hx r s')

@[simp] theorem acts_pure (a : α) : (.pure a : Coro S Ev C R E α).Acts T P s := trivial

@[simp] theorem acts_throw (e : E) : (.throw e : Coro S Ev C R E α).Acts T P s := trivial

@[simp] theorem acts_lift (r : Except E α) : (lift r : Coro S Ev C R E α).Acts T P s := by
  cases r <;> trivial

@[simp] theorem acts_call (c : C) : (call c : Coro S Ev C R E (R c)).Acts T P s :=
  fun r _ => acts_lift r

theorem acts_modify {f : S → S} (h : T s (f s)) :
    (modify f : Coro S Ev C R E Unit).Acts T P s := ⟨h, trivial⟩

theorem acts_state_bind {f : S → Coro S Ev C R E β} (h : (f s).Acts T P s) :
    (state.bind f).Acts T P s := h

theorem acts_modify_bind {g : S → S} {f : Unit → Coro S Ev C R E β} (h : T s (g s))
    (hf : (f ()).Acts T P (g s)) : ((modify g).bind f).Acts T P s := ⟨h, hf⟩

theorem acts_report_bind {e : Ev} {f : Unit → Coro S Ev C R E β} (h : P e)
    (hf : (f ()).Acts T P s) : ((report e).bind f).Acts T P s := ⟨h, hf⟩

theorem acts_call_bind {c : C} {f : R c → Coro S Ev C R E β} (hf : ∀ a s, (f a).Acts T P s) :
    ((call c).bind f).Acts T P s := acts_bind (acts_call c) hf

theorem acts_lift_bind {r : Except E α} {f : α → Coro S Ev C R E β}
    (hf : ∀ a, r = .ok a → (f a).Acts T P s) : ((lift r).bind f).Acts T P s := by
  cases r with
  | ok a => exact hf a rfl
  | error e => trivial

theorem acts_catching {x : Coro S Ev C R E α} {f : E → Coro S Ev C R E α}
    (hx : x.Acts T P s) (hf : ∀ e s, (f e).Acts T P s) : (x.catching f).Acts T P s := by
  refine acts_bind (acts_attempt hx) fun r s => ?_
  cases r with
  | ok a => trivial
  | error e => exact hf e s

end
end Coro

/-- `J u w`, for a segment from `u` that has come to `w`, survives what a task of
footprint `T`, `P` does by itself and what can happen while it is suspended. -/
structure Kept (rules : Rules ι S Ev C R E Inp) (K : Contract ι S Ev Inp) (i : ι)
    (T : S → S → Prop) (P : Ev → Prop) (J : World ι S Ev → World ι S Ev → Prop) : Prop where
  set : ∀ {u w s}, J u w → T w.state s → J u (w.put s)
  emit : ∀ {u w e}, J u w → P e → J u (w.emit i e)
  rests : ∀ {u w}, J u w → K.Rests i u w
  turn : ∀ {u w v}, J u w → K.rely i w v → K.inv v → J v v
  reply : ∀ {u w v c x r s}, J u w → K.rely i w v → K.inv v →
    rules.answer v.state c x = some (r, s) → J v (v.put s)

section
variable {rules : Rules ι S Ev C R E Inp} {K : Contract ι S Ev Inp} {i : ι}
  {T : S → S → Prop} {P : Ev → Prop} {J : World ι S Ev → World ι S Ev → Prop}

theorem Kept.mono {T' : S → S → Prop} {P' : Ev → Prop} (hK : Kept rules K i T P J)
    (hT : ∀ s s', T' s s' → T s s') (hP : ∀ e, P' e → P e) : Kept rules K i T' P' J where
  set h hs := hK.set h (hT _ _ hs)
  emit h he := hK.emit h (hP _ he)
  rests := hK.rests
  turn := hK.turn
  reply := hK.reply

theorem wp_of_acts (hK : Kept rules K i T P J) {x : Coro S Ev C R E α}
    {Q : Except E α → World ι S Ev → World ι S Ev → Prop} {u w : World ι S Ev}
    (hx : x.Acts T P w.state) (h : J u w) (hQ : ∀ r u w, J u w → Q r u w) :
    wp rules K i x Q u w := by
  induction x generalizing u w with
  | pure a => exact hQ _ u w h
  | throw e => exact hQ _ u w h
  | get k ih => exact ih _ hx h
  | set s k ih => exact ih hx.2 (hK.set h hx.1)
  | emit e k ih => exact ih hx.2 (hK.emit h hx.1)
  | turn k ih => exact ⟨hK.rests h, fun v hr hv _ => ih (hx _) (hK.turn h hr hv)⟩
  | await c k ih =>
    exact ⟨hK.rests h, fun v x r s hr hv _ hans => ih r (hx r _) (hK.reply h hr hv hans)⟩

theorem wp_acts_bind (hK : Kept rules K i T P J) {x : Coro S Ev C R E α}
    {f : α → Coro S Ev C R E β} {Q : Except E β → World ι S Ev → World ι S Ev → Prop}
    {u w : World ι S Ev} (hx : x.Acts T P w.state) (h : J u w)
    (hf : ∀ a u w, J u w → wp rules K i (f a) Q u w)
    (hthrow : ∀ e u w, J u w → Q (.error e) u w) : wp rules K i (x.bind f) Q u w := by
  rw [wp_bind]
  refine wp_of_acts hK hx h fun r u w hJ => ?_
  cases r with
  | ok a => exact hf a u w hJ
  | error e => exact hthrow e u w hJ

theorem wp_modify_bind (hK : Kept rules K i T P J) {g : S → S} {f : Unit → Coro S Ev C R E β}
    {Q : Except E β → World ι S Ev → World ι S Ev → Prop} {u w : World ι S Ev} (h : J u w)
    (hT : T w.state (g w.state)) (hf : ∀ w, J u w → wp rules K i (f ()) Q u w) :
    wp rules K i ((Coro.modify g).bind f) Q u w :=
  hf _ (hK.set h hT)

theorem wp_state_bind {f : S → Coro S Ev C R E β}
    {Q : Except E β → World ι S Ev → World ι S Ev → Prop} {u w : World ι S Ev}
    (h : wp rules K i (f w.state) Q u w) : wp rules K i (Coro.state.bind f) Q u w := h

theorem wp_report_bind {e : Ev} {f : Unit → Coro S Ev C R E β}
    {Q : Except E β → World ι S Ev → World ι S Ev → Prop} {u w : World ι S Ev}
    (h : wp rules K i (f ()) Q u (w.emit i e)) : wp rules K i ((Coro.report e).bind f) Q u w := h

theorem wp_lift_bind {r : Except E α} {f : α → Coro S Ev C R E β}
    {Q : Except E β → World ι S Ev → World ι S Ev → Prop} {u w : World ι S Ev}
    (hf : ∀ a, r = .ok a → wp rules K i (f a) Q u w)
    (hthrow : ∀ e, r = .error e → Q (.error e) u w) :
    wp rules K i ((Coro.lift r).bind f) Q u w := by
  rw [wp_bind, wp_lift]
  cases r with
  | ok a => exact hf a rfl
  | error e => exact hthrow e rfl

theorem keeps_of_acts (hK : Kept rules K i T P J) {c : Coro S Ev C R E Unit}
    {u w : World ι S Ev} (hc : c.Acts T P w.state) (h : J u w) : Keeps rules K i c u w :=
  wp_of_acts hK hc h fun _ _ _ => hK.rests

end
end Coop
