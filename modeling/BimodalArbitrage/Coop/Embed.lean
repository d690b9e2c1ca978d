import BimodalArbitrage.Coop.Rely

/-!
# A coroutine as part of a larger program

The state, the events and the calls of the part are found in those of the whole.
-/

namespace Coop
variable {ι S S' Ev Ev' C C' : Type} {R : C → Type} {R' : C' → Type} {E Inp α β : Type}

structure Embedding (S S' Ev Ev' : Type) {C C' : Type} (R : C → Type) (R' : C' → Type) where
  get : S' → S
  set : S → S' → S'
  event : Ev → Ev'
  call : C → C'
  reply : ∀ c, R' (call c) → R c

namespace Coro

def embed (em : Embedding S S' Ev Ev' R R') : Coro S Ev C R E α → Coro S' Ev' C' R' E α
  | .pure a => .pure a
  | .throw e => .throw e
  | .get k => .get fun s => (k (em.get s)).embed em
  | .set s k => .get fun s' => .set (em.set s s') (k.embed em)
  | .emit e k => .emit (em.event e) (k.embed em)
  | .turn k => .turn (k.embed em)
  | .await c k => .await (em.call c) fun r => (k (r.map (em.reply c))).embed em

section
variable (em : Embedding S S' Ev Ev' R R')

@[simp] theorem embed_pure (a : α) : (.pure a : Coro S Ev C R E α).embed em = .pure a := rfl

@[simp] theorem embed_bind (x : Coro S Ev C R E α) (f : α → Coro S Ev C R E β) :
    (x.bind f).embed em = (x.embed em).bind fun a => (f a).embed em := by
  induction x with
  | pure a => rfl
  | throw e => rfl
  | get k ih => exact congrArg Coro.get (funext fun s => ih _)
  | set s k ih => exact congrArg Coro.get (funext fun s' => congrArg (Coro.set _) ih)
  | emit e k ih => exact congrArg (Coro.emit _) ih
  | turn k ih => exact congrArg Coro.turn ih
  | await c k ih => exact congrArg (Coro.await _) (funext fun r => ih _)

@[simp] theorem embed_attempt (x : Coro S Ev C R E α) :
    x.attempt.embed em = (x.embed em).attempt := by
  induction x with
  | pure a => rfl
  | throw e => rfl
  | get k ih => exact congrArg Coro.get (funext fun s => ih _)
  | set s k ih => exact congrArg Coro.get (funext fun s' => congrArg (Coro.set _) ih)
  | emit e k ih => exact congrArg (Coro.emit _) ih
  | turn k ih => exact congrArg Coro.turn ih
  | await c k ih => exact congrArg (Coro.await _) (funext fun r => ih _)

@[simp] theorem embed_report (e : Ev) :
    (Coro.report e : Coro S Ev C R E Unit).embed em = Coro.report (em.event e) := rfl

@[simp] theorem embed_yield :
    (Coro.yield : Coro S Ev C R E Unit).embed em = Coro.yield := rfl

end

section
variable {em : Embedding S S' Ev Ev' R R'} {rules : Rules ι S' Ev' C' R' E Inp}
  {K : Contract ι S' Ev' Inp} {i : ι} {u w : World ι S' Ev'}

theorem wp_embed_state {Q : Except E S → World ι S' Ev' → World ι S' Ev' → Prop} :
    wp rules K i ((Coro.state : Coro S Ev C R E S).embed em) Q u w ↔
      Q (.ok (em.get w.state)) u w := Iff.rfl

theorem wp_embed_modify (f : S → S) {Q : Except E Unit → World ι S' Ev' → World ι S' Ev' → Prop} :
    wp rules K i ((Coro.modify f : Coro S Ev C R E Unit).embed em) Q u w ↔
      Q (.ok ()) u (w.put (em.set (f (em.get w.state)) w.state)) := Iff.rfl

theorem wp_embed_call (c : C) {Q : Except E (R c) → World ι S' Ev' → World ι S' Ev' → Prop} :
    wp rules K i ((Coro.call c : Coro S Ev C R E (R c)).embed em) Q u w ↔ K.Rests i u w ∧
      ∀ v x r s, K.rely i w v → K.inv v → K.allows v (.reply i x) →
        rules.answer v.state (em.call c) x = some (r, s) →
          Q (r.map (em.reply c)) v (v.put s) := by
  refine and_congr_right fun _ => forall₄_congr fun v x r s => ?_
  cases r <;> exact Iff.rfl

end
end Coro
end Coop
