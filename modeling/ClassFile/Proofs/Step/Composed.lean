import ClassFile.Proofs.Step.Fault

/-! What primitive steps keep, and composition keeps too, holds of all that they make up. -/

namespace ClassFile.Step

variable {ε σ α β ι : Type}

inductive Composed (primitive : ∀ {α : Type}, EStateM ε σ α → Prop) :
    ∀ {α : Type}, EStateM ε σ α → Prop
  | primitive {α : Type} {x : EStateM ε σ α} : primitive x → Composed primitive x
  | pure {α : Type} (a : α) : Composed primitive (pure a)
  | bind {α β : Type} {x : EStateM ε σ α} {f : α → EStateM ε σ β} : Composed primitive x →
      (∀ a, Composed primitive (f a)) → Composed primitive (x >>= f)

def Faults (q : ε → σ → Prop) (x : EStateM ε σ α) : Prop :=
  ∀ s e t, x s = .error e t → q e t

/-- From states that `r` relates `x` ends alike, unless it stops in the first of them with a fault
that `stop` relates to the place. -/
def Mirrors (r : σ → σ → Prop) (stop : ε → σ → Prop) (x : EStateM ε σ α) : Prop :=
  ∀ s s', r s s' →
    (∀ a t, x s = .ok a t → ∃ t', r t t' ∧ x s' = .ok a t') ∧
      ∀ e t, x s = .error e t → stop e t ∨ ∃ t', x s' = .error e t'

namespace Composed

variable {primitive : ∀ {α : Type}, EStateM ε σ α → Prop} {r : σ → σ → Prop} {q : ε → σ → Prop}

lemma map {x : EStateM ε σ α} (f : α → β) (hx : Composed primitive x) :
    Composed primitive (f <$> x) := by
  rw [map_eq_pure_bind]
  exact .bind hx fun a => .pure (f a)

lemma seq {x : EStateM ε σ (α → β)} {y : EStateM ε σ α} (hx : Composed primitive x)
    (hy : Composed primitive y) : Composed primitive (x <*> y) := by
  rw [seq_eq_bind_map]
  exact .bind hx fun f => hy.map f

lemma mapM {f : ι → EStateM ε σ α} (hf : ∀ i, Composed primitive (f i)) (items : List ι) :
    Composed primitive (items.mapM f) := by
  induction items with
  | nil =>
    rw [List.mapM_nil]
    exact .pure []
  | cons i items ih =>
    rw [List.mapM_cons]
    exact .bind (hf i) fun a => .bind ih fun as => .pure (a :: as)

lemma walks {x : EStateM ε σ α} (hx : Composed primitive x)
    (hp : ∀ {α : Type} (x : EStateM ε σ α), primitive x → Walks r x) : Walks r x := by
  induction hx with
  | primitive hx => exact hp _ hx
  | pure a => exact walks_pure a
  | bind _ _ ihx ihf => exact ihx.bind ihf

lemma faults {x : EStateM ε σ α} (hx : Composed primitive x)
    (hp : ∀ {α : Type} (x : EStateM ε σ α), primitive x → Faults q x) : Faults q x := by
  induction hx with
  | primitive hx => exact hp _ hx
  | pure a => exact fun s e t h => absurd h pure_ne_error
  | bind _ _ ihx ihf =>
    intro s e t h
    rcases bind_eq_error_iff.mp h with h | ⟨a, u, _, h⟩
    · exact ihx s e t h
    · exact ihf a u e t h

lemma mirrors {x : EStateM ε σ α} (hx : Composed primitive x)
    (hp : ∀ {α : Type} (x : EStateM ε σ α), primitive x → Mirrors r q x) : Mirrors r q x := by
  induction hx with
  | primitive hx => exact hp _ hx
  | pure a =>
    intro s s' hs
    constructor
    · intro b t h
      obtain ⟨rfl, rfl⟩ := pure_eq_ok_iff.mp h
      exact ⟨s', hs, rfl⟩
    · exact fun e t h => absurd h pure_ne_error
  | bind _ _ ihx ihf =>
    intro s s' hs
    constructor
    · intro b t h
      obtain ⟨a, u, hx, hf⟩ := bind_eq_ok_iff.mp h
      obtain ⟨u', hu, hx'⟩ := (ihx s s' hs).1 a u hx
      obtain ⟨t', ht, hf'⟩ := (ihf a u u' hu).1 b t hf
      exact ⟨t', ht, bind_eq_ok_iff.mpr ⟨a, u', hx', hf'⟩⟩
    · intro e t h
      rcases bind_eq_error_iff.mp h with hx | ⟨a, u, hx, hf⟩
      · rcases (ihx s s' hs).2 e t hx with hstop | ⟨t', hx'⟩
        · exact Or.inl hstop
        · exact Or.inr ⟨t', bind_eq_error_iff.mpr (Or.inl hx')⟩
      · obtain ⟨u', hu, hx'⟩ := (ihx s s' hs).1 a u hx
        rcases (ihf a u u' hu).2 e t hf with hstop | ⟨t', hf'⟩
        · exact Or.inl hstop
        · exact Or.inr ⟨t', bind_eq_error_iff.mpr (Or.inr ⟨a, u', hx', hf'⟩)⟩

end Composed

end ClassFile.Step
