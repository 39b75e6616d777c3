import ClassFile.Step
import Mathlib.Logic.Relation
import Mathlib.Tactic.Common

namespace ClassFile.Step

variable {ε σ α β : Type} {s t : σ}

lemma pure_eq_ok_iff {a b : α} :
    (pure a : EStateM ε σ α) s = .ok b t ↔ a = b ∧ s = t := by
  simp [pure, EStateM.pure]

lemma bind_of_ok {x : EStateM ε σ α} {f : α → EStateM ε σ β} {a : α} (h : x s = .ok a t) :
    (x >>= f) s = f a t := by
  simp only [bind, EStateM.bind, h]

lemma throw_ne_ok {e : ε} {a : α} : (throw e : EStateM ε σ α) s ≠ .ok a t := nofun

lemma ofExcept_eq_ok_iff {x : Except ε α} {a : α} :
    (ofExcept x : EStateM ε σ α) s = .ok a t ↔ x = .ok a ∧ s = t := by
  cases x with
  | ok b => simp [ofExcept, pure_eq_ok_iff]
  | error e => simp [ofExcept, throw_ne_ok]

lemma ofExcept_bind {x : Except ε α} {f : α → EStateM ε σ β} :
    (ofExcept x >>= f) s = match x with
      | .error e => .error e s
      | .ok a => f a s := by
  cases x <;> rfl

lemma get_bind {f : σ → EStateM ε σ β} : (get >>= f) s = f s s := rfl

lemma seq_eq_ok_iff {x : EStateM ε σ (α → β)} {y : EStateM ε σ α} {b : β} :
    (x <*> y) s = .ok b t ↔ ∃ f u a, x s = .ok f u ∧ y u = .ok a t ∧ f a = b := by
  simp only [seq_eq_bind_map, bind_eq_ok_iff, map_eq_ok_iff]
  constructor
  · rintro ⟨f, u, hx, a, hy, rfl⟩
    exact ⟨f, u, a, hx, hy, rfl⟩
  · rintro ⟨f, u, a, hx, hy, rfl⟩
    exact ⟨f, u, hx, a, hy, rfl⟩

lemma map_eq_ok_iff_of_inverse {x : EStateM ε σ α} {f : α → β} {g : β → α} {b : β}
    (hf : ∀ b, f (g b) = b) (hg : ∀ a, g (f a) = a) :
    (f <$> x) s = .ok b t ↔ x s = .ok (g b) t := by
  rw [map_eq_ok_iff]
  constructor
  · rintro ⟨a, hx, rfl⟩
    rwa [hg]
  · exact fun hx => ⟨g b, hx, hf b⟩

lemma except_bind_eq_ok_iff {x : Except ε α} {f : α → Except ε β} {b : β} :
    (x >>= f) = .ok b ↔ ∃ a, x = .ok a ∧ f a = .ok b := by
  cases x with
  | ok a => simp [bind, Except.bind]
  | error e => simp [bind, Except.bind]

section Checks

variable {p : Prop} [Decidable p] {e : ε} {b : β}

lemma check_apply {f : PUnit → EStateM ε σ β} :
    (if p then throw e >>= f else f ⟨⟩) s = if p then .error e s else f ⟨⟩ s := by
  split <;> rfl

lemma check_eq_ok_iff {f : PUnit → EStateM ε σ β} :
    (if p then throw e >>= f else f ⟨⟩) s = .ok b t ↔ ¬ p ∧ f ⟨⟩ s = .ok b t := by
  rw [check_apply]
  split <;> simp [*]

lemma refuse_eq_ok_iff {x : EStateM ε σ β} :
    (if p then throw e else x) s = .ok b t ↔ ¬ p ∧ x s = .ok b t := by
  split
  · simp [*, throw_ne_ok]
  · simp [*]

end Checks

variable {ι : Type} {f : ι → EStateM ε σ α} {i : ι} {l : List ι} {bs : List α}

lemma mapM_nil_eq_ok_iff : ([] : List ι).mapM f s = .ok bs t ↔ bs = [] ∧ s = t := by
  rw [List.mapM_nil, pure_eq_ok_iff, eq_comm]

lemma mapM_cons_eq_ok_iff :
    (i :: l).mapM f s = .ok bs t ↔
      ∃ b u rest, f i s = .ok b u ∧ l.mapM f u = .ok rest t ∧ bs = b :: rest := by
  simp only [List.mapM_cons, bind_eq_ok_iff, pure_eq_ok_iff]
  constructor
  · rintro ⟨b, u, hb, rest, _, hr, rfl, rfl⟩
    exact ⟨b, u, rest, hb, hr, rfl⟩
  · rintro ⟨b, u, rest, hb, hr, rfl⟩
    exact ⟨b, u, hb, rest, t, hr, rfl, rfl⟩

def after (x : EStateM ε σ α) (s : σ) : σ :=
  match x s with
  | .ok _ t => t
  | .error _ t => t

lemma after_of_ok {x : EStateM ε σ α} {a : α} (h : x s = .ok a t) : after x s = t := by
  rw [after, h]

def Walks (r : σ → σ → Prop) (x : EStateM ε σ α) : Prop :=
  ∀ s, Relation.ReflTransGen r s (after x s)

variable {r : σ → σ → Prop}

lemma Walks.of_ok {x : EStateM ε σ α} {a : α} (hx : Walks r x) (h : x s = .ok a t) :
    Relation.ReflTransGen r s t :=
  after_of_ok h ▸ hx s

lemma walks_pure (a : α) : Walks r (pure a : EStateM ε σ α) := fun _ => .refl

lemma Walks.bind {x : EStateM ε σ α} {g : α → EStateM ε σ β} (hx : Walks r x)
    (hg : ∀ a, Walks r (g a)) : Walks r (x >>= g) := by
  intro s
  have hs := hx s
  simp only [after] at hs ⊢
  simp only [Bind.bind, EStateM.bind]
  cases h : x s with
  | ok a t =>
    rw [h] at hs
    exact hs.trans (hg a t)
  | error e t => rwa [h] at hs

lemma Walks.forM {items : List ι} {g : ι → EStateM ε σ PUnit} (hg : ∀ i, Walks r (g i)) :
    Walks r (items.forM g) := by
  induction items with
  | nil => exact walks_pure _
  | cons i items ih => exact Walks.bind (hg i) fun _ => ih

end ClassFile.Step
