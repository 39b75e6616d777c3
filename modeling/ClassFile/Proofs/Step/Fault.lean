import ClassFile.Proofs.Step

namespace ClassFile.Step

variable {ε σ α β ι κ : Type} {s t : σ} {e : ε}

lemma pure_ne_error {a : α} : (pure a : EStateM ε σ α) s ≠ .error e t := nofun

lemma after_of_error {x : EStateM ε σ α} (h : x s = .error e t) : after x s = t := by
  rw [after, h]

lemma exists_error_of_ne_ok {x : EStateM ε σ α} (h : ∀ a t, x s ≠ .ok a t) :
    ∃ e t, x s = .error e t := by
  cases hx : x s with
  | ok a t => exact absurd hx (h a t)
  | error e t => exact ⟨e, t, rfl⟩

lemma bind_eq_error_iff {x : EStateM ε σ α} {f : α → EStateM ε σ β} :
    (x >>= f) s = .error e t ↔
      x s = .error e t ∨ ∃ a u, x s = .ok a u ∧ f a u = .error e t := by
  simp only [bind, EStateM.bind]
  cases x s with
  | ok a u =>
    constructor
    · exact fun h => Or.inr ⟨a, u, rfl, h⟩
    · rintro (⟨⟨⟩⟩ | ⟨_, _, ⟨⟩, h⟩)
      exact h
  | error e u => simp

lemma map_eq_error_iff {x : EStateM ε σ α} {f : α → β} :
    (f <$> x) s = .error e t ↔ x s = .error e t := by
  simp only [Functor.map, EStateM.map]
  cases x s <;> simp

lemma ofExcept_eq_error_iff {x : Except ε α} :
    (ofExcept x : EStateM ε σ α) s = .error e t ↔ x = .error e ∧ s = t := by
  cases x with
  | ok a => simp [ofExcept, pure_ne_error]
  | error f =>
    change EStateM.Result.error f s = .error e t ↔ _
    simp

section Runs

variable {f : ι → EStateM ε σ PUnit} {i : ι} {l : List ι}

lemma forM_flatMap (parts : κ → List ι) (items : List κ) :
    (items.flatMap parts).forM f = items.forM fun k => (parts k).forM f := by
  induction items with
  | nil => rfl
  | cons k items ih =>
    rw [List.flatMap_cons, List.forM_eq_forM, List.forM_append, ← List.forM_eq_forM, ih]
    rfl

lemma forM_cons_eq_ok_iff :
    (i :: l).forM f s = .ok ⟨⟩ t ↔ ∃ u, f i s = .ok ⟨⟩ u ∧ l.forM f u = .ok ⟨⟩ t := by
  exact bind_eq_ok_iff.trans ⟨fun ⟨_, u, h⟩ => ⟨u, h⟩, fun ⟨u, h⟩ => ⟨⟨⟩, u, h⟩⟩

lemma ok_of_mem_of_forM (h : l.forM f s = .ok ⟨⟩ t) (hi : i ∈ l) :
    ∃ u v, f i u = .ok ⟨⟩ v := by
  induction l generalizing s with
  | nil => cases hi
  | cons j l ih =>
    obtain ⟨u, hj, h⟩ := forM_cons_eq_ok_iff.mp h
    cases hi with
    | head => exact ⟨s, u, hj⟩
    | tail _ hi => exact ih h hi

lemma forM_eq_error_iff :
    l.forM f s = .error e t ↔ ∃ before i after u, l = before ++ i :: after ∧
      before.forM f s = .ok ⟨⟩ u ∧ f i u = .error e t := by
  induction l generalizing s with
  | nil =>
    constructor
    · intro h
      cases h
    · rintro ⟨before, i, after, u, h, _⟩
      simp at h
  | cons j l ih =>
    change (f j >>= fun _ => l.forM f) s = .error e t ↔ _
    rw [bind_eq_error_iff]
    constructor
    · rintro (h | ⟨_, u, hj, h⟩)
      · exact ⟨[], j, l, s, rfl, rfl, h⟩
      · obtain ⟨before, i, after, v, rfl, hb, hi⟩ := ih.mp h
        exact ⟨j :: before, i, after, v, rfl, forM_cons_eq_ok_iff.mpr ⟨u, hj, hb⟩, hi⟩
    · rintro ⟨before, i, after, v, hl, hb, hi⟩
      cases before with
      | nil =>
        cases hl
        cases hb
        exact Or.inl hi
      | cons k before =>
        cases hl
        obtain ⟨u, hj, hb⟩ := forM_cons_eq_ok_iff.mp hb
        exact Or.inr ⟨⟨⟩, u, hj, ih.mpr ⟨before, i, after, v, rfl, hb, hi⟩⟩

end Runs

end ClassFile.Step
