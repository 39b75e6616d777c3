import ClassFile.Proofs.Reading

/-! Reading with a log. Whatever is logged, a read finds the same and stops at the same place. -/

namespace ClassFile

variable {α β ι : Type} {own : Error → Prop}

def withLog (shown : Array Trace.Line) :
    EStateM.Result Error Cursor α → EStateM.Result Error Reader α
  | .ok a c => .ok a ⟨c, shown⟩
  | .error e c => .error e ⟨c, shown⟩

namespace ReadRecord

def Logs (read : ReadRecord α) (lines : Cursor → List Trace.Line) : Prop :=
  ∀ r, read r = withLog (r.shown ++ lines r.cursor) (quietly read r.cursor)

variable {x : ReadRecord α} {f : α → ReadRecord β} {ls ms : Cursor → List Trace.Line}

lemma Logs.congr (h : Logs x ls) (hl : ∀ c, ls c = ms c) : Logs x ms := by
  intro r
  rw [← hl]
  exact h r

@[simp]
lemma quietly_lift (read : Read α) : quietly (liftM read : ReadRecord α) = read := by
  funext c
  simp only [quietly, liftM, monadLift, MonadLift.monadLift]
  cases read c <;> rfl

@[simp]
lemma quietly_pure (a : α) : quietly (pure a) = pure a := rfl

@[simp]
lemma quietly_throw (e : Error) : quietly (throw e : ReadRecord α) = throw e := rfl

@[simp]
lemma quietly_trace (tracing : Tracing) (render : UInt32 → String) :
    quietly (trace tracing render) = pure () := rfl

lemma logs_lift (read : Read α) : Logs (liftM read) fun _ => [] := by
  intro r
  rw [quietly_lift]
  simp only [liftM, monadLift, MonadLift.monadLift]
  cases read r.cursor <;> simp [withLog]

lemma logs_pure (a : α) : Logs (pure a) fun _ => [] := by
  intro r
  rw [quietly_pure]
  simp [withLog, pure, EStateM.pure]

lemma logs_throw (e : Error) : Logs (throw e : ReadRecord α) fun _ => [] := by
  intro r
  rw [quietly_throw]
  change EStateM.Result.error e r = withLog _ (.error e r.cursor)
  simp [withLog]

lemma logs_trace (tracing : Tracing) (render : UInt32 → String) :
    Logs (trace tracing render) fun _ => tracing.lines render :=
  fun _ => rfl

lemma quietly_bind_of_logs {ms : α → Cursor → List Trace.Line} (hx : Logs x ls)
    (hf : ∀ a, Logs (f a) (ms a)) : quietly (x >>= f) = quietly x >>= fun a => quietly (f a) := by
  funext c
  simp only [quietly, bind, EStateM.bind]
  rw [hx]
  cases quietly x c with
  | error e d => rfl
  | ok a d =>
    dsimp only [withLog]
    rw [hf]
    simp only [quietly]
    cases f a ⟨d, #[]⟩ <;> rfl

lemma Logs.bind {ms : α → Cursor → List Trace.Line} (hx : Logs x ls) (hf : ∀ a, Logs (f a) (ms a)) :
    Logs (x >>= f) fun c => ls c ++
      match quietly x c with
      | .ok a d => ms a d
      | .error _ _ => [] := by
  intro r
  rw [quietly_bind_of_logs hx hf]
  simp only [Bind.bind, EStateM.bind]
  rw [hx]
  cases quietly x r.cursor with
  | error e d => simp [withLog]
  | ok a d =>
    dsimp only [withLog]
    rw [hf, append_append_list]
    cases quietly (f a) d <;> rfl

lemma Logs.bind_silent (hx : Logs x fun _ => []) (hf : ∀ a, Logs (f a) fun _ => []) :
    Logs (x >>= f) fun _ => [] := by
  apply (hx.bind hf).congr
  intro c
  cases quietly x c <;> rfl

lemma Logs.bind_of_silent {ms : α → Cursor → List Trace.Line} (hx : Logs x fun _ => [])
    (hf : ∀ a, Logs (f a) (ms a)) : Logs (x >>= f) fun c =>
      match quietly x c with
      | .ok a d => ms a d
      | .error _ _ => [] :=
  hx.bind hf

lemma Logs.bind_pure (hx : Logs x ls) (g : α → β) : Logs (x >>= fun a => pure (g a)) ls := by
  apply (hx.bind fun a => logs_pure (g a)).congr
  intro c
  cases quietly x c <;> exact List.append_nil _

lemma logs_text (pool : Pool) : Logs (text pool) fun _ => [] := by
  refine (logs_lift _).bind_silent fun index => ?_
  cases pool.textAt index with
  | ok text => exact logs_pure text
  | error e => exact logs_throw e

lemma Composed.exists_logs (h : Composed own x) : ∃ ls, Logs x ls := by
  induction h with
  | primitive hx =>
    cases hx with
    | lift _ => exact ⟨_, logs_lift _⟩
    | trace tracing render => exact ⟨_, logs_trace tracing render⟩
    | fault _ => exact ⟨_, logs_throw _⟩
  | pure a => exact ⟨_, logs_pure a⟩
  | bind _ _ ihx ihf =>
    obtain ⟨ls, hx⟩ := ihx
    choose ms hf using ihf
    exact ⟨_, hx.bind hf⟩

lemma quietly_bind (hx : Composed own x) (hf : ∀ a, Composed own (f a)) :
    quietly (x >>= f) = quietly x >>= fun a => quietly (f a) := by
  obtain ⟨ls, hx⟩ := hx.exists_logs
  choose ms hf using fun a => (hf a).exists_logs
  exact quietly_bind_of_logs hx hf

lemma quietly_mapM {g : ι → ReadRecord α} (hg : ∀ i, Composed own (g i)) (items : List ι) :
    quietly (items.mapM g) = items.mapM fun i => quietly (g i) := by
  induction items with
  | nil => rfl
  | cons i items ih =>
    have hrest : Composed own (items.mapM g) := .mapM hg items
    rw [List.mapM_cons, List.mapM_cons, quietly_bind (hg i) fun a => .bind hrest fun as => .pure _]
    refine bind_congr fun a => ?_
    rw [quietly_bind hrest fun as => .pure _, ih]
    rfl

end ReadRecord

end ClassFile
