import ClassFile.Proofs.Pool.Stability
import ClassFile.Proofs.Step.Fault
import Mathlib.Data.Set.Card

/-! Resolving lists of methods. Whether the strings fit depends only on the set of those that are
new. -/

namespace ClassFile

variable {pool pool' : Pool} {text : String} {used : List String}

namespace Pool

lemma Valid.storable_of_holds (hv : pool.Valid) (h : pool.Holds text) :
    (Constant.utf8 text).Storable := by
  obtain ⟨i, hi⟩ := hv.holds_iff_get.mp h
  exact hv.storable_of_get hi

def fresh (pool : Pool) (used : List String) : List String :=
  (used.filter fun text => ¬ pool.Holds text).eraseDups

def pushTexts (pool : Pool) (used : List String) : Pool := pool.pushAll (used.map .utf8)

lemma size_push_text (pool : Pool) (text : String) :
    (pool.push (.utf8 text)).size = pool.size + 1 :=
  size_push pool (.utf8 text)

lemma fresh_cons_of_holds (h : pool.Holds text) : pool.fresh (text :: used) = pool.fresh used := by
  rw [fresh, List.filter_cons_of_neg (by simpa using h)]
  rfl

lemma fresh_cons_of_new (h : ¬ pool.Holds text) :
    pool.fresh (text :: used) = text :: (pool.push (.utf8 text)).fresh used := by
  rw [fresh, List.filter_cons_of_pos (by simpa using h), List.eraseDups_cons, List.filter_filter]
  congr 2
  apply List.filter_congr
  intro s _
  have hpush : (pool.push (.utf8 text)).Holds s ↔ pool.Holds s ∨ s = text := by
    simp [holds_push, eq_comm]
  by_cases hs : s = text
  · simp [hs, holds_push]
  · simp [hpush, hs]

lemma mem_fresh_iff {s : String} : s ∈ pool.fresh used ↔ s ∈ used ∧ ¬ pool.Holds s := by
  simp [fresh]

lemma fresh_nodup (pool : Pool) (used : List String) : (pool.fresh used).Nodup := by
  induction used generalizing pool with
  | nil => simp [fresh]
  | cons text used ih =>
    by_cases h : pool.Holds text
    · rw [fresh_cons_of_holds h]
      exact ih pool
    · rw [fresh_cons_of_new h, List.nodup_cons]
      refine ⟨fun hmem => ?_, ih _⟩
      exact (mem_fresh_iff.mp hmem).2 (holds_push.mpr (Or.inr rfl))

lemma length_fresh (pool : Pool) (used : List String) :
    (pool.fresh used).length = {text | text ∈ used ∧ ¬ pool.Holds text}.ncard := by
  have hset : {text | text ∈ used ∧ ¬ pool.Holds text} =
      ((pool.fresh used).toFinset : Set String) := by
    ext s
    simp [mem_fresh_iff]
  rw [hset, Set.ncard_coe_finset, List.toFinset_card_of_nodup (fresh_nodup pool used)]

end Pool

namespace Intern

def ensure (text : String) : Intern Unit := do
  let _ ← addText text

def ensureAll (used : List String) : Intern Unit := used.forM ensure

lemma ensure_of_holds (hv : pool.Valid) (h : pool.Holds text) : ensure text pool = .ok () pool := by
  obtain ⟨i, hi⟩ := hv.knows_iff_holds.mpr h
  exact Step.bind_eq_ok_iff.mpr ⟨i, pool, add_of_present rfl hi, rfl⟩

lemma ensure_new_ok_iff (hv : pool.Valid) (h : ¬ pool.Holds text) :
    ensure text pool = .ok () pool' ↔ (Constant.utf8 text).Storable ∧
      pool.size + 1 ≤ Pool.maxIndex ∧ pool' = pool.push (.utf8 text) := by
  have hf : pool.find? (.utf8 text) = none := by
    by_contra hn
    exact h (hv.knows_iff_holds.mp (Option.ne_none_iff_exists'.mp hn))
  have hslots : (Constant.utf8 text).slots = 1 := rfl
  rw [ensure, addText, Step.bind_eq_ok_iff, add_of_absent rfl hf, hslots,
    Constant.storable_utf8_iff]
  by_cases hlen : (Constant.utf8 text).payloadLength > Constant.maxTextLength
  · simp [hlen]
  by_cases hfit : pool.size + 1 > Pool.maxIndex
  · simp [hlen, hfit, Nat.not_le.mpr hfit]
  · simp [hlen, hfit, Nat.not_lt.mp hfit, Step.pure_eq_ok_iff, eq_comm]

lemma ensureAll_ok_iff (hv : pool.Valid) :
    ensureAll used pool = .ok () pool' ↔ (∀ text ∈ used, (Constant.utf8 text).Storable) ∧
      pool.size + (pool.fresh used).length ≤ Pool.maxIndex ∧
      pool' = pool.pushTexts (pool.fresh used) := by
  -- each string is either held already or takes the next slot
  induction used generalizing pool with
  | nil =>
    have hsize := hv.size_le
    simp [ensureAll, Pool.fresh, Pool.pushTexts, Pool.pushAll, Step.pure_eq_ok_iff, hsize, eq_comm]
  | cons text used ih =>
    rw [ensureAll, Step.forM_cons_eq_ok_iff, List.forall_mem_cons]
    by_cases h : pool.Holds text
    · have hst : (Constant.utf8 text).Storable := hv.storable_of_holds h
      rw [Pool.fresh_cons_of_holds h]
      simp [ensure_of_holds hv h, hst, ← ih hv, ensureAll]
    · rw [Pool.fresh_cons_of_new h, List.length_cons]
      simp only [ensure_new_ok_iff hv h]
      constructor
      · rintro ⟨p, ⟨hst, hfit, rfl⟩, h⟩
        obtain ⟨hsts, hsize, rfl⟩ := (ih (.push hv hst hfit)).mp h
        rw [Pool.size_push_text] at hsize
        exact ⟨⟨hst, hsts⟩, by omega, rfl⟩
      · rintro ⟨⟨hst, hsts⟩, hsize, rfl⟩
        have hfit : pool.size + 1 ≤ Pool.maxIndex := by omega
        refine ⟨_, ⟨hst, hfit, rfl⟩, (ih (.push hv hst hfit)).mpr ⟨hsts, ?_, rfl⟩⟩
        rw [Pool.size_push_text]
        omega

lemma ensureAll_of_holds (hv : pool.Valid) (h : ∀ text ∈ used, pool.Holds text) :
    ensureAll used pool = .ok () pool := by
  have hfresh : pool.fresh used = [] := by
    apply List.eq_nil_iff_forall_not_mem.mpr
    intro text ht
    obtain ⟨hmem, hn⟩ := Pool.mem_fresh_iff.mp ht
    exact hn (h text hmem)
  apply (ensureAll_ok_iff hv).mpr
  rw [hfresh]
  exact ⟨fun text ht => hv.storable_of_holds (h text ht), hv.size_le, rfl⟩

lemma ensureAll_error (hv : pool.Valid) {fault : Error}
    (h : ensureAll used pool = .error fault pool') :
    ∃ before text after, used = before ++ text :: after ∧
      addText text pool' = .error fault pool' ∧ pool' = pool.pushTexts (pool.fresh before) := by
  obtain ⟨before, text, after, p, rfl, hb, ht⟩ := Step.forM_eq_error_iff.mp h
  obtain ⟨-, -, hp⟩ := (ensureAll_ok_iff hv).mp hb
  rcases Step.bind_eq_error_iff.mp ht with ht | ⟨_, _, _, ⟨⟩⟩
  obtain rfl := unchanged_of_error ht
  exact ⟨before, text, after, rfl, ht, hp⟩

end Intern

namespace Pool

lemma slots_pushTexts (pool : Pool) (used : List String) :
    (pool.pushTexts used).slots.toList =
      pool.slots.toList ++ used.map fun text => some (.utf8 text) := by
  induction used generalizing pool with
  | nil => simp [pushTexts, pushAll]
  | cons text used ih =>
    change ((pool.push (.utf8 text)).pushTexts used).slots.toList = _
    rw [ih]
    simp [push, Constant.isWide]

lemma size_pushTexts (pool : Pool) (used : List String) :
    (pool.pushTexts used).size = pool.size + used.length := by
  have hlen := congrArg List.length (slots_pushTexts pool used)
  simpa [size] using hlen

lemma holds_pushTexts : (pool.pushTexts used).Holds text ↔ pool.Holds text ∨ text ∈ used := by
  rw [Holds, Holds, ← Array.mem_toList_iff, slots_pushTexts]
  simp

end Pool

namespace Method

variable {m : Method} {ms ms' : List Method}

def textsOf (ms : List Method) : List String := ms.flatMap texts

lemma resolve_eq (m : Method) : m.resolve = Intern.ensureAll m.texts := by
  have has : m.attributes.forM Attribute.resolve =
      (m.attributes.map Attribute.name).forM Intern.ensure := by
    rw [List.forM_eq_forM, List.forM_eq_forM, List.forM_map]
    rfl
  simp only [resolve, has, Intern.ensureAll, texts, List.forM_eq_forM, List.forM_cons,
    Intern.ensure, bind_assoc, pure_bind]

lemma resolveAll_eq (ms : List Method) : ms.forM resolve = Intern.ensureAll (textsOf ms) := by
  have hm : resolve = fun m => Intern.ensureAll m.texts := funext resolve_eq
  rw [Intern.ensureAll, textsOf, Step.forM_flatMap, hm]
  rfl

lemma resolveAll_ok_iff (hv : pool.Valid) :
    ms.forM resolve pool = .ok () pool' ↔
      (∀ text ∈ textsOf ms, (Constant.utf8 text).Storable) ∧
        pool.size + {text | text ∈ textsOf ms ∧ ¬ pool.Holds text}.ncard ≤ Pool.maxIndex ∧
        pool' = pool.pushTexts (pool.fresh (textsOf ms)) := by
  rw [resolveAll_eq, Intern.ensureAll_ok_iff hv, Pool.length_fresh]

lemma mem_textsOf_perm (h : ms'.Perm ms) : text ∈ textsOf ms' ↔ text ∈ textsOf ms :=
  (h.flatMap_right texts).mem_iff

lemma holds_of_resolveAll (hv : pool.Valid) (h : ms.forM resolve pool = .ok () pool') :
    pool'.Holds text ↔ pool.Holds text ∨ text ∈ textsOf ms := by
  obtain ⟨-, -, rfl⟩ := (resolveAll_ok_iff hv).mp h
  rw [Pool.holds_pushTexts, Pool.mem_fresh_iff]
  tauto

lemma size_of_resolveAll (hv : pool.Valid) (h : ms.forM resolve pool = .ok () pool') :
    pool'.size = pool.size + {text | text ∈ textsOf ms ∧ ¬ pool.Holds text}.ncard := by
  obtain ⟨-, -, rfl⟩ := (resolveAll_ok_iff hv).mp h
  rw [Pool.size_pushTexts, Pool.length_fresh]

structure Resolves (pool : Pool) (ms : List Method) : Prop where
  ok_iff : (∃ pool', ms.forM resolve pool = .ok () pool') ↔
    (∀ text ∈ textsOf ms, (Text.ModifiedUtf8.encode text).length ≤ 65535) ∧
      pool.size + {text | text ∈ textsOf ms ∧ ¬ pool.Holds text}.ncard ≤ 65534
  slots : ∀ pool', ms.forM resolve pool = .ok () pool' →
    pool'.slots.toList =
      pool.slots.toList ++ (pool.fresh (textsOf ms)).map fun text => some (.utf8 text)
  again : ∀ (ms' : List Method) (pool' : Pool), ms'.Perm ms →
    ms.forM resolve pool = .ok () pool' → ms'.forM resolve pool' = .ok () pool'
  permuted_ok_iff : ∀ ms' : List Method, ms'.Perm ms →
    ((∃ pool', ms'.forM resolve pool = .ok () pool') ↔ ∃ pool', ms.forM resolve pool = .ok () pool')
  permuted : ∀ (ms' : List Method) (pool' pool'' : Pool), ms'.Perm ms →
    ms.forM resolve pool = .ok () pool' → ms'.forM resolve pool = .ok () pool'' →
      pool''.size = pool'.size ∧ ∀ text, pool''.Holds text ↔ pool'.Holds text
  failed : ∀ fault pool', ms.forM resolve pool = .error fault pool' →
    ∃ before text after, textsOf ms = before ++ text :: after ∧
      Intern.addText text pool' = .error fault pool' ∧
      pool'.slots.toList =
        pool.slots.toList ++ (pool.fresh before).map fun text => some (.utf8 text)

theorem resolves_of_reachable (hr : pool.Reachable) (ms : List Method) : Resolves pool ms := by
  have hv := hr.valid
  constructor
  case ok_iff =>
    simp only [resolveAll_ok_iff hv, exists_and_left, exists_eq, and_true]
    rfl
  case slots =>
    intro pool' h
    obtain ⟨-, -, rfl⟩ := (resolveAll_ok_iff hv).mp h
    exact Pool.slots_pushTexts ..
  case again =>
    intro ms' pool' hperm h
    have hv' : pool'.Valid := hv.extends ((Step.Walks.forM resolve_walks).of_ok h)
    rw [resolveAll_eq]
    apply Intern.ensureAll_of_holds hv'
    intro text ht
    exact (holds_of_resolveAll hv h).mpr (Or.inr ((mem_textsOf_perm hperm).mp ht))
  case permuted_ok_iff =>
    intro ms' hperm
    simp only [resolveAll_ok_iff hv, mem_textsOf_perm hperm, exists_and_left, exists_eq, and_true]
  case permuted =>
    intro ms' pool' pool'' hperm h h'
    constructor
    · simp only [size_of_resolveAll hv h, size_of_resolveAll hv h', mem_textsOf_perm hperm]
    · intro text
      rw [holds_of_resolveAll hv h, holds_of_resolveAll hv h', mem_textsOf_perm hperm]
  case failed =>
    intro fault pool' h
    rw [resolveAll_eq] at h
    obtain ⟨before, text, after, htexts, ht, rfl⟩ := Intern.ensureAll_error hv h
    exact ⟨before, text, after, htexts, ht, Pool.slots_pushTexts ..⟩

def overloads : List Method :=
  [⟨"a", "()V", .onlyPublic, [⟨"Code", [0xB1]⟩]⟩, ⟨"a", "(I)V", .onlyPublic, [⟨"Code", []⟩]⟩]

example : Pool.doubled.fresh (textsOf overloads) = ["()V", "Code", "(I)V"] := by decide

theorem resolves_overloads : Pool.doubled.Reachable ∧ Resolves .doubled overloads :=
  ⟨Pool.doubled_reachable, resolves_of_reachable Pool.doubled_reachable overloads⟩

end Method

end ClassFile
