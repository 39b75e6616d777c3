import ClassFile.Method.Codec
import ClassFile.Proofs.Pool.Form
import ClassFile.Proofs.Pool.Interning

/-! Pools over runs of calls that may grow the pool, whether they succeed or fail midway. -/

namespace ClassFile

inductive Pool.Call where
  | add (entry : Constant)
  | addText (text : String)
  | resolveAttribute (a : Attribute)
  | resolve (m : Method)

namespace Pool

def Call.run : Call → Intern Unit
  | add entry => do let _ ← Intern.add entry
  | addText text => do let _ ← Intern.addText text
  | resolveAttribute a => a.resolve
  | resolve m => m.resolve

def Call.after (call : Call) (pool : Pool) : Pool := Step.after call.run pool

def Call.Succeeds (call : Call) (pool : Pool) : Prop := ∃ pool', call.run pool = .ok () pool'

def afterAll (pool : Pool) (calls : List Call) : Pool :=
  calls.foldl (fun pool call => call.after pool) pool

inductive Reachable : Pool → Prop
  | empty : Reachable empty
  | read {c d : Cursor} {pool : Pool} : read c = .ok pool d → Reachable pool
  | call {pool : Pool} (call : Call) : Reachable pool → Reachable (call.after pool)

end Pool

lemma Attribute.resolve_walks (a : Attribute) : Step.Walks Pool.Grows a.resolve :=
  (Intern.add_walks _).bind fun _ => Step.walks_pure _

lemma Method.resolve_walks (m : Method) : Step.Walks Pool.Grows m.resolve :=
  (Intern.add_walks _).bind fun _ => (Intern.add_walks _).bind fun _ =>
    .forM Attribute.resolve_walks

namespace Pool

variable {pool pool' : Pool}

lemma Call.run_walks (call : Call) : Step.Walks Grows call.run := by
  cases call with
  | add entry => exact (Intern.add_walks entry).bind fun _ => Step.walks_pure _
  | addText text => exact (Intern.add_walks _).bind fun _ => Step.walks_pure _
  | resolveAttribute a => exact a.resolve_walks
  | resolve m => exact m.resolve_walks

lemma extends_afterAll (pool : Pool) (calls : List Call) : Extends pool (pool.afterAll calls) := by
  induction calls generalizing pool with
  | nil => exact .refl
  | cons call calls ih => exact (call.run_walks pool).trans (ih (call.after pool))

lemma afterAll_append (pool : Pool) (before later : List Call) :
    pool.afterAll (before ++ later) = (pool.afterAll before).afterAll later :=
  List.foldl_append

lemma Reachable.afterAll (hr : pool.Reachable) (calls : List Call) :
    (pool.afterAll calls).Reachable := by
  induction calls generalizing pool with
  | nil => exact hr
  | cons call calls ih => exact ih (hr.call call)

lemma Reachable.valid (hr : pool.Reachable) : pool.Valid := by
  induction hr with
  | empty => exact .empty
  | read h => exact (read_ok_iff.mp h).1
  | call call _ ih => exact ih.extends (call.run_walks _)

end Pool

structure Method.Resolved (m : Method) (pool : Pool) : Prop where
  name : pool.Knows m.name
  descriptor : pool.Knows m.descriptor
  attributes : ∀ a ∈ m.attributes, pool.Knows a.name

def Method.texts (m : Method) : List String :=
  m.name :: m.descriptor :: m.attributes.map Attribute.name

namespace Method

variable {pool pool' : Pool} {m : Method}

lemma Resolved.extends (hm : m.Resolved pool) (h : Pool.Extends pool pool') : m.Resolved pool' where
  name := hm.name.extends h
  descriptor := hm.descriptor.extends h
  attributes a ha := (hm.attributes a ha).extends h

lemma knows_of_resolve_attributes {attributes : List Attribute}
    (h : attributes.forM Attribute.resolve pool = .ok () pool') :
    ∀ a ∈ attributes, pool'.Knows a.name := by
  induction attributes generalizing pool with
  | nil => simp
  | cons b attributes ih =>
    obtain ⟨_, p, hb, h⟩ := Step.bind_eq_ok_iff.mp h
    obtain ⟨i, q, hi, hp⟩ := Step.bind_eq_ok_iff.mp hb
    obtain ⟨_, rfl⟩ := Step.pure_eq_ok_iff.mp hp
    have hext := (Step.Walks.forM Attribute.resolve_walks).of_ok h
    intro a ha
    rcases List.mem_cons.mp ha with rfl | ha
    · exact (Intern.knows_of_addText hi).extends hext
    · exact ih h a ha

lemma resolved_of_resolve (h : m.resolve pool = .ok () pool') : m.Resolved pool' := by
  obtain ⟨i, p, hi, h⟩ := Step.bind_eq_ok_iff.mp h
  obtain ⟨j, q, hj, h⟩ := Step.bind_eq_ok_iff.mp h
  have hp := (Intern.add_walks _).of_ok hj
  have hq := (Step.Walks.forM Attribute.resolve_walks).of_ok h
  exact ⟨(Intern.knows_of_addText hi).extends (hp.trans hq),
    (Intern.knows_of_addText hj).extends hq, knows_of_resolve_attributes h⟩

lemma resolve_attributes_ok {attributes : List Attribute}
    (hst : ∀ a ∈ attributes, (Constant.utf8 a.name).Storable)
    (hroom : pool.size + attributes.length ≤ Pool.maxIndex) :
    ∃ pool', attributes.forM Attribute.resolve pool = .ok () pool' := by
  induction attributes generalizing pool with
  | nil => exact ⟨pool, rfl⟩
  | cons a attributes ih =>
    rw [List.forall_mem_cons] at hst
    rw [List.length_cons] at hroom
    have hfit : pool.size < Pool.maxIndex := by omega
    obtain ⟨i, p, ha, hp⟩ := Intern.addText_ok hst.1 hfit
    have hroom' : p.size + attributes.length ≤ Pool.maxIndex := by omega
    obtain ⟨q, hq⟩ := ih hst.2 hroom'
    have hr : a.resolve pool = .ok () p := Step.bind_eq_ok_iff.mpr ⟨i, p, ha, rfl⟩
    exact ⟨q, Step.bind_eq_ok_iff.mpr ⟨(), p, hr, hq⟩⟩

lemma resolve_ok (hname : (Constant.utf8 m.name).Storable)
    (hdescriptor : (Constant.utf8 m.descriptor).Storable)
    (hattributes : ∀ a ∈ m.attributes, (Constant.utf8 a.name).Storable)
    (hroom : pool.size + 2 + m.attributes.length ≤ Pool.maxIndex) :
    ∃ pool', m.resolve pool = .ok () pool' := by
  have hfit : pool.size < Pool.maxIndex := by omega
  obtain ⟨i, p, hi, hp⟩ := Intern.addText_ok hname hfit
  have hfit' : p.size < Pool.maxIndex := by omega
  obtain ⟨j, q, hj, hq⟩ := Intern.addText_ok hdescriptor hfit'
  have hroom' : q.size + m.attributes.length ≤ Pool.maxIndex := by omega
  obtain ⟨pool', h⟩ := resolve_attributes_ok hattributes hroom'
  exact ⟨pool', Step.bind_eq_ok_iff.mpr ⟨i, p, hi, Step.bind_eq_ok_iff.mpr ⟨j, q, hj, h⟩⟩⟩

lemma resolved_afterAll {start : Pool} {calls before later : List Pool.Call}
    (hc : calls = before ++ .resolve m :: later)
    (hs : (Pool.Call.resolve m).Succeeds (start.afterAll before)) :
    m.Resolved (start.afterAll calls) := by
  obtain ⟨p, hp⟩ := hs
  have hafter : (Pool.Call.resolve m).after (start.afterAll before) = p := Step.after_of_ok hp
  rw [hc, Pool.afterAll_append]
  change m.Resolved (((Pool.Call.resolve m).after (start.afterAll before)).afterAll later)
  rw [hafter]
  exact (resolved_of_resolve hp).extends (Pool.extends_afterAll p later)

end Method

end ClassFile
