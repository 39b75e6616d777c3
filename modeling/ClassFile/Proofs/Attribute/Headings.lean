import ClassFile.Proofs.Tracing

/-! An attribute is logged by its heading, even if the bytes behind it are cut off. -/

namespace ClassFile

open BigEndian ReadRecord

variable {pool : Pool} {tracing : Tracing} {c d : Cursor} {bytes rest : List UInt8}
  {start width n : Nat}

def numberAt (bytes : List UInt8) (start width : Nat) : Nat :=
  ofBytes ((bytes.drop start).take width)

lemma numberAt_front (hn : n < 256 ^ width) : numberAt (toBytes width n ++ rest) 0 width = n := by
  rw [numberAt, List.drop_zero, List.take_left' (toBytes_length ..), ofBytes_toBytes_of_lt hn]

lemma numberAt_behind {w : Nat} (h : w ≤ start) :
    numberAt (toBytes w n ++ rest) start width = numberAt rest (start - w) width := by
  rw [numberAt, List.drop_append, toBytes_length, List.drop_of_length_le (by rwa [toBytes_length]),
    List.nil_append, numberAt]

lemma numberAt_lt : numberAt bytes start width < 256 ^ width :=
  (ofBytes_lt _).trans_le (Nat.pow_le_pow_right (by decide) (List.length_take_le ..))

lemma drop_eq_toBytes_numberAt (h : start + width ≤ bytes.length) :
    bytes.drop start =
      toBytes width (numberAt bytes start width) ++ bytes.drop (start + width) := by
  have hlen : ((bytes.drop start).take width).length = width := by simp; omega
  have hb := toBytes_ofBytes ((bytes.drop start).take width)
  rw [hlen] at hb
  rw [numberAt, hb, ← List.drop_drop, List.take_append_drop]

namespace Attribute

structure Heading where
  name : String
  length : UInt32

namespace Heading

def size : Nat := 6

def ofBytes? (pool : Pool) (bytes : List UInt8) : Option Heading :=
  if bytes.length < size then none
  else match pool.textAt (.ofNat (numberAt bytes 0 2)) with
    | .ok name => some ⟨name, .ofNat (numberAt bytes 2 4)⟩
    | .error _ => none

def allOfBytes (pool : Pool) : (n : Nat) → (bytes : List UInt8) → List Heading
  | 0, _ => []
  | n + 1, bytes =>
    match ofBytes? pool bytes with
    | some heading => heading :: allOfBytes pool n (bytes.drop (size + heading.length.toNat))
    | none => []

def lines (tracing : Tracing) (heading : Heading) : List Trace.Line :=
  tracing.lines (summary heading.name heading.length)

def read (pool : Pool) : ReadRecord Heading := do
  let name ← text pool
  let length ← Read.u4
  return ⟨name, length⟩

variable {heading : Heading}

lemma ofBytes?_eq_some_iff : ofBytes? pool c.rest = some heading ↔
    ∃ i, pool.textAt i = .ok heading.name ∧
      c.Spans (toBytes 2 i.toNat ++ toBytes 4 heading.length.toNat) (c.advance size) := by
  constructor
  · intro h
    rw [ofBytes?] at h
    split_ifs at h with hlen
    have hlen : 6 ≤ c.rest.length := Nat.not_lt.mp hlen
    have hname : c.rest = toBytes 2 (numberAt c.rest 0 2) ++ c.rest.drop 2 :=
      drop_eq_toBytes_numberAt (by omega : 0 + 2 ≤ c.rest.length)
    have hlength : c.rest.drop 2 = toBytes 4 (numberAt c.rest 2 4) ++ c.rest.drop 6 :=
      drop_eq_toBytes_numberAt hlen
    split at h
    · next name htext =>
      cases h
      refine ⟨_, htext, ?_, by simp [Cursor.advance, size]⟩
      rw [UInt16.toNat_ofNat_of_lt' numberAt_lt, UInt32.toNat_ofNat_of_lt' numberAt_lt,
        List.append_assoc]
      exact hname.trans (congrArg _ hlength)
    · cases h
  · rintro ⟨i, hi, hs, -⟩
    have hi' : i.toNat < 256 ^ 2 := i.toNat_lt
    have hl' : heading.length.toNat < 256 ^ 4 := heading.length.toNat_lt
    have hlen : ¬ c.rest.length < size := by
      rw [hs]
      simp [size]
      omega
    rw [List.append_assoc] at hs
    rw [ofBytes?, if_neg hlen, hs, numberAt_front hi', numberAt_behind (Nat.le_refl 2),
      numberAt_front hl', UInt16.ofNat_toNat, UInt32.ofNat_toNat, hi]

lemma allOfBytes_nil (pool : Pool) (n : Nat) : allOfBytes pool n [] = [] := by
  cases n <;> rfl

lemma logs_read (pool : Pool) : Logs (read pool) fun _ => [] :=
  (logs_text pool).bind_silent fun name => (logs_lift Read.u4).bind_pure fun length =>
    (⟨name, length⟩ : Heading)

lemma quietly_read_ok_iff : quietly (read pool) c = .ok heading d ↔
    ofBytes? pool c.rest = some heading ∧ d = c.advance size := by
  simp only [quietly_ok_iff, read, Step.bind_eq_ok_iff, text_ok_iff, u4_ok_iff,
    Step.pure_eq_ok_iff, ofBytes?_eq_some_iff]
  constructor
  · rintro ⟨shown, name, r, ⟨i, hi, hname⟩, length, t, hlength, rfl, rfl⟩
    have hs := Cursor.spans_append_of hname.1 hlength.1
    have hd : d = c.advance size := hs.eq_advance
    exact ⟨⟨i, Pool.textAt_ok_iff.mpr hi, hd ▸ hs⟩, hd⟩
  · rintro ⟨⟨i, hi, hs⟩, rfl⟩
    obtain ⟨m, hname, hlength⟩ := Cursor.spans_append.mp hs
    exact ⟨#[], heading.name, ⟨m, #[]⟩, ⟨i, Pool.textAt_ok_iff.mp hi, hname, by simp⟩,
      heading.length, ⟨c.advance size, #[]⟩, ⟨hlength, by simp⟩, rfl, rfl⟩

lemma quietly_read_error (h : ofBytes? pool c.rest = none) :
    ∃ e d, quietly (read pool) c = .error e d :=
  Step.exists_error_of_ne_ok fun heading _ hr =>
    Option.some_ne_none heading ((quietly_read_ok_iff.mp hr).1.symm.trans h)

end Heading

variable {heading : Heading}

def readInfo (tracing : Tracing) (heading : Heading) : ReadRecord Attribute := do
  ReadRecord.trace tracing (summary heading.name heading.length)
  let info ← Read.bytes heading.length.toNat
  return ⟨heading.name, info⟩

lemma read_eq (pool : Pool) (tracing : Tracing) :
    read pool tracing = Heading.read pool >>= readInfo tracing := by
  simp only [read, Heading.read, bind_assoc, pure_bind]
  rfl

lemma logs_info (heading : Heading) : Logs (do
    let info ← Read.bytes heading.length.toNat
    return (⟨heading.name, info⟩ : Attribute)) fun _ => [] :=
  (logs_lift (Read.bytes heading.length.toNat)).bind_pure fun info =>
    (⟨heading.name, info⟩ : Attribute)

lemma logs_readInfo (tracing : Tracing) (heading : Heading) :
    Logs (readInfo tracing heading) fun _ => heading.lines tracing := by
  apply ((logs_trace tracing _).bind fun _ => logs_info heading).congr
  intro c
  rw [quietly_trace]
  exact List.append_nil _

lemma quietly_readInfo (tracing : Tracing) (heading : Heading) :
    quietly (readInfo tracing heading) = do
      let info ← Read.bytes heading.length.toNat
      return ⟨heading.name, info⟩ := by
  rw [readInfo, quietly_bind_of_logs (logs_trace tracing _) fun _ => logs_info heading,
    quietly_trace, pure_bind, quietly_bind_of_logs (logs_lift _) fun _ => logs_pure _, quietly_lift]
  rfl

lemma quietly_read_eq (pool : Pool) (tracing : Tracing) : quietly (read pool tracing) = do
    let heading ← quietly (Heading.read pool)
    let info ← Read.bytes heading.length.toNat
    return ⟨heading.name, info⟩ := by
  rw [read_eq, quietly_bind_of_logs (Heading.logs_read pool) (logs_readInfo tracing)]
  exact bind_congr (quietly_readInfo tracing)

lemma quietly_read_silent (pool : Pool) (tracing : Tracing) :
    quietly (read pool tracing) = quietly (read pool .silent) := by
  rw [quietly_read_eq, quietly_read_eq]

lemma behind_of_ok {a : Attribute} (h : quietly (read pool tracing) c = .ok a d) :
    ∃ heading, Heading.ofBytes? pool c.rest = some heading ∧
      d.rest = c.rest.drop (Heading.size + heading.length.toNat) := by
  rw [quietly_read_eq] at h
  obtain ⟨heading, t, hhead, h⟩ := Step.bind_eq_ok_iff.mp h
  obtain ⟨info, u, hinfo, h⟩ := Step.bind_eq_ok_iff.mp h
  obtain ⟨rfl, rfl⟩ := Step.pure_eq_ok_iff.mp h
  obtain ⟨hsome, rfl⟩ := Heading.quietly_read_ok_iff.mp hhead
  obtain ⟨-, -, rfl⟩ := Read.bytes_ok hinfo
  exact ⟨heading, hsome, List.drop_drop⟩

lemma cut_of_error {e : Error} (h : quietly (read pool tracing) c = .error e d)
    (hh : Heading.ofBytes? pool c.rest = some heading) :
    c.rest.drop (Heading.size + heading.length.toNat) = [] := by
  rw [quietly_read_eq, Step.bind_of_ok (Heading.quietly_read_ok_iff.mpr ⟨hh, rfl⟩)] at h
  rcases Step.bind_eq_error_iff.mp h with h | ⟨info, u, -, h⟩
  · obtain ⟨hcut, -⟩ := Read.bytes_error_iff.mp h
    rw [← List.drop_drop]
    exact List.drop_of_length_le (Nat.le_of_lt hcut)
  · exact absurd h Step.pure_ne_error

lemma logs_read (pool : Pool) (tracing : Tracing) : Logs (read pool tracing) fun c =>
    match Heading.ofBytes? pool c.rest with
    | some heading => heading.lines tracing
    | none => [] := by
  rw [read_eq]
  apply ((Heading.logs_read pool).bind_of_silent (logs_readInfo tracing)).congr
  intro c
  cases h : Heading.ofBytes? pool c.rest with
  | some heading => rw [Heading.quietly_read_ok_iff.mpr ⟨h, rfl⟩]
  | none =>
    obtain ⟨e, d, hr⟩ := Heading.quietly_read_error h
    rw [hr]

lemma logs_readAll (pool : Pool) (tracing : Tracing) (n : Nat) :
    Logs ((List.replicate n ()).mapM fun _ => read pool tracing) fun c =>
      (Heading.allOfBytes pool n c.rest).flatMap (Heading.lines tracing) := by
  induction n with
  | zero => exact logs_pure []
  | succ n ih =>
    rw [List.replicate_succ, List.mapM_cons]
    apply ((logs_read pool tracing).bind fun a => ih.bind_pure (a :: ·)).congr
    intro c
    rw [Heading.allOfBytes]
    cases h : quietly (read pool tracing) c with
    | ok a d =>
      obtain ⟨heading, hh, hd⟩ := behind_of_ok h
      simp only [hh, hd, List.flatMap_cons]
    | error e d =>
      cases hh : Heading.ofBytes? pool c.rest with
      | none => rfl
      | some heading => simp [cut_of_error h hh, Heading.allOfBytes_nil]

end Attribute

end ClassFile
