import ClassFile.Proofs.Location
import ClassFile.Proofs.Method.Transcript
import ClassFile.Proofs.Overflow.Text

/-! Guarded reading ends as plain reading does, unless a method is traced too deep. The data take
less than half of the address space. -/

namespace ClassFile.Guarded

variable {σ α β ι : Type}

def ofRead (x : EStateM Error σ α) : Run σ α := fun s =>
  match x s with
  | .ok a t => .ok a t
  | .error e t => .error (.error e) t

lemma ofRead_ne_overflow {y : EStateM Error σ α} {s t : σ} : ofRead y s ≠ .error .overflow t := by
  rw [ofRead]
  cases y s <;> simp

/-- From the places in `place` the runs end alike, and a run that succeeds ends at one of them. -/
structure Agree (place : σ → Prop) (x : Run σ α) (y : EStateM Error σ α) : Prop where
  eq : ∀ s, place s → x s = ofRead y s
  keeps : ∀ s a t, place s → y s = .ok a t → place t

variable {place : σ → Prop} {x : Run σ α} {y : EStateM Error σ α}

namespace Agree

lemma bind {f : α → Run σ β} {g : α → EStateM Error σ β} (h : Agree place x y)
    (hf : ∀ a s t, y s = .ok a t → Agree place (f a) (g a)) : Agree place (x >>= f) (y >>= g) := by
  constructor
  · intro s hs
    simp only [ofRead, Bind.bind, EStateM.bind]
    rw [h.eq s hs, ofRead]
    cases hy : y s with
    | ok a t => exact (hf a s t hy).eq t (h.keeps s a t hs hy)
    | error e t => rfl
  · intro s b u hs hb
    obtain ⟨a, t, hy, hg⟩ := Step.bind_eq_ok_iff.mp hb
    exact (hf a s t hy).keeps t b u (h.keeps s a t hs hy) hg

lemma pure (a : α) : Agree place (pure a) (pure a) := by
  constructor
  · exact fun s _ => rfl
  · rintro s b t hs ⟨⟩
    exact hs

lemma throw (e : Error) : Agree place (throw (.error e) : Run σ α) (throw e) :=
  ⟨fun _ _ => rfl, fun _ _ _ _ h => absurd h Step.throw_ne_ok⟩

lemma ofExcept {checked : Except Stop α} {plain : Except Error α} (h : checked = ofPlain plain) :
    Agree place (ofExcept checked) (ofExcept plain) := by
  subst h
  cases plain with
  | ok a => exact .pure a
  | error e => exact .throw e

lemma map (f : α → β) (h : Agree place x y) : Agree place (f <$> x) (f <$> y) := by
  rw [map_eq_pure_bind, map_eq_pure_bind]
  exact h.bind fun a _ _ _ => .pure (f a)

lemma seq {f : Run σ (α → β)} {g : EStateM Error σ (α → β)} (hf : Agree place f g)
    (h : Agree place x y) : Agree place (f <*> x) (g <*> y) := by
  rw [seq_eq_bind_map, seq_eq_bind_map]
  exact hf.bind fun a _ _ _ => h.map a

lemma mapM {f : ι → Run σ α} {g : ι → EStateM Error σ α} (h : ∀ i, Agree place (f i) (g i))
    (items : List ι) : Agree place (items.mapM f) (items.mapM g) := by
  induction items with
  | nil =>
    rw [List.mapM_nil, List.mapM_nil]
    exact .pure []
  | cons i items ih =>
    rw [List.mapM_cons, List.mapM_cons]
    exact (h i).bind fun a _ _ _ => ih.bind fun as _ _ _ => .pure (a :: as)

lemma check {bits n : Nat} {f : Run σ α} (hn : n < 2 ^ bits) (h : Agree place f y) :
    Agree place (do let _ ← MonadExcept.ofExcept (fits bits n); f) y := by
  rw [fits_of_lt hn]
  exact h

end Agree

def Within (data : List UInt8) (c : Cursor) : Prop :=
  ∃ pos ≤ data.length, c = .startAt data pos

variable {width n : Nat} {data : List UInt8}

lemma plain_bytes {pos : Nat} (h : n ≤ data.length - pos) :
    Read.bytes n (.startAt data pos) =
      .ok (data.extract pos (pos + n)) (.startAt data (pos + n)) := by
  rw [List.extract_eq_take_drop, Nat.add_sub_cancel_left]
  refine Read.bytes_ok_iff.mpr ⟨?_, ?_, ?_⟩
  · rw [List.length_take, List.length_drop]
    omega
  · change data.drop pos = (data.drop pos).take n ++ data.drop (pos + n)
    rw [← List.drop_drop, List.take_append_drop]
  · change pos + n = pos + _
    rw [List.length_take, List.length_drop]
    omega

section Bytes

variable (hdata : 2 * data.length < 2 ^ width)
include hdata

lemma bytes_agree (n : Nat) : Agree (Within data) (bytes width data n) (Read.bytes n) := by
  constructor
  · rintro _ ⟨pos, hpos, rfl⟩
    have hrun : bytes width data n (.startAt data pos) =
        if n > data.length - pos then
          .error (.error (.outOfBounds pos n (data.length - pos))) (.startAt data pos)
        else (do
          ofExcept (fits width (pos + n))
          let taken ← ofExcept (slice data pos (pos + n))
          set (Cursor.startAt data (pos + n))
          return taken : Run Cursor (List UInt8)) (.startAt data pos) :=
      (apply_ite (fun run : Run Cursor (List UInt8) => run (.startAt data pos)) ..)
    rw [hrun]
    split_ifs with hn
    · have hrest : (Cursor.startAt data pos).rest.length = data.length - pos := List.length_drop
      have hplain := Read.bytes_error_iff.mpr ⟨hrest.trans_lt hn, rfl, rfl⟩
      rw [ofRead, hplain, hrest]
      rfl
    · have hslice : slice data pos (pos + n) = .ok (data.extract pos (pos + n)) :=
        if_pos ⟨Nat.le_add_right .., by omega⟩
      rw [fits_of_lt (by omega), hslice, ofRead, plain_bytes (Nat.not_lt.mp hn)]
      rfl
  · rintro _ taken d ⟨pos, hpos, rfl⟩ h
    obtain ⟨-, hspans⟩ := Read.bytes_ok_iff.mp h
    exact ⟨d.pos, (hspans.bounds hpos).2, hspans.eq_startAt⟩

lemma unsigned_agree (n : Nat) : Agree (Within data) (unsigned width data n) (Read.unsigned n) :=
  (bytes_agree hdata n).map _

lemma u1_agree : Agree (Within data) (u1 width data) Read.u1 := (unsigned_agree hdata 1).map _

lemma u2_agree : Agree (Within data) (u2 width data) Read.u2 := (unsigned_agree hdata 2).map _

lemma u4_agree : Agree (Within data) (u4 width data) Read.u4 := (unsigned_agree hdata 4).map _

lemma u8_agree : Agree (Within data) (u8 width data) Read.u8 := (unsigned_agree hdata 8).map _

lemma i4_agree : Agree (Within data) (i4 width data) Read.i4 := (u4_agree hdata).map _

lemma i8_agree : Agree (Within data) (i8 width data) Read.i8 := (u8_agree hdata).map _

end Bytes

lemma indexFits_of_lt {pool : Pool} {count : UInt16} (h : pool.size < count.toNat) :
    indexFits pool = .ok () := by
  have hcount := count.toNat_lt
  rw [indexFits, fits_bind (by omega)]
  exact fits_of_lt (by omega)

section Pools

variable (hwidth : 32 ≤ width) (hdata : 2 * data.length < 2 ^ width)
include hwidth hdata

lemma readFields_agree (tag : Tag) :
    Agree (Within data) (readFields width data tag) (Constant.readFields tag) := by
  have h₁ := u1_agree hdata
  have h₂ := u2_agree hdata
  cases tag with
  | utf8 =>
    refine h₂.bind fun length _ _ _ => (bytes_agree hdata _).bind fun text _ _ htext => ?_
    have hspace : 2 ^ 32 ≤ 2 ^ width := Nat.pow_le_pow_right (by decide) hwidth
    have hlength : text.length = length.toNat := (Read.bytes_ok_iff.mp htext).1
    have hlt := length.toNat_lt
    exact .ofExcept (ofModifiedUtf8_eq hwidth (by omega))
  | integer => exact (i4_agree hdata).map _
  | float => exact (u4_agree hdata).map _
  | long => exact (i8_agree hdata).map _
  | double => exact (u8_agree hdata).map _
  | classRef | string | methodType | moduleRef | packageRef => exact h₂.map _
  | fieldRef | methodRef | interfaceMethodRef | nameAndType | dynamic | invokeDynamic =>
    exact (h₂.map _).seq h₂
  | methodHandle => exact (h₁.map _).seq h₂

lemma readConstant_agree : Agree (Within data) (readConstant width data) Constant.read := by
  have hposition : Agree (Within data) position Read.position := by
    refine ⟨fun _ _ => rfl, ?_⟩
    rintro c offset d hc ⟨⟩
    exact hc
  refine hposition.bind fun offset _ _ _ => (u1_agree hdata).bind fun code _ _ _ => ?_
  cases Tag.ofCode? code with
  | some tag => exact readFields_agree hwidth hdata tag
  | none => exact .throw _

lemma readEntries_agree {pool : Pool} {count : UInt16} (h : pool.size < count.toNat) :
    Agree (Within data) (readEntries width data count pool) (Pool.readEntries count pool) := by
  -- On the slots that the count leaves open; while some are, the next index fits 16 bits.
  induction hleft : count.toNat - pool.size using Nat.strongRecOn generalizing pool with
  | ind left ih =>
    have hcount := count.toNat_lt
    rw [readEntries, Pool.readEntries, indexFits_of_lt h]
    change Agree _ (if _ then _ else _) _
    split_ifs with hnext
    · refine (readConstant_agree hwidth hdata).bind fun entry _ _ _ => ?_
      have hslots : entry.slots ≤ 2 := by
        rw [Constant.slots]
        split_ifs <;> decide
      change Agree _ (ofExcept (fits 32 _) >>= fun _ => _) _
      refine .check (by omega) ?_
      split_ifs with hover
      · exact .throw _
      · have hpush := Pool.size_push pool entry
        have hpos := entry.slots_pos
        exact ih _ (by omega) (by omega) rfl
    · exact .pure pool

lemma readPool_agree : Agree (Within data) (readPool width data) Pool.read := by
  refine (u2_agree hdata).bind fun count _ _ _ => ?_
  by_cases hzero : count = 0
  · rw [if_pos hzero, if_pos hzero]
    exact .throw _
  · rw [if_neg hzero, if_neg hzero]
    have hpos : 0 < count.toNat := by
      rw [Nat.pos_iff_ne_zero, ne_eq, ← UInt16.toNat_zero, UInt16.toNat_inj]
      exact hzero
    exact readEntries_agree hwidth hdata hpos

end Pools

section Records

variable {pool : Pool} {tracing : Tracing}

lemma entryAt_eq (pool : Pool) (i : UInt16) : entryAt pool i = ofPlain (pool.get i) := by
  rw [entryAt, Pool.get]
  split_ifs with hzero
  · rfl
  · have hpos : 1 ≤ i.toNat := by
      rw [Nat.one_le_iff_ne_zero, ne_eq, ← UInt16.toNat_zero, UInt16.toNat_inj]
      exact hzero
    have hone : reaches i.toNat 1 = .ok () := if_pos hpos
    rw [hone]
    cases pool.slots[i.toNat - 1]? with
    | none => rfl
    | some slot => cases slot <;> rfl

lemma textAt_eq (pool : Pool) (i : UInt16) : textAt pool i = ofPlain (pool.textAt i) := by
  rw [textAt, entryAt_eq, Pool.textAt]
  cases pool.get i with
  | error e => rfl
  | ok entry => cases entry <;> rfl

def ReadsWithin (data : List UInt8) (r : Reader) : Prop := Within data r.cursor

lemma lift_agree {x : Run Cursor α} {y : Read α} (h : Agree (Within data) x y) :
    Agree (ReadsWithin data) (liftM x : Run Reader α) (liftM y : ReadRecord α) := by
  constructor
  · intro r hr
    simp only [liftM, monadLift, MonadLift.monadLift, ofRead]
    rw [h.eq r.cursor hr, ofRead]
    cases y r.cursor <;> rfl
  · intro r a t hr ht
    exact h.keeps r.cursor a t.cursor hr (ReadRecord.lift_ok_iff.mp ht).1

lemma trace_agree (tracing : Tracing) (render : UInt32 → String) :
    Agree (ReadsWithin data) (trace tracing render) (ReadRecord.trace tracing render) := by
  refine ⟨fun _ _ => rfl, ?_⟩
  rintro r u t hr ⟨⟩
  exact hr

lemma nested_of_lt (h : ∀ depth ∈ tracing.depth, depth.toNat + 2 < 2 ^ 32) :
    nested tracing = .ok tracing.nested := by
  obtain ⟨level, depth⟩ := tracing
  cases depth with
  | none => rfl
  | some depth =>
    have hsum : UInt32.ofNat (depth.toNat + 2) = depth + 2 := by
      rw [UInt32.ofNat_add, UInt32.ofNat_toNat]
      rfl
    change (fits 32 _ >>= fun _ => _) = _
    rw [fits_bind (h depth rfl), hsum]
    rfl

lemma nested_of_le {level : Trace.Level} {depth : UInt32} (h : 2 ^ 32 ≤ depth.toNat + 2) :
    nested ⟨level, some depth⟩ = .error .overflow := by
  have hfits : fits 32 (depth.toNat + 2) = .error .overflow := if_neg (Nat.not_lt.mpr h)
  change (fits 32 _ >>= fun _ => _) = _
  rw [hfits]
  rfl

section Data

variable (hdata : 2 * data.length < 2 ^ width)
include hdata

lemma readText_agree : Agree (ReadsWithin data) (readText width data pool) (ReadRecord.text pool) :=
  (lift_agree (u2_agree hdata)).bind fun i _ _ _ => .ofExcept (textAt_eq pool i)

lemma readAttribute_agree (hwidth : 32 ≤ width) (tracing : Tracing) :
    Agree (ReadsWithin data) (readAttribute width data pool tracing)
      (Attribute.read pool tracing) := by
  refine (readText_agree hdata).bind fun name _ _ _ => ?_
  refine (lift_agree (u4_agree hdata)).bind fun length _ _ _ => ?_
  refine (trace_agree ..).bind fun _ _ _ _ => ?_
  have hspace : 2 ^ 32 ≤ 2 ^ width := Nat.pow_le_pow_right (by decide) hwidth
  refine .check (length.toNat_lt.trans_le hspace) ?_
  exact (lift_agree (bytes_agree hdata _)).bind fun info _ _ _ => .pure _

lemma readHeader_agree :
    Agree (ReadsWithin data) (readHeader width data pool) (Method.Header.read pool) := by
  have h := lift_agree (u2_agree hdata)
  have htext : Agree (ReadsWithin data) (readText width data pool) (ReadRecord.text pool) :=
    readText_agree hdata
  exact h.bind fun _ _ _ _ => htext.bind fun _ _ _ _ => htext.bind fun _ _ _ _ =>
    h.bind fun _ _ _ _ => .pure _

lemma readMethod_agree (hwidth : 32 ≤ width)
    (h : ∀ depth ∈ tracing.depth, depth.toNat + 2 < 2 ^ 32) :
    Agree (ReadsWithin data) (readMethod width data pool tracing) (Method.read pool tracing) := by
  rw [Method.read_eq]
  refine (readHeader_agree hdata).bind fun header _ _ _ => ?_
  refine (trace_agree ..).bind fun _ _ _ _ => ?_
  rw [nested_of_lt h]
  exact Agree.bind (.mapM (fun _ => readAttribute_agree hdata hwidth _) _) fun _ _ _ _ => .pure _

lemma readHeader_of_some {header : Method.Header} {r : Reader} (hr : ReadsWithin data r)
    (h : Method.Header.ofBytes? pool r.cursor.rest = some header) :
    ∃ t, readHeader width data pool r = .ok header t := by
  have hquiet := Method.Header.quietly_read_ok_iff.mpr ⟨h, rfl⟩
  rw [(readHeader_agree hdata).eq r hr, ofRead, Method.Header.logs_read pool r, hquiet]
  exact ⟨_, rfl⟩

lemma readHeader_of_none {r : Reader} (hr : ReadsWithin data r)
    (h : Method.Header.ofBytes? pool r.cursor.rest = none) :
    ∃ e t, readHeader width data pool r = .error (.error e) t ∧
      Method.Header.read pool r = .error e t := by
  obtain ⟨e, d, hquiet⟩ := Method.Header.quietly_read_error h
  obtain ⟨shown, hread⟩ : ∃ shown, Method.Header.read pool r = .error e ⟨d, shown⟩ := by
    rw [Method.Header.logs_read pool r, hquiet]
    exact ⟨_, rfl⟩
  refine ⟨e, _, ?_, hread⟩
  rw [(readHeader_agree hdata).eq r hr, ofRead, hread]

variable {level : Trace.Level} {depth : UInt32} {r : Reader}

lemma readMethod_overflows (hr : ReadsWithin data r) (hdepth : 2 ^ 32 ≤ depth.toNat + 2)
    (h : (Method.Header.ofBytes? pool r.cursor.rest).isSome) :
    ∃ t, readMethod width data pool ⟨level, some depth⟩ r = .error .overflow t := by
  obtain ⟨header, hheader⟩ := Option.isSome_iff_exists.mp h
  obtain ⟨t, hread⟩ : ∃ t, readHeader width data pool r = .ok header t :=
    readHeader_of_some hdata hr hheader
  rw [readMethod, Step.bind_of_ok hread, nested_of_le hdepth]
  exact ⟨_, rfl⟩

lemma readMethod_of_none (hr : ReadsWithin data r)
    (h : Method.Header.ofBytes? pool r.cursor.rest = none) :
    readMethod width data pool tracing r = ofRead (Method.read pool tracing) r := by
  obtain ⟨e, t, hrun, hplain⟩ : ∃ e t, readHeader width data pool r = .error (.error e) t ∧
      Method.Header.read pool r = .error e t := readHeader_of_none hdata hr h
  have hrun' : readMethod width data pool tracing r = .error (.error e) t :=
    Step.bind_eq_error_iff.mpr (.inl hrun)
  have hplain' : Method.read pool tracing r = .error e t := by
    rw [Method.read_eq]
    exact Step.bind_eq_error_iff.mpr (.inl hplain)
  rw [hrun', ofRead, hplain']

end Data

end Records

theorem guarded_reads_agree (width : Nat) (data : List UInt8) (pos : Nat) (pool : Pool)
    (level : Trace.Level) (shown : Array Trace.Line) (hwidth : 32 ≤ width)
    (hdata : 2 * data.length < 2 ^ width) (hpos : pos ≤ data.length) :
    (∀ n, bytes width data n (.startAt data pos) = ofRead (Read.bytes n) (.startAt data pos) ∧
      unsigned width data n (.startAt data pos) = ofRead (Read.unsigned n) (.startAt data pos)) ∧
    decodeUnits width data = ofFault (Text.ModifiedUtf8.decodeUnits data) ∧
    readPool width data (.startAt data pos) = ofRead Pool.read (.startAt data pos) ∧
    (∀ depth, readAttribute width data pool ⟨level, depth⟩ ⟨.startAt data pos, shown⟩ =
      ofRead (Attribute.read pool ⟨level, depth⟩) ⟨.startAt data pos, shown⟩) ∧
    (∀ depth : Option UInt32, (∀ d ∈ depth, d.toNat + 2 < 2 ^ 32) ∨
        Method.Header.ofBytes? pool (data.drop pos) = none →
      readMethod width data pool ⟨level, depth⟩ ⟨.startAt data pos, shown⟩ =
        ofRead (Method.read pool ⟨level, depth⟩) ⟨.startAt data pos, shown⟩) ∧
    ∀ d : UInt32, 2 ^ 32 ≤ d.toNat + 2 →
      (Method.Header.ofBytes? pool (data.drop pos)).isSome →
      ∃ r, readMethod width data pool ⟨level, some d⟩ ⟨.startAt data pos, shown⟩ =
        .error .overflow r := by
  have hc : Within data (.startAt data pos) := ⟨pos, hpos, rfl⟩
  have hr : ReadsWithin data ⟨.startAt data pos, shown⟩ := hc
  refine ⟨fun n => ⟨(bytes_agree hdata n).eq _ hc, (unsigned_agree hdata n).eq _ hc⟩,
    decodeUnits_eq hwidth hdata, (readPool_agree hwidth hdata).eq _ hc,
    fun depth => (readAttribute_agree hdata hwidth _).eq _ hr, ?_, ?_⟩
  · rintro depth (hdepth | hnone)
    · exact (readMethod_agree hdata hwidth hdepth).eq _ hr
    · exact readMethod_of_none hdata hr hnone
  · exact fun d hd hsome => readMethod_overflows hdata hr hd hsome

def deepMethod : List UInt8 := [0xFF, 0, 9, 0, 1, 0, 2, 0, 1, 0, 2, 0, 0, 0, 1, 0xCD]

theorem guarded_reads_agree_deepest :
    2 * deepMethod.length < 2 ^ 32 ∧ 1 ≤ deepMethod.length ∧
    readMethod 32 deepMethod .doubled ⟨.off, some 4294967293⟩ ⟨.startAt deepMethod 1, #[]⟩ =
      .ok ⟨"a", "a", .ofList [.accPublic, .accStatic], [⟨"a", [0xCD]⟩]⟩ ⟨⟨16, []⟩, #[]⟩ ∧
    ∃ r, readMethod 32 deepMethod .doubled ⟨.off, some 4294967294⟩ ⟨.startAt deepMethod 1, #[]⟩ =
      .error .overflow r := by
  have hdata : 2 * deepMethod.length < 2 ^ 32 := by decide
  have hpos : 1 ≤ deepMethod.length := by decide
  obtain ⟨-, -, -, -, hmethod, hdeep⟩ :=
    guarded_reads_agree 32 deepMethod 1 .doubled .off #[] (by decide) hdata hpos
  refine ⟨hdata, hpos, ?_, hdeep 4294967294 (by decide) (by decide)⟩
  rw [hmethod (some 4294967293) (.inl (by simp))]
  rfl

theorem guarded_reads_overflow :
    ¬ ∀ (width : Nat) (data : List UInt8) (pos : Nat) (pool : Pool) (tracing : Tracing)
      (shown : Array Trace.Line), 32 ≤ width → 2 * data.length < 2 ^ width →
      pos ≤ data.length → pool.Valid →
      readMethod width data pool tracing ⟨.startAt data pos, shown⟩ =
        ofRead (Method.read pool tracing) ⟨.startAt data pos, shown⟩ := by
  intro hagree
  have hdata : 2 * deepMethod.length < 2 ^ 32 := by decide
  have hr : ReadsWithin deepMethod ⟨.startAt deepMethod 1, #[]⟩ := ⟨1, by decide, rfl⟩
  have hplain := hagree 32 deepMethod 1 .doubled ⟨.off, some 4294967295⟩ #[] (by decide) hdata
    (by decide) Pool.doubled_reachable.valid
  obtain ⟨r, hrun⟩ : ∃ r, readMethod 32 deepMethod .doubled ⟨.off, some 4294967295⟩
      ⟨.startAt deepMethod 1, #[]⟩ = .error .overflow r :=
    readMethod_overflows hdata hr (by decide) (by decide)
  exact ofRead_ne_overflow (hplain.symm.trans hrun)

end ClassFile.Guarded
