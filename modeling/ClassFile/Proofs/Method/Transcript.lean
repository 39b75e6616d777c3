import ClassFile.Proofs.Attribute.Headings
import ClassFile.Proofs.Pool.Representation

namespace ClassFile

open BigEndian ReadRecord

variable {pool : Pool} {tracing : Tracing} {c d : Cursor}

namespace Method

namespace Header

def size : Nat := 8

def ofBytes? (pool : Pool) (bytes : List UInt8) : Option Header :=
  if bytes.length < size then none
  else match pool.textAt (.ofNat (numberAt bytes 2 2)),
      pool.textAt (.ofNat (numberAt bytes 4 2)) with
    | .ok name, .ok descriptor =>
      some ⟨name, descriptor, .ofNat (numberAt bytes 0 2), numberAt bytes 6 2⟩
    | _, _ => none

def read (pool : Pool) : ReadRecord Header := do
  let word ← Read.u2
  let name ← text pool
  let descriptor ← text pool
  let count ← Read.u2
  return ⟨name, descriptor, word, count.toNat⟩

variable {header : Header}

lemma ofBytes?_eq_some_iff : ofBytes? pool c.rest = some header ↔
    ∃ j k, pool.textAt j = .ok header.name ∧ pool.textAt k = .ok header.descriptor ∧
      header.attributeCount < 65536 ∧
      c.Spans (toBytes 2 header.word.toNat ++ (toBytes 2 j.toNat ++ (toBytes 2 k.toNat ++
        toBytes 2 header.attributeCount))) (c.advance size) := by
  constructor
  · intro h
    rw [ofBytes?] at h
    split_ifs at h with hlen
    have hlen : 8 ≤ c.rest.length := Nat.not_lt.mp hlen
    have hword : c.rest = toBytes 2 (numberAt c.rest 0 2) ++ c.rest.drop 2 :=
      drop_eq_toBytes_numberAt (by omega : 0 + 2 ≤ c.rest.length)
    have hname : c.rest.drop 2 = toBytes 2 (numberAt c.rest 2 2) ++ c.rest.drop 4 :=
      drop_eq_toBytes_numberAt (by omega)
    have hdescriptor : c.rest.drop 4 = toBytes 2 (numberAt c.rest 4 2) ++ c.rest.drop 6 :=
      drop_eq_toBytes_numberAt (by omega)
    have hcount : c.rest.drop 6 = toBytes 2 (numberAt c.rest 6 2) ++ c.rest.drop 8 :=
      drop_eq_toBytes_numberAt hlen
    split at h
    · next name descriptor hj hk =>
      cases h
      refine ⟨_, _, hj, hk, numberAt_lt, ?_, by simp [Cursor.advance, size]⟩
      rw [UInt16.toNat_ofNat_of_lt' numberAt_lt, UInt16.toNat_ofNat_of_lt' numberAt_lt,
        UInt16.toNat_ofNat_of_lt' numberAt_lt]
      simp only [List.append_assoc]
      rw [hname, hdescriptor, hcount] at hword
      exact hword
    · cases h
  · rintro ⟨j, k, hj, hk, hcount, hs, -⟩
    have hword : header.word.toNat < 256 ^ 2 := header.word.toNat_lt
    have hj' : j.toNat < 256 ^ 2 := j.toNat_lt
    have hk' : k.toNat < 256 ^ 2 := k.toNat_lt
    have hlen : ¬ c.rest.length < size := by
      rw [hs]
      simp [size]
      omega
    simp only [List.append_assoc] at hs
    have hnumbers : numberAt c.rest 0 2 = header.word.toNat ∧ numberAt c.rest 2 2 = j.toNat ∧
        numberAt c.rest 4 2 = k.toNat ∧ numberAt c.rest 6 2 = header.attributeCount := by
      rw [hs]
      simp only [numberAt_front, numberAt_behind, hword, hj', hk', Nat.reduceSub, Nat.reduceLeDiff,
        true_and]
      exact numberAt_front hcount
    obtain ⟨h₀, h₂, h₄, h₆⟩ := hnumbers
    rw [ofBytes?, if_neg hlen, h₀, h₂, h₄, h₆, UInt16.ofNat_toNat, UInt16.ofNat_toNat,
      UInt16.ofNat_toNat, hj, hk]

lemma logs_read (pool : Pool) : Logs (read pool) fun _ => [] := by
  refine (logs_lift Read.u2).bind_silent fun word => ?_
  refine (logs_text pool).bind_silent fun name => (logs_text pool).bind_silent fun descriptor => ?_
  exact (logs_lift Read.u2).bind_pure fun count => (⟨name, descriptor, word, count.toNat⟩ : Header)

lemma quietly_read_ok_iff : quietly (read pool) c = .ok header d ↔
    ofBytes? pool c.rest = some header ∧ d = c.advance size := by
  simp only [quietly_ok_iff, read, Step.bind_eq_ok_iff, text_ok_iff, u2_ok_iff,
    Step.pure_eq_ok_iff, ofBytes?_eq_some_iff]
  constructor
  · rintro ⟨shown, word, r, hword, name, s, ⟨j, hj, hname⟩, descriptor, t, ⟨k, hk, hdescriptor⟩,
      count, u, hcount, rfl, rfl⟩
    have hs := Cursor.spans_append_of hword.1 (Cursor.spans_append_of hname.1
      (Cursor.spans_append_of hdescriptor.1 hcount.1))
    have hd : d = c.advance size := hs.eq_advance
    have hj := Pool.textAt_ok_iff.mpr hj
    have hk := Pool.textAt_ok_iff.mpr hk
    exact ⟨⟨j, k, hj, hk, count.toNat_lt, hd ▸ hs⟩, hd⟩
  · rintro ⟨⟨j, k, hj, hk, hcount, hs⟩, rfl⟩
    obtain ⟨c₁, hword, hs⟩ := Cursor.spans_append.mp hs
    obtain ⟨c₂, hname, hs⟩ := Cursor.spans_append.mp hs
    obtain ⟨c₃, hdescriptor, hs⟩ := Cursor.spans_append.mp hs
    have hround : (UInt16.ofNat header.attributeCount).toNat = header.attributeCount :=
      UInt16.toNat_ofNat_of_lt' hcount
    refine ⟨#[], header.word, ⟨c₁, #[]⟩, ⟨hword, by simp⟩, header.name, ⟨c₂, #[]⟩,
      ⟨j, Pool.textAt_ok_iff.mp hj, hname, by simp⟩, header.descriptor, ⟨c₃, #[]⟩,
      ⟨k, Pool.textAt_ok_iff.mp hk, hdescriptor, by simp⟩, .ofNat header.attributeCount,
      ⟨c.advance size, #[]⟩, ⟨hround.symm ▸ hs, by simp⟩, ?_, rfl⟩
    rw [hround]

lemma quietly_read_error (h : ofBytes? pool c.rest = none) :
    ∃ e d, quietly (read pool) c = .error e d :=
  Step.exists_error_of_ne_ok fun header _ hr =>
    Option.some_ne_none header ((quietly_read_ok_iff.mp hr).1.symm.trans h)

end Header

def readAttributes (pool : Pool) (tracing : Tracing) (header : Header) : ReadRecord Method := do
  ReadRecord.trace tracing header.render
  let attributes ← (List.replicate header.attributeCount ()).mapM fun _ =>
    Attribute.read pool tracing.nested
  return ofParts header.name header.descriptor (.ofWord header.word) attributes

lemma read_eq (pool : Pool) (tracing : Tracing) :
    read pool tracing = Header.read pool >>= readAttributes pool tracing := by
  simp only [read, Header.read, bind_assoc, pure_bind]
  rfl

lemma logs_readAttributes (pool : Pool) (tracing : Tracing) (header : Header) :
    Logs (readAttributes pool tracing header) fun c => tracing.lines header.render ++
      (Attribute.Heading.allOfBytes pool header.attributeCount c.rest).flatMap
        (Attribute.Heading.lines tracing.nested) := by
  have hall := (Attribute.logs_readAll pool tracing.nested header.attributeCount).bind_pure
    (ofParts header.name header.descriptor (.ofWord header.word))
  exact (logs_trace tracing header.render).bind fun _ => hall

lemma logs_read (pool : Pool) (tracing : Tracing) : Logs (read pool tracing) fun c =>
    match Header.ofBytes? pool c.rest with
    | some header => tracing.lines header.render ++
      (Attribute.Heading.allOfBytes pool header.attributeCount (c.rest.drop Header.size)).flatMap
        (Attribute.Heading.lines tracing.nested)
    | none => [] := by
  rw [read_eq]
  apply ((Header.logs_read pool).bind_of_silent (logs_readAttributes pool tracing)).congr
  intro c
  cases h : Header.ofBytes? pool c.rest with
  | some header =>
    rw [Header.quietly_read_ok_iff.mpr ⟨h, rfl⟩]
    rfl
  | none =>
    obtain ⟨e, d, hr⟩ := Header.quietly_read_error h
    rw [hr]

lemma quietly_readAttributes (pool : Pool) (tracing : Tracing) (header : Header) :
    quietly (readAttributes pool tracing header) = do
      let attributes ← (List.replicate header.attributeCount ()).mapM fun _ =>
        quietly (Attribute.read pool .silent)
      return ofParts header.name header.descriptor (.ofWord header.word) attributes := by
  have hall := Attribute.logs_readAll pool tracing.nested header.attributeCount
  rw [readAttributes, quietly_bind_of_logs (logs_trace tracing _) fun _ => hall.bind_pure _,
    quietly_trace, pure_bind, quietly_bind_of_logs hall fun _ => logs_pure _,
    quietly_mapM fun _ => Attribute.composed_read pool tracing.nested,
    Attribute.quietly_read_silent]
  rfl

lemma quietly_read_silent (pool : Pool) (tracing : Tracing) :
    quietly (read pool tracing) = quietly (read pool .silent) := by
  have heq (tracing : Tracing) := quietly_bind_of_logs (Header.logs_read pool)
    (logs_readAttributes pool tracing)
  rw [read_eq, read_eq, heq, heq]
  refine bind_congr fun header => ?_
  rw [quietly_readAttributes, quietly_readAttributes]

def transcript (pool : Pool) (depth deeper : UInt32) (bytes : List UInt8) : List Trace.Line :=
  match Header.ofBytes? pool bytes with
  | some header =>
    let headings := Attribute.Heading.allOfBytes pool header.attributeCount (bytes.drop Header.size)
    (Text.Lines.lines (header.render depth) ++ headings.flatMap fun heading =>
      Text.Lines.lines (Attribute.summary heading.name heading.length deeper)).map .record
  | none => []

def logged (pool : Pool) (tracing : Tracing) (bytes : List UInt8) : List Trace.Line :=
  match tracing.depth with
  | some depth =>
    if tracing.level.shows .debug then transcript pool depth (depth + 2) bytes else []
  | none => []

lemma logs_logged (pool : Pool) (tracing : Tracing) :
    Logs (read pool tracing) fun c => logged pool tracing c.rest := by
  apply (logs_read pool tracing).congr
  intro c
  obtain ⟨level, depth⟩ := tracing
  cases hhead : Header.ofBytes? pool c.rest with
  | none => cases depth <;> simp [logged, transcript, hhead]
  | some header =>
    cases depth with
    | none => simp [logged, Tracing.lines, Tracing.nested, Attribute.Heading.lines]
    | some d =>
      by_cases h : level.shows .debug
      · have hlines : Attribute.Heading.lines ⟨level, some (d + 2)⟩ = fun a =>
            (Text.Lines.lines (Attribute.summary a.name a.length (d + 2))).map .record :=
          funext fun a => if_pos h
        simp [logged, transcript, hhead, Tracing.lines, Tracing.nested, hlines, h, List.map_flatMap]
      · simp [logged, Tracing.lines, Tracing.nested, Attribute.Heading.lines, h]

theorem read_traced (pool : Pool) (level : Trace.Level) (depth : Option UInt32)
    (hd : ∀ d ∈ depth, d.toNat + 2 < 4294967296) (data : List UInt8) (start : Nat) :
    ∃ (outcome : EStateM.Result Error Cursor Method) (lines : List Trace.Line),
      (∀ shown, read pool .silent ⟨.startAt data start, shown⟩ = withLog shown outcome) ∧
      (∀ shown, read pool ⟨level, depth⟩ ⟨.startAt data start, shown⟩ =
        withLog (shown ++ lines) outcome) ∧
      (depth = none ∨ level.shows .debug = false → lines = []) ∧
      ∀ d ∈ depth, level.shows .debug → ∃ deeper : UInt32, deeper.toNat = d.toNat + 2 ∧
        lines = transcript pool d deeper (data.drop start) := by
  refine ⟨quietly (read pool .silent) (.startAt data start),
    logged pool ⟨level, depth⟩ (data.drop start), ?_, ?_, ?_, ?_⟩
  · intro shown
    rw [logs_logged]
    simp [logged, Tracing.silent, Cursor.startAt]
  · intro shown
    rw [logs_logged, quietly_read_silent]
    rfl
  · rintro (rfl | h)
    · rfl
    · cases depth <;> simp [logged, h]
  · intro d hdepth hlevel
    refine ⟨d + 2, ?_, ?_⟩
    · rw [UInt32.toNat_add]
      exact Nat.mod_eq_of_lt (hd d hdepth)
    · obtain rfl := hdepth
      simp [logged, hlevel]

def cutOff : List UInt8 :=
  [0xFF, 0, 1, 0, 1, 0, 2, 0, 2, 0, 1, 0, 0, 0, 1, 0xAB, 0, 2, 0, 0, 0, 9, 0xCD]

theorem read_traced_cutOff :
    (∀ d ∈ some (1 : UInt32), d.toNat + 2 < 4294967296) ∧
    ∃ lines : List Trace.Line,
      (∀ shown, read .doubled ⟨.debug, some 1⟩ ⟨.startAt cutOff 1, shown⟩ =
        .error (.outOfBounds 22 9 1) ⟨⟨22, [0xCD]⟩, shown ++ lines⟩) ∧
      lines.map Trace.Line.text = ["    Method a a", "        Flags: 0x0001 (public)",
        "        Attributes: (2)", "            Attribute a (1 bytes)",
        "            Attribute a (9 bytes)"] := by
  have hd : ∀ d ∈ some (1 : UInt32), d.toNat + 2 < 4294967296 := by simp
  obtain ⟨outcome, lines, hsilent, htraced, -, hlines⟩ :=
    read_traced .doubled .debug (some 1) hd cutOff 1
  have houtcome : outcome = .error (.outOfBounds 22 9 1) ⟨22, [0xCD]⟩ := by
    have hrun : read .doubled .silent ⟨.startAt cutOff 1, #[]⟩ =
        .error (.outOfBounds 22 9 1) ⟨⟨22, [0xCD]⟩, #[]⟩ := rfl
    rw [hsilent] at hrun
    cases outcome with
    | ok m d => cases hrun
    | error e d =>
      cases hrun
      rfl
  obtain ⟨deeper, hdeeper, hl⟩ := hlines 1 rfl rfl
  obtain rfl : deeper = 3 := UInt32.toNat_inj.mp hdeeper
  refine ⟨hd, lines, fun shown => ?_, ?_⟩
  · rw [htraced, houtcome]
    rfl
  · rw [hl]
    decide +kernel

end Method

end ClassFile
