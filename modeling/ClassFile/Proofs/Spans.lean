import ClassFile.Cursor
import ClassFile.Output
import ClassFile.Proofs.BigEndian
import ClassFile.Proofs.Step
import Mathlib.Data.List.TakeWhile

/-! Reading and appending as relations to byte strings. -/

namespace ClassFile

open BigEndian

def Cursor.Spans (c : Cursor) (bytes : List UInt8) (d : Cursor) : Prop :=
  c.rest = bytes ++ d.rest ∧ d.pos = c.pos + bytes.length

namespace Cursor

variable {c d e : Cursor} {as bs : List UInt8}

lemma spans_nil : c.Spans [] d ↔ c = d := by
  cases c
  cases d
  simp [Spans, and_comm, eq_comm]

lemma spans_append : c.Spans (as ++ bs) e ↔ ∃ d, c.Spans as d ∧ d.Spans bs e := by
  constructor
  · rintro ⟨hr, hp⟩
    refine ⟨⟨c.pos + as.length, bs ++ e.rest⟩, ⟨?_, rfl⟩, rfl, ?_⟩
    · rw [hr, List.append_assoc]
    · rw [hp, List.length_append, Nat.add_assoc]
  · rintro ⟨d, ⟨hr, hp⟩, hr', hp'⟩
    refine ⟨?_, ?_⟩
    · rw [hr, hr', List.append_assoc]
    · rw [hp', hp, List.length_append, Nat.add_assoc]

lemma spans_append_of (h : c.Spans as d) (h' : d.Spans bs e) : c.Spans (as ++ bs) e :=
  spans_append.mpr ⟨d, h, h'⟩

lemma Spans.eq_advance (h : c.Spans as d) : d = c.advance as.length := by
  obtain ⟨hr, hp⟩ := h
  cases d
  rw [advance, hr, List.drop_left, ← hp]

lemma Spans.head?_rest {b : UInt8} (h : c.Spans bs d) (hb : bs.head? = some b) :
    c.rest.head? = some b := by
  rw [h.1, List.head?_append, hb]
  rfl

lemma Spans.eq_of_head? {a b : UInt8} (h : c.Spans [a] d) (hb : c.rest.head? = some b) : a = b :=
  Option.some.inj ((h.head?_rest rfl).symm.trans hb)

end Cursor

namespace Read

variable {c d : Cursor}

lemma bytes_ok_iff {n : Nat} {data : List UInt8} :
    bytes n c = .ok data d ↔ data.length = n ∧ c.Spans data d := by
  constructor
  · intro h
    obtain ⟨rfl, hn, rfl⟩ := bytes_ok h
    have hlen : (c.rest.take n).length = n := by simp [hn]
    exact ⟨hlen, (List.take_append_drop n c.rest).symm, by rw [hlen]; rfl⟩
  · rintro ⟨rfl, hr, hp⟩
    cases d
    simp_all [bytes, Cursor.advance]

lemma unsigned_ok_iff {width n : Nat} :
    unsigned width c = .ok n d ↔ n < 256 ^ width ∧ c.Spans (toBytes width n) d := by
  simp only [unsigned, Step.map_eq_ok_iff, bytes_ok_iff]
  constructor
  · rintro ⟨data, ⟨rfl, hs⟩, rfl⟩
    exact ⟨ofBytes_lt data, by rwa [toBytes_ofBytes]⟩
  · rintro ⟨hn, hs⟩
    exact ⟨toBytes width n, ⟨toBytes_length .., hs⟩, ofBytes_toBytes_of_lt hn⟩

lemma position_ok_iff {n : Nat} : position c = .ok n d ↔ n = c.pos ∧ c = d :=
  ⟨position_ok, by rintro ⟨rfl, rfl⟩; rfl⟩

lemma ofNat_ok_iff {α : Type} {ofNat : Nat → α} {toNat : α → Nat} {width : Nat} {n : α}
    (hlt : toNat n < 256 ^ width) (hn : ofNat (toNat n) = n)
    (hk : ∀ k < 256 ^ width, toNat (ofNat k) = k) :
    (ofNat <$> unsigned width) c = .ok n d ↔ c.Spans (toBytes width (toNat n)) d := by
  simp only [Step.map_eq_ok_iff, unsigned_ok_iff]
  constructor
  · rintro ⟨k, ⟨hlt', hs⟩, rfl⟩
    rwa [hk k hlt']
  · exact fun hs => ⟨toNat n, ⟨hlt, hs⟩, hn⟩

lemma u1_ok_iff {n : UInt8} : u1 c = .ok n d ↔ c.Spans (toBytes 1 n.toNat) d :=
  ofNat_ok_iff n.toNat_lt UInt8.ofNat_toNat fun _ => UInt8.toNat_ofNat_of_lt'

lemma u2_ok_iff {n : UInt16} : u2 c = .ok n d ↔ c.Spans (toBytes 2 n.toNat) d :=
  ofNat_ok_iff n.toNat_lt UInt16.ofNat_toNat fun _ => UInt16.toNat_ofNat_of_lt'

lemma u4_ok_iff {n : UInt32} : u4 c = .ok n d ↔ c.Spans (toBytes 4 n.toNat) d :=
  ofNat_ok_iff n.toNat_lt UInt32.ofNat_toNat fun _ => UInt32.toNat_ofNat_of_lt'

lemma u8_ok_iff {n : UInt64} : u8 c = .ok n d ↔ c.Spans (toBytes 8 n.toNat) d :=
  ofNat_ok_iff n.toNat_lt UInt64.ofNat_toNat fun _ => UInt64.toNat_ofNat_of_lt'

lemma i4_ok_iff {n : Int32} : i4 c = .ok n d ↔ c.Spans (toBytes 4 n.toUInt32.toNat) d := by
  rw [i4, Step.map_eq_ok_iff_of_inverse Int32.toInt32_toUInt32 UInt32.toUInt32_toInt32, u4_ok_iff]

lemma i8_ok_iff {n : Int64} : i8 c = .ok n d ↔ c.Spans (toBytes 8 n.toUInt64.toNat) d := by
  rw [i8, Step.map_eq_ok_iff_of_inverse Int64.toInt64_toUInt64 UInt64.toUInt64_toInt64, u8_ok_iff]

lemma byte_ok_iff {b : UInt8} : u1 c = .ok b d ↔ c.Spans [b] d := by
  rw [u1_ok_iff]
  simp [BigEndian.toBytes]

lemma peek?_bind {α : Type} {f : Option UInt8 → Read α} : (peek? >>= f) c = f c.rest.head? c := rfl

lemma peek?_ok_iff {b : Option UInt8} : peek? c = .ok b d ↔ b = c.rest.head? ∧ c = d :=
  ⟨peek?_ok, by rintro ⟨rfl, rfl⟩; rfl⟩

lemma takeWhile_ok_iff {p : UInt8 → Bool} {data : List UInt8} :
    takeWhile p c = .ok data d ↔
      (∀ b ∈ data, p b) ∧ (∀ b ∈ d.rest.head?, ¬ p b) ∧ c.Spans data d := by
  constructor
  · intro h
    obtain ⟨rfl, rfl⟩ := takeWhile_ok h
    have hsplit := List.takeWhile_append_dropWhile (p := p) (l := c.rest)
    have hrest : (c.advance (c.rest.takeWhile p).length).rest = c.rest.dropWhile p := by
      have hdrop := congrArg (List.drop (c.rest.takeWhile p).length) hsplit
      rw [List.drop_left] at hdrop
      exact hdrop.symm
    refine ⟨fun b hb => List.mem_takeWhile_imp hb, fun b hb => ?_, ?_, rfl⟩
    · have hhead := List.head?_dropWhile_not p c.rest
      rw [hrest] at hb
      rw [Option.mem_def.mp hb] at hhead
      simpa using hhead
    · rw [hrest, hsplit]
  · rintro ⟨hall, hhead, hr, hp⟩
    have htake : c.rest.takeWhile p = data := by
      rw [hr, List.takeWhile_append_of_pos hall]
      cases hd : d.rest with
      | nil => simp
      | cons b rest => simp_all
    cases d
    simp_all [takeWhile, Cursor.advance]

end Read

lemma append_append_list {α : Type} (out : Array α) (as bs : List α) :
    out ++ as ++ bs = out ++ (as ++ bs) :=
  Array.ext' (by simp)

def Write.Appends (write : Write Unit) (bytes : List UInt8) : Prop :=
  ∀ out, write out = .ok () (out ++ bytes)

namespace Write

variable {as bs : List UInt8}

lemma bytes_appends (data : List UInt8) : (bytes data).Appends data := fun _ => rfl

lemma u2_appends {n : Nat} (h : n < 65536) : (u2 (.ofNat n)).Appends (toBytes 2 n) := by
  rw [u2, UInt16.toNat_ofNat_of_lt' h]
  exact bytes_appends _

lemma u4_appends {n : Nat} (h : n < 4294967296) : (u4 (.ofNat n)).Appends (toBytes 4 n) := by
  rw [u4, UInt32.toNat_ofNat_of_lt' h]
  exact bytes_appends _

lemma Appends.then {first second : Write Unit} (h : first.Appends as) (h' : second.Appends bs) :
    (first >>= fun _ => second).Appends (as ++ bs) := by
  intro out
  refine Step.bind_eq_ok_iff.mpr ⟨(), out ++ as, h out, ?_⟩
  rw [h', append_append_list]

lemma appends_nil : Appends (pure ()) [] := fun out => by
  simp [pure, EStateM.pure]

lemma forM_appends {α : Type} {write : α → Write Unit} {form : α → List UInt8} {items : List α}
    (h : ∀ a ∈ items, (write a).Appends (form a)) :
    (items.forM write).Appends (items.flatMap form) := by
  induction items with
  | nil => exact appends_nil
  | cons a items ih =>
    rw [List.flatMap_cons]
    exact (h a (by simp)).then (ih fun b hb => h b (by simp [hb]))

end Write

end ClassFile
