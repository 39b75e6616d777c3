import ClassFile.Proofs.Method.Stored
import ClassFile.Proofs.Pool.Representation
import ClassFile.Proofs.Text.Lines
import Mathlib.Algebra.BigOperators.Group.List.Basic

/-! The lines that show a method. Names and descriptors stand in them as they are, so a line feed in
one of them ends a line. -/

namespace ClassFile

open Text

variable {depth : UInt32}

lemma Trace.isPlain_indent (depth : UInt32) : IsPlain (Trace.indent depth).toList := by
  rw [Trace.indent, String.toList_ofList]
  exact .replicate (by simp [IsPlain])

lemma Flag.isPlain_name (f : Flag) : IsPlain f.name.toList := by
  cases f <;> exact ⟨by decide, by decide⟩

namespace Attribute

variable {pool : Pool} {name : String} {length : UInt32}

lemma Stored.Fits.of_denotes {ss : List Stored} {as : List Attribute} (hf : ∀ s ∈ ss, s.Fits)
    (h : List.Forall₂ (Stored.Denotes pool) ss as) : ∀ a ∈ as, a.info.length ≤ maxLength := by
  induction h with
  | nil => simp
  | cons hs _ ih =>
    rw [List.forall_mem_cons] at hf ⊢
    exact ⟨hs.info ▸ hf.1, ih hf.2⟩

def line (name : String) (size : Nat) (depth : UInt32) : String :=
  Trace.indent depth ++ "Attribute " ++ name ++ (" (" ++ toString size ++ " bytes)")

lemma summary_eq : summary name length depth = line name length.toNat depth := by
  simp only [summary, line, String.append_assoc]
  rfl

lemma isPlain_size (n : Nat) : IsPlain (" (" ++ toString n ++ " bytes)").toList := by
  simp only [String.toList_append, isPlain_append]
  exact ⟨⟨by simp [IsPlain], isPlain_toString n⟩, by simp [IsPlain]⟩

lemma length_lines_summary :
    (Lines.lines (summary name length depth)).length = name.toList.count '\n' + 1 := by
  have hindent : (Trace.indent depth).toList.count '\n' = 0 :=
    List.count_eq_zero.mpr (Trace.isPlain_indent depth).1
  rw [summary_eq, line, Lines.length_lines (isPlain_size _).1 (by simp)]
  simp [hindent]

lemma lines_summary (h : '\n' ∉ name.toList) :
    Lines.lines (summary name length depth) = [line name length.toNat depth] := by
  rw [summary_eq, Lines.lines_single]
  · simp only [line, String.toList_append, List.mem_append, not_or]
    exact ⟨⟨⟨(Trace.isPlain_indent depth).1, by simp⟩, h⟩, by simpa using (isPlain_size _).1⟩
  · simp [line]

end Attribute

namespace Method.Header

variable {header : Header} {word : UInt16} {name descriptor : String}

lemma isPlain_flagList (word : UInt16) : IsPlain (flagList word).toList := by
  rw [flagList]
  split
  · simp [IsPlain]
  · next names hnames =>
    simp only [String.toList_append, String.toList_intercalate, isPlain_append]
    refine ⟨⟨by simp [IsPlain], .intercalate (by simp [IsPlain]) ?_⟩, by simp [IsPlain]⟩
    simp only [Flags.names, List.map_map, List.forall_mem_map]
    exact fun f _ => f.isPlain_name

/-- The first line, if neither text holds a line feed, up to a carriage return at its end. -/
def opening (name descriptor : String) (depth : UInt32) : String :=
  Trace.indent depth ++ "Method " ++ name ++ " " ++ descriptor

def flagLine (word : UInt16) (depth : UInt32) : String :=
  Trace.indent depth ++ "    Flags: 0x" ++ .ofList (Hex.padded 4 word.toNat) ++ flagList word

def countLine (count : Nat) (depth : UInt32) : String :=
  Trace.indent depth ++ "    Attributes: (" ++ toString count ++ ")"

lemma isPlain_flagLine : IsPlain (flagLine word depth).toList := by
  simp only [flagLine, String.toList_append, String.toList_ofList, isPlain_append]
  exact ⟨⟨⟨Trace.isPlain_indent depth, by simp [IsPlain]⟩, .padded 4 _⟩, isPlain_flagList word⟩

lemma isPlain_countLine {count : Nat} : IsPlain (countLine count depth).toList := by
  simp only [countLine, String.toList_append, isPlain_append]
  exact ⟨⟨⟨Trace.isPlain_indent depth, by simp [IsPlain]⟩, isPlain_toString count⟩,
    by simp [IsPlain]⟩

lemma render_eq : header.render depth = opening header.name header.descriptor depth ++ "\n" ++
    (flagLine header.word depth ++ "\n" ++ countLine header.attributeCount depth) := by
  simp only [render, opening, flagLine, countLine, String.append_assoc]
  rfl

lemma lines_render : Lines.lines (header.render depth) =
    Lines.ended (opening header.name header.descriptor depth).toList ++
      [flagLine header.word depth, countLine header.attributeCount depth] := by
  have hcount : countLine header.attributeCount depth ≠ "" := by simp [countLine]
  rw [render_eq, Lines.lines_append, Lines.lines_append, Lines.ended_single isPlain_flagLine.1,
    Lines.dropReturn_eq_self isPlain_flagLine.2, String.ofList_toList,
    Lines.lines_single isPlain_countLine.1 hcount]
  rfl

lemma length_ended_opening : (Lines.ended (opening name descriptor depth).toList).length =
    name.toList.count '\n' + descriptor.toList.count '\n' + 1 := by
  have hindent : (Trace.indent depth).toList.count '\n' = 0 :=
    List.count_eq_zero.mpr (Trace.isPlain_indent depth).1
  simp [Lines.length_ended, opening, hindent]

lemma ended_opening (hname : '\n' ∉ name.toList) (hdescriptor : '\n' ∉ descriptor.toList) :
    Lines.ended (opening name descriptor depth).toList =
      [opening name (.ofList (Lines.dropReturn descriptor.toList)) depth] := by
  have hchars : (opening name descriptor depth).toList =
      (Trace.indent depth ++ "Method " ++ name ++ " ").toList ++ descriptor.toList := by
    rw [opening, String.toList_append]
  have hfeed : '\n' ∉ (opening name descriptor depth).toList := by
    simp [opening, (Trace.isPlain_indent depth).1, hname, hdescriptor]
  have hlast : (Trace.indent depth ++ "Method " ++ name ++ " ").toList.getLast? ≠ some '\r' := by
    rw [String.toList_append, List.getLast?_append]
    simp
  rw [Lines.ended_single hfeed, hchars, Lines.dropReturn_append hlast]
  simp [opening, ← String.toList_inj]

end Method.Header

namespace Method

variable {pool : Pool} {level : Trace.Level} {m : Method}

def lineFeeds (m : Method) : Nat :=
  m.name.toList.count '\n' + m.descriptor.toList.count '\n' +
    (m.attributes.map fun a => a.name.toList.count '\n').sum

def shownLines (depth deeper : UInt32) (word : UInt16) (m : Method) : List String :=
  Lines.lines (Header.render ⟨m.name, m.descriptor, word, m.attributes.length⟩ depth) ++
    m.attributes.flatMap fun a =>
      Lines.lines (Attribute.summary a.name (.ofNat a.info.length) deeper)

lemma lines_eq_shownLines (hlevel : level.shows .debug) (word : UInt16) :
    m.lines ⟨level, some depth⟩ word = (shownLines depth (depth + 2) word m).map .record := by
  have hnested : Attribute.lines ⟨level, some (depth + 2)⟩ = fun a =>
      (Lines.lines (Attribute.summary a.name (.ofNat a.info.length) (depth + 2))).map .record :=
    funext fun a => if_pos hlevel
  simp [lines, shownLines, Tracing.lines, Tracing.nested, hlevel, hnested, List.map_flatMap]

lemma length_shownLines {deeper : UInt32} {word : UInt16} :
    (shownLines depth deeper word m).length = 3 + m.attributes.length + m.lineFeeds := by
  have hattributes : (m.attributes.map fun a => a.name.toList.count '\n' + 1).sum =
      (m.attributes.map fun a => a.name.toList.count '\n').sum + m.attributes.length := by
    simp [List.sum_map_add]
  simp only [shownLines, Header.lines_render, List.length_append, Header.length_ended_opening,
    List.length_flatMap, Attribute.length_lines_summary, hattributes, List.length_cons,
    List.length_nil, lineFeeds]
  omega

lemma shownLines_eq {deeper : UInt32} {word : UInt16} (h : m.lineFeeds = 0)
    (hfits : ∀ a ∈ m.attributes, a.info.length ≤ Attribute.maxLength) :
    shownLines depth deeper word m =
      Header.opening m.name (.ofList (Lines.dropReturn m.descriptor.toList)) depth ::
        Header.flagLine word depth :: Header.countLine m.attributes.length depth ::
          m.attributes.map fun a => Attribute.line a.name a.info.length deeper := by
  obtain ⟨⟨hname, hdescriptor⟩, hattributes⟩ : ('\n' ∉ m.name.toList ∧ '\n' ∉ m.descriptor.toList) ∧
      ∀ a ∈ m.attributes, '\n' ∉ a.name.toList := by
    simpa [lineFeeds, List.sum_eq_zero_iff_forall_eq_nat, List.count_eq_zero] using h
  have hlines : ∀ a ∈ m.attributes,
      Lines.lines (Attribute.summary a.name (.ofNat a.info.length) deeper) =
        [Attribute.line a.name a.info.length deeper] := by
    intro a ha
    have hround : (UInt32.ofNat a.info.length).toNat = a.info.length :=
      UInt32.toNat_ofNat_of_lt' (Nat.lt_succ_of_le (hfits a ha))
    rw [Attribute.lines_summary (hattributes a ha), hround]
  rw [shownLines, Header.lines_render, Header.ended_opening hname hdescriptor,
    List.flatMap_congr hlines, List.map_eq_flatMap]
  rfl

theorem read_lines (pool : Pool) (level : Trace.Level) (depth : UInt32) (data : List UInt8)
    (start : Nat) (shown : Array Trace.Line) (m : Method) (t : Reader)
    (hlevel : level.shows .debug) (hdepth : depth.toNat + 2 < 4294967296)
    (h : read pool ⟨level, some depth⟩ ⟨.startAt data start, shown⟩ = .ok m t) :
    ∃ (word : UInt16) (deeper : UInt32) (lines : List String),
      (data.drop start).take 2 = BigEndian.toBytes 2 word.toNat ∧
      deeper.toNat = depth.toNat + 2 ∧
      t.shown = shown ++ lines.map Trace.Line.record ∧
      lines.length = 3 + m.attributes.length + m.lineFeeds ∧
      (m.lineFeeds = 0 → lines =
        Header.opening m.name (.ofList (Lines.dropReturn m.descriptor.toList)) depth ::
          Header.flagLine word depth :: Header.countLine m.attributes.length depth ::
            m.attributes.map fun a => Attribute.line a.name a.info.length deeper) := by
  obtain ⟨s, hfits, hdenotes, hspans, hshown⟩ := read_ok_iff.mp h
  have hword : (data.drop start).take 2 = BigEndian.toBytes 2 s.word.toNat := by
    have hrest : data.drop start = s.bytes ++ t.cursor.rest := hspans.1
    rw [hrest, Stored.bytes, List.append_assoc, List.take_left' (BigEndian.toBytes_length ..)]
  have hdeeper : (depth + 2).toNat = depth.toNat + 2 := by
    rw [UInt32.toNat_add]
    exact Nat.mod_eq_of_lt hdepth
  refine ⟨s.word, depth + 2, shownLines depth (depth + 2) s.word m, hword, hdeeper, ?_,
    length_shownLines, fun hnone => shownLines_eq hnone ?_⟩
  · rw [hshown, lines_eq_shownLines hlevel]
  · exact Attribute.Stored.Fits.of_denotes hfits.attributes hdenotes.attributes

def rendered : List UInt8 := [0xFF, 0, 9, 0, 1, 0, 2, 0, 1, 0, 2, 0, 0, 0, 1, 0xCD]

def renderedMethod : Method := ⟨"a", "a", .ofList [.accPublic, .accStatic], [⟨"a", [0xCD]⟩]⟩

theorem read_lines_rendered :
    Trace.Level.trace.shows .debug ∧ (1 : UInt32).toNat + 2 < 4294967296 ∧
    ∃ (t : Reader) (lines : List String),
      read .doubled ⟨.trace, some 1⟩ ⟨.startAt rendered 1, #[]⟩ = .ok renderedMethod t ∧
      t.shown = (#[] : Array Trace.Line) ++ lines.map Trace.Line.record ∧
      lines = ["    Method a a", "        Flags: 0x0009 (public, static)",
        "        Attributes: (1)", "            Attribute a (1 bytes)"] := by
  have hlevel : Trace.Level.trace.shows .debug := by decide
  have hdepth : (1 : UInt32).toNat + 2 < 4294967296 := by decide
  obtain ⟨t, hread⟩ : ∃ t, read .doubled ⟨.trace, some 1⟩ ⟨.startAt rendered 1, #[]⟩ =
      .ok renderedMethod t := ⟨_, rfl⟩
  obtain ⟨word, deeper, lines, hword, hdeeper, hshown, -, hlines⟩ :=
    read_lines .doubled .trace 1 rendered 1 #[] renderedMethod t hlevel hdepth hread
  obtain rfl : word = 9 := UInt16.toNat_inj.mp
    (BigEndian.toBytes_inj word.toNat_lt (by decide) hword.symm)
  obtain rfl : deeper = 3 := UInt32.toNat_inj.mp hdeeper
  exact ⟨hlevel, hdepth, t, lines, hread, hshown, (hlines (by decide)).trans (by decide +kernel)⟩

/-- A pool with an attribute name that reads like the end of one line and the next line. -/
def forging : Pool :=
  ((Pool.empty.push (.utf8 "m")).push (.utf8 "()V")).push
    (.utf8 "A (1 bytes)\n        Attribute B")

lemma forging_valid : forging.Valid := by
  have hname : (Constant.utf8 "m").Storable := Constant.storable_utf8_iff.mpr (by decide)
  have hdescriptor : (Constant.utf8 "()V").Storable := Constant.storable_utf8_iff.mpr (by decide)
  have hforged : (Constant.utf8 "A (1 bytes)\n        Attribute B").Storable :=
    Constant.storable_utf8_iff.mpr (by decide)
  exact .push (.push (.push .empty hname (by decide)) hdescriptor (by decide)) hforged (by decide)

def forged : List UInt8 := [0, 1, 0, 1, 0, 2, 0, 1, 0, 3, 0, 0, 0, 0]

def forgedMethod : Method :=
  ⟨"m", "()V", .onlyPublic, [⟨"A (1 bytes)\n        Attribute B", []⟩]⟩

theorem read_lines_not_fixed :
    ¬ ∀ (pool : Pool) (level : Trace.Level) (depth : UInt32) (data : List UInt8) (start : Nat)
      (shown : Array Trace.Line) (m : Method) (t : Reader), pool.Valid →
      level.shows .debug → depth.toNat + 2 < 4294967296 →
      read pool ⟨level, some depth⟩ ⟨.startAt data start, shown⟩ = .ok m t →
      ∃ lines : List String, t.shown = shown ++ lines.map Trace.Line.record ∧
        lines.length = 3 + m.attributes.length := by
  intro hfixed
  obtain ⟨t, hread⟩ : ∃ t, read forging ⟨.debug, some 0⟩ ⟨.startAt forged 0, #[]⟩ =
      .ok forgedMethod t := ⟨_, rfl⟩
  obtain ⟨s, -, -, -, hshown⟩ := read_ok_iff.mp hread
  obtain ⟨lines, hshown', hlength⟩ :=
    hfixed forging .debug 0 forged 0 #[] forgedMethod t forging_valid (by decide) (by decide)
      hread
  have hfive : t.shown.size = 5 := by
    rw [hshown, lines_eq_shownLines (by decide)]
    simp [length_shownLines, forgedMethod, lineFeeds]
  have hfour : t.shown.size = 4 := by
    rw [hshown']
    simp [hlength, forgedMethod]
  omega

end Method

end ClassFile
