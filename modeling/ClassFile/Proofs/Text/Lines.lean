import ClassFile.Text.Hex
import ClassFile.Text.Lines
import Mathlib.Data.List.Basic

namespace ClassFile.Text

variable {cs front back : List Char}

def IsPlain (cs : List Char) : Prop := '\n' ∉ cs ∧ '\r' ∉ cs

@[simp]
lemma isPlain_append : IsPlain (front ++ back) ↔ IsPlain front ∧ IsPlain back := by
  simp [IsPlain, and_and_and_comm]

lemma IsPlain.of_forall (h : ∀ c ∈ cs, c ≠ '\n' ∧ c ≠ '\r') : IsPlain cs :=
  ⟨fun hmem => (h _ hmem).1 rfl, fun hmem => (h _ hmem).2 rfl⟩

lemma IsPlain.replicate {n : Nat} {c : Char} (h : IsPlain [c]) : IsPlain (List.replicate n c) := by
  refine .of_forall fun d hd => ?_
  obtain rfl := List.eq_of_mem_replicate hd
  simpa [IsPlain, eq_comm] using h

lemma IsPlain.digitChar (n : Nat) : IsPlain [n.digitChar] := by
  simp [IsPlain, (Nat.digitChar_ne '\n' rfl).symm, (Nat.digitChar_ne '\r' rfl).symm]

lemma IsPlain.toDigits {base : Nat} (hbase : 1 < base) (n : Nat) :
    IsPlain (Nat.toDigits base n) := by
  induction n using Nat.strongRecOn with
  | ind n ih =>
    rw [Nat.toDigits_eq_if hbase]
    split_ifs with h
    · exact .digitChar n
    · have hlt : n / base < n := Nat.div_lt_self (by omega) hbase
      exact isPlain_append.mpr ⟨ih _ hlt, .digitChar _⟩

lemma IsPlain.padded (width n : Nat) : IsPlain (Hex.padded width n) := by
  rw [Hex.padded, List.leftpad]
  exact isPlain_append.mpr ⟨.replicate (by simp [IsPlain]), .toDigits (by decide) n⟩

lemma isPlain_toString (n : Nat) : IsPlain (toString n).toList := by
  rw [Nat.toString_eq_ofList_toDigits, String.toList_ofList]
  exact .toDigits (by decide) n

lemma IsPlain.intercalate {sep : List Char} {parts : List (List Char)} (hsep : IsPlain sep)
    (h : ∀ part ∈ parts, IsPlain part) : IsPlain (sep.intercalate parts) := by
  induction parts with
  | nil => simp [IsPlain]
  | cons part parts ih =>
    rw [List.forall_mem_cons] at h
    by_cases hnil : parts = []
    · subst hnil
      simpa using h.1
    · rw [List.intercalate_cons_of_ne_nil hnil]
      exact isPlain_append.mpr ⟨isPlain_append.mpr ⟨h.1, hsep⟩, ih h.2⟩

namespace Lines

lemma length_splitOn {α : Type} [BEq α] [LawfulBEq α] (sep : α) (l : List α) :
    (l.splitOn sep).length = l.count sep + 1 := by
  induction l with
  | nil => simp [List.splitOn]
  | cons a l ih =>
    rw [List.splitOn_cons_eq_if_modifyHead, List.count_cons]
    split_ifs with h <;> simp [ih]

lemma dropReturn_eq_self (h : '\r' ∉ cs) : dropReturn cs = cs :=
  if_neg fun hlast => h (List.mem_of_getLast? hlast)

lemma dropReturn_append (h : front.getLast? ≠ some '\r') :
    dropReturn (front ++ back) = front ++ dropReturn back := by
  rcases List.eq_nil_or_concat back with rfl | ⟨back, c, rfl⟩
  · rw [List.append_nil, dropReturn, if_neg h]
    exact (List.append_nil front).symm
  · rw [dropReturn, dropReturn, List.concat_eq_append, ← List.append_assoc, List.getLast?_concat,
      List.getLast?_concat, List.dropLast_concat, List.dropLast_concat]
    split_ifs <;> simp

lemma ofParts_append {parts more : List (List Char)} (h : more ≠ []) :
    ofParts (parts ++ more) = parts.map dropReturn ++ ofParts more := by
  obtain ⟨more, last, rfl⟩ := List.eq_nil_or_concat more |>.resolve_left h
  simp [ofParts, ← List.append_assoc]

def ofChars (cs : List Char) : List String := (ofParts (cs.splitOn '\n')).map .ofList

def ended (cs : List Char) : List String :=
  (cs.splitOn '\n').map fun line => .ofList (dropReturn line)

lemma ofChars_append : ofChars (front ++ '\n' :: back) = ended front ++ ofChars back := by
  rw [ofChars, List.splitOn_append_cons_self, ofParts_append (List.splitOn_ne_nil _ _),
    List.map_append, List.map_map]
  rfl

lemma ofChars_single (h : '\n' ∉ cs) (hne : cs ≠ []) : ofChars cs = [.ofList cs] := by
  simp [ofChars, List.splitOn_eq_singleton h, ofParts, hne]

lemma ended_single (h : '\n' ∉ cs) : ended cs = [.ofList (dropReturn cs)] := by
  rw [ended, List.splitOn_eq_singleton h, List.map_singleton]

lemma length_ended : (ended cs).length = cs.count '\n' + 1 := by
  rw [ended, List.length_map, length_splitOn]

lemma length_ofChars (h : '\n' ∉ back) (hne : back ≠ []) :
    (ofChars (front ++ back)).length = front.count '\n' + 1 := by
  -- Each line feed ends the part in front of it; the last line is never dropped for being empty.
  induction hcount : front.count '\n' generalizing front with
  | zero =>
    have hfront : '\n' ∉ front := List.count_eq_zero.mp hcount
    rw [ofChars_single (by simp [hfront, h]) (by simp [hne])]
    rfl
  | succ n ih =>
    have hmem : '\n' ∈ front := List.count_pos_iff.mp (by omega)
    obtain ⟨first, rest, rfl, hfirst⟩ := List.eq_append_cons_of_mem hmem
    have hrest : rest.count '\n' = n := by
      simpa [List.count_eq_zero.mpr hfirst] using hcount
    rw [List.append_assoc, List.cons_append, ofChars_append, List.length_append, length_ended,
      ih hrest, List.count_eq_zero.mpr hfirst]
    omega

section Strings

variable {front back text : String}

lemma lines_append : lines (front ++ "\n" ++ back) = ended front.toList ++ lines back := by
  have hchars : (front ++ "\n" ++ back).toList = front.toList ++ '\n' :: back.toList := by simp
  exact (congrArg ofChars hchars).trans ofChars_append

lemma lines_single (h : '\n' ∉ text.toList) (hne : text ≠ "") : lines text = [text] := by
  have hchars : text.toList ≠ [] := by simpa using hne
  exact (ofChars_single h hchars).trans (by rw [String.ofList_toList])

lemma length_lines (h : '\n' ∉ back.toList) (hne : back ≠ "") :
    (lines (front ++ back)).length = front.toList.count '\n' + 1 := by
  have hchars : back.toList ≠ [] := by simpa using hne
  rw [← length_ofChars h hchars, ← String.toList_append]
  rfl

end Strings

end Lines

end ClassFile.Text
