import GraphQLTokens.Proofs.Source.Lines
import GraphQLTokens.Source.File

namespace GraphQLTokens.Lines

def rangesFrom (offset : Nat) : List Line → List ByteRange
  | [] => []
  | l :: lines =>
    ⟨offset, offset + byteSize l.text⟩ :: rangesFrom (offset + byteSize l.whole) lines

def startsFrom (index : Nat) : List Line → List Nat
  | [] => []
  | l :: lines => index :: startsFrom (index + l.whole.length) lines

variable {t text ending rest : Text} {line : Line} {lines before after : List Line}
  {index offset : Nat} {l : LineTables}

@[simp]
lemma byteSize_append (t s : Text) : byteSize (t ++ s) = byteSize t + byteSize s := by
  induction t with
  | nil => simp [byteSize]
  | cons c t ih => simp [byteSize, ih, Nat.add_assoc]

lemma Ends.byteSize_eq (h : Ends ending rest) : byteSize ending = ending.length := by
  cases h <;> rfl

lemma rangesFrom_append (offset : Nat) (before after : List Line) : rangesFrom offset (before ++ after) =
    rangesFrom offset before ++ rangesFrom (offset + byteSize (joined before)) after := by
  induction before generalizing offset with
  | nil => rfl
  | cons line before ih =>
    rw [List.cons_append, rangesFrom, ih, joined_cons, byteSize_append, ← Nat.add_assoc]
    rfl

lemma startsFrom_append (index : Nat) (before after : List Line) : startsFrom index (before ++ after) =
    startsFrom index before ++ startsFrom (index + (joined before).length) after := by
  induction before generalizing index with
  | nil => rfl
  | cons line before ih =>
    rw [List.cons_append, startsFrom, ih, joined_cons, List.length_append, ← Nat.add_assoc]
    rfl

lemma length_rangesFrom (offset : Nat) (lines : List Line) :
    (rangesFrom offset lines).length = lines.length := by
  induction lines generalizing offset with
  | nil => rfl
  | cons line lines ih => rw [rangesFrom, List.length_cons, List.length_cons, ih]

lemma length_startsFrom (index : Nat) (lines : List Line) :
    (startsFrom index lines).length = lines.length := by
  induction lines generalizing index with
  | nil => rfl
  | cons line lines ih => rw [startsFrom, List.length_cons, List.length_cons, ih]

lemma bounds_of_mem_startsFrom {x : Nat} (h : x ∈ startsFrom index lines) :
    index ≤ x ∧ x ≤ index + (joined lines).length := by
  induction lines generalizing index with
  | nil => simp [startsFrom] at h
  | cons line lines ih =>
    rw [joined_cons, List.length_append]
    rcases List.mem_cons.1 h with rfl | h
    · omega
    · have hx := ih h
      omega

lemma pairwise_startsFrom (index : Nat) (lines : List Line) : (startsFrom index lines).Pairwise (· ≤ ·) := by
  induction lines generalizing index with
  | nil => exact .nil
  | cons line lines ih =>
    refine .cons (fun x hx => ?_) (ih _)
    exact Nat.le_trans (Nat.le_add_right _ _) (bounds_of_mem_startsFrom hx).1

def passAll (text : Text) (l : LineTables) : LineTables :=
  { l with offset := l.offset + byteSize text, length := l.length + text.length }

lemma read_plain (h : Plain text) (t : Text) (l : LineTables) :
    LineTables.read (text ++ t) l = LineTables.read t (passAll text l) := by
  induction text generalizing l with
  | nil => rfl
  | cons c text ih =>
    rw [plain_cons] at h
    rw [List.cons_append, LineTables.read, if_neg h.1, ih h.2]
    · congr 1
      simp [passAll, LineTables.pass, byteSize]
      omega
    · rintro rest rfl -
      exact h.1 rfl

lemma Ends.read_append (h : Ends ending rest) (l : LineTables) :
    LineTables.read (ending ++ rest) l = LineTables.read rest (l.endLine ending.length) := by
  cases h with
  | lf => rfl
  | crlf => rfl
  | cr hrest =>
    rw [List.singleton_append, LineTables.read]
    · rfl
    · rintro rest' - rfl
      exact hrest rfl

lemma Lined.read_eq (h : Lined t lines) (hstart : l.lineStart = l.offset) {starts : List Nat}
    (hstarts : l.starts.toList = starts ++ [l.length]) :
    (LineTables.read t l).ranges.toList = l.ranges.toList ++ rangesFrom l.offset lines ∧
      (LineTables.read t l).starts.toList = starts ++ startsFrom l.length lines ∧
        (LineTables.read t l).length = l.length + t.length := by
  -- The line that is being read has an entry among the starts, and none yet among the ranges.
  induction h generalizing l starts with
  | @last text htext =>
    have hread := read_plain htext [] l
    rw [List.append_nil] at hread
    rw [hread]
    simp [LineTables.read, LineTables.finish, passAll, rangesFrom, startsFrom, hstart, hstarts]
  | @cons text ending rest lines htext hend _ ih =>
    rw [read_plain htext, hend.read_append]
    have hnext : ((passAll text l).endLine ending.length).starts.toList =
        (starts ++ [l.length]) ++ [l.length + text.length + ending.length] := by
      simp [LineTables.endLine, passAll, hstarts]
    obtain ⟨hranges, hstarts', hlength⟩ := ih rfl hnext
    refine ⟨?_, ?_, ?_⟩
    · rw [hranges]
      simp [LineTables.endLine, passAll, rangesFrom, Line.whole, hend.byteSize_eq, hstart,
        Nat.add_assoc]
    · rw [hstarts']
      simp [LineTables.endLine, passAll, startsFrom, Line.whole, Nat.add_assoc]
    · rw [hlength]
      simp [LineTables.endLine, passAll, Nat.add_assoc]

section File

variable {a b : Text} {r : ByteRange} (name : Text)

lemma Lined.tables (h : Lined t lines) :
    (SourceFile.ofText name t).lines.toList = rangesFrom 0 lines ∧
      (SourceFile.ofText name t).lineStarts.toList = startsFrom 0 lines ∧
        (SourceFile.ofText name t).length = t.length := by
  obtain ⟨hranges, hstarts, hlength⟩ := h.read_eq (l := .empty) rfl (List.nil_append _).symm
  exact ⟨hranges, hstarts, hlength.trans (Nat.zero_add _)⟩

@[simp]
lemma length_ofText (t : Text) : (SourceFile.ofText name t).length = t.length := by
  obtain ⟨lines, hlines⟩ := exists_lined t
  exact (hlines.tables name).2.2

lemma slice_before (h : offset + byteSize a ≤ r.start) (t : Text) :
    r.slice (a ++ t) offset = r.slice t (offset + byteSize a) := by
  induction a generalizing offset with
  | nil => rfl
  | cons c a ih =>
    rw [byteSize, ← Nat.add_assoc] at h
    have hpos := c.utf8Size_pos
    have hout : ¬ (decide (r.start ≤ offset) && decide (offset < r.stop)) := by
      simp
      omega
    rw [List.cons_append, ByteRange.slice, if_neg hout, ih h, byteSize, Nat.add_assoc]

lemma slice_within (hstart : r.start ≤ offset) (hstop : offset + byteSize a ≤ r.stop) (t : Text) :
    r.slice (a ++ t) offset = a ++ r.slice t (offset + byteSize a) := by
  induction a generalizing offset with
  | nil => rfl
  | cons c a ih =>
    rw [byteSize, ← Nat.add_assoc] at hstop
    have hpos := c.utf8Size_pos
    have hin : decide (r.start ≤ offset) && decide (offset < r.stop) := by
      simp
      omega
    rw [List.cons_append, ByteRange.slice, if_pos hin, ih (by omega) hstop, byteSize, Nat.add_assoc]
    rfl

lemma slice_past (h : r.stop ≤ offset) (t : Text) : r.slice t offset = [] := by
  induction t generalizing offset with
  | nil => rfl
  | cons c t ih =>
    have hout : ¬ (decide (r.start ≤ offset) && decide (offset < r.stop)) := by
      simp
      omega
    rw [ByteRange.slice, if_neg hout, ih (by omega)]

lemma slice_append (a b t : Text) :
    (ByteRange.mk (byteSize a) (byteSize a + byteSize b)).slice (a ++ (b ++ t)) 0 = b := by
  rw [slice_before (by simp), Nat.zero_add, slice_within (Nat.le_refl _) (Nat.le_refl _),
    slice_past (Nat.le_refl _), List.append_nil]

lemma Lined.range (h : Lined t (before ++ line :: after)) :
    (SourceFile.ofText name t).lines[before.length]? =
      some ⟨byteSize (joined before), byteSize (joined before) + byteSize line.text⟩ := by
  have hlength := length_rangesFrom 0 before
  rw [← Array.getElem?_toList, (h.tables name).1, rangesFrom_append,
    List.getElem?_append_right (Nat.le_of_eq hlength), hlength, Nat.sub_self, Nat.zero_add]
  rfl

lemma Lined.start (h : Lined t (before ++ line :: after)) :
    (SourceFile.ofText name t).lineStarts[before.length]? = some (joined before).length := by
  have hlength := length_startsFrom 0 before
  rw [← Array.getElem?_toList, (h.tables name).2.1, startsFrom_append,
    List.getElem?_append_right (Nat.le_of_eq hlength), hlength, Nat.sub_self, Nat.zero_add]
  rfl

lemma Lined.line?_eq (h : Lined t (before ++ line :: after)) :
    (SourceFile.ofText name t).line? (before.length + 1) = .ok line.text := by
  rw [SourceFile.line?, h.range name]
  have hslice := slice_append (joined before) line.text (line.ending ++ joined after)
  rw [← h.split] at hslice
  exact congrArg _ hslice

end File

end GraphQLTokens.Lines
