import GraphQLTokens.Proofs.Source.Positions

namespace GraphQLTokens.Lines

def Marked (t : Text) (s : Span) (i : Nat) : Prop :=
  s.start ≤ i ∧ i < s.stop ∧ ∀ j c, s.start ≤ j → j ≤ i → t[j]? = some c → ¬ isLineTerminator c

def rowPlace (s : Snippet) (t : Text) (i : Nat) : Nat :=
  s.gutter + 3 + ((positionAt i t).column - 1)

structure Marks (t : Text) (span : Span) (s : Snippet) : Prop where
  place : Position.mk s.lineNumber s.startColumn = positionAt span.start t
  line : ∃ before after, t = before ++ s.line ++ after ∧
    positionAt before.length t = ⟨s.lineNumber, 1⟩ ∧ Plain s.line ∧
    ∀ c ∈ after.head?, isLineTerminator c
  rows : s.render = s.sourceRow ++ '\n' :: s.caretRow ∧ '\n' ∉ s.sourceRow ∧ '\n' ∉ s.caretRow
  gutters : ∃ blank carets,
    s.sourceRow = indent blank ++ decimal s.lineNumber ++ " | ".toList ++ s.line ∧
    s.caretRow = indent (blank + (decimal s.lineNumber).length) ++ " | ".toList ++ carets
  above : ∀ i, Marked t span i → s.sourceRow[rowPlace s t i]? = t[i]?
  carets : ∀ j, s.caretRow[j]? = some '^' ↔ ∃ i, Marked t span i ∧ j = rowPlace s t i

variable {t : Text} {line : Line} {before after : List Line} {i j k a b : Nat} {s : Snippet}

lemma Stands.move (h : Stands t i before line after k) (hj : (joined before).length ≤ j)
    (hlt : j < (joined before).length + line.whole.length) :
    Stands t j before line after (j - (joined before).length) where
  lined := h.lined
  index := by omega
  within := .inl (by omega)

section Span

variable (name : Text) (label : Option Text)

lemma Stands.stop_cases (h : Stands t a before line after k) (hab : a ≤ b) (hb : b ≤ t.length) :
    Stands t b before line after (b - (joined before).length) ∨
      (joined before).length + line.whole.length ≤ b ∧
        ((SourceFile.ofText name t).position b).line ≠ before.length + 1 := by
  obtain ⟨before', line', after', k', heq, h'⟩ := h.lined.exists_stands hb
  have hindex' := h'.index
  have hle : (joined before).length ≤ b := by
    rw [h.index] at hab
    omega
  by_cases hlen : before.length = before'.length
  · obtain ⟨rfl, htail⟩ := List.append_inj heq hlen
    cases htail
    obtain rfl : k' = b - (joined before).length := by omega
    exact .inl h'
  · rcases Nat.lt_or_ge b ((joined before).length + line.whole.length) with hlt | hge
    · exact .inl (h.move hle hlt)
    · refine .inr ⟨hge, fun hline => hlen ?_⟩
      rw [h'.position_eq name] at hline
      exact (Nat.add_right_cancel hline).symm

lemma Stands.snippet?_eq (h : Stands t a before line after k) (hab : a ≤ b) (hb : b ≤ t.length) :
    (SourceFile.ofText name t).snippet? ⟨a, b⟩ label = .ok ⟨line.text, before.length + 1, k + 1,
      max (if ((SourceFile.ofText name t).position b).line = before.length + 1 then
        ((SourceFile.ofText name t).position b).column else line.text.length + 1) (k + 2), label⟩ := by
  have haccept : (SourceFile.ofText name t).accept ⟨a, b⟩ = .ok () := by
    rw [SourceFile.accept, if_neg (Nat.not_lt.2 hab), if_neg]
    rw [length_ofText]
    exact Nat.not_lt.2 hb
  rw [SourceFile.snippet?, haccept]
  simp only [h.position_eq name, h.lined.line?_eq name, bind, Except.bind]
  rfl

lemma Stands.marked_iff (h : Stands t a before line after k) (hk : k ≤ line.text.length) (hb : b ≤ t.length) :
    Marked t ⟨a, b⟩ i ↔ a ≤ i ∧ i < min b ((joined before).length + line.text.length) := by
  have hindex := h.index
  have hplain : Plain line.text := h.lined.plain_of_mem (by simp)
  constructor
  · rintro ⟨hai, hib, hnone⟩
    refine ⟨hai, Nat.lt_min.2 ⟨hib, ?_⟩⟩
    by_contra hge
    obtain ⟨c, hc⟩ : ∃ c, t[(joined before).length + line.text.length]? = some c :=
      ⟨_, List.getElem?_eq_getElem (by simp only at hib; omega)⟩
    refine hnone _ c (by simp; omega) (by omega) hc ?_
    rw [h.lined.split, ← List.append_assoc, ← List.length_append,
      List.getElem?_append_right (Nat.le_refl _), Nat.sub_self, ← List.head?_eq_getElem?] at hc
    exact h.lined.head_ending c hc
  · rintro ⟨hai, hi⟩
    refine ⟨hai, (Nat.lt_min.1 hi).1, fun j c haj hji hc => ?_⟩
    have hlt := (Nat.lt_min.1 hi).2
    have hstands := h.move (j := j) (by simp at haj; omega) (by simp [Line.whole]; omega)
    rw [hstands.getElem?_eq, List.getElem?_append_left (by omega)] at hc
    exact hplain c (List.mem_of_getElem? hc)

lemma Stands.of_marked (h : Stands t a before line after k) (hk : k ≤ line.text.length) (hb : b ≤ t.length)
    (hi : Marked t ⟨a, b⟩ i) : Stands t i before line after (i - (joined before).length) := by
  have hindex := h.index
  have hi' := (h.marked_iff hk hb).1 hi
  refine h.move (by omega) ?_
  rw [length_whole]
  omega

lemma Stands.rowPlace_eq (h : Stands t i before line after k) (s : Snippet) :
    rowPlace s t i = s.gutter + 3 + k := by
  rw [rowPlace, h.positionAt_eq, Nat.add_sub_cancel]

lemma Stands.stop_le (h : Stands t b before line after k)
    (hcut : b = t.length ∨ b ≤ (joined before).length + line.text.length) : k ≤ line.text.length := by
  have hindex := h.index
  rcases hcut with rfl | hle
  · have htotal := h.lined.length_eq
    rcases h.within with hk | ⟨rfl, hk⟩
    · omega
    · rcases h.lined.ends with ⟨-, he⟩ | ⟨hne, -⟩
      · rw [length_whole, he, List.length_nil] at hk
        exact Nat.le_of_eq hk
      · exact absurd rfl hne
  · omega

lemma Stands.snippet?_cut (h : Stands t a before line after k) (hk : k < line.text.length) (hab : a < b)
    (hb : b ≤ t.length) (hcut : b = t.length ∨ ∀ i, a ≤ i → i < b → Marked t ⟨a, b⟩ i) :
    (SourceFile.ofText name t).snippet? ⟨a, b⟩ label = .ok ⟨line.text, before.length + 1, k + 1,
      min b ((joined before).length + line.text.length) - (joined before).length + 1, label⟩ := by
  have hindex := h.index
  have hcut' : b = t.length ∨ b ≤ (joined before).length + line.text.length := by
    refine hcut.imp_right fun hmarked => ?_
    have hlast := (h.marked_iff (Nat.le_of_lt hk) hb).1 (hmarked (b - 1) (by omega) (by omega))
    omega
  rw [h.snippet?_eq name label (Nat.le_of_lt hab) hb]
  congr 2
  rcases h.stop_cases name (Nat.le_of_lt hab) hb with hstop | ⟨hge, hline⟩
  · have hle := hstop.stop_le hcut'
    rw [hstop.position_eq name, if_pos rfl]
    simp only
    omega
  · rw [if_neg hline]
    rw [length_whole] at hge
    omega

end Span

lemma getElem?_between {x y : Text} {c : Char} (hx : c ∉ x) (hy : c ∉ y) (n j : Nat) :
    (x ++ List.replicate n c ++ y)[j]? = some c ↔ x.length ≤ j ∧ j < x.length + n := by
  rcases Nat.lt_or_ge j x.length with hlt | hge
  · rw [List.append_assoc, List.getElem?_append_left hlt]
    constructor
    · intro hc
      exact absurd (List.mem_of_getElem? hc) hx
    · omega
  · obtain ⟨i, rfl⟩ := Nat.exists_eq_add_of_le hge
    rw [List.append_assoc, List.getElem?_append_right hge, Nat.add_sub_cancel_left]
    rcases Nat.lt_or_ge i n with hlt | hge'
    · rw [List.getElem?_append_left (by simpa using hlt)]
      simp [hlt]
    · rw [List.getElem?_append_right (by simpa using hge')]
      constructor
      · intro hc
        exact absurd (List.mem_of_getElem? hc) hy
      · omega

lemma rows_eq (s : Snippet) : ∃ blank carets, s.gutter = blank + (decimal s.lineNumber).length ∧
    s.sourceRow = indent blank ++ decimal s.lineNumber ++ " | ".toList ++ s.line ∧
      s.caretRow = indent (blank + (decimal s.lineNumber).length) ++ " | ".toList ++ carets := by
  have hgutter : s.gutter = s.gutter - (decimal s.lineNumber).length + (decimal s.lineNumber).length :=
    (Nat.sub_add_cancel (Nat.le_max_left _ _)).symm
  refine ⟨s.gutter - (decimal s.lineNumber).length, indent (s.startColumn - 1) ++ (s.underline ++
    (s.label.map (' ' :: ·)).getD []), hgutter, rfl, ?_⟩
  rw [← hgutter, Snippet.caretRow]
  simp only [List.append_assoc]

lemma not_mem_sourceRow (h : '\n' ∉ s.line) : '\n' ∉ s.sourceRow := by
  obtain ⟨blank, -, -, hrow, -⟩ := rows_eq s
  have hnumber : '\n' ∉ decimal s.lineNumber := not_mem_decimal (by decide) _
  rw [hrow]
  simp [indent, hnumber, h]

lemma not_mem_caretRow (h : ∀ l ∈ s.label, '\n' ∉ l) : '\n' ∉ s.caretRow := by
  cases hlabel : s.label with
  | none => simp [Snippet.caretRow, Snippet.underline, indent, hlabel]
  | some l => simp [Snippet.caretRow, Snippet.underline, indent, hlabel, h l hlabel]

lemma getElem?_sourceRow (s : Snippet) (i : Nat) :
    s.sourceRow[s.gutter + 3 + i]? = s.line[i]? := by
  obtain ⟨blank, -, hgutter, hrow, -⟩ := rows_eq s
  have hlength : (indent blank ++ decimal s.lineNumber ++ " | ".toList).length = s.gutter + 3 := by
    rw [hgutter]
    simp [indent, Nat.add_assoc]
  rw [hrow, ← hlength, List.getElem?_append_right (Nat.le_add_right _ _), Nat.add_sub_cancel_left]

lemma getElem?_caretRow (h : ∀ l ∈ s.label, '^' ∉ l) (hcolumn : s.startColumn < s.endColumn) (j : Nat) :
    s.caretRow[j]? = some '^' ↔ s.gutter + 3 + (s.startColumn - 1) ≤ j ∧
      j < s.gutter + 3 + (s.startColumn - 1) + (s.endColumn - s.startColumn) := by
  have hblank : '^' ∉ indent s.gutter ++ " | ".toList ++ indent (s.startColumn - 1) := by
    simp [indent]
  have hlabel : '^' ∉ (s.label.map (' ' :: ·)).getD [] := by
    cases hl : s.label with
    | none => simp
    | some l => simp [h l hl]
  have hcount : max (s.endColumn - s.startColumn) 1 = s.endColumn - s.startColumn := by omega
  have hlength : (indent s.gutter ++ " | ".toList ++ indent (s.startColumn - 1)).length =
      s.gutter + 3 + (s.startColumn - 1) := by
    simp [indent, Nat.add_assoc, Nat.add_comm 3]
  rw [Snippet.caretRow, Snippet.underline, hcount, getElem?_between hblank hlabel, hlength]

lemma Stands.marks (h : Stands t a before line after k) (hk : k < line.text.length) (hab : a < b)
    (hb : b ≤ t.length) (hline : s.line = line.text) (hnumber : s.lineNumber = before.length + 1)
    (hstart : s.startColumn = k + 1)
    (hstop : s.endColumn = min b ((joined before).length + line.text.length) - (joined before).length + 1)
    (hlabel : ∀ l ∈ s.label, '\n' ∉ l ∧ '^' ∉ l) : Marks t ⟨a, b⟩ s := by
  have hindex := h.index
  have hplain : Plain line.text := h.lined.plain_of_mem (by simp)
  have hmarked (i : Nat) := h.marked_iff (i := i) (Nat.le_of_lt hk) hb
  have hstands {i : Nat} (hi : Marked t ⟨a, b⟩ i) := h.of_marked (Nat.le_of_lt hk) hb hi
  have hplace {i : Nat} (hi : Marked t ⟨a, b⟩ i) := (hstands hi).rowPlace_eq s
  constructor
  case place => rw [hnumber, hstart, h.positionAt_eq]
  case line =>
    have hfirst : Stands t (joined before).length before line after 0 := by
      refine ⟨h.lined, rfl, .inl ?_⟩
      rw [length_whole]
      omega
    rw [hline, hnumber]
    refine ⟨joined before, line.ending ++ joined after, ?_, hfirst.positionAt_eq, hplain,
      h.lined.head_ending⟩
    rw [List.append_assoc]
    exact h.lined.split
  case rows =>
    refine ⟨rfl, not_mem_sourceRow ?_, not_mem_caretRow fun l hl => (hlabel l hl).1⟩
    rw [hline]
    exact fun hc => hplain _ hc rfl
  case gutters =>
    obtain ⟨blank, carets, -, hrows⟩ := rows_eq s
    exact ⟨blank, carets, hrows⟩
  case above =>
    intro i hi
    have hi' := (hmarked i).1 hi
    rw [hplace hi, getElem?_sourceRow, hline, (hstands hi).getElem?_eq,
      List.getElem?_append_left (by omega)]
  case carets =>
    intro j
    rw [getElem?_caretRow (fun l hl => (hlabel l hl).2) (by omega), hstart, hstop]
    constructor
    · rintro ⟨hle, hlt⟩
      have hi : Marked t ⟨a, b⟩ (j - (s.gutter + 3) + (joined before).length) :=
        (hmarked _).2 (by omega)
      refine ⟨_, hi, ?_⟩
      rw [hplace hi]
      omega
    · rintro ⟨i, hi, rfl⟩
      have hi' := (hmarked i).1 hi
      rw [hplace hi]
      omega

end GraphQLTokens.Lines
