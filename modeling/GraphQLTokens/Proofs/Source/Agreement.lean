import GraphQLTokens.Proofs.Source.Positions

namespace GraphQLTokens.Lines

def interleaved : List Text → List Text → Text
  | text :: texts, ending :: endings => text ++ (ending ++ interleaved texts endings)
  | texts, endings => texts.flatten ++ endings.flatten

/-- The scalar at index `i` stands in line `p.line`, in its text up to the last column of the text and in
its terminator from there on. -/
def StandsIn (f : SourceFile) (i : Nat) (p : Position) : Prop :=
  ∃ before text ending after, f.content = before ++ (text ++ (ending ++ after)) ∧
    f.line? p.line = .ok text ∧ f.lineStarts[p.line - 1]? = some before.length ∧
    i + 1 = before.length + p.column ∧ 0 < p.column ∧
    (p.column ≤ text.length → f.content[i]? = text[p.column - 1]?) ∧
    (text.length < p.column → (terminators f.content)[p.line - 1]? = some ending ∧
      p.column ≤ text.length + ending.length ∧
      f.content[i]? = ending[p.column - 1 - text.length]?)

structure Tabulated (f : SourceFile) : Prop where
  size : f.lines.size = (terminators f.content).length + 1
  starts_size : f.lineStarts.size = f.lines.size
  plain : ∀ n text, f.line? n = .ok text → '\n' ∉ text ∧ '\r' ∉ text
  restores : ∃ texts : List Text, (List.range' 1 f.lines.size).map f.line? = texts.map .ok ∧
    interleaved texts (terminators f.content) = f.content
  boundaries : ∀ r ∈ f.lines, ∃ before text after, f.content = before ++ text ++ after ∧
    r = ⟨byteSize before, byteSize (before ++ text)⟩
  error_iff : ∀ n e, f.line? n = .error e ↔
    (n = 0 ∨ f.lines.size < n) ∧ e = .invalidLine n f.lines.size
  scalar : ∀ i < f.length, StandsIn f i (f.position i)

variable {t : Text} {line : Line} {lines before after : List Line} {i k n : Nat} {e : SourceError}

lemma Lined.interleaved_eq (h : Lined t lines) :
    interleaved (lines.map Line.text) (terminators t) = t := by
  induction h with
  | @last text htext =>
    have hnone := terminators_plain htext []
    rw [List.append_nil] at hnone
    rw [hnone]
    simp [interleaved, terminators]
  | cons htext hend _ ih =>
    rw [terminators_plain htext, hend.terminators_append, List.map_cons, interleaved, ih]

lemma Lined.ending (h : Lined t (before ++ line :: after)) (hne : line.ending ≠ []) :
    (terminators t)[before.length]? = some line.ending := by
  have hget : (terminators t ++ [[]])[before.length]? = some line.ending := by
    rw [← h.endings]
    simp
  rcases Nat.lt_or_ge before.length (terminators t).length with hlt | hge
  · rwa [List.getElem?_append_left hlt] at hget
  · rw [List.getElem?_append_right hge] at hget
    exact absurd (List.mem_singleton.1 (List.mem_of_getElem? hget)) hne

lemma Plain.not_mem (h : Plain t) : '\n' ∉ t ∧ '\r' ∉ t :=
  ⟨fun hc => h _ hc rfl, fun hc => h _ hc rfl⟩

section File

variable (name : Text)

lemma Lined.size_eq (h : Lined t lines) : (SourceFile.ofText name t).lines.size = lines.length ∧
    (SourceFile.ofText name t).lineStarts.size = lines.length := by
  obtain ⟨hranges, hstarts, -⟩ := h.tables name
  rw [← Array.length_toList, ← Array.length_toList, hranges, hstarts]
  exact ⟨length_rangesFrom 0 lines, length_startsFrom 0 lines⟩

lemma Lined.line?_error_iff (h : Lined t lines) : (SourceFile.ofText name t).line? n = .error e ↔
    (n = 0 ∨ lines.length < n) ∧ e = .invalidLine n lines.length := by
  have hsize := (h.size_eq name).1
  cases n with
  | zero => simp [SourceFile.line?, hsize, eq_comm]
  | succ n =>
    by_cases hn : n < lines.length
    · obtain ⟨before, line, after, rfl, rfl⟩ := exists_before hn
      rw [h.line?_eq name]
      simp
    · have hnone : (SourceFile.ofText name t).lines[n]? = none :=
        Array.getElem?_eq_none (by omega)
      simp [SourceFile.line?, hnone, hsize, eq_comm]
      omega

lemma Lined.line?_ok (h : Lined t lines) {text : Text}
    (hline : (SourceFile.ofText name t).line? n = .ok text) : ∃ before line after,
      lines = before ++ line :: after ∧ n = before.length + 1 ∧ text = line.text := by
  have hn : ¬ (n = 0 ∨ lines.length < n) := by
    intro hn
    have herror := (h.line?_error_iff name).2 ⟨hn, rfl⟩
    rw [hline] at herror
    cases herror
  have hlt : n - 1 < lines.length := by omega
  obtain ⟨before, line, after, rfl, hbefore⟩ := exists_before hlt
  obtain rfl : n = before.length + 1 := by omega
  rw [h.line?_eq name] at hline
  cases hline
  exact ⟨before, line, after, rfl, rfl, rfl⟩

lemma Lined.map_line? (h : Lined t lines) :
    (List.range' 1 (SourceFile.ofText name t).lines.size).map (SourceFile.ofText name t).line? =
      (lines.map Line.text).map .ok := by
  apply List.ext_getElem
  · simp [(h.size_eq name).1]
  · intro n hn _
    simp only [List.length_map, List.length_range', (h.size_eq name).1] at hn
    obtain ⟨before, line, after, rfl, rfl⟩ := exists_before hn
    simpa [Nat.add_comm 1] using h.line?_eq name

lemma Lined.boundaries (h : Lined t lines) {r : ByteRange} (hr : r ∈ (SourceFile.ofText name t).lines) :
    ∃ before text after, t = before ++ text ++ after ∧
      r = ⟨byteSize before, byteSize (before ++ text)⟩ := by
  obtain ⟨n, hn, hget⟩ := Array.getElem_of_mem hr
  rw [(h.size_eq name).1] at hn
  obtain ⟨before, line, after, rfl, rfl⟩ := exists_before hn
  have hrange := h.range name
  obtain ⟨_, hrange⟩ := Array.getElem?_eq_some_iff.1 hrange
  obtain rfl := hget.symm.trans hrange
  refine ⟨joined before, line.text, line.ending ++ joined after, ?_, by simp⟩
  rw [List.append_assoc]
  exact h.split

lemma Stands.standsIn (h : Stands t i before line after k) (hi : i < t.length) :
    StandsIn (SourceFile.ofText name t) i ⟨before.length + 1, k + 1⟩ := by
  have hk : k < line.text.length + line.ending.length := by
    rw [← length_whole]
    rcases h.within with hk | ⟨rfl, hk⟩
    · exact hk
    · rw [h.index, h.lined.length_eq, hk] at hi
      exact absurd hi (Nat.lt_irrefl _)
  have hget := h.getElem?_eq
  refine ⟨joined before, line.text, line.ending, joined after, h.lined.split, h.lined.line?_eq name,
    h.lined.start name, ?_, Nat.succ_pos _, fun hcolumn => ?_, fun hcolumn => ?_⟩
  · rw [h.index, Nat.add_assoc]
  · exact hget.trans (List.getElem?_append_left hcolumn)
  · -- Past its text the line has only the terminator, which is not empty here.
    have hle : line.text.length ≤ k := Nat.le_of_lt_succ hcolumn
    refine ⟨?_, hk, ?_⟩
    · apply h.lined.ending
      intro he
      rw [he, List.length_nil] at hk
      omega
    · rw [List.getElem?_append_right hle, List.getElem?_append_left (by omega)] at hget
      exact hget

end File

theorem tabulated_ofText (name t : Text) : Tabulated (SourceFile.ofText name t) := by
  obtain ⟨lines, h⟩ := exists_lined t
  obtain ⟨hsize, hstarts⟩ := h.size_eq name
  constructor
  case size =>
    have hlength := congrArg List.length h.endings
    rw [List.length_map, List.length_append] at hlength
    exact hsize.trans hlength
  case starts_size => rw [hsize, hstarts]
  case plain =>
    intro n text hline
    obtain ⟨before, line, after, rfl, -, rfl⟩ := h.line?_ok name hline
    exact (h.plain_of_mem (by simp)).not_mem
  case restores => exact ⟨_, h.map_line? name, h.interleaved_eq⟩
  case boundaries => exact fun r hr => h.boundaries name hr
  case error_iff =>
    intro n e
    rw [hsize]
    exact h.line?_error_iff name
  case scalar =>
    intro i hi
    rw [length_ofText] at hi
    obtain ⟨before, line, after, k, -, hstands⟩ := h.exists_stands (Nat.le_of_lt hi)
    rw [hstands.position_eq name]
    exact hstands.standsIn name hi

end GraphQLTokens.Lines
