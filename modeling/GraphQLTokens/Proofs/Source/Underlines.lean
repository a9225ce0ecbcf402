import GraphQLTokens.Proofs.Source.Snippets
import Mathlib.Order.Interval.Finset.Nat

namespace GraphQLTokens.Lines

/-- What the snippet of a span holds. No column goes past the length by more than two, so that the sums
which make the columns stay words. -/
structure Shows (f : SourceFile) (span : Span) (label : Option Text) (s : Snippet) : Prop where
  place : Position.mk s.lineNumber s.startColumn = f.position span.start
  line : f.line? s.lineNumber = .ok s.line
  columns : s.startColumn < s.endColumn ∧ s.endColumn ≤ f.length + 2
  label : s.label = label

def ReadsLine (f : SourceFile) (index : Nat) : Prop :=
  LooksUp f index ∧ ∃ before text after, f.content = before ++ text ++ after ∧
    f.lines[(f.position index).line - 1]? = some ⟨byteSize before, byteSize (before ++ text)⟩

structure Answers (f : SourceFile) (span : Span) (label : Option Text) : Prop where
  error_iff : ∀ e, f.snippet? span label = .error e ↔
    span.stop < span.start ∧ e = .invalidSpan span.start span.stop ∨
      span.start ≤ span.stop ∧ f.length < span.stop ∧ e = .indexOutOfBounds span.stop f.length
  ok_iff : (∃ s, f.snippet? span label = .ok s) ↔ span.start ≤ span.stop ∧ span.stop ≤ f.length
  shows : ∀ s, f.snippet? span label = .ok s → Shows f span label s
  reads : ReadsLine f span.start ∧ LooksUp f span.stop

def lineLength (f : SourceFile) (number : Nat) : Nat :=
  match f.line? number with
  | .ok text => text.length
  | .error _ => 0

def onFirstLine (f : SourceFile) (span : Span) : Finset Nat :=
  (Finset.Ico span.start span.stop).filter fun i =>
    (f.position i).line = (f.position span.start).line ∧
      (f.position i).column ≤ lineLength f (f.position span.start).line

def CutsLineEnd (f : SourceFile) (span : Span) : Prop :=
  span.start + 1 < span.stop ∧ (f.position span.stop).line = (f.position span.start).line ∧
    f.content[span.stop - 1]? = some '\r' ∧ f.content[span.stop]? = some '\n'

structure Underlines (f : SourceFile) (span : Span) (s : Snippet) : Prop where
  columns_iff : s.endColumn - s.startColumn = max (onFirstLine f span).card 1 ↔ ¬ CutsLineEnd f span
  cut : CutsLineEnd f span → s.endColumn - s.startColumn = (onFirstLine f span).card + 1
  goes_on : (f.position span.stop).line ≠ (f.position span.start).line →
    s.startColumn ≤ s.line.length → s.endColumn = s.line.length + 1

variable {name t : Text} {label : Option Text} {span : Span} {line : Line} {before after : List Line}
  {f : SourceFile} {s : Snippet} {e : SourceError} {a b j k : Nat}

lemma accept_eq_error_iff : f.accept span = .error e ↔
    span.stop < span.start ∧ e = .invalidSpan span.start span.stop ∨
      span.start ≤ span.stop ∧ f.length < span.stop ∧ e = .indexOutOfBounds span.stop f.length := by
  unfold SourceFile.accept
  split_ifs with hreversed hpast
  · simp [hreversed, Nat.not_le.2 hreversed, eq_comm]
  · simp [hreversed, hpast, Nat.le_of_not_lt hreversed, eq_comm]
  · simp [hreversed, hpast]

lemma accept_eq_ok_iff : f.accept span = .ok () ↔ span.start ≤ span.stop ∧ span.stop ≤ f.length := by
  unfold SourceFile.accept
  split_ifs with hreversed hpast
  · simp [Nat.not_le.2 hreversed]
  · simp [Nat.not_le.2 hpast]
  · simp [Nat.le_of_not_lt hreversed, Nat.le_of_not_lt hpast]

lemma snippet?_of_refused (label : Option Text) (h : f.accept span = .error e) :
    f.snippet? span label = .error e := by
  rw [SourceFile.snippet?, h]
  rfl

lemma column_le (f : SourceFile) (index : Nat) : (f.position index).column ≤ f.length + 1 := by
  simp only [SourceFile.position]
  omega

lemma Stands.shows (h : Stands t a before line after k) (hab : a ≤ b) (hb : b ≤ t.length)
    (hs : (SourceFile.ofText name t).snippet? ⟨a, b⟩ label = .ok s) :
    Shows (SourceFile.ofText name t) ⟨a, b⟩ label s := by
  rw [h.snippet?_eq name label hab hb] at hs
  cases hs
  constructor
  case place => rw [h.position_eq name]
  case line => exact h.lined.line?_eq name
  case columns =>
    have hstop := column_le (SourceFile.ofText name t) b
    have hstart := column_le (SourceFile.ofText name t) a
    have htotal := h.lined.length_eq
    rw [length_whole] at htotal
    rw [h.position_eq name] at hstart
    rw [length_ofText] at hstop hstart ⊢
    simp only at hstart ⊢
    split <;> omega
  case label => rfl

lemma readsLine (name t : Text) (index : Nat) : ReadsLine (SourceFile.ofText name t) index := by
  refine ⟨looksUp_ofText name t index, ?_⟩
  obtain ⟨before, line, after, k, h⟩ := exists_stands (Nat.min_le_right index t.length)
  refine ⟨joined before, line.text, line.ending ++ joined after, ?_, ?_⟩
  · rw [List.append_assoc]
    exact h.lined.split
  · rw [← position_min, length_ofText, h.position_eq name, byteSize_append]
    exact h.lined.range name

lemma exists_snippet (name : Text) (label : Option Text) (h : span.start ≤ span.stop)
    (hstop : span.stop ≤ t.length) : ∃ s, (SourceFile.ofText name t).snippet? span label = .ok s ∧
      Shows (SourceFile.ofText name t) span label s := by
  obtain ⟨before, line, after, k, hstands⟩ := exists_stands (h.trans hstop)
  have hok := hstands.snippet?_eq name label h hstop
  exact ⟨_, hok, hstands.shows h hstop hok⟩

lemma snippet?_cases (name t : Text) (span : Span) (label : Option Text) :
    (span.start ≤ span.stop ∧ span.stop ≤ (SourceFile.ofText name t).length ∧
      ∃ s, (SourceFile.ofText name t).snippet? span label = .ok s ∧
        Shows (SourceFile.ofText name t) span label s) ∨
    ¬ (span.start ≤ span.stop ∧ span.stop ≤ (SourceFile.ofText name t).length) ∧
      ∃ e, (SourceFile.ofText name t).snippet? span label = .error e := by
  cases haccept : (SourceFile.ofText name t).accept span with
  | ok =>
    obtain ⟨hle, hstop⟩ := accept_eq_ok_iff.1 haccept
    exact .inl ⟨hle, hstop, exists_snippet name label hle (length_ofText name t ▸ hstop)⟩
  | error e =>
    refine .inr ⟨fun hin => ?_, e, snippet?_of_refused label haccept⟩
    rw [accept_eq_ok_iff.2 hin] at haccept
    cases haccept

theorem snippet?_answers (name t : Text) (span : Span) (label : Option Text) :
    Answers (SourceFile.ofText name t) span label := by
  have hreads : ReadsLine (SourceFile.ofText name t) span.start ∧
      LooksUp (SourceFile.ofText name t) span.stop :=
    ⟨readsLine name t span.start, looksUp_ofText name t span.stop⟩
  cases haccept : (SourceFile.ofText name t).accept span with
  | error cause =>
    have hrefused := snippet?_of_refused label haccept
    refine ⟨fun e => ?_, ?_, fun s hs => ?_, hreads⟩
    · rw [← accept_eq_error_iff, hrefused, haccept, Except.error.injEq, Except.error.injEq]
    · rw [← accept_eq_ok_iff, hrefused, haccept]
      simp
    · rw [hrefused] at hs
      cases hs
  | ok =>
    obtain ⟨hle, hstop⟩ := accept_eq_ok_iff.1 haccept
    obtain ⟨s, hok, hshows⟩ := exists_snippet name label hle (length_ofText name t ▸ hstop)
    refine ⟨fun e => ?_, ⟨fun _ => ⟨hle, hstop⟩, fun _ => ⟨s, hok⟩⟩, fun s' hs' => ?_, hreads⟩
    · rw [← accept_eq_error_iff, hok, haccept]
      simp
    · rw [hok] at hs'
      cases hs'
      exact hshows

lemma Stands.past_text (h : Stands t b before line after j) (hj : line.text.length < j) :
    j = line.text.length + 1 ∧ line.ending = ['\r', '\n'] := by
  have hwithin := h.within
  rw [length_whole] at hwithin
  rcases h.lined.ends with ⟨rfl, he⟩ | ⟨hne, hend⟩
  · rw [he, List.length_nil] at hwithin
    omega
  · have hlt := hwithin.resolve_right fun hlast => hne hlast.1
    obtain ⟨text, ending⟩ := line
    simp only at hj hlt hend ⊢
    cases hend with
    | lf => simp at hlt; omega
    | crlf => simp at hlt; exact ⟨by omega, rfl⟩
    | cr => simp at hlt; omega

lemma Stands.cutsLineEnd_iff (h : Stands t a before line after k) (hstop : Stands t b before line after j)
    (name : Text) :
    CutsLineEnd (SourceFile.ofText name t) ⟨a, b⟩ ↔ k < line.text.length ∧ line.text.length < j := by
  have hstart := h.index
  have hindex := hstop.index
  have hplain : Plain line.text := h.lined.plain_of_mem (by simp)
  constructor
  · rintro ⟨hlt, -, hcr, -⟩
    change t[b - 1]? = some '\r' at hcr
    simp only at hlt
    suffices hj : line.text.length < j by
      have hpast := (hstop.past_text hj).1
      omega
    by_contra hj
    have hprevious := hstop.move (j := b - 1) (by omega) (by rw [length_whole]; omega)
    rw [hprevious.getElem?_eq, List.getElem?_append_left (by omega)] at hcr
    exact hplain _ (List.mem_of_getElem? hcr) rfl
  · rintro ⟨hk, hj⟩
    obtain ⟨hpast, hending⟩ := hstop.past_text hj
    have hwhole : line.whole.length = line.text.length + 2 := by rw [length_whole, hending]; rfl
    have hprevious := hstop.move (j := b - 1) (by omega) (by omega)
    have hcr : t[b - 1]? = some '\r' := by
      rw [hprevious.getElem?_eq, List.getElem?_append_right (by omega), hending]
      have hoffset : b - 1 - (joined before).length - line.text.length = 0 := by omega
      rw [hoffset]
      rfl
    have hlf : t[b]? = some '\n' := by
      rw [hstop.getElem?_eq, List.getElem?_append_right (by omega), hending, hpast, Nat.add_sub_cancel_left]
      rfl
    refine ⟨by simp only; omega, ?_, hcr, hlf⟩
    rw [h.position_eq name, hstop.position_eq name]

lemma Stands.onFirstLine_eq (h : Stands t a before line after k) (hb : b ≤ t.length) (name : Text) :
    onFirstLine (SourceFile.ofText name t) ⟨a, b⟩ =
      Finset.Ico a (min b ((joined before).length + line.text.length)) := by
  have hindex := h.index
  ext i
  simp only [onFirstLine, Finset.mem_filter, Finset.mem_Ico, lt_min_iff, and_assoc]
  refine and_congr_right fun hai => and_congr_right fun hib => ?_
  rw [h.position_eq name, lineLength, h.lined.line?_eq name]
  rcases h.stop_cases name hai (Nat.le_of_lt (hib.trans_le hb)) with hstands | ⟨hge, hline⟩
  · rw [hstands.position_eq name]
    simp only [true_and]
    omega
  · rw [length_whole] at hge
    simp only [hline, false_and, false_iff]
    omega

lemma Stands.card_onFirstLine (h : Stands t a before line after k) (hb : b ≤ t.length) (name : Text) :
    (onFirstLine (SourceFile.ofText name t) ⟨a, b⟩).card =
      min b ((joined before).length + line.text.length) - a := by
  rw [h.onFirstLine_eq hb name, Nat.card_Ico]

lemma Stands.underlines_same (h : Stands t a before line after k) (hstop : Stands t b before line after j)
    (hab : a ≤ b) (hb : b ≤ t.length) (name : Text)
    (hs : (SourceFile.ofText name t).snippet? ⟨a, b⟩ label = .ok s) :
    Underlines (SourceFile.ofText name t) ⟨a, b⟩ s := by
  rw [h.snippet?_eq name label hab hb, hstop.position_eq name, if_pos rfl] at hs
  cases hs
  have hstart := h.index
  have hindex := hstop.index
  have hcuts := h.cutsLineEnd_iff hstop name
  have hcard := h.card_onFirstLine hb name
  have hpast := fun hj => (hstop.past_text hj).1
  constructor
  case columns_iff =>
    rw [hcuts, hcard]
    simp only
    omega
  case cut =>
    rw [hcuts, hcard]
    simp only
    omega
  case goes_on =>
    intro hline
    rw [h.position_eq name, hstop.position_eq name] at hline
    exact absurd rfl hline

lemma Stands.underlines_past (h : Stands t a before line after k) (hab : a ≤ b) (hb : b ≤ t.length)
    (name : Text) (hline : ((SourceFile.ofText name t).position b).line ≠ before.length + 1)
    (hge : (joined before).length + line.whole.length ≤ b)
    (hs : (SourceFile.ofText name t).snippet? ⟨a, b⟩ label = .ok s) :
    Underlines (SourceFile.ofText name t) ⟨a, b⟩ s := by
  rw [h.snippet?_eq name label hab hb, if_neg hline] at hs
  cases hs
  have hstart := h.index
  have hcard := h.card_onFirstLine hb name
  have hcuts : ¬ CutsLineEnd (SourceFile.ofText name t) ⟨a, b⟩ := by
    rintro ⟨-, hsame, -⟩
    rw [h.position_eq name] at hsame
    exact hline hsame
  rw [length_whole] at hge
  constructor
  case columns_iff =>
    rw [hcard]
    simp only [hcuts, not_false_eq_true, iff_true]
    omega
  case cut => exact fun hcut => absurd hcut hcuts
  case goes_on =>
    intro _ hstart
    simp only at hstart ⊢
    omega

/-- A span is underlined where it covers the text of the line on which it starts, or at one column if
it covers none of it. There is one column too many exactly if the span ends within a CR LF after that
text. -/
theorem snippet?_underlines (name : Text) (label : Option Text) (hab : a ≤ b) (hb : b ≤ t.length) :
    ∃ s, (SourceFile.ofText name t).snippet? ⟨a, b⟩ label = .ok s ∧
      Underlines (SourceFile.ofText name t) ⟨a, b⟩ s := by
  obtain ⟨before, line, after, k, h⟩ := exists_stands (hab.trans hb)
  have hok := h.snippet?_eq name label hab hb
  refine ⟨_, hok, ?_⟩
  rcases h.stop_cases name hab hb with hstop | ⟨hge, hline⟩
  · exact h.underlines_same hstop hab hb name hok
  · exact h.underlines_past hab hb name hline hge hok

theorem snippet?_underlines_past : (0 ≤ 4 ∧ 4 ≤ "ab\r\ncd".toList.length) ∧
    ∃ s, (SourceFile.ofText [] "ab\r\ncd".toList).snippet? ⟨0, 4⟩ none = .ok s ∧
      Underlines (SourceFile.ofText [] "ab\r\ncd".toList) ⟨0, 4⟩ s :=
  ⟨⟨by decide, by decide⟩, snippet?_underlines [] none (by decide) (by decide)⟩

theorem snippet?_underlines_terminator : ∃ s,
    (SourceFile.ofText [] "ab\r\ncd".toList).snippet? ⟨0, 3⟩ none = .ok s ∧
      s.endColumn - s.startColumn ≠
        max (onFirstLine (SourceFile.ofText [] "ab\r\ncd".toList) ⟨0, 3⟩).card 1 := by
  have hok : (SourceFile.ofText [] "ab\r\ncd".toList).snippet? ⟨0, 3⟩ none =
      .ok ⟨['a', 'b'], 1, 1, 4, none⟩ := by
    decide +kernel
  have hcard : (onFirstLine (SourceFile.ofText [] "ab\r\ncd".toList) ⟨0, 3⟩).card = 2 := by
    decide +kernel
  refine ⟨_, hok, ?_⟩
  rw [hcard]
  decide

end GraphQLTokens.Lines
