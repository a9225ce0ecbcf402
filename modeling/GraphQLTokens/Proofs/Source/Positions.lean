import GraphQLTokens.Proofs.Source.Tables

namespace GraphQLTokens.Lines

/-- The index `i` of `t` lies `k` scalars into `line`. The index just after the last scalar lies at the
end of the last line. -/
structure Stands (t : Text) (i : Nat) (before : List Line) (line : Line) (after : List Line) (k : Nat) :
    Prop where
  lined : Lined t (before ++ line :: after)
  index : i = (joined before).length + k
  within : k < line.whole.length ∨ after = [] ∧ k = line.whole.length

variable {t text ending rest : Text} {line : Line} {lines before after : List Line} {i k : Nat}

lemma exists_split (h : i ≤ (joined lines).length) (hne : lines ≠ []) : ∃ before line after k,
    lines = before ++ line :: after ∧ i = (joined before).length + k ∧
      (k < line.whole.length ∨ after = [] ∧ k = line.whole.length) := by
  induction lines generalizing i with
  | nil => exact absurd rfl hne
  | cons line lines ih =>
    rw [joined_cons, List.length_append] at h
    by_cases hlt : i < line.whole.length
    · exact ⟨[], line, lines, i, rfl, by simp, .inl hlt⟩
    · by_cases hlines : lines = []
      · subst hlines
        refine ⟨[], line, [], i, rfl, by simp, .inr ⟨rfl, ?_⟩⟩
        rw [joined_nil, List.length_nil] at h
        omega
      · obtain ⟨before, line', after, k, rfl, hi, hk⟩ := ih (i := i - line.whole.length) (by omega) hlines
        refine ⟨line :: before, line', after, k, rfl, ?_, hk⟩
        rw [joined_cons, List.length_append]
        omega

lemma Lined.exists_stands (h : Lined t lines) (hi : i ≤ t.length) : ∃ before line after k,
    lines = before ++ line :: after ∧ Stands t i before line after k := by
  rw [← h.joined_eq] at hi
  obtain ⟨before, line, after, k, rfl, hindex, hk⟩ := exists_split hi h.ne_nil
  exact ⟨before, line, after, k, rfl, h, hindex, hk⟩

lemma exists_stands (hi : i ≤ t.length) : ∃ before line after k, Stands t i before line after k := by
  obtain ⟨lines, hlines⟩ := exists_lined t
  obtain ⟨before, line, after, k, -, h⟩ := hlines.exists_stands hi
  exact ⟨before, line, after, k, h⟩

lemma advance_past (p : Position) (t : Text) (h : t.length ≤ i) : p.advance t i = p.advance t t.length := by
  induction t generalizing p i with
  | nil => cases i <;> rfl
  | cons c t ih =>
    cases i with
    | zero => simp at h
    | succ i => exact ih _ (Nat.le_of_succ_le_succ h)

lemma advance_plain (h : Plain text) (p : Position) (t : Text) (j : Nat) :
    p.advance (text ++ t) (text.length + j) =
      (Position.mk p.line (p.column + text.length)).advance t j := by
  induction text generalizing p with
  | nil => simp
  | cons c text ih =>
    rw [plain_cons] at h
    have hstay : p.after c (text ++ t) = ⟨p.line, p.column + 1⟩ := by
      have hc := h.1
      simp only [isLineTerminator, Bool.or_eq_true, beq_iff_eq, not_or] at hc
      simp [Position.after, endsLine, hc.1, hc.2]
    rw [List.length_cons, Nat.add_right_comm, List.cons_append, Position.advance, hstay, ih h.2,
      Nat.add_assoc, Nat.add_comm 1]

lemma advance_within (h : Plain text) (p : Position) (t : Text) (hk : k ≤ text.length) :
    p.advance (text ++ t) k = ⟨p.line, p.column + k⟩ := by
  have htake : Plain (text.take k) := fun c hc => h c (List.mem_of_mem_take hc)
  have hstop := advance_plain htake p (text.drop k ++ t) 0
  rw [← List.append_assoc, List.take_append_drop, List.length_take, Nat.min_eq_left hk] at hstop
  rw [← Nat.add_zero k, hstop]
  cases text.drop k ++ t <;> rfl

lemma Ends.advance_within (h : Ends ending rest) (p : Position) (hk : k < ending.length) :
    p.advance (ending ++ rest) k = ⟨p.line, p.column + k⟩ := by
  cases h with
  | lf =>
    obtain rfl : k = 0 := by simpa using hk
    rfl
  | crlf =>
    cases k with
    | zero => rfl
    | succ k =>
      -- Between the two scalars the line goes on.
      obtain rfl : k = 0 := Nat.lt_one_iff.1 (Nat.lt_of_succ_lt_succ hk)
      rfl
  | cr =>
    obtain rfl : k = 0 := by simpa using hk
    rfl

lemma Ends.advance_append (h : Ends ending rest) (p : Position) (j : Nat) :
    p.advance (ending ++ rest) (ending.length + j) = (Position.mk (p.line + 1) 1).advance rest j := by
  rw [Nat.add_comm]
  cases h with
  | lf => rfl
  | crlf => rfl
  | cr hrest =>
    have hafter : p.after '\r' rest = ⟨p.line + 1, 1⟩ := by
      simp [Position.after, endsLine, hrest]
    rw [List.singleton_append]
    exact congrArg (·.advance rest j) hafter

lemma Lined.advance_eq (h : Lined t (before ++ line :: after))
    (hk : k < line.whole.length ∨ after = [] ∧ k = line.whole.length) (n : Nat) :
    (Position.mk n 1).advance t ((joined before).length + k) = ⟨n + before.length, k + 1⟩ := by
  generalize hlines : before ++ line :: after = lines at h
  induction h generalizing before n with
  | @last text htext =>
    obtain ⟨rfl, he⟩ : before = [] ∧ [line] ++ after = [⟨text, []⟩] := by
      cases before with
      | nil => exact ⟨rfl, hlines⟩
      | cons => simp at hlines
    cases he
    have hle : k ≤ text.length := by
      simp [Line.whole] at hk
      omega
    have hstop := advance_within htext ⟨n, 1⟩ [] hle
    rw [List.append_nil] at hstop
    simpa [Nat.add_comm] using hstop
  | @cons text ending rest lines htext hend hrest ih =>
    cases before with
    | nil =>
      cases hlines
      have hlt : k < text.length + ending.length := by
        have hafter := hrest.ne_nil
        simpa [Line.whole, hafter] using hk
      by_cases hle : k ≤ text.length
      · simpa [Nat.add_comm] using advance_within htext ⟨n, 1⟩ (ending ++ rest) hle
      · obtain ⟨j, rfl⟩ := Nat.exists_eq_add_of_le (Nat.le_of_not_le hle)
        have hj : j < ending.length := by omega
        rw [joined_nil, List.length_nil, Nat.zero_add, advance_plain htext, hend.advance_within _ hj]
        simp
        omega
    | cons first before =>
      -- The terminator takes the scan to the first column of the next line.
      cases hlines
      rw [joined_cons, Line.whole, List.length_append, List.length_append, Nat.add_assoc, Nat.add_assoc,
        advance_plain htext, hend.advance_append, ih _ rfl]
      simp
      omega

lemma Stands.positionAt_eq (h : Stands t i before line after k) :
    positionAt i t = ⟨before.length + 1, k + 1⟩ := by
  rw [h.index, positionAt, Position.first, h.lined.advance_eq h.within, Nat.add_comm]

lemma Stands.le (h : Stands t i before line after k) : i ≤ t.length := by
  have hk := h.within
  rw [h.index, h.lined.length_eq]
  omega

lemma Stands.countUpTo_eq (h : Stands t i before line after k) (name : Text) :
    countUpTo (SourceFile.ofText name t).lineStarts i = before.length + 1 := by
  have hstarts := (h.lined.tables name).2.1
  have hsplit : startsFrom 0 (before ++ line :: after) = (startsFrom 0 before ++ [(joined before).length]) ++
      startsFrom ((joined before).length + line.whole.length) after := by
    simp [startsFrom_append, startsFrom]
  have hcount := countUpTo_append (n := i) (hstarts.trans hsplit) (hstarts ▸ pairwise_startsFrom 0 _) ?_ ?_
  · rwa [List.length_append, length_startsFrom] at hcount
  · intro x hx
    rw [h.index]
    rcases List.mem_append.1 hx with hx | hx
    · have := (bounds_of_mem_startsFrom hx).2
      omega
    · rw [List.mem_singleton.1 hx]
      exact Nat.le_add_right _ _
  · intro y hy
    have hle := (bounds_of_mem_startsFrom hy).1
    rw [h.index]
    rcases h.within with hk | ⟨rfl, -⟩
    · omega
    · simp [startsFrom] at hy

lemma Stands.position_eq (h : Stands t i before line after k) (name : Text) :
    (SourceFile.ofText name t).position i = ⟨before.length + 1, k + 1⟩ := by
  have hmin : min i (SourceFile.ofText name t).length = i := by
    rw [length_ofText]
    exact Nat.min_eq_left h.le
  have hstart : (SourceFile.ofText name t).lineStarts.getD before.length 0 = (joined before).length := by
    rw [Array.getD_eq_getD_getElem?, h.lined.start name, Option.getD_some]
  rw [SourceFile.position, hmin, h.countUpTo_eq name]
  simp [hstart, h.index]

lemma Stands.getElem?_eq (h : Stands t i before line after k) :
    t[i]? = (line.text ++ (line.ending ++ joined after))[k]? := by
  conv_lhs => rw [h.lined.split, h.index]
  rw [List.getElem?_append_right (Nat.le_add_right _ _), Nat.add_sub_cancel_left]

lemma Stands.lt_text (h : Stands t i before line after k) {c : Char} (hc : t[i]? = some c)
    (hplain : ¬ isLineTerminator c) : k < line.text.length := by
  by_contra hge
  rw [h.getElem?_eq, List.getElem?_append_right (Nat.le_of_not_lt hge)] at hc
  -- Past its text a line has only the terminator.
  rcases h.lined.ends with ⟨rfl, he⟩ | ⟨hne, hend⟩
  · simp [he] at hc
  · have hk := h.within.resolve_right fun hend => hne hend.1
    rw [length_whole] at hk
    rw [List.getElem?_append_left (by omega)] at hc
    exact hplain (hend.terminator.2 c (List.mem_of_getElem? hc))

def LineEndsAfter (t : Text) (i : Nat) : Prop :=
  t[i]? = some '\n' ∨ t[i]? = some '\r' ∧ t[i + 1]? ≠ some '\n'

structure Locates (t : Text) (position : Nat → Position) : Prop where
  first : position 0 = ⟨1, 1⟩
  newLine : ∀ i, LineEndsAfter t i → position (i + 1) = ⟨(position i).line + 1, 1⟩
  sameLine : ∀ i < t.length, ¬ LineEndsAfter t i →
    position (i + 1) = ⟨(position i).line, (position i).column + 1⟩
  past : ∀ i, t.length ≤ i → position i = position t.length

lemma advance_succ (p : Position) (h : i < t.length) :
    p.advance t (i + 1) = (p.advance t i).after t[i] (t.drop (i + 1)) := by
  induction t generalizing p i with
  | nil => simp at h
  | cons c t ih =>
    cases i with
    | zero => cases t <;> rfl
    | succ i => exact ih _ (Nat.lt_of_succ_lt_succ h)

lemma endsLine_iff (h : i < t.length) : endsLine t[i] (t.drop (i + 1)) ↔ LineEndsAfter t i := by
  simp [endsLine, LineEndsAfter, h]

lemma locates_positionAt (t : Text) : Locates t (positionAt · t) where
  first := by cases t <;> rfl
  newLine i hi := by
    have hlt : i < t.length := by
      rcases hi with hi | ⟨hi, -⟩ <;> exact (List.getElem?_eq_some_iff.1 hi).1
    exact (advance_succ .first hlt).trans (if_pos ((endsLine_iff hlt).2 hi))
  sameLine i hlt hi := (advance_succ .first hlt).trans (if_neg (hi ∘ (endsLine_iff hlt).1))
  past i hi := advance_past .first t hi

def LooksUp (f : SourceFile) (index : Nat) : Prop :=
  ∃ line start, countUpTo f.lineStarts (min index f.length) = line + 1 ∧
    f.lineStarts[line]? = some start ∧ start ≤ min index f.length

lemma position_min (f : SourceFile) (index : Nat) : f.position (min index f.length) = f.position index := by
  simp [SourceFile.position]

lemma position_ofText (name t : Text) (index : Nat) :
    (SourceFile.ofText name t).position index = positionAt index t := by
  obtain ⟨before, line, after, k, h⟩ := exists_stands (Nat.min_le_right index t.length)
  rw [← position_min, length_ofText, h.position_eq name, ← h.positionAt_eq]
  rcases Nat.le_total index t.length with hle | hle
  · rw [Nat.min_eq_left hle]
  · rw [Nat.min_eq_right hle, (locates_positionAt t).past index hle]

lemma looksUp_ofText (name t : Text) (index : Nat) : LooksUp (SourceFile.ofText name t) index := by
  obtain ⟨before, line, after, k, h⟩ := exists_stands (Nat.min_le_right index t.length)
  refine ⟨before.length, (joined before).length, ?_, h.lined.start name, ?_⟩
  · rw [length_ofText, h.countUpTo_eq name]
  · rw [length_ofText, h.index]
    exact Nat.le_add_right _ _

theorem position_eq_positionAt (name t : Text) :
    (∀ index, (SourceFile.ofText name t).position index = positionAt index t) ∧
      Locates t (positionAt · t) ∧ ∀ index, LooksUp (SourceFile.ofText name t) index :=
  ⟨position_ofText name t, locates_positionAt t, looksUp_ofText name t⟩

end GraphQLTokens.Lines
