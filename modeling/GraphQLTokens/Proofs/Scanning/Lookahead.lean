import GraphQLTokens.Proofs.Scanning.Programs

namespace GraphQLTokens.Scanning

open Cursor

variable {t m : Text} {c c' : Cursor} {r : Run} {steps : List Step} {n : Nat}

structure LooksAhead (c : Cursor) : Prop where
  peek : c.peek = c.remaining.head? ∧ c.peekNth 0 = .ok c.peek
  peekNth_iff : ∀ n, c.peekNth n = .ok c.remaining[n]? ↔ c.position + n < indexLimit
  overflows_iff : ∀ n, c.peekNth n = .error .overflow ↔ indexLimit ≤ c.position + n
  peekMany_iff : ∀ n m, c.peekMany n = some m ↔ n ≤ c.remaining.length ∧ m = c.remaining.take n
  startsWith_iff : ∀ p, c.startsWith p ↔ c.peekMany p.length = some p
  unseen : ∀ c' : Cursor, c'.remaining = c.remaining →
    (∀ n x, c.peekNth n = .ok x → c'.peekNth n = .ok x ∨ c'.peekNth n = .error .overflow) ∧
      (∀ n, c'.peekMany n = c.peekMany n) ∧ ∀ p, c'.startsWith p = c.startsWith p

lemma getElem?_remaining (c : Cursor) (n : Nat) : c.remaining[n]? = c.source[c.position + n]? :=
  List.getElem?_drop

lemma peekNth_of_lt (h : c.position + n < indexLimit) : c.peekNth n = .ok c.remaining[n]? := by
  rw [getElem?_remaining, peekNth, indexSum_of_lt h]
  rfl

lemma peekNth_of_le (h : indexLimit ≤ c.position + n) : c.peekNth n = .error .overflow := by
  rw [peekNth, indexSum_of_le h]
  rfl

lemma peekNth_eq_ok_iff : c.peekNth n = .ok c.remaining[n]? ↔ c.position + n < indexLimit := by
  refine ⟨fun h => ?_, peekNth_of_lt⟩
  by_contra hle
  rw [peekNth_of_le (Nat.le_of_not_lt hle)] at h
  cases h

lemma peekNth_eq_error_iff : c.peekNth n = .error .overflow ↔ indexLimit ≤ c.position + n := by
  refine ⟨fun h => ?_, peekNth_of_le⟩
  by_contra hlt
  rw [peekNth_of_lt (Nat.lt_of_not_le hlt)] at h
  cases h

lemma peekNth_of_remaining {x : Option Char} (hc : c'.remaining = c.remaining) (h : c.peekNth n = .ok x) :
    c'.peekNth n = .ok x ∨ c'.peekNth n = .error .overflow := by
  rcases Nat.lt_or_ge (c.position + n) indexLimit with hlt | hle
  · rw [← h, peekNth_of_lt hlt, ← hc]
    exact (Nat.lt_or_ge _ _).imp peekNth_of_lt peekNth_of_le
  · rw [peekNth_of_le hle] at h
    cases h

lemma peekMany_eq_some_iff : c.peekMany n = some m ↔ n ≤ c.remaining.length ∧ m = c.remaining.take n := by
  unfold peekMany
  split
  · simp [*, eq_comm]
  · simp [*]

lemma startsWith_iff_peekMany (p : Text) : c.startsWith p ↔ c.peekMany p.length = some p := by
  rw [startsWith, List.isPrefixOf_iff_prefix, peekMany_eq_some_iff, List.prefix_iff_eq_take]
  constructor
  · intro h
    refine ⟨?_, h⟩
    rw [h]
    exact List.length_take_le' _ _
  · exact fun h => h.2

theorem looksAhead_of_reaches (ht : t.length < indexLimit) (h : Reaches (.start t) steps r) :
    LooksAhead r.cursor := by
  obtain ⟨hsource, hposition, -⟩ := h.inText (inText_start t)
  constructor
  case peek =>
    have hzero : r.cursor.position + 0 < indexLimit := by omega
    rw [peekNth_of_lt hzero, List.head?_eq_getElem?, getElem?_remaining]
    exact ⟨rfl, rfl⟩
  case peekNth_iff => exact fun n => peekNth_eq_ok_iff
  case overflows_iff => exact fun n => peekNth_eq_error_iff
  case peekMany_iff => exact fun n m => peekMany_eq_some_iff
  case startsWith_iff => exact startsWith_iff_peekMany
  case unseen =>
    intro c' hc'
    refine ⟨fun n x => peekNth_of_remaining hc', ?_⟩
    unfold peekMany startsWith
    rw [hc']
    exact ⟨fun _ => rfl, fun _ => rfl⟩

theorem looksAhead_of_reaches_saved :
    ['a', 'b', 'c'].length < indexLimit ∧
    Reaches (.start ['a', 'b', 'c']) [.attempt [.advanceMany 2, .snapshot] false, .restore 0]
      ⟨⟨['a', 'b', 'c'], 2⟩, [⟨2⟩]⟩ ∧
    LooksAhead ⟨['a', 'b', 'c'], 2⟩ ∧
    (Cursor.mk ['a', 'b', 'c'] 2).peekNth (indexLimit - 3) = .ok none ∧
    (Cursor.mk ['a', 'b', 'c'] 2).peekNth (indexLimit - 2) = .error .overflow := by
  have hlength : ['a', 'b', 'c'].length < indexLimit := by decide
  have hreaches : Reaches (.start ['a', 'b', 'c'])
      [.attempt [.advanceMany 2, .snapshot] false, .restore 0] ⟨⟨['a', 'b', 'c'], 2⟩, [⟨2⟩]⟩ :=
    .later (.later (.here _ []))
  have hlooks := looksAhead_of_reaches hlength hreaches
  have hnone : (Cursor.mk ['a', 'b', 'c'] 2).remaining[indexLimit - 3]? = none :=
    List.getElem?_eq_none (by decide)
  have hlast := (hlooks.peekNth_iff (indexLimit - 3)).2 (by decide)
  rw [hnone] at hlast
  exact ⟨hlength, hreaches, hlooks, hlast, (hlooks.overflows_iff _).2 (by decide)⟩

theorem peekNth_overflows :
    replies ['a', 'b', 'c'] [.advance, .peekNth (indexLimit - 1), .remaining] =
      [(.scalar (some 'a'), 1), (.overflow, 1), (.text (some ['b', 'c']), 1)] ∧
    ['b', 'c'][indexLimit - 1]? = none := by
  have hpeek : (Cursor.mk ['a', 'b', 'c'] 1).peekNth (indexLimit - 1) = .error .overflow := by decide
  refine ⟨?_, rfl⟩
  simp [replies, performAll, perform, look, hpeek, Run.start, Run.moved, ofText, advance, peek, moveBy,
    Cursor.remaining]

end GraphQLTokens.Scanning
