import GraphQLTokens.Proofs.Lexing.Pieces
import GraphQLTokens.Proofs.Scanning.Contracts

namespace GraphQLTokens.Lexing

open Grammar Scanning

variable {chain : List Recognizer} {c : Cursor} {r r' : Recognizer}

def succeeding (c : Cursor) : Set Recognizer :=
  {r | (c.recognize r).1.isSome}

lemma nextBy_eq (hchain : Ordered chain) (l : Lexer) : l.nextBy chain = l.next := by
  have hfirst : firstToken chain = firstToken Recognizer.order := by
    funext t
    exact hchain.firstToken_eq ordered_order t
  rw [Lexer.next, Lexer.nextBy, Lexer.nextBy, hfirst]

lemma collectBy_eq (hchain : Ordered chain) (l : Lexer) : l.collectBy chain = l.collect := by
  -- Along the run: each token is the one that the usual order reads, and leaves the same lexer behind.
  fun_induction Lexer.collectBy chain l with
  | case1 l l' hnext =>
    rw [nextBy_eq hchain] at hnext
    rw [collect_of_none hnext]
  | case2 l l' token hnext _ tokens final hrun ih =>
    rw [nextBy_eq hchain] at hnext
    rw [collect_of_some hnext, ← ih, hrun]

lemma ordered_of_perm (hperm : chain.Perm Recognizer.order)
    (hfloat : chain.idxOf .float < chain.idxOf .int) : Ordered chain where
  complete r := hperm.mem_iff.2 (ordered_order.complete r)
  float := hfloat

lemma mem_succeeding : r ∈ succeeding c ↔ (r.read c.remaining).isSome := by
  rw [← isSome_recognize]
  exact Iff.rfl

lemma int_mem_succeeding (h : .float ∈ succeeding c) : .int ∈ succeeding c := by
  rw [mem_succeeding, ← isSome_lexeme?] at h ⊢
  rw [lexeme?_float] at h
  obtain ⟨⟨m, rest⟩, hfloat⟩ := Option.isSome_iff_exists.1 h
  obtain ⟨i, after, hint, -⟩ := int_of_float hfloat
  rw [lexeme?_int, hint]
  rfl

lemma eq_or_number_of_mem (h : r ∈ succeeding c) (h' : r' ∈ succeeding c) :
    r = r' ∨ (r = .float ∧ r' = .int) ∨ (r = .int ∧ r' = .float) :=
  eq_or_number_of_read (mem_succeeding.1 h) (mem_succeeding.1 h')

lemma succeeding_cases (c : Cursor) :
    succeeding c = ∅ ∨ (∃ r, succeeding c = {r}) ∨ succeeding c = {.float, .int} := by
  by_cases hfloat : .float ∈ succeeding c
  · refine .inr (.inr (Set.Subset.antisymm ?_ ?_))
    · intro r hr
      rcases eq_or_number_of_mem hr hfloat with rfl | ⟨rfl, -⟩ | ⟨rfl, -⟩ <;> simp
    · rintro r (rfl | rfl)
      · exact hfloat
      · exact int_mem_succeeding hfloat
  · rcases Set.eq_empty_or_nonempty (succeeding c) with hempty | ⟨r, hr⟩
    · exact .inl hempty
    · refine .inr (.inl ⟨r, Set.Subset.antisymm (fun r' hr' => ?_) (Set.singleton_subset_iff.2 hr)⟩)
      rcases eq_or_number_of_mem hr' hr with rfl | ⟨rfl, -⟩ | ⟨-, rfl⟩
      · rfl
      · exact absurd hr' hfloat
      · exact absurd hr hfloat

theorem collectBy_reordered :
    (∀ chain : List Recognizer, chain.Perm Recognizer.order → chain.idxOf .float < chain.idxOf .int →
      ∀ l : Lexer, l.nextBy chain = l.next ∧ l.collectBy chain = l.collect) ∧
    ∀ c : Cursor, succeeding c = ∅ ∨ (∃ r, succeeding c = {r}) ∨ succeeding c = {.float, .int} := by
  refine ⟨fun chain hperm hfloat l => ?_, succeeding_cases⟩
  have hchain := ordered_of_perm hperm hfloat
  exact ⟨nextBy_eq hchain l, collectBy_eq hchain l⟩

theorem collectBy_reordered_string :
    [Recognizer.string, .float, .identifier, .int, .punctuator].Perm Recognizer.order ∧
      ∀ l : Lexer, l.collectBy [.string, .float, .identifier, .int, .punctuator] = l.collect := by
  have hperm : [Recognizer.string, .float, .identifier, .int, .punctuator].Perm Recognizer.order := by decide
  exact ⟨hperm, fun l => (collectBy_reordered.1 _ hperm (by decide) l).2⟩

end GraphQLTokens.Lexing
