import GraphQLTokens.Lexer.Trivia
import GraphQLTokens.Proofs.Grammar.Reading
import GraphQLTokens.Proofs.Grammar.Scalars

namespace GraphQLTokens.Lexing

open Grammar

variable {n : Nat} {t m m' rest rest' body : Text} {kind : TriviaKind} {c : Char}

def AtLineEnd (t : Text) : Prop :=
  ∀ c ∈ t.head?, isLineTerminator c

/-- The text `m` is trivia when `rest` follows it. A comment goes on to the end of its line. -/
inductive Skips : Text → Text → Prop
  | nil (rest : Text) : Skips [] rest
  | whitespace {c : Char} {m rest : Text} : isWhitespace c → Skips m rest → Skips (c :: m) rest
  | comma {m rest : Text} : Skips m rest → Skips (',' :: m) rest
  | comment {body m rest : Text} : (∀ c ∈ body, ¬ isLineTerminator c) → AtLineEnd (m ++ rest) →
      Skips m rest → Skips ('#' :: body ++ m) rest

lemma leadingTrivia?_eq_none_iff : leadingTrivia? t = none ↔ Stops StartsTrivia t := by
  cases t with
  | nil => simp [leadingTrivia?]
  | cons c t =>
    simp only [leadingTrivia?, stops_cons, StartsTrivia]
    split_ifs <;> simp_all

lemma afterTrivia_of_some (h : leadingTrivia? t = some (kind, m, rest)) (n : Nat) :
    afterTrivia n t = afterTrivia (n + m.length) rest := by
  rw [afterTrivia]
  split <;> simp_all

lemma afterTrivia_of_none (h : leadingTrivia? t = none) (n : Nat) : afterTrivia n t = (n, t) := by
  rw [afterTrivia]
  split <;> simp_all

lemma leadingTrivia?_whitespace (hc : isWhitespace c) : leadingTrivia? (c :: t) =
    some (.whitespace, c :: t.takeWhile isWhitespace, t.dropWhile isWhitespace) := by
  simp [leadingTrivia?, hc]

lemma leadingTrivia?_comma : leadingTrivia? (',' :: t) = some (.comma, [','], t) :=
  rfl

lemma leadingTrivia?_comment (hbody : ∀ c ∈ body, ¬ isLineTerminator c) (hrest : AtLineEnd rest) :
    leadingTrivia? ('#' :: body ++ rest) = some (.comment, '#' :: body, rest) := by
  have hb : ∀ c ∈ body, (!isLineTerminator c) = true := by simpa using hbody
  have hword : isWhitespace '#' = false := rfl
  rw [List.cons_append, leadingTrivia?, List.takeWhile_append_of_pos hb, List.dropWhile_append_of_pos hb]
  cases rest with
  | nil => simp [hword]
  | cons c rest => simp [hword, hrest c rfl]

lemma afterTrivia_whitespace (hc : isWhitespace c) (n : Nat) :
    afterTrivia n (c :: t) = afterTrivia (n + 1) t := by
  rw [afterTrivia_of_some (leadingTrivia?_whitespace hc)]
  cases t with
  | nil => rfl
  | cons d t =>
    by_cases hd : isWhitespace d
    · rw [afterTrivia_of_some (leadingTrivia?_whitespace hd)]
      simp only [List.takeWhile_cons_of_pos hd, List.dropWhile_cons_of_pos hd, List.length_cons]
      congr 1
      omega
    · simp [hd]

lemma Skips.afterTrivia_append (h : Skips m rest) (n : Nat) :
    afterTrivia n (m ++ rest) = afterTrivia (n + m.length) rest := by
  induction h generalizing n with
  | nil rest => rfl
  | whitespace hc _ ih =>
    rw [List.cons_append, afterTrivia_whitespace hc, ih, List.length_cons]
    congr 1
    omega
  | comma _ ih =>
    rw [List.cons_append, afterTrivia_of_some leadingTrivia?_comma, ih, List.length_cons]
    congr 1
    simp only [List.length_cons, List.length_nil]
    omega
  | comment hbody hend _ ih =>
    rw [List.append_assoc, afterTrivia_of_some (leadingTrivia?_comment hbody hend), ih,
      List.length_append, Nat.add_assoc]

lemma Skips.head (h : Skips m rest) (hne : m ≠ []) : ∃ c m', StartsTrivia c ∧ m = c :: m' := by
  cases h with
  | nil => exact absurd rfl hne
  | whitespace hc _ => exact ⟨_, _, .inl hc, rfl⟩
  | comma _ => exact ⟨',', _, .inr (.inl rfl), rfl⟩
  | comment _ _ _ => exact ⟨'#', _, .inr (.inr rfl), rfl⟩

lemma Skips.append (h : Skips m (m' ++ rest)) (h' : Skips m' rest) : Skips (m ++ m') rest := by
  generalize hr : m' ++ rest = r at h
  induction h with
  | nil => exact h'
  | whitespace hc _ ih => exact .whitespace hc (ih hr)
  | comma _ ih => exact .comma (ih hr)
  | comment hbody hend _ ih =>
    subst hr
    rw [List.append_assoc]
    exact .comment hbody (by simpa using hend) (ih rfl)

lemma skips_of_whitespace (hm : ∀ c ∈ m, isWhitespace c) : Skips m rest := by
  induction m with
  | nil => exact .nil rest
  | cons c m ih => exact .whitespace (hm c (by simp)) (ih fun d hd => hm d (by simp [hd]))

lemma atLineEnd_dropWhile (t : Text) : AtLineEnd (t.dropWhile (!isLineTerminator ·)) := by
  intro c hc
  simpa using stops_dropWhile (!isLineTerminator ·) t c hc

lemma skips_comment (t : Text) :
    Skips ('#' :: t.takeWhile (!isLineTerminator ·)) (t.dropWhile (!isLineTerminator ·)) := by
  have hbody : ∀ c ∈ t.takeWhile (!isLineTerminator ·), ¬ isLineTerminator c := by
    intro c hc
    simpa using List.mem_takeWhile_imp hc
  have hskips := Skips.comment hbody (atLineEnd_dropWhile t) (.nil _)
  rwa [List.append_nil] at hskips

lemma skips_of_leadingTrivia? (h : leadingTrivia? t = some (kind, m, rest)) : Skips m rest := by
  cases t with
  | nil => simp [leadingTrivia?] at h
  | cons c t =>
    simp only [leadingTrivia?] at h
    split at h
    · rename_i hc
      cases h
      exact .whitespace hc (skips_of_whitespace fun d hd => List.mem_takeWhile_imp hd)
    · split at h
      · rename_i hc
        cases h
        exact hc ▸ .comma (.nil _)
      · split at h
        · rename_i hc
          cases h
          exact hc ▸ skips_comment t
        · simp at h

lemma Skips.append_leadingTrivia? (h : Skips m t) (h' : leadingTrivia? t = some (kind, m', rest)) :
    Skips (m ++ m') rest :=
  Skips.append ((append_of_leadingTrivia? h').1.symm ▸ h) (skips_of_leadingTrivia? h')

lemma skips_afterTrivia (n : Nat) (t : Text) : ∃ m, (afterTrivia n t).1 = n + m.length ∧
    m ++ (afterTrivia n t).2 = t ∧ Skips m (afterTrivia n t).2 := by
  fun_induction afterTrivia n t with
  | case1 n t h => exact ⟨[], rfl, rfl, .nil t⟩
  | case2 n t kind m rest h _ ih =>
    obtain ⟨m', hstart, happ, hskips⟩ := ih
    refine ⟨m ++ m', ?_, ?_, ?_⟩
    · rw [hstart, List.length_append, Nat.add_assoc]
    · rw [List.append_assoc, happ, (append_of_leadingTrivia? h).1]
    · exact Skips.append (happ.symm ▸ skips_of_leadingTrivia? h) hskips

lemma leadingTrivia?_afterTrivia (n : Nat) (t : Text) : leadingTrivia? (afterTrivia n t).2 = none := by
  fun_induction afterTrivia n t with
  | case1 n t h => exact h
  | case2 n t kind m rest h _ ih => exact ih

lemma Skips.length_le (h : Skips m rest) (h' : Skips m' rest') (he : m ++ rest = m' ++ rest')
    (hnone : leadingTrivia? rest = none) : m'.length ≤ m.length := by
  have hpass : afterTrivia (0 + m'.length) rest' = (0 + m.length, rest) := by
    rw [← h'.afterTrivia_append, ← he, h.afterTrivia_append, afterTrivia_of_none hnone]
  have hle : rest.length ≤ rest'.length := by
    simpa only [hpass] using length_afterTrivia_le (0 + m'.length) rest'
  have hlen := congrArg List.length he
  simp only [List.length_append] at hlen
  omega

end GraphQLTokens.Lexing
