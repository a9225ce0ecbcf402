import GraphQLTokens.Text.Classes
import Mathlib.Data.List.Basic

/-! A document is a sequence of lines, each with the terminator that ends it; only the last line has
none. -/

namespace GraphQLTokens.Lines

structure Line where
  text : Text
  ending : Text

def Line.whole (l : Line) : Text :=
  l.text ++ l.ending

def joined (lines : List Line) : Text :=
  lines.flatMap Line.whole

def Plain (t : Text) : Prop :=
  ∀ c ∈ t, ¬ isLineTerminator c

inductive Ends : Text → Text → Prop
  | lf {rest : Text} : Ends ['\n'] rest
  | crlf {rest : Text} : Ends ['\r', '\n'] rest
  | cr {rest : Text} : rest.head? ≠ some '\n' → Ends ['\r'] rest

inductive Lined : Text → List Line → Prop
  | last {text : Text} : Plain text → Lined text [⟨text, []⟩]
  | cons {text ending rest : Text} {lines : List Line} : Plain text → Ends ending rest →
      Lined rest lines → Lined (text ++ (ending ++ rest)) (⟨text, ending⟩ :: lines)

def terminators : Text → List Text
  | [] => []
  | '\r' :: '\n' :: rest => ['\r', '\n'] :: terminators rest
  | c :: rest => if isLineTerminator c then [c] :: terminators rest else terminators rest

variable {t text ending rest : Text} {c : Char} {line : Line} {lines before after : List Line}
  {n : Nat}

lemma length_whole (line : Line) : line.whole.length = line.text.length + line.ending.length :=
  List.length_append

@[simp]
lemma joined_nil : joined [] = [] :=
  rfl

@[simp]
lemma joined_cons : joined (line :: lines) = line.whole ++ joined lines :=
  rfl

@[simp]
lemma joined_append (before after : List Line) :
    joined (before ++ after) = joined before ++ joined after :=
  List.flatMap_append

@[simp]
lemma plain_nil : Plain [] := by
  simp [Plain]

@[simp]
lemma plain_cons : Plain (c :: t) ↔ ¬ isLineTerminator c ∧ Plain t := by
  simp [Plain]

lemma Plain.append (h : Plain t) (h' : Plain text) : Plain (t ++ text) := by
  intro c hc
  exact (List.mem_append.1 hc).elim (h c) (h' c)

lemma Ends.terminator (h : Ends ending rest) : ending ≠ [] ∧ ∀ c ∈ ending, isLineTerminator c := by
  cases h <;> simp [isLineTerminator]

lemma terminators_pass (hc : ¬ isLineTerminator c) (t : Text) :
    terminators (c :: t) = terminators t := by
  rw [terminators, if_neg hc]
  rintro rest rfl -
  exact hc rfl

lemma terminators_plain (h : Plain text) (t : Text) : terminators (text ++ t) = terminators t := by
  induction text with
  | nil => rfl
  | cons c text ih =>
    rw [plain_cons] at h
    rw [List.cons_append, terminators_pass h.1, ih h.2]

lemma Ends.terminators_append (h : Ends ending rest) :
    terminators (ending ++ rest) = ending :: terminators rest := by
  cases h with
  | lf => rfl
  | crlf => rfl
  | cr hrest =>
    rw [List.singleton_append, terminators]
    · rfl
    · rintro rest' - rfl
      exact hrest rfl

lemma Lined.endings (h : Lined t lines) : lines.map Line.ending = terminators t ++ [[]] := by
  induction h with
  | last htext =>
    have hnone := terminators_plain htext []
    rw [List.append_nil] at hnone
    rw [hnone]
    rfl
  | cons htext hend _ ih =>
    rw [terminators_plain htext, hend.terminators_append, List.map_cons, ih, List.cons_append]

lemma Lined.joined_eq (h : Lined t lines) : joined lines = t := by
  induction h with
  | last => simp [Line.whole]
  | cons _ _ _ ih => simp [Line.whole, ih]

lemma Lined.plain_of_mem (h : Lined t lines) (hline : line ∈ lines) : Plain line.text := by
  induction h with
  | last htext =>
    rw [List.mem_singleton.1 hline]
    exact htext
  | cons htext _ _ ih =>
    rcases List.mem_cons.1 hline with rfl | hline
    · exact htext
    · exact ih hline

lemma exists_before (h : n < lines.length) :
    ∃ before line after, lines = before ++ line :: after ∧ before.length = n :=
  ⟨lines.take n, lines[n], lines.drop (n + 1), by simp, by simp [Nat.le_of_lt h]⟩

lemma Lined.ne_nil (h : Lined t lines) : lines ≠ [] := by
  cases h <;> exact List.cons_ne_nil _ _

lemma Lined.split (h : Lined t (before ++ line :: after)) :
    t = joined before ++ (line.text ++ (line.ending ++ joined after)) := by
  rw [← h.joined_eq]
  simp [Line.whole]

lemma Lined.length_eq (h : Lined t (before ++ line :: after)) :
    t.length = (joined before).length + line.whole.length + (joined after).length := by
  rw [← h.joined_eq, joined_append, joined_cons, List.length_append, List.length_append, Nat.add_assoc]

lemma Lined.ends (h : Lined t (before ++ line :: after)) :
    after = [] ∧ line.ending = [] ∨ after ≠ [] ∧ Ends line.ending (joined after) := by
  generalize hlines : before ++ line :: after = lines at h
  induction h generalizing before with
  | @last text =>
    cases before with
    | nil =>
      cases hlines
      exact .inl ⟨rfl, rfl⟩
    | cons => simp at hlines
  | @cons text ending rest lines _ hend hrest ih =>
    cases before with
    | nil =>
      cases hlines
      exact .inr ⟨hrest.ne_nil, hrest.joined_eq.symm ▸ hend⟩
    | cons first before =>
      cases hlines
      exact ih rfl

lemma Lined.head_ending (h : Lined t (before ++ line :: after)) :
    ∀ c ∈ (line.ending ++ joined after).head?, isLineTerminator c := by
  rcases h.ends with ⟨rfl, he⟩ | ⟨-, hend⟩
  · simp [he]
  · intro c hc
    rw [List.head?_append_of_ne_nil _ hend.terminator.1] at hc
    exact hend.terminator.2 c (List.mem_of_head? hc)

lemma exists_lined_append (h : Plain text) (t : Text) : ∃ lines, Lined (text ++ t) lines := by
  fun_induction terminators t generalizing text with
  | case1 => exact ⟨_, .last (by simpa using h)⟩
  | case2 rest ih =>
    obtain ⟨lines, hlines⟩ := ih plain_nil
    exact ⟨_, .cons h .crlf hlines⟩
  | case3 c rest hlf hc ih =>
    obtain ⟨lines, hlines⟩ := ih plain_nil
    have hend : Ends [c] rest := by
      simp only [isLineTerminator, Bool.or_eq_true, beq_iff_eq] at hc
      rcases hc with rfl | rfl
      · exact .lf
      · refine .cr fun hhead => ?_
        obtain ⟨rest', rfl⟩ := List.head?_eq_some_iff.1 hhead
        exact hlf rest' rfl rfl
    exact ⟨_, .cons h hend hlines⟩
  | case4 c rest _ hc ih =>
    obtain ⟨lines, hlines⟩ := ih (h.append (plain_cons.2 ⟨hc, plain_nil⟩))
    exact ⟨lines, by simpa using hlines⟩

lemma exists_lined (t : Text) : ∃ lines, Lined t lines :=
  exists_lined_append plain_nil t

end GraphQLTokens.Lines
