import GraphQLTokens.Proofs.Source.Lines
import GraphQLTokens.Source.Position

namespace GraphQLTokens.Lines

def joinPairs : Text → Text
  | [] => []
  | '\r' :: '\n' :: rest => '\n' :: joinPairs rest
  | c :: rest => c :: joinPairs rest

def lineFeed (c : Char) : Char :=
  if c = '\r' then '\n' else c

def normalized (t : Text) : Text :=
  (joinPairs t).map lineFeed

def Apart (m rest : Text) : Prop :=
  m.getLast? = some '\r' → rest.head? ≠ some '\n'

variable {t m m' rest rest' : Text} {c : Char} {p : Char → Bool}

lemma apart_of_plain (h : Plain m) (rest : Text) : Apart m rest := by
  intro hlast
  exact absurd rfl (h _ (List.mem_of_getLast? hlast))

lemma Apart.of_cons (h : Apart (c :: m) rest) : Apart m rest := by
  intro hlast
  exact h (by rw [List.getLast?_cons, hlast]; rfl)

lemma Apart.mono (h : Apart m rest) (hhead : rest'.head? = some '\n' → rest.head? = some '\n') :
    Apart m rest' :=
  fun hlast hrest => h hlast (hhead hrest)

lemma Apart.left (h : Apart m (rest ++ rest')) : Apart m rest :=
  h.mono fun hhead => by rw [List.head?_append, hhead]; rfl

lemma Apart.append_left (h : Apart m rest) (hne : m ≠ []) (before : Text) : Apart (before ++ m) rest := by
  intro hlast
  rw [List.getLast?_append_of_ne_nil before hne] at hlast
  exact h hlast

lemma Apart.append_right (h : Apart m rest) (h' : Apart (m ++ rest) rest') : Apart m (rest ++ rest') := by
  cases rest with
  | nil => rwa [List.append_nil] at h'
  | cons c rest => exact h

@[simp]
lemma normalized_nil : normalized [] = [] :=
  rfl

@[simp]
lemma normalized_pair (rest : Text) : normalized ('\r' :: '\n' :: rest) = '\n' :: normalized rest :=
  rfl

lemma normalized_single (h : Apart [c] rest) : normalized (c :: rest) = lineFeed c :: normalized rest := by
  rw [normalized, joinPairs]
  · rfl
  · rintro rest' rfl rfl
    exact h rfl rfl

@[elab_as_elim]
lemma induction_on_pairs {P : Text → Prop} (t : Text) (nil : P [])
    (pair : ∀ rest, P rest → P ('\r' :: '\n' :: rest))
    (single : ∀ c rest, Apart [c] rest → P rest → P (c :: rest)) : P t := by
  fun_induction joinPairs t with
  | case1 => exact nil
  | case2 rest ih => exact pair rest ih
  | case3 c rest hpair ih =>
    refine single c rest (fun hlast hhead => ?_) ih
    obtain ⟨rest', rfl⟩ := List.head?_eq_some_iff.1 hhead
    exact hpair rest' (by simpa using hlast) rfl

lemma lineFeed_of_plain (h : ¬ isLineTerminator c) : lineFeed c = c := by
  apply if_neg
  rintro rfl
  exact h rfl

lemma eq_of_lineFeed (h : ¬ isLineTerminator (lineFeed c)) : lineFeed c = c := by
  by_cases hc : c = '\r'
  · subst hc
    exact absurd rfl h
  · exact if_neg hc

lemma normalized_cons_plain (h : ¬ isLineTerminator c) (rest : Text) :
    normalized (c :: rest) = c :: normalized rest := by
  have hplain : Plain [c] := plain_cons.2 ⟨h, plain_nil⟩
  rw [normalized_single (apart_of_plain hplain rest), lineFeed_of_plain h]

lemma normalized_append (h : Apart m rest) : normalized (m ++ rest) = normalized m ++ normalized rest := by
  induction m using induction_on_pairs with
  | nil => rfl
  | pair m ih =>
    rw [List.cons_append, List.cons_append, normalized_pair, normalized_pair, ih h.of_cons.of_cons,
      List.cons_append]
  | single c m hc ih =>
    have hwhole : Apart [c] (m ++ rest) := hc.append_right h
    rw [List.cons_append, normalized_single hwhole, normalized_single hc, ih h.of_cons, List.cons_append]

lemma normalized_plain (h : Plain m) : normalized m = m := by
  induction m with
  | nil => rfl
  | cons c m ih =>
    rw [plain_cons] at h
    rw [normalized_cons_plain h.1, ih h.2]

lemma normalized_plain_append (h : Plain m) (rest : Text) :
    normalized (m ++ rest) = m ++ normalized rest := by
  rw [normalized_append (apart_of_plain h rest), normalized_plain h]

lemma eq_nil_of_normalized (h : normalized t = []) : t = [] := by
  cases t using induction_on_pairs with
  | nil => rfl
  | pair t => cases h
  | single c t hc =>
    rw [normalized_single hc] at h
    cases h

lemma of_append_eq_normalized (hm : Plain m) (h : m ++ rest' = normalized t) :
    ∃ rest, m ++ rest = t ∧ normalized rest = rest' := by
  induction m generalizing t with
  | nil => exact ⟨t, rfl, h.symm⟩
  | cons c m ih =>
    rw [plain_cons] at hm
    rw [List.cons_append] at h
    cases t using induction_on_pairs with
    | nil => cases h
    | pair t =>
      obtain ⟨rfl, -⟩ := List.cons.inj h
      exact absurd rfl hm.1
    | single d t hd =>
      rw [normalized_single hd] at h
      obtain ⟨rfl, htail⟩ := List.cons.inj h
      obtain ⟨rest, rfl, hrest⟩ := ih hm.2 htail
      exact ⟨rest, by rw [eq_of_lineFeed hm.1, List.cons_append], hrest⟩

lemma prefix_normalized_iff (hm : Plain m) : m <+: normalized t ↔ m <+: t := by
  constructor
  · rintro ⟨rest', h⟩
    obtain ⟨rest, h, -⟩ := of_append_eq_normalized hm h
    exact ⟨rest, h⟩
  · rintro ⟨rest, rfl⟩
    exact ⟨normalized rest, (normalized_plain_append hm rest).symm⟩

lemma apply_lineFeed (hp : p '\r' = p '\n') (c : Char) : p (lineFeed c) = p c := by
  unfold lineFeed
  split
  · rename_i hc
    rw [hc, hp]
  · rfl

lemma takeWhile_normalized (hp : p '\r' = p '\n') (t : Text) :
    (normalized t).takeWhile p = normalized (t.takeWhile p) := by
  induction t using induction_on_pairs with
  | nil => rfl
  | pair t ih => cases hlf : p '\n' <;> simp [hp, hlf, ih]
  | single c t hc ih =>
    have hapart : Apart [c] (t.takeWhile p) := by
      refine hc.mono fun hhead => ?_
      rw [List.head?_takeWhile, Option.filter_eq_some_iff] at hhead
      exact hhead.1
    have hpc := apply_lineFeed hp c
    rw [normalized_single hc]
    cases hc' : p c <;> simp_all [normalized_single hapart]

lemma dropWhile_normalized (hp : p '\r' = p '\n') (t : Text) :
    (normalized t).dropWhile p = normalized (t.dropWhile p) := by
  induction t using induction_on_pairs with
  | nil => rfl
  | pair t ih => cases hlf : p '\n' <;> simp [hp, hlf, ih]
  | single c t hc ih =>
    have hpc := apply_lineFeed hp c
    rw [normalized_single hc]
    cases hc' : p c <;> simp_all [normalized_single hc]

lemma after_lineFeed (h : Apart [c] rest) (pos : Position) (rest' : Text) :
    pos.after (lineFeed c) rest' = pos.after c rest := by
  have hends : endsLine (lineFeed c) rest' = endsLine c rest := by
    by_cases hc : c = '\r'
    · subst hc
      have hhead : rest.head? ≠ some '\n' := h rfl
      simp [endsLine, lineFeed, hhead]
    · have hmark : (c == '\r') = false := by simpa using hc
      simp [endsLine, lineFeed, hc, hmark]
  simp [Position.after, hends]

lemma advance_zero (pos : Position) (t : Text) : pos.advance t 0 = pos := by
  cases t <;> rfl

lemma advance_normalized (h : Apart m rest) (pos : Position) :
    pos.advance (normalized m ++ normalized rest) (normalized m).length =
      pos.advance (m ++ rest) m.length := by
  induction m using induction_on_pairs generalizing pos with
  | nil => exact (advance_zero pos _).trans (advance_zero pos _).symm
  | pair m ih => exact ih h.of_cons.of_cons _
  | single c m hc ih =>
    have hwhole : Apart [c] (m ++ rest) := hc.append_right h
    rw [normalized_single hc]
    simp only [List.cons_append, List.length_cons, Position.advance]
    rw [after_lineFeed hwhole, ih h.of_cons]

end GraphQLTokens.Lines
