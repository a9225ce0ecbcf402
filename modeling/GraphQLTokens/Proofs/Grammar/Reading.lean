import GraphQLTokens.Proofs.Grammar.Languages
import Mathlib.Data.List.TakeWhile

/-! Readers that take the longest prefix in a language. Each reader comes with the scalars with which
it can go on past a member of its language: where none of them follows, it takes just that member. -/

namespace GraphQLTokens.Grammar

open scoped Computability

abbrev Reader := Text → Option (Text × Text)

def Stops (p : Char → Prop) (t : Text) : Prop :=
  ∀ c ∈ t.head?, ¬ p c

structure Reads (read : Reader) (l : Language Char) (p : Char → Prop) : Prop where
  append {t m rest : Text} : read t = some (m, rest) → m ++ rest = t
  mem {t m rest : Text} : read t = some (m, rest) → m ∈ l
  past {m : Text} (rest : Text) : m ∈ l → ∃ more after, more ++ after = rest ∧
    (∀ c ∈ more.head?, p c) ∧ read (m ++ rest) = some (m ++ more, after)

variable {p q : Char → Prop} {l : Language Char} {read read' : Reader} {t m rest : Text} {c : Char}

@[simp]
lemma stops_nil : Stops p [] := by
  simp [Stops]

@[simp]
lemma stops_cons : Stops p (c :: t) ↔ ¬ p c := by
  simp [Stops]

lemma Stops.mono (h : Stops p t) (hq : ∀ c, q c → p c) : Stops q t :=
  fun c hc hp => h c hc (hq c hp)

lemma stops_append (h : m ≠ []) : Stops p (m ++ t) ↔ Stops p m := by
  cases m with
  | nil => exact absurd rfl h
  | cons c m => simp

lemma stops_or_cons (p : Char → Prop) (t : Text) : Stops p t ∨ ∃ c rest, p c ∧ t = c :: rest := by
  cases t with
  | nil => exact .inl stops_nil
  | cons c rest =>
    by_cases hc : p c
    · exact .inr ⟨c, rest, hc, rfl⟩
    · exact .inl (stops_cons.2 hc)

lemma stops_dropWhile (p : Char → Bool) (t : Text) : Stops (p ·) (t.dropWhile p) := by
  intro c hc
  have hp := List.head?_dropWhile_not p t
  rw [hc] at hp
  simp [hp]

lemma Reads.exact (h : Reads read l p) (hm : m ∈ l) (hs : Stops p rest) :
    read (m ++ rest) = some (m, rest) := by
  obtain ⟨more, after, rfl, hmore, hread⟩ := h.past rest hm
  cases more with
  | nil => simpa using hread
  | cons c more => exact absurd (hmore c rfl) (stops_cons.1 hs)

lemma Reads.isSome_iff (h : Reads read l p) : (read t).isSome ↔ ∃ m ∈ l, m <+: t := by
  constructor
  · intro hs
    obtain ⟨⟨m, rest⟩, hread⟩ := Option.isSome_iff_exists.1 hs
    exact ⟨m, h.mem hread, rest, h.append hread⟩
  · rintro ⟨m, hm, rest, rfl⟩
    obtain ⟨more, after, -, -, hread⟩ := h.past rest hm
    rw [hread, Option.isSome_some]

lemma Reads.longest (h : Reads read l p) (hread : read t = some (m, rest)) {m' : Text}
    (hm' : m' ∈ l) (ht : m' <+: t) : m'.length ≤ m.length := by
  obtain ⟨rest', rfl⟩ := ht
  obtain ⟨more, after, -, -, hpast⟩ := h.past rest' hm'
  rw [hread] at hpast
  cases hpast
  simp

lemma Reads.cons (h : Reads read l p)
    (hc : ∀ c rest, q c → read' (c :: rest) = (read rest).map fun (m, rest) => (c :: m, rest))
    (hn : ∀ t, Stops q t → read' t = none) : Reads read' (oneOf q * l) p where
  append {t m rest} hread := by
    rcases stops_or_cons q t with hs | ⟨c, t, hq, rfl⟩
    · simp [hn t hs] at hread
    · rw [hc c t hq] at hread
      obtain ⟨⟨m', rest'⟩, hm, he⟩ := Option.map_eq_some_iff.1 hread
      cases he
      simp [h.append hm]
  mem {t m rest} hread := by
    rcases stops_or_cons q t with hs | ⟨c, t, hq, rfl⟩
    · simp [hn t hs] at hread
    · rw [hc c t hq] at hread
      obtain ⟨⟨m', rest'⟩, hm, he⟩ := Option.map_eq_some_iff.1 hread
      cases he
      exact mem_oneOf_mul.2 ⟨c, m', hq, h.mem hm, rfl⟩
  past {m} rest hm := by
    obtain ⟨c, m, hq, hl, rfl⟩ := mem_oneOf_mul.1 hm
    obtain ⟨more, after, hrest, hmore, hread⟩ := h.past rest hl
    exact ⟨more, after, hrest, hmore, by simp [hc c _ hq, hread]⟩

lemma Reads.optional (h : Reads read l p) (hl : ∀ t ∈ l, t ≠ [] ∧ Stops q t)
    (hc : ∀ c rest, q c → read' (c :: rest) = (read rest).map fun (m, rest) => (c :: m, rest))
    (hn : ∀ t, Stops q t → read' t = read t) : Reads read' (optional (oneOf q) * l) p where
  append {t m rest} hread := by
    rcases stops_or_cons q t with hs | ⟨c, t, hq, rfl⟩
    · exact h.append ((hn t hs).symm.trans hread)
    · rw [hc c t hq] at hread
      obtain ⟨⟨m', rest'⟩, hm, he⟩ := Option.map_eq_some_iff.1 hread
      cases he
      simp [h.append hm]
  mem {t m rest} hread := by
    rw [Language.mem_mul]
    rcases stops_or_cons q t with hs | ⟨c, t, hq, rfl⟩
    · exact ⟨[], .inl rfl, m, h.mem ((hn t hs).symm.trans hread), rfl⟩
    · rw [hc c t hq] at hread
      obtain ⟨⟨m', rest'⟩, hm, he⟩ := Option.map_eq_some_iff.1 hread
      cases he
      exact ⟨[c], .inr ⟨c, hq, rfl⟩, m', h.mem hm, rfl⟩
  past {m} rest hm := by
    rw [Language.mem_mul] at hm
    obtain ⟨_, rfl | ⟨c, hq, rfl⟩, m, hm, rfl⟩ := hm
    · have hs : Stops q (m ++ rest) := (stops_append (hl m hm).1).2 (hl m hm).2
      simpa [hn _ hs] using h.past rest hm
    · obtain ⟨more, after, hrest, hmore, hread⟩ := h.past rest hm
      exact ⟨more, after, hrest, hmore, by simp [hc c _ hq, hread]⟩

lemma past_run {p : Char → Bool} (hc : ∀ t, read (c :: t) = some (c :: t.takeWhile p, t.dropWhile p))
    (hm : ∀ d ∈ m, p d) (rest : Text) : ∃ more after, more ++ after = rest ∧
      (∀ d ∈ more.head?, p d) ∧ read (c :: m ++ rest) = some (c :: m ++ more, after) := by
  refine ⟨rest.takeWhile p, rest.dropWhile p, List.takeWhile_append_dropWhile, ?_, ?_⟩
  · intro d hd
    exact List.mem_takeWhile_imp (List.mem_of_head? hd)
  · rw [List.cons_append, hc, List.takeWhile_append_of_pos hm, List.dropWhile_append_of_pos hm]
    rfl

lemma mem_run {p : Char → Bool} (hc : q c) (t : Text) :
    c :: t.takeWhile p ∈ oneOf q * (oneOf (p ·))∗ := by
  refine mem_oneOf_mul.2 ⟨c, _, hc, mem_star_oneOf.2 ?_, rfl⟩
  intro d hd
  exact List.mem_takeWhile_imp hd

lemma reads_run {p : Char → Bool}
    (hc : ∀ c t, q c → read (c :: t) = some (c :: t.takeWhile p, t.dropWhile p))
    (hn : ∀ t, Stops q t → read t = none) : Reads read (oneOf q * (oneOf (p ·))∗) (p ·) where
  append {t m rest} hread := by
    rcases stops_or_cons q t with hs | ⟨c, t, hq, rfl⟩
    · simp [hn t hs] at hread
    · rw [hc c t hq] at hread
      cases hread
      simp
  mem {t m rest} hread := by
    rcases stops_or_cons q t with hs | ⟨c, t, hq, rfl⟩
    · simp [hn t hs] at hread
    · rw [hc c t hq] at hread
      cases hread
      exact mem_run hq t
  past {m} rest hm := by
    obtain ⟨c, m, hq, hp, rfl⟩ := mem_oneOf_mul.1 hm
    exact past_run (fun t => hc c t hq) (mem_star_oneOf.1 hp) rest

end GraphQLTokens.Grammar
