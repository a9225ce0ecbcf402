import GraphQLTokens.Proofs.Grammar.Recognition

/-! The first scalar of a text tells which recognizers can succeed there, so that the chain of them
reads the longest prefix in any of the languages. -/

namespace GraphQLTokens.Grammar

open scoped Computability

variable {t m rest : Text} {r r' : Recognizer} {k k' : TokenKind} {c : Char}

inductive Lead where
  | mark
  | letter
  | number
  | quote
  | blank
  deriving DecidableEq

def leadOf (c : Char) : Lead :=
  if isNameStart c then .letter
  else if isDigit c ∨ c = '-' then .number
  else if c = '"' then .quote
  else if StartsTrivia c then .blank
  else .mark

def leadOfRecognizer : Recognizer → Lead
  | .punctuator => .mark
  | .identifier => .letter
  | .float => .number
  | .int => .number
  | .string => .quote

lemma head_int (hm : m ∈ ints) : ∃ c rest, leadOf c = .number ∧ m = c :: rest := by
  have hdigit : ∀ c, isDigit c → leadOf c = .number := by
    intro c hc
    simp [leadOf, hc, not_nameStart_of_digit hc]
  obtain ⟨_, rfl | ⟨c, rfl, rfl⟩, m, hmag, rfl⟩ := Language.mem_mul.1 hm
  · obtain ⟨c, rest, hc, rfl⟩ := head_magnitude hmag
    exact ⟨c, rest, hdigit c hc, rfl⟩
  · exact ⟨'-', m, rfl, rfl⟩

lemma lead_of_mem (hm : m ∈ languageOf r) : ∃ c rest, leadOf c = leadOfRecognizer r ∧ m = c :: rest := by
  cases r with
  | punctuator =>
    obtain ⟨p, rfl⟩ := hm
    cases p <;> exact ⟨_, _, rfl, rfl⟩
  | identifier =>
    obtain ⟨c, rest, hc, -, rfl⟩ := mem_oneOf_mul.1 hm
    exact ⟨c, rest, by simp [leadOf, hc, leadOfRecognizer], rfl⟩
  | float =>
    obtain ⟨i, hi, f, -, e, -, -, rfl⟩ := mem_floats.1 hm
    obtain ⟨c, rest, hc, rfl⟩ := head_int hi
    exact ⟨c, rest ++ f ++ e, hc, rfl⟩
  | int => exact head_int hm
  | string => rcases hm with ⟨body, -, rfl⟩ | ⟨body, -, rfl⟩ <;> exact ⟨'"', _, rfl, rfl⟩

lemma leadOf_blank (h : StartsTrivia c) : leadOf c = .blank := by
  have hname := not_nameContinue_of_startsTrivia h
  have hstart : ¬ isNameStart c := fun hc => hname (nameContinue_of_nameStart hc)
  have hdigit : ¬ isDigit c := fun hc => hname (nameContinue_of_digit hc)
  have hminus : c ≠ '-' := by
    rintro rfl
    exact absurd h (by decide)
  have hquote : c ≠ '"' := by
    rintro rfl
    exact absurd h (by decide)
  simp [leadOf, hstart, hdigit, hminus, hquote, h]

lemma stops_startsTrivia (hm : m ∈ languageOf r) : Stops StartsTrivia (m ++ rest) := by
  obtain ⟨c, m, hc, rfl⟩ := lead_of_mem hm
  refine stops_cons.2 fun h => ?_
  rw [leadOf_blank h] at hc
  cases r <;> simp [leadOfRecognizer] at hc

lemma lead_of_read (h : (r.read t).isSome) : ∃ c rest, leadOf c = leadOfRecognizer r ∧ t = c :: rest := by
  obtain ⟨⟨k, after⟩, hk⟩ := Option.isSome_iff_exists.1 h
  obtain ⟨c, rest, hc, he⟩ := lead_of_mem ((reads_recognizer r).mem (lexeme?_of_read hk))
  refine ⟨c, rest ++ after, hc, ?_⟩
  rw [← (Recognizer.append_of_read hk).1, he]
  rfl

lemma eq_or_number_of_read (h : (r.read t).isSome) (h' : (r'.read t).isSome) :
    r = r' ∨ (r = .float ∧ r' = .int) ∨ (r = .int ∧ r' = .float) := by
  obtain ⟨c, rest, hc, rfl⟩ := lead_of_read h
  obtain ⟨c', rest', hc', he⟩ := lead_of_read h'
  cases he
  rw [hc] at hc'
  cases r <;> cases r' <;> simp_all [leadOfRecognizer]

lemma int_of_float (h : floatLiteral? t = some (m, rest)) :
    ∃ i after, integerPart? t = some (i, after) ∧ i.length < m.length := by
  obtain ⟨i, f, e, after, -, hi, -, -, hne, rfl⟩ := parts_of_floatLiteral? h
  refine ⟨i, after, hi, ?_⟩
  simp only [← List.length_pos_iff] at hne
  simp only [List.length_append]
  omega

structure Ordered (chain : List Recognizer) : Prop where
  complete : ∀ r, r ∈ chain
  float : chain.idxOf .float < chain.idxOf .int

lemma ordered_order : Ordered Recognizer.order where
  complete r := by cases r <;> decide
  float := by decide

lemma mem_of_idxOf_lt {before after : List Recognizer}
    (h : (before ++ r :: after).idxOf r' < (before ++ r :: after).idxOf r) : r' ∈ before := by
  have hle : (before ++ r :: after).idxOf r ≤ before.length := by
    by_cases hr : r ∈ before
    · rw [List.idxOf_append_of_mem hr]
      exact List.idxOf_le_length
    · rw [List.idxOf_append_of_notMem hr, List.idxOf_cons_self, Nat.add_zero]
  by_contra hr'
  rw [List.idxOf_append_of_notMem hr'] at h
  omega

section Ordered

variable {chain chain' : List Recognizer}

lemma Ordered.firstToken_eq_none_iff (hchain : Ordered chain) :
    firstToken chain t = none ↔ ∀ r : Recognizer, r.read t = none := by
  simp [firstToken, hchain.complete]

lemma Ordered.read_of_firstToken (hchain : Ordered chain) (h : firstToken chain t = some (k, rest)) :
    ∃ r : Recognizer, r.read t = some (k, rest) ∧ (r = .int → Recognizer.float.read t = none) := by
  obtain ⟨before, r, after, rfl, hread, hnone⟩ := List.findSome?_eq_some_iff.1 h
  refine ⟨r, hread, ?_⟩
  rintro rfl
  exact hnone _ (mem_of_idxOf_lt hchain.float)

lemma Ordered.firstToken_of_read (hchain : Ordered chain) (h : r.read t = some (k, rest))
    (hr : r = .int → Recognizer.float.read t = none) : firstToken chain t = some (k, rest) := by
  cases hfirst : firstToken chain t with
  | none => simp [hchain.firstToken_eq_none_iff.1 hfirst r] at h
  | some found =>
    obtain ⟨k', rest'⟩ := found
    obtain ⟨r', hread, hr'⟩ := hchain.read_of_firstToken hfirst
    have hs : (r.read t).isSome := by simp [h]
    have hs' : (r'.read t).isSome := by simp [hread]
    -- The chain can only have come upon `r'` first where one of the two reads a float and the other an int.
    rcases eq_or_number_of_read hs hs' with rfl | ⟨rfl, rfl⟩ | ⟨rfl, rfl⟩
    · exact hread.symm.trans h
    · simp [hr' rfl] at hs
    · simp [hr rfl] at hs'

lemma Ordered.firstToken_eq (hchain : Ordered chain) (hchain' : Ordered chain') (t : Text) :
    firstToken chain t = firstToken chain' t := by
  cases h : firstToken chain' t with
  | none => exact hchain.firstToken_eq_none_iff.2 (hchain'.firstToken_eq_none_iff.1 h)
  | some found =>
    obtain ⟨r, hread, hr⟩ := hchain'.read_of_firstToken h
    exact hchain.firstToken_of_read hread hr

end Ordered

lemma isSome_of_mem (hm : m ∈ languageOf r) (ht : m <+: t) : (r.read t).isSome := by
  rw [← isSome_lexeme?]
  exact (reads_recognizer r).isSome_iff.2 ⟨m, hm, ht⟩

lemma firstToken_none_iff : firstToken Recognizer.order t = none ↔ ∀ m k, m <+: t → ¬ Spells m k := by
  rw [ordered_order.firstToken_eq_none_iff]
  constructor
  · intro hnone m k hm hk
    obtain ⟨r, hr⟩ := spells_iff.1 ⟨k, hk⟩
    have hs := isSome_of_mem hr hm
    rw [hnone r] at hs
    exact Bool.false_ne_true hs
  · intro hno r
    cases hread : r.read t with
    | none => rfl
    | some found => exact absurd (spells_of_read hread) (hno _ _ ⟨_, (Recognizer.append_of_read hread).1⟩)

lemma firstToken_longest (h : firstToken Recognizer.order t = some (k, rest)) (hm : Spells m k')
    (ht : m <+: t) : m.length ≤ k.lexeme.length := by
  obtain ⟨r', hm'⟩ := spells_iff.1 ⟨k', hm⟩
  obtain ⟨r, hread, hr⟩ := ordered_order.read_of_firstToken h
  have hs' := isSome_of_mem hm' ht
  rcases eq_or_number_of_read (Option.isSome_of_mem hread) hs' with rfl | ⟨rfl, rfl⟩ | ⟨rfl, rfl⟩
  · exact (reads_recognizer r).longest (lexeme?_of_read hread) hm' ht
  · have hfloat : floatLiteral? t = some (k.lexeme, rest) := lexeme?_float ▸ lexeme?_of_read hread
    obtain ⟨i, after, hi, hlt⟩ := int_of_float hfloat
    exact (reads_int.longest hi hm' ht).trans hlt.le
  · simp [hr rfl] at hs'

def Extends (c : Char) : Prop :=
  isNameContinue c ∨ c = '.' ∨ c = '"'

lemma extends_of_floatGoesOn (h : FloatGoesOn c) : Extends c := by
  rcases h with h | rfl | rfl
  · exact .inl (nameContinue_of_digit h)
  · exact .inl (by decide)
  · exact .inl (by decide)

lemma firstToken_of_spells (hm : Spells m k) (hs : Stops Extends rest) :
    firstToken Recognizer.order (m ++ rest) = some (k, rest) := by
  cases hm with
  | punctuator p =>
    have hread : Recognizer.punctuator.read (p.text ++ rest) = some (.punctuator p, rest) := by
      cases p <;> rfl
    exact ordered_order.firstToken_of_read hread (by simp)
  | identifier h =>
    have hread := reads_name.exact h (hs.mono fun c => .inl)
    exact ordered_order.firstToken_of_read (r := .identifier) (by rw [Recognizer.read, hread]; rfl) (by simp)
  | float h =>
    have hread := reads_float.exact h (hs.mono fun c => extends_of_floatGoesOn)
    exact ordered_order.firstToken_of_read (r := .float) (by rw [Recognizer.read, hread]; rfl) (by simp)
  | int h =>
    have hread := reads_int.exact h (hs.mono fun c hc => .inl (nameContinue_of_digit hc))
    have hfloat := floatLiteral?_int h (hs.mono fun c => extends_of_floatGoesOn)
      (hs.mono fun c hc => .inr (.inl hc))
    exact ordered_order.firstToken_of_read (r := .int) (by rw [Recognizer.read, hread]; rfl)
      (fun _ => by rw [Recognizer.read, hfloat]; rfl)
  | @single body h =>
    have hblock : blockString? (['"'] ++ body ++ ['"'] ++ rest) = none := by
      cases hb : blockString? (['"'] ++ body ++ ['"'] ++ rest) with
      | none => rfl
      | some found =>
        obtain ⟨-, rfl⟩ := block_of_single h hb
        simp [Extends] at hs
    exact ordered_order.firstToken_of_read (read_single h hblock) (by simp)
  | block h => exact ordered_order.firstToken_of_read (read_block h rest) (by simp)

lemma not_unrecognized_of_firstToken (h : firstToken Recognizer.order t = some (k, rest)) :
    ¬ k.isUnrecognized := by
  obtain ⟨r, hread, -⟩ := ordered_order.read_of_firstToken h
  exact (spells_of_read hread).not_unrecognized

lemma spells_unique (h : Spells m k) (h' : Spells m k') : k = k' := by
  have hk := firstToken_of_spells h (stops_nil)
  rw [firstToken_of_spells h' stops_nil] at hk
  cases hk
  rfl

end GraphQLTokens.Grammar
