import GraphQLTokens.Proofs.Grammar.Numbers
import GraphQLTokens.Proofs.Json.Grammar

namespace GraphQLTokens.JsonText

open Grammar

def scalar? : Text → Option (Char × Text)
  | '\\' :: 'u' :: rest => do
    let unit ← codeUnit? (rest.take 4)
    if 0xD800 ≤ unit ∧ unit < 0xDC00 then
      match rest.drop 4 with
      | '\\' :: 'u' :: rest => do
        let low ← codeUnit? (rest.take 4)
        if 0xDC00 ≤ low ∧ low < 0xE000 then
          some (Char.ofNat (0x10000 + (unit - 0xD800) * 0x400 + (low - 0xDC00)), rest.drop 4)
        else none
      | _ => none
    else if 0xDC00 ≤ unit ∧ unit < 0xE000 then none
    else some (Char.ofNat unit, rest.drop 4)
  | '\\' :: e :: rest => (shortEscape? e).map fun c => (c, rest)
  | c :: rest => if 0x20 ≤ c.toNat ∧ c ≠ '"' ∧ c ≠ '\\' then some (c, rest) else none
  | [] => none

def body? (t : Text) : Option (Text × Text) :=
  match t with
  | '"' :: rest => some ([], rest)
  | t =>
    match scalar? t with
    | some (c, rest) =>
      if rest.length < t.length then (body? rest).map fun (s, rest) => (c :: s, rest) else none
    | none => none
termination_by t.length

def number? (t : Text) : Option (Text × Text) :=
  floatLiteral? t <|> integerPart? t

def afterBlanks (t : Text) : Text :=
  t.dropWhile isBlank

section Items

variable {α : Type}

def items? (item? : Text → Option (α × Text)) (closing : Char) (t : Text) : Option (List α × Text) :=
  match item? (afterBlanks t) with
  | none => none
  | some (a, rest) =>
    match afterBlanks rest with
    | [] => none
    | c :: rest =>
      if c = closing then some ([a], rest)
      else if c = ',' ∧ rest.length < t.length then
        (items? item? closing rest).map fun (as, rest) => (a :: as, rest)
      else none
termination_by t.length

def inside? (item? : Text → Option (α × Text)) (closing : Char) (t : Text) : Option (List α × Text) :=
  match afterBlanks t with
  | [] => none
  | c :: rest => if c = closing then some ([], rest) else items? item? closing t

end Items

def member? (value? : Text → Option (Value × Text)) : Text → Option ((Text × Value) × Text)
  | '"' :: rest => do
    let (key, rest) ← body? rest
    match afterBlanks rest with
    | ':' :: rest =>
      let (v, rest) ← value? (afterBlanks rest)
      some ((key, v), rest)
    | _ => none
  | _ => none

def value? : Nat → Text → Option (Value × Text)
  | 0, _ => none
  | depth + 1, t =>
    match t with
    | '"' :: rest => (body? rest).map fun (s, rest) => (.string s, rest)
    | '[' :: rest => (inside? (value? depth) ']' rest).map fun (vs, rest) => (.array vs, rest)
    | '{' :: rest => (inside? (member? (value? depth)) '}' rest).map fun (ms, rest) => (.object ms, rest)
    | 'n' :: 'u' :: 'l' :: 'l' :: rest => some (.null, rest)
    | 't' :: 'r' :: 'u' :: 'e' :: rest => some (.boolean true, rest)
    | 'f' :: 'a' :: 'l' :: 's' :: 'e' :: rest => some (.boolean false, rest)
    | t => (number? t).map fun (m, rest) => (.number (amount m), rest)

/-- The value of a whole text. It cannot be nested deeper than the text is long. -/
def decode? (t : Text) : Option Value :=
  match value? t.length (afterBlanks t) with
  | some (v, rest) => if (afterBlanks rest).isEmpty then some v else none
  | none => none

variable {c : Char} {m t rest w : Text} {v : Value} {n : Nat}

lemma take_codeUnit? (h : codeUnit? w = some n) (rest : Text) :
    (w ++ rest).take 4 = w ∧ (w ++ rest).drop 4 = rest := by
  unfold codeUnit? at h
  split at h
  · exact ⟨rfl, rfl⟩
  · cases h

lemma not_surrogate (c : Char) : c.toNat < 0xD800 ∨ 0xE000 ≤ c.toNat := by
  rcases c.valid with h | ⟨h, -⟩
  · exact .inl h
  · exact .inr h

lemma scalar?_spelling (h : Spelling c m) (rest : Text) : scalar? (m ++ rest) = some (c, rest) := by
  cases h with
  | plain hcontrol hquote hslash =>
    rw [List.singleton_append, scalar?]
    · exact if_pos ⟨hcontrol, hquote, hslash⟩
    · exact fun _ hc => absurd hc hslash
    · exact fun _ _ hc => absurd hc hslash
  | @short e he =>
    have hu : e ≠ 'u' := by
      rintro rfl
      cases he
    rw [List.cons_append, List.singleton_append, scalar?]
    · rw [he]
      rfl
    · exact hu
  | @code u hu =>
    obtain ⟨htake, hdrop⟩ := take_codeUnit? hu rest
    have hc := not_surrogate c
    rw [List.cons_append, List.cons_append, scalar?, htake, hu, hdrop, Option.bind_eq_bind, Option.bind_some,
      if_neg (by omega), if_neg (by omega), Char.ofNat_toNat]
  | @pair u v high low hu hv hhigh hlow hc =>
    obtain ⟨htake, hdrop⟩ := take_codeUnit? hu ('\\' :: 'u' :: v ++ rest)
    obtain ⟨htake', hdrop'⟩ := take_codeUnit? hv rest
    have hhigh' : 0xD800 ≤ 0xD800 + high ∧ 0xD800 + high < 0xDC00 := by omega
    have hlow' : 0xDC00 ≤ 0xDC00 + low ∧ 0xDC00 + low < 0xE000 := by omega
    have hsum : 0x10000 + (0xD800 + high - 0xD800) * 0x400 + (0xDC00 + low - 0xDC00) = c.toNat := by omega
    rw [List.append_assoc, List.cons_append, List.cons_append, scalar?, htake, hu, hdrop]
    simp only [Option.bind_eq_bind, Option.bind_some, List.cons_append, if_pos hhigh', htake', hv, hdrop',
      if_pos hlow', hsum, Char.ofNat_toNat]

lemma head_spelling (h : Spelling c m) : ∃ d rest, d ≠ '"' ∧ m = d :: rest := by
  cases h with
  | plain _ hquote _ => exact ⟨c, [], hquote, rfl⟩
  | short | code | pair => exact ⟨'\\', _, by decide, rfl⟩

lemma body?_mem {t : Text} (hm : m ∈ bodies t) (rest : Text) : body? (m ++ '"' :: rest) = some (t, rest) := by
  induction t generalizing m with
  | nil =>
    obtain rfl : m = [] := hm
    rw [List.nil_append, body?]
  | cons c t ih =>
    obtain ⟨first, more, hfirst, hmore, rfl⟩ := hm
    obtain ⟨d, first, hd, rfl⟩ := head_spelling hfirst
    have hscalar := scalar?_spelling hfirst (more ++ '"' :: rest)
    have hlt : (more ++ '"' :: rest).length < (d :: first ++ (more ++ '"' :: rest)).length := by
      simp only [List.length_append, List.length_cons]
      omega
    rw [List.append_assoc, body?.eq_def]
    split
    · rename_i heq
      exact absurd (List.cons.inj heq).1 hd
    · rw [hscalar]
      simp only [if_pos hlt, ih hmore, Option.map_some]

lemma strings_read {t : Text} (hm : m ∈ strings t) (rest : Text) :
    ∃ body, m = '"' :: body ∧ body? (body ++ rest) = some (t, rest) := by
  obtain ⟨body, hbody, rfl⟩ := hm
  refine ⟨body ++ ['"'], rfl, ?_⟩
  rw [List.append_assoc]
  exact body?_mem hbody rest

def closes (c : Char) : Bool :=
  c == ',' || c == ']' || c == '}'

def Follows (rest : Text) : Prop :=
  ∀ c ∈ rest.head?, isBlank c ∨ closes c

lemma Follows.stops (h : Follows rest) : Stops (fun c => FloatGoesOn c ∨ c = '.') rest := by
  intro c hc
  have hc := h c hc
  simp only [isBlank, closes, Bool.or_eq_true, beq_iff_eq] at hc
  rcases hc with ((((rfl | rfl) | rfl) | rfl) | ((rfl | rfl) | rfl)) <;> simp [FloatGoesOn, isDigit]

lemma number?_mem (hm : m ∈ numbers) (h : Follows rest) : number? (m ++ rest) = some (m, rest) := by
  have hgoes : Stops FloatGoesOn rest := h.stops.mono fun c => .inl
  rcases hm with hm | hm
  · have hnone := floatLiteral?_int hm hgoes (h.stops.mono fun c => .inr)
    rw [number?, hnone, reads_int.exact hm (hgoes.mono fun c => .inl)]
    rfl
  · rw [number?, reads_float.exact hm hgoes]
    rfl

lemma afterBlanks_append (hw : w ∈ blanks) (rest : Text) : afterBlanks (w ++ rest) = afterBlanks rest :=
  List.dropWhile_append_of_pos (mem_star_oneOf.1 hw)

lemma afterBlanks_cons (hc : ¬ isBlank c) (rest : Text) : afterBlanks (c :: rest) = c :: rest :=
  List.dropWhile_cons_of_neg hc

lemma not_blank_of_closes (h : closes c) : ¬ isBlank c := by
  simp only [closes, Bool.or_eq_true, beq_iff_eq] at h
  rcases h with (rfl | rfl) | rfl <;> decide

lemma follows_append (hw : w ∈ blanks) (h : Follows rest) : Follows (w ++ rest) := by
  cases w with
  | nil => exact h
  | cons d w =>
    rintro _ ⟨⟩
    exact .inl (mem_star_oneOf.1 hw d (List.mem_cons_self ..))

lemma follows_cons (hc : closes c) (rest : Text) : Follows (c :: rest) := by
  rintro _ ⟨⟩
  exact .inr hc

section Items

variable {α : Type} {item? : Text → Option (α × Text)} {a : α} {as : List α} {l : Language Char}
  {ls : List (Language Char)} {closing : Char}

structure Takes (item? : Text → Option (α × Text)) (n : Nat) (a : α) (l : Language Char) : Prop where
  head : ∀ m ∈ l, ∃ c rest, m = c :: rest ∧ ¬ isBlank c ∧ ¬ closes c
  reads : ∀ m ∈ l, m.length ≤ n → ∀ rest, Follows rest → item? (m ++ rest) = some (a, rest)

lemma Takes.padded (h : Takes item? n a l) (hm : m ∈ padded l) (hlen : m.length ≤ n) (hc : closes c)
    (rest : Text) : ∃ after, item? (afterBlanks (m ++ c :: rest)) = some (a, after) ∧
      afterBlanks after = c :: rest := by
  obtain ⟨w, hw, m, hitem, w', hw', rfl⟩ := mem_padded.1 hm
  obtain ⟨d, more, rfl, hd, -⟩ := h.head m hitem
  have hbound : (d :: more).length ≤ n := by
    simp only [List.length_append, List.length_cons] at hlen ⊢
    omega
  refine ⟨w' ++ c :: rest, ?_, ?_⟩
  · rw [List.append_assoc, List.append_assoc, afterBlanks_append hw, List.cons_append, afterBlanks_cons hd,
      ← List.cons_append]
    exact h.reads _ hitem hbound _ (follows_append hw' (follows_cons hc rest))
  · rw [afterBlanks_append hw', afterBlanks_cons (not_blank_of_closes hc)]

lemma items?_sequence (h : List.Forall₂ (Takes item? n) as ls) (hne : as ≠ [])
    (hclosing : closes closing) (hcomma : closing ≠ ',') (hm : m ∈ sequence ls) (hlen : m.length ≤ n)
    (rest : Text) : items? item? closing (m ++ closing :: rest) = some (as, rest) := by
  induction h generalizing m with
  | nil => exact absurd rfl hne
  | @cons a l as ls ha has ih =>
    cases has with
    | nil =>
      obtain ⟨after, hread, hafter⟩ := ha.padded hm hlen hclosing rest
      rw [items?, hread]
      simp only [hafter, if_pos]
    | @cons a' l' as ls ha' has =>
      obtain ⟨item, hitem, more, hmore, rfl⟩ := hm
      rw [List.length_append, List.length_cons] at hlen
      obtain ⟨after, hread, hafter⟩ := ha.padded (c := ',') hitem (by omega) rfl (more ++ closing :: rest)
      have hrest := ih (List.cons_ne_nil _ _) hmore (by omega)
      have hlt : (more ++ closing :: rest).length < (item ++ ',' :: (more ++ closing :: rest)).length := by
        simp only [List.length_append, List.length_cons]
        omega
      rw [List.append_assoc, List.cons_append, items?, hread]
      simp only [hafter, if_neg hcomma.symm, true_and, if_pos hlt, hrest, Option.map_some]

lemma head_sequence (h : Takes item? n a l) (hm : m ∈ sequence (l :: ls)) (rest : Text) :
    ∃ c more, afterBlanks (m ++ rest) = c :: more ∧ ¬ closes c := by
  have hfirst : ∃ item ∈ padded l, ∃ more, m = item ++ more := by
    cases ls with
    | nil => exact ⟨m, hm, [], (List.append_nil m).symm⟩
    | cons l' ls =>
      obtain ⟨item, hitem, more, -, rfl⟩ := hm
      exact ⟨item, hitem, _, rfl⟩
  obtain ⟨_, hfirst, more, rfl⟩ := hfirst
  obtain ⟨w, hw, item, hitem, w', -, rfl⟩ := mem_padded.1 hfirst
  obtain ⟨c, item, rfl, hc, hcloses⟩ := h.head item hitem
  refine ⟨c, item ++ (w' ++ (more ++ rest)), ?_, hcloses⟩
  simp only [List.append_assoc, afterBlanks_append hw, List.cons_append, afterBlanks_cons hc]

lemma inside?_sequence (h : List.Forall₂ (Takes item? n) as ls) (hclosing : closes closing)
    (hcomma : closing ≠ ',') (hm : m ∈ sequence ls) (hlen : m.length ≤ n) (rest : Text) :
    inside? item? closing (m ++ closing :: rest) = some (as, rest) := by
  cases h with
  | nil =>
    rw [inside?, afterBlanks_append hm, afterBlanks_cons (not_blank_of_closes hclosing)]
    simp only [if_pos]
  | cons ha has =>
    obtain ⟨c, more, hhead, hc⟩ := head_sequence ha hm (closing :: rest)
    have hne : c ≠ closing := by
      rintro rfl
      exact hc hclosing
    rw [inside?, hhead]
    simp only [if_neg hne]
    exact items?_sequence (.cons ha has) (List.cons_ne_nil _ _) hclosing hcomma hm hlen rest

end Items

lemma takes_member (h : Takes (value? n) n v (texts v)) (key : Text) :
    Takes (member? (value? n)) n (key, v) (strings key * padded (oneOf (· = ':')) * texts v) := by
  constructor
  case head =>
    rintro _ ⟨_, ⟨_, ⟨body, -, rfl⟩, colon, -, rfl⟩, value, -, rfl⟩
    exact ⟨'"', _, rfl, by decide, by decide⟩
  case reads =>
    rintro _ ⟨_, ⟨name, hname, colon, hcolon, rfl⟩, value, hvalue, rfl⟩ hlen rest hrest
    obtain ⟨w, hw, _, ⟨_, rfl, rfl⟩, w', hw', rfl⟩ := mem_padded.1 hcolon
    obtain ⟨body, rfl, hbody⟩ := strings_read hname (w ++ [':'] ++ w' ++ value ++ rest)
    obtain ⟨c, value, rfl, hc, -⟩ := h.head value hvalue
    have hread := h.reads _ hvalue (by simp at hlen ⊢; omega) rest hrest
    have hmember : '"' :: body ++ (w ++ [':'] ++ w') ++ c :: value ++ rest =
        '"' :: (body ++ (w ++ [':'] ++ w' ++ c :: value ++ rest)) := by
      simp
    have hblanks : afterBlanks (w ++ [':'] ++ w' ++ c :: value ++ rest) =
        ':' :: (w' ++ c :: (value ++ rest)) := by
      simp only [List.append_assoc, afterBlanks_append hw]
      exact afterBlanks_cons (by decide) _
    simp only [hmember, member?, hbody, hblanks, Option.bind_eq_bind, Option.bind_some,
      afterBlanks_append hw', afterBlanks_cons hc]
    rw [← List.cons_append, hread]
    rfl

lemma takes_fixed {opening : Char} {more : Text} (hopening : ¬ isBlank opening ∧ ¬ closes opening)
    (hread : ∀ rest, value? (n + 1) (opening :: more ++ rest) = some (v, rest)) :
    Takes (value? (n + 1)) (n + 1) v {m | m = opening :: more} := by
  constructor
  case head =>
    rintro _ rfl
    exact ⟨opening, more, rfl, hopening⟩
  case reads =>
    rintro _ rfl - rest -
    exact hread rest

lemma takes_string (t : Text) : Takes (value? (n + 1)) (n + 1) (.string t) (strings t) := by
  constructor
  case head =>
    rintro _ ⟨body, -, rfl⟩
    exact ⟨'"', _, rfl, by decide, by decide⟩
  case reads =>
    intro m hm hlen rest hrest
    obtain ⟨body, rfl, hbody⟩ := strings_read hm rest
    rw [List.cons_append, value?, hbody]
    rfl

lemma head_number (hm : m ∈ numbers) : ∃ c rest, (isDigit c ∨ c = '-') ∧ m = c :: rest := by
  have hint : ∀ {i : Text}, i ∈ ints → ∃ c rest, (isDigit c ∨ c = '-') ∧ i = c :: rest := by
    rintro _ ⟨sign, hsign, magnitude, hmagnitude, rfl⟩
    obtain ⟨c, rest, hc, rfl⟩ := head_magnitude hmagnitude
    rcases hsign with rfl | ⟨_, rfl, rfl⟩
    · exact ⟨c, rest, .inl hc, rfl⟩
    · exact ⟨'-', _, .inr rfl, rfl⟩
  rcases hm with hm | ⟨i, hi, more, -, rfl⟩
  · exact hint hm
  · obtain ⟨c, rest, hc, rfl⟩ := hint hi
    exact ⟨c, rest ++ more, hc, rfl⟩

lemma takes_number (q : ℚ) :
    Takes (value? (n + 1)) (n + 1) (.number q) {m | m ∈ numbers ∧ amount m = q} := by
  constructor
  case head =>
    rintro m ⟨hm, -⟩
    obtain ⟨c, rest, hc, rfl⟩ := head_number hm
    refine ⟨c, rest, rfl, ?_⟩
    rcases hc with hc | rfl
    · exact of_codes (P := fun c => ¬ isBlank c ∧ ¬ closes c) (by decide) (toNat_mem_digitCodes hc)
    · decide
  case reads =>
    rintro m ⟨hm, rfl⟩ - rest hrest
    have hread := number?_mem hm hrest
    obtain ⟨c, more, hc, rfl⟩ := head_number hm
    rw [List.cons_append] at hread ⊢
    rw [value?, hread]
    · rfl
    all_goals
      intro _ heq
      obtain ⟨rfl, -⟩ := List.cons.inj heq
      revert hc
      decide

lemma takes_bracketed {α : Type} {item? : Text → Option (α × Text)} {as : List α}
    {ls : List (Language Char)} {opening closing : Char} (h : List.Forall₂ (Takes item? n) as ls)
    (hopening : ¬ isBlank opening ∧ ¬ closes opening) (hclosing : closes closing) (hcomma : closing ≠ ',')
    (hread : ∀ t rest, inside? item? closing t = some (as, rest) →
      value? (n + 1) (opening :: t) = some (v, rest)) :
    Takes (value? (n + 1)) (n + 1) v (bracketed opening closing (sequence ls)) := by
  constructor
  case head =>
    rintro _ ⟨inside, -, rfl⟩
    exact ⟨opening, _, rfl, hopening⟩
  case reads =>
    rintro _ ⟨inside, hinside, rfl⟩ hlen rest -
    have hbound : inside.length ≤ n := by
      simp at hlen
      omega
    rw [List.append_assoc, List.singleton_append, List.cons_append]
    exact hread _ _ (inside?_sequence h hclosing hcomma hinside hbound rest)

lemma takes_array {vs : List Value} (h : List.Forall₂ (Takes (value? n) n) vs (itemTexts vs)) :
    Takes (value? (n + 1)) (n + 1) (.array vs) (bracketed '[' ']' (sequence (itemTexts vs))) := by
  apply takes_bracketed h (by decide) rfl (by decide)
  intro t rest hread
  rw [value?, hread]
  rfl

lemma takes_object {ms : List (Text × Value)}
    (h : List.Forall₂ (Takes (member? (value? n)) n) ms (memberTexts ms)) :
    Takes (value? (n + 1)) (n + 1) (.object ms) (bracketed '{' '}' (sequence (memberTexts ms))) := by
  apply takes_bracketed h (by decide) rfl (by decide)
  intro t rest hread
  rw [value?, hread]
  rfl

lemma takes_of_succ (h : ∀ n, Takes (value? (n + 1)) (n + 1) v (texts v)) (n : Nat) :
    Takes (value? n) n v (texts v) := by
  cases n with
  | succ n => exact h n
  | zero =>
    refine ⟨(h 0).head, fun m hm hlen => ?_⟩
    obtain ⟨c, rest, rfl, -⟩ := (h 0).head m hm
    cases hlen

mutual

lemma takes_value : ∀ (v : Value) (n : Nat), Takes (value? (n + 1)) (n + 1) v (texts v)
  | .null, _ => by
    rw [texts]
    exact takes_fixed (by decide) fun rest => rfl
  | .boolean true, _ => by
    rw [texts]
    exact takes_fixed (by decide) fun rest => rfl
  | .boolean false, _ => by
    rw [texts]
    exact takes_fixed (by decide) fun rest => rfl
  | .number q, _ => by
    rw [texts]
    exact takes_number q
  | .string t, _ => by
    rw [texts]
    exact takes_string t
  | .array vs, n => by
    rw [texts]
    exact takes_array (takes_items vs n)
  | .object ms, n => by
    rw [texts]
    exact takes_object (takes_members ms n)

lemma takes_items : ∀ (vs : List Value) (n : Nat), List.Forall₂ (Takes (value? n) n) vs (itemTexts vs)
  | [], _ => .nil
  | v :: vs, n => .cons (takes_of_succ (takes_value v) n) (takes_items vs n)

lemma takes_members : ∀ (ms : List (Text × Value)) (n : Nat),
    List.Forall₂ (Takes (member? (value? n)) n) ms (memberTexts ms)
  | [], _ => .nil
  | (key, v) :: ms, n =>
    .cons (takes_member (takes_of_succ (takes_value v) n) key) (takes_members ms n)

end

lemma decode?_of_mem (hm : m ∈ padded (texts v)) : decode? m = some v := by
  obtain ⟨w, hw, value, hvalue, w', hw', rfl⟩ := mem_padded.1 hm
  have htakes := takes_of_succ (takes_value v) (w ++ value ++ w').length
  obtain ⟨c, value, rfl, hc, -⟩ := htakes.head value hvalue
  have hend : Follows w' := by
    have hnil : Follows [] := by rintro _ ⟨⟩
    rw [← List.append_nil w']
    exact follows_append hw' hnil
  have hstart : afterBlanks (w ++ c :: value ++ w') = c :: value ++ w' := by
    rw [List.append_assoc, afterBlanks_append hw, List.cons_append, afterBlanks_cons hc]
  have hstop : afterBlanks w' = [] := by
    rw [← List.append_nil w', afterBlanks_append hw']
    rfl
  rw [decode?, hstart, htakes.reads _ hvalue (by simp; omega) w' hend]
  simp only [hstop, List.isEmpty_nil, if_pos]

end GraphQLTokens.JsonText
