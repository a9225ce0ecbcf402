import GraphQLTokens.Text.Classes

namespace GraphQLTokens

def digits? (t : Text) : Option (Text × Text) :=
  if (t.takeWhile isDigit).isEmpty then none else some (t.takeWhile isDigit, t.dropWhile isDigit)

theorem append_of_digits? {t ds rest : Text} (h : digits? t = some (ds, rest)) :
    ds ++ rest = t := by
  grind [digits?, List.takeWhile_append_dropWhile]

def magnitude? : Text → Option (Text × Text)
  | [] => none
  | c :: rest =>
    if c = '0' then some (['0'], rest)
    else if isNonzeroDigit c then some (c :: rest.takeWhile isDigit, rest.dropWhile isDigit)
    else none

theorem append_of_magnitude? {t m rest : Text} (h : magnitude? t = some (m, rest)) :
    m ++ rest = t ∧ m ≠ [] := by
  cases t with
  | nil => simp [magnitude?] at h
  | cons c t => grind [magnitude?, List.takeWhile_append_dropWhile]

def integerPart? : Text → Option (Text × Text)
  | '-' :: rest => (magnitude? rest).map fun (matched, rest) => ('-' :: matched, rest)
  | t => magnitude? t

theorem append_of_integerPart? {t i rest : Text} (h : integerPart? t = some (i, rest)) :
    i ++ rest = t ∧ i ≠ [] := by
  unfold integerPart? at h
  split at h
  · obtain ⟨⟨m, r⟩, hm, h⟩ := Option.map_eq_some_iff.1 h
    grind [append_of_magnitude? hm]
  · exact append_of_magnitude? h

def fractionalPart? : Text → Option (Text × Text)
  | '.' :: rest => (digits? rest).map fun (matched, rest) => ('.' :: matched, rest)
  | _ => none

theorem append_of_fractionalPart? {t f rest : Text} (h : fractionalPart? t = some (f, rest)) :
    f ++ rest = t := by
  unfold fractionalPart? at h
  split at h
  · obtain ⟨⟨ds, r⟩, hd, h⟩ := Option.map_eq_some_iff.1 h
    grind [append_of_digits? hd]
  · simp at h

def isExponentMark (c : Char) : Bool :=
  c == 'e' || c == 'E'

def isSign (c : Char) : Bool :=
  c == '+' || c == '-'

def signedDigits? : Text → Option (Text × Text)
  | [] => none
  | c :: rest =>
    if isSign c then (digits? rest).map fun (matched, rest) => (c :: matched, rest)
    else digits? (c :: rest)

theorem append_of_signedDigits? {t s rest : Text} (h : signedDigits? t = some (s, rest)) :
    s ++ rest = t := by
  unfold signedDigits? at h
  split at h
  · simp at h
  · split at h
    · obtain ⟨⟨ds, r⟩, hd, h⟩ := Option.map_eq_some_iff.1 h
      grind [append_of_digits? hd]
    · exact append_of_digits? h

def exponentPart? : Text → Option (Text × Text)
  | [] => none
  | c :: rest =>
    if isExponentMark c then (signedDigits? rest).map fun (matched, rest) => (c :: matched, rest)
    else none

theorem append_of_exponentPart? {t e rest : Text} (h : exponentPart? t = some (e, rest)) :
    e ++ rest = t := by
  unfold exponentPart? at h
  split at h
  · simp at h
  · split at h
    · obtain ⟨⟨ds, r⟩, hd, h⟩ := Option.map_eq_some_iff.1 h
      grind [append_of_signedDigits? hd]
    · simp at h

def optionalPart (part : Text → Option (Text × Text)) (t : Text) : Text × Text :=
  (part t).getD ([], t)

theorem append_optionalPart {part : Text → Option (Text × Text)}
    (hpart : ∀ t m rest, part t = some (m, rest) → m ++ rest = t) (t : Text) :
    (optionalPart part t).1 ++ (optionalPart part t).2 = t := by
  unfold optionalPart
  cases h : part t with
  | none => rfl
  | some found => exact hpart t found.1 found.2 h

def floatLiteral? (t : Text) : Option (Text × Text) := do
  let (integer, rest) ← integerPart? t
  let (fraction, rest) := optionalPart fractionalPart? rest
  let (exponent, rest) := optionalPart exponentPart? rest
  if fraction.isEmpty && exponent.isEmpty then none
  else some (integer ++ fraction ++ exponent, rest)

theorem append_of_floatLiteral? {t f rest : Text} (h : floatLiteral? t = some (f, rest)) :
    f ++ rest = t ∧ f ≠ [] := by
  obtain ⟨⟨i, r⟩, hi, hr⟩ := Option.bind_eq_some_iff.1 h
  obtain ⟨rfl, hne⟩ := append_of_integerPart? hi
  have hf := append_optionalPart (fun _ _ _ => append_of_fractionalPart?) r
  have he := append_optionalPart (fun _ _ _ => append_of_exponentPart?)
    (optionalPart fractionalPart? r).2
  simp only at hr
  split at hr
  · simp at hr
  · cases hr
    simp [hne, he, hf]

end GraphQLTokens
