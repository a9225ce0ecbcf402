namespace GraphQLTokens

def countUpToWithin (entries : Array Nat) (n low high : Nat) : Nat :=
  if low < high then
    let middle := (low + high) / 2
    if entries.getD middle 0 ≤ n then countUpToWithin entries n (middle + 1) high
    else countUpToWithin entries n low middle
  else low
termination_by high - low

def countUpTo (entries : Array Nat) (n : Nat) : Nat :=
  countUpToWithin entries n 0 entries.size

/-- Whether `n` is in the set in which each entry switches membership, starting outside. So `#[3, 5, 9]`
is the set of 3, 4 and everything from 9. -/
def withinBoundaries (boundaries : Array Nat) (n : Nat) : Bool :=
  countUpTo boundaries n % 2 = 1

def IsAscending (entries : Array Nat) : Prop :=
  ∀ i j, i < j → j < entries.size → entries.getD i 0 ≤ entries.getD j 0

theorem lt_countUpToWithin_iff {entries : Array Nat} {n low high : Nat}
    (hentries : IsAscending entries) (hhigh : high ≤ entries.size) (hle : low ≤ high)
    (hbefore : ∀ i, i < low → entries.getD i 0 ≤ n)
    (hafter : ∀ i, high ≤ i → i < entries.size → n < entries.getD i 0) (i : Nat)
    (hi : i < entries.size) : i < countUpToWithin entries n low high ↔ entries.getD i 0 ≤ n := by
  fun_induction countUpToWithin entries n low high with
  | case1 low high hlt middle hm ih =>
    refine ih hhigh (by omega) (fun j hj => ?_) hafter
    by_cases hjm : j = middle
    · exact hjm ▸ hm
    · exact Nat.le_trans (hentries j middle (by omega) (by omega)) hm
  | case2 low high hlt middle hm ih =>
    refine ih (by omega) (by omega) hbefore (fun j hj hjs => ?_)
    by_cases hjm : middle = j
    · exact hjm ▸ Nat.lt_of_not_le hm
    · exact Nat.lt_of_lt_of_le (Nat.lt_of_not_le hm) (hentries middle j (by omega) hjs)
  | case3 low high hlt =>
    constructor
    · exact hbefore i
    · intro hin
      apply Nat.lt_of_not_le
      intro hli
      exact Nat.not_lt.2 hin (hafter i (by omega) hi)

theorem lt_countUpTo_iff {entries : Array Nat} (hentries : IsAscending entries) {i : Nat}
    (hi : i < entries.size) (n : Nat) : i < countUpTo entries n ↔ entries.getD i 0 ≤ n :=
  lt_countUpToWithin_iff hentries (Nat.le_refl _) (Nat.zero_le _)
    (fun _ h => absurd h (Nat.not_lt_zero _)) (fun _ h h' => absurd h' (Nat.not_lt.2 h)) i hi

theorem countUpToWithin_le {entries : Array Nat} {n low high : Nat} (hle : low ≤ high) :
    countUpToWithin entries n low high ≤ high := by
  fun_induction countUpToWithin entries n low high with
  | case1 low high hlt middle _ ih => exact ih (by omega)
  | case2 low high hlt middle _ ih => exact Nat.le_trans (ih (by omega)) (by omega)
  | case3 low high => exact hle

theorem isAscending_of_pairwise {entries : Array Nat} (h : entries.toList.Pairwise (· ≤ ·)) :
    IsAscending entries := by
  intro i j hij hj
  have hle := List.pairwise_iff_getElem.1 h i j (Nat.lt_trans hij hj) hj hij
  simpa [Array.getD, hj, Nat.lt_trans hij hj] using hle

theorem countUpTo_append {entries : Array Nat} {xs ys : List Nat} {n : Nat}
    (h : entries.toList = xs ++ ys) (hentries : entries.toList.Pairwise (· ≤ ·))
    (hxs : ∀ x ∈ xs, x ≤ n) (hys : ∀ y ∈ ys, n < y) : countUpTo entries n = xs.length := by
  have hsize : entries.size = xs.length + ys.length := by
    rw [← Array.length_toList, h, List.length_append]
  have hget (i : Nat) : entries.getD i 0 = (xs ++ ys).getD i 0 := by
    rw [← h, List.getD_eq_getElem?_getD, Array.getElem?_toList, Array.getD_eq_getD_getElem?]
  have hcount := @lt_countUpTo_iff entries (isAscending_of_pairwise hentries)
  apply Nat.le_antisymm
  · apply Nat.le_of_not_lt
    intro hlt
    have hys' : xs.length < entries.size :=
      Nat.lt_of_lt_of_le hlt (countUpToWithin_le (Nat.zero_le _))
    have hle := (hcount hys' n).1 hlt
    cases ys with
    | nil => simp at hsize; omega
    | cons y ys =>
      rw [hget] at hle
      simp at hle
      exact absurd (hys y (List.mem_cons_self)) (Nat.not_lt.2 hle)
  · apply Nat.le_of_not_lt
    intro hlt
    have hle : ¬ entries.getD (countUpTo entries n) 0 ≤ n := fun hle =>
      Nat.lt_irrefl _ ((hcount (by omega) n).2 hle)
    apply hle
    rw [hget, List.getD_eq_getElem?_getD, List.getElem?_append_left hlt, List.getElem?_eq_getElem hlt]
    exact hxs _ (List.getElem_mem hlt)

end GraphQLTokens
