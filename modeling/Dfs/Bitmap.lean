import Dfs.Basic

/-!
# Free bitmaps

Both allocators keep a `std::vector<bool>` with one bit per object, `true` for a free
one, and look for a free object with the same loop:
`for (i = first; i < first + count; ++i) if (bitmap[i]) return i;`. This file models
that loop once, as `firstFree`, with the three facts the allocators' proofs use: what a
hit returns, what a miss says about the bits it read, and that a search inside the
bitmap never reads past its end.
-/

namespace Dfs

/-- The linear search of the allocators over `count` bits from `first`: the first free
index, `none` if there is none, and `Error.outOfBounds` at a read past the end. -/
def firstFree (bitmap : List Bool) (first : ℕ) : (count : ℕ) → Except Error (Option ℕ)
  | 0 => .ok none
  | count + 1 =>
    match bitmap[first]? with
    | none => .error (.outOfBounds first)
    | some true => .ok (some first)
    | some false => firstFree bitmap (first + 1) count

variable {bitmap : List Bool}

/-- A hit is a free bit inside the searched range. -/
theorem firstFree_some {first count i : ℕ} (hit : firstFree bitmap first count = .ok (some i)) :
    first ≤ i ∧ i < first + count ∧ bitmap[i]? = some true := by
  induction count generalizing first with
  | zero => cases hit
  | succ count ih =>
    simp only [firstFree] at hit
    split at hit
    · cases hit
    · cases hit
      exact ⟨le_rfl, by omega, ‹_›⟩
    · obtain ⟨lower, upper, free⟩ := ih hit
      exact ⟨by omega, by omega, free⟩

/-- A miss read every bit of the searched range, and found it used. -/
theorem firstFree_none {first count : ℕ} (miss : firstFree bitmap first count = .ok none) :
    ∀ j, first ≤ j → j < first + count → bitmap[j]? = some false := by
  induction count generalizing first with
  | zero => intro j lower upper; omega
  | succ count ih =>
    simp only [firstFree] at miss
    split at miss
    · cases miss
    · cases miss
    · intro j lower upper
      rcases Nat.eq_or_lt_of_le lower with rfl | later
      · assumption
      · exact ih miss j later (by omega)

/-- A search inside the bitmap never reads past its end. -/
theorem firstFree_ok {first count : ℕ} (inside : first + count ≤ bitmap.length) :
    ∃ found, firstFree bitmap first count = .ok found := by
  induction count generalizing first with
  | zero => exact ⟨none, rfl⟩
  | succ count ih =>
    have read : bitmap[first]? = some bitmap[first] := List.getElem?_eq_getElem (by omega)
    simp only [firstFree, read]
    cases bitmap[first]
    · exact ih (by omega)
    · exact ⟨_, rfl⟩

end Dfs
