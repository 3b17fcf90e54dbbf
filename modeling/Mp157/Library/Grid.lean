import Mp157.Library.Memory

/-!
# Grids of numbers in memory

Cell `(i, j)` of a grid is the `n` bytes at `line * i + n * j`, for `j < columns`; a line may be
longer than its cells.  `painted` is a memory with the first `t` cells filled in, in the order of
the lines, and `setNumber_painted` is how filling in one more extends it.  It is read back by
`number_painted`; bytes that belong to no cell are as before (`painted_outside`).
-/

namespace ByteMemory

/-- The first `t` cells hold the numbers `value`. -/
def painted (m : Mem) (n line columns t : ℕ) (value : ℕ → ℕ → ℕ) : Mem := fun off =>
  if 0 ≤ off ∧ off.toNat % line < n * columns ∧
      off.toNat / line * columns + off.toNat % line / n < t then
    UInt8.ofNat (value (off.toNat / line) (off.toNat % line / n) / 256 ^ (off.toNat % line % n))
  else m off

section Grid

variable {m : Mem} {n line columns t i j k : ℕ} {value : ℕ → ℕ → ℕ}

/-- A byte of a cell lies in the line of the cell. -/
lemma cell_lt (hline : n * columns ≤ line) (hj : j < columns) (hk : k < n) : n * j + k < line := by
  have hcell : n * (j + 1) ≤ n * columns := Nat.mul_le_mul_left n hj
  rw [Nat.mul_succ] at hcell
  omega

/-- The cell and the place in it, from the offset. -/
lemma cell_coordinates (hline : n * columns ≤ line) (hj : j < columns) (hk : k < n) :
    (line * i + (n * j + k)) / line = i ∧ (line * i + (n * j + k)) % line = n * j + k ∧
      (n * j + k) / n = j ∧ (n * j + k) % n = k := by
  have hlt := cell_lt hline hj hk
  have hrow : (line * i + (n * j + k)) / line = i ∧ (line * i + (n * j + k)) % line = n * j + k :=
    (Nat.div_mod_unique (by omega)).mpr ⟨by ring, hlt⟩
  have hcol : (n * j + k) / n = j ∧ (n * j + k) % n = k :=
    (Nat.div_mod_unique (by omega)).mpr ⟨by ring, hk⟩
  exact ⟨hrow.1, hrow.2, hcol.1, hcol.2⟩

lemma painted_zero : painted m n line columns 0 value = m := by
  funext off
  simp [painted]

/-- A byte of a cell. -/
lemma painted_cell (hline : n * columns ≤ line) (hj : j < columns) (hk : k < n) :
    painted m n line columns t value (line * i + n * j + k)
      = if i * columns + j < t then UInt8.ofNat (value i j / 256 ^ k)
        else m (line * i + n * j + k) := by
  have hoff : ((line : ℤ) * i + n * j + k) = ((line * i + (n * j + k) : ℕ) : ℤ) := by
    push_cast
    ring
  obtain ⟨hdiv, hmod, hcol, hbyte⟩ := cell_coordinates (i := i) hline hj hk
  have hcell : n * j + k < n * columns := cell_lt le_rfl hj hk
  rw [painted, hoff, Int.toNat_natCast, hdiv, hmod, hcol, hbyte]
  exact if_congr ⟨fun h => h.2.2, fun h => ⟨Int.natCast_nonneg _, hcell, h⟩⟩ rfl rfl

/-- A cell that is filled in. -/
lemma number_painted (hline : n * columns ≤ line) (hj : j < columns) (ht : i * columns + j < t)
    (hvalue : value i j < 256 ^ n) :
    number (painted m n line columns t value) n (line * i + n * j) = value i j := by
  rw [number_of_bytes fun k hk => (painted_cell hline hj hk).trans (if_pos ht),
    Nat.mod_eq_of_lt hvalue]

/-- An offset either belongs to a cell or is outside of all. -/
lemma cell_or_outside (n line columns : ℕ) (off : ℤ) :
    (∃ i j k : ℕ, j < columns ∧ k < n ∧ off = line * i + n * j + k) ∨
      ¬ (0 ≤ off ∧ off.toNat % line < n * columns) := by
  by_cases h : 0 ≤ off ∧ off.toNat % line < n * columns
  · obtain ⟨x, rfl⟩ := Int.eq_ofNat_of_zero_le h.1
    rw [Int.toNat_natCast] at h
    have hn : 0 < n := Nat.pos_of_ne_zero fun hn => by simp [hn] at h
    have hcolumn : x % line / n < columns := Nat.div_lt_of_lt_mul h.2
    refine .inl ⟨x / line, x % line / n, x % line % n, hcolumn, Nat.mod_lt _ hn, ?_⟩
    have hx : x = line * (x / line) + n * (x % line / n) + x % line % n := by
      rw [add_assoc, Nat.div_add_mod, Nat.div_add_mod]
    exact_mod_cast hx
  · exact .inr h

/-- Bytes of no filled cell are as before. -/
lemma painted_outside {off : ℤ} (hline : n * columns ≤ line)
    (hoff : ∀ i j : ℕ, j < columns → i * columns + j < t →
      ¬ ((line : ℤ) * i + n * j ≤ off ∧ off < line * i + n * j + n)) :
    painted m n line columns t value off = m off := by
  rcases cell_or_outside n line columns off with ⟨i, j, k, hj, hk, rfl⟩ | hno
  · rw [painted_cell hline hj hk, if_neg fun ht => hoff i j hj ht ⟨by omega, by omega⟩]
  · exact if_neg fun h => hno ⟨h.1, h.2.1⟩

/-- **Filling in one more cell.** -/
theorem setNumber_painted (hline : n * columns ≤ line) (hj : j < columns) :
    setNumber (painted m n line columns (i * columns + j) value) n (line * i + n * j) (value i j)
      = painted m n line columns (i * columns + j + 1) value := by
  funext off
  by_cases hin : (line : ℤ) * i + n * j ≤ off ∧ off < line * i + n * j + n
  · -- a byte of the cell
    obtain ⟨k, hk⟩ := Int.eq_ofNat_of_zero_le (sub_nonneg.mpr hin.1)
    obtain rfl : off = line * i + n * j + k := by omega
    have hkn : k < n := by omega
    rw [setNumber_inside hkn, painted_cell hline hj hkn, if_pos (Nat.lt_succ_self _)]
  · rw [setNumber_outside (by omega)]
    rcases cell_or_outside n line columns off with ⟨i', j', k, hj', hk, rfl⟩ | hno
    · -- a byte of another cell, which comes before or after
      rw [painted_cell hline hj' hk, painted_cell hline hj' hk]
      refine if_congr ⟨by omega, ?_⟩ rfl rfl
      intro h
      refine lt_of_le_of_ne (Nat.le_of_lt_succ h) ?_
      intro hsame
      apply hin
      obtain ⟨rfl, rfl⟩ : i' = i ∧ j' = j := by
        have hrow : (i' * columns + j') / columns = i' ∧ (i' * columns + j') % columns = j' :=
          (Nat.div_mod_unique (by omega)).mpr ⟨by ring, hj'⟩
        have hrow' : (i * columns + j) / columns = i ∧ (i * columns + j) % columns = j :=
          (Nat.div_mod_unique (by omega)).mpr ⟨by ring, hj⟩
        rw [hsame] at hrow
        exact ⟨hrow.1.symm.trans hrow'.1, hrow.2.symm.trans hrow'.2⟩
      exact ⟨by omega, by omega⟩
    · rw [painted, painted, if_neg fun h => hno ⟨h.1, h.2.1⟩, if_neg fun h => hno ⟨h.1, h.2.1⟩]

end Grid

end ByteMemory
