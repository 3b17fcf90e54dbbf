import Mathlib.Tactic

/-!
# Byte memory

A memory is a function from byte offsets to bytes.  A `Block` is a memory with a length: an
access outside it has no result, so a computation over blocks that returns has made every access
inside.  A block without a length stands for memory whose extent is not in question.

Words are 16 bits, little endian, at even offsets: word `z` is the bytes `2 * z` and `2 * z + 1`.
`blit` is the effect of a copy; `setWord_blit` is how copying one more word extends it.

Numbers of any size are little endian too, at any offset: `number` is the one at an offset, and
`setNumber` the memory with another one there.
-/

namespace ByteMemory

/-- The content of a memory, by byte offset from its start. -/
abbrev Mem := ℤ → UInt8

/-- A memory and its length in bytes (`none`: not tracked). -/
structure Block where
  limit : Option ℕ
  byte : Mem

namespace Block

/-- Byte `i` belongs to the block. -/
def inside (b : Block) (i : ℤ) : Bool :=
  match b.limit with
  | none => true
  | some n => decide (0 ≤ i ∧ i < n)

/-- The block is at least `n` bytes long. -/
def Holds (b : Block) (n : ℕ) : Prop := ∀ len ∈ b.limit, n ≤ len

def load (b : Block) (i : ℤ) : Option UInt8 :=
  if b.inside i then some (b.byte i) else none

def store (b : Block) (i : ℤ) (v : UInt8) : Option Block :=
  if b.inside i then some { b with byte := Function.update b.byte i v } else none

variable {b : Block} {i : ℤ} {n : ℕ}

lemma inside_of_holds (h : b.Holds n) (h₀ : 0 ≤ i) (hi : i < n) : b.inside i = true := by
  unfold inside
  split
  · rfl
  · next len hlen =>
      have hle : n ≤ len := h len hlen
      simp only [decide_eq_true_eq]
      omega

lemma load_of_inside (h : b.inside i = true) : b.load i = some (b.byte i) := by
  simp [load, h]

lemma store_of_inside {v : UInt8} (h : b.inside i = true) :
    b.store i v = some { b with byte := Function.update b.byte i v } := by
  simp [store, h]

lemma inside_of_load {v : UInt8} (h : b.load i = some v) : b.inside i = true := by
  rw [load, Option.ite_none_right_eq_some] at h
  exact h.1

/-- A store that succeeds was inside, and the block is as long as before. -/
lemma inside_of_store {b' : Block} {v : UInt8} (h : b.store i v = some b') :
    b.inside i = true ∧ b'.limit = b.limit := by
  rw [store, Option.ite_none_right_eq_some, Option.some.injEq] at h
  obtain ⟨hin, rfl⟩ := h
  exact ⟨hin, rfl⟩

/-- What is inside depends on the length only. -/
lemma inside_congr {b' : Block} (h : b'.limit = b.limit) : b'.inside i = b.inside i := by
  rw [inside, inside, h]

lemma inside_some {m : Mem} : inside ⟨some n, m⟩ i = true ↔ 0 ≤ i ∧ i < n := by
  simp [inside]

end Block

/-- Memory whose extent is not in question. -/
def unbounded (m : Mem) : Block := ⟨none, m⟩

@[simp] lemma unbounded_byte (m : Mem) : (unbounded m).byte = m := rfl
@[simp] lemma unbounded_limit (m : Mem) : (unbounded m).limit = none := rfl

lemma unbounded_holds (m : Mem) (n : ℕ) : (unbounded m).Holds n := by
  simp [Block.Holds]

/-! ## Words -/

/-- Word `z`. -/
def word (m : Mem) (z : ℤ) : UInt16 :=
  UInt16.ofNat ((m (2 * z)).toNat + 256 * (m (2 * z + 1)).toNat)

def lowByte (w : UInt16) : UInt8 := UInt8.ofNat (w.toNat % 256)

def highByte (w : UInt16) : UInt8 := UInt8.ofNat (w.toNat / 256)

/-- The memory with word `z` replaced. -/
def setWord (m : Mem) (z : ℤ) (w : UInt16) : Mem :=
  Function.update (Function.update m (2 * z) (lowByte w)) (2 * z + 1) (highByte w)

lemma word_toNat (m : Mem) (z : ℤ) :
    (word m z).toNat = (m (2 * z)).toNat + 256 * (m (2 * z + 1)).toNat := by
  have h₁ := (m (2 * z)).toNat_lt
  have h₂ := (m (2 * z + 1)).toNat_lt
  simp only [word, UInt16.toNat_ofNat']
  omega

lemma lowByte_word (m : Mem) (z : ℤ) : lowByte (word m z) = m (2 * z) := by
  have h₁ := (m (2 * z)).toNat_lt
  have hmod : (word m z).toNat % 256 = (m (2 * z)).toNat := by
    rw [word_toNat]
    omega
  rw [lowByte, hmod, UInt8.ofNat_toNat]

lemma highByte_word (m : Mem) (z : ℤ) : highByte (word m z) = m (2 * z + 1) := by
  have h₁ := (m (2 * z)).toNat_lt
  have hdiv : (word m z).toNat / 256 = (m (2 * z + 1)).toNat := by
    rw [word_toNat]
    omega
  rw [highByte, hdiv, UInt8.ofNat_toNat]

namespace Block

/-- `((uint16_t *) b)[z]` -/
def load16 (b : Block) (z : ℤ) : Option UInt16 := do
  let lo ← b.load (2 * z)
  let hi ← b.load (2 * z + 1)
  return UInt16.ofNat (lo.toNat + 256 * hi.toNat)

/-- `((uint16_t *) b)[z] = w` -/
def store16 (b : Block) (z : ℤ) (w : UInt16) : Option Block := do
  let b ← b.store (2 * z) (lowByte w)
  b.store (2 * z + 1) (highByte w)

variable {b : Block} {z : ℤ}

lemma load16_of_inside (h₀ : b.inside (2 * z) = true) (h₁ : b.inside (2 * z + 1) = true) :
    b.load16 z = some (word b.byte z) := by
  simp [load16, load_of_inside h₀, load_of_inside h₁, word]

lemma store16_of_inside {w : UInt16} (h₀ : b.inside (2 * z) = true)
    (h₁ : b.inside (2 * z + 1) = true) :
    b.store16 z w = some { b with byte := setWord b.byte z w } := by
  simp only [store16, store_of_inside h₀, Option.bind_eq_bind, Option.bind_some]
  exact store_of_inside (b := ⟨b.limit, _⟩) h₁

end Block

/-! ## Copies -/

/-- `dst` after `n` bytes were copied into it at `d`, from `src` at `s`. -/
def blit (dst src : Mem) (d s : ℤ) (n : ℕ) : Mem :=
  fun off => if d ≤ off ∧ off < d + n then src (off - d + s) else dst off

lemma blit_zero (dst src : Mem) (d s : ℤ) : blit dst src d s 0 = dst := by
  funext off
  simp only [blit, Nat.cast_zero, add_zero]
  rw [if_neg (by omega)]

/-- **Copying one more word.** -/
lemma setWord_blit (dst src : Mem) (z q : ℤ) (n : ℕ) :
    setWord (blit dst src (2 * z) (2 * q) (2 * n)) (z + n) (word src (q + n))
      = blit dst src (2 * z) (2 * q) (2 * (n + 1)) := by
  funext off
  simp only [setWord, lowByte_word, highByte_word, Function.update_apply, blit]
  by_cases hhi : off = 2 * (z + n) + 1
  · rw [if_pos hhi, if_pos (by push_cast; omega)]
    congr 1
    omega
  · rw [if_neg hhi]
    by_cases hlo : off = 2 * (z + n)
    · rw [if_pos hlo, if_pos (by push_cast; omega)]
      congr 1
      omega
    · rw [if_neg hlo]
      by_cases hin : 2 * z ≤ off ∧ off < 2 * z + (2 * n : ℕ)
      · rw [if_pos hin, if_pos (by push_cast at hin ⊢; omega)]
      · rw [if_neg hin, if_neg (by push_cast at hin ⊢; omega)]

/-! ## Numbers of several bytes -/

/-- The number in the `n` bytes at `off`. -/
def number (m : Mem) : ℕ → ℤ → ℕ
  | 0, _ => 0
  | n + 1, off => (m off).toNat + 256 * number m n (off + 1)

/-- The memory with the `n` bytes at `off` replaced by those of `v`. -/
def setNumber (m : Mem) : ℕ → ℤ → ℕ → Mem
  | 0, _, _ => m
  | n + 1, off, v => setNumber (Function.update m off (UInt8.ofNat v)) n (off + 1) (v / 256)

lemma number_lt (m : Mem) (n : ℕ) (off : ℤ) : number m n off < 256 ^ n := by
  induction n generalizing off with
  | zero => simp [number]
  | succ n ih =>
      have hbyte := (m off).toNat_lt
      have hrest := ih (off + 1)
      rw [number, pow_succ]
      omega

/-- A number is made up of its bytes. -/
lemma number_of_bytes {m : Mem} {n v : ℕ} {off : ℤ}
    (h : ∀ k < n, m (off + k) = UInt8.ofNat (v / 256 ^ k)) : number m n off = v % 256 ^ n := by
  induction n generalizing v off with
  | zero => simp [number, Nat.mod_one]
  | succ n ih =>
      have hfirst : m off = UInt8.ofNat v := by
        simpa using h 0 (Nat.succ_pos n)
      have hrest : ∀ k < n, m (off + 1 + k) = UInt8.ofNat (v / 256 / 256 ^ k) := by
        intro k hk
        rw [Nat.div_div_eq_div_mul, ← pow_succ', ← h (k + 1) (by omega)]
        congr 1
        push_cast
        ring
      have hbyte : (UInt8.ofNat v).toNat = v % 256 := UInt8.toNat_ofNat'
      rw [number, hfirst, ih hrest, hbyte, pow_succ' 256 n, Nat.mod_mul]

/-- A number depends on its bytes only. -/
lemma number_congr {m m' : Mem} {n : ℕ} {off off' : ℤ}
    (h : ∀ k < n, m (off + k) = m' (off' + k)) : number m n off = number m' n off' := by
  induction n generalizing off off' with
  | zero => rfl
  | succ n ih =>
      have hfirst : m off = m' off' := by
        simpa using h 0 (Nat.succ_pos n)
      have hrest : number m n (off + 1) = number m' n (off' + 1) := by
        refine ih ?_
        intro k hk
        have hnext := h (k + 1) (by omega)
        rwa [Nat.cast_succ, add_comm (k : ℤ), ← add_assoc, ← add_assoc] at hnext
      rw [number, number, hfirst, hrest]

/-- Equal numbers have equal bytes. -/
lemma number_injective {m m' : Mem} {n k : ℕ} {off off' : ℤ}
    (h : number m n off = number m' n off') (hk : k < n) : m (off + k) = m' (off' + k) := by
  induction n generalizing off off' k with
  | zero => exact absurd hk (Nat.not_lt_zero k)
  | succ n ih =>
      have hlt := (m off).toNat_lt
      have hlt' := (m' off').toNat_lt
      rw [number, number] at h
      cases k with
      | zero =>
          rw [Nat.cast_zero, add_zero, add_zero, ← UInt8.toNat_inj]
          omega
      | succ k =>
          have hrest := @ih k (off + 1) (off' + 1) (by omega) (by omega)
          rwa [add_assoc, add_assoc, add_comm 1, ← Nat.cast_succ] at hrest

/-- A number that was copied. -/
lemma number_blit {dst src : Mem} {d s off : ℤ} {n k : ℕ} (h₀ : d ≤ off) (h : off + k ≤ d + n) :
    number (blit dst src d s n) k off = number src k (off - d + s) := by
  refine number_congr ?_
  intro j hj
  rw [blit, if_pos (by omega)]
  congr 1
  ring

lemma setNumber_outside {m : Mem} {n v : ℕ} {off x : ℤ} (h : x < off ∨ off + n ≤ x) :
    setNumber m n off v x = m x := by
  induction n generalizing m off v with
  | zero => rfl
  | succ n ih =>
      push_cast at h
      rw [setNumber, ih (by omega), Function.update_of_ne (by omega)]

lemma setNumber_inside {m : Mem} {n k v : ℕ} {off : ℤ} (h : k < n) :
    setNumber m n off v (off + k) = UInt8.ofNat (v / 256 ^ k) := by
  induction n generalizing m k off v with
  | zero => exact absurd h (Nat.not_lt_zero k)
  | succ n ih =>
      rw [setNumber]
      cases k with
      | zero =>
          rw [setNumber_outside (by simp)]
          simp
      | succ k =>
          have hoff : off + ((k + 1 : ℕ) : ℤ) = off + 1 + k := by
            push_cast
            ring
          rw [hoff, ih (by omega), Nat.div_div_eq_div_mul, pow_succ']

/-- A number that was stored is read back. -/
lemma number_setNumber {m : Mem} {n v : ℕ} {off : ℤ} (hv : v < 256 ^ n) :
    number (setNumber m n off v) n off = v := by
  rw [number_of_bytes fun k hk => setNumber_inside hk, Nat.mod_eq_of_lt hv]

/-- Storing a number changes no other. -/
lemma number_setNumber_of_disjoint {m : Mem} {n n' v : ℕ} {off off' : ℤ}
    (h : off' + n' ≤ off ∨ off + n ≤ off') :
    number (setNumber m n off v) n' off' = number m n' off' := by
  refine number_congr ?_
  intro k hk
  exact setNumber_outside (by omega)

namespace Block

/-- The number in the `n` bytes at `off`, if they belong to the block. -/
def loadNumber (b : Block) : ℕ → ℤ → Option ℕ
  | 0, _ => some 0
  | n + 1, off => do
      let lo ← b.load off
      let hi ← b.loadNumber n (off + 1)
      return lo.toNat + 256 * hi

/-- The block with the `n` bytes at `off` replaced by those of `v`, if they belong to it. -/
def storeNumber (b : Block) : ℕ → ℤ → ℕ → Option Block
  | 0, _, _ => some b
  | n + 1, off, v => do
      let b ← b.store off (UInt8.ofNat v)
      b.storeNumber n (off + 1) (v / 256)

/-- The bytes of a number: the first, and those of the rest. -/
lemma inside_succ {b : Block} {n : ℕ} {off : ℤ} (h : ∀ k < n + 1, b.inside (off + k) = true) :
    b.inside off = true ∧ ∀ k < n, b.inside (off + 1 + k) = true := by
  refine ⟨by simpa using h 0 (Nat.succ_pos n), ?_⟩
  intro k hk
  have hnext := h (k + 1) (by omega)
  rwa [Nat.cast_succ, add_comm (k : ℤ), ← add_assoc] at hnext

lemma loadNumber_of_inside {b : Block} {n : ℕ} {off : ℤ}
    (h : ∀ k < n, b.inside (off + k) = true) : b.loadNumber n off = some (number b.byte n off) := by
  induction n generalizing off with
  | zero => rfl
  | succ n ih =>
      obtain ⟨hfirst, hrest⟩ := inside_succ h
      simp [loadNumber, load_of_inside hfirst, ih hrest, number]

lemma storeNumber_of_inside {b : Block} {n v : ℕ} {off : ℤ}
    (h : ∀ k < n, b.inside (off + k) = true) :
    b.storeNumber n off v = some { b with byte := setNumber b.byte n off v } := by
  induction n generalizing b off v with
  | zero => rfl
  | succ n ih =>
      obtain ⟨hfirst, hrest⟩ := inside_succ h
      simp only [storeNumber, store_of_inside hfirst, Option.bind_eq_bind, Option.bind_some]
      exact @ih ⟨b.limit, _⟩ _ _ hrest

/-- A number that was stored was inside, and the block is as long as before. -/
lemma inside_of_storeNumber {b b' : Block} {n v : ℕ} {off : ℤ}
    (h : b.storeNumber n off v = some b') :
    (∀ k < n, b.inside (off + k) = true) ∧ b'.limit = b.limit := by
  induction n generalizing b off v with
  | zero =>
      obtain rfl := Option.some.inj h
      exact ⟨fun k hk => absurd hk (Nat.not_lt_zero k), rfl⟩
  | succ n ih =>
      obtain ⟨b₁, hfirst, hrest⟩ := Option.bind_eq_some_iff.mp h
      obtain ⟨hin, hlimit⟩ := inside_of_store hfirst
      obtain ⟨hins, hlimits⟩ := ih hrest
      refine ⟨?_, hlimits.trans hlimit⟩
      intro k hk
      cases k with
      | zero => simpa using hin
      | succ k =>
          rw [← inside_congr hlimit, Nat.cast_succ, add_comm (k : ℤ), ← add_assoc]
          exact hins k (by omega)

/-- A number that was loaded was inside. -/
lemma inside_of_loadNumber {b : Block} {n v : ℕ} {off : ℤ} (h : b.loadNumber n off = some v) :
    ∀ k < n, b.inside (off + k) = true := by
  induction n generalizing off v with
  | zero =>
      intro k hk
      exact absurd hk (Nat.not_lt_zero k)
  | succ n ih =>
      obtain ⟨lo, hfirst, hrest⟩ := Option.bind_eq_some_iff.mp h
      obtain ⟨hi, hsecond, -⟩ := Option.bind_eq_some_iff.mp hrest
      intro k hk
      cases k with
      | zero => simpa using inside_of_load hfirst
      | succ k =>
          rw [Nat.cast_succ, add_comm (k : ℤ), ← add_assoc]
          exact ih hsecond k (by omega)

/-- A block that holds `len` bytes has every number below. -/
lemma inside_number {b : Block} {len n : ℕ} {off : ℤ} (hb : b.Holds len) (h₀ : 0 ≤ off)
    (hoff : off + n ≤ len) : ∀ k < n, b.inside (off + k) = true :=
  fun k hk => inside_of_holds hb (by omega) (by omega)

end Block

end ByteMemory
