/-
  Workmeter — from clock ticks to nanoseconds.

  * `nanoseconds_exact`: the conversion rounds down, and is capped where the quotient does
    not fit;
  * `nanoseconds_mono`, `nanoseconds_antitone`: it grows with the ticks, and not with the
    rate;
  * `stages`, `stage_lt`: the numbers that it goes through;
  * `wideNanoseconds_eq`: a register of 128 bits is wide enough for them;
  * `Counts`, `Counts.usage_eq`: the lines of counters, and what is read of them;
  * `reading_exact_and_monotone`: this is exact, and never falls.
-/
import Mathlib.Data.UInt
import Workmeter.Proofs.HostCpu.Reading
import Workmeter.Proofs.Text.Words

namespace Workmeter.HostCpu

open Text

variable {hz hz' t t' : Nat} {lines : List Line} {ticks ticks' : List UInt64}

/-! ## The conversion -/

/-- **The conversion** rounds down, and is capped where the quotient does not fit. -/
theorem nanoseconds_exact (hz t : Nat) :
    let n := (nanoseconds hz t).toNat
    n * max hz 1 ≤ t * 10 ^ 9 ∧ t * 10 ^ 9 < (n + 1) * max hz 1 ∨
      n = 2 ^ 64 - 1 ∧ 2 ^ 64 ≤ t * 10 ^ 9 / max hz 1 := by
  intro n
  have hn : n = min (t * 10 ^ 9 / max hz 1) (2 ^ 64 - 1) := nanoseconds_toNat hz t
  have hrate : 0 < max hz 1 := by omega
  obtain hfits | hlarge := Nat.lt_or_ge (t * 10 ^ 9 / max hz 1) (2 ^ 64)
  · have hquotient : n = t * 10 ^ 9 / max hz 1 := by omega
    rw [hquotient]
    exact .inl ⟨Nat.div_mul_le_self _ _,
      (Nat.div_lt_iff_lt_mul hrate).1 (Nat.lt_succ_self _)⟩
  · exact .inr ⟨by omega, hlarge⟩

theorem nanoseconds_mono (h : t ≤ t') : nanoseconds hz t ≤ nanoseconds hz t' := by
  have hquotient : t * nanosPerSecond / max hz 1 ≤ t' * nanosPerSecond / max hz 1 :=
    Nat.div_le_div_right (Nat.mul_le_mul_right _ h)
  rw [UInt64.le_iff_toNat_le, nanoseconds_toNat, nanoseconds_toNat]
  omega

theorem nanoseconds_antitone (h : hz ≤ hz') : nanoseconds hz' t ≤ nanoseconds hz t := by
  have hquotient : t * nanosPerSecond / max hz' 1 ≤ t * nanosPerSecond / max hz 1 :=
    Nat.div_le_div_left (by omega) (by omega)
  rw [UInt64.le_iff_toNat_le, nanoseconds_toNat, nanoseconds_toNat]
  omega

theorem total_mono (h : List.Forall₂ (· ≤ ·) ticks ticks') : total ticks ≤ total ticks' := by
  induction h with
  | nil => exact Nat.le_refl _
  | cons hle _ ih => exact Nat.add_le_add (UInt64.le_iff_toNat_le.1 hle) ih

/-! ## The numbers on the way -/

/-- The numbers that a conversion goes through: the sums of the counters, from none of them to
    all, then the product, the divisor and the quotient. -/
def stages (hz : UInt64) (ticks : List UInt64) : List Nat :=
  ticks.scanl (fun sum count => sum + count.toNat) 0 ++
    [total ticks * nanosPerSecond, max hz.toNat 1,
      total ticks * nanosPerSecond / max hz.toNat 1]

theorem le_total_of_mem_scanl {v : Nat} (s : Nat)
    (h : v ∈ ticks.scanl (fun sum count => sum + count.toNat) s) : v ≤ s + total ticks := by
  induction ticks generalizing s with
  | nil =>
    rw [List.scanl_nil, List.mem_singleton] at h
    omega
  | cons count ticks ih =>
    rw [List.scanl_cons, List.mem_cons] at h
    have htotal : total (count :: ticks) = count.toNat + total ticks := rfl
    rcases h with rfl | h
    · omega
    · have := ih _ h
      omega

theorem total_le (ticks : List UInt64) : total ticks ≤ ticks.length * (2 ^ 64 - 1) := by
  induction ticks with
  | nil => exact Nat.le_refl _
  | cons count ticks ih =>
    have htotal : total (count :: ticks) = count.toNat + total ticks := rfl
    have hcount := count.toNat_lt
    rw [htotal, List.length_cons]
    omega

/-- **No number on the way** reaches `2 ^ 128`. -/
theorem stage_lt {hz : UInt64} (hlength : ticks.length = 7) :
    ∀ value ∈ stages hz ticks, value < 2 ^ 128 := by
  have htotal := total_le ticks
  rw [hlength] at htotal
  have hproduct : total ticks * nanosPerSecond < 2 ^ 128 := by
    rw [nanosPerSecond]; omega
  intro value hvalue
  simp only [stages, List.mem_append, List.mem_cons, List.not_mem_nil, or_false] at hvalue
  rcases hvalue with hsum | rfl | rfl | rfl
  · have := le_total_of_mem_scanl 0 hsum
    omega
  · exact hproduct
  · have := hz.toNat_lt
    omega
  · exact Nat.lt_of_le_of_lt (Nat.div_le_self _ _) hproduct

/-! ## A register of 128 bits -/

/-- The conversion in a register of 128 bits that wraps around. -/
def wideNanoseconds (hz : UInt64) (ticks : List UInt64) : UInt64 :=
  let sum : BitVec 128 := ticks.foldl (fun sum count => sum + .ofNat 128 count.toNat) 0
  let quotient := sum * .ofNat 128 nanosPerSecond / .ofNat 128 (max hz.toNat 1)
  if quotient.toNat < UInt64.size then .ofNat quotient.toNat else .ofNat (UInt64.size - 1)

theorem toNat_foldl_wide (sum : BitVec 128) (h : sum.toNat + total ticks < 2 ^ 128) :
    (ticks.foldl (fun sum count => sum + .ofNat 128 count.toNat) sum).toNat =
      sum.toNat + total ticks := by
  induction ticks generalizing sum with
  | nil => rfl
  | cons count ticks ih =>
    have htotal : total (count :: ticks) = count.toNat + total ticks := rfl
    have hstep : (sum + .ofNat 128 count.toNat).toNat = sum.toNat + count.toNat := by
      rw [BitVec.toNat_add, BitVec.toNat_ofNat, Nat.mod_eq_of_lt (b := 2 ^ 128) (by omega),
        Nat.mod_eq_of_lt (by omega)]
    rw [List.foldl_cons, ih _ (by omega), hstep]
    omega

/-- **The register** never wraps around, so it holds the exact numbers. -/
theorem wideNanoseconds_eq {hz : UInt64} (hlength : ticks.length = 7) :
    wideNanoseconds hz ticks = nanoseconds hz.toNat (total ticks) := by
  have hsmall : ∀ value ∈ stages hz ticks, value < 2 ^ 128 := stage_lt hlength
  simp only [stages, List.forall_mem_append, List.forall_mem_cons] at hsmall
  obtain ⟨-, hproduct, hdivisor, -, -⟩ := hsmall
  have htotal : total ticks < 2 ^ 128 := by
    rw [nanosPerSecond] at hproduct; omega
  have hzero : (0 : BitVec 128).toNat = 0 := rfl
  have hsum := @toNat_foldl_wide ticks 0 (by omega)
  rw [hzero, Nat.zero_add] at hsum
  have hquotient : (ticks.foldl (fun sum count => sum + .ofNat 128 count.toNat) (0 : BitVec 128) *
      .ofNat 128 nanosPerSecond / .ofNat 128 (max hz.toNat 1)).toNat =
      total ticks * nanosPerSecond / max hz.toNat 1 := by
    rw [BitVec.toNat_udiv, BitVec.toNat_mul, hsum, BitVec.toNat_ofNat, BitVec.toNat_ofNat,
      Nat.mod_eq_of_lt hdivisor, Nat.mod_eq_of_lt (by decide : nanosPerSecond < 2 ^ 128),
      Nat.mod_eq_of_lt hproduct]
  rw [wideNanoseconds, hquotient, nanoseconds]
  split
  · rw [Nat.min_eq_left (by omega)]
  · rw [Nat.min_eq_right (by omega)]

/-! ## Lines of counters -/

/-- The line that decides starts with these seven counters. -/
def Counts (lines : List Line) (ticks : List UInt64) : Prop :=
  ∃ fields, Decides lines fields ∧ 7 ≤ fields.length ∧ Counted (fields.take 7) ticks

theorem Counts.usage_eq (h : Counts lines ticks) :
    usage hz lines = .ok (nanoseconds hz (total ticks)) := by
  obtain ⟨fields, hdecides, henough, hcounted⟩ := h
  rw [hdecides.usage_eq, ofFields_of_enough henough, hcounted.mapM_eq takesDecimals_readField]
  rfl

/-- A line of the counters in decimal. -/
def cpuLine (ticks : List UInt64) : List Char :=
  ['c', 'p', 'u'] ++ spaced (ticks.map fun count => Nat.toDigits 10 count.toNat)

theorem counts_cpuLine (hlength : ticks.length = 7) : Counts [.ok (cpuLine ticks)] ticks := by
  let fields := ticks.map fun count => Nat.toDigits 10 count.toNat
  have hfields : fields.length = 7 := by rw [List.length_map, hlength]
  have hword : ∀ field ∈ fields, IsWord field := by
    intro field hfield
    obtain ⟨count, -, rfl⟩ := List.mem_map.1 hfield
    exact isWord_toDigits count.toNat
  have hcpu : IsWord ['c', 'p', 'u'] := by
    refine ⟨List.cons_ne_nil _ _, ?_⟩
    simp only [List.forall_mem_cons, List.not_mem_nil, false_imp_iff, implies_true, and_true]
    decide
  have hwords : words (cpuLine ticks) = ['c', 'p', 'u'] :: fields :=
    words_spaced (List.forall_mem_cons.2 ⟨hcpu, hword⟩)
  refine ⟨fields, ⟨[], _, [], rfl, nofun, hwords⟩, Nat.le_of_eq hfields.symm, ?_⟩
  rw [← hfields, List.take_length]
  exact List.forall₂_map_left_iff.2
    (List.forall₂_same.2 fun count _ => Decimal.denotes_toDigits count.toNat)

/-- **A reading is exact, and never falls**: the sum in nanoseconds, rounded down, or the
    largest word, computed within 128 bits; no rate counts as a rate of one. -/
theorem reading_exact_and_monotone (hz : UInt64) (ticks : List UInt64)
    (hlength : ticks.length = 7) :
    (∀ value ∈ stages hz ticks, value < 2 ^ 128) ∧
    (∃ line, Counts [.ok line] ticks) ∧
    let sum := (ticks.map UInt64.toNat).sum
    let rate := max hz.toNat 1
    ∃ n, wideNanoseconds hz ticks = n ∧
      (∀ lines, Counts lines ticks → usage hz.toNat lines = .ok n) ∧
      (n.toNat * rate ≤ sum * 10 ^ 9 ∧ sum * 10 ^ 9 < (n.toNat + 1) * rate ∨
        n.toNat = 2 ^ 64 - 1 ∧ 2 ^ 64 ≤ sum * 10 ^ 9 / rate) ∧
      (∀ lines' ticks', Counts lines' ticks' → List.Forall₂ (· ≤ ·) ticks ticks' →
        ∃ n', usage hz.toNat lines' = .ok n' ∧ n ≤ n') ∧
      ∀ lines (hz' : UInt64), Counts lines ticks → hz ≤ hz' →
        ∃ n', usage hz'.toNat lines = .ok n' ∧ n' ≤ n := by
  refine ⟨stage_lt hlength, ⟨_, counts_cpuLine hlength⟩, nanoseconds hz.toNat (total ticks),
    wideNanoseconds_eq hlength, fun lines h => h.usage_eq, ?_, ?_, ?_⟩
  · rw [← total_eq_sum]
    exact nanoseconds_exact hz.toNat (total ticks)
  · intro lines' ticks' hcounts hle
    exact ⟨_, hcounts.usage_eq, nanoseconds_mono (total_mono hle)⟩
  · intro lines hz' hcounts hle
    exact ⟨_, hcounts.usage_eq, nanoseconds_antitone (UInt64.le_iff_toNat_le.1 hle)⟩

/-- The largest seven counters are capped, at a rate of zero too. -/
theorem reading_exact_and_monotone_up_to_cap :
    let small : List UInt64 := [1, 2, 3, 4, 5, 6, 7]
    let large : List UInt64 := List.replicate 7 (2 ^ 64 - 1)
    small.length = 7 ∧ List.Forall₂ (· ≤ ·) small large ∧
      usage 0 [.ok (cpuLine small)] = .ok 28000000000 ∧
      (∃ n, usage 0 [.ok (cpuLine large)] = .ok n ∧ 28000000000 ≤ n) ∧
      (∃ n, usage 100 [.ok (cpuLine small)] = .ok n ∧ n ≤ 28000000000) ∧
      wideNanoseconds 0 large = 2 ^ 64 - 1 := by
  intro small large
  have hlength : small.length = 7 := rfl
  have hsmall : Counts [.ok (cpuLine small)] small := counts_cpuLine hlength
  have hlarge : Counts [.ok (cpuLine large)] large := counts_cpuLine List.length_replicate
  have hle : List.Forall₂ (· ≤ ·) small large := by decide +kernel
  obtain ⟨-, -, n, hn, hread, -, hmono, hrate⟩ := reading_exact_and_monotone 0 small hlength
  obtain rfl : n = 28000000000 := hn.symm.trans (by decide +kernel)
  exact ⟨hlength, hle, hread _ hsmall, hmono _ _ hlarge hle, hrate _ 100 hsmall (by decide),
    by decide +kernel⟩

end Workmeter.HostCpu
