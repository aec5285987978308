import Boxing.Workload.Basic
import Boxing.Proofs.Binary64.Sum
import Boxing.Proofs.Preload.Fill

/-!
# The words behind a workload

Each number of a workload is made from a fixed number of words, its `width`, by `Workload.make`. So
number `i` is made from the `width` words from position `i * width` on, whatever was made of the
words before (`numbers_eq`), and every workload is known by what becomes of single words:

* small integers and bytes are preloaded (`preloaded_smallInteger`, `preloaded_byte`);
* half steps are not (`not_preloaded_halfStep`), and they are exact (`halfStep_of_word`);
* so the first word of a mixed number alone decides (`preloaded_mix_iff`).
-/

set_option autoImplicit false

namespace Boxing

namespace Workload

/-! ## Positions in the stream -/

section
variable {σ : Type} (next : StateM σ UInt32) (s : σ)

/-- The source after `k` words. -/
def after : Nat → σ
  | 0 => s
  | k + 1 => (next (after k)).2

/-- The word at position `k`. -/
def word (k : Nat) : UInt32 := (next (after next s k)).1

theorem after_add (j k : Nat) : after next (after next s j) k = after next s (j + k) := by
  induction k with
  | zero => rfl
  | succ k ih => rw [← Nat.add_assoc, after, after, ih]

theorem word_after (j k : Nat) : word next (after next s j) k = word next s (j + k) := by
  rw [word, after_add, word]

end

/-! ## Numbers from words -/

/-- How many words a number is made from. -/
def width : Workload → Nat
  | smallIntegers | fractional => 1
  | mixed _ => 2

/-- The number that two words stand for in a mixed workload. -/
def mix (hitPercent first second : UInt32) : Binary64 :=
  if first % 100 < hitPercent then byte second else halfStep second

/-- The number that is made from the words that come next. -/
def make (w : Workload) (words : Nat → UInt32) : Binary64 :=
  match w with
  | smallIntegers => smallInteger (words 0)
  | fractional => halfStep (words 0)
  | mixed hitPercent => mix hitPercent (words 0) (words 1)

section
variable {σ : Type} (next : StateM σ UInt32) (w : Workload)

/-- A number uses as many words on one branch as on the other. -/
theorem draw_eq (s : σ) : w.draw next s = (w.make (word next s), after next s w.width) := by
  cases w with
  | smallIntegers => rfl
  | fractional => rfl
  | mixed hitPercent =>
    show (if word next s 0 % 100 < hitPercent then _ else _ : StateM σ Binary64) (after next s 1) =
      (mix hitPercent (word next s 0) (word next s 1), after next s 2)
    rw [mix]
    split <;> rfl

/-- **The numbers of a workload by their positions**, by induction on how many there are. -/
theorem numbers_eq (len : Nat) (s : σ) : w.numbers next len s =
    ((List.range len).map fun i => w.make fun j => word next s (i * w.width + j),
      after next s (len * w.width)) := by
  induction len generalizing s with
  | zero => rw [Nat.zero_mul]; rfl
  | succ len ih =>
    have hstep : w.numbers next (len + 1) s =
        ((w.draw next s).1 :: (w.numbers next len (w.draw next s).2).1,
          (w.numbers next len (w.draw next s).2).2) := rfl
    have hpos (i j : Nat) : w.width + (i * w.width + j) = (i + 1) * w.width + j := by
      rw [Nat.succ_mul]
      omega
    rw [hstep, draw_eq, ih, after_add, List.range_succ_eq_map, List.map_cons, List.map_map,
      Nat.succ_mul, Nat.add_comm w.width]
    simp only [word_after, hpos, Nat.zero_mul, Nat.zero_add, Function.comp_def]

theorem length_numbers (len : Nat) (s : σ) : (w.numbers next len s).1.length = len := by
  rw [numbers_eq, List.length_map, List.length_range]

theorem getElem?_numbers {len i : Nat} (h : i < len) (s : σ) : (w.numbers next len s).1[i]? =
    some (w.make fun j => word next s (i * w.width + j)) := by
  rw [numbers_eq, List.getElem?_map, List.getElem?_range h]
  rfl

end

/-! ## What single words become -/

theorem smallInteger_eq (x : UInt32) : smallInteger x = .ofInt ((x.toNat % 384 : Nat) - 128) := by
  have hmod : (x % 384).toNat = x.toNat % 384 := UInt32.toNat_mod x 384
  have hlt : x.toNat % 384 < 384 := Nat.mod_lt _ (by decide)
  rw [smallInteger, hmod, Binary64.ofNat_eq_ofInt]
  exact Binary64.add_ofInt (by rw [Int.natAbs_natCast]; omega) (by decide)

theorem preloaded_smallInteger (x : UInt32) : Preloaded (smallInteger x) := by
  have hlt : x.toNat % 384 < 384 := Nat.mod_lt _ (by decide)
  exact ⟨_, by omega, by omega, smallInteger_eq x⟩

theorem preloaded_byte (x : UInt32) : Preloaded (byte x) := by
  have hmod : (x % 256).toNat = x.toNat % 256 := UInt32.toNat_mod x 256
  refine ⟨(x % 256).toNat, by omega, by omega, ?_⟩
  rw [byte, Binary64.ofNat_eq_ofInt]

/-- **A half step is exact**, and its integral part has twenty binary digits. -/
theorem halfStep_of_word (x : UInt32) :
    (halfStep x).HalfStep (x >>> 12).toNat ∧ (x >>> 12).toNat < 2 ^ 20 := by
  have hlt : (x >>> 12).toNat < 2 ^ 20 := by
    have := x.toNat_lt
    rw [UInt32.toNat_shiftRight, Nat.shiftRight_eq_div_pow]
    exact Nat.div_lt_of_lt_mul this
  exact ⟨Binary64.halfStep_add_half (by omega), hlt⟩

end Workload

theorem Binary64.HalfStep.not_preloaded {n : Binary64} {k : Nat} (h : n.HalfStep k) :
    ¬ Preloaded n := by
  rintro ⟨i, h1, h2, hi⟩
  exact h.ne_ofInt (i := i) (by omega) hi

namespace Workload

theorem not_preloaded_halfStep (x : UInt32) : ¬ Preloaded (halfStep x) :=
  (halfStep_of_word x).1.not_preloaded

/-- **The first word decides.** -/
theorem preloaded_mix_iff {hitPercent a b : UInt32} :
    Preloaded (mix hitPercent a b) ↔ a % 100 < hitPercent := by
  rw [mix]
  split
  · rename_i h
    exact iff_of_true (preloaded_byte b) h
  · rename_i h
    exact iff_of_false (not_preloaded_halfStep b) h

end Workload

/-! ## Hits -/

/-- The number has an entry. -/
def PreloadTable.finds (t : PreloadTable) (n : Binary64) : Bool :=
  match t.get? n with
  | .ok (some _) => true
  | _ => false

/-- The built table has entries for the preloaded numbers. -/
theorem PreloadTable.Filled.finds_iff {t : PreloadTable} {s : Store} (ht : t.Filled s)
    {n : Binary64} : t.finds n = true ↔ Preloaded n := by
  rw [finds]
  by_cases hn : Preloaded n
  · obtain ⟨r, hr⟩ := ht.exists_entry hn
    rw [hr]
    exact iff_of_true rfl hn
  · rw [t.get?_of_not_preloaded hn]
    exact iff_of_false Bool.false_ne_true hn

end Boxing
