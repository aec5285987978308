import Boxing.Exchange
import Boxing.Proofs.Workload.Words
import Boxing.Proofs.World.Act
import Mathlib.Data.List.Nodup
import Mathlib.Data.List.ProdSigma

/-!
# What is in a parcel

Numbers at even positions are preloaded, and those at odd positions are exact half steps, as long as
they lie below `2 ^ 52` (`Parcel.Exact`). A parcel is sound (`Parcel.Sound`) if it reads as its
number and has the entry of this number or a slot of its own, by its position. So the reader can
count on the positions alone: if each position of each producer has come once, then `count_eq` has
how many parcels are intact, share an entry, or are canonical.
-/

set_option autoImplicit false

namespace Boxing

namespace Parcel

/-! ## Numbers -/

/-- The half steps of these producers at these positions are below `2 ^ 52`. -/
def Exact (producers quota : Nat) : Prop :=
  ∀ producer position, producer < producers → position < quota → position % 2 = 1 →
    producer * 1000000 + position < 2 ^ 52

section
variable {producer position : Nat}

theorem preloaded_of_even (h : position % 2 = 0) : Preloaded (number producer position) := by
  rw [number, if_pos h, Binary64.ofNat_eq_ofInt]
  have hlt : position % 200 < 200 := Nat.mod_lt _ (by decide)
  exact ⟨_, by omega, by omega, rfl⟩

/-- **The numbers at odd positions are exact.** -/
theorem halfStep_of_odd (h : position % 2 = 1) (hlt : producer * 1000000 + position < 2 ^ 52) :
    (number producer position).HalfStep (producer * 1000000 + position) := by
  have hlt' : producer * 1000000 + position < 2 ^ 53 := Nat.lt_trans hlt (by decide)
  have hmul := Binary64.mul_ofNat (a := producer) (b := 1000000) (by omega) (by decide)
  have hadd := Binary64.add_ofNat (Nat.lt_of_le_of_lt (Nat.le_add_right _ _) hlt')
    (Nat.lt_of_le_of_lt (Nat.le_add_left _ _) hlt')
  rw [number, if_neg (by omega), hmul, hadd]
  exact Binary64.halfStep_add_half hlt

theorem not_preloaded_of_odd (h : position % 2 = 1)
    (hlt : producer * 1000000 + position < 2 ^ 52) : ¬ Preloaded (number producer position) :=
  (halfStep_of_odd h hlt).not_preloaded

end

/-! ## Sound parcels -/

/-- The parcel reads as its number. It has the entry of this number at an even position, and a slot
of its own at an odd one. -/
structure Sound (table : PreloadTable) (s : Store) (p : Parcel) : Prop where
  reads : p.ref.get s = .ok p.expected
  entry : p.position % 2 = 0 → table.get? p.expected = .ok (some p.ref)
  slot : p.position % 2 = 1 → table.get? p.expected = .ok none ∧ p.ref.isCanonical = false

namespace Sound

variable {table : PreloadTable} {s t : Store} {p : Parcel}

theorem of_grows (h : Sound table s p) (hgrows : s.Grows t) : Sound table t p :=
  ⟨NumberRef.get_of_grows hgrows h.reads, h.entry, h.slot⟩

theorem reads_eq (h : Sound table s p) : Exchange.reads s p = true := by
  rw [Exchange.reads, h.reads]
  exact beq_self_eq_true _

theorem sharesEntry_eq (h : Sound table s p) :
    Exchange.sharesEntry table p = decide (p.position % 2 = 0) := by
  rw [Exchange.sharesEntry]
  rcases Nat.mod_two_eq_zero_or_one p.position with heven | hodd
  · rw [h.entry heven, heven]
    exact NumberRef.aliases_iff.2 ⟨rfl, rfl⟩
  · rw [(h.slot hodd).1, hodd]
    rfl

theorem isCanonical_eq (h : Sound table s p) (ht : table.Filled s) :
    p.ref.isCanonical = decide (p.position % 2 = 0) := by
  rcases Nat.mod_two_eq_zero_or_one p.position with heven | hodd
  · rw [ht.isCanonical_of_get? (h.entry heven), heven]
    rfl
  · rw [(h.slot hodd).2, hodd]
    rfl

end Sound

/-! ## Counting by positions -/

/-- Which number of which producer is in the parcel. -/
def label (p : Parcel) : Nat × Nat := (p.producer, p.position)

/-- The labels that the parcels have when all has come. -/
def labels (producers quota : Nat) : List (Nat × Nat) := List.range producers ×ˢ List.range quota

theorem mem_labels {producers quota i k : Nat} :
    (i, k) ∈ labels producers quota ↔ i < producers ∧ k < quota := by
  rw [labels, List.mem_product, List.mem_range, List.mem_range]

theorem nodup_labels (producers quota : Nat) : (labels producers quota).Nodup :=
  List.nodup_range.product List.nodup_range

theorem length_labels (producers quota : Nat) :
    (labels producers quota).length = producers * quota := by
  rw [labels, List.length_product, List.length_range, List.length_range]

/-- Every other position is even, from `0` on. -/
theorem countP_even_range (n : Nat) :
    (List.range n).countP (fun k => decide (k % 2 = 0)) = (n + 1) / 2 := by
  induction n with
  | zero => rfl
  | succ n ih =>
    rw [List.range_succ, List.countP_append, ih, List.countP_singleton]
    split <;> simp only [decide_eq_true_eq] at * <;> omega

theorem countP_even_labels (producers quota : Nat) :
    (labels producers quota).countP (fun l => decide (l.2 % 2 = 0)) =
      producers * ((quota + 1) / 2) := by
  have hrows (rows : List Nat) :
      (rows ×ˢ List.range quota).countP (fun l => decide (l.2 % 2 = 0)) =
        rows.length * ((quota + 1) / 2) := by
    induction rows with
    | nil => rw [List.nil_product, List.length_nil, Nat.zero_mul, List.countP_nil]
    | cons i rows ih =>
      rw [List.product_cons, List.countP_append, ih, List.countP_map, List.length_cons,
        Nat.succ_mul, Nat.add_comm]
      exact congrArg _ (countP_even_range quota)
  rw [labels, hrows, List.length_range]

variable {table : PreloadTable} {s : Store} {producers quota : Nat} {parcels : List Parcel}

/-- **What the reader counts when all has come.** -/
theorem count_eq (ht : table.Filled s) (sound : ∀ p ∈ parcels, Sound table s p)
    (all : (parcels.map label).Perm (labels producers quota)) :
    parcels.length = producers * quota ∧
      parcels.countP (Exchange.reads s) = producers * quota ∧
      parcels.countP (Exchange.sharesEntry table) = producers * ((quota + 1) / 2) ∧
      parcels.countP (·.ref.isCanonical) = producers * ((quota + 1) / 2) := by
  have hlen : parcels.length = producers * quota := by
    rw [← length_labels, ← all.length_eq, List.length_map]
  have heven : parcels.countP (fun p => decide (p.position % 2 = 0)) =
      producers * ((quota + 1) / 2) := by
    rw [← countP_even_labels, ← all.countP_eq, List.countP_map]
    rfl
  refine ⟨hlen, ?_, ?_, ?_⟩
  · rw [← hlen, List.countP_eq_length]
    exact fun p hp => (sound p hp).reads_eq
  · rw [← heven]
    exact List.countP_congr fun p hp => by rw [(sound p hp).sharesEntry_eq]
  · rw [← heven]
    exact List.countP_congr fun p hp => by rw [(sound p hp).isCanonical_eq ht]

end Parcel

end Boxing
