import Boxing.Workload.Tally
import Boxing.Proofs.Workload.Words
import Boxing.Proofs.World.Tenure

/-!
# Mixed workloads side by side

Both branches of a mixed workload use up two words, so two such workloads over one stream never fall
out of step: their numbers at one position are made from the same two words (`InStep`), and they
differ only if the first word lies between the percentages. A hit under a percentage is a hit, of
the same number, under every greater one (`inStep_mix`), and so the hits grow with the percentage
(`countP_mixed_mono`). `mixed_in_step` puts it together.
-/

set_option autoImplicit false

namespace Boxing

namespace Workload

/-- The numbers that mixed workloads with the percentages `p` and `q` make from the words `a` and
`b`, where `p` is not above `q`. -/
structure InStep (t : PreloadTable) (p q a b : UInt32) (x y : Binary64) : Prop where
  lower : x = mix p a b
  upper : y = mix q a b
  hit : t.finds x = true → t.finds y = true ∧ y = x
  miss : t.finds y = false → t.finds x = false ∧ x = y
  differ : x ≠ y ↔ p ≤ a % 100 ∧ a % 100 < q

/-- Bytes are not half steps. -/
theorem byte_ne_halfStep (x : UInt32) : byte x ≠ halfStep x :=
  fun h => not_preloaded_halfStep x (h ▸ preloaded_byte x)

variable {t : PreloadTable} {store : Store} {p q : UInt32}

theorem finds_mix (ht : t.Filled store) (a b : UInt32) :
    t.finds (mix p a b) = decide (a % 100 < p) := by
  rw [Bool.eq_iff_iff, ht.finds_iff, preloaded_mix_iff, decide_eq_true_iff]

/-- **Two words make the same number under both percentages, or a half step under the lower one and
a hit under the upper one.** -/
theorem inStep_mix (ht : t.Filled store) (hpq : p ≤ q) (a b : UInt32) :
    InStep t p q a b (mix p a b) (mix q a b) := by
  have hlow := finds_mix (p := p) ht a b
  have hhigh := finds_mix (p := q) ht a b
  by_cases hp : a % 100 < p
  · -- a byte under both
    have hq : a % 100 < q := UInt32.lt_of_lt_of_le hp hpq
    have hsame : mix p a b = mix q a b := by rw [mix, mix, if_pos hp, if_pos hq]
    rw [decide_eq_true hq] at hhigh
    refine ⟨rfl, rfl, fun _ => ⟨hhigh, hsame.symm⟩, fun hmiss => ?_, ?_⟩
    · rw [hhigh] at hmiss
      cases hmiss
    · exact iff_of_false (fun hne => hne hsame) fun h => UInt32.not_lt.2 h.1 hp
  · rw [decide_eq_false hp] at hlow
    by_cases hq : a % 100 < q
    · -- a half step, and a byte
      rw [decide_eq_true hq] at hhigh
      refine ⟨rfl, rfl, fun hhit => ?_, fun hmiss => ?_, ?_⟩
      · rw [hlow] at hhit
        cases hhit
      · rw [hhigh] at hmiss
        cases hmiss
      · rw [mix, mix, if_neg hp, if_pos hq]
        exact iff_of_true (byte_ne_halfStep b).symm ⟨UInt32.not_lt.1 hp, hq⟩
    · -- a half step under both
      have hsame : mix p a b = mix q a b := by rw [mix, mix, if_neg hp, if_neg hq]
      refine ⟨rfl, rfl, fun hhit => ?_, fun _ => ⟨hlow, hsame⟩, ?_⟩
      · rw [hlow] at hhit
        cases hhit
      · exact iff_of_false (fun hne => hne hsame) fun h => hq h.2

/-! ## Whole workloads -/

section
variable {σ : Type} (next : StateM σ UInt32) (s : σ)

theorem getElem?_mixed {len i : Nat} (h : i < len) : ((mixed p).numbers next len s).1[i]? =
    some (mix p (word next s (2 * i)) (word next s (2 * i + 1))) := by
  rw [getElem?_numbers next _ h, make, width, Nat.mul_comm i 2]
  rfl

/-- The hits are told by the words at even positions. -/
theorem countP_mixed (ht : t.Filled store) (len : Nat) :
    ((mixed p).numbers next len s).1.countP t.finds =
      (List.range len).countP fun i => word next s (2 * i) % 100 < p := by
  rw [numbers_eq, List.countP_map]
  congr 1
  funext i
  show t.finds (mix p (word next s (i * 2)) _) = _
  rw [finds_mix ht, Nat.mul_comm i 2]

/-- **The hits grow with the percentage and with the length.** -/
theorem countP_mixed_mono (ht : t.Filled store) (hpq : p ≤ q) {l l' : Nat} (hl : l ≤ l') :
    ((mixed p).numbers next l s).1.countP t.finds ≤
      ((mixed q).numbers next l' s).1.countP t.finds := by
  rw [countP_mixed next s ht, countP_mixed next s ht]
  calc (List.range l).countP (fun i => word next s (2 * i) % 100 < p)
      ≤ (List.range l).countP (fun i => word next s (2 * i) % 100 < q) := by
        refine List.countP_mono_left fun i _ hi => ?_
        rw [decide_eq_true_iff] at hi ⊢
        exact UInt32.lt_of_lt_of_le hi hpq
    _ ≤ (List.range l').countP (fun i => word next s (2 * i) % 100 < q) :=
        (List.range_sublist.2 hl).countP_le

theorem countP_mixed_zero (ht : t.Filled store) (len : Nat) :
    ((mixed 0).numbers next len s).1.countP t.finds = 0 := by
  rw [countP_mixed next s ht, List.countP_eq_zero]
  intro i _
  rw [decide_eq_true_iff]
  exact UInt32.not_lt_zero

theorem countP_mixed_of_le (ht : t.Filled store) (hp : 100 ≤ p) (len : Nat) :
    ((mixed p).numbers next len s).1.countP t.finds = len := by
  have hall : (List.range len).countP (fun i => word next s (2 * i) % 100 < p) =
      (List.range len).length := by
    rw [List.countP_eq_length]
    intro i _
    rw [decide_eq_true_iff]
    exact UInt32.lt_of_lt_of_le (UInt32.mod_lt _ (by decide)) hp
  rw [countP_mixed next s ht, hall, List.length_range]

/-- **Mixed workloads are stable in the percentage.** Whatever the words of the stream are, and for
a percentage, a greater one, a length and a greater one: the two workloads have their lengths, and
at each position of the shorter one they are in step, made from the words at twice this position and
after it. The second one has no fewer hits. There are none under the percentage `0`, and nothing but
hits from `100` on. -/
theorem mixed_in_step {w : World} (hw : w.Reachable) (hpq : p ≤ q) {l l' : Nat} (hl : l ≤ l') :
    ((mixed p).numbers next l s).1.length = l ∧ ((mixed q).numbers next l' s).1.length = l' ∧
    (∀ i, i < l → ∃ x y, ((mixed p).numbers next l s).1[i]? = some x ∧
      ((mixed q).numbers next l' s).1[i]? = some y ∧
      InStep w.table p q (word next s (2 * i)) (word next s (2 * i + 1)) x y) ∧
    ((mixed p).numbers next l s).1.countP w.table.finds ≤
      ((mixed q).numbers next l' s).1.countP w.table.finds ∧
    (p = 0 → ((mixed p).numbers next l s).1.countP w.table.finds = 0) ∧
    (100 ≤ p → ((mixed p).numbers next l s).1.countP w.table.finds = l) := by
  have ht := hw.filled
  refine ⟨length_numbers next _ l s, length_numbers next _ l' s, fun i hi => ?_,
    countP_mixed_mono next s ht hpq hl, fun h0 => ?_,
    fun h100 => countP_mixed_of_le next s ht h100 l⟩
  · exact ⟨_, _, getElem?_mixed next s hi, getElem?_mixed next s (Nat.lt_of_lt_of_le hi hl),
      inStep_mix ht hpq _ _⟩
  · rw [h0]
    exact countP_mixed_zero next s ht l

end

/-- Three numbers at 30 percent and five at 70 percent, from the stream of one seed. -/
theorem mixed_in_step_of_seed :
    ∃ (w : World) (x y : Binary64), w.Reachable ∧ ((mixed 30).ofSeed 3 1)[2]? = some x ∧
      ((mixed 70).ofSeed 5 1)[2]? = some y ∧
      InStep w.table 30 70 (word KeyStream.next (KeyStream.ofSeed 1) 4)
        (word KeyStream.next (KeyStream.ofSeed 1) 5) x y ∧
      ((mixed 30).ofSeed 3 1).countP w.table.finds ≤
        ((mixed 70).ofSeed 5 1).countP w.table.finds := by
  obtain ⟨w, hw⟩ := World.exists_reachable
  obtain ⟨-, -, hstep, hcount, -, -⟩ := mixed_in_step KeyStream.next (KeyStream.ofSeed 1) hw
    (by decide : (30 : UInt32) ≤ 70) (by decide : 3 ≤ 5)
  obtain ⟨x, y, hx, hy, hxy⟩ := hstep 2 (by decide)
  exact ⟨w, x, y, hw, hx, hy, hxy, hcount⟩

end Workload

end Boxing
