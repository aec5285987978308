import Boxing.Workload.Tally
import Boxing.Proofs.Arena.FastPath
import Boxing.Proofs.Workload.Words

/-!
# Boxing a workload and keeping nothing

`Arena.readEach` boxes numbers one after another, reads each at once and forgets its reference; a
tally folds what it reads. With all pages granted it reads the numbers that it was
given, finds the preloaded ones among them, and takes a slot for each of the others
(`Layout.readEach_granted`), or it ends in a fault if the arena does not yield so many slots
(`Layout.readEach_overfilled`). Which numbers of a workload are preloaded is told by its words
(`Workload.Suits`), so `boxed_and_forgotten_if_yielded` can say what is left of the arena
afterwards.
-/

set_option autoImplicit false

namespace Boxing

namespace Arena

/-! ## Reading each number at once -/

/-- Boxes the numbers in order, and reads each one before the next one is boxed. For each of them
this gives the number that was read and whether its reference was canonical. -/
def readEach (table : PreloadTable) (memory : Memory) :
    List Binary64 → Arena → StoreM (Except ArenaError (List (Binary64 × Bool) × Arena))
  | [], a => return .ok ([], a)
  | n :: rest, a => do
    match ← a.box table memory n with
    | (.error e, _) => return .error e
    | (.ok r, a) =>
      let read ← r.get (← EStateM.get)
      let reads ← readEach table memory rest a
      return reads.map fun (reads, a) => ((read, r.isCanonical) :: reads, a)

variable {table : PreloadTable} {memory : Memory} {a a₁ : Arena} {s s₁ : Store} {r : NumberRef}
  {n m : Binary64}

theorem readEach_of_reads (hbox : a.box table memory n s = .ok (.ok r, a₁) s₁)
    (hget : r.get s₁ = .ok m) (rest : List Binary64) :
    readEach table memory (n :: rest) a s =
      (Except.map (fun (reads, a) => ((m, r.isCanonical) :: reads, a)) <$>
        readEach table memory rest a₁) s₁ := by
  rw [readEach, bind_of_ok (lift_of_ok hbox)]
  show (EStateM.get >>= fun t => liftM (r.get t) >>= _ : StoreM _) s₁ = _
  rw [bind_get, bind_of_ok (lift_ok hget s₁)]
  rfl

theorem readEach_of_error {b : Broken} (hbox : a.box table memory n s = .error b s₁)
    (rest : List Binary64) : readEach table memory (n :: rest) a s = .error b.fault s₁ :=
  bind_of_error (lift_of_error hbox)

end Arena

namespace Tally

/-- The tally after another number. -/
def add (t : Tally) (read : Binary64 × Bool) : Tally :=
  ⟨t.sum.add read.1, if read.2 then t.hits + 1 else t.hits⟩

variable {table : PreloadTable} {memory : Memory} {a a₁ : Arena} {s s₁ : Store} {r : NumberRef}
  {n m : Binary64} {t : Tally}

theorem run_of_reads (hbox : a.box table memory n s = .ok (.ok r, a₁) s₁)
    (hget : r.get s₁ = .ok m) (rest : List Binary64) :
    run table memory (n :: rest) a t s =
      run table memory rest a₁ (t.add (m, r.isCanonical)) s₁ := by
  have hnote : t.note r s₁ = .ok (t.add (m, r.isCanonical)) s₁ := by
    rw [note, bind_get, bind_of_ok (lift_ok hget s₁)]
    rfl
  rw [run, bind_of_ok (Arena.lift_of_ok hbox)]
  show (t.note r >>= fun t => run table memory rest a₁ t) s₁ = _
  rw [bind_of_ok hnote]

theorem run_of_error {b : Arena.Broken} (hbox : a.box table memory n s = .error b s₁)
    (rest : List Binary64) : run table memory (n :: rest) a t s = .error b.fault s₁ :=
  bind_of_error (Arena.lift_of_error hbox)

end Tally

/-! ## Granted runs -/

namespace Request

variable {table : PreloadTable} {memory : Memory} {s : Store} {n : Binary64} {r : NumberRef}

theorem wantsSlot_box_iff (ht : table.Filled s) :
    WantsSlot ⟨.box, n, memory⟩ ↔ ¬ table.finds n = true := by
  rw [ht.finds_iff, ← not_iff_not, not_not, not_wantsSlot_iff]
  exact and_iff_right rfl

theorem Served.isCanonical_eq (h : Served s ⟨.box, n, memory⟩ r) (ht : table.Filled s) :
    r.isCanonical = table.finds n := by
  rw [Bool.eq_iff_iff, h.isCanonical_iff, ht.finds_iff]
  exact and_iff_right rfl

end Request

namespace Arena

/-- What a run reads if all goes well, and which of it is canonical. -/
def readsOf (table : PreloadTable) (ns : List Binary64) : List (Binary64 × Bool) :=
  ns.map fun n => (n, table.finds n)

/-- The tally of such a run. -/
theorem foldl_readsOf (table : PreloadTable) (ns : List Binary64) (t : Tally) :
    (readsOf table ns).foldl Tally.add t =
      ⟨ns.foldl Binary64.add t.sum, t.hits + ns.countP table.finds⟩ := by
  induction ns generalizing t with
  | nil => rfl
  | cons n rest ih =>
    show (readsOf table rest).foldl Tally.add (t.add (n, table.finds n)) = _
    rw [ih, List.countP_cons, List.foldl_cons, Tally.add]
    cases table.finds n
    · rfl
    · simp only [if_true, Nat.add_assoc, Nat.add_comm 1]

variable {table : PreloadTable} {memory : Memory} {a : Arena} {s : Store} {earlier : List PageId}
  {refs : List NumberRef}

/-- A number is a hit, or it takes a slot. -/
theorem length_of_hit (memory : Memory) (ht : table.Filled s) (n : Binary64) (k : Nat) :
    k + (if Request.WantsSlot ⟨.box, n, memory⟩ then 1 else 0) +
      (if table.finds n = true then 1 else 0) = k + 1 := by
  rw [ite_cond_congr (propext (Request.wantsSlot_box_iff ht)), ite_not]
  split <;> rfl

/-- **A granted run reads what it boxes**, finds the preloaded numbers, and takes a slot for each
of the others; by induction on the numbers. -/
theorem Layout.readEach_granted (h : Layout a s earlier refs) (ht : table.Filled s)
    (granted : memory (8 * a.pageCapacity) = true) (ns : List Binary64) {m : Nat}
    (hm : m + ns.countP table.finds = refs.length + ns.length) (yields : Yields a.pageCapacity m)
    (fits : m < UInt64.size) :
    ∃ a' s' earlier' refs',
      a.readEach table memory ns s = .ok (.ok (readsOf table ns, a')) s' ∧
      (∀ t, Tally.run table memory ns a t s =
        .ok (.ok ((readsOf table ns).foldl Tally.add t, a')) s') ∧
      a'.pageCapacity = a.pageCapacity ∧ Layout a' s' earlier' refs' ∧ refs'.length = m := by
  induction ns generalizing a s earlier refs with
  | nil => exact ⟨a, s, earlier, refs, rfl, fun _ => rfl, rfl, h, hm.symm⟩
  | cons n rest ih =>
    have hle : rest.countP table.finds ≤ rest.length := List.countP_le_length
    have hone := length_of_hit memory ht n refs.length
    rw [List.length_cons, List.countP_cons] at hm
    obtain ⟨r, a₁, s₁, earlier₁, refs₁, hbox, hcap₁, h₁, hlen₁, hserved⟩ :=
      h.serve_granted ht (q := ⟨.box, n, memory⟩) granted (yields.mono (by omega)) (by omega)
    have ht₁ := ht.of_grows ((keeps_serve table ⟨.box, n, memory⟩ a).of_ok hbox h.ready.store).2
    have hcanonical := hserved.isCanonical_eq ht₁
    obtain ⟨a', s', earlier', refs', hreads, hrun, hcap', h', hlen'⟩ :=
      ih h₁ ht₁ (by rw [hcap₁]; exact granted) (by omega) (by rw [hcap₁]; exact yields)
    refine ⟨a', s', earlier', refs', ?_, fun t => ?_, hcap'.trans hcap₁, h', hlen'⟩
    · rw [readEach_of_reads hbox hserved.reads, map_of_ok hreads, hcanonical]
      rfl
    · rw [Tally.run_of_reads hbox hserved.reads, hrun, hcanonical]
      rfl

/-- **A granted run that wants more slots than the arena yields ends in a fault**, by induction on
the numbers. -/
theorem Layout.readEach_overfilled (h : Layout a s earlier refs) (ht : table.Filled s)
    (granted : memory (8 * a.pageCapacity) = true) (ns : List Binary64) {m : Nat}
    (hm : m + ns.countP table.finds = refs.length + ns.length)
    (yields : Yields a.pageCapacity refs.length) (beyond : ¬ Yields a.pageCapacity m) :
    ∃ s', a.readEach table memory ns s = .error (.overflow .add) s' ∧
      ∀ t, Tally.run table memory ns a t s = .error (.overflow .add) s' := by
  induction ns generalizing a s earlier refs with
  | nil =>
    rw [show m = refs.length from hm] at beyond
    exact absurd yields beyond
  | cons n rest ih =>
    have hone := length_of_hit memory ht n refs.length
    rw [List.length_cons, List.countP_cons] at hm
    rcases h.granted_or_overfilled ht (q := ⟨.box, n, memory⟩) granted yields beyond with
      ⟨r, a₁, s₁, earlier₁, refs₁, hbox, hcap₁, h₁, hlen₁, hyields, hserved⟩ | hbox
    · have hgrows := ((keeps_serve table ⟨.box, n, memory⟩ a).of_ok hbox h.ready.store).2
      obtain ⟨s', hreads, hrun⟩ := ih h₁ (ht.of_grows hgrows) (by rw [hcap₁]; exact granted)
        (by omega) hyields (by rw [hcap₁]; exact beyond)
      refine ⟨s', ?_, fun t => ?_⟩
      · rw [readEach_of_reads hbox hserved.reads, map_of_error hreads]
      · rw [Tally.run_of_reads hbox hserved.reads, hrun]
    · exact ⟨s, readEach_of_error hbox rest, fun t => Tally.run_of_error hbox rest⟩

/-- **A granted run in a new arena**, and the counters that it leaves. -/
theorem readEach_of_new (h : Layout a s [] []) (ht : table.Filled s)
    (granted : memory (8 * a.pageCapacity) = true) (ns : List Binary64)
    (yields : Yields a.pageCapacity (ns.length - ns.countP table.finds))
    (fits : ns.length < UInt64.size) :
    ∃ a' s', a.readEach table memory ns s = .ok (.ok (readsOf table ns, a')) s' ∧
      Tally.run table memory ns a Tally.start s =
        .ok (.ok (⟨ns.foldl Binary64.add .zero, ns.countP table.finds⟩, a')) s' ∧
      ns.countP table.finds + (a'.stats s').slotsAllocated = ns.length ∧
      (a'.stats s').pagesAllocated =
        max 1 (((a'.stats s').slotsAllocated + a.pageCapacity - 1) / a.pageCapacity) := by
  have hle : ns.countP table.finds ≤ ns.length := List.countP_le_length
  obtain ⟨a', s', earlier, refs, hreads, hrun, hcap, h', hlen⟩ :=
    h.readEach_granted ht granted ns (by rw [List.length_nil]; omega) yields (by omega)
  obtain ⟨-, hslots, hpages, -⟩ := h'.laidOut
  refine ⟨a', s', hreads, ?_, ?_, ?_⟩
  · rw [hrun, foldl_readsOf, Tally.start, Nat.zero_add]
  · rw [hslots]
    omega
  · rw [hpages, hslots, hcap]

theorem readEach_of_new_overfilled (h : Layout a s [] []) (ht : table.Filled s)
    (granted : memory (8 * a.pageCapacity) = true) (ns : List Binary64)
    (beyond : ¬ Yields a.pageCapacity (ns.length - ns.countP table.finds)) :
    ∃ s', a.readEach table memory ns s = .error (.overflow .add) s' ∧
      ∀ t, Tally.run table memory ns a t s = .error (.overflow .add) s' := by
  have hle : ns.countP table.finds ≤ ns.length := List.countP_le_length
  exact h.readEach_overfilled ht granted ns (by rw [List.length_nil]; omega)
    (.inr (Nat.zero_le _)) beyond

end Arena

/-! ## Workloads -/

namespace Workload

open Arena (Yields)

/-- The number is a half step `k + 0.5` with `k` below `2 ^ 20`, and the table has no entry for
it. -/
def Misses (t : PreloadTable) (n : Binary64) : Prop :=
  t.finds n = false ∧ ∃ k, k < 2 ^ 20 ∧ n.HalfStep k

/-- What a table has for a number of a workload, by the words that the number is made from. -/
def Suits (t : PreloadTable) : Workload → (Nat → UInt32) → Binary64 → Prop
  | smallIntegers, _, n => t.finds n = true
  | fractional, _, n => Misses t n
  | mixed hitPercent, words, n => (t.finds n = true ↔ words 0 % 100 < hitPercent) ∧
      (t.finds n = true ∨ Misses t n)

variable {t : PreloadTable} {s : Store}

theorem misses_halfStep (ht : t.Filled s) (x : UInt32) : Misses t (halfStep x) := by
  refine ⟨?_, _, (halfStep_of_word x).2, (halfStep_of_word x).1⟩
  rw [← Bool.not_eq_true, ht.finds_iff]
  exact not_preloaded_halfStep x

/-- **Each number suits its workload.** -/
theorem suits_make (ht : t.Filled s) (load : Workload) (words : Nat → UInt32) :
    load.Suits t words (load.make words) := by
  cases load with
  | smallIntegers => exact ht.finds_iff.2 (preloaded_smallInteger (words 0))
  | fractional => exact misses_halfStep ht (words 0)
  | mixed hitPercent =>
    refine ⟨ht.finds_iff.trans preloaded_mix_iff, ?_⟩
    by_cases hfirst : words 0 % 100 < hitPercent
    · exact .inl (ht.finds_iff.2 (preloaded_mix_iff.2 hfirst))
    · rw [make, mix, if_neg hfirst]
      exact .inr (misses_halfStep ht (words 1))

section
variable {σ : Type} (next : StateM σ UInt32)

theorem countP_smallIntegers (ht : t.Filled s) (len : Nat) (source : σ) :
    (smallIntegers.numbers next len source).1.countP t.finds = len := by
  rw [numbers_eq, List.countP_map, List.countP_eq_length.2, List.length_range]
  intro i _
  rw [Function.comp_apply, ht.finds_iff]
  exact preloaded_smallInteger _

theorem countP_fractional (ht : t.Filled s) (len : Nat) (source : σ) :
    (fractional.numbers next len source).1.countP t.finds = 0 := by
  rw [numbers_eq, List.countP_map, List.countP_eq_zero]
  intro i _
  rw [Function.comp_apply, ht.finds_iff]
  exact not_preloaded_halfStep _

/-- **Boxing a workload and keeping nothing.** Whatever the words of the stream are, each number of
a workload suits it. Box the numbers in a new arena with pages of any valid capacity, all pages
granted, read each at once and forget its reference. If the arena yields a slot for each number that
is no hit, what is read is what was generated, and the references are canonical exactly where the
table has the number. The hits and the slots make up the length; small integers take no slot, and
fractional numbers nothing else; and the pages are as few as hold the slots. Otherwise it ends in a
fault. -/
theorem boxed_and_forgotten_if_yielded {w : World} (hw : w.Reachable) (load : Workload) (len : Nat)
    (source : σ) :
    (load.numbers next len source).1.length = len ∧
    (∀ i, i < len → ∃ n, (load.numbers next len source).1[i]? = some n ∧
      load.Suits w.table (fun j => word next source (i * load.width + j)) n) ∧
    ∀ (c : Nat) (memory : Memory), 1 ≤ c → c ≤ ArenaConfig.maxPageCapacity →
      memory (8 * c) = true → len < UInt64.size →
      ∃ a s hits, Arena.new c w.store = .ok a s ∧
        hits = (load.numbers next len source).1.countP w.table.finds ∧
        (Yields c (len - hits) → ∃ a' s' slots,
          Arena.readEach w.table memory (load.numbers next len source).1 a s =
            .ok (.ok ((load.numbers next len source).1.map fun n => (n, w.table.finds n), a')) s' ∧
          Tally.runNew w.table memory ⟨c⟩ (load.numbers next len source).1 w.store =
            .ok (.ok (⟨(load.numbers next len source).1.foldl Binary64.add .zero, hits⟩, a')) s' ∧
          slots = (a'.stats s').slotsAllocated ∧ hits + slots = len ∧
          (load = smallIntegers → slots = 0) ∧ (load = fractional → slots = len) ∧
          (a'.stats s').pagesAllocated = max 1 ((slots + c - 1) / c)) ∧
        (¬ Yields c (len - hits) → ∃ s',
          Arena.readEach w.table memory (load.numbers next len source).1 a s =
            .error (.overflow .add) s' ∧
          Tally.runNew w.table memory ⟨c⟩ (load.numbers next len source).1 w.store =
            .error (.overflow .add) s') := by
  have ht := hw.filled
  refine ⟨length_numbers next load len source, fun i hi =>
    ⟨_, getElem?_numbers next load hi source, suits_make ht load _⟩, ?_⟩
  intro c memory hc hc' granted hlen
  have hlength := length_numbers next load len source
  have valid : ArenaConfig.validate ⟨c⟩ = .ok () :=
    ArenaConfig.validate_eq_ok_iff.2 ⟨hc, Nat.lt_succ_of_le hc'⟩
  obtain ⟨a, s, hnew, hconfig, hcap, hlayout, ht'⟩ := World.layout_of_new hw valid
  have hrunNew : Tally.runNew w.table memory ⟨c⟩ (load.numbers next len source).1 w.store =
      Tally.run w.table memory (load.numbers next len source).1 a Tally.start s :=
    bind_of_ok (hconfig memory granted)
  rw [← hcap] at granted
  refine ⟨a, s, _, hnew, rfl, fun yields => ?_, fun beyond => ?_⟩
  · obtain ⟨a', s', hreads, hrun, hcount, hpages⟩ := Arena.readEach_of_new hlayout ht' granted
      (load.numbers next len source).1 (by rw [hlength, hcap]; exact yields)
      (by rw [hlength]; exact hlen)
    rw [hlength] at hcount
    rw [hcap] at hpages
    refine ⟨a', s', _, hreads, hrunNew.trans hrun, rfl, hcount, fun hload => ?_, fun hload => ?_,
      hpages⟩
    · rw [hload, countP_smallIntegers next ht] at hcount
      omega
    · rw [hload, countP_fractional next ht] at hcount
      omega
  · obtain ⟨s', hreads, hrun⟩ := Arena.readEach_of_new_overfilled hlayout ht' granted
      (load.numbers next len source).1 (by rw [hlength, hcap]; exact beyond)
    exact ⟨s', hreads, hrunNew.trans (hrun _)⟩

end

/-- Three numbers, a half of which are hits on average, on pages of two slots. -/
theorem boxed_and_forgotten_of_seed :
    ∃ (w : World) (a : Arena) (s : Store) (hits slots : Nat), w.Reachable ∧
      Tally.runNew w.table (.upTo 16) ⟨2⟩ ((mixed 50).ofSeed 3 1) w.store =
        .ok (.ok (⟨((mixed 50).ofSeed 3 1).foldl Binary64.add .zero, hits⟩, a)) s ∧
      hits + slots = 3 ∧ (a.stats s).slotsAllocated = slots ∧
      (a.stats s).pagesAllocated = max 1 ((slots + 1) / 2) := by
  obtain ⟨w, hw⟩ := World.exists_reachable
  obtain ⟨-, -, hboxed⟩ :=
    boxed_and_forgotten_if_yielded KeyStream.next hw (mixed 50) 3 (KeyStream.ofSeed 1)
  obtain ⟨a₀, s₀, hits, -, -, hyielded, -⟩ :=
    hboxed 2 (.upTo 16) (by decide) (by decide) (by decide) (by decide)
  obtain ⟨a, s, slots, -, hrun, hslots, hcount, -, -, hpages⟩ := hyielded (.inl (by decide))
  exact ⟨w, a, s, hits, slots, hw, hrun, hcount, hslots.symm, hpages⟩

/-- One half step more than a page of the greatest size holds: the first page is never left, though
another one would be granted. -/
theorem workload_breaks_on_the_greatest_page : ∃ (w : World) (s : Store), w.Reachable ∧
    Tally.runNew w.table (.upTo (8 * ArenaConfig.maxPageCapacity)) ⟨ArenaConfig.maxPageCapacity⟩
      (fractional.ofSeed (ArenaConfig.maxPageCapacity + 1) 1) w.store =
        .error (.overflow .add) s := by
  obtain ⟨w, hw⟩ := World.exists_reachable
  obtain ⟨a, s, -, hconfig, hcap, hlayout, ht⟩ :=
    World.layout_of_new hw (c := ArenaConfig.maxPageCapacity) (by decide)
  have granted : Memory.upTo (8 * ArenaConfig.maxPageCapacity) (8 * a.pageCapacity) = true := by
    rw [hcap]
    exact decide_eq_true (Nat.le_refl _)
  have hover {len : Nat} (hlen : a.pageCapacity < len) : ∃ s',
      Tally.run w.table (.upTo (8 * ArenaConfig.maxPageCapacity)) (fractional.ofSeed len 1) a
        Tally.start s = .error (.overflow .add) s' := by
    have hlength : (fractional.ofSeed len 1).length = len := length_numbers _ _ _ _
    have hmisses : (fractional.ofSeed len 1).countP w.table.finds = 0 :=
      countP_fractional KeyStream.next hw.filled len _
    obtain ⟨s', -, hrun⟩ := Arena.readEach_of_new_overfilled hlayout ht granted
      (fractional.ofSeed len 1) (by
        rw [hlength, hmisses, hcap]
        exact Arena.not_yields_of_lt (hcap ▸ hlen))
    exact ⟨s', hrun _⟩
  obtain ⟨s', hrun⟩ := hover (Nat.lt_succ_of_le (Nat.le_of_eq hcap))
  rw [hcap] at granted
  exact ⟨w, s', hw, (bind_of_ok (hconfig _ granted)).trans hrun⟩

end Workload

end Boxing
