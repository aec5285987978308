import Boxing.Proofs.World.Tenure
import Boxing.Report.Outline

/-!
# Which calls end in a fault

In a world that a program reaches, a call ends in a fault if and only if it breaks a rule
(`Call.BreaksRule`) or overfills a page (`Call.Overfills`), as long as the counters of the arenas
have room, and everything that can be asked of the objects is answered (`World.Answers`,
`faults_iff_breaksRule_or_overfills`). Only a page of the greatest size can be overfilled
(`Call.Overfills.greatest`), but then a request that breaks no rule ends in a fault
(`allocate_faults_on_the_greatest_page`).
-/

set_option autoImplicit false

namespace Boxing

/-- The action ends in a fault. -/
def World.Faults {α : Type} (act : WorldM α) (w : World) : Prop :=
  ∃ f w', act w = .error (.fault f) w'

theorem World.faults_iff {α : Type} {act : WorldM α} {w : World} :
    Faults act w ↔ (faultOf (act w)).isSome = true := by
  constructor
  · rintro ⟨f, w', h⟩
    rw [h]
    rfl
  · intro h
    rcases hact : act w with a | ⟨f, w'⟩
    · rw [hact] at h
      cases h
    · rw [hact] at h
      cases f <;> first | exact ⟨_, _, hact⟩ | cases h

/-- As long as its counters have room, an arena answers every request but those that overfill its
page. -/
theorem Arena.Ready.fault_iff {table : PreloadTable} {a : Arena} {s : Store} (h : Ready a s)
    (ht : table.Filled s) (slots : a.slotsAllocated + 1 < UInt64.size)
    (pages : a.pagesAllocated + 1 < UInt64.size) (q : Request) :
    (∃ f, (a.respond table q s).answer = .error f) ↔ q.WantsSlot ∧ a.Spent s := by
  by_cases hw : q.WantsSlot
  · have hrolled : (a.rolled s).slotsAllocated + 1 < UInt64.size := slots
    rw [h.respond_eq hw, given, given, if_pos pages, if_pos slots, if_pos hrolled]
    split
    · rename_i room
      simp [h.not_spent_of_room room]
    · split
      · rename_i spent
        simp [hw, spent]
      · rename_i unspent
        split <;> simp [unspent]
  · obtain ⟨r, -, hrespond⟩ := respond_of_shared (a := a) ht hw
    rw [hrespond]
    simp [hw]

namespace Call

theorem not_doomed_of_arenaMade {memory : Memory} {call : Call} {c : Nat}
    (h : call.arenaMade memory = some c) (w : World) : ¬ call.Doomed w := by
  cases call with
  | newArena c' =>
    have hc : c' = c ∧ 0 < c' ∧ c' < UInt32.size := by
      simpa [arenaMade, and_comm] using h
    simp only [Doomed, BreaksRule, Overfills, or_false, ArenaConfig.maxPageCapacity]
    unfold UInt32.size at hc
    omega
  | configureArena _ | standardArena => exact not_or.2 ⟨id, id⟩
  | _ => cases h

/-- A page that is overfilled is full and has the greatest size. -/
theorem Overfills.greatest {w : World} {call : Call} (h : call.Overfills w)
    (hs : w.store.WellFormed) : ∃ id, (w.store.page id).capacity = ArenaConfig.maxPageCapacity ∧
      (w.store.page id).len = ArenaConfig.maxPageCapacity := by
  obtain ⟨id, spent⟩ : ∃ id, (w.store.page id).Spent := by
    cases call with
    | push _ _ | number _ _ =>
      obtain ⟨p, -, spent⟩ := h
      exact ⟨p.id, spent⟩
    | mint _ _ _ =>
      obtain ⟨-, a, -, spent⟩ := h
      exact ⟨a.current, spent⟩
    | _ => cases h
  have hlen := (hs id).len_le
  have hcap := (hs id).capacity_lt
  have hspent : UInt32.size ≤ (w.store.page id).len + 1 := spent
  refine ⟨id, ?_, ?_⟩ <;> (unfold ArenaConfig.maxPageCapacity; unfold UInt32.size at *; omega)

end Call

namespace World

/-- Everything that can be asked of the objects in the world is answered: reading any slot that was
handed out, the room on any page, the entry of any number, and all that can be seen of live values
and of arenas. -/
structure Answers (w : World) : Prop where
  read : ∀ id slot, (∃ n, (w.store.page id).get slot = .ok n) ↔ slot < (w.store.page id).len
  remaining : ∀ id, ∃ m, (w.store.page id).remaining = .ok m
  isFull : ∀ id, ∃ b, (w.store.page id).isFull = .ok b
  entry : ∀ n, ∃ found, w.table.get? n = .ok found
  lookup : ∀ n, ∃ found, w.table.lookup n = .ok found
  value : ∀ {i v}, w.values.content? i = some v → ∃ n state whole ref,
    v.number? w.store = .ok n ∧ v.state? w.store = .ok state ∧ v.outline w.store = .ok whole ∧
      v.refOutline w.store = .ok ref
  arena : ∀ {i a}, w.arenas.content? i = some a → ∃ state, a.state w.store = .ok state

end World

namespace World

variable {w : World}

theorem Reachable.sound (hw : w.Reachable) : ∃ l, Sound w l := by
  obtain ⟨calls, w₀, hstart, rfl⟩ := hw.exists_calls
  obtain ⟨w₁, hstart', hsound⟩ := Sound.start
  rw [hstart] at hstart'
  cases hstart'
  exact ⟨_, hsound.run calls⟩

/-- **All observations of a reachable world are answered.** -/
theorem Reachable.answers (hw : w.Reachable) : w.Answers := by
  obtain ⟨owners, htenure⟩ := hw.tenure
  obtain ⟨l, hsound⟩ := hw.sound
  have hs := htenure.store
  have hget (n : Binary64) : ∃ found, w.table.get? n = .ok found := by
    by_cases hp : Preloaded n
    · obtain ⟨r, hr⟩ := htenure.table.exists_entry hp
      exact ⟨_, hr⟩
    · exact ⟨_, w.table.get?_of_not_preloaded hp⟩
  have hread {i : Nat} {r : NumberRef} (hr : w.values.content? i = some (.number r)) :
      ∃ n, r.get w.store = .ok n := by
    obtain ⟨b, hb, rfl⟩ := hsound.live hr
    exact ⟨_, hsound.valid.reads ⟨i, hb⟩⟩
  constructor
  case read =>
    intro id slot
    constructor
    · rintro ⟨n, hn⟩
      exact (Page.get_eq_ok_iff.1 hn).1
    · exact (hs id).get_of_lt
  case remaining => exact fun id => ⟨_, (hs id).remaining⟩
  case isFull =>
    intro id
    rw [Page.isFull, (hs id).remaining]
    exact ⟨_, rfl⟩
  case entry => exact hget
  case lookup =>
    intro n
    obtain ⟨found, hfound⟩ := hget n
    exact ⟨_, (lookup_of_get hfound).1⟩
  case value =>
    intro i v hv
    rcases v with _ | b | r
    · exact ⟨_, _, _, _, rfl, rfl, rfl, rfl⟩
    · exact ⟨_, _, _, _, rfl, rfl, rfl, rfl⟩
    · obtain ⟨n, hn⟩ := hread hv
      have hstate := NumberRef.state_of_get hn
      obtain ⟨o, ho⟩ : ∃ o, r.outline w.store = .ok o := by
        rw [NumberRef.outline, hn]
        exact ⟨_, rfl⟩
      refine ⟨some n, some ⟨n, r.slot, r.isCanonical⟩, .wrapped "Number" o, optionOutline o, ?_, ?_,
        ?_, ?_⟩
      · simp only [Value.number?, Value.ref?, hn]
        rfl
      · simp only [Value.state?, Value.ref?, hstate]
        rfl
      · simp only [Value.outline, ho]
        rfl
      · simp only [Value.refOutline, Value.ref?, ho]
        rfl
  case arena =>
    intro i a ha
    have hremaining := (hs a.current).remaining
    exact ⟨_, by simp [Arena.state, Arena.currentPageRemaining, hremaining]; rfl⟩

/-- **A call ends in a fault if and only if it breaks a rule or overfills a page.** Take any world
that a program reaches, in which no arena has given so many slots or made so many pages that one
more could not be counted. A call with any arguments ends in a fault exactly if it asks for an arena
of a capacity that is `0` or too great, reads a slot that was not handed out, asks for the bytes of
a page that has too many, or wants a slot of a spent page, which is a full one of the greatest
size. The table is built, and everything that can be asked of the objects is answered. -/
theorem faults_iff_breaksRule_or_overfills (hw : w.Reachable)
    (room : ∀ i a, w.arenas.content? i = some a →
      a.slotsAllocated + 1 < UInt64.size ∧ a.pagesAllocated + 1 < UInt64.size) :
    (∀ call memory, Faults (Call.perform memory call) w ↔ call.BreaksRule w ∨ call.Overfills w) ∧
      (∀ call, Call.Overfills w call → ∃ id,
        (w.store.page id).capacity = ArenaConfig.maxPageCapacity ∧
        (w.store.page id).len = ArenaConfig.maxPageCapacity) ∧
      w.Answers ∧ ∃ w₀, start = .ok w₀ := by
  obtain ⟨owners, h⟩ := hw.tenure
  refine ⟨fun call memory => ?_, fun call hover => hover.greatest h.store, hw.answers, ?_⟩
  · rw [faults_iff]
    have hacts := call.acts memory h.store h.table
    generalize faultOf (call.perform memory w) = fault at hacts
    generalize call.after memory w = w' at hacts
    cases hacts with
    | still hfault _ _ _ _ => exact hfault
    | arenaMade hmade _ _ _ =>
      exact iff_of_false Bool.false_ne_true (Call.not_doomed_of_arenaMade hmade w)
    | pageMade hsafe _ _ _ _ => exact iff_of_false Bool.false_ne_true hsafe
    | pushed hsafe _ _ _ _ _ _ => exact iff_of_false Bool.false_ne_true hsafe
    | @served i a mode n r _ _ hcall ha hr hfault _ _ _ =>
      obtain ⟨slots, pages⟩ := room i a ha
      rw [hfault, ← hr, (h.steady ha).fault_iff h.table slots pages, hcall]
      simp [Call.BreaksRule, Call.Overfills, Request.WantsSlot, ha]
    | arenaDropped hcall _ _ _ => simp [hcall, Call.BreaksRule, Call.Overfills]
  · obtain ⟨calls, w₀, hstart, -⟩ := hw.exists_calls
    exact ⟨w₀, hstart⟩

theorem Opened.room_of_content {c m : Nat} {w : World} {a : Arena} (h : Opened c m w a)
    (hm : m ≤ c) : ∀ i b, w.arenas.content? i = some b →
      b.slotsAllocated + 1 < UInt64.size ∧ b.pagesAllocated + 1 < UInt64.size := by
  intro i b hb
  rw [h.eq_of_content hb]
  exact h.room hm

/-- Beside a new arena: no arena of no slots can be made, but a number is boxed. -/
theorem faults_beside_a_new_arena : ∃ w, w.Reachable ∧
    (∀ i a, w.arenas.content? i = some a →
      a.slotsAllocated + 1 < UInt64.size ∧ a.pagesAllocated + 1 < UInt64.size) ∧
    Faults ((Call.newArena 0).perform .exhausted) w ∧
    ¬ Faults ((Call.mint 0 .box .nan).perform .exhausted) w ∧
    Faults ((Call.pageBytes (2 ^ 61)).perform .exhausted) w ∧
    ¬ Faults ((Call.pageBytes (2 ^ 61 - 1)).perform .exhausted) w := by
  obtain ⟨w, a, h⟩ := exists_opened (c := 2) (by decide)
  have room := h.room_of_content (by decide)
  have hiff := (faults_iff_breaksRule_or_overfills h.reachable room).1
  have unspent : ¬ a.Spent w.store :=
    h.ready.not_spent_of_lt (by rw [h.pageCapacity]; decide)
  refine ⟨w, h.reachable, room, (hiff _ _).2 (.inl (.inl rfl)), ?_,
    (hiff _ _).2 (.inl (show UInt64.size ≤ 8 * 2 ^ 61 by decide)), ?_⟩
  · rw [hiff]
    rintro (hrule | ⟨-, b, hb, spent⟩)
    · exact hrule
    · rw [h.eq_of_content hb] at spent
      exact unspent spent
  · rw [hiff]
    rintro (hrule | hover)
    · exact absurd hrule (show ¬ UInt64.size ≤ 8 * (2 ^ 61 - 1) by decide)
    · exact hover

/-- The first page of an arena is full and has the greatest size. To allocate a number breaks no
rule, but it ends in a fault, whatever memory there is. -/
theorem allocate_faults_on_the_greatest_page : ∃ w, w.Reachable ∧
    (∀ i a, w.arenas.content? i = some a →
      a.slotsAllocated + 1 < UInt64.size ∧ a.pagesAllocated + 1 < UInt64.size) ∧
    ∀ n memory, ¬ (Call.mint 0 .allocate n).BreaksRule w ∧
      Faults ((Call.mint 0 .allocate n).perform memory) w := by
  obtain ⟨w, a, h⟩ := exists_filled (c := ArenaConfig.maxPageCapacity) (by decide)
  have spent : a.Spent w.store := by
    rw [h.ready.spent_iff, h.len, h.pageCapacity]
    exact ⟨rfl, rfl⟩
  refine ⟨w, h.reachable, h.room_of_content (Nat.le_refl _), fun n memory => ⟨id, ?_⟩⟩
  rw [faults_iff, (Call.after_mint (mint_eq h.content memory .allocate n)).1]
  have hserve := h.ready.allocate_of_spent spent memory n
  rw [Arena.respond_of_error (q := ⟨.allocate, n, memory⟩) hserve]
  rfl

end World

end Boxing
