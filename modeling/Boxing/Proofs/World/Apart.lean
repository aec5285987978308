import Boxing.Proofs.Arena.Twin
import Boxing.Proofs.World.Tenure
import Mathlib.Data.List.Forall2

/-!
# Arenas do not interfere

`World.diary` notes what the requests to the arena in one register are answered in a program, and
`World.alone` is the program without all other calls, in which this arena is the only one. The two
programs run side by side: in the worlds that they reach, the arena is a twin of itself
(`World.Mirrors`), a call that concerns it keeps the twins (`Mirrors.step`), and any other call
leaves its page alone. So the diaries are the same, up to the places of the pages
(`Mirrors.run`).

What is on the pages of different owners is apart (`Entry.Told`). `arenas_apart` puts both together.
-/

set_option autoImplicit false

namespace Boxing

/-- What came of a request to an arena. -/
structure Entry where
  number : Binary64
  ref : Except Failure NumberRef
  /-- What the reference shows, or why there is none. -/
  shown : Except Failure NumberState
  /-- The counters of the arena afterwards, if there is an arena. -/
  stats : Option ArenaStats

namespace Entry

/-- All of an entry but the place of the page. -/
def seen (e : Entry) : Binary64 × Except Failure NumberState × Option ArenaStats :=
  (e.number, e.shown, e.stats)

/-- Both requests were answered with slots of one page. -/
def samePage (e f : Entry) : Bool :=
  match e.ref, f.ref with
  | .ok r, .ok q => r.samePage q
  | _, _ => false

def sharing (entries : List Entry) : List (List Bool) :=
  entries.map fun e => entries.map e.samePage

end Entry

namespace World

/-- The entry of a request that ended so. -/
def entry (i : Nat) (n : Binary64) : EStateM.Result Failure World NumberRef → Entry
  | .ok r w => ⟨n, .ok r, (r.state w.store).mapError .fault,
      (w.arenas.content? i).map (·.stats w.store)⟩
  | .error f w => ⟨n, .error f, .error f, (w.arenas.content? i).map (·.stats w.store)⟩

/-- The entry of a call, if it is a request to the arena in register `i`. -/
def noted (i : Nat) (memory : Memory) (w : World) : Call → List Entry
  | .mint j mode n => if j = i then [entry i n (mint memory i mode n w)] else []
  | _ => []

/-- What came of the requests to the arena in register `i`, in order. -/
def diary (i : Nat) : List (Call × Memory) → World → List Entry
  | [], _ => []
  | (call, memory) :: rest, w => noted i memory w call ++ diary i rest (call.after memory w)

/-- A call that concerns the arena in register `i`, for a program without other arenas, when there
are `made` registers of arenas so far. -/
def ownCall (i made : Nat) : Call → Option Call
  | .mint j mode n => if j = i then some (.mint 0 mode n) else none
  | .dropArena j => if j = i then some (.dropArena 0) else none
  | .newArena c => if made = i then some (.newArena c) else none
  | .configureArena c => if made = i then some (.configureArena c) else none
  | .standardArena => if made = i then some .standardArena else none
  | _ => none

/-- The calls that concern the arena in register `i`, for a program without other arenas. -/
def alone (i : Nat) : Nat → List (Call × Memory) → List (Call × Memory)
  | _, [] => []
  | made, (call, memory) :: rest =>
    ((ownCall i made call).map (·, memory)).toList ++
      alone i (if call.makesArena then made + 1 else made) rest

/-- The call does not concern the arena in register `i`, of `made` that there are so far. -/
structure Foreign (i made : Nat) (call : Call) : Prop where
  mint : ∀ mode n, call ≠ .mint i mode n
  drop : call ≠ .dropArena i
  make : call.makesArena = true → i ≠ made

theorem ownCall_of_foreign {i made : Nat} {call : Call} (h : Foreign i made call) :
    ownCall i made call = none := by
  cases call with
  | mint j mode n =>
    refine if_neg fun hj => ?_
    subst hj
    exact h.mint mode n rfl
  | dropArena j =>
    refine if_neg fun hj => ?_
    subst hj
    exact h.drop rfl
  | newArena c | configureArena c | standardArena => exact if_neg (h.make rfl).symm
  | _ => rfl

theorem noted_of_foreign {i made : Nat} {call : Call} (h : Foreign i made call) (memory : Memory)
    (w : World) : noted i memory w call = [] := by
  cases call with
  | mint j mode n =>
    refine if_neg fun hj => ?_
    subst hj
    exact h.mint mode n rfl
  | _ => rfl

theorem ownCall_of_makesArena {made : Nat} {call : Call} (h : call.makesArena = true) :
    ownCall made made call = some call := by
  cases call <;> first | exact if_pos rfl | cases h

theorem diary_append (i : Nat) (first rest : List (Call × Memory)) (w : World) :
    diary i (first ++ rest) w = diary i first w ++ diary i rest (afterAll first w) := by
  induction first generalizing w with
  | nil => rfl
  | cons head more ih =>
    rw [List.cons_append, diary, diary, ih, List.append_assoc]
    rfl

end World

/-! ## Twins in two programs -/

/-- The entries tell the same, up to the places of the pages. -/
structure Entry.Alike (M : PageId → PageId → Prop) (e f : Entry) : Prop where
  seen : e.seen = f.seen
  ref : Boxing.Alike M e.ref f.ref

theorem Entry.Alike.mono {M M' : PageId → PageId → Prop} (hM : ∀ {p q}, M p q → M' p q)
    {e f : Entry} (h : Entry.Alike M e f) : Entry.Alike M' e f := ⟨h.seen, h.ref.mono hM⟩

namespace World

/-- The arena in register `i` of the world `w` is the arena of the world `v`. -/
structure Mirrors (i : Nat) (M : PageId → PageId → Prop) (w v : World) : Prop where
  pairs : Pairs M w.store v.store
  half : ∀ half : Half, M half.page.id half.page.id
  table : v.table = w.table
  size : v.arenas.size = if i < w.arenas.size then 1 else 0
  arena : (w.arenas.content? i = none ∧ v.arenas.content? 0 = none) ∨
    ∃ a b, w.arenas.content? i = some a ∧ v.arenas.content? 0 = some b ∧
      Arena.Twin M a w.store b v.store

theorem entry_ended (i : Nat) (n : Binary64) (result : Except Failure NumberRef) (w : World) :
    entry i n (ended result w) = ⟨n, result,
      result.bind fun r => (r.state w.store).mapError .fault,
      (w.arenas.content? i).map (·.stats w.store)⟩ := by
  cases result <;> rfl

theorem entry_alike {M : PageId → PageId → Prop} {w v : World} {i : Nat} {n : Binary64}
    {x y : Arena.Response} (hx : (w.settled i x).arenas.content? i = some x.arena)
    (hy : (v.settled 0 y).arenas.content? 0 = some y.arena)
    (hstats : y.arena.stats y.store = x.arena.stats x.store) (h : Alike M x.result y.result)
    (hread : ∀ {r}, x.result = .ok r → r.get x.store = .ok n)
    (hread' : ∀ {r}, y.result = .ok r → r.get y.store = .ok n) :
    Entry.Alike M (entry i n (ended x.result (w.settled i x)))
      (entry 0 n (ended y.result (v.settled 0 y))) := by
  rw [entry_ended, entry_ended, hx, hy]
  refine ⟨?_, h⟩
  show (n, _, some (x.arena.stats x.store)) = (n, _, some (y.arena.stats y.store))
  rw [hstats]
  generalize x.result = answer at *
  generalize y.result = answer' at *
  cases h with
  | error f => rfl
  | @ok r q hpage hlife hslot =>
    have hstate := NumberRef.state_of_get (hread rfl)
    have hstate' := NumberRef.state_of_get (hread' rfl)
    have hcanon : q.isCanonical = r.isCanonical := by
      rw [NumberRef.isCanonical, hlife, NumberRef.isCanonical]
    simp only [Except.bind, settled, hstate, hstate', hslot, hcanon]

/-- Twins are left in these worlds, with all pages that stood for one another, and what was noted
on the way tells the same. -/
def Kept (i : Nat) (M : PageId → PageId → Prop) (w v : World) (entries entries' : List Entry) :
    Prop :=
  ∃ M', (∀ {p q}, M p q → M' p q) ∧ Mirrors i M' w v ∧
    List.Forall₂ (Entry.Alike M') entries entries'

theorem Kept.append {i : Nat} {M : PageId → PageId → Prop} {w w' v v' : World}
    {first first' rest rest' : List Entry} (h : Kept i M w v first first')
    (h' : ∀ {M'}, Mirrors i M' w v → Kept i M' w' v' rest rest') :
    Kept i M w' v' (first ++ rest) (first' ++ rest') := by
  obtain ⟨M₁, hM₁, hmirrors, hfirst⟩ := h
  obtain ⟨M₂, hM₂, hmirrors', hrest⟩ := h' hmirrors
  refine ⟨M₂, fun hpq => hM₂ (hM₁ hpq), hmirrors', ?_⟩
  exact List.rel_append (hfirst.imp fun _ _ he => he.mono hM₂) hrest

namespace Mirrors

variable {i : Nat} {M : PageId → PageId → Prop} {w v : World} {owners owners' : List (Option Nat)}

theorem foreign (h : Mirrors i M w v) (hw : Tenure w owners) {call : Call}
    (hf : Foreign i w.arenas.size call) (memory : Memory) :
    Mirrors i M (call.after memory w) v := by
  obtain ⟨htable, hleads, -⟩ := call.effect memory hw.store hw.table
  obtain ⟨-, hgrows⟩ := hleads hw.store
  obtain ⟨hcontent, hpage⟩ := hw.frame call memory hf.mint hf.drop hf.make
  refine ⟨h.pairs.mono hgrows.size (Nat.le_refl _), h.half, h.table.trans htable.symm, ?_, ?_⟩
  · rw [hw.size_arenas call memory, h.size]
    cases hmakes : call.makesArena with
    | true =>
      have := hf.make hmakes
      congr 1
      simp
      omega
    | false => simp
  · rw [hcontent]
    rcases h.arena with hnone | ⟨a, b, ha, hb, htwin⟩
    · exact .inl hnone
    · exact .inr ⟨a, b, ha, hb, htwin.frame id (hpage a ha) rfl⟩

section
variable (h : Mirrors i M w v) (hw : Tenure w owners) (hv : Tenure v owners') (memory : Memory)
include h hw hv

theorem table_after (call own : Call) :
    (own.after memory v).table = (call.after memory w).table := by
  rw [(own.effect memory hv.store hv.table).1, (call.effect memory hw.store hw.table).1, h.table]

theorem made {call : Call} (hmakes : call.makesArena = true) (hi : i = w.arenas.size) :
    Kept i M (call.after memory w) (call.after memory v) (noted i memory w call)
      (noted 0 memory v call) := by
  have hnoted (j : Nat) (u : World) : noted j memory u call = [] := by
    cases call <;> first | rfl | cases hmakes
  have hempty : v.arenas.size = 0 := by
    rw [h.size, if_neg (by omega)]
  have hsize : (call.after memory v).arenas.size =
      if i < (call.after memory w).arenas.size then 1 else 0 := by
    rw [hw.size_arenas, hv.size_arenas, hmakes, hempty, if_pos rfl, if_pos (by omega)]
  have htable := h.table_after hw hv memory call call
  rw [hnoted, hnoted]
  -- the memory alone decides, so both worlds have an arena or neither has
  rcases (call.acts memory hw.store hw.table).of_makesArena hmakes with
      ⟨hno, hstore, harenas⟩ | ⟨c, hmade, hstore, harenas⟩ <;>
    rcases (call.acts memory hv.store hv.table).of_makesArena hmakes with
      ⟨hno', hstore', harenas'⟩ | ⟨c', hmade', hstore', harenas'⟩
  · refine ⟨M, id, ⟨by rw [hstore, hstore']; exact h.pairs, h.half, htable, hsize, .inl ?_⟩, .nil⟩
    rw [harenas, harenas', Registers.content?_push, Registers.content?_push, if_pos hi,
      if_pos hempty.symm]
    exact ⟨rfl, rfl⟩
  · rw [hno] at hmade'
    cases hmade'
  · rw [hno'] at hmade
    cases hmade
  · obtain rfl : c = c' := Option.some.inj (hmade.symm.trans hmade')
    have htwin := Arena.Twin.of_made M c (Page.new (UInt32.ofNat c)) w.store v.store
    rw [← hstore, ← hstore'] at htwin
    refine ⟨Pairs.Next M w.store v.store, .inl, ⟨?_, fun half => .inl (h.half half), htable, hsize,
      .inr ⟨_, _, ?_, ?_, htwin⟩⟩, .nil⟩
    · rw [hstore, hstore']
      exact h.pairs.next (by simp) (by simp)
    · rw [harenas, Registers.content?_push, if_pos hi]
    · rw [harenas', Registers.content?_push, if_pos hempty.symm]

omit hw hv in
theorem dropped : Kept i M ((Call.dropArena i).after memory w) ((Call.dropArena 0).after memory v)
    (noted i memory w (.dropArena i)) (noted 0 memory v (.dropArena 0)) := by
  rw [Call.after, Call.after]
  rcases h.arena with ⟨ha, hb⟩ | ⟨a, b, ha, hb, -⟩
  · rw [Call.perform_dropArena_of_none memory ha, Call.perform_dropArena_of_none memory hb]
    exact ⟨M, id, h, .nil⟩
  · rw [Call.perform_dropArena memory ha, Call.perform_dropArena memory hb]
    refine ⟨M, id, ⟨h.pairs, h.half, h.table, ?_, .inl ?_⟩, .nil⟩
    · simpa [stateAfter, Registers.clear] using h.size
    · simp [stateAfter, Registers.content?_clear]

theorem mint (mode : Mode) (n : Binary64) :
    Kept i M ((Call.mint i mode n).after memory w) ((Call.mint 0 mode n).after memory v)
      (noted i memory w (.mint i mode n)) (noted 0 memory v (.mint 0 mode n)) := by
  have htable := h.table_after hw hv memory (.mint i mode n) (.mint 0 mode n)
  have hsize : ((Call.mint 0 mode n).after memory v).arenas.size =
      if i < ((Call.mint i mode n).after memory w).arenas.size then 1 else 0 := by
    rw [hw.size_arenas, hv.size_arenas]
    exact h.size
  rw [noted, noted, if_pos rfl, if_pos rfl]
  rcases h.arena with ⟨ha, hb⟩ | ⟨a, b, ha, hb, htwin⟩
  · -- there is no arena, or it was dropped
    obtain ⟨hstore, harenas⟩ := Call.after_mint_of_none ha memory mode n
    obtain ⟨hstore', harenas'⟩ := Call.after_mint_of_none hb memory mode n
    rw [mint_of_none ha, mint_of_none hb]
    refine ⟨M, id, ⟨?_, h.half, htable, hsize, .inl ?_⟩, .cons ⟨?_, .error _⟩ .nil⟩
    · rw [hstore, hstore']
      exact h.pairs
    · rw [harenas, harenas']
      exact ⟨ha, hb⟩
    · simp [entry, Entry.seen, ha, hb]
  · have hfill : w.table.Filled v.store := h.table ▸ hv.table
    obtain ⟨M', hM, hpairs, halike, htwin'⟩ := htwin.respond h.pairs (hw.steady ha).toReady
      (hv.steady hb).toReady hw.table hfill h.half ⟨mode, n, memory⟩
    obtain ⟨hstore, harena⟩ := Call.after_mint_of_some ha memory mode n rfl
    obtain ⟨hstore', harena'⟩ := Call.after_mint_of_some hb memory mode n rfl
    rw [h.table] at hstore' harena'
    rw [mint_eq ha, mint_eq hb, h.table]
    refine ⟨M', hM, ⟨?_, fun half => hM (h.half half), htable, hsize,
      .inr ⟨_, _, harena, harena', ?_⟩⟩, .cons ?_ .nil⟩
    · rw [hstore, hstore']
      exact hpairs
    · rw [hstore, hstore']
      exact htwin'
    · refine entry_alike (content?_settled ha _) (content?_settled hb _) htwin'.stats halike
        (fun hr => ?_) fun hr => ?_
      · exact ((hw.steady ha).respond_ok hw.table (Arena.Response.answer_of_result hr)).1
      · exact ((hv.steady hb).respond_ok hfill (Arena.Response.answer_of_result hr)).1

/-- **A call and its counterpart, if it has one, leave twins.** -/
theorem step (call : Call) {own : List (Call × Memory)}
    (hown : own = ((ownCall i w.arenas.size call).map (·, memory)).toList) :
    Kept i M (call.after memory w) (afterAll own v) (noted i memory w call) (diary 0 own v) := by
  have hone {c : Call} (hc : ownCall i w.arenas.size call = some c)
      (hk : Kept i M (call.after memory w) (c.after memory v) (noted i memory w call)
        (noted 0 memory v c)) :
      Kept i M (call.after memory w) (afterAll own v) (noted i memory w call) (diary 0 own v) := by
    rw [hc] at hown
    subst hown
    simpa [diary, afterAll] using hk
  by_cases hf : Foreign i w.arenas.size call
  · rw [ownCall_of_foreign hf] at hown
    subst hown
    rw [noted_of_foreign hf]
    exact ⟨M, id, h.foreign hw hf memory, .nil⟩
  · by_cases hm : ∃ mode n, call = .mint i mode n
    · obtain ⟨mode, n, rfl⟩ := hm
      exact hone (if_pos rfl) (h.mint hw hv memory mode n)
    · by_cases hd : call = .dropArena i
      · subst hd
        exact hone (if_pos rfl) (h.dropped memory)
      · have hmake : call.makesArena = true ∧ i = w.arenas.size := by
          apply Classical.byContradiction
          intro hno
          exact hf ⟨fun mode n hc => hm ⟨mode, n, hc⟩, hd, fun hmakes hi => hno ⟨hmakes, hi⟩⟩
        obtain ⟨hmakes, rfl⟩ := hmake
        exact hone (ownCall_of_makesArena hmakes) (h.made hw hv memory hmakes rfl)

end

/-- **A program and the part of it that concerns one arena make diaries that tell the same**, by
induction on the calls. -/
theorem run (h : Mirrors i M w v) (hw : Tenure w owners) (hv : Tenure v owners')
    (calls : List (Call × Memory)) :
    Kept i M (afterAll calls w) (afterAll (alone i w.arenas.size calls) v) (diary i calls w)
      (diary 0 (alone i w.arenas.size calls) v) := by
  induction calls generalizing M w v owners owners' with
  | nil => exact ⟨M, id, h, .nil⟩
  | cons head rest ih =>
    obtain ⟨call, memory⟩ := head
    obtain ⟨more, hw₁⟩ := hw.step call memory
    obtain ⟨more', hv₁⟩ := hv.run ((ownCall i w.arenas.size call).map (·, memory)).toList
    have hmade : (if call.makesArena then w.arenas.size + 1 else w.arenas.size) =
        (call.after memory w).arenas.size := by
      rw [hw.size_arenas]
      split <;> rfl
    rw [alone, hmade, diary, diary_append, afterAll, afterAll, List.foldl_cons, List.foldl_append]
    exact (h.step hw hv memory call rfl).append fun h₁ => ih h₁ hw₁ hv₁

end Mirrors

/-! ## Diaries that tell the same -/

theorem map_eq_of_forall₂ {α β γ : Type} {R : α → β → Prop} {f : α → γ} {g : β → γ} {l : List α}
    {l' : List β} (h : List.Forall₂ R l l') (hfg : ∀ {a b}, R a b → f a = g b) :
    l.map f = l'.map g := by
  rw [← List.forall₂_eq_eq_eq, List.forall₂_map_left_iff, List.forall₂_map_right_iff]
  exact h.imp fun _ _ => hfg

theorem samePage_of_alike {M : PageId → PageId → Prop} {s t : Store} (hp : Pairs M s t)
    {e e' f f' : Entry} (he : Entry.Alike M e e') (hf : Entry.Alike M f f') :
    e.samePage f = e'.samePage f' := by
  obtain ⟨-, hre⟩ := he
  obtain ⟨-, hrf⟩ := hf
  unfold Entry.samePage
  generalize e.ref = x at *
  generalize e'.ref = x' at *
  generalize f.ref = y at *
  generalize f'.ref = y' at *
  cases hre with
  | error _ => rfl
  | ok hx _ _ =>
    cases hrf with
    | error _ => rfl
    | ok hy _ _ =>
      have hiff := hp.iff hx hy
      simp [NumberRef.samePage, hiff, Bool.beq_eq_decide_eq]

end World

/-! ## Whose slots they are -/

/-- The reference of an entry is the permanent one of its number, or its page is owned by the arena
in register `i`. -/
def Entry.Told (t : PreloadTable) (i : Nat) (owners : List (Option Nat)) (e : Entry) : Prop :=
  ∀ r, e.ref = .ok r → (r.isCanonical = true ∧ t.get? e.number = .ok (some r)) ∨
    (r.isCanonical = false ∧ owners[r.page.id]? = some (some i))

theorem Entry.Told.append {t : PreloadTable} {i : Nat} {owners : List (Option Nat)} {e : Entry}
    (h : e.Told t i owners) (more : List (Option Nat)) : e.Told t i (owners ++ more) := by
  intro r hr
  rcases h r hr with hcanon | ⟨hcounted, howner⟩
  · exact .inl hcanon
  · exact .inr ⟨hcounted, World.owner_append howner more⟩

namespace World

variable {w : World} {owners owners' : List (Option Nat)}

/-- **A request is answered a slot of its arena**, or the entry of its number. -/
theorem told_of_noted (hw : Tenure w owners) {call : Call} {memory : Memory}
    (hw' : Tenure (call.after memory w) owners') {i : Nat} {e : Entry}
    (he : e ∈ noted i memory w call) : e.Told w.table i owners' := by
  cases call with
  | mint j mode n =>
    rw [noted] at he
    split at he
    · rename_i hj
      subst hj
      obtain rfl := List.mem_singleton.1 he
      intro r hr
      cases ha : w.arenas.content? j with
      | none =>
        rw [mint_of_none ha] at hr
        cases hr
      | some a =>
        rw [mint_eq ha, entry_ended] at hr ⊢
        obtain ⟨-, hafter⟩ := Call.after_mint_of_some ha memory mode n rfl
        obtain ⟨-, hpage | hget⟩ := (hw.steady ha).respond_ok hw.table
          (Arena.Response.answer_of_result hr)
        · refine .inr ⟨by rw [NumberRef.isCanonical, hpage]; rfl, ?_⟩
          rw [hpage]
          exact hw'.arena hafter
        · exact .inl ⟨hw.table.isCanonical_of_get? hget, hget⟩
    · cases he
  | _ => cases he

/-- **All entries of a program are told by the owners of the pages**, by induction on its calls. -/
theorem told_of_diary (hw : Tenure w owners) (calls : List (Call × Memory)) :
    ∃ more, Tenure (afterAll calls w) (owners ++ more) ∧
      ∀ {i e}, e ∈ diary i calls w → e.Told w.table i (owners ++ more) := by
  induction calls generalizing w owners with
  | nil => exact ⟨[], by rwa [List.append_nil], fun he => by cases he⟩
  | cons head rest ih =>
    obtain ⟨call, memory⟩ := head
    obtain ⟨first, hw₁⟩ := hw.step call memory
    obtain ⟨more, hw₂, hrest⟩ := ih hw₁
    have htable := (call.effect memory hw.store hw.table).1
    rw [List.append_assoc] at hw₂ hrest
    refine ⟨first ++ more, hw₂, fun {i e} he => ?_⟩
    rw [diary] at he
    rcases List.mem_append.1 he with he | he
    · rw [← List.append_assoc]
      exact (told_of_noted hw hw₁ he).append more
    · rw [← htable]
      exact hrest he

theorem apart_of_ne {r q : NumberRef} (h : r.page.id ≠ q.page.id) :
    r.samePage q = false ∧ r.aliases q = false := by
  simp [NumberRef.aliases, NumberRef.samePage, h]

/-- Slots of two arenas are on pages of two owners, and the entries on pages of nobody. -/
theorem apart_of_told {t : PreloadTable} {s : Store} (ht : t.Filled s) (hw : Tenure w owners)
    {i j : Nat} (hij : i ≠ j) {e f : Entry} (he : e.Told t i owners) (hf : f.Told t j owners)
    {r q : NumberRef} (hr : e.ref = .ok r) (hq : f.ref = .ok q) :
    (r.isCanonical = true ∧ q.isCanonical = true → (r.aliases q = true ↔ e.number = f.number)) ∧
      (¬ (r.isCanonical = true ∧ q.isCanonical = true) →
        r.samePage q = false ∧ r.aliases q = false) := by
  have hnobody {n : Binary64} {x : NumberRef} (hx : t.get? n = .ok (some x)) :
      owners[x.page.id]? = some none := by
    obtain ⟨half, hpage⟩ := ht.page_of_get? hx
    rw [hpage]
    exact hw.half half
  rcases he r hr with ⟨hrc, hrget⟩ | ⟨hrc, hrown⟩ <;>
    rcases hf q hq with ⟨hqc, hqget⟩ | ⟨hqc, hqown⟩
  · refine ⟨fun _ => ⟨fun halias => ?_, fun hnumber => ?_⟩, fun hno => absurd ⟨hrc, hqc⟩ hno⟩
    · have hread := ht.get_of_get? hrget
      rw [NumberRef.get_of_aliases halias, ht.get_of_get? hqget] at hread
      exact (Except.ok.inj hread).symm
    · rw [hnumber, hqget] at hrget
      cases hrget
      exact NumberRef.aliases_iff.2 ⟨rfl, rfl⟩
  · refine ⟨fun hboth => by simp [hqc] at hboth, fun _ => apart_of_ne fun heq => ?_⟩
    rw [← heq, hnobody hrget] at hqown
    cases hqown
  · refine ⟨fun hboth => by simp [hrc] at hboth, fun _ => apart_of_ne fun heq => ?_⟩
    rw [heq, hnobody hqget] at hrown
    cases hrown
  · refine ⟨fun hboth => by simp [hrc] at hboth, fun _ => apart_of_ne fun heq => hij ?_⟩
    rw [heq, hqown] at hrown
    exact (Option.some.inj (Option.some.inj hrown)).symm

/-- **Arenas do not interfere.** Whatever a program does, with any number of arenas that are made,
used and dropped in any order, the requests to one of them are answered as in the program without
all other calls: the same bits, slots, kinds and errors, the same counters after each request, and
the same requests share a page. References from two arenas are never on one page and never name one
slot, unless both are entries, which are the same if the numbers are. -/
theorem arenas_apart (calls : List (Call × Memory)) :
    ∃ w₀, start = .ok w₀ ∧
      (∀ i, (diary i calls w₀).map Entry.seen = (diary 0 (alone i 0 calls) w₀).map Entry.seen ∧
        Entry.sharing (diary i calls w₀) = Entry.sharing (diary 0 (alone i 0 calls) w₀)) ∧
      ∀ i j, i ≠ j → ∀ e ∈ diary i calls w₀, ∀ f ∈ diary j calls w₀,
        ∀ r q, e.ref = .ok r → f.ref = .ok q →
          (r.isCanonical = true ∧ q.isCanonical = true →
            (r.aliases q = true ↔ e.number = f.number)) ∧
          (¬ (r.isCanonical = true ∧ q.isCanonical = true) →
            r.samePage q = false ∧ r.aliases q = false) := by
  obtain ⟨s, t, hstart, hs, ht⟩ := start_eq
  have hw := Tenure.start hs ht
  refine ⟨_, hstart, fun i => ?_, ?_⟩
  · have hmirrors : Mirrors i (fun p q => p = q ∧ p < s.pages.size)
        ⟨s, t, #[], #[], #[], #[]⟩ ⟨s, t, #[], #[], #[], #[]⟩ := by
      refine ⟨⟨?_, ?_⟩, fun half => ⟨rfl, ?_⟩, rfl, by simp, .inl (by simp [Registers.content?])⟩
      · rintro p q ⟨rfl, hp⟩
        exact ⟨hp, hp⟩
      · rintro p q p' q' ⟨rfl, -⟩ ⟨rfl, -⟩
        exact Iff.rfl
      · have hhalf := hw.half half
        rw [List.getElem?_replicate] at hhalf
        apply Classical.byContradiction
        intro hno
        rw [if_neg hno] at hhalf
        cases hhalf
    obtain ⟨M, -, hend, hall⟩ := hmirrors.run hw hw calls
    refine ⟨map_eq_of_forall₂ hall fun he => he.seen, ?_⟩
    exact map_eq_of_forall₂ hall fun he =>
      map_eq_of_forall₂ hall fun hf => samePage_of_alike hend.pairs he hf
  · intro i j hij e he f hf r q hr hq
    obtain ⟨more, hend, htold⟩ := told_of_diary hw calls
    exact apart_of_told ht hend hij (htold he) (htold hf) hr hq

end World

end Boxing
