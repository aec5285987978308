import Boxing.Proofs.Arena.Respond
import Boxing.Proofs.World.Lookup
import Boxing.Report.State

/-!
# What a call does to arenas and pages

`Call.Acts` says all that a call can do to the store and to the registers of arenas and pages, and
in which fault it ends (`Call.acts`): it leaves them alone, makes an arena or a page, pushes onto
the page in a register, has an arena serve a request (`mint_eq`), or drops an arena. Whether an
arena is made depends on the call and the memory alone (`Call.arenaMade`).

A call *breaks a rule* if it asks for an arena of an impossible size, reads a slot that was not
handed out or asks for the bytes of a page that has too many. It *overfills* a page if it wants a
slot of one that is spent. Apart from overflowing counters, nothing else ends in a fault.
-/

set_option autoImplicit false

namespace Boxing

def Failure.fault? : Failure → Option Fault
  | .fault f => some f
  | _ => none

/-- The fault in which an action ended. -/
def faultOf {σ α : Type} : EStateM.Result Failure σ α → Option Fault
  | .ok _ _ => none
  | .error f _ => f.fault?

theorem faultOf_map {σ α β : Type} (f : α → β) (x : EStateM Failure σ α) (s : σ) :
    faultOf ((f <$> x) s) = faultOf (x s) := by
  cases h : x s with
  | ok a s' => rw [map_of_ok h]; rfl
  | error e s' => rw [map_of_error h]; rfl

theorem NumberRef.state_of_get {r : NumberRef} {s : Store} {n : Binary64} (h : r.get s = .ok n) :
    r.state s = .ok ⟨n, r.slot, r.isCanonical⟩ := by
  rw [NumberRef.state, h]
  rfl

namespace World

variable {α : Type} {look : Store → Except Fault α} {w : World}

theorem observe_of_ok {a : α} (h : look w.store = .ok a) : observe look w = .ok a w := by
  simp only [observe, h]

theorem observe_of_error {f : Fault} (h : look w.store = .error f) :
    observe look w = .error (.fault f) w := by
  simp only [observe, h]

end World

/-! ## Registers -/

theorem getElem?_setIfInBounds_of_lt {α : Type} {xs : Array α} {i : Nat} (hi : i < xs.size) (x : α)
    (j : Nat) : (xs.setIfInBounds i x)[j]? = if j = i then some x else xs[j]? := by
  rw [Array.getElem?_setIfInBounds]
  by_cases hj : j = i
  · rw [if_pos hj.symm, if_pos hi, if_pos hj]
  · rw [if_neg (Ne.symm hj), if_neg hj]

namespace Registers

variable {α : Type}

theorem lt_of_content {r : Registers α} {i : Nat} {a : α} (h : r.content? i = some a) :
    i < r.size := by
  apply Nat.lt_of_not_le
  intro hi
  simp [content?, Array.getElem?_eq_none hi] at h

theorem content?_setIfInBounds {r : Registers α} {i : Nat} {a : α} (h : r.content? i = some a)
    (o : Option α) (j : Nat) :
    content? (r.setIfInBounds i o) j = if j = i then o else r.content? j := by
  unfold content?
  rw [getElem?_setIfInBounds_of_lt (lt_of_content h)]
  split <;> rfl

theorem content?_push_none (r : Registers α) (i : Nat) :
    content? (r.push none) i = r.content? i := by
  rw [content?_push]
  split
  · rename_i hi
    simp [content?, hi]
  · rfl

theorem content?_clear (r : Registers α) (i j : Nat) :
    content? (r.clear i) j = if j = i then none else r.content? j := by
  unfold content? clear
  rw [Array.getElem?_setIfInBounds]
  by_cases hj : j = i
  · subst hj
    by_cases hi : j < r.size
    · simp [hi]
    · simp [hi]
  · simp [hj, Ne.symm hj]

end Registers

namespace Shelf

variable {α : Type} (shelf : Shelf α) {w w' : World}

theorem read_of_some (handle : Handle) {i : Nat} {a : α}
    (h : (shelf.registers w).content? i = some a) : shelf.read handle i w = .ok a w := by
  rw [read, bind_get, h]
  rfl

theorem read_of_none (handle : Handle) {i : Nat} (h : (shelf.registers w).content? i = none) :
    shelf.read handle i w = .error (.missing handle) w := by
  rw [read, bind_get, h]
  rfl

theorem drop_of_some (handle : Handle) {i : Nat} {a : α}
    (h : (shelf.registers w).content? i = some a) :
    shelf.drop handle i w = .ok () (shelf.change (·.clear i) w) :=
  bind_of_ok (read_of_some shelf handle h)

theorem drop_of_none (handle : Handle) {i : Nat} (h : (shelf.registers w).content? i = none) :
    shelf.drop handle i w = .error (.missing handle) w :=
  bind_of_error (read_of_none shelf handle h)

theorem keep_of_ok {act : WorldM α} {a : α} (h : act w = .ok a w') :
    shelf.keep act w = .ok (shelf.registers w').size (shelf.change (·.push (some a)) w') := by
  simp only [keep, h]

theorem keep_of_error {act : WorldM α} {f : Failure} (h : act w = .error f w') :
    shelf.keep act w = .error f (shelf.change (·.push none) w') := by
  simp only [keep, h]

theorem faultOf_keep (act : WorldM α) (w : World) :
    faultOf (shelf.keep act w) = faultOf (act w) := by
  cases h : act w with
  | ok a w' => rw [keep_of_ok shelf h]; rfl
  | error f w' => rw [keep_of_error shelf h]; rfl

end Shelf

/-! ## Entries -/

namespace PreloadTable.Filled

variable {t : PreloadTable} {s : Store} (ht : t.Filled s) {n : Binary64} {r : NumberRef}
  (h : t.get? n = .ok (some r))
include ht h

theorem page_of_get? : ∃ half : Half, r.page = half.page := by
  by_cases hp : Preloaded n
  · obtain ⟨k, h1, h2, rfl⟩ := hp
    rw [ht.get?_ofInt h1 h2] at h
    cases h
    exact ⟨Half.ofInt k, rfl⟩
  · rw [t.get?_of_not_preloaded hp] at h
    cases h

theorem isCanonical_of_get? : r.isCanonical = true := by
  obtain ⟨half, hpage⟩ := page_of_get? ht h
  rw [NumberRef.isCanonical, hpage]
  cases half <;> rfl

end PreloadTable.Filled

/-! ## Minting -/

/-- What a request is answered in the terms of a program. -/
def Arena.Response.result (r : Arena.Response) : Except Failure NumberRef :=
  match r.answer with
  | .ok (.ok ref) => .ok ref
  | .ok (.error e) => .error (.arena e)
  | .error f => .error (.fault f)

theorem Arena.Response.answer_of_result {r : Arena.Response} {ref : NumberRef}
    (h : r.result = .ok ref) : r.answer = .ok (.ok ref) := by
  unfold result at h
  split at h
  · rename_i hr
    cases h
    exact hr
  · cases h
  · cases h

namespace World

/-- The end of an action with this result. -/
def ended {α : Type} (result : Except Failure α) (w : World) : EStateM.Result Failure World α :=
  match result with
  | .ok a => .ok a w
  | .error f => .error f w

theorem stateAfter_ended {α : Type} (result : Except Failure α) (w : World) :
    stateAfter (ended result w) = w := by
  cases result <;> rfl

variable {w : World} {i : Nat}

theorem content?_settled {a : Arena} (ha : w.arenas.content? i = some a) (r : Arena.Response) :
    (w.settled i r).arenas.content? i = some r.arena := by
  rw [settled, Registers.content?_setIfInBounds ha, if_pos rfl]

/-- **To mint is to have the arena in the register serve a request.** -/
theorem mint_eq {a : Arena} (ha : w.arenas.content? i = some a) (memory : Memory) (mode : Mode)
    (n : Binary64) : mint memory i mode n w =
      ended (a.respond w.table ⟨mode, n, memory⟩ w.store).result
        (w.settled i (a.respond w.table ⟨mode, n, memory⟩ w.store)) := by
  have hread : Shelf.arenas.read .arena i w = .ok a w := Shelf.read_of_some _ _ ha
  rw [mint, bind_of_ok hread]
  cases h : (a.respond w.table ⟨mode, n, memory⟩ w.store).answer with
  | ok answer =>
    rw [bind_of_ok (request_of_answer h), Arena.Response.result, h]
    cases answer <;> rfl
  | error f =>
    rw [bind_of_error (request_of_fault h), Arena.Response.result, h]
    rfl

theorem mint_of_none (ha : w.arenas.content? i = none) (memory : Memory) (mode : Mode)
    (n : Binary64) : mint memory i mode n w = .error (.missing .arena) w :=
  bind_of_error (Shelf.read_of_none _ _ ha)

end World

namespace Call

/-- The call fills a new arena register. -/
def makesArena : Call → Bool
  | .newArena _ | .configureArena _ | .standardArena => true
  | _ => false

/-- The capacity of the arena that a call makes. -/
def arenaMade (memory : Memory) : Call → Option Nat
  | .newArena c => if 0 < c ∧ c < UInt32.size then some c else none
  | .configureArena c =>
    if (0 < c ∧ c < UInt32.size) ∧ memory (8 * c) = true then some c else none
  | .standardArena => some ArenaConfig.standard.pageCapacity
  | _ => none

/-- The call breaks a rule that its caller has to keep. -/
def BreaksRule (w : World) : Call → Prop
  | .newArena c => c = 0 ∨ ArenaConfig.maxPageCapacity < c
  | .read p slot => ∃ page, w.pages.content? p = some page ∧ (w.store.page page.id).len ≤ slot
  | .pageBytes c => UInt64.size ≤ 8 * c
  | _ => False

/-- The call wants a slot of a page that is spent. -/
def Overfills (w : World) : Call → Prop
  | .push p _ | .number p _ =>
    ∃ page, w.pages.content? p = some page ∧ (w.store.page page.id).Spent
  | .mint i mode n =>
    (mode = .box → ¬ Preloaded n) ∧ ∃ a, w.arenas.content? i = some a ∧ a.Spent w.store
  | _ => False

/-- The call cannot but end in a fault. -/
def Doomed (w : World) (call : Call) : Prop := call.BreaksRule w ∨ call.Overfills w

/-- All that the call can do in the world `w`, with the fault that it ends in and the world that it
leaves. -/
inductive Acts (memory : Memory) (w : World) (call : Call) : Option Fault → World → Prop
  | still {fault : Option Fault} {w' : World} : (fault.isSome = true ↔ call.Doomed w) →
      call.arenaMade memory = none → w'.store = w.store →
      w'.arenas = (if call.makesArena then w.arenas.push none else w.arenas) →
      (∀ {k p}, w'.pages.content? k = some p → w.pages.content? k = some p) →
      Acts memory w call fault w'
  | arenaMade {c : Nat} {w' : World} : call.arenaMade memory = some c →
      w'.store = ⟨w.store.pages.push (Page.new (UInt32.ofNat c))⟩ →
      w'.arenas = w.arenas.push (some ⟨⟨c⟩, w.store.pages.size, 1, 0⟩) → w'.pages = w.pages →
      Acts memory w call none w'
  | pageMade {c : UInt32} {lifetime : Lifetime} {w' : World} : ¬ call.Doomed w →
      call.makesArena = false → w'.store = ⟨w.store.pages.push (Page.new c)⟩ →
      w'.arenas = w.arenas → w'.pages = w.pages.push (some ⟨w.store.pages.size, lifetime⟩) →
      Acts memory w call none w'
  | pushed {k : Nat} {p : PageRef} {n : Binary64} {w' : World} : ¬ call.Doomed w →
      call.makesArena = false → w.pages.content? k = some p →
      (w.store.page p.id).len < (w.store.page p.id).capacity →
      w'.store = w.store.setPage p.id ((w.store.page p.id).pushed n) → w'.arenas = w.arenas →
      w'.pages = w.pages → Acts memory w call none w'
  | served {i : Nat} {a : Arena} {mode : Mode} {n : Binary64} {r : Arena.Response}
      {fault : Option Fault} {w' : World} : call = .mint i mode n → w.arenas.content? i = some a →
      a.respond w.table ⟨mode, n, memory⟩ w.store = r →
      (fault.isSome = true ↔ ∃ f, r.answer = .error f) → w'.store = r.store →
      w'.arenas = w.arenas.setIfInBounds i (some r.arena) → w'.pages = w.pages →
      Acts memory w call fault w'
  | arenaDropped {i : Nat} {w' : World} : call = .dropArena i → w'.store = w.store →
      w'.arenas = Registers.clear w.arenas i → w'.pages = w.pages → Acts memory w call none w'

/-- What the call does in the world `w` is among all of it. -/
def ActsIn (memory : Memory) (w : World) (call : Call) : Prop :=
  call.Acts memory w (faultOf (call.perform memory w)) (call.after memory w)

section
variable {memory : Memory} {w : World} {call : Call}

theorem arenaMade_of_not_makesArena (h : call.makesArena = false) :
    call.arenaMade memory = none := by
  cases call <;> first | rfl | cases h

theorem makesArena_of_arenaMade {c : Nat} (h : call.arenaMade memory = some c) :
    call.makesArena = true := by
  cases call <;> first | rfl | cases h

theorem valid_of_arenaMade {c : Nat} (h : call.arenaMade memory = some c) :
    ArenaConfig.validate ⟨c⟩ = .ok () := by
  rw [ArenaConfig.validate_eq_ok_iff]
  cases call <;> simp only [arenaMade, Option.ite_none_right_eq_some, Option.some.injEq] at h
  case newArena c' =>
    obtain ⟨hc, rfl⟩ := h
    exact hc
  case configureArena c' =>
    obtain ⟨hc, rfl⟩ := h
    exact hc.1
  case standardArena =>
    subst h
    decide
  all_goals cases h

/-- A call that is answered and changes neither the store nor the arenas nor the pages. -/
theorem ActsIn.of_ok {o : Outcome} {w' : World} (h : call.perform memory w = .ok o w')
    (safe : ¬ call.Doomed w) (hmakes : call.makesArena = false)
    (hstore : w'.store = w.store) (harenas : w'.arenas = w.arenas) (hpages : w'.pages = w.pages) :
    call.ActsIn memory w := by
  rw [ActsIn, after, h]
  refine .still (by simp [faultOf, safe]) (arenaMade_of_not_makesArena hmakes) hstore ?_
    (fun hp => hpages ▸ hp)
  rw [hmakes]
  exact harenas

/-- A call that fails and leaves the world as it is. -/
theorem ActsIn.of_error {f : Failure} (h : call.perform memory w = .error f w)
    (hf : f.fault?.isSome = true ↔ call.Doomed w) (hmakes : call.makesArena = false) :
    call.ActsIn memory w := by
  rw [ActsIn, after, h]
  exact .still hf (arenaMade_of_not_makesArena hmakes) rfl (by simp [hmakes]; rfl) id

/-- A call that fails with no fault and leaves the world as it is. -/
theorem ActsIn.of_failure {f : Failure} (h : call.perform memory w = .error f w)
    (hf : f.fault? = none) (safe : ¬ call.Doomed w) (hmakes : call.makesArena = false) :
    call.ActsIn memory w :=
  .of_error h (by simp [hf, safe]) hmakes

/-- A call that fills a value register does not break a rule and makes no arena. -/
theorem maker_safe {act : WorldM Value} (h : call.maker memory = some act) :
    ¬ call.BreaksRule w ∧ call.makesArena = false := by
  cases call <;> first | exact ⟨id, rfl⟩ | cases h

theorem perform_maker_result {act : WorldM Value} (h : call.maker memory = some act) :
    faultOf (call.perform memory w) = faultOf (act w) ∧
      (call.after memory w).store = (stateAfter (act w)).store ∧
      (call.after memory w).arenas = (stateAfter (act w)).arenas ∧
      (call.after memory w).pages = (stateAfter (act w)).pages := by
  have hafter : call.after memory w = { stateAfter (act w) with
      values := (stateAfter (act w)).values.push (Shelf.made act w) } := by
    rw [after, perform_maker h, stateAfter_map, Shelf.stateAfter_keep_values]
  rw [hafter, perform_maker h, faultOf_map, Shelf.faultOf_keep]
  exact ⟨rfl, rfl, rfl, rfl⟩

/-- A value that is made without the store, or not made at all. -/
theorem acts_of_maker {act : WorldM Value} (h : call.maker memory = some act)
    (hsame : stateAfter (act w) = w)
    (hf : (faultOf (act w)).isSome = true ↔ call.Overfills w) : call.ActsIn memory w := by
  obtain ⟨hfault, hstore, harenas, hpages⟩ := perform_maker_result (w := w) h
  obtain ⟨hsafe, hmakes⟩ := maker_safe (w := w) h
  rw [hsame] at hstore harenas hpages
  refine .still ?_ (arenaMade_of_not_makesArena hmakes) hstore (by simp [hmakes, harenas])
    (fun hp => hpages ▸ hp)
  rw [hfault, hf, Doomed, or_iff_right hsafe]

theorem acts_of_maker_of_safe {act : WorldM Value} (h : call.maker memory = some act)
    (hsame : stateAfter (act w) = w) (hf : faultOf (act w) = none) (hover : ¬ call.Overfills w) :
    call.ActsIn memory w := by
  refine acts_of_maker h hsame ?_
  rw [hf]
  exact iff_of_false Bool.false_ne_true hover

section
variable {act : WorldM Arena}
  (hperform : call.perform memory = Outcome.arena <$> Shelf.arenas.keep act)
include hperform

theorem acts_of_arena {c : Nat} (h : act w = .ok ⟨⟨c⟩, w.store.pages.size, 1, 0⟩
      { w with store := ⟨w.store.pages.push (Page.new (UInt32.ofNat c))⟩ })
    (hmade : call.arenaMade memory = some c) :
    call.ActsIn memory w := by
  have hkeep := Shelf.keep_of_ok .arenas h
  rw [ActsIn, after, hperform, map_of_ok hkeep]
  exact .arenaMade hmade rfl rfl rfl

theorem acts_of_no_arena {f : Failure} (h : act w = .error f w)
    (hmakes : call.makesArena = true) (hmade : call.arenaMade memory = none)
    (hf : f.fault?.isSome = true ↔ call.Doomed w) :
    call.ActsIn memory w := by
  have hkeep := Shelf.keep_of_error .arenas h
  rw [ActsIn, after, hperform, map_of_error hkeep]
  exact .still hf hmade rfl (by simp [hmakes]; rfl) id

end

end

/-! ## Making an arena -/

section
variable {memory : Memory} {w : World} {c : Nat}

theorem acts_newArena : (newArena c).ActsIn memory w := by
  cases hv : ArenaConfig.validate ⟨c⟩ with
  | ok _ =>
    have hc := ArenaConfig.validate_eq_ok_iff.1 hv
    refine acts_of_arena rfl (World.onStore_of_ok (Arena.new_of_valid hv _)) ?_
    exact if_pos hc
  | error e =>
    have hc : ¬ (0 < c ∧ c < UInt32.size) := fun hc => by
      rw [ArenaConfig.validate_eq_ok_iff.2 hc] at hv
      cases hv
    have hnew : Arena.new c w.store = .error (.arena e) w.store := by
      simp only [Arena.new, hv]
      rfl
    refine acts_of_no_arena rfl (World.onStore_of_error hnew) rfl (if_neg hc) ?_
    simp only [Failure.fault?, Option.isSome_some, true_iff, Doomed, BreaksRule, Overfills,
      or_false]
    unfold ArenaConfig.maxPageCapacity
    unfold UInt32.size at hc
    omega

theorem acts_configureArena : (configureArena c).ActsIn memory w := by
  cases hv : ArenaConfig.validate ⟨c⟩ with
  | ok _ =>
    have hc := ArenaConfig.validate_eq_ok_iff.1 hv
    by_cases granted : memory (8 * c) = true
    · have hmade := World.onStore_of_ok (Arena.withConfig_of_granted hv granted w.store)
      exact acts_of_arena (c := c) rfl (bind_of_ok hmade) (if_pos ⟨hc, granted⟩)
    · have hno : Arena.withConfig memory ⟨c⟩ w.store =
          .ok (.error (.resourceExhausted (c * 8))) w.store := by
        simp only [Arena.withConfig, hv, Arena.tryNew_of_valid hv, if_neg granted]
        exact bind_of_ok (lift_ok (ArenaConfig.pageBytes_of_valid hv) _)
      exact acts_of_no_arena rfl (bind_of_ok (World.onStore_of_ok hno)) rfl
        (if_neg fun h => granted h.2) (by simp [Failure.fault?, Doomed, BreaksRule, Overfills])
  | error e =>
    have hc : ¬ (0 < c ∧ c < UInt32.size) := fun hc => by
      rw [ArenaConfig.validate_eq_ok_iff.2 hc] at hv
      cases hv
    have hno : Arena.withConfig memory ⟨c⟩ w.store = .ok (.error e) w.store := by
      simp only [Arena.withConfig, hv]
      rfl
    exact acts_of_no_arena rfl (bind_of_ok (World.onStore_of_ok hno)) rfl
      (if_neg fun h => hc h.1) (by simp [Failure.fault?, Doomed, BreaksRule, Overfills])

theorem acts_standardArena : standardArena.ActsIn memory w :=
  acts_of_arena rfl (World.onStore_of_ok (Arena.new_of_valid (by decide) _)) rfl

end

/-! ## Pages and slots -/

section
variable {memory : Memory} {w : World}

theorem acts_newPage (lifetime : Lifetime) (c : UInt32) : (newPage lifetime c).ActsIn memory w :=
  .pageMade (not_or.2 ⟨id, id⟩) rfl rfl rfl rfl

theorem acts_requestPage (c : UInt32) : (requestPage c).ActsIn memory w := by
  by_cases granted : c = 0 ∨ memory (8 * c.toNat) = true
  · have hperform : (requestPage c).perform memory =
        Outcome.page <$> Shelf.pages.keep (World.addPage .counted (Page.new c)) := by
      simp only [perform, World.requestPage, Page.tryNew, if_pos granted]
    rw [ActsIn, after, hperform]
    exact .pageMade (not_or.2 ⟨id, id⟩) rfl rfl rfl rfl
  · have hperform : (requestPage c).perform memory =
        Outcome.page <$> Shelf.pages.keep (throw .refused) := by
      simp only [perform, World.requestPage, Page.tryNew, if_neg granted]
    rw [ActsIn, after, hperform]
    refine .still (by simp [Doomed, BreaksRule, Overfills]; rfl) rfl rfl rfl fun {k p} hp => ?_
    rw [← Registers.content?_push_none]
    exact hp

theorem acts_push (hs : w.store.WellFormed) (k : Nat) (n : Binary64) :
    (push k n).ActsIn memory w := by
  cases hp : w.pages.content? k with
  | none =>
    have hread := Shelf.read_of_none .pages .page hp
    exact .of_failure (bind_of_error hread) rfl (by simp [Doomed, BreaksRule, Overfills, hp]) rfl
  | some p =>
    have hread := Shelf.read_of_some .pages .page hp
    have hperform : (push k n).perform memory w =
        (World.onStore (Store.onPage p.id (Page.push n)) >>= fun slot => pure (.slot k slot)) w :=
      bind_of_ok hread
    have hdoomed : (push k n).Doomed w ↔ (w.store.page p.id).Spent := by
      simp [Doomed, BreaksRule, Overfills, hp]
    rcases Store.push_cases hs p.id n with ⟨-, unspent, h⟩ | ⟨spent, h⟩ | ⟨-, room, h⟩
    · exact .of_ok (hperform.trans (bind_of_ok (World.onStore_of_ok h)))
        (fun hd => unspent (hdoomed.1 hd)) rfl rfl rfl rfl
    · refine .of_error (hperform.trans (bind_of_error (World.onStore_of_error h))) ?_ rfl
      simp [Failure.fault?, hdoomed, spent]
    · have unspent := fun spent => Nat.not_lt.mpr ((hs p.id).full_of_spent spent) room
      rw [ActsIn, after, hperform, bind_of_ok (World.onStore_of_ok h)]
      exact .pushed (fun hd => unspent (hdoomed.1 hd)) rfl hp room rfl rfl rfl

theorem acts_number (hs : w.store.WellFormed) (k : Nat) (n : Binary64) :
    (number k n).ActsIn memory w := by
  have hmaker : (number k n).maker memory = some (World.number k n) := rfl
  cases hp : w.pages.content? k with
  | none =>
    have hread := Shelf.read_of_none .pages .page hp
    have hnumber : World.number k n w = .error (.missing .page) w := bind_of_error hread
    refine acts_of_maker hmaker (by rw [hnumber]; rfl) ?_
    simp [hnumber, faultOf, Failure.fault?, Overfills, hp]
  | some p =>
    have hread := Shelf.read_of_some .pages .page hp
    have hover : (number k n).Overfills w ↔ (w.store.page p.id).Spent := by
      simp [Overfills, hp]
    rcases NumberRef.alloc_cases hs p n with ⟨-, unspent, h⟩ | ⟨spent, h⟩ | ⟨-, room, h, -⟩
    · have hnumber : World.number k n w = .error .noRoom w :=
        (bind_of_ok hread).trans (bind_of_ok (World.onStore_of_ok h))
      refine acts_of_maker hmaker (by rw [hnumber]; rfl) ?_
      simp [hnumber, faultOf, Failure.fault?, hover, unspent]
    · have hnumber : World.number k n w = .error (.fault (.overflow .add)) w :=
        (bind_of_ok hread).trans (bind_of_error (World.onStore_of_error h))
      refine acts_of_maker hmaker (by rw [hnumber]; rfl) ?_
      simp [hnumber, faultOf, Failure.fault?, hover, spent]
    · have hnumber : World.number k n w = .ok (.number ⟨p, (w.store.page p.id).len⟩)
          { w with store := w.store.setPage p.id ((w.store.page p.id).pushed n) } :=
        (bind_of_ok hread).trans (bind_of_ok (World.onStore_of_ok h))
      have unspent := fun spent => Nat.not_lt.mpr ((hs p.id).full_of_spent spent) room
      obtain ⟨hfault, hstore, harenas, hpages⟩ := perform_maker_result (w := w) hmaker
      rw [hnumber] at hfault hstore harenas hpages
      rw [ActsIn, hfault]
      exact .pushed (not_or.2 ⟨id, fun h => unspent (hover.1 h)⟩) rfl hp room hstore harenas hpages

theorem acts_read (hs : w.store.WellFormed) (k slot : Nat) :
    (read k slot).ActsIn memory w := by
  cases hp : w.pages.content? k with
  | none =>
    have hread := Shelf.read_of_none .pages .page hp
    exact .of_failure (bind_of_error hread) rfl (by simp [Doomed, BreaksRule, Overfills, hp]) rfl
  | some p =>
    have hread := Shelf.read_of_some .pages .page hp
    have hperform : (read k slot).perform memory w = (World.observe (fun s =>
        (s.page p.id).get slot) >>= fun n => pure (.number n)) w := bind_of_ok hread
    by_cases hslot : slot < (w.store.page p.id).len
    · obtain ⟨n, hn⟩ := (hs p.id).get_of_lt hslot
      refine .of_ok (hperform.trans (bind_of_ok (World.observe_of_ok hn))) ?_ rfl rfl rfl rfl
      simp [Doomed, BreaksRule, Overfills, hp, hslot]
    · have hget := Page.get_of_le (Nat.le_of_not_lt hslot)
      refine .of_error (hperform.trans (bind_of_error (World.observe_of_error hget))) ?_ rfl
      simp [Failure.fault?, Doomed, BreaksRule, Overfills, hp, Nat.le_of_not_lt hslot]

theorem acts_pageBytes (c : Nat) : (pageBytes c).ActsIn memory w := by
  by_cases hc : c * 8 < UInt64.size
  · have hbytes : ArenaConfig.pageBytes ⟨c⟩ = .ok (c * 8) := Checked.mul_eq_ok hc
    refine .of_ok (bind_of_ok (World.observe_of_ok hbytes)) ?_ rfl rfl rfl rfl
    simp [Doomed, BreaksRule, Overfills, Nat.mul_comm 8 c, hc]
  · have hbytes : ArenaConfig.pageBytes ⟨c⟩ = .error (.overflow .mul) := if_neg hc
    refine .of_error (bind_of_error (World.observe_of_error hbytes)) ?_ rfl
    simpa [Failure.fault?, Doomed, BreaksRule, Overfills, Nat.mul_comm 8 c] using hc

end

/-! ## Requests and drops -/

section
variable {memory : Memory} {w : World}

theorem after_mint {i : Nat} {mode : Mode} {n : Binary64}
    {ending : EStateM.Result Failure World NumberRef}
    (h : World.mint memory i mode n w = ending) :
    faultOf ((mint i mode n).perform memory w) = faultOf ending ∧
      ((mint i mode n).after memory w).store = (stateAfter ending).store ∧
      ((mint i mode n).after memory w).arenas = (stateAfter ending).arenas ∧
      ((mint i mode n).after memory w).pages = (stateAfter ending).pages := by
  have hmaker : (mint i mode n).maker memory = some (Value.number <$> World.mint memory i mode n) :=
    rfl
  have hresult := perform_maker_result (w := w) hmaker
  rwa [faultOf_map, stateAfter_map, h] at hresult

theorem after_mint_of_none {i : Nat} (ha : w.arenas.content? i = none) (memory : Memory)
    (mode : Mode) (n : Binary64) : ((mint i mode n).after memory w).store = w.store ∧
      ((mint i mode n).after memory w).arenas = w.arenas := by
  obtain ⟨-, hstore, harenas, -⟩ := after_mint (World.mint_of_none ha memory mode n)
  exact ⟨hstore, harenas⟩

theorem after_mint_of_some {i : Nat} {a : Arena} (ha : w.arenas.content? i = some a)
    (memory : Memory) (mode : Mode) (n : Binary64) {r : Arena.Response}
    (hr : a.respond w.table ⟨mode, n, memory⟩ w.store = r) :
    ((mint i mode n).after memory w).store = r.store ∧
      ((mint i mode n).after memory w).arenas.content? i = some r.arena := by
  obtain ⟨-, hstore, harenas, -⟩ := after_mint (World.mint_eq ha memory mode n)
  rw [hr, World.stateAfter_ended] at hstore harenas
  exact ⟨hstore, harenas ▸ World.content?_settled ha r⟩

theorem acts_mint (i : Nat) (mode : Mode) (n : Binary64) : (mint i mode n).ActsIn memory w := by
  cases ha : w.arenas.content? i with
  | none =>
    obtain ⟨hfault, hstore, harenas, hpages⟩ := after_mint (World.mint_of_none ha memory mode n)
    refine .still ?_ rfl hstore harenas (fun hp => hpages ▸ hp)
    rw [hfault]
    simp [faultOf, Failure.fault?, Doomed, BreaksRule, Overfills, ha]
  | some a =>
    obtain ⟨hfault, hstore, harenas, hpages⟩ := after_mint (World.mint_eq ha memory mode n)
    generalize hr : a.respond w.table ⟨mode, n, memory⟩ w.store = r at hfault hstore harenas hpages
    rw [World.stateAfter_ended] at hstore harenas hpages
    refine .served rfl ha hr ?_ hstore harenas hpages
    rw [hfault]
    obtain ⟨answer, a', s⟩ := r
    rcases answer with f | e | ref
    · simp [Arena.Response.result, World.ended, faultOf, Failure.fault?]
    · simp [Arena.Response.result, World.ended, faultOf, Failure.fault?]
    · simp [Arena.Response.result, World.ended, faultOf]

theorem perform_dropArena (memory : Memory) {i : Nat} {a : Arena}
    (ha : w.arenas.content? i = some a) : (dropArena i).perform memory w =
      .ok .dropped { w with arenas := Registers.clear w.arenas i } :=
  bind_of_ok (Shelf.drop_of_some .arenas .arena ha)

theorem perform_dropArena_of_none (memory : Memory) {i : Nat}
    (ha : w.arenas.content? i = none) :
    (dropArena i).perform memory w = .error (.missing .arena) w :=
  bind_of_error (Shelf.drop_of_none .arenas .arena ha)

theorem acts_dropArena (i : Nat) : (dropArena i).ActsIn memory w := by
  cases ha : w.arenas.content? i with
  | none =>
    exact .of_failure (perform_dropArena_of_none memory ha) rfl (not_or.2 ⟨id, id⟩) rfl
  | some a =>
    rw [ActsIn, after, perform_dropArena memory ha]
    exact .arenaDropped rfl rfl rfl rfl

theorem acts_dropValue (i : Nat) : (dropValue i).ActsIn memory w := by
  cases hv : w.values.content? i with
  | none =>
    have hdrop := Shelf.drop_of_none .values .value hv
    exact .of_failure (bind_of_error hdrop) rfl (not_or.2 ⟨id, id⟩) rfl
  | some v =>
    have hdrop := Shelf.drop_of_some .values .value hv
    exact .of_ok (bind_of_ok hdrop) (not_or.2 ⟨id, id⟩) rfl rfl rfl rfl

theorem acts_dropPage (i : Nat) : (dropPage i).ActsIn memory w := by
  cases hp : w.pages.content? i with
  | none =>
    have hdrop := Shelf.drop_of_none .pages .page hp
    exact .of_failure (bind_of_error hdrop) rfl (not_or.2 ⟨id, id⟩) rfl
  | some p =>
    have hdrop := Shelf.drop_of_some .pages .page hp
    have hperform : (dropPage i).perform memory w =
        .ok .dropped { w with pages := Registers.clear w.pages i } := bind_of_ok hdrop
    rw [ActsIn, after, hperform]
    exact .still (by simp [faultOf, Doomed, BreaksRule, Overfills]) rfl rfl rfl
      Registers.content?_of_clear

theorem acts_snapshot (i : Nat) : (snapshot i).ActsIn memory w := by
  cases ha : w.arenas.content? i with
  | none =>
    have hread := Shelf.read_of_none .arenas .arena ha
    have hstats : World.stats i w = .error (.missing .arena) w := bind_of_error hread
    have hkeep := Shelf.keep_of_error .snapshots hstats
    have hperform : (snapshot i).perform memory w = .error (.missing .arena)
        { w with snapshots := w.snapshots.push none } := bind_of_error hkeep
    rw [ActsIn, after, hperform]
    exact .still (by simp [faultOf, Failure.fault?, Doomed, BreaksRule, Overfills]) rfl rfl rfl id
  | some a =>
    have hread := Shelf.read_of_some .arenas .arena ha
    have hstats : World.stats i w = .ok (a.stats w.store) w := bind_of_ok hread
    have hkeep := Shelf.keep_of_ok .snapshots hstats
    exact .of_ok (bind_of_ok hkeep) (not_or.2 ⟨id, id⟩) rfl rfl rfl rfl

theorem acts_lookup (ht : w.table.Filled w.store) (n : Binary64) : (lookup n).ActsIn memory w := by
  have hmaker : (lookup n).maker memory = some (World.lookup n) := rfl
  by_cases hp : Preloaded n
  · obtain ⟨k, h1, h2, rfl⟩ := hp
    have hcall := (World.hit_of_filled ht h1 h2).call
    exact acts_of_maker_of_safe hmaker (by rw [hcall]; rfl) (by rw [hcall]; rfl) id
  · have hcall := (World.misses_of_not_preloaded w hp).call
    exact acts_of_maker_of_safe hmaker (by rw [hcall]; rfl) (by rw [hcall]; rfl) id

theorem acts_copy (i : Nat) : (copy i).ActsIn memory w := by
  have hmaker : (copy i).maker memory = some (Shelf.values.read .value i) := rfl
  cases hv : w.values.content? i with
  | none =>
    have hread := Shelf.read_of_none .values .value hv
    exact acts_of_maker_of_safe hmaker (by rw [hread]; rfl) (by rw [hread]; rfl) id
  | some v =>
    have hread := Shelf.read_of_some .values .value hv
    exact acts_of_maker_of_safe hmaker (by rw [hread]; rfl) (by rw [hread]; rfl) id

end

/-- **All that a call can do to arenas and pages**, in a world with a table. -/
theorem acts (call : Call) (memory : Memory) {w : World} (hs : w.store.WellFormed)
    (ht : w.table.Filled w.store) :
    call.Acts memory w (faultOf (call.perform memory w)) (call.after memory w) := by
  cases call with
  | newArena c => exact acts_newArena
  | configureArena c => exact acts_configureArena
  | standardArena => exact acts_standardArena
  | mint i mode n => exact acts_mint i mode n
  | lookup n => exact acts_lookup ht n
  | absent => exact acts_of_maker_of_safe rfl rfl rfl id
  | truth b => exact acts_of_maker_of_safe rfl rfl rfl id
  | copy v => exact acts_copy v
  | newPage lifetime c => exact acts_newPage lifetime c
  | requestPage c => exact acts_requestPage c
  | push k n => exact acts_push hs k n
  | number k n => exact acts_number hs k n
  | read k slot => exact acts_read hs k slot
  | snapshot i => exact acts_snapshot i
  | pageBytes c => exact acts_pageBytes c
  | dropArena i => exact acts_dropArena i
  | dropValue i => exact acts_dropValue i
  | dropPage i => exact acts_dropPage i

/-- What the call that makes an arena leaves is told by the memory. -/
theorem Acts.of_makesArena {memory : Memory} {w w' : World} {call : Call} {fault : Option Fault}
    (h : call.Acts memory w fault w') (hmakes : call.makesArena = true) :
    (call.arenaMade memory = none ∧ w'.store = w.store ∧ w'.arenas = w.arenas.push none) ∨
      ∃ c, call.arenaMade memory = some c ∧
        w'.store = ⟨w.store.pages.push (Page.new (UInt32.ofNat c))⟩ ∧
        w'.arenas = w.arenas.push (some ⟨⟨c⟩, w.store.pages.size, 1, 0⟩) := by
  cases h with
  | still _ hmade hstore harenas _ => exact .inl ⟨hmade, hstore, by rw [harenas, if_pos hmakes]⟩
  | arenaMade hmade hstore harenas _ => exact .inr ⟨_, hmade, hstore, harenas⟩
  | pageMade _ hno _ _ _ | pushed _ hno _ _ _ _ _ =>
    rw [hmakes] at hno
    cases hno
  | served hcall _ _ _ _ _ _ | arenaDropped hcall _ _ _ =>
    rw [hcall] at hmakes
    cases hmakes

end Call

end Boxing
