import Boxing.Proofs.Arena.Fresh
import Boxing.Session.World

/-!
# What a call does to the world

Most calls leave the value registers alone and make the store grow (`World.Leads`, kept by
`keeps_perform`). The others fill one new value register with what a *maker* gives (`Call.maker`,
`perform_maker`) or empty one. `Call.effect` puts the three together.

A number that a maker gives has one of three sources (`World.Source`, `source_of_maker`): a fresh
slot, the entry of a preloaded number, or another register.
-/

set_option autoImplicit false

namespace Boxing

namespace World

/-- `w'` is `w` with a greater store; the values and the table are the same. -/
structure Leads (w w' : World) : Prop where
  table : w'.table = w.table
  values : w'.values = w.values
  store : w.store.Leads w'.store

instance : IsPreorder World Leads where
  refl w := ⟨rfl, rfl, refl_of Store.Leads w.store⟩
  trans _ _ _ h₁ h₂ := ⟨h₂.table.trans h₁.table, h₂.values.trans h₁.values,
    trans_of Store.Leads h₁.store h₂.store⟩

/-! ## Actions on the store -/

theorem onStore_of_ok {α : Type} {act : StoreM α} {w : World} {a : α} {s : Store}
    (h : act w.store = .ok a s) : onStore act w = .ok a { w with store := s } := by
  simp only [onStore, h]

theorem onStore_of_error {α : Type} {act : StoreM α} {w : World} {f : Fault} {s : Store}
    (h : act w.store = .error f s) : onStore act w = .error (.fault f) { w with store := s } := by
  simp only [onStore, h]

theorem onStore_ok {α : Type} {act : StoreM α} {w w' : World} {a : α}
    (h : onStore act w = .ok a w') : act w.store = .ok a w'.store := by
  cases ha : act w.store with
  | ok b s =>
    rw [onStore_of_ok ha] at h
    cases h
    rfl
  | error f s =>
    rw [onStore_of_error ha] at h
    cases h

theorem keeps_onStore {α : Type} {act : StoreM α} (h : Keeps Store.Leads act) :
    Keeps Leads (onStore act) := by
  intro w
  have hs := h w.store
  cases ha : act w.store with
  | ok a s =>
    rw [onStore_of_ok ha]
    exact ⟨rfl, rfl, by rwa [ha] at hs⟩
  | error f s =>
    rw [onStore_of_error ha]
    exact ⟨rfl, rfl, by rwa [ha] at hs⟩

theorem keeps_observe {α : Type} (look : Store → Except Fault α) : Keeps Leads (observe look) := by
  intro w
  unfold observe
  split <;> exact refl_of Leads w

end World

/-! ## Registers -/

namespace Shelf

open World (Leads)

variable {α : Type} (shelf : Shelf α)

theorem keeps_read (handle : Handle) (i : Nat) : Keeps Leads (shelf.read handle i) := by
  refine keeps_bind keeps_get fun w => ?_
  split
  · exact keeps_pure _
  · exact keeps_throw _

theorem read_ok {shelf : Shelf α} {handle : Handle} {i : Nat} {w w' : World} {a : α}
    (h : shelf.read handle i w = .ok a w') : (shelf.registers w).content? i = some a ∧ w' = w := by
  rw [read, bind_get] at h
  cases hc : (shelf.registers w).content? i with
  | some b =>
    rw [hc] at h
    cases h
    exact ⟨rfl, rfl⟩
  | none =>
    rw [hc] at h
    cases h

theorem read_error {shelf : Shelf α} {handle : Handle} {i : Nat} {w w' : World} {f : Failure}
    (h : shelf.read handle i w = .error f w') : w' = w := by
  rw [read, bind_get] at h
  cases hc : (shelf.registers w).content? i with
  | some b =>
    rw [hc] at h
    cases h
  | none =>
    rw [hc] at h
    cases h
    rfl

/-- The registers hold neither values nor the table nor the store. -/
def Apart : Prop := ∀ f w, Leads w (shelf.change f w)

theorem apart_arenas : arenas.Apart := fun _ w => ⟨rfl, rfl, refl_of Store.Leads w.store⟩

theorem apart_pages : pages.Apart := fun _ w => ⟨rfl, rfl, refl_of Store.Leads w.store⟩

theorem apart_snapshots : snapshots.Apart := fun _ w => ⟨rfl, rfl, refl_of Store.Leads w.store⟩

section
variable {shelf : Shelf α} (apart : shelf.Apart)
include apart

theorem keeps_keep {act : WorldM α} (h : Keeps Leads act) : Keeps Leads (shelf.keep act) := by
  intro w
  cases ha : act w with
  | ok a w' =>
    simp only [keep, ha]
    exact trans_of Leads (h.of_ok ha) (apart _ w')
  | error f w' =>
    simp only [keep, ha]
    exact trans_of Leads (h.of_error ha) (apart _ w')

theorem keeps_drop (handle : Handle) (i : Nat) : Keeps Leads (shelf.drop handle i) :=
  keeps_bind (keeps_read shelf handle i) fun _ => fun w => apart _ w

end

/-- What goes into a new value register. -/
def made (act : WorldM Value) (w : World) : Option Value :=
  match act w with
  | .ok v _ => some v
  | .error _ _ => none

/-- A new value register is the last one, and the others stay as they are. -/
theorem stateAfter_keep_values (act : WorldM Value) (w : World) :
    stateAfter (values.keep act w) = { stateAfter (act w) with
      values := (stateAfter (act w)).values.push (made act w) } := by
  cases ha : act w <;> simp only [keep, made, ha] <;> rfl

/-- To drop a value empties its register, if there is something in it. -/
theorem stateAfter_drop_values (i : Nat) (w : World) :
    stateAfter (values.drop .value i w) = w ∨
      stateAfter (values.drop .value i w) = { w with values := Registers.clear w.values i } := by
  cases h : values.read .value i w with
  | ok a w' =>
    obtain ⟨-, rfl⟩ := read_ok h
    rw [drop, bind_of_ok h]
    exact .inr rfl
  | error f w' =>
    rw [drop, bind_of_error h]
    exact .inl (read_error h)

end Shelf

/-! ## Operations -/

namespace World

/-- The world after a request to the arena in register `i`. -/
def settled (w : World) (i : Nat) (r : Arena.Response) : World :=
  { w with store := r.store, arenas := w.arenas.setIfInBounds i (some r.arena) }

theorem request_of_answer {i : Nat} {a : Arena} {q : Request} {w : World}
    {answer : Except ArenaError NumberRef}
    (h : (a.respond w.table q w.store).answer = .ok answer) :
    request i a q w = .ok answer (w.settled i (a.respond w.table q w.store)) := by
  simp only [request, h]
  rfl

theorem request_of_fault {i : Nat} {a : Arena} {q : Request} {w : World} {f : Fault}
    (h : (a.respond w.table q w.store).answer = .error f) :
    request i a q w = .error (.fault f) (w.settled i (a.respond w.table q w.store)) := by
  simp only [request, h]
  rfl

theorem stateAfter_request (i : Nat) (a : Arena) (q : Request) (w : World) :
    stateAfter (request i a q w) = w.settled i (a.respond w.table q w.store) := by
  cases h : (a.respond w.table q w.store).answer with
  | ok answer => rw [request_of_answer h]; rfl
  | error f => rw [request_of_fault h]; rfl

theorem keeps_request (i : Nat) (a : Arena) (q : Request) : Keeps Leads (request i a q) := by
  intro w
  rw [stateAfter_request]
  exact ⟨rfl, rfl, Arena.respond_leads _ q a w.store⟩

theorem keeps_mint (memory : Memory) (i : Nat) (mode : Mode) (n : Binary64) :
    Keeps Leads (mint memory i mode n) := by
  refine keeps_bind (Shelf.keeps_read _ _ _) fun a => keeps_bind (keeps_request i a _) fun _ => ?_
  split
  · exact keeps_pure _
  · exact keeps_throw _

theorem keeps_lookup (n : Binary64) : Keeps Leads (lookup n) := by
  refine keeps_bind keeps_get fun w => keeps_bind (keeps_observe _) fun found => ?_
  split
  · exact keeps_pure _
  · exact keeps_throw _

theorem keeps_number (i : Nat) (n : Binary64) : Keeps Leads (number i n) := by
  refine keeps_bind (Shelf.keeps_read _ _ _) fun page => ?_
  refine keeps_bind (keeps_onStore (NumberRef.keeps_alloc page n)) fun found => ?_
  split
  · exact keeps_pure _
  · exact keeps_throw _

theorem keeps_configureArena (memory : Memory) (config : ArenaConfig) :
    Keeps Leads (configureArena memory config) := by
  refine keeps_bind (keeps_onStore (Arena.keeps_withConfig memory config)) fun made => ?_
  split
  · exact keeps_pure _
  · exact keeps_throw _

theorem keeps_addPage (lifetime : Lifetime) {p : Page} (h : p.WellFormed) :
    Keeps Leads (addPage lifetime p) :=
  keeps_bind (keeps_onStore (Store.keeps_add h)) fun _ => keeps_pure _

theorem keeps_requestPage (memory : Memory) (c : UInt32) : Keeps Leads (requestPage memory c) := by
  unfold requestPage
  split
  · rename_i hp
    exact keeps_addPage .counted (Arena.wellFormed_of_tryNew hp)
  · exact keeps_throw _

theorem keeps_stats (i : Nat) : Keeps Leads (stats i) :=
  keeps_bind (Shelf.keeps_read _ _ _) fun _ => keeps_bind keeps_get fun _ => keeps_pure _

end World

/-! ## Calls -/

namespace Call

open World (Leads)

/-- What a call puts into a new value register, if it makes one. -/
def maker (memory : Memory) : Call → Option (WorldM Value)
  | .mint a mode n => some (do return .number (← World.mint memory a mode n))
  | .lookup n => some (World.lookup n)
  | .absent => some (return .nil)
  | .truth b => some (return .bool b)
  | .copy v => some (Shelf.values.read .value v)
  | .number p n => some (World.number p n)
  | _ => none

theorem perform_maker {memory : Memory} {call : Call} {act : WorldM Value}
    (h : call.maker memory = some act) :
    call.perform memory = Outcome.value <$> Shelf.values.keep act := by
  cases call <;> cases h <;> rfl

theorem keeps_maker {memory : Memory} {call : Call} {act : WorldM Value}
    (h : call.maker memory = some act) : Keeps Leads act := by
  cases call <;> cases h
  case mint => exact keeps_bind (World.keeps_mint _ _ _ _) fun _ => keeps_pure _
  case lookup => exact World.keeps_lookup _
  case absent => exact keeps_pure _
  case truth => exact keeps_pure _
  case copy => exact Shelf.keeps_read _ _ _
  case number => exact World.keeps_number _ _

/-- **A call that neither makes a value nor drops one** leaves the values alone. -/
theorem keeps_perform (memory : Memory) {call : Call} (h : call.maker memory = none)
    (hd : ∀ i, call ≠ .dropValue i) : Keeps Leads (call.perform memory) := by
  cases call <;> try cases h
  case newArena c =>
    exact keeps_map _ (Shelf.keeps_keep Shelf.apart_arenas
      (World.keeps_onStore (Arena.keeps_new c)))
  case configureArena c =>
    exact keeps_map _ (Shelf.keeps_keep Shelf.apart_arenas (World.keeps_configureArena memory ⟨c⟩))
  case standardArena =>
    exact keeps_map _ (Shelf.keeps_keep Shelf.apart_arenas
      (World.keeps_onStore (Arena.keeps_new _)))
  case newPage lifetime c =>
    exact keeps_map _ (Shelf.keeps_keep Shelf.apart_pages
      (World.keeps_addPage lifetime (Page.wellFormed_new c)))
  case requestPage c =>
    exact keeps_map _ (Shelf.keeps_keep Shelf.apart_pages (World.keeps_requestPage memory c))
  case push p n =>
    refine keeps_bind (Shelf.keeps_read _ _ _) fun page => ?_
    exact keeps_bind (World.keeps_onStore (Store.keeps_push _ n)) fun _ => keeps_pure _
  case read p slot =>
    refine keeps_bind (Shelf.keeps_read _ _ _) fun page => ?_
    exact keeps_bind (World.keeps_observe _) fun _ => keeps_pure _
  case snapshot a =>
    exact keeps_bind (Shelf.keeps_keep Shelf.apart_snapshots (World.keeps_stats a)) fun _ =>
      keeps_pure _
  case pageBytes c => exact keeps_bind (World.keeps_observe _) fun _ => keeps_pure _
  case dropArena i =>
    exact keeps_bind (Shelf.keeps_drop Shelf.apart_arenas _ i) fun _ => keeps_pure _
  case dropValue i => exact absurd rfl (hd i)
  case dropPage i =>
    exact keeps_bind (Shelf.keeps_drop Shelf.apart_pages _ i) fun _ => keeps_pure _

end Call

/-! ## Where a number comes from -/

namespace Call

/-- The number of which a call makes a value. -/
def number? : Call → Option Binary64
  | .mint _ _ n => some n
  | .lookup n => some n
  | .number _ n => some n
  | _ => none

/-- The call takes the entry of a preloaded number and no slot of its own. -/
def SharesEntry : Call → Prop
  | .mint _ mode n => mode = .box ∧ Preloaded n
  | .lookup _ => True
  | _ => False

instance : DecidablePred SharesEntry := fun call => by
  cases call <;> unfold SharesEntry <;> infer_instance

end Call

namespace World

/-- The ways in which a call in `w` makes a number that names `r`, where `s` is the store that it
leaves. -/
inductive Source (w : World) (s : Store) : Call → NumberRef → Prop
  | fresh {call : Call} {n : Binary64} {r : NumberRef} : call.number? = some n →
      ¬ call.SharesEntry → r.Fresh w.store s n → Source w s call r
  | entry {call : Call} {n : Binary64} {r : NumberRef} : call.number? = some n →
      call.SharesEntry → w.table.get? n = .ok (some r) → Source w s call r
  | copy {v : Nat} {r : NumberRef} : w.values.content? v = some (.number r) →
      Source w s (.copy v) r

theorem mint_ok {memory : Memory} {i : Nat} {mode : Mode} {n : Binary64} {w w' : World}
    {r : NumberRef} (h : mint memory i mode n w = .ok r w') :
    ∃ a a', Arena.serve w.table ⟨mode, n, memory⟩ a w.store = .ok (.ok r, a') w'.store := by
  obtain ⟨a, w₁, hr, h₁⟩ := bind_ok h
  obtain ⟨-, rfl⟩ := Shelf.read_ok hr
  obtain ⟨answer, w₂, hs, h₂⟩ := bind_ok h₁
  cases ha : (a.respond w₁.table ⟨mode, n, memory⟩ w₁.store).answer with
  | error f =>
    rw [request_of_fault ha] at hs
    cases hs
  | ok answered =>
    rw [request_of_answer ha] at hs
    cases hs
    cases answer with
    | ok r' =>
      cases h₂
      exact ⟨a, _, Arena.serve_of_answer ha⟩
    | error e => cases h₂

theorem lookup_ok {n : Binary64} {w w' : World} {v : Value} (h : lookup n w = .ok v w') :
    w.table.lookup n = .ok (some v) ∧ w' = w := by
  rw [lookup, bind_get] at h
  obtain ⟨found, w₁, ho, h₁⟩ := bind_ok h
  cases hl : w.table.lookup n with
  | error f =>
    simp only [observe, hl] at ho
    cases ho
  | ok entry =>
    simp only [observe, hl] at ho
    injection ho with hfound hw
    subst hfound hw
    cases entry with
    | none => cases h₁
    | some v' =>
      cases h₁
      exact ⟨rfl, rfl⟩

theorem number_ok {i : Nat} {n : Binary64} {w w' : World} {v : Value}
    (hs : w.store.WellFormed) (h : number i n w = .ok v w') :
    ∃ r, v = .number r ∧ r.Fresh w.store w'.store n := by
  obtain ⟨page, w₁, hr, h₁⟩ := bind_ok h
  obtain ⟨-, rfl⟩ := Shelf.read_ok hr
  obtain ⟨found, w₂, ha, h₂⟩ := bind_ok h₁
  have halloc := onStore_ok ha
  rcases NumberRef.alloc_cases hs page n with ⟨-, -, hc⟩ | ⟨-, hc⟩ | ⟨-, -, hc, hf⟩
  · rw [hc] at halloc
    injection halloc with hfound
    subst hfound
    cases h₂
  · rw [hc] at halloc
    cases halloc
  · rw [hc] at halloc
    injection halloc with hfound hstore
    subst hfound
    cases h₂
    exact ⟨_, rfl, hstore ▸ hf⟩

/-- **Every number that a call makes has one of the three sources.** -/
theorem source_of_maker {memory : Memory} {call : Call} {act : WorldM Value} {w w' : World}
    {r : NumberRef} (hs : w.store.WellFormed) (ht : w.table.Filled w.store)
    (hm : call.maker memory = some act) (h : act w = .ok (.number r) w') :
    Source w w'.store call r := by
  cases call <;> cases hm
  case mint i mode n =>
    obtain ⟨r', w₁, hmint, h₁⟩ := bind_ok h
    cases h₁
    obtain ⟨a, a', hserve⟩ := mint_ok hmint
    rcases Arena.serve_ok hs ht hserve with ⟨hw, hf⟩ | ⟨hw, hg⟩
    · exact .fresh rfl (fun he => hw he.1 he.2) hf
    · have hshare : mode = .box ∧ Preloaded n := by simpa [Request.WantsSlot] using hw
      exact .entry rfl hshare hg
  case lookup n =>
    exact .entry rfl trivial (PreloadTable.get?_of_lookup (lookup_ok h).1)
  case absent => cases h
  case truth => cases h
  case copy v => exact .copy (Shelf.read_ok h).1
  case number p n =>
    obtain ⟨r', hr, hf⟩ := number_ok hs h
    cases hr
    exact .fresh rfl id hf

end World

namespace Call

open World (Leads Source)

/-- The world that a call leaves. -/
def after (call : Call) (memory : Memory) (w : World) : World :=
  stateAfter (call.perform memory w)

theorem after_dropValue (i : Nat) (memory : Memory) (w : World) :
    (Call.dropValue i).after memory w = stateAfter (Shelf.values.drop .value i w) := by
  show stateAfter ((Shelf.values.drop .value i >>= fun _ => pure Outcome.dropped) w) = _
  cases h : Shelf.values.drop .value i w with
  | ok a w' => rw [bind_of_ok h]; rfl
  | error f w' => rw [bind_of_error h]; rfl

/-- **What a call does to the values**: it leaves them alone, or drops one, or puts the result of
its maker behind them. -/
theorem effect (call : Call) (memory : Memory) {w : World} (hs : w.store.WellFormed)
    (ht : w.table.Filled w.store) :
    (call.after memory w).table = w.table ∧ w.store.Leads (call.after memory w).store ∧
      ((call.maker memory = none ∧ ((call.after memory w).values = w.values ∨
          ∃ i, (call.after memory w).values = Registers.clear w.values i)) ∨
        ((call.maker memory).isSome ∧ ∃ content,
          (call.after memory w).values = w.values.push content ∧
          ∀ r, content = some (.number r) → Source w (call.after memory w).store call r)) := by
  cases hm : call.maker memory with
  | some act =>
    have hk := keeps_maker hm w
    have hafter : call.after memory w = { stateAfter (act w) with
        values := (stateAfter (act w)).values.push (Shelf.made act w) } := by
      rw [after, perform_maker hm, stateAfter_map, Shelf.stateAfter_keep_values]
    rw [hafter]
    refine ⟨hk.table, hk.store, .inr ⟨rfl, Shelf.made act w, by rw [← hk.values], ?_⟩⟩
    intro r hr
    cases ha : act w with
    | ok v w₁ =>
      rw [Shelf.made, ha] at hr
      cases hr
      have hsource := World.source_of_maker hs ht hm ha
      exact hsource
    | error f w₁ =>
      rw [Shelf.made, ha] at hr
      cases hr
  | none =>
    by_cases hd : ∃ i, call = .dropValue i
    · obtain ⟨i, rfl⟩ := hd
      rcases Shelf.stateAfter_drop_values i w with h | h
      · rw [after_dropValue, h]
        exact ⟨rfl, refl_of Store.Leads w.store, .inl ⟨rfl, .inl rfl⟩⟩
      · rw [after_dropValue, h]
        exact ⟨rfl, refl_of Store.Leads w.store, .inl ⟨rfl, .inr ⟨i, rfl⟩⟩⟩
    · have hk := keeps_perform memory hm (fun i hi => hd ⟨i, hi⟩) w
      exact ⟨hk.table, hk.store, .inl ⟨rfl, .inl hk.values⟩⟩

end Call

end Boxing
