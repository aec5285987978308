import Boxing.Proofs.World.Ledger
import Mathlib.Logic.Relation

/-!
# What becomes of live values

`Sound w l`: the ledger `l` tells of every live number of the world `w` how it was born. Each call
keeps it (`Sound.step`), so a program does (`Sound.run`). It gives the two statements about all
programs:

* `live_numbers_as_minted`: a live number reads as the bits of its minting call, through the very
  reference that this call made.
* `aliases_iff_origin`: live values alias exactly when both are numbers of one origin.
-/

set_option autoImplicit false

namespace Boxing

/-! ## Registers -/

namespace Registers

variable {α : Type}

theorem content?_push (r : Registers α) (o : Option α) (i : Nat) :
    content? (r.push o) i = if i = r.size then o else r.content? i := by
  unfold content?
  rw [Array.getElem?_push]
  split
  · rfl
  · rfl

/-- What is still there after one register is emptied was there before. -/
theorem content?_of_clear {r : Registers α} {i j : Nat} {a : α}
    (h : (r.clear j).content? i = some a) : r.content? i = some a := by
  rw [content?, clear, Array.getElem?_setIfInBounds] at h
  split at h
  · split at h
    · cases h
    · cases h
  · exact h

end Registers

/-! ## The births of live numbers -/

theorem Call.makesValue_eq (call : Call) (memory : Memory) :
    call.makesValue = (call.maker memory).isSome := by
  cases call <;> rfl

/-- The ledger `l` has the births of all numbers that are live in the world `w`. -/
structure Sound (w : World) (l : Ledger) : Prop where
  store : w.store.WellFormed
  table : w.table.Filled w.store
  size : l.size = w.values.size
  live : ∀ {i r}, w.values.content? i = some (.number r) → ∃ b, l.birth? i = some b ∧ b.ref = r
  valid : l.Valid w.table w.store

namespace Ledger

open World (Source)

theorem lastRef?_of_push {w w' : World} {content : Option Value}
    (h : w'.values = w.values.push content) : lastRef? w' = content.bind Value.ref? := by
  rw [lastRef?, h, Array.back?_push]
  rfl

theorem birthBy_of_number {call : Call} {n : Binary64} (h : call.number? = some n) (l : Ledger)
    (r : NumberRef) : l.birthBy (some r) call =
      some ⟨n, if call.SharesEntry then .entry n else .call l.size, r⟩ := by
  cases call <;> cases h <;> rfl

/-- Without a reference there is no birth but that of a copy. -/
theorem has_of_birthBy_none {l : Ledger} {call : Call} {b : Birth}
    (h : l.birthBy none call = some b) : l.Has b := by
  cases call
  case copy v => exact ⟨v, h⟩
  all_goals cases h

/-- **What a maker puts behind the values is born validly**, and its birth has its reference. -/
theorem Valid.push_made {w : World} {s : Store} {l : Ledger} {call : Call} {content : Option Value}
    (h : Sound w l) (hg : w.store.Grows s)
    (hsource : ∀ r, content = some (.number r) → Source w s call r) :
    Valid (l.push (l.birthBy (content.bind Value.ref?) call)) w.table s ∧
      ∀ r, content = some (.number r) →
        ∃ b, l.birthBy (content.bind Value.ref?) call = some b ∧ b.ref = r := by
  have hold : l.Valid w.table s := h.valid.of_grows hg
  by_cases hc : ∃ r, content = some (.number r)
  · obtain ⟨r, rfl⟩ := hc
    show Valid (l.push (l.birthBy (some r) call)) _ _ ∧ ∀ q, _ →
      ∃ b, l.birthBy (some r) call = some b ∧ _
    cases hsource r rfl with
    | fresh hn hs hf =>
      rw [birthBy_of_number hn, if_neg hs]
      refine ⟨h.valid.push_fresh h.table hg hf, fun q hq => ⟨_, rfl, ?_⟩⟩
      cases hq
      rfl
    | entry hn hs he =>
      rw [birthBy_of_number hn, if_pos hs]
      refine ⟨hold.push_entry (h.table.of_grows hg) he, fun q hq => ⟨_, rfl, ?_⟩⟩
      cases hq
      rfl
    | copy hv =>
      obtain ⟨b, hb, hr⟩ := h.live hv
      refine ⟨hold.push_old fun c hcopy => ⟨_, hcopy⟩, fun q hq => ⟨b, hb, ?_⟩⟩
      cases hq
      exact hr
  · have hnone : content.bind Value.ref? = none := by
      rcases content with _ | _ | _ | r
      · rfl
      · rfl
      · rfl
      · exact absurd ⟨r, rfl⟩ hc
    rw [hnone]
    exact ⟨hold.push_old fun b hb => has_of_birthBy_none hb, fun r hr => absurd ⟨r, hr⟩ hc⟩

end Ledger

namespace Sound

section
variable {w w' : World} {l : Ledger} (h : Sound w l) (htable : w'.table = w.table)
  (hstore : w.store.Leads w'.store)
include h htable hstore

/-- A step without a new register: a value may go, but none comes. -/
theorem keep (hsize : w'.values.size = w.values.size)
    (hvalues : ∀ {i v}, w'.values.content? i = some v → w.values.content? i = some v) :
    Sound w' l := by
  obtain ⟨hwf, hgrows⟩ := hstore h.store
  refine ⟨hwf, ?_, h.size.trans hsize.symm, fun hr => h.live (hvalues hr), ?_⟩
  · rw [htable]
    exact h.table.of_grows hgrows
  · rw [htable]
    exact h.valid.of_grows hgrows

/-- A step that fills the next register. -/
theorem push {call : Call} {content : Option Value} (hvalues : w'.values = w.values.push content)
    (hsource : ∀ r, content = some (.number r) → World.Source w w'.store call r) :
    Sound w' (l.push (l.birthBy (content.bind Value.ref?) call)) := by
  obtain ⟨hwf, hgrows⟩ := hstore h.store
  obtain ⟨hvalid, hborn⟩ := Ledger.Valid.push_made h hgrows hsource
  refine ⟨hwf, ?_, ?_, fun {i r} hr => ?_, by rw [htable]; exact hvalid⟩
  · rw [htable]
    exact h.table.of_grows hgrows
  · rw [hvalues, Array.size_push, Array.size_push, h.size]
  · rw [hvalues, Registers.content?_push] at hr
    rw [Ledger.birth?_push, h.size]
    split at hr
    · rename_i hi
      rw [if_pos hi]
      exact hborn r hr
    · rename_i hi
      rw [if_neg hi]
      exact h.live hr

end

/-- **Every call keeps the ledger sound.** -/
theorem step {w : World} {l : Ledger} (h : Sound w l) (call : Call) (memory : Memory) :
    Sound (call.after memory w) (l.note call (call.after memory w)) := by
  obtain ⟨htable, hstore, hvalues⟩ := call.effect memory h.store h.table
  rw [Ledger.note, call.makesValue_eq memory]
  rcases hvalues with ⟨hm, hv | ⟨i, hv⟩⟩ | ⟨hm, content, hv, hsource⟩
  · rw [hm, if_neg (by simp)]
    exact h.keep htable hstore (by rw [hv]) fun hr => by rwa [hv] at hr
  · rw [hm, if_neg (by simp)]
    refine h.keep htable hstore ?_ fun hr => Registers.content?_of_clear (hv ▸ hr)
    rw [hv, Registers.clear, Array.size_setIfInBounds]
  · rw [if_pos hm, Ledger.lastRef?_of_push hv]
    exact h.push htable hstore hv hsource

end Sound

/-! ## Programs -/

namespace World

/-- The world that calls leave. -/
def afterAll (calls : List (Call × Memory)) (w : World) : World :=
  calls.foldl (fun w call => call.1.after call.2 w) w

theorem attempt_eq (call : Call) (memory : Memory) (w : World) :
    ∃ outcome, attempt (call.perform memory) w = .ok outcome (call.after memory w) := by
  unfold attempt Call.after
  cases call.perform memory w with
  | ok a w' => exact ⟨_, rfl⟩
  | error f w' => exact ⟨_, rfl⟩

/-- No program breaks off. -/
theorem run_eq (calls : List (Call × Memory)) (w : World) :
    ∃ outcomes, run calls w = .ok outcomes (afterAll calls w) := by
  induction calls generalizing w with
  | nil => exact ⟨[], rfl⟩
  | cons head rest ih =>
    obtain ⟨call, memory⟩ := head
    obtain ⟨outcome, hcall⟩ := attempt_eq call memory w
    obtain ⟨outcomes, hrest⟩ := ih (call.after memory w)
    refine ⟨outcome :: outcomes, ?_⟩
    rw [run, bind_of_ok hcall, bind_of_ok hrest]
    rfl

end World

namespace Sound

/-- **Every program keeps the ledger sound.** -/
theorem run {w : World} {l : Ledger} (h : Sound w l) (calls : List (Call × Memory)) :
    Sound (World.afterAll calls w) (Ledger.ofRun calls w l) := by
  induction calls generalizing w l with
  | nil => exact h
  | cons head rest ih => exact ih (h.step head.1 head.2)

/-- No program changes the table. -/
theorem table_afterAll {w : World} {l : Ledger} (h : Sound w l) (calls : List (Call × Memory)) :
    (World.afterAll calls w).table = w.table := by
  induction calls generalizing w l with
  | nil => rfl
  | cons head rest ih =>
    exact (ih (h.step head.1 head.2)).trans (head.1.effect head.2 h.store h.table).1

theorem start : ∃ w₀, World.start = .ok w₀ ∧ Sound w₀ #[] := by
  obtain ⟨t, s, hbuild, hs, ht⟩ := PreloadTable.build_eq
  have hstart : World.start = .ok ⟨s, t, #[], #[], #[], #[]⟩ := by
    rw [World.start, hbuild, World.ofBuilt]
  exact ⟨_, hstart, hs, ht, rfl, fun h => by simp [Registers.content?] at h,
    Ledger.valid_empty t s⟩

end Sound

/-! ## Live values -/

namespace Sound

variable {w : World} {l : Ledger}

/-- Two live numbers name one slot exactly if they have one origin, and then they are one
reference. -/
theorem aliases_iff (h : Sound w l) {i j : Nat} {r q : NumberRef}
    (hr : w.values.content? i = some (.number r)) (hq : w.values.content? j = some (.number q)) :
    (r.aliases q = true ↔ l.origin? i = l.origin? j) ∧ (r.aliases q = true → r = q) := by
  obtain ⟨b, hb, rfl⟩ := h.live hr
  obtain ⟨c, hc, rfl⟩ := h.live hq
  have horigin : l.origin? i = l.origin? j ↔ b.origin = c.origin := by
    rw [Ledger.origin?, Ledger.origin?, hb, hc, Option.map_some, Option.map_some, Option.some_inj]
  have halias (ha : b.ref.aliases c.ref = true) : b.origin = c.origin :=
    h.valid.origin_of_aliases ⟨i, hb⟩ ⟨j, hc⟩ ha
  have heq (ho : b.origin = c.origin) : b = c := h.valid.eq_of_origin ⟨i, hb⟩ ⟨j, hc⟩ ho
  refine ⟨Iff.trans ⟨halias, fun ho => ?_⟩ horigin.symm, fun ha => by rw [heq (halias ha)]⟩
  rw [heq ho]
  exact NumberRef.aliases_equivalence.refl _

end Sound

namespace World

/-- **A live number reads as the bits of its minting call.** After any calls, the register of a live
number has a birth: the number reads as the one that the minting call was given, and its reference,
and so its page, its slot and its lifetime, is the one that this call made. -/
theorem live_numbers_as_minted (calls : List (Call × Memory)) :
    ∃ w₀ outcomes w, start = .ok w₀ ∧ run calls w₀ = .ok outcomes w ∧
      ∀ i r, w.values.content? i = some (.number r) →
        ∃ birth, (Ledger.ofRun calls w₀ #[]).birth? i = some birth ∧ r = birth.ref ∧
          r.get w.store = .ok birth.number ∧
          (Value.number r).number? w.store = .ok (some birth.number) := by
  obtain ⟨w₀, hstart, hsound⟩ := Sound.start
  obtain ⟨outcomes, hrun⟩ := run_eq calls w₀
  have h := hsound.run calls
  refine ⟨w₀, outcomes, afterAll calls w₀, hstart, hrun, fun i r hr => ?_⟩
  obtain ⟨birth, hb, rfl⟩ := h.live hr
  have hget := h.valid.reads ⟨i, hb⟩
  refine ⟨birth, hb, rfl, hget, ?_⟩
  show (do return some (← birth.ref.get _) : Except Fault (Option Binary64)) = _
  rw [hget]
  rfl

/-- **Aliasing is exactly provenance.** After any calls, two live values alias if and only if both
are numbers of one origin: copies of what one call made, or the shared entry of one preloaded
number. Aliasing is an equivalence of numbers, and live numbers that alias agree in all that can be
seen of them. -/
theorem aliases_iff_origin (calls : List (Call × Memory)) :
    ∃ w₀ outcomes w, start = .ok w₀ ∧ run calls w₀ = .ok outcomes w ∧
      (∀ i j a b, w.values.content? i = some a → w.values.content? j = some b →
        (a.aliases b = true ↔ a.isNumber = true ∧ b.isNumber = true ∧
          (Ledger.ofRun calls w₀ #[]).origin? i = (Ledger.ofRun calls w₀ #[]).origin? j)) ∧
      (Equivalence fun r q => (Value.number r).aliases (.number q) = true) ∧
      ∀ i j r q, w.values.content? i = some (.number r) → w.values.content? j = some (.number q) →
        (Value.number r).aliases (.number q) = true →
          (∃ n, r.get w.store = .ok n ∧ q.get w.store = .ok n) ∧ r.slot = q.slot ∧
            r.isCanonical = q.isCanonical ∧ r.samePage q = true := by
  obtain ⟨w₀, hstart, hsound⟩ := Sound.start
  obtain ⟨outcomes, hrun⟩ := run_eq calls w₀
  have h := hsound.run calls
  refine ⟨w₀, outcomes, afterAll calls w₀, hstart, hrun, ?_, NumberRef.aliases_equivalence, ?_⟩
  · intro i j a b ha hb
    cases a <;> cases b
    case number.number r q =>
      exact (h.aliases_iff ha hb).1.trans ⟨fun ho => ⟨rfl, rfl, ho⟩, fun ho => ho.2.2⟩
    all_goals simp [Value.aliases, Value.isNumber, Value.ref?]
  · intro i j r q hr hq ha
    obtain rfl := (h.aliases_iff hr hq).2 ha
    obtain ⟨birth, hb, rfl⟩ := h.live hr
    have hget := h.valid.reads ⟨i, hb⟩
    exact ⟨⟨_, hget, hget⟩, rfl, rfl, by simp [NumberRef.samePage]⟩

end World

end Boxing
