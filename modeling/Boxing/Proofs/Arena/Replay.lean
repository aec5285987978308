import Boxing.Proofs.Arena.Layout
import Boxing.Proofs.World.Tenure

/-!
# Failures and hits leave no trace

A request that is refused a page, that ends in a fault or that shares an entry leaves the arena and
the store as they are, and any other one does what an allocation would do (`Steady.respond_cases`).
So the requests of these kinds can be left out of a history (`Arena.shortened`): the rest of it, as
allocations, is answered the same references and ends in the same arena and the same store
(`Steady.respondAll_shortened`).
-/

set_option autoImplicit false

namespace Boxing

/-- The request for a slot of its own for the same number. -/
def Request.asAllocation (q : Request) : Request := { q with mode := .allocate }

theorem Request.wantsSlot_asAllocation (q : Request) : q.asAllocation.WantsSlot :=
  fun hmode => by cases hmode

namespace Arena

/-- The number of slots that these requests take if `l` slots of the page are in use. -/
def slotsGiven (c : Nat) (requests : List Request) (l : Nat) : Nat := slotsTaken c requests l - l

/-- The allocation in the place of a request that took a slot. -/
def keptOf (q : Request) : Answer → List Request
  | .ok (.ok _) => if q.WantsSlot then [q.asAllocation] else []
  | _ => []

/-- The history without the requests that failed or shared an entry. -/
def shortened : List Request → List Answer → List Request
  | q :: rest, answer :: answers => keptOf q answer ++ shortened rest answers
  | _, _ => []

/-- The answer to a request for a slot if the page is full and no memory is left. -/
def refusal (c : Nat) : Answer :=
  if c = ArenaConfig.maxPageCapacity then .error (.overflow .add)
  else .ok (.error (.resourceExhausted (c * 8)))

theorem left_of_taken {q : Request} (hw : q.WantsSlot) (rest : List Request) (r : NumberRef)
    (answers : List Answer) :
    shortened (q :: rest) (.ok (.ok r) :: answers) = q.asAllocation :: shortened rest answers ∧
      taken (q :: rest) (.ok (.ok r) :: answers) = r :: taken rest answers := by
  simp [shortened, keptOf, taken, takenBy, hw]

theorem left_of_not_taken {q : Request} {answer : Answer} (hkept : keptOf q answer = [])
    (htaken : takenBy q answer = []) (rest : List Request) (answers : List Answer) :
    shortened (q :: rest) (answer :: answers) = shortened rest answers ∧
      taken (q :: rest) (answer :: answers) = taken rest answers := by
  rw [shortened, hkept, taken, htaken]
  exact ⟨rfl, rfl⟩

/-! ## Counting slots from a page in use -/

theorem room_iff {c l : Nat} (hl : l ≤ c) (hc : 0 < c) : (l = 0 ∨ l % c ≠ 0) ↔ l < c := by
  rcases Nat.lt_or_eq_of_le hl with hlt | rfl
  · rw [Nat.mod_eq_of_lt hlt]
    omega
  · rw [Nat.mod_self]
    omega

theorem slotsTaken_add (c : Nat) (requests : List Request) {m : Nat} (hm : 0 < m) :
    slotsTaken c requests (c + m) = c + slotsTaken c requests m := by
  induction requests generalizing m with
  | nil => rfl
  | cons q rest ih =>
    have htakes : q.TakesSlot c (c + m) ↔ q.TakesSlot c m := by
      rw [Request.TakesSlot, Request.TakesSlot, Nat.add_mod_left]
      have hm' : m ≠ 0 := by omega
      simp [hm']
    rw [slotsTaken, slotsTaken]
    by_cases ht : q.TakesSlot c m
    · rw [if_pos ht, if_pos (htakes.2 ht), Nat.add_assoc, ih (Nat.succ_pos m)]
    · rw [if_neg ht, if_neg (htakes.not.2 ht), ih hm]

theorem slotsGiven_of_takesSlot {c l : Nat} {q : Request} (h : q.TakesSlot c l)
    (rest : List Request) : slotsGiven c (q :: rest) l = slotsGiven c rest (l + 1) + 1 := by
  have hle := le_slotsTaken c rest (l + 1)
  rw [slotsGiven, slotsGiven, slotsTaken, if_pos h]
  omega

theorem slotsGiven_of_not_takesSlot {c l : Nat} {q : Request} (h : ¬ q.TakesSlot c l)
    (rest : List Request) : slotsGiven c (q :: rest) l = slotsGiven c rest l := by
  rw [slotsGiven, slotsGiven, slotsTaken, if_neg h]

theorem slotsGiven_of_full (c : Nat) (rest : List Request) :
    slotsGiven c rest (c + 1) = slotsGiven c rest 1 := by
  rw [slotsGiven, slotsGiven, slotsTaken_add c rest Nat.one_pos]
  omega

variable {table : PreloadTable} {a : Arena} {s : Store}

theorem keeps_serveAll (table : PreloadTable) (requests : List Request) (a : Arena) :
    Keeps Store.Leads (a.serveAll table requests) := by
  induction requests generalizing a with
  | nil => exact keeps_pure _
  | cons q rest ih =>
    exact keeps_bind (keeps_serve table q a) fun served => keeps_bind (ih _) fun _ => keeps_pure _

theorem serveAll_cons {q : Request} {rest : List Request} {answer : Except ArenaError NumberRef}
    {answers : List (Except ArenaError NumberRef)} {a₁ a₂ : Arena} {s₁ s₂ : Store}
    (hfirst : a.serve table q s = .ok (answer, a₁) s₁)
    (hrest : a₁.serveAll table rest s₁ = .ok (answers, a₂) s₂) :
    a.serveAll table (q :: rest) s = .ok (answer :: answers, a₂) s₂ := by
  rw [serveAll, bind_of_ok hfirst]
  show (serveAll table rest a₁ >>= _) s₁ = _
  rw [bind_of_ok hrest]
  rfl

theorem respondAll_cons {q : Request} {rest : List Request} {answer : Answer}
    {answers : List Answer} {a₁ a₂ : Arena} {s₁ s₂ : Store}
    (hfirst : a.respond table q s = ⟨answer, a₁, s₁⟩)
    (hrest : a₁.respondAll table rest s₁ = (answers, a₂, s₂)) :
    a.respondAll table (q :: rest) s = (answer :: answers, a₂, s₂) := by
  simp only [respondAll, hfirst, hrest]

theorem respondAll_leads (table : PreloadTable) (requests : List Request) (a : Arena) (s : Store) :
    Store.Leads s (a.respondAll table requests s).2.2 := by
  induction requests generalizing a s with
  | nil => exact refl_of Store.Leads s
  | cons q rest ih =>
    have hrest := ih (a.respond table q s).arena (a.respond table q s).store
    exact trans_of Store.Leads (respond_leads table q a s) hrest

/-- **A request for a slot of a full page without memory is refused**, with no trace. -/
theorem Ready.respond_of_refused (h : Ready a s) (full : a.currentPageLen s = a.pageCapacity)
    {q : Request} (hw : q.WantsSlot)
    (refused : a.pageCapacity < ArenaConfig.maxPageCapacity →
      q.memory (8 * a.pageCapacity) = false) :
    a.respond table q s = ⟨refusal a.pageCapacity, a, s⟩ := by
  have hserve := serve_of_wantsSlot (a := a) (s := s) table hw
  rw [refusal]
  by_cases spent : a.Spent s
  · rw [if_pos (h.spent_iff.1 spent).2]
    exact respond_of_error (hserve.trans (h.allocate_of_spent spent q.memory q.number))
  · have hne : a.pageCapacity ≠ ArenaConfig.maxPageCapacity :=
      fun heq => spent (h.spent_iff.2 ⟨full, heq⟩)
    rw [if_neg hne]
    have hmem := refused (Nat.lt_of_le_of_ne h.le_max hne)
    exact respond_of_ok (hserve.trans (h.allocate_of_refused full spent hmem q.number))

theorem refusal_left (q : Request) (c : Nat) :
    keptOf q (refusal c) = [] ∧ takenBy q (refusal c) = [] ∧ OnlyOverflows c (refusal c) := by
  unfold refusal
  split
  · rename_i hc
    refine ⟨rfl, rfl, fun f hf => ?_⟩
    cases hf
    exact ⟨hc, rfl⟩
  · exact ⟨rfl, rfl, onlyOverflows_ok _ _⟩

namespace Steady

theorem takesSlot_iff (h : Steady a s) (q : Request) :
    q.TakesSlot a.pageCapacity (a.currentPageLen s) ↔ q.WantsSlot ∧
      (a.currentPageLen s < a.pageCapacity ∨
        a.pageCapacity < ArenaConfig.maxPageCapacity ∧ q.memory (8 * a.pageCapacity) = true) := by
  rw [Request.TakesSlot, ← or_assoc, room_iff h.len_le h.pos]

/-- **A request leaves no trace or takes a slot.** -/
theorem respond_cases (h : Steady a s) (ht : table.Filled s) (q : Request)
    (fits : q.TakesSlot a.pageCapacity (a.currentPageLen s) →
      a.slotsAllocated + 1 < UInt64.size) :
    (¬ q.TakesSlot a.pageCapacity (a.currentPageLen s) ∧ ∃ answer,
      a.respond table q s = ⟨answer, a, s⟩ ∧ keptOf q answer = [] ∧ takenBy q answer = [] ∧
        OnlyOverflows a.pageCapacity answer) ∨
    (q.TakesSlot a.pageCapacity (a.currentPageLen s) ∧
      ∃ r a' s', a.allocate q.memory q.number s = .ok (.ok r, a') s' ∧ Steady a' s' ∧
        a'.pageCapacity = a.pageCapacity ∧ a'.slotsAllocated = a.slotsAllocated + 1 ∧
        (a'.currentPageLen s' = a.currentPageLen s + 1 ∨
          (a.currentPageLen s = a.pageCapacity ∧ a'.currentPageLen s' = 1))) := by
  have hiff := h.takesSlot_iff q
  by_cases hw : q.WantsSlot
  · by_cases room : a.currentPageLen s < a.pageCapacity
    · have takes := hiff.2 ⟨hw, .inl room⟩
      exact .inr ⟨takes, _, _, _, h.allocate_of_room room (fits takes) q.memory q.number,
        h.counted room q.number, rfl, rfl, .inl (h.currentPageLen_counted q.number)⟩
    · have full := full_of_not_room h.toReady room
      by_cases granted : a.pageCapacity < ArenaConfig.maxPageCapacity ∧
          q.memory (8 * a.pageCapacity) = true
      · have takes := hiff.2 ⟨hw, .inr granted⟩
        have hslots := fits takes
        have hpages := h.pages_le_slots full
        refine .inr ⟨takes, _, _, _, h.allocate_of_granted full (h.not_spent_of_lt granted.1)
          granted.2 (by omega) hslots q.number, h.rolled full q.number, rfl, rfl,
          .inr ⟨full, ?_⟩⟩
        rw [h.toReady.rolled.currentPageLen_counted, currentPageLen_rolled]
      · refine .inl ⟨fun takes => ?_, _, h.respond_of_refused full hw fun small => ?_,
          refusal_left q _⟩
        · exact (hiff.1 takes).2.elim room granted
        · simpa using fun hmem => granted ⟨small, hmem⟩
  · -- shared
    obtain ⟨r, -, hrespond⟩ := respond_of_shared (a := a) ht hw
    exact .inl ⟨fun takes => hw takes.1, _, hrespond, if_neg hw, if_neg hw, onlyOverflows_ok _ _⟩

/-- **A history and what is left of it end alike**, by induction on its requests. -/
theorem respondAll_shortened (h : Steady a s) (ht : table.Filled s) (requests : List Request)
    (fits : a.slotsAllocated + slotsGiven a.pageCapacity requests (a.currentPageLen s) <
      UInt64.size) :
    ∃ answers a' s', a.respondAll table requests s = (answers, a', s') ∧
      a.serveAll table (shortened requests answers) s =
        .ok ((taken requests answers).map .ok, a') s' ∧
      List.Forall₂ (fun q r => r.get s' = .ok q.number) (shortened requests answers)
        (taken requests answers) ∧
      ∀ answer ∈ answers, OnlyOverflows a.pageCapacity answer := by
  induction requests generalizing a s with
  | nil => exact ⟨[], a, s, rfl, rfl, .nil, nofun⟩
  | cons q rest ih =>
    rcases h.respond_cases ht q fun takes => by
        rw [slotsGiven_of_takesSlot takes] at fits
        omega with
      ⟨hno, answer, hend, hkept, htaken, hfault⟩ | ⟨takes, r, a₁, s₁, hend, h₁, hcap, hslots, hlen⟩
    · rw [slotsGiven_of_not_takesSlot hno] at fits
      obtain ⟨answers, a', s', hrest, hshort, hreads, hfaults⟩ := ih h ht fits
      refine ⟨answer :: answers, a', s', respondAll_cons hend hrest, ?_⟩
      rw [(left_of_not_taken hkept htaken rest answers).1,
        (left_of_not_taken hkept htaken rest answers).2]
      exact ⟨hshort, hreads, List.forall_mem_cons.2 ⟨hfault, hfaults⟩⟩
    · -- the same slot is given to an allocation
      rw [slotsGiven_of_takesSlot takes] at fits
      have hserve := (serve_of_wantsSlot table takes.1).trans hend
      have halloc := (serve_of_wantsSlot table q.wantsSlot_asAllocation).trans hend
      obtain ⟨-, hgrows⟩ := (keeps_serve table q a).of_ok hserve h.store
      have hgiven : slotsGiven a.pageCapacity rest (a₁.currentPageLen s₁) =
          slotsGiven a.pageCapacity rest (a.currentPageLen s + 1) := by
        rcases hlen with hlen | ⟨hfull, hlen⟩
        · rw [hlen]
        · rw [hlen, hfull, slotsGiven_of_full]
      obtain ⟨answers, a', s', hrest, hshort, hreads, hfaults⟩ := ih h₁ (ht.of_grows hgrows)
        (by rw [hcap, hslots, hgiven]; omega)
      have hread : r.get s' = .ok q.number := by
        have hlater := (respondAll_leads table rest a₁ s₁ h₁.store).2
        rw [hrest] at hlater
        exact NumberRef.get_of_grows hlater (allocateWithin_ok h.store hend).after
      refine ⟨.ok (.ok r) :: answers, a', s', respondAll_cons (respond_of_ok hserve) hrest, ?_⟩
      rw [(left_of_taken takes.1 rest r answers).1, (left_of_taken takes.1 rest r answers).2]
      refine ⟨serveAll_cons halloc hshort, .cons hread hreads, ?_⟩
      rw [hcap] at hfaults
      exact List.forall_mem_cons.2 ⟨onlyOverflows_ok _ _, hfaults⟩

end Steady

/-- However often a full page could not be replaced, the arena goes on from where it stood. -/
theorem respondAll_refusals (h : Ready a s) (full : a.currentPageLen s = a.pageCapacity)
    {refusals : List Request}
    (refused : ∀ q ∈ refusals, q.WantsSlot ∧ q.memory (8 * a.pageCapacity) = false)
    {rest : List Request} {answers : List Answer} {a' : Arena} {s' : Store}
    (hrest : a.respondAll table rest s = (answers, a', s')) :
    a.respondAll table (refusals ++ rest) s =
      (List.replicate refusals.length (refusal a.pageCapacity) ++ answers, a', s') := by
  induction refusals with
  | nil => exact hrest
  | cons q more ih =>
    obtain ⟨hw, hmem⟩ := refused q List.mem_cons_self
    exact respondAll_cons (h.respond_of_refused full hw fun _ => hmem)
      (ih fun p hp => refused p (List.mem_cons_of_mem _ hp))

end Arena

namespace World

open Arena (slotsGiven shortened taken refusal OnlyOverflows)

end World

end Boxing
