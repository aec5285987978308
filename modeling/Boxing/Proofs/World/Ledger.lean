import Boxing.Proofs.World.Call

/-!
# Where values come from

A `Ledger` is kept beside a program: for each value register it holds the birth of the number in it,
that is the number that the minting call was given, the reference that this call made, and the
`Origin`. A copy takes over the birth of what it is a copy of; every other number is born by its own
call, which either took a slot (`Origin.call`, told by the register that it filled) or shared the
entry of a preloaded number (`Origin.entry`).

`Ledger.Valid` is the invariant of the births: what was born reads as it was born, and two
references name one slot exactly if they have one origin. A fresh slot (`Valid.push_fresh`), a
shared entry (`Valid.push_entry`) and a copy (`Valid.push_old`) keep it.
-/

set_option autoImplicit false

namespace Boxing

/-- What brought a number about. -/
inductive Origin where
  /-- The call that filled this value register, which took a slot. -/
  | call (register : Nat)
  /-- The entry of a preloaded number. -/
  | entry (n : Binary64)
  deriving DecidableEq, Repr

/-- How the number of a value was made. -/
structure Birth where
  /-- The number that the minting call was given. -/
  number : Binary64
  origin : Origin
  /-- The reference that the minting call made. -/
  ref : NumberRef
  deriving DecidableEq, Repr

/-- The births of the numbers in the value registers. -/
abbrev Ledger := Array (Option Birth)

/-- The call fills a new value register. -/
def Call.makesValue : Call → Bool
  | .mint _ _ _ | .lookup _ | .absent | .truth _ | .copy _ | .number _ _ => true
  | _ => false

namespace Ledger

/-- The birth of the number in a register. -/
def birth? (l : Ledger) (i : Nat) : Option Birth := l[i]?.join

/-- The origin of the number in a register. -/
def origin? (l : Ledger) (i : Nat) : Option Origin := (l.birth? i).map Birth.origin

/-- The birth of what a call puts into the next register, where `made` is the reference in it. -/
def birthBy (l : Ledger) (made : Option NumberRef) : Call → Option Birth
  | .copy v => l.birth? v
  | call => do
    let n ← call.number?
    let r ← made
    return ⟨n, if call.SharesEntry then .entry n else .call l.size, r⟩

/-- The reference in the last value register. -/
def lastRef? (w : World) : Option NumberRef := w.values.back?.join.bind Value.ref?

/-- The ledger after a call that led to the world `w`. -/
def note (l : Ledger) (call : Call) (w : World) : Ledger :=
  if call.makesValue then l.push (l.birthBy (lastRef? w) call) else l

/-- The ledger of a program that starts in the world `w` with the ledger `l`. -/
def ofRun : List (Call × Memory) → World → Ledger → Ledger
  | [], _, l => l
  | (call, memory) :: rest, w, l =>
    ofRun rest (call.after memory w) (l.note call (call.after memory w))

end Ledger

/-! ## References that name one slot -/

namespace NumberRef

theorem aliases_iff {a b : NumberRef} :
    a.aliases b = true ↔ a.page.id = b.page.id ∧ a.slot = b.slot := by
  simp [aliases, samePage]

theorem aliases_comm {a b : NumberRef} : a.aliases b = true ↔ b.aliases a = true := by
  rw [aliases_iff, aliases_iff, eq_comm, eq_comm (a := a.slot)]

theorem aliases_equivalence : Equivalence fun a b : NumberRef => a.aliases b = true := by
  refine ⟨fun a => aliases_iff.2 ⟨rfl, rfl⟩, aliases_comm.1, fun {a b c} hab hbc => ?_⟩
  obtain ⟨hp₁, hs₁⟩ := aliases_iff.1 hab
  obtain ⟨hp₂, hs₂⟩ := aliases_iff.1 hbc
  exact aliases_iff.2 ⟨hp₁.trans hp₂, hs₁.trans hs₂⟩

theorem get_of_aliases {a b : NumberRef} (h : a.aliases b = true) (s : Store) :
    a.get s = b.get s := by
  obtain ⟨hp, hs⟩ := aliases_iff.1 h
  rw [get, get, hp, hs]

/-- What reads already is not what a fresh reference names. -/
theorem Fresh.not_aliases {s t : Store} {r : NumberRef} {n : Binary64} (h : Fresh s t r n)
    {e : NumberRef} {m : Binary64} (he : e.get s = .ok m) : ¬ r.aliases e = true :=
  fun ha => h.before m (by rw [get_of_aliases ha, he])

end NumberRef

/-! ## The invariant of the births -/

namespace Ledger

/-- A birth that is in the ledger. -/
def Has (l : Ledger) (b : Birth) : Prop := ∃ i, l.birth? i = some b

theorem birth?_push (l : Ledger) (o : Option Birth) (i : Nat) :
    birth? (l.push o) i = if i = l.size then o else l.birth? i := by
  unfold birth?
  rw [Array.getElem?_push]
  split
  · rfl
  · rfl

theorem has_push {l : Ledger} {o : Option Birth} {b : Birth} (h : Has (l.push o) b) :
    o = some b ∨ l.Has b := by
  obtain ⟨i, hi⟩ := h
  rw [birth?_push] at hi
  split at hi
  · exact .inl hi
  · exact .inr ⟨i, hi⟩

/-- The births of a ledger beside the table `t` and the store `s`. -/
structure Valid (l : Ledger) (t : PreloadTable) (s : Store) : Prop where
  reads : ∀ {b}, l.Has b → b.ref.get s = .ok b.number
  call : ∀ {b j}, l.Has b → b.origin = .call j →
    j < l.size ∧ ∀ {n e}, t.get? n = .ok (some e) → ¬ b.ref.aliases e = true
  entry : ∀ {b n}, l.Has b → b.origin = .entry n → b.number = n ∧ t.get? n = .ok (some b.ref)
  eq_of_origin : ∀ {b c}, l.Has b → l.Has c → b.origin = c.origin → b = c
  origin_of_aliases : ∀ {b c}, l.Has b → l.Has c → b.ref.aliases c.ref = true →
    b.origin = c.origin

section
variable {l : Ledger} {t : PreloadTable} {s s' : Store}

theorem valid_empty (t : PreloadTable) (s : Store) : Valid #[] t s := by
  have hno {b : Birth} : ¬ Has #[] b := fun ⟨i, hi⟩ => by simp [birth?] at hi
  exact ⟨fun h => absurd h hno, fun h => absurd h hno, fun h => absurd h hno,
    fun h => absurd h hno, fun h => absurd h hno⟩

theorem Valid.of_grows (h : Valid l t s) (hg : s.Grows s') : Valid l t s' :=
  ⟨fun hb => NumberRef.get_of_grows hg (h.reads hb), h.call, h.entry, h.eq_of_origin,
    h.origin_of_aliases⟩

/-- A register without a number, or with a copy, adds no birth. -/
theorem Valid.push_old (h : Valid l t s) {o : Option Birth} (ho : ∀ b, o = some b → l.Has b) :
    Valid (l.push o) t s := by
  have hold {b : Birth} (hb : Has (l.push o) b) : l.Has b := by
    rcases has_push hb with hb | hb
    · exact ho b hb
    · exact hb
  refine ⟨fun hb => h.reads (hold hb), fun hb hj => ?_, fun hb => h.entry (hold hb),
    fun hb hc => h.eq_of_origin (hold hb) (hold hc),
    fun hb hc => h.origin_of_aliases (hold hb) (hold hc)⟩
  obtain ⟨hlt, hne⟩ := h.call (hold hb) hj
  exact ⟨by rw [Array.size_push]; omega, hne⟩

/-- A new birth has to fit with the births that are there, one by one. -/
theorem Valid.push_new (h : Valid l t s) {b : Birth} (reads : b.ref.get s = .ok b.number)
    (call : ∀ j, b.origin = .call j →
      j ≤ l.size ∧ ∀ {n e}, t.get? n = .ok (some e) → ¬ b.ref.aliases e = true)
    (entry : ∀ n, b.origin = .entry n → b.number = n ∧ t.get? n = .ok (some b.ref))
    (fits : ∀ c, l.Has c → (b.origin = c.origin → b = c) ∧
      (b.ref.aliases c.ref = true → b.origin = c.origin)) :
    Valid (l.push (some b)) t s := by
  have hcases {c : Birth} (hc : Has (l.push (some b)) c) : b = c ∨ l.Has c := by
    rcases has_push hc with hc | hc
    · exact .inl (Option.some.inj hc)
    · exact .inr hc
  refine ⟨fun hc => ?_, fun hc hj => ?_, fun hc hn => ?_, fun hc hd ho => ?_, fun hc hd ha => ?_⟩
  · rcases hcases hc with rfl | hc
    · exact reads
    · exact h.reads hc
  · rw [Array.size_push]
    rcases hcases hc with rfl | hc
    · exact ⟨Nat.lt_succ_of_le (call _ hj).1, (call _ hj).2⟩
    · exact ⟨Nat.lt_succ_of_lt (h.call hc hj).1, (h.call hc hj).2⟩
  · rcases hcases hc with rfl | hc
    · exact entry _ hn
    · exact h.entry hc hn
  · rcases hcases hc with rfl | hc <;> rcases hcases hd with rfl | hd
    · rfl
    · exact (fits _ hd).1 ho
    · exact ((fits _ hc).1 ho.symm).symm
    · exact h.eq_of_origin hc hd ho
  · rcases hcases hc with rfl | hc <;> rcases hcases hd with rfl | hd
    · rfl
    · exact (fits _ hd).2 ha
    · exact ((fits _ hc).2 (NumberRef.aliases_comm.1 ha)).symm
    · exact h.origin_of_aliases hc hd ha

/-- **A fresh slot is a birth of its own.** -/
theorem Valid.push_fresh (h : Valid l t s) (ht : t.Filled s) (hg : s.Grows s') {r : NumberRef}
    {n : Binary64} (hf : r.Fresh s s' n) : Valid (l.push (some ⟨n, .call l.size, r⟩)) t s' := by
  refine (h.of_grows hg).push_new hf.after (fun j hj => ?_) (fun m hm => by cases hm)
    (fun c hc => ⟨fun ho => ?_, fun ha => ?_⟩)
  · cases hj
    refine ⟨Nat.le_refl _, fun {m e} he => ?_⟩
    exact hf.not_aliases (ht.get_of_get? he)
  · exact absurd (h.call hc ho.symm).1 (Nat.lt_irrefl _)
  · exact absurd ha (hf.not_aliases (h.reads hc))

/-- **A shared entry is the birth of every value that shares it.** -/
theorem Valid.push_entry (h : Valid l t s) (ht : t.Filled s) {r : NumberRef} {n : Binary64}
    (hr : t.get? n = .ok (some r)) : Valid (l.push (some ⟨n, .entry n, r⟩)) t s := by
  have hread := ht.get_of_get? hr
  refine h.push_new hread (fun j hj => by cases hj) (fun m hm => ?_)
    (fun c hc => ⟨fun ho => ?_, fun ha => ?_⟩)
  · cases hm
    exact ⟨rfl, hr⟩
  · obtain ⟨hnum, hget⟩ := h.entry hc ho.symm
    have href : r = c.ref := Option.some.inj (Except.ok.inj (hr.symm.trans hget))
    have horigin : Origin.entry c.number = c.origin := hnum ▸ ho
    rw [← hnum, href, horigin]
  · cases ho : c.origin with
    | call j => exact absurd (NumberRef.aliases_comm.1 ha) ((h.call hc ho).2 hr)
    | entry m =>
      -- both read the same slot, so both were born with the same bits
      have hm := h.reads hc
      rw [← NumberRef.get_of_aliases ha, hread, (h.entry hc ho).1] at hm
      cases hm
      rfl

end

end Ledger

end Boxing
