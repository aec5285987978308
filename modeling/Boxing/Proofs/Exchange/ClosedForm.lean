import Boxing.Proofs.Exchange.Crew
import Mathlib.Data.List.Perm.Basic
import Mathlib.Data.List.Perm.Subperm

/-!
# The order of events does not matter

`Exchange.Balanced` holds between any two events: the producers are a crew in good order, and the
parcels that were sent are sound and bear the labels of the numbers that were boxed, each once
(`Mail`). If the arenas yield a slot for every second number, every event keeps it
(`Balanced.step`), so every run does (`Balanced.run`). When all has been boxed and delivered, it is
the closed form of what the reader has and of what the arenas count (`Balanced.settled`). And no run
gets stuck: from where it is, it can go on until all is done (`Balanced.exists_done`). If the arenas
do not yield so many slots, a run can end in a fault (`Balanced.exists_fault`).
-/

set_option autoImplicit false

namespace Boxing

/-- The parcels that were sent are sound, and there is one for each number that was boxed. -/
structure Mail (table : PreloadTable) (quota : Nat) (s : Store) (producers : Array Producer)
    (parcels : List Parcel) : Prop where
  sound : ∀ p ∈ parcels, p.Sound table s
  nodup : (parcels.map Parcel.label).Nodup
  mem_iff : ∀ {i k : Nat}, (i, k) ∈ parcels.map Parcel.label ↔
    ∃ p, producers[i]? = some p ∧ k < p.made quota

namespace Mail

variable {table : PreloadTable} {quota : Nat} {s t : Store} {producers : Array Producer}
  {parcels : List Parcel} {i : Nat} {p q : Producer}

theorem perm {parcels' : List Parcel} (h : Mail table quota s producers parcels)
    (hperm : parcels.Perm parcels') : Mail table quota s producers parcels' := by
  have hlabels := hperm.map Parcel.label
  exact ⟨fun p hp => h.sound p (hperm.mem_iff.2 hp), hlabels.nodup_iff.1 h.nodup,
    hlabels.mem_iff.symm.trans h.mem_iff⟩

/-- A producer that boxes nothing sends nothing. -/
theorem same (h : Mail table quota s producers parcels) (hp : producers[i]? = some p)
    (hq : q.made quota = p.made quota) :
    Mail table quota s (producers.setIfInBounds i q) parcels := by
  refine ⟨h.sound, h.nodup, fun {j k} => h.mem_iff.trans ?_⟩
  rw [getElem?_setIfInBounds_of_lt (Array.getElem?_eq_some_iff.1 hp).1]
  split
  · rename_i hj
    rw [hj, hp]
    simp [hq]
  · rfl

/-- **A producer sends its next parcel.** -/
theorem send (h : Mail table quota s producers parcels) (hp : producers[i]? = some p)
    (hq : q.made quota = p.made quota + 1) (hgrows : s.Grows t) {parcel : Parcel}
    (hlabel : parcel.label = (i, p.made quota)) (hsound : parcel.Sound table t) :
    Mail table quota t (producers.setIfInBounds i q) (parcel :: parcels) := by
  refine ⟨fun x hx => ?_, ?_, fun {j k} => ?_⟩
  · rcases List.mem_cons.1 hx with rfl | hx
    · exact hsound
    · exact (h.sound x hx).of_grows hgrows
  · rw [List.map_cons, List.nodup_cons, hlabel]
    refine ⟨fun hmem => ?_, h.nodup⟩
    obtain ⟨p', hp', hlt⟩ := h.mem_iff.1 hmem
    cases hp.symm.trans hp'
    exact Nat.lt_irrefl _ hlt
  · rw [List.map_cons, List.mem_cons, hlabel, h.mem_iff, Prod.mk.injEq,
      getElem?_setIfInBounds_of_lt (Array.getElem?_eq_some_iff.1 hp).1]
    split
    · rename_i hj
      rw [hj, hp]
      simp only [true_and, Option.some.injEq, exists_eq_left', hq]
      omega
    · rename_i hj
      simp [hj]

end Mail

namespace Exchange

open Arena (Yields)

/-- What holds between any two events. -/
structure Balanced (table : PreloadTable) (count quota c : Nat) (e : Exchange) (s : Store) :
    Prop where
  store : s.WellFormed
  filled : table.Filled s
  quota_eq : e.quota = quota
  size : e.producers.size = count
  crew : Crew c quota e.producers s
  mail : Mail table quota s e.producers (e.channel ++ e.received)

namespace Balanced

variable {table : PreloadTable} {memory : Memory} {count quota c : Nat} {e : Exchange} {s : Store}

/-! ## One event -/

theorem deliver (h : Balanced table count quota c e s) (memory : Memory) {k : Nat}
    {parcel : Parcel} (hk : e.channel[k]? = some parcel) :
    ∃ e', e.step table memory (.deliver k) s = .ok e' s ∧ Balanced table count quota c e' s ∧
      e'.received = parcel :: e.received := by
  refine ⟨{ e with channel := e.channel.eraseIdx k, received := parcel :: e.received }, ?_,
    ⟨h.store, h.filled, h.quota_eq, h.size, h.crew, h.mail.perm ?_⟩, rfl⟩
  · rw [Exchange.step, hk]
    rfl
  · obtain ⟨hlt, rfl⟩ := List.getElem?_eq_some_iff.1 hk
    exact ((List.getElem_cons_eraseIdx_perm hlt).symm.append_right e.received).trans
      List.perm_middle.symm

theorem finish (h : Balanced table count quota c e s) (memory : Memory) {i : Nat} {a : Arena}
    (hp : e.producers[i]? = some (.working a quota)) :
    ∃ e', e.step table memory (.finish i) s = .ok e' s ∧ Balanced table count quota c e' s := by
  refine ⟨{ e with producers := e.producers.setIfInBounds i (.finished (a.stats s)) }, ?_,
    ⟨h.store, h.filled, h.quota_eq, ?_, ?_, h.mail.same hp rfl⟩⟩
  · rw [Exchange.step, hp]
    simp only [h.quota_eq, if_true]
    rfl
  · rw [Array.size_setIfInBounds]
    exact h.size
  · refine h.crew.set hp rfl h.store (.refl _ s) (h.crew.kept hp).finish fun hnew => ?_
    cases hnew

theorem box (h : Balanced table count quota c e s) (granted : memory (8 * c) = true)
    (hexact : Parcel.Exact count quota) {i made : Nat} {a : Arena}
    (hp : e.producers[i]? = some (.working a made)) (hmade : made < quota)
    (yields : Yields c ((made + 1) / 2)) :
    ∃ e' s' r a', e.step table memory (.box i) s = .ok e' s' ∧ Balanced table count quota c e' s' ∧
      e'.channel = e.channel ++ [⟨i, made, r⟩] ∧ e'.received = e.received ∧
      e'.producers[i]? = some (.working a' (made + 1)) := by
  have hsize := (Array.getElem?_eq_some_iff.1 hp).1
  have hi : i < count := h.size ▸ hsize
  obtain ⟨r, a', s', hbox, hkept, hsound, hs', hgrows, hframe, hcurrent⟩ :=
    Producer.Kept.box hexact hi hmade (h.crew.kept hp) h.filled granted yields
  refine ⟨{ e with
    producers := e.producers.setIfInBounds i (.working a' (made + 1))
    channel := e.channel ++ [⟨i, made, r⟩] }, s', r, a', ?_,
    ⟨hs', h.filled.of_grows hgrows, h.quota_eq, ?_, ?_, ?_⟩, rfl, rfl, ?_⟩
  · rw [Exchange.step, hp]
    simp only [h.quota_eq, hmade, if_true]
    exact bind_of_ok (Arena.lift_of_ok hbox)
  · rw [Array.size_setIfInBounds]
    exact h.size
  · refine h.crew.set hp rfl hs' hframe hkept fun hnew => ?_
    cases hnew
    exact hcurrent
  · refine (h.mail.send hp rfl hgrows rfl hsound).perm ?_
    show List.Perm (_ :: (e.channel ++ e.received)) (e.channel ++ [_] ++ e.received)
    rw [List.append_assoc]
    exact List.perm_middle.symm
  · rw [getElem?_setIfInBounds_of_lt hsize, if_pos rfl]

/-- A number whose slot the arena does not yield. -/
theorem box_overfilled (h : Balanced table count quota c e s) (granted : memory (8 * c) = true)
    (hexact : Parcel.Exact count quota) {i made : Nat} {a : Arena}
    (hp : e.producers[i]? = some (.working a made)) (hmade : made < quota)
    (yields : Yields c (made / 2)) (beyond : ¬ Yields c ((made + 1) / 2)) :
    e.step table memory (.box i) s = .error (.overflow .add) s := by
  have hi : i < count := h.size ▸ (Array.getElem?_eq_some_iff.1 hp).1
  have hbox := Producer.Kept.box_overfilled hexact hi hmade (h.crew.kept hp) h.filled granted
    yields beyond
  rw [Exchange.step, hp]
  simp only [h.quota_eq, hmade, if_true]
  exact bind_of_error (Arena.lift_of_error hbox)

/-- **Every event happens, and keeps the balance.** -/
theorem step (h : Balanced table count quota c e s) (granted : memory (8 * c) = true)
    (hexact : Parcel.Exact count quota) (yields : Yields c (quota / 2)) (event : Event) :
    ∃ e' s', e.step table memory event s = .ok e' s' ∧ Balanced table count quota c e' s' := by
  cases event with
  | box i =>
    cases hp : e.producers[i]? with
    | none => exact ⟨e, s, by rw [Exchange.step, hp]; rfl, h⟩
    | some p =>
      cases p with
      | finished stats => exact ⟨e, s, by rw [Exchange.step, hp]; rfl, h⟩
      | working a made =>
        by_cases hmade : made < quota
        · obtain ⟨e', s', r, -, hstep, h', -⟩ :=
            h.box granted hexact hp hmade (yields.mono (by omega))
          exact ⟨e', s', hstep, h'⟩
        · refine ⟨e, s, ?_, h⟩
          rw [Exchange.step, hp]
          simp only [h.quota_eq, hmade, if_false]
          rfl
  | finish i =>
    cases hp : e.producers[i]? with
    | none => exact ⟨e, s, by rw [Exchange.step, hp]; rfl, h⟩
    | some p =>
      cases p with
      | finished stats => exact ⟨e, s, by rw [Exchange.step, hp]; rfl, h⟩
      | working a made =>
        by_cases hmade : made = quota
        · obtain ⟨e', hstep, h'⟩ := h.finish memory (hmade ▸ hp)
          exact ⟨e', s, hstep, h'⟩
        · refine ⟨e, s, ?_, h⟩
          rw [Exchange.step, hp]
          simp only [h.quota_eq, hmade, if_false]
          rfl
  | deliver k =>
    cases hk : e.channel[k]? with
    | none => exact ⟨e, s, by rw [Exchange.step, hk]; rfl, h⟩
    | some parcel =>
      obtain ⟨e', hstep, h', -⟩ := h.deliver memory hk
      exact ⟨e', s, hstep, h'⟩

/-- **Every run keeps the balance**, by induction on its events. -/
theorem run (h : Balanced table count quota c e s) (granted : memory (8 * c) = true)
    (hexact : Parcel.Exact count quota) (yields : Yields c (quota / 2)) (events : List Event) :
    ∃ e' s', Exchange.run table memory events e s = .ok e' s' ∧
      Balanced table count quota c e' s' := by
  induction events generalizing e s with
  | nil => exact ⟨e, s, rfl, h⟩
  | cons event rest ih =>
    obtain ⟨e₁, s₁, hstep, h₁⟩ := h.step granted hexact yields event
    obtain ⟨e', s', hrest, h'⟩ := ih h₁
    refine ⟨e', s', ?_, h'⟩
    rw [Exchange.run, bind_of_ok hstep, hrest]

end Balanced

theorem run_append {table : PreloadTable} {memory : Memory} {first : List Event}
    {e e₁ : Exchange} {s s₁ : Store} (h : run table memory first e s = .ok e₁ s₁)
    (rest : List Event) : run table memory (first ++ rest) e s = run table memory rest e₁ s₁ := by
  induction first generalizing e s with
  | nil =>
    cases h
    rfl
  | cons event first ih =>
    rw [run] at h
    obtain ⟨e₂, s₂, hstep, hfirst⟩ := bind_ok h
    rw [List.cons_append, run, bind_of_ok hstep]
    exact ih hfirst

/-- A new exchange is balanced. -/
theorem start_balanced {table : PreloadTable} {c : Nat}
    (valid : ArenaConfig.validate ⟨c⟩ = .ok ()) (count quota : Nat) {s : Store}
    (hs : s.WellFormed) (ht : table.Filled s) :
    ∃ e t, start count quota c s = .ok e t ∧ Balanced table count quota c e t ∧
      e.channel ++ e.received = [] := by
  obtain ⟨new, t, hnew, hlen, ht', hgrows, -, hcrew, hfresh⟩ :=
    Crew.newProducers valid count quota hs
  refine ⟨⟨quota, new.toArray, [], []⟩, t, bind_of_ok hnew, ⟨ht', ht.of_grows hgrows, rfl, ?_,
    hcrew, fun p hp => absurd hp List.not_mem_nil, List.nodup_nil, fun {i k} => ?_⟩, rfl⟩
  · rw [List.size_toArray]
    exact hlen
  · refine iff_of_false List.not_mem_nil ?_
    rintro ⟨p, hp, hk⟩
    rw [List.getElem?_toArray] at hp
    rw [(hfresh p (List.mem_of_getElem? hp)).1] at hk
    exact Nat.not_lt_zero k hk

/-! ## All is done -/

theorem isDone_iff {e : Exchange} : e.isDone = true ↔
    e.channel = [] ∧ ∀ (i : Nat) (p : Producer), e.producers[i]? = some p →
      p.made e.quota = e.quota := by
  rw [isDone, Bool.and_eq_true, List.isEmpty_iff, Array.all_eq_true_iff_forall_mem]
  refine and_congr_right fun _ => ⟨fun h i p hp => ?_, fun h p hp => ?_⟩
  · exact eq_of_beq (h p (Array.mem_of_getElem? hp))
  · obtain ⟨i, hi⟩ := Array.mem_iff_getElem?.1 hp
    exact beq_iff_eq.2 (h i p hi)

/-- What the reader has and what the arenas count when all is done. -/
structure Settled (table : PreloadTable) (count quota c : Nat) (e : Exchange) (s : Store) :
    Prop where
  /-- One parcel has come for each number of each producer. -/
  labels : (e.received.map Parcel.label).Perm (Parcel.labels count quota)
  received : e.received.length = count * quota
  intact : e.intact s = count * quota
  shared : e.shared table = count * ((quota + 1) / 2)
  canonical : e.received.countP (·.ref.isCanonical) = count * ((quota + 1) / 2)
  even : ∀ p ∈ e.received, sharesEntry table p = decide (p.position % 2 = 0) ∧
    p.ref.isCanonical = decide (p.position % 2 = 0)
  stats : ∀ i, i < count → ∃ p, e.producers[i]? = some p ∧
    (p.stats s).slotsAllocated = quota / 2 ∧
    (p.stats s).pagesAllocated = max 1 ((quota / 2 + c - 1) / c)

namespace Balanced

variable {table : PreloadTable} {memory : Memory} {count quota c : Nat} {e : Exchange} {s : Store}

/-- **The closed form.** -/
theorem settled (h : Balanced table count quota c e s) (hdone : e.isDone = true) :
    Settled table count quota c e s := by
  obtain ⟨hchannel, hmade⟩ := isDone_iff.1 hdone
  rw [h.quota_eq] at hmade
  have hmail := h.mail
  rw [hchannel, List.nil_append] at hmail
  have hproducer {i : Nat} (hi : i < count) : ∃ p, e.producers[i]? = some p :=
    ⟨_, Array.getElem?_eq_getElem (h.size.symm ▸ hi)⟩
  have hlabels : (e.received.map Parcel.label).Perm (Parcel.labels count quota) := by
    refine (List.perm_ext_iff_of_nodup hmail.nodup (Parcel.nodup_labels _ _)).2 fun ⟨i, k⟩ => ?_
    rw [hmail.mem_iff, Parcel.mem_labels]
    constructor
    · rintro ⟨p, hp, hk⟩
      rw [hmade i p hp] at hk
      exact ⟨h.size ▸ (Array.getElem?_eq_some_iff.1 hp).1, hk⟩
    · rintro ⟨hi, hk⟩
      obtain ⟨p, hp⟩ := hproducer hi
      exact ⟨p, hp, by rw [hmade i p hp]; exact hk⟩
  obtain ⟨hreceived, hintact, hshared, hcanonical⟩ :=
    Parcel.count_eq h.filled hmail.sound hlabels
  refine ⟨hlabels, hreceived, hintact, hshared, hcanonical, fun p hp => ?_, fun i hi => ?_⟩
  · exact ⟨(hmail.sound p hp).sharesEntry_eq, (hmail.sound p hp).isCanonical_eq h.filled⟩
  · obtain ⟨p, hp⟩ := hproducer hi
    exact ⟨p, hp, (h.crew.kept hp).stats_eq (hmade i p hp)⟩

/-! ## No run gets stuck -/

theorem length_le (h : Balanced table count quota c e s) :
    e.channel.length + e.received.length ≤ count * quota := by
  have hsubset : (e.channel ++ e.received).map Parcel.label ⊆ Parcel.labels count quota := by
    rintro ⟨i, k⟩ hmem
    obtain ⟨p, hp, hk⟩ := h.mail.mem_iff.1 hmem
    exact Parcel.mem_labels.2 ⟨h.size ▸ (Array.getElem?_eq_some_iff.1 hp).1,
      Nat.lt_of_lt_of_le hk (h.crew.kept hp).made_le⟩
  have hle := (List.subperm_of_subset h.mail.nodup hsubset).length_le
  rwa [List.length_map, List.length_append, Parcel.length_labels] at hle

/-- A producer that is not done has another number to box. -/
theorem exists_behind (h : Balanced table count quota c e s) (hdone : ¬ e.isDone = true)
    (hchannel : e.channel = []) :
    ∃ (i : Nat) (a : Arena) (made : Nat), e.producers[i]? = some (.working a made) ∧
      made < quota := by
  by_contra hno
  refine hdone (isDone_iff.2 ⟨hchannel, fun i p hp => ?_⟩)
  rw [h.quota_eq]
  cases p with
  | finished stats => rfl
  | working a made =>
    refine Nat.le_antisymm (h.crew.kept hp).made_le (Nat.le_of_not_lt fun hlt => ?_)
    exact hno ⟨i, a, made, hp, hlt⟩

/-- One more parcel can be delivered, after another number is boxed if need be. -/
theorem advance (h : Balanced table count quota c e s) (granted : memory (8 * c) = true)
    (hexact : Parcel.Exact count quota) (yields : Yields c (quota / 2))
    (hdone : ¬ e.isDone = true) :
    ∃ events e' s', Exchange.run table memory events e s = .ok e' s' ∧
      Balanced table count quota c e' s' ∧ e'.received.length = e.received.length + 1 := by
  cases hchannel : e.channel with
  | nil =>
    obtain ⟨i, a, made, hp, hmade⟩ := h.exists_behind hdone hchannel
    obtain ⟨e₁, s₁, r, -, hbox, h₁, hchannel₁, hreceived₁, -⟩ :=
      h.box granted hexact hp hmade (yields.mono (by omega))
    obtain ⟨e₂, hdeliver, h₂, hreceived₂⟩ := h₁.deliver memory (k := 0)
      (by rw [hchannel₁, hchannel]; rfl)
    refine ⟨[.box i, .deliver 0], e₂, s₁, ?_, h₂, ?_⟩
    · rw [Exchange.run, bind_of_ok hbox, Exchange.run, bind_of_ok hdeliver]
      rfl
    · rw [hreceived₂, hreceived₁, List.length_cons]
  | cons parcel rest =>
    obtain ⟨e₁, hdeliver, h₁, hreceived₁⟩ := h.deliver memory (k := 0)
      (by rw [hchannel]; rfl)
    refine ⟨[.deliver 0], e₁, s, ?_, h₁, ?_⟩
    · rw [Exchange.run, bind_of_ok hdeliver]
      rfl
    · rw [hreceived₁, List.length_cons]

/-- **A run can go on until all is done**, by induction on the parcels that have not come yet. -/
theorem exists_done (h : Balanced table count quota c e s) (granted : memory (8 * c) = true)
    (hexact : Parcel.Exact count quota) (yields : Yields c (quota / 2)) :
    ∃ events e' s', Exchange.run table memory events e s = .ok e' s' ∧ e'.isDone = true := by
  obtain ⟨left, hleft⟩ : ∃ left, e.received.length + left = count * quota := by
    have := h.length_le
    exact ⟨count * quota - e.received.length, by omega⟩
  induction left generalizing e s with
  | zero =>
    refine ⟨[], e, s, rfl, ?_⟩
    by_contra hdone
    -- a parcel more than there are labels
    obtain ⟨_, e', s', -, h', hreceived⟩ := h.advance granted hexact yields hdone
    have := h'.length_le
    omega
  | succ left ih =>
    by_cases hdone : e.isDone = true
    · exact ⟨[], e, s, rfl, hdone⟩
    · obtain ⟨first, e₁, s₁, hfirst, h₁, hreceived⟩ := h.advance granted hexact yields hdone
      obtain ⟨rest, e', s', hrest, hdone'⟩ := ih h₁ (by omega)
      exact ⟨first ++ rest, e', s', by rw [run_append hfirst, hrest], hdone'⟩

/-! ## Too many slots -/

/-- **If the arenas do not yield all the slots, a run can end in a fault**: one producer goes on
alone; by induction on what it has left to box. -/
theorem exists_fault (h : Balanced table count quota c e s) (granted : memory (8 * c) = true)
    (hexact : Parcel.Exact count quota) (beyond : ¬ Yields c (quota / 2)) {i made : Nat} {a : Arena}
    (hp : e.producers[i]? = some (.working a made)) (yields : Yields c (made / 2)) :
    ∃ events s', Exchange.run table memory events e s = .error (.overflow .add) s' := by
  have hmade : made < quota := by
    by_contra hle
    exact beyond (yields.mono (by omega))
  obtain ⟨left, hleft⟩ := Nat.exists_eq_add_of_lt hmade
  induction left generalizing e s made a with
  | zero =>
    have hbox := h.box_overfilled granted hexact hp hmade yields (by rwa [← hleft])
    exact ⟨[.box i], s, bind_of_error hbox⟩
  | succ left ih =>
    by_cases hnext : Yields c ((made + 1) / 2)
    · obtain ⟨e₁, s₁, r, a₁, hbox, h₁, -, -, hp₁⟩ := h.box granted hexact hp hmade hnext
      obtain ⟨events, s', hrun⟩ := ih h₁ hp₁ hnext (by omega) (by omega)
      exact ⟨.box i :: events, s', by rw [Exchange.run, bind_of_ok hbox, hrun]⟩
    · exact ⟨[.box i], s, bind_of_error (h.box_overfilled granted hexact hp hmade yields hnext)⟩

/-- A producer of a new exchange has boxed nothing. -/
theorem exists_idle (h : Balanced table count quota c e s) (hnew : e.channel ++ e.received = [])
    (hcount : 0 < count) (hquota : 0 < quota) :
    ∃ a, e.producers[0]? = some (.working a 0) := by
  have hlt : 0 < e.producers.size := h.size.symm ▸ hcount
  have hp := Array.getElem?_eq_getElem hlt
  have hnone : ¬ ∃ p, e.producers[0]? = some p ∧ 0 < p.made quota := by
    rw [← h.mail.mem_iff, hnew]
    exact List.not_mem_nil
  cases hproducer : e.producers[0] with
  | finished stats =>
    rw [hproducer] at hp
    exact absurd ⟨_, hp, hquota⟩ hnone
  | working a made =>
    rw [hproducer] at hp
    have hmade : made = 0 := Nat.eq_zero_of_not_pos fun hpos => hnone ⟨_, hp, hpos⟩
    exact ⟨a, hmade ▸ hp⟩

end Balanced

/-- **Whatever the order of events, the exchange comes to the same.** Let any number of producers
box any number of numbers each, in arenas with pages of any valid capacity, all pages granted, where
the half steps among the numbers are below `2 ^ 52`. The numbers are exact. If the arenas yield a
slot for every second number, every sequence of events happens without a fault, and whatever has
been sent reads as its number, even if the arena that it comes from is gone; it has the entry of its
number at an even position, and a slot of its own at an odd one. When all is boxed and delivered,
what the reader has and what the arenas count is told by the closed form. And every sequence of
events can be prolonged until all is boxed and delivered. If the arenas do not yield these slots,
some sequence of events ends in a fault. -/
theorem settles_in_any_order_if_yielded {w : World} (hw : w.Reachable) {count quota c : Nat}
    {memory : Memory} (hc : 1 ≤ c) (hc' : c ≤ ArenaConfig.maxPageCapacity)
    (granted : memory (8 * c) = true) (hexact : Parcel.Exact count quota) :
    (∀ i k, i < count → k < quota →
      (k % 2 = 0 → Parcel.number i k = .ofNat (k % 200)) ∧
      (k % 2 = 1 → (Parcel.number i k).HalfStep (i * 1000000 + k))) ∧
    ∃ e s, start count quota c w.store = .ok e s ∧
      (Yields c (quota / 2) → ∀ events, ∃ e' s', run w.table memory events e s = .ok e' s' ∧
        (∀ p ∈ e'.channel ++ e'.received, p.Sound w.table s') ∧
        (e'.isDone = true → Settled w.table count quota c e' s') ∧
        ∃ more e'' s'', run w.table memory more e' s' = .ok e'' s'' ∧ e''.isDone = true) ∧
      (¬ Yields c (quota / 2) → 0 < count → ∃ events s',
        run w.table memory events e s = .error (.overflow .add) s') := by
  have valid : ArenaConfig.validate ⟨c⟩ = .ok () :=
    ArenaConfig.validate_eq_ok_iff.2 ⟨hc, Nat.lt_succ_of_le hc'⟩
  obtain ⟨owners, htenure⟩ := hw.tenure
  obtain ⟨e, s, hstart, h, hnew⟩ := start_balanced valid count quota htenure.store htenure.table
  refine ⟨fun i k hi hk => ⟨fun heven => if_pos heven, fun hodd => ?_⟩, e, s, hstart,
    fun yields events => ?_, fun beyond hcount => ?_⟩
  · exact Parcel.halfStep_of_odd hodd (hexact i k hi hk hodd)
  · obtain ⟨e', s', hrun, h'⟩ := h.run granted hexact yields events
    exact ⟨e', s', hrun, h'.mail.sound, h'.settled, h'.exists_done granted hexact yields⟩
  · have hquota : 0 < quota := Nat.pos_of_ne_zero fun hzero =>
      beyond (.inr (by rw [hzero]; exact Nat.zero_le _))
    obtain ⟨a, ha⟩ := h.exists_idle hnew hcount hquota
    exact h.exists_fault granted hexact beyond ha (.inr (Nat.zero_le _))

/-- Two producers box three numbers each on pages of one slot. One of them lets go of its arena
before anything is delivered, and the last parcel comes first. -/
theorem settles_after_early_finish :
    ∃ (w : World) (e e' : Exchange) (s s' : Store) (more : List Event), w.Reachable ∧
      start 2 3 1 w.store = .ok e s ∧
      run w.table (.upTo 8) ([.box 0, .box 0, .box 1, .box 0, .finish 0, .deliver 3] ++ more) e s =
        .ok e' s' ∧
      e'.isDone = true ∧ e'.received.length = 6 ∧ e'.intact s' = 6 ∧ e'.shared w.table = 4 ∧
      e'.received.countP (·.ref.isCanonical) = 4 ∧
      ∃ p, e'.producers[0]? = some p ∧ (p.stats s').slotsAllocated = 1 ∧
        (p.stats s').pagesAllocated = 1 := by
  have hexact : Parcel.Exact 2 3 := by
    intro producer position hproducer hposition _
    have hle : producer * 1000000 + position ≤ 1000002 := by omega
    exact Nat.lt_of_le_of_lt hle (by decide)
  obtain ⟨w, hw⟩ := World.exists_reachable
  have granted : Memory.upTo 8 (8 * 1) = true := by decide
  obtain ⟨-, e, s, hstart, hyielded, -⟩ :=
    settles_in_any_order_if_yielded hw (by decide) (by decide) granted hexact
  have hevents := hyielded (.inl (by decide))
  obtain ⟨e₁, s₁, hfirst, -, -, more, e₂, s₂, hmore, hdone⟩ :=
    hevents [.box 0, .box 0, .box 1, .box 0, .finish 0, .deliver 3]
  obtain ⟨e', s', hrun, -, hsettled, -⟩ :=
    hevents ([.box 0, .box 0, .box 1, .box 0, .finish 0, .deliver 3] ++ more)
  have hsame := hrun
  rw [run_append hfirst, hmore] at hsame
  cases hsame
  have h := hsettled hdone
  exact ⟨w, e, e₂, s, s₂, more, hw, hstart, hrun, hdone, h.received, h.intact, h.shared,
    h.canonical, h.stats 0 (by decide)⟩

/-- A producer that boxes more half steps than a page of the greatest size holds never gets to the
last one, though another page would be granted. -/
theorem exchange_breaks_on_the_greatest_page :
    ∃ (w : World) (e : Exchange) (s s' : Store) (events : List Event), w.Reachable ∧
      start 1 (2 * ArenaConfig.maxPageCapacity + 2) ArenaConfig.maxPageCapacity w.store =
        .ok e s ∧
      run w.table (.upTo (8 * ArenaConfig.maxPageCapacity)) events e s =
        .error (.overflow .add) s' := by
  have hexact : Parcel.Exact 1 (2 * ArenaConfig.maxPageCapacity + 2) := by
    intro producer position hproducer hposition _
    have hle : producer * 1000000 + position ≤ 8589934592 := by
      unfold ArenaConfig.maxPageCapacity at hposition
      omega
    exact Nat.lt_of_le_of_lt hle (by decide)
  have valid : ArenaConfig.validate ⟨ArenaConfig.maxPageCapacity⟩ = .ok () := by decide
  obtain ⟨w, hw⟩ := World.exists_reachable
  obtain ⟨owners, htenure⟩ := hw.tenure
  obtain ⟨e, s, hstart, h, hnew⟩ := start_balanced valid 1
    (2 * ArenaConfig.maxPageCapacity + 2) htenure.store htenure.table
  obtain ⟨a, ha⟩ := h.exists_idle hnew Nat.one_pos (Nat.succ_pos _)
  have hover : ¬ Yields ArenaConfig.maxPageCapacity
      ((2 * ArenaConfig.maxPageCapacity + 2) / 2) := Arena.not_yields_of_lt (by decide)
  have granted : Memory.upTo (8 * ArenaConfig.maxPageCapacity)
      (8 * ArenaConfig.maxPageCapacity) = true := by decide
  obtain ⟨events, s', hrun⟩ := h.exists_fault granted hexact hover ha (.inr (Nat.zero_le _))
  exact ⟨w, e, s, s', events, hw, hstart, hrun⟩

end Exchange

end Boxing
