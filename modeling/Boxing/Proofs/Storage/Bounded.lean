import Boxing.Arena.Config
import Boxing.Proofs.Preload.Fill

/-!
# A page is a bounded list

A page answers every sequence of operations as a list does that only grows at its end and takes at
most so many numbers. A list that is full refuses a number, but the longest list that a page can
stand for ends it in a fault (`PageOp.taken`). `PageOp.perform` is what an operation does in the
store, `PageOp.onList` what it means for the list, and `PageOp.run` answers a sequence of operations
with either of them. `Page.ofList c l` is the page that stands for the list `l`: one operation leads
from the page of a list to the page of the next list, with the same answer (`step_eq`), so a whole
sequence does (`run_eq`). The list is told by the numbers that were offered: the first of them that
fit (`run_onList_eq_take`).
-/

set_option autoImplicit false

namespace Boxing

/-! ## Pages of lists -/

namespace Page

/-- The page of capacity `c` with the numbers of `l` in its first slots. -/
def ofList (c : UInt32) (l : List Binary64) : Page := (new c).pushedAll l

variable {c : UInt32} {l : List Binary64}

theorem new_eq_of_tryNew {memory : Memory} {p : Page} (h : tryNew memory c = some p) :
    p = new c := by
  unfold tryNew at h
  split at h
  · cases h
    rfl
  · cases h

@[simp] theorem capacity_ofList : (ofList c l).capacity = c.toNat :=
  (capacity_pushedAll _ _).trans (capacity_new c)

@[simp] theorem len_ofList : (ofList c l).len = l.length := by
  rw [ofList, len_pushedAll, len_new, Nat.zero_add]

/-- One more push is one more element. -/
theorem pushed_ofList (n : Binary64) : (ofList c l).pushed n = ofList c (l ++ [n]) := by
  simp only [ofList, pushedAll, List.foldl_append, List.foldl_cons, List.foldl_nil]

section
variable (fits : l.length ≤ c.toNat)
include fits

theorem wellFormed_ofList : (ofList c l).WellFormed :=
  wellFormed_pushedAll (wellFormed_new c) (by rw [len_new, capacity_new, Nat.zero_add]; exact fits)

/-- A slot is an element, and there is nothing to read beyond the end. -/
theorem get_ofList (slot : Nat) : (ofList c l).get slot =
    match l[slot]? with
    | some n => .ok n
    | none => .error (.unwrittenSlot slot) := by
  cases hn : l[slot]? with
  | some n =>
    have := get_pushedAll (p := new c) (by rw [len_new, capacity_new, Nat.zero_add]; exact fits) hn
    rwa [len_new, Nat.zero_add] at this
  | none =>
    refine get_of_le ?_
    rw [len_ofList]
    exact List.getElem?_eq_none_iff.1 hn

theorem remaining_ofList : (ofList c l).remaining = .ok (c.toNat - l.length) := by
  rw [remaining, capacity_ofList, len_ofList]
  exact Checked.sub_eq_ok fits

end

end Page

/-! ## Operations -/

/-- A question about a page. -/
inductive PageQuery where
  | get (slot : Nat)
  | len
  | capacity
  | remaining
  | isEmpty
  | isFull
  deriving DecidableEq, Repr

/-- One operation on a page. -/
inductive PageOp where
  | push (n : Binary64)
  /-- A push that makes a reference to the slot. -/
  | alloc (n : Binary64)
  | ask (query : PageQuery)
  deriving DecidableEq, Repr

inductive PageAnswer where
  | slot (taken : Option Nat)
  | ref (made : Option NumberRef)
  | number (n : Binary64)
  | count (n : Nat)
  | truth (b : Bool)
  deriving DecidableEq, Repr

namespace PageQuery

/-- What a page answers. -/
def onPage (p : Page) : PageQuery → Except Fault PageAnswer
  | get slot => .number <$> p.get slot
  | len => .ok (.count p.len)
  | capacity => .ok (.count p.capacity)
  | remaining => .count <$> p.remaining
  | isEmpty => .ok (.truth p.isEmpty)
  | isFull => .truth <$> p.isFull

/-- What a list answers that has room for `c` numbers. -/
def onList (c : Nat) (l : List Binary64) : PageQuery → Except Fault PageAnswer
  | get slot =>
    match l[slot]? with
    | some n => .ok (.number n)
    | none => .error (.unwrittenSlot slot)
  | len => .ok (.count l.length)
  | capacity => .ok (.count c)
  | remaining => .ok (.count (c - l.length))
  | isEmpty => .ok (.truth l.isEmpty)
  | isFull => .ok (.truth (decide (l.length = c)))

/-- **A page answers a question as its list does.** -/
theorem onPage_ofList {c : UInt32} {l : List Binary64} (fits : l.length ≤ c.toNat)
    (query : PageQuery) : query.onPage (Page.ofList c l) = query.onList c.toNat l := by
  cases query with
  | get slot =>
    rw [onPage, onList, Page.get_ofList fits]
    cases l[slot]? <;> rfl
  | len => rw [onPage, onList, Page.len_ofList]
  | capacity => rw [onPage, onList, Page.capacity_ofList]
  | remaining =>
    rw [onPage, onList, Page.remaining_ofList fits]
    rfl
  | isEmpty =>
    rw [onPage, onList, Page.isEmpty, Page.len_ofList]
    cases l <;> rfl
  | isFull =>
    have hiff : (c.toNat - l.length == 0) = decide (l.length = c.toNat) := by
      rw [Bool.beq_eq_decide_eq, decide_eq_decide]
      omega
    rw [onPage, onList, Page.isFull, Page.remaining_ofList fits, ← hiff]
    rfl

end PageQuery

/-- The result of an action that has ended. -/
def resultOf {ε σ α : Type} : EStateM.Result ε σ α → Except ε α
  | .ok a _ => .ok a
  | .error e _ => .error e

theorem resultOf_map {ε σ α β : Type} (f : α → β) (x : EStateM ε σ α) (s : σ) :
    resultOf ((f <$> x) s) = (resultOf (x s)).map f := by
  cases h : x s with
  | ok a s' => rw [map_of_ok h]; rfl
  | error e s' => rw [map_of_error h]; rfl

namespace PageOp

/-- What the operation does to a page in the store. -/
def perform (page : PageRef) : PageOp → StoreM PageAnswer
  | push n => .slot <$> Store.onPage page.id (Page.push n)
  | alloc n => .ref <$> NumberRef.alloc page n
  | ask query => do liftM (query.onPage ((← EStateM.get).page page.id))

/-- The operation in the store, with its result and the store afterwards. -/
def inStore (page : PageRef) (op : PageOp) (s : Store) : Except Fault PageAnswer × Store :=
  (resultOf (op.perform page s), stateAfter (op.perform page s))

/-- What is answered for one more number to a list that has room for `c` numbers: its place, or
nothing. A list that is full and as long as any can be ends it in a fault. -/
def taken (c : Nat) (l : List Binary64) : Except Fault (Option Nat) :=
  if l.length < c then .ok (some l.length)
  else if c < ArenaConfig.maxPageCapacity then .ok none
  else .error (.overflow .add)

/-- The list with one more number, if there is room. -/
def appended (c : Nat) (l : List Binary64) (n : Binary64) : List Binary64 :=
  if l.length < c then l ++ [n] else l

/-- The operation on a list that has room for `c` numbers and stands for the page `page`. -/
def onList (c : Nat) (page : PageRef) (op : PageOp) (l : List Binary64) :
    Except Fault PageAnswer × List Binary64 :=
  match op with
  | push n => ((taken c l).map .slot, appended c l n)
  | alloc n => ((taken c l).map fun slot => .ref (slot.map (⟨page, ·⟩)), appended c l n)
  | ask query => (query.onList c l, l)

/-- Answers operations one after another; one that breaks off does not stop the others. -/
def run {σ : Type} (step : PageOp → σ → Except Fault PageAnswer × σ) :
    List PageOp → σ → List (Except Fault PageAnswer) × σ
  | [], s => ([], s)
  | op :: rest, s =>
    let (answer, s) := step op s
    let (answers, s) := run step rest s
    (answer :: answers, s)

/-- The number that the operation offers to the page. -/
def offered? : PageOp → Option Binary64
  | push n | alloc n => some n
  | ask _ => none

/-! ## The list -/

section
variable {c : Nat} {page : PageRef} {l : List Binary64}

theorem appended_eq_take (fits : l.length ≤ c) (n : Binary64) :
    appended c l n = (l ++ [n]).take c := by
  unfold appended
  split
  · rename_i room
    rw [List.take_of_length_le (by rw [List.length_append, List.length_singleton]; exact room)]
  · rename_i full
    rw [List.take_append_of_le_length (Nat.le_of_not_lt full), List.take_of_length_le fits]

/-- A list takes what is offered as long as there is room. -/
theorem onList_snd (op : PageOp) (fits : l.length ≤ c) :
    (op.onList c page l).2 = (l ++ op.offered?.toList).take c := by
  cases op with
  | push n => exact appended_eq_take fits n
  | alloc n => exact appended_eq_take fits n
  | ask query =>
    rw [offered?, Option.toList_none, List.append_nil, List.take_of_length_le fits]
    rfl

theorem length_onList_le (op : PageOp) (fits : l.length ≤ c) :
    (op.onList c page l).2.length ≤ c := by
  rw [onList_snd op fits]
  exact List.length_take_le c _

/-- **The list is told by the numbers that were offered**: the first of them that fit. -/
theorem run_onList_eq_take (ops : List PageOp) (fits : l.length ≤ c) :
    (run (onList c page) ops l).2 = (l ++ ops.filterMap offered?).take c := by
  induction ops generalizing l with
  | nil => rw [List.filterMap_nil, List.append_nil, List.take_of_length_le fits, run]
  | cons op rest ih =>
    have hoffered : (op :: rest).filterMap offered? =
        op.offered?.toList ++ rest.filterMap offered? := by
      cases hop : op.offered? <;> simp [hop]
    show (run (onList c page) rest (op.onList c page l).2).2 = _
    rw [ih (length_onList_le op fits), onList_snd op fits, hoffered, ← List.append_assoc]
    -- what a full list refuses is behind its end
    generalize l ++ op.offered?.toList = before
    rcases Nat.le_total c before.length with full | room
    · have hlen : (before.take c).length = c := by rw [List.length_take, Nat.min_eq_left full]
      have hfull := Nat.le_of_eq hlen.symm
      rw [List.take_append_of_le_length full, List.take_append_of_le_length hfull, List.take_take,
        Nat.min_self]
    · rw [List.take_of_length_le room]

/-- A full list stays as it is. -/
theorem run_onList_of_full (full : l.length = c) (ops : List PageOp) :
    run (onList c page) ops l = (ops.map fun op => (op.onList c page l).1, l) := by
  induction ops with
  | nil => rfl
  | cons op rest ih =>
    have hkept : (op.onList c page l).2 = l := by
      rw [onList_snd op (Nat.le_of_eq full), ← full, List.take_left]
    show (_ :: (run (onList c page) rest (op.onList c page l).2).1,
      (run (onList c page) rest (op.onList c page l).2).2) = _
    rw [hkept, ih]
    rfl

end

/-! ## The page and its list -/

section
variable {c : UInt32} {page : PageRef} {s : Store} {l : List Binary64}

/-- **A push does to a page what it does to its list.** -/
theorem push_ofList (fits : l.length ≤ c.toNat) (n : Binary64) :
    resultOf (Page.push n (.ofList c l)) = taken c.toNat l ∧
      stateAfter (Page.push n (.ofList c l)) = .ofList c (appended c.toNat l n) := by
  have hwf := Page.wellFormed_ofList fits
  have hgreatest : (Page.ofList c l).Greatest ↔ ¬ c.toNat < ArenaConfig.maxPageCapacity := by
    rw [Page.Greatest, Page.capacity_ofList, UInt32.size, ArenaConfig.maxPageCapacity]
    omega
  rw [taken, appended]
  by_cases room : l.length < c.toNat
  · rw [if_pos room, if_pos room, Page.push_of_room n (by simpa using room) hwf, Page.len_ofList,
      Page.pushed_ofList]
    exact ⟨rfl, rfl⟩
  · have full : (Page.ofList c l).capacity ≤ (Page.ofList c l).len := by simpa using room
    rw [if_neg room, if_neg room]
    by_cases small : c.toNat < ArenaConfig.maxPageCapacity
    · have hfits : ¬ (Page.ofList c l).Spent := fun spent =>
        hgreatest.1 (hwf.spent_iff.1 spent).2 small
      rw [if_pos small, Page.push_of_full n full hfits]
      exact ⟨rfl, rfl⟩
    · rw [if_neg small, Page.push_of_spent n (hwf.spent_iff.2 ⟨full, hgreatest.2 small⟩)]
      exact ⟨rfl, rfl⟩

/-- It touches no other page. -/
theorem onPage_push_ofList (made : page.id < s.pages.size) (fits : l.length ≤ c.toNat)
    (n : Binary64) :
    resultOf (Store.onPage page.id (Page.push n) (s.setPage page.id (.ofList c l))) =
        taken c.toNat l ∧
      stateAfter (Store.onPage page.id (Page.push n) (s.setPage page.id (.ofList c l))) =
        s.setPage page.id (.ofList c (appended c.toNat l n)) := by
  have hmade : page.id < (s.setPage page.id (.ofList c l)).pages.size := by
    simpa [Store.setPage] using made
  have hpage := Store.page_setPage_self made (.ofList c l)
  obtain ⟨hresult, hafter⟩ := push_ofList fits n
  rw [← hresult, ← hafter]
  cases hpush : Page.push n (.ofList c l) with
  | ok slot p =>
    rw [Store.onPage_eq_ok hmade (hpage ▸ hpush)]
    exact ⟨rfl, Store.setPage_setPage s _ _ _⟩
  | error f p =>
    rw [Store.onPage_eq_error hmade (hpage ▸ hpush)]
    exact ⟨rfl, Store.setPage_setPage s _ _ _⟩

theorem alloc_eq_map (page : PageRef) (n : Binary64) : NumberRef.alloc page n =
    (fun slot => slot.map (⟨page, ·⟩)) <$> Store.onPage page.id (Page.push n) := by
  funext s
  cases h : Store.onPage page.id (Page.push n) s with
  | ok slot t => rw [map_of_ok h, NumberRef.alloc, bind_of_ok h]; rfl
  | error f t => rw [map_of_error h, NumberRef.alloc, bind_of_error h]

/-- **An operation does to a page what it does to its list**, and nothing else to the store. -/
theorem step_eq (made : page.id < s.pages.size) (fits : l.length ≤ c.toNat) (op : PageOp) :
    op.inStore page (s.setPage page.id (.ofList c l)) =
      ((op.onList c.toNat page l).1,
        s.setPage page.id (.ofList c (op.onList c.toNat page l).2)) := by
  unfold inStore
  cases op with
  | push n =>
    obtain ⟨hresult, hafter⟩ := onPage_push_ofList made fits n
    rw [perform, resultOf_map, stateAfter_map, hresult, hafter]
    rfl
  | alloc n =>
    obtain ⟨hresult, hafter⟩ := onPage_push_ofList made fits n
    rw [perform, alloc_eq_map, resultOf_map, resultOf_map, stateAfter_map, stateAfter_map, hresult,
      hafter, onList]
    cases taken c.toNat l <;> rfl
  | ask query =>
    have hanswer : query.onPage ((s.setPage page.id (.ofList c l)).page page.id) =
        query.onList c.toNat l := by
      rw [Store.page_setPage_self made]
      exact PageQuery.onPage_ofList fits query
    rw [perform, bind_get, onList, ← hanswer]
    cases query.onPage _ <;> rfl

/-- **A sequence of operations does to a page what it does to its list**, by induction on it. -/
theorem run_eq (made : page.id < s.pages.size) (fits : l.length ≤ c.toNat) (ops : List PageOp) :
    run (inStore page) ops (s.setPage page.id (.ofList c l)) =
      ((run (onList c.toNat page) ops l).1,
        s.setPage page.id (.ofList c (run (onList c.toNat page) ops l).2)) := by
  induction ops generalizing l with
  | nil => rfl
  | cons op rest ih =>
    rw [run, step_eq made fits op]
    show (_ :: (run (inStore page) rest _).1, (run (inStore page) rest _).2) = _
    rw [ih (length_onList_le op fits)]
    rfl

/-- Pushes fill a page. -/
theorem run_replicate_push (made : page.id < s.pages.size) (n : Binary64) :
    (run (inStore page) (List.replicate c.toNat (push n)) (s.setPage page.id (.ofList c []))).2 =
      s.setPage page.id (.ofList c (List.replicate c.toNat n)) := by
  rw [run_eq made (Nat.zero_le _), run_onList_eq_take _ (Nat.zero_le _), List.nil_append,
    List.filterMap_replicate_of_some (f := offered?) rfl, List.take_of_length_le]
  exact Nat.le_of_eq List.length_replicate

theorem inStore_push_of_greatest (made : page.id < s.pages.size) (full : l.length = c.toNat)
    (greatest : ¬ c.toNat < ArenaConfig.maxPageCapacity) (n : Binary64) :
    (push n).inStore page (s.setPage page.id (.ofList c l)) =
      (.error (.overflow .add), s.setPage page.id (.ofList c l)) := by
  have hno : ¬ l.length < c.toNat := Nat.not_lt.2 (Nat.le_of_eq full.symm)
  rw [step_eq made (Nat.le_of_eq full), onList, taken, appended, if_neg hno, if_neg greatest,
    if_neg hno]
  rfl

end

end PageOp

/-- **A page is a bounded list.** Take a new page of any capacity, of either kind, beside any other
pages; one whose memory was granted is the same. Whatever is done to it, it answers as the list
does and is then the page of this list, with nothing else changed: a number is put behind the
others and told its place, or it finds the list full, which is a fault if the capacity is the
greatest one; a question is answered from the list. The list consists of the first numbers that were
offered, as many as fit. Once it is full, the store never changes again. -/
theorem Page.acts_as_bounded_list (c : UInt32) (lifetime : Lifetime) (s : Store) :
    ∃ page made, page.lifetime = lifetime ∧ Store.add (Page.new c) s = .ok page.id made ∧
      (∀ memory p, Page.tryNew memory c = some p → Store.add p s = .ok page.id made) ∧
      ∀ ops, ∃ answers l t,
        PageOp.run (PageOp.onList c.toNat page) ops [] = (answers, l) ∧
        PageOp.run (PageOp.inStore page) ops made = (answers, t) ∧
        t = made.setPage page.id (Page.ofList c l) ∧
        l = (ops.filterMap PageOp.offered?).take c.toNat ∧
        (∀ query : PageQuery, query.onPage (t.page page.id) = query.onList c.toNat l) ∧
        (l.length = c.toNat → ∀ more, PageOp.run (PageOp.inStore page) more t =
          (more.map fun op => (op.onList c.toNat page l).1, t)) := by
  have hmade : (⟨s.pages.size, lifetime⟩ : PageRef).id <
      (⟨s.pages.push (Page.new c)⟩ : Store).pages.size := by simp
  refine ⟨⟨s.pages.size, lifetime⟩, ⟨s.pages.push (Page.new c)⟩, rfl, rfl, fun memory p hp => ?_,
    fun ops => ?_⟩
  · rw [Page.new_eq_of_tryNew hp]
    rfl
  · have hstart : Store.setPage ⟨s.pages.push (Page.new c)⟩ s.pages.size (Page.ofList c []) =
        ⟨s.pages.push (Page.new c)⟩ := by
      have := Store.setPage_page ⟨s.pages.push (Page.new c)⟩ s.pages.size
      rwa [Store.page_push_size] at this
    have hempty : ([] : List Binary64).length ≤ c.toNat := Nat.zero_le _
    have hrun := PageOp.run_eq hmade hempty ops
    rw [hstart] at hrun
    have hlist : (PageOp.run (PageOp.onList c.toNat ⟨s.pages.size, lifetime⟩) ops []).2 =
        ([] ++ ops.filterMap PageOp.offered?).take c.toNat := PageOp.run_onList_eq_take ops hempty
    rw [List.nil_append] at hlist
    have fits : (PageOp.run (PageOp.onList c.toNat ⟨s.pages.size, lifetime⟩) ops []).2.length ≤
        c.toNat := by
      rw [hlist]
      exact List.length_take_le _ _
    refine ⟨_, _, _, rfl, hrun, rfl, hlist, fun query => ?_, fun full more => ?_⟩
    · rw [Store.page_setPage_self hmade]
      exact PageQuery.onPage_ofList fits query
    · rw [PageOp.run_eq hmade fits more, PageOp.run_onList_of_full full more]

/-- A page of the greatest size that was filled by pushes does not refuse the next one. -/
theorem Page.filled_page_faults :
    ∃ t, (PageOp.run (PageOp.inStore ⟨0, .counted⟩) (List.replicate 4294967295 (.push .zero))
        ⟨#[Page.new 4294967295]⟩).2 = t ∧
      (t.page 0).len = 4294967295 ∧ (t.page 0).capacity = 4294967295 ∧
      PageOp.inStore ⟨0, .counted⟩ (.push .zero) t = (.error (.overflow .add), t) := by
  have hc : (4294967295 : UInt32).toNat = 4294967295 := rfl
  have made : (⟨0, .counted⟩ : PageRef).id < (⟨#[Page.new 4294967295]⟩ : Store).pages.size :=
    Nat.zero_lt_one
  have hfilled := PageOp.run_replicate_push (c := 4294967295) made .zero
  have hfault := PageOp.inStore_push_of_greatest (c := 4294967295) made
    (List.length_replicate (n := 4294967295) (a := Binary64.zero)) (by decide) .zero
  have hpage := Store.page_setPage_self made
    (Page.ofList 4294967295 (List.replicate 4294967295 .zero))
  rw [hc] at hfilled
  refine ⟨_, hfilled, ?_, ?_, hfault⟩
  · rw [hpage, Page.len_ofList, List.length_replicate]
  · rw [hpage, Page.capacity_ofList, hc]

/-- A page of one slot refuses the second number, and there is nothing to read where it would be. -/
example : (PageOp.run (PageOp.inStore ⟨0, .counted⟩)
    [.push .zero, .alloc .zero, .ask (.get 0), .ask (.get 1)] ⟨#[Page.new 1]⟩).1 =
      [.ok (.slot (some 0)), .ok (.ref none), .ok (.number .zero), .error (.unwrittenSlot 1)] := rfl

end Boxing
