import Boxing.Fault

/-!
# Arena configurations and snapshots

An `ArenaConfig` fixes how many numbers a page holds. A configuration is valid when a page has at
least one slot and its positions fit in 32 bits (`validate_eq_ok_iff`); the size of a page in bytes
then fits in a word (`pageBytes_of_valid`). `ArenaStats` is a copy of an arena's counters.
-/

set_option autoImplicit false

namespace Boxing

structure ArenaConfig where
  pageCapacity : Nat
  deriving DecidableEq, Repr

namespace ArenaConfig

/-- The greatest number of slots in a page. -/
def maxPageCapacity : Nat := 4294967295

/-- Pages of 1024 slots, that is of 8192 bytes. -/
def standard : ArenaConfig := ⟨1024⟩

/-- Rejects a configuration that no arena can honour. -/
def validate (c : ArenaConfig) : Except ArenaError Unit :=
  if c.pageCapacity = 0 then .error (.invalidConfig "page_capacity must be > 0")
  else if maxPageCapacity < c.pageCapacity then
    .error (.invalidConfig ("page_capacity " ++ toString c.pageCapacity ++
      " exceeds the maximum of " ++ toString maxPageCapacity))
  else .ok ()

/-- The size of a page in bytes, a word of 64 bits. -/
def pageBytes (c : ArenaConfig) : Except Fault Nat := Checked.mul UInt64.size c.pageCapacity 8

theorem validate_eq_ok_iff {c : ArenaConfig} :
    c.validate = .ok () ↔ 0 < c.pageCapacity ∧ c.pageCapacity < UInt32.size := by
  unfold validate maxPageCapacity UInt32.size
  by_cases zero : c.pageCapacity = 0
  · simp [zero]
  · by_cases large : 4294967295 < c.pageCapacity
    · rw [if_neg zero, if_pos large]
      simp
      omega
    · rw [if_neg zero, if_neg large]
      simp
      omega

theorem pageBytes_of_valid {c : ArenaConfig} (h : c.validate = .ok ()) :
    c.pageBytes = .ok (c.pageCapacity * 8) := by
  have small := (validate_eq_ok_iff.1 h).2
  apply Checked.mul_eq_ok
  unfold UInt32.size at small
  unfold UInt64.size
  omega

end ArenaConfig

/-- The counters of an arena at one moment. -/
structure ArenaStats where
  /-- Pages made so far, the first one included. -/
  pagesAllocated : Nat
  slotsAllocated : Nat
  currentPageLen : Nat
  pageCapacity : Nat
  deriving DecidableEq, Repr

/-- The counters of no arena, all zero. -/
instance : Inhabited ArenaStats := ⟨⟨0, 0, 0, 0⟩⟩

end Boxing
