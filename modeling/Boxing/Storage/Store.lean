import Boxing.Storage.Page

/-!
# The store of pages

The store keeps every page that was ever made. A page is known by its identifier, its position in
the order of creation; identifiers are never used again, so two pages made apart are never taken
for one another. `Store.onPage` runs an action on one page (`onPage_eq_ok`, `onPage_eq_error`) and
leaves all others alone (`page_setPage_ne`).
-/

set_option autoImplicit false

namespace Boxing

/-- The position of a page in the order of creation. -/
abbrev PageId := Nat

structure Store where
  pages : Array Page
  deriving DecidableEq, Repr

abbrev StoreM := EStateM Fault Store

namespace Store

def empty : Store := ⟨#[]⟩

/-- The page with an identifier; one that was never given out names a page without slots. -/
def page (s : Store) (id : PageId) : Page := s.pages[id]?.getD default

/-- Takes a page into the store and answers its identifier. -/
def add (page : Page) : StoreM PageId := fun ⟨pages⟩ => .ok pages.size ⟨pages.push page⟩

/-- Runs an action on one page. The page is out of the store meanwhile, so that it is changed in
place. -/
def onPage {α : Type} (id : PageId) (act : PageM α) : StoreM α := fun ⟨pages⟩ =>
  if h : id < pages.size then
    let (page, rest) := pages.swapAt id default h
    match act page with
    | .ok a page => .ok a ⟨rest.setIfInBounds id page⟩
    | .error f page => .error f ⟨rest.setIfInBounds id page⟩
  else
    match act default with
    | .ok a _ => .ok a ⟨pages⟩
    | .error f _ => .error f ⟨pages⟩

/-! ## What the actions do -/

/-- The store with one page replaced. -/
def setPage (s : Store) (id : PageId) (page : Page) : Store := ⟨s.pages.setIfInBounds id page⟩

theorem add_eq (page : Page) (s : Store) : add page s = .ok s.pages.size ⟨s.pages.push page⟩ := rfl

theorem onPage_eq_ok {α : Type} {id : PageId} {act : PageM α} {s : Store} {a : α} {p : Page}
    (h : id < s.pages.size) (hact : act (s.page id) = .ok a p) :
    onPage id act s = .ok a (s.setPage id p) := by
  have hp : s.page id = s.pages[id] := by simp [page, h]
  rw [hp] at hact
  simp [onPage, h, Array.swapAt, hact, setPage, Array.setIfInBounds]

theorem onPage_eq_error {α : Type} {id : PageId} {act : PageM α} {s : Store} {f : Fault} {p : Page}
    (h : id < s.pages.size) (hact : act (s.page id) = .error f p) :
    onPage id act s = .error f (s.setPage id p) := by
  have hp : s.page id = s.pages[id] := by simp [page, h]
  rw [hp] at hact
  simp [onPage, h, Array.swapAt, hact, setPage, Array.setIfInBounds]

theorem page_setPage_self {s : Store} {id : PageId} (h : id < s.pages.size) (p : Page) :
    (s.setPage id p).page id = p := by
  simp [page, setPage, h]

theorem page_setPage_ne (s : Store) {id other : PageId} (h : other ≠ id) (p : Page) :
    (s.setPage id p).page other = s.page other := by
  simp [page, setPage, Array.getElem?_setIfInBounds_ne (Ne.symm h)]

/-- To replace a page by itself changes nothing. -/
theorem setPage_page (s : Store) (id : PageId) : s.setPage id (s.page id) = s := by
  by_cases h : id < s.pages.size
  · simp [setPage, page, h, Array.setIfInBounds]
  · simp [setPage, Array.setIfInBounds, h]

/-- A page that is already there stays when another is added. -/
theorem page_push_of_lt {s : Store} {id : PageId} (h : id < s.pages.size) (p : Page) :
    Store.page ⟨s.pages.push p⟩ id = s.page id := by
  simp [page, Array.getElem?_push_lt h, h]

theorem page_push_size (s : Store) (p : Page) :
    Store.page ⟨s.pages.push p⟩ s.pages.size = p := by
  simp [page]

end Store

end Boxing
