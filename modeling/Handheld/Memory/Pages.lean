/-! # Text pages

The text on the screen lives on a page that the console writes and that programs reach through
memory. A change of screen size turns to a new page; a view taken earlier stays on the old one.
-/
set_option autoImplicit false
namespace Handheld

/-- The pages turned over so far, oldest first, and the one in use. -/
structure TextPages where
  retired : Array (Array UInt8)
  live : Array UInt8

structure PageView where
  serial : Nat
  size : Nat
  deriving DecidableEq

namespace TextPages

/-- The page in use carries the number of the pages turned before it. -/
def page (pages : TextPages) (serial : Nat) : Array UInt8 :=
  if serial = pages.retired.size then pages.live else pages.retired.getD serial #[]

def modify (pages : TextPages) (serial : Nat) (change : Array UInt8 → Array UInt8) : TextPages :=
  if serial = pages.retired.size then { pages with live := change pages.live }
  else { pages with retired := pages.retired.modify serial change }

def turn (pages : TextPages) (fresh : Array UInt8) : TextPages where
  retired := pages.retired.push pages.live
  live := fresh

def view (pages : TextPages) : PageView := ⟨pages.retired.size, pages.live.size⟩

theorem page_view (pages : TextPages) : pages.page pages.view.serial = pages.live := by
  simp [page, view]

end TextPages
end Handheld
