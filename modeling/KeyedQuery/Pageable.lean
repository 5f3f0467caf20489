/-!
Requests for one page of a result.

Offsets and sizes are 64-bit words. The offset of a page is the product of its number and its
size, held at the nearer bound of the word where the product does not fit.
-/

set_option autoImplicit false

namespace KeyedQuery

def unset : Int64 :=
  -1

inductive Pageable where
  | unpaged
  /-- At most `pageSize` records, from the one at `offset` on. -/
  | paged (offset pageSize : Int64)
deriving DecidableEq

namespace Pageable

def page (number size : Int64) : Pageable :=
  .paged (Int64.ofIntClamp (number.toInt * size.toInt)) size

def isPaged : Pageable → Bool
  | .unpaged => false
  | .paged _ _ => true

/-- The offset and the page size, both unset without a page. -/
def bounds : Pageable → Int64 × Int64
  | .unpaged => (unset, unset)
  | .paged offset pageSize => (offset, pageSize)

end Pageable

end KeyedQuery
