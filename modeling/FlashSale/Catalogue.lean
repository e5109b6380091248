import FlashSale.Product.Basic

/-! # Catalogues

    The products on sale, as published at one revision of the store.  A
    catalogue never changes; a newer one takes its place whole, so whoever
    holds one keeps seeing it as it was. -/

namespace FlashSale

/-- The products published at a revision, one per id and in order of id. -/
structure Catalogue where
  revision : Int64
  products : List Product
  deriving Repr, DecidableEq

namespace Catalogue

/-- What is served before anything was published. -/
def initial : Catalogue :=
  { revision := 0, products := [] }

/-- Puts a product at its place by id; it takes the place of one with the same
    id. -/
def insert (p : Product) : List Product → List Product
  | [] => [p]
  | q :: rest =>
    if p.id < q.id then p :: q :: rest
    else if p.id = q.id then p :: rest
    else q :: insert p rest

/-- The catalogue of a list of products; of two with one id the later
    counts. -/
def ofProducts (revision : Int64) (products : List Product) : Catalogue :=
  { revision, products := products.foldl (fun sorted p => insert p sorted) [] }

/-- The product with an id. -/
def find? (c : Catalogue) (id : UInt64) : Option Product :=
  c.products.find? fun p => p.id == id

/-- How many products are on sale. -/
def size (c : Catalogue) : Nat :=
  c.products.length

end Catalogue

end FlashSale
