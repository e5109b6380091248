import FlashSale.Catalogue
import FlashSale.Product.Record
import FlashSale.Store.Basic

/-! # Updates of the catalogue

    What the store holds becomes the catalogue if it can be read.  Whatever
    else the store tells leaves the catalogue as it is. -/

namespace FlashSale.Catalogue

/-- Publishes a stored value, at the revision of its last change, if it can be
    read. -/
def publish (c : Catalogue) (kv : KeyValue) : Catalogue :=
  match Product.readList kv.value with
  | .ok products => .ofProducts kv.revision products
  | .error _ => c

/-- Takes over the answer to a question about the watched key. -/
def refresh (c : Catalogue) (f : Fetched) : Catalogue :=
  match f.kv with
  | some kv => c.publish kv
  | none => c

/-- Follows a change.  Only a put of the watched key can have an effect. -/
def follow (c : Catalogue) (key : String) : Change → Catalogue
  | .put kv => if kv.key = key then c.publish kv else c
  | .delete _ _ => c

end FlashSale.Catalogue
