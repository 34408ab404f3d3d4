import OrderDesk.Decimal.Integer
import OrderDesk.Uuid

/-!
# Catalogue items

Items are shown in the order of their ranks.  `renumber` sorts by rank and counts anew from 0.
-/

namespace OrderDesk.Catalog

/-- An item of the catalogue. -/
structure Item where
  /-- Identifier; `Uuid.nil` for the item that stands for none. -/
  id : Uuid
  /-- Addresses of the pictures. -/
  imageUrls : List String
  title : String
  /-- Place in the catalogue, from 0. -/
  rank : UInt32
  /-- Sizes in stock. -/
  availableSizes : List String
  /-- Cities with stock. -/
  availableInCity : List String
  /-- Pieces in stock. -/
  quantity : UInt32
  /-- Price. -/
  priceRub : UInt64
  shopLink : String
  deriving DecidableEq, Repr

namespace Item

/-- The item that stands for none. -/
def sentinel : Item := ⟨.nil, [], "", 0, [], [], 0, 0, ""⟩

instance : Inhabited Item := ⟨sentinel⟩

/-- The item stands for none. -/
def isSentinel (item : Item) : Bool := item.id.isNil

/-- An item of which title and pictures are known. -/
def fresh (id : Uuid) (title : String) (imageUrls : List String) : Item :=
  { sentinel with id, title, imageUrls }

/-- The text under the first picture: title and price, then sizes and cities where there are any. -/
def caption (item : Item) : String :=
  let sizes := if item.availableSizes.isEmpty then ""
    else "\n📏 " ++ Text.joined ", " item.availableSizes
  let cities := if item.availableInCity.isEmpty then ""
    else "\n🏙 " ++ Text.joined ", " item.availableInCity
  item.title ++ "\n\n" ++ Decimal.ofNat item.priceRub.toNat ++ " ₽" ++ sizes ++ cities

end Item

/-- The items by rank; items of one rank keep their order. -/
def sorted (items : List Item) : List Item := items.mergeSort fun a b => a.rank ≤ b.rank

/-- Gives the items the ranks from `n` on. -/
def numberFrom (n : Nat) : List Item → List Item
  | [] => []
  | item :: items => { item with rank := UInt32.ofNat n } :: numberFrom (n + 1) items

/-- Sorts by rank and counts the ranks anew from 0. -/
def renumber (items : List Item) : List Item := numberFrom 0 (sorted items)

end OrderDesk.Catalog
