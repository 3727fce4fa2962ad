import SparseFields.Store.Memory

/-!
# The demo shop

A small data set: users with addresses and orders, orders with line items, and addresses that point
at countries.
-/

namespace SparseFields
namespace Demo

/-- The entities of the shop. -/
def descriptors : List Descriptor :=
  [ ((Descriptor.plain "User" ["name", "email"]).withMany "orders" "Order" "userId").withMany
      "addresses" "Address" "userId",
    ((Descriptor.plain "Order" ["total", "status", "userId"]).withMany
      "line_items" "LineItem" "orderId").withOne "User" "userId",
    (Descriptor.plain "LineItem" ["sku", "quantity", "orderId"]).withOne "Order" "orderId",
    ((Descriptor.plain "Address" ["city", "zip", "userId", "countryId"]).withOne
      "User" "userId").withOne "Country" "countryId",
    Descriptor.plain "Country" ["name", "code"] ]

/-- An amount of money, given in hundredths. -/
def amount (hundredths : Nat) : Json :=
  .number (.double ((Double.ofRatio? false hundredths 100).getD (Double.zero false)))

/-- A country. -/
def country (id : Int) (name code : String) : String × Json :=
  ("Country", Json.ofMembers [("id", .int id), ("name", .string name), ("code", .string code)])

/-- A user. -/
def user (id : Int) (name email : String) : String × Json :=
  ("User", Json.ofMembers [("id", .int id), ("name", .string name), ("email", .string email)])

/-- An address of a user in a country. -/
def address (id : Int) (city zip : String) (userId countryId : Int) : String × Json :=
  ("Address", Json.ofMembers [("id", .int id), ("city", .string city), ("zip", .string zip),
    ("userId", .int userId), ("countryId", .int countryId)])

/-- An order of a user. -/
def order (id : Int) (hundredths : Nat) (status : String) (userId : Int) : String × Json :=
  ("Order", Json.ofMembers [("id", .int id), ("total", amount hundredths),
    ("status", .string status), ("userId", .int userId)])

/-- A line of an order. -/
def lineItem (id : Int) (sku : String) (quantity orderId : Int) : String × Json :=
  ("LineItem", Json.ofMembers [("id", .int id), ("sku", .string sku), ("quantity", .int quantity),
    ("orderId", .int orderId)])

/-- The records of the shop, with their entities. -/
def rows : List (String × Json) :=
  [ country 1 "Sweden" "SE",
    country 2 "Norway" "NO",
    user 1 "Ann" "ann@example.com",
    user 2 "Bob" "bob@example.com",
    user 3 "Cecilia" "cecilia@example.com",
    address 1 "Stockholm" "11122" 1 1,
    address 2 "Oslo" "0150" 1 2,
    address 3 "Uppsala" "75310" 2 1,
    order 10 12050 "shipped" 1,
    order 11 3500 "open" 2,
    order 12 1825 "open" 1,
    lineItem 100 "BIKE-RED" 1 10,
    lineItem 101 "HELMET-M" 1 10,
    lineItem 102 "BELL" 2 11,
    lineItem 103 "LIGHTS" 1 12 ]

/-- Registers the entities of the shop and adds its records to a store. -/
def load (store : Store) : Except StoreError Store :=
  rows.foldlM (fun store row => store.insert row.1 row.2) (descriptors.foldl Store.register store)

end Demo
end SparseFields
