import TypeDocs.TypeDescription

/-!
# Sample types

Descriptions of a few types that together use every kind of metadata.
-/

namespace TypeDocs.Samples

/-- A property that reads the field of its type's instances with the given name. -/
def field (type name label field : String) (attributes : Attributes) : Property where
  name := name
  type := label
  attributes := attributes
  getter := some (Getter.field type field)

/-- A type whose properties all have a value from the start. -/
def person : TypeDescription where
  name := "Person"
  fullName := "Directory.Person"
  properties := [field "Person" "Name" "String" "name" [],
    field "Person" "IsActive" "bool" "is_active" []]
  sample := some (.ok ⟨"Person", [("name", .text "Bob"), ("is_active", .flag true)]⟩)

def invoice : TypeDescription where
  name := "Invoice"
  fullName := "Billing.Invoice"
  properties := [
    field "Invoice" "Number" "String" "number"
      [.displayName "Invoice number", .bare "RequiredAttribute"],
    field "Invoice" "Total" "f64" "total"
      [.documentation "Gross amount.", .description "Ignored when documented."],
    field "Invoice" "Notes" "Option<String>" "notes"
      [⟨"StringLengthAttribute", [⟨"maximumLength", some "200"⟩, ⟨"minimumLength", none⟩]⟩],
    field "Invoice" "Paid" "bool" "paid" [],
    { name := "Ledger", type := "Ledger", isStatic := true }]
  sample := some (.ok ⟨"Invoice", [("number", .text ""),
    ("total", .ofBinary Decimal.double (Decimal.Binary.ofNat Decimal.double 0)),
    ("notes", .null), ("paid", .flag false)]⟩)

/-- A type that cannot be built without arguments. -/
def session : TypeDescription where
  name := "Session"
  properties := [field "Session" "Token" "String" "token" []]

/-- A type whose construction fails. -/
def connection : TypeDescription where
  name := "Connection"
  properties := [field "Connection" "Host" "String" "host" []]
  sample := some (.error (.construction "Connection" "no network"))

/-- A controller without a route of its own. -/
def usersController : TypeDescription where
  name := "UsersController"
  fullName := "Api.UsersController"
  methods := [
    { name := "Index" },
    { name := "Get", attributes := [.http "get"], parameters := [⟨"id", "i32", false⟩] },
    { name := "Create", attributes := [.http "post", .description "Register a user."],
      parameters := [⟨"name", "String", false⟩, ⟨"notify", "bool", true⟩] },
    { name := "Dispose", isPublic := false },
    { name := "GetHashCode", isInherited := true }]

def ordersController : TypeDescription where
  name := "OrdersController"
  fullName := "Api.OrdersController"
  attributes := [.route "api/orders"]
  methods := [{ name := "List", attributes := [.http "get", .documentation "All orders."] }]

def models : List TypeDescription := [person, invoice, session, connection]

def controllers : List TypeDescription := [usersController, ordersController]

end TypeDocs.Samples
