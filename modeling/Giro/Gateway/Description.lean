import Giro.Gateway.Endpoint

/-!
# Description of the interface

The OpenAPI document that describes the endpoints: for each of them what it
answers and what it takes, and the shapes of the values that travel.
-/

namespace Giro

/-- Where a parameter stands. -/
inductive ParameterPlace
  | path
  | query
deriving DecidableEq

namespace ParameterPlace

/-- The word for a place. -/
def word : ParameterPlace -> String
  | path => "path"
  | query => "query"

end ParameterPlace

/-- A parameter of an endpoint. -/
structure Parameter where
  place : ParameterPlace
  name : String
  type : String
  meaning : String
deriving DecidableEq

/-- What is described of an endpoint. -/
structure EndpointDescription where
  tag : String
  responses : List (Nat × String)
  parameters : List Parameter
deriving DecidableEq

/-- The shape of a value that travels: its fields, their types and examples. -/
structure Shape where
  name : String
  fields : List (String × String)
deriving DecidableEq

namespace Description

/-- The parameter that names an account. -/
def ibanParameter : Parameter := ⟨.path, "iban", "string", "Account IBAN"⟩

/-- The parameters of a history. -/
def historyParameters : List Parameter :=
  [ibanParameter,
    ⟨.query, "page", "integer", "Zero-based page"⟩,
    ⟨.query, "size", "integer", "Page size, 1-100"⟩,
    ⟨.query, "min_amount", "string", "Inclusive lower bound"⟩,
    ⟨.query, "max_amount", "string", "Inclusive upper bound"⟩,
    ⟨.query, "start", "string", "RFC 3339 start time"⟩,
    ⟨.query, "end", "string", "RFC 3339 end time"⟩]

/-- What is described of an endpoint; the description itself is not. -/
def ofEndpoint? : Endpoint -> Option EndpointDescription
  | .health =>
      some ⟨"System", [(200, "Service healthy"), (503, "Service unavailable")], []⟩
  | .createTransfer =>
      some ⟨"Transfer",
        [(200, "Transfer completed"),
          (400, "Invalid request or unsupported currency"),
          (401, "Missing caller identity"),
          (403, "Caller does not own the sender account"),
          (422, "Insufficient funds, limit exceeded or inactive account"),
          (503, "Account busy")],
        []⟩
  | .receipt =>
      some ⟨"Transfer",
        [(200, "Receipt document"), (404, "Transfer not found"),
          (503, "Receipt generation unavailable")],
        [⟨.path, "id", "integer", "Transfer id"⟩]⟩
  | .history =>
      some ⟨"Account",
        [(200, "One page of transfers"), (403, "Caller may not view this account")],
        historyParameters⟩
  | .summary => some ⟨"Account", [(200, "Account totals")], [ibanParameter]⟩
  | .categories => some ⟨"Account", [(200, "Category shares")], [ibanParameter]⟩
  | .weeklyTrend => some ⟨"Account", [(200, "Daily totals")], [ibanParameter]⟩
  | .description => none

/-- The fields of values that are amounts and texts. -/
def texts (names : List String) : List (String × String) :=
  names.map (fun name => (name, "string"))

/-- The shapes of the values that travel, by name. -/
def shapes : List Shape :=
  [⟨"CategoryApiData", texts ["category", "amount", "percentage"]⟩,
    ⟨"DailySpendApiData", texts ["date", "total_amount"]⟩,
    ⟨"HealthResponse", ("timestamp_ms", "integer") :: texts ["store"]⟩,
    ⟨"SummaryApiData", texts ["total_sent", "total_received"] ++ [("count", "integer")]⟩,
    ⟨"TransferApiData",
      ("id", "integer") ::
        texts
          ["external_id", "reference_code", "sender_iban", "receiver_iban", "amount",
            "currency", "transfer_type", "status", "description", "created_at"]⟩,
    ⟨"TransferApiRequest",
      texts ["sender_iban", "receiver_iban", "amount", "currency", "description"]⟩]

/-- The shape of a type. -/
def typeJson (type : String) : Json :=
  .object [("type", .text type)]

/-- The title of the interface. -/
def title : String := "Banking Transfer API"

/-- The version of the interface. -/
def version : String := "1.0.0"

/-- The header by which callers are known. -/
def identityHeader : String := "X-User-Id"

/-- A parameter. -/
def parameterJson (parameter : Parameter) : Json :=
  .object
    [("name", .text parameter.name),
      ("in", .text parameter.place.word),
      ("description", .text parameter.meaning),
      ("required", .bool (parameter.place = .path)),
      ("schema", typeJson parameter.type)]

/-- A response. -/
def responseJson (response : Nat × String) : String × Json :=
  (Text.showNat response.1, .object [("description", .text response.2)])

/-- An endpoint under its path and method. -/
def endpointJson (endpoint : Endpoint) (description : EndpointDescription) :
    String × Json :=
  (endpoint.template,
    .object
      [(Text.lower endpoint.method,
        .object
          [("tags", .list [.text description.tag]),
            ("parameters", .list (description.parameters.map parameterJson)),
            ("responses", .object (description.responses.map responseJson))])])

/-- A shape under its name. -/
def shapeJson (shape : Shape) : String × Json :=
  (shape.name,
    .object
      [("type", .text "object"),
        ("properties",
          .object (shape.fields.map (fun field => (field.1, typeJson field.2))))])

/-- How callers are known. -/
def identityJson : Json :=
  .object
    [("type", .text "apiKey"),
      ("in", .text "header"),
      ("name", .text identityHeader),
      ("description", .text
        ("Numeric user id set by the identity proxy. Optional companions: " ++
          "X-User-Role (ADMIN/USER), X-User-Email, X-Forwarded-For."))]

/-- A group of endpoints. -/
def tagJson (tag : String × String) : Json :=
  .object [("name", .text tag.1), ("description", .text tag.2)]

/-- The document. -/
def document : Json :=
  .object
    [("openapi", .text "3.1.0"),
      ("info",
        .object
          [("title", .text title),
            ("description", .text
              "Account-to-account transfers with daily limits, history and receipts."),
            ("version", .text version)]),
      ("servers",
        .list
          [.object
            [("url", .text "http://localhost:8080"), ("description", .text "Development")]]),
      ("paths",
        .object
          (Endpoint.all.filterMap (fun endpoint =>
            (ofEndpoint? endpoint).map (endpointJson endpoint)))),
      ("components",
        .object
          [("schemas", .object (shapes.map shapeJson)),
            ("securitySchemes", .object [("forwarded_identity", identityJson)])]),
      ("security", .list [.object [("forwarded_identity", .list [])]]),
      ("tags",
        .list
          ([("System", "Health and diagnostics"),
            ("Transfer", "Money transfers and receipts"),
            ("Account", "Account history and analytics")].map tagJson))]

/-- Texts in ascending order. -/
def sorted (texts : List String) : List String :=
  texts.mergeSort (fun left right => decide (left <= right))

/-- Method and path of an endpoint. -/
def route (endpoint : Endpoint) : String :=
  endpoint.method ++ " " ++ endpoint.template

/-- An endpoint in the outline. -/
def outlineEndpoint (endpoint : Endpoint) (description : EndpointDescription) : Json :=
  let responses :=
    description.responses.map (fun response =>
      Text.showNat response.1 ++ " " ++ response.2)
  let parameters :=
    description.parameters.map (fun parameter =>
      parameter.place.word ++ " " ++ parameter.name)
  .object
    [("route", .text (route endpoint)), ("tags", .list [.text description.tag]),
      ("responses", .list ((sorted responses).map Json.text)),
      ("params", .list (parameters.map Json.text))]

/-- The endpoints in ascending order of their routes. -/
def routed : List Endpoint :=
  Endpoint.all.mergeSort (fun left right => decide (route left <= route right))

/-- What the document says in short: the endpoints, and the names of shapes and headers. -/
def outline : Json :=
  .object
    [("title", .text title), ("version", .text version),
      ("routes",
        .list
          (routed.filterMap (fun endpoint =>
            (ofEndpoint? endpoint).map (outlineEndpoint endpoint)))),
      ("schemas", .list ((sorted (shapes.map Shape.name)).map Json.text)),
      ("security", .text identityHeader)]

end Description
end Giro
