import Giro.Gateway.Http

/-!
# Endpoints

What can be asked of the gateway, by path and method. A path is matched piece by
piece as it was sent; a piece that the request fills in must not be empty.
-/

namespace Giro

/-- A piece of a path: fixed, or one that the request fills in. -/
inductive Segment
  | fixed (text : String)
  | filled (name : String)
deriving DecidableEq

/-- What can be asked for. -/
inductive Endpoint
  | health
  | createTransfer
  | receipt
  | history
  | summary
  | categories
  | weeklyTrend
  | description
deriving DecidableEq

namespace Endpoint

/-- All endpoints. -/
def all : List Endpoint :=
  [health, createTransfer, receipt, history, summary, categories, weeklyTrend, description]

/-- The method with which an endpoint is asked. -/
def method : Endpoint -> String
  | createTransfer => "POST"
  | _ => "GET"

/-- The pieces of what can be asked about an account. -/
def ofAccount (last : String) : List Segment :=
  [.fixed "api", .fixed "v1", .fixed "accounts", .filled "iban", .fixed last]

/-- The path of an endpoint. -/
def segments : Endpoint -> List Segment
  | health => [.fixed "api", .fixed "v1", .fixed "health"]
  | createTransfer => [.fixed "api", .fixed "v1", .fixed "transfers"]
  | receipt =>
      [.fixed "api", .fixed "v1", .fixed "transfers", .filled "id", .fixed "receipt"]
  | history => ofAccount "transfers"
  | summary => ofAccount "summary"
  | categories => ofAccount "categories"
  | weeklyTrend => ofAccount "weekly-trend"
  | description => [.fixed "api-docs", .fixed "openapi.json"]

/-- The path of an endpoint with the names of the pieces to be filled in. -/
def template (endpoint : Endpoint) : String :=
  String.join
    (endpoint.segments.map (fun segment =>
      match segment with
      | .fixed text => "/" ++ text
      | .filled name => "/\x7b" ++ name ++ "\x7d"))

/-- The pieces that a path fills in, if it fits. -/
def fill : List Segment -> List (List Char) -> Option (List (List Char))
  | [], [] => some []
  | .fixed text :: segments, piece :: pieces =>
      if piece = text.toList then fill segments pieces else none
  | .filled _ :: segments, piece :: pieces =>
      if piece.isEmpty then none else (fill segments pieces).map (fun rest => piece :: rest)
  | _, _ => none

/-- The endpoint that a path leads to, and the pieces that the path fills in. -/
def ofPath? (path : List Char) : Option (Endpoint × List (List Char)) :=
  match path with
  | '/' :: rest =>
      all.findSome? (fun endpoint =>
        (fill endpoint.segments (Text.splitAt '/' rest)).map (fun pieces =>
          (endpoint, pieces)))
  | _ => none

/-- Whether a method may be used; whoever may get something may ask for its head alone. -/
def allows (endpoint : Endpoint) (method : String) : Bool :=
  method == endpoint.method || (method == "HEAD" && endpoint.method == "GET")

end Endpoint
end Giro
