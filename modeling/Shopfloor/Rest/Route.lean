import Shopfloor.Rest.Message
/-!
# Routes

Which paths there are and what may be asked of them.

The paths are a table: some are fixed, and some have an id behind them. What
becomes of a path before it is looked up in the table, and when it is found
there, is not up to the table but up to the framework that serves it. So a
`Framework` is a parameter of all that follows: the path that arrives for one
that is sent, whether that is a certain fixed path, and which id it has behind a
certain place. The first line of the table that fits says where a request goes.

A path that differs from a known one only by slashes at its end is pointed to
it; that answer has no body, nor has any answer to a request for the head alone.

## Main definitions

* `Rest.Resource`, `Rest.Template`, `Rest.templates`: The table of paths.
* `Rest.Framework`, `Rest.Framework.resource?`: What a path names.
* `Rest.Method`, `Rest.Resource.allows`: What may be asked of it.
* `Rest.Endpoint`: A resource and a method that it allows.
* `Rest.Framework.route`: Where a request goes.
-/

namespace Shopfloor

namespace Rest

/-- What a path names. -/
inductive Resource
  | health
  | stores
  | store (id : String)
  | accounts
  | account (email : String)
deriving DecidableEq, Repr

/-- A line of the table of paths. -/
inductive Template
  | fixed (path : String) (resource : Resource)
  | entry (place : String) (resource : String → Resource)

/-- The table of paths. -/
def templates : List Template :=
  [.fixed "/health" .health,
    .fixed "/api/v1/stores" .stores,
    .entry "/api/v1/stores/" .store,
    .fixed "/api/v1/users" .accounts,
    .entry "/api/v1/users/" .account]

/-- What is done with paths by whoever looks them up. -/
structure Framework where
  /-- The path that arrives when one is sent. -/
  arrived (path : String) : String
  /-- Whether a path that arrived is a fixed one. -/
  isAt (fixed path : String) : Bool
  /-- The id behind a place in a path that arrived. -/
  idBehind? (place path : String) : Option String

namespace Framework

variable (f : Framework)

/-- The resource that a path names by one line of the table. -/
def match? (path : String) : Template → Option Resource
  | .fixed fixed resource => if f.isAt fixed path then some resource else none
  | .entry place resource => (f.idBehind? place path).map resource

/-- The resource that a path names. -/
def resource? (path : String) : Option Resource := templates.findSome? (f.match? path)

end Framework

/-- What can be asked of a resource. -/
inductive Method
  | get
  | post
  | put
  | delete
deriving DecidableEq, Repr

/-- The method that a word names. -/
def Method.ofName? : String → Option Method
  | "GET" => some .get
  | "POST" => some .post
  | "PUT" => some .put
  | "DELETE" => some .delete
  | _ => none

/-- Whether a method may be asked of a resource. -/
def Resource.allows : Resource → Method → Bool
  | .health, m => m == .get
  | .stores, _ | .accounts, _ => true
  | .store _, m | .account _, m => m != .post

/-- A resource and what is asked of it. -/
structure Endpoint where
  resource : Resource
  method : Method
deriving DecidableEq, Repr

/-- A text without the slashes at its end. -/
def withoutEndSlashes (s : String) : String :=
  String.ofList (s.toList.reverse.dropWhile (· = '/')).reverse

namespace Framework

variable (f : Framework)

/-- Whether a path has slashes at its end and names something without them. -/
def isSlashed (path : String) : Bool :=
  let bare := withoutEndSlashes path
  bare != path && (f.resource? bare).isSome

/-- Where a request goes, or the answer if it goes nowhere. -/
def route (r : Request) : Except Answer Endpoint :=
  let path := f.arrived r.path
  match f.resource? path with
  | some resource =>
    match (Method.ofName? r.method).filter resource.allows with
    | some method => .ok ⟨resource, method⟩
    | none => .error ⟨405, some (.detail "Method Not Allowed")⟩
  | none =>
    if f.isSlashed path then .error ⟨307, none⟩ else .error ⟨404, some (.detail "Not Found")⟩

end Framework

end Rest

end Shopfloor
