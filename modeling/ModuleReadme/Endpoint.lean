/-!
# Endpoints and controllers

What is known about the HTTP interface of a module: a controller has a base path and a list of
endpoints, and an endpoint is a handler method together with the route and the HTTP method that
reach it.
-/

namespace ModuleReadme

/-! ## What a controller offers

Of the parameters of a handler only those with a default value are kept: they are what the example
requests are made with. All texts are kept as they stand in the source.
-/

/-- The HTTP methods that a mapping annotation can declare. -/
inductive HttpMethod where
  | get
  | post
  | put
  | delete
  | patch
  deriving DecidableEq, Repr

def HttpMethod.name : HttpMethod → String
  | .get => "GET"
  | .post => "POST"
  | .put => "PUT"
  | .delete => "DELETE"
  | .patch => "PATCH"

/-- A request parameter that has a default value. -/
structure Parameter where
  name : String
  defaultValue : String
  deriving DecidableEq, Repr

structure Endpoint where
  /-- The name of the method that handles the requests. -/
  handler : String
  /-- The path of the requests. -/
  path : String
  method : HttpMethod
  /-- The parameters with a default value, in the order of their declaration. -/
  parameters : List Parameter
  /-- The first line of text in the comment on the handler, or nothing. -/
  summary : String
  deriving DecidableEq, Repr

/-- One class that handles requests. -/
structure Controller where
  name : String
  /-- What the paths of all its endpoints begin with. -/
  basePath : String
  endpoints : List Endpoint
  deriving DecidableEq, Repr

/-! ## Paths

A base path and a route are put one behind the other without looking at the slashes between them, so
`/api` and `chat` make `/apichat`, and `/api/` and `/chat` make `/api//chat`.
-/

/-- The path under which a route of a controller is reached: the route is appended to the base path
as it is, and a slash is put in front if there is none. -/
def joinRoute (base route : List Char) : List Char :=
  match base ++ route with
  | '/' :: rest => '/' :: rest
  | path => '/' :: path

/-- An endpoint of which no more is known than its handler, its path and its method. -/
def Endpoint.ofRoute (handler base route : String) (method : HttpMethod) : Endpoint where
  handler
  path := String.ofList (joinRoute base.toList route.toList)
  method
  parameters := []
  summary := ""

end ModuleReadme
