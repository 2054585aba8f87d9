import ModuleReadme.Log.Event
import ModuleReadme.Profile

/-!
# JSON

A profile can be dumped as JSON instead of being rendered as a README.
-/

namespace ModuleReadme

/-!
## Values

Texts, arrays, objects and `null` are all that a profile needs; numbers and truth values do not
occur in it. `Json.text` lays a value out over several lines, with two blanks for each level.
-/

/-- A JSON value without numbers and truth values. -/
inductive Json where
  | null
  | string (text : String)
  | array (items : List Json)
  | object (members : List (String × Json))

namespace Json

def ofOption : Option String → Json
  | none => null
  | some text => string text

/-! ### Layout

An item or a member stands on a line of its own, one level deeper than what it belongs to, and the
closing bracket stands on a line as deep as the opening one. Without items the brackets stay
together.
-/

/-- A character inside a string literal. Only the quote, the backslash and the control characters
are escaped. -/
def escape (c : Char) : List Char :=
  if c = '"' then ['\\', '"']
  else if c = '\\' then ['\\', '\\']
  else if c = '\x08' then ['\\', 'b']
  else if c = '\x0C' then ['\\', 'f']
  else if c = '\n' then ['\\', 'n']
  else if c = '\r' then ['\\', 'r']
  else if c = '\t' then ['\\', 't']
  -- The other control characters have no letter of their own.
  else if c.toNat < 0x20 then
    ['\\', 'u', '0', '0', Nat.digitChar (c.toNat / 16), Nat.digitChar (c.toNat % 16)]
  else [c]

def literal (text : String) : List Char := '"' :: text.toList.flatMap escape ++ ['"']

def newline (level : Nat) : List Char := '\n' :: List.replicate (2 * level) ' '

mutual

def layout (level : Nat) : Json → List Char
  | null => "null".toList
  | string text => literal text
  | array [] => "[]".toList
  | array (item :: rest) =>
    '[' :: layoutItems (level + 1) (item :: rest) ++ newline level ++ [']']
  | object [] => ['\x7b', '\x7d']
  | object (member :: rest) =>
    '\x7b' :: layoutMembers (level + 1) (member :: rest) ++ newline level ++ ['\x7d']

def layoutItems (level : Nat) : List Json → List Char
  | [] => []
  | item :: rest =>
    newline level ++ layout level item
      ++ (if rest.isEmpty then [] else [',']) ++ layoutItems level rest

def layoutMembers (level : Nat) : List (String × Json) → List Char
  | [] => []
  | (name, value) :: rest =>
    newline level ++ literal name ++ [':', ' '] ++ layout level value
      ++ (if rest.isEmpty then [] else [',']) ++ layoutMembers level rest

end

def text (j : Json) : String := String.ofList (j.layout 0)

end Json

/-!
## Dumping a profile

A profile is dumped as a JSON object with a member for each field. Paths are dumped as text, so a
path that is no text keeps the profile from being dumped.
-/

def Parameter.json (p : Parameter) : Json :=
  .object [("name", .string p.name), ("default_value", .string p.defaultValue)]

def Endpoint.json (e : Endpoint) : Json :=
  .object [("handler_name", .string e.handler), ("path", .string e.path),
    ("method", .string e.method.name), ("parameters", .array (e.parameters.map Parameter.json)),
    ("doc_summary", .string e.summary)]

def Controller.json (c : Controller) : Json :=
  .object [("display_name", .string c.name), ("base_path", .string c.basePath),
    ("endpoints", .array (c.endpoints.map Endpoint.json))]

def Manifest.json (m : Manifest) : Json :=
  .object [("artifact_id", .ofOption m.artifactId),
    ("dependencies", .array (m.dependencies.map .string))]

def Path.texts? (paths : List Path) : Option (List String) := paths.mapM toString?

def Profile.json? (p : Profile) : Option Json :=
  (Path.texts? p.configFiles).map fun configFiles =>
    .object [("name", .string p.name), ("prior_description", .ofOption p.description),
      ("controllers", .array (p.controllers.map Controller.json)), ("manifest", p.manifest.json),
      ("http_file", .ofOption p.requestFile), ("main_class", .ofOption p.mainClass),
      ("config_files", .array (configFiles.map .string))]

/-- The dump of a profile. -/
def Profile.dump (p : Profile) : Except Error String :=
  match p.json? with
  | some json => .ok json.text
  | none => .error .pathIsNoText

def Profile.serialize (p : Profile) : Logged (Except Error String) := do
  .log .serializing
  return p.dump

end ModuleReadme
