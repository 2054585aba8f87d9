import ModuleReadme.CommandLine.Options
import ModuleReadme.Log.Event
import ModuleReadme.Profile
import ModuleReadme.Text.Casing
import ModuleReadme.Text.Search

/-!
# The README of a module

A README is a list of lines, made section by section from the profile of the module. Which sections
there are depends only on what is known; the text is a function of the profile, the appearance and
the time stamp.
-/

namespace ModuleReadme.Readme

/-!
## Keywords

What a module or a handler is for is guessed from its name. The tables pair a keyword with the
phrases for it; the first keyword that the name contains decides, whatever its case.
-/

open Text

/-- The entry for the first keyword that a name contains. -/
def lookup? (table : List (String × α)) (name : String) : Option α :=
  -- The keywords are in lower case.
  (table.find? fun row => Text.contains (lowercase name.toList) row.1.toList).map (·.2)

/-! ### Tables -/

/-- What a controller contributes to a module, by keywords in its name. -/
def features : List (String × String) :=
  [("chat", "AI对话"), ("time", "时间工具"), ("search", "搜索功能"), ("image", "图像处理"),
   ("rag", "RAG增强"), ("advisor", "对话增强"), ("stream", "流式处理"), ("parallel", "并行处理"),
   ("vector", "向量数据库")]

/-- When a handler is used, by keywords in its name. -/
def scenarioTable : List (String × List String) :=
  [("chat", ["AI 对话交互", "智能问答系统"]), ("time", ["时间相关查询", "工具调用示例"]),
   ("search", ["信息检索", "知识查询"])]

def scenarios (handler : String) : List String :=
  (lookup? scenarioTable handler).getD ["数据处理和响应"]

end ModuleReadme.Readme

namespace ModuleReadme

/-!
## Time stamps

A README tells when it was made, as date and time of day: `2024-05-01 12:30:45`.
-/

structure Timestamp where
  year : Int
  month : Nat
  day : Nat
  hour : Nat
  minute : Nat
  second : Nat
  /-- A thousand million nanoseconds or more stand for a leap second. -/
  nanosecond : Nat := 0
  deriving DecidableEq, Repr

namespace Timestamp

def padded (width n : Nat) : String :=
  String.ofList (List.replicate (width - (Nat.toDigits 10 n).length) '0' ++ Nat.toDigits 10 n)

/-- The year with at least four digits. It has a sign if it is negative or has more than four. -/
def yearText (year : Int) : String :=
  if year < 0 then "-" ++ padded 4 year.natAbs
  else if year ≤ 9999 then padded 4 year.natAbs
  else "+" ++ padded 4 year.natAbs

/-- The second as it is shown, which is 60 in a leap second. -/
def shownSecond (t : Timestamp) : Nat :=
  if 1000000000 ≤ t.nanosecond then t.second + 1 else t.second

def text (t : Timestamp) : String :=
  yearText t.year ++ "-" ++ padded 2 t.month ++ "-" ++ padded 2 t.day ++ " " ++ padded 2 t.hour
    ++ ":" ++ padded 2 t.minute ++ ":" ++ padded 2 t.shownSecond

end Timestamp

/-!
## Description and requests

Two parts of a README are texts of their own: what the module is said to be, and the requests that
serve as examples.
-/

open Readme

/-! ### Description -/

/-- The description of a module: the one of the present README, or else one made from the names of
the controllers. -/
def Profile.describe (p : Profile) : String :=
  -- An empty description is none.
  match p.description.filter (· != "") with
  | some description => description
  | none =>
    if p.controllers.isEmpty then "本模块是 " ++ p.name ++ " 模块"
    else
      match p.controllers.filterMap fun c => lookup? features c.name with
      | [] =>
        "本模块是 " ++ p.name ++ " 模块，包含 " ++ toString p.controllers.length ++ " 个控制器"
      -- A feature that two controllers contribute is named twice.
      | known => "本模块演示 Spring AI Alibaba 的" ++ ", ".intercalate known ++ "功能"

/-!
### Example requests

Names and values are written into the address as they are, without escapes.
-/

def Appearance.method (a : Appearance) (e : Endpoint) : HttpMethod :=
  if a.declaredMethods then e.method else .get

/-- The URL of an example request, with the default values of all parameters. -/
def Appearance.url (a : Appearance) (e : Endpoint) : String :=
  a.baseUrl ++ e.path ++
    match e.parameters with
    | [] => ""
    | parameters => "?" ++ "&".intercalate (parameters.map fun q => q.name ++ "=" ++ q.defaultValue)

def Appearance.curl (a : Appearance) (e : Endpoint) : String :=
  match a.method e with
  -- `GET` is what `curl` does unless told otherwise.
  | .get => "curl \"" ++ a.url e ++ "\""
  | method => "curl -X " ++ method.name ++ " \"" ++ a.url e ++ "\""

namespace Readme

/-!
## Sections

A section is a list of lines. A part of which nothing is known has no lines.
-/

def keyVariable : String := "AI_DASHSCOPE_API_KEY"

def listedDependencies : Nat := 5

/-- How many controllers are shown with a `curl` command. -/
def shownControllers : Nat := 2

/-- Lines that are there only under a condition. -/
def when (condition : Bool) (lines : List String) : List String := if condition then lines else []

def introduction (p : Profile) : List String :=
  ["# " ++ String.ofList (Text.titleCase p.name.toList) ++ " 模块", "",
   "## 模块说明", "",
   p.describe ++ "。", ""]

/-! ### Interface -/

def purpose (e : Endpoint) : String :=
  if e.summary = "" then "提供 " ++ e.handler ++ " 相关功能" else e.summary

def endpointSection (a : Appearance) (number : Nat) (e : Endpoint) : List String :=
  ["#### " ++ toString number ++ ". " ++ e.handler ++ " 方法", "",
   "**接口路径：** `" ++ (a.method e).name ++ " " ++ e.path ++ "`", "",
   "**功能描述：** " ++ purpose e, "",
   "**主要特性：**",
   "- 基于 Spring Boot REST API 实现"]
    ++ when (!e.parameters.isEmpty) ["- 支持自定义查询参数"]
    ++ ["- 返回 JSON 格式响应",
        "- 支持 UTF-8 编码", "",
        "**使用场景：**"]
    ++ (scenarios e.handler).map ("- " ++ ·)
    ++ ["- API 集成测试", "",
        "**示例请求：**",
        "```bash",
        (a.method e).name ++ " " ++ a.url e,
        "```", ""]

def endpointSections (a : Appearance) (number : Nat) : List Endpoint → List String
  | [] => []
  | e :: rest => endpointSection a number e ++ endpointSections a (number + 1) rest

/-- The documentation of a controller. A controller without endpoints has none. -/
def controllerSection (a : Appearance) (c : Controller) : List String :=
  when (!c.endpoints.isEmpty)
    (["### " ++ c.name ++ " 接口", ""] ++ endpointSections a 1 c.endpoints ++ [""])

def interface (a : Appearance) (p : Profile) : List String :=
  when p.hasEndpoints (["## 接口文档", ""] ++ p.controllers.flatMap (controllerSection a))

/-! ### Implementation -/

def implementation (p : Profile) : List String :=
  ["## 技术实现", "",
   "### 核心组件",
   "- **Spring Boot**: 应用框架",
   "- **Spring AI Alibaba**: AI 功能集成"]
    ++ when (!p.controllers.isEmpty) ["- **REST Controller**: HTTP 接口处理"]
    ++ (p.manifest.dependencies.take listedDependencies).map
        (fun dependency => "- **" ++ dependency ++ "**: 核心依赖")
    ++ ["",
        "### 配置要点",
        "- 需要配置 `" ++ keyVariable ++ "` 环境变量",
        "- 默认端口：8080"]
    ++ when (!p.controllers.isEmpty) ["- 默认上下文路径：/basic"]

/-! ### Testing -/

def requestFileSection : Option String → List String
  | none => []
  | some name =>
    ["### 使用 HTTP 文件测试",
     "模块根目录下提供了 **[" ++ name ++ "](./" ++ name ++ ")** 文件，包含所有接口的测试用例：",
     "- 可在 IDE 中直接执行",
     "- 支持参数自定义",
     "- 提供默认示例参数", ""]

def curlSection (a : Appearance) (c : Controller) : List String :=
  match c.endpoints with
  | [] => []
  -- The first endpoint stands for the controller.
  | e :: _ => ["```bash", "# " ++ e.handler ++ " 接口测试", a.curl e, "```", ""]

def testing (a : Appearance) (p : Profile) : List String :=
  ["", "## 测试指导", ""]
    ++ requestFileSection p.requestFile
    ++ when (!p.controllers.isEmpty)
        ("### 使用 curl 测试" :: (p.controllers.take shownControllers).flatMap (curlSection a))

/-! ### Notes and footer -/

def notes : List String :=
  ["## 注意事项", "",
   "1. **环境变量**: 确保 `" ++ keyVariable ++ "` 已正确设置",
   "2. **网络连接**: 需要能够访问阿里云 DashScope 服务",
   "3. **字符编码**: 所有响应使用 UTF-8 编码，支持中文内容",
   "4. **端口配置**: 确保端口 8080 未被占用", ""]

def footer (t : Timestamp) : List String :=
  ["---", "", "*此 README.md 由自动化工具生成于 " ++ t.text ++ "*"]

/-! ## The document -/

def documentLines (a : Appearance) (t : Timestamp) (p : Profile) : List String :=
  introduction p ++ interface a p ++ implementation p ++ testing a p ++ notes ++ footer t

/-- The README. Each line ends with a line feed. -/
def document (a : Appearance) (t : Timestamp) (p : Profile) : String :=
  String.join ((documentLines a t p).map (· ++ "\n"))

def render (a : Appearance) (t : Timestamp) (p : Profile) : Logged String := do
  .log (.rendering p.name p.controllers.length)
  return document a t p

end Readme

end ModuleReadme
