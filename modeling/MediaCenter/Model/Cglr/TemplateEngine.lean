import MediaCenter.Library.ExceptList
import MediaCenter.Library.Memo
import MediaCenter.Model.MessengerAdapter.ContentTransformer

/-!
# Templates (`cglr/template_engine.py`)

`TemplateEngine.render` checks the syntax tree of a template body, compiles it, renders it and
checks the result.  Compiled templates are kept by their body, the last used last, and a body that
is kept is not checked again.  Parsing, compiling and rendering are those of the template library,
as functions.
-/

set_option autoImplicit false

namespace MediaCenter.Cglr

open MediaCenter.Library MediaCenter.Shared

def safeFilters : List String :=
  ["capitalize", "default", "escape", "first", "float", "int", "join", "last", "length", "list",
    "lower", "replace", "round", "sort", "string", "title", "trim", "truncate", "upper",
    "wordcount", "wordwrap"]

def safeTests : List String :=
  ["boolean", "defined", "divisibleby", "eq", "equalto", "escaped", "even", "false", "float", "ge",
    "greaterthan", "gt", "in", "integer", "iterable", "le", "lessthan", "lower", "lt", "mapping",
    "ne", "none", "number", "odd", "sameas", "sequence", "string", "true", "undefined", "upper"]

/-! ## Syntax trees -/

/-- `UNSAFE_NODE_TYPES`. -/
inductive UnsafeNodeType : Type where
  | call
  | callBlock
  | extends
  | fromImport
  | importNode
  | includeNode
  deriving DecidableEq

/-- `node.__class__.__name__`. -/
def UnsafeNodeType.className : UnsafeNodeType → String
  | .call => "Call"
  | .callBlock => "CallBlock"
  | .extends => "Extends"
  | .fromImport => "FromImport"
  | .importNode => "Import"
  | .includeNode => "Include"

/-- A node, with its line and its child nodes in order. -/
inductive TemplateNode : Type where
  | unsafeNode (type : UnsafeNodeType) (lineno : Option ℕ) (children : List TemplateNode)
  | getattr (attr : String) (lineno : Option ℕ) (children : List TemplateNode)
  | getitem (lineno : Option ℕ) (node arg : TemplateNode)
  | filter (name : String) (lineno : Option ℕ) (children : List TemplateNode)
  | test (name : String) (lineno : Option ℕ) (children : List TemplateNode)
  /-- A constant, and its value if that is a string. -/
  | const (text : Option String) (lineno : Option ℕ)
  /-- A node of another class. -/
  | other (lineno : Option ℕ) (children : List TemplateNode)

/-- `node.iter_child_nodes()`. -/
def TemplateNode.children : TemplateNode → List TemplateNode
  | .unsafeNode _ _ children => children
  | .getattr _ _ children => children
  | .getitem _ node arg => [node, arg]
  | .filter _ _ children => children
  | .test _ _ children => children
  | .const _ _ => []
  | .other _ children => children

mutual

/-- `_walk_nodes`. -/
def walkNodes : TemplateNode → List TemplateNode
  | .unsafeNode type lineno children => .unsafeNode type lineno children :: walkAll children
  | .getattr attr lineno children => .getattr attr lineno children :: walkAll children
  | .getitem lineno node arg => .getitem lineno node arg :: (walkNodes node ++ walkNodes arg)
  | .filter name lineno children => .filter name lineno children :: walkAll children
  | .test name lineno children => .test name lineno children :: walkAll children
  | .const text lineno => [.const text lineno]
  | .other lineno children => .other lineno children :: walkAll children

def walkAll : List TemplateNode → List TemplateNode
  | [] => []
  | child :: rest => walkNodes child ++ walkAll rest

end

/-- `_is_private_name`. -/
def isPrivateName (name : String) : Bool :=
  "_".toList.isPrefixOf name.toList || decide ("__".toList <:+: name.toList)

/-- `_node_location`. -/
def nodeLocation (lineno : Option ℕ) : String :=
  match lineno with
  | none => "строка неизвестна"
  | some line => "строка " ++ toString line

/-! ## The template library -/

/-- What the library raises. -/
inductive JinjaException : Type where
  | security (message : String)
  | templateSyntax (message : String)
  | template (message : String)
  /-- An exception of another kind, as a value of the template raises one. -/
  | other (e : SharedException)

/-- What `TemplateEngine.render` raises. -/
inductive TemplateEngineException : Type where
  | security (message : String)
  | render (message : String)
  | validation (violations : List String)
  | raised (e : SharedException)
  deriving DecidableEq

structure JinjaEnvironment (Template : Type) where
  parse : String → Except JinjaException TemplateNode
  fromString : String → Except JinjaException Template
  render : Template → JSONObject → Except JinjaException String
  /-- `repr` of a `str`. -/
  reprStr : String → String

/-- The `except` clauses of `render`; a syntax error is one of the template in all of them. -/
def caughtInRender : JinjaException → TemplateEngineException
  | .security _ => .security "шаблон нарушает правила песочницы"
  | .templateSyntax message => .render message
  | .template message => .render message
  | .other e => .raised e

section Checks

variable {Template : Type} (env : JinjaEnvironment Template)

/-- The checks of one node, in the loop of `_reject_unsafe_nodes`. -/
def rejectUnsafeNode : TemplateNode → Except TemplateEngineException Unit
  | .unsafeNode type lineno _ => .error (.security ("небезопасная конструкция шаблона " ++
      type.className ++ " (" ++ nodeLocation lineno ++ ")"))
  | .getattr attr lineno _ => refuseIf (isPrivateName attr = true)
      (.security ("небезопасный доступ к атрибуту " ++ env.reprStr attr ++ " (" ++
        nodeLocation lineno ++ ")"))
  | .getitem lineno _ (.const (some value) _) => refuseIf (isPrivateName value = true)
      (.security ("небезопасный доступ к ключу " ++ env.reprStr value ++ " (" ++
        nodeLocation lineno ++ ")"))
  | .filter name lineno _ => refuseIf (name ∉ safeFilters)
      (.security ("фильтр " ++ env.reprStr name ++ " не разрешён (" ++ nodeLocation lineno ++ ")"))
  | .test name lineno _ => refuseIf (name ∉ safeTests)
      (.security ("проверка " ++ env.reprStr name ++ " не разрешена (" ++
        nodeLocation lineno ++ ")"))
  | _ => .ok ()

/-- `_reject_unsafe_nodes`. -/
def rejectUnsafeNodes (ast : TemplateNode) : Except TemplateEngineException Unit :=
  (walkNodes ast).forM (rejectUnsafeNode env)

/-- `_validate_template_ast`. -/
def validateTemplateAst (templateBody : String) : Except TemplateEngineException Unit := do
  let ast ← (env.parse templateBody).mapError caughtInRender
  rejectUnsafeNodes env ast

/-- What `_compiled_template` does for a body that is not kept. -/
def compileTemplate (templateBody : String) : Except TemplateEngineException Template := do
  validateTemplateAst env templateBody
  (env.fromString templateBody).mapError caughtInRender

end Checks

/-! ## Requests -/

structure TemplateValidationRules where
  minLength : ℕ
  maxLength : ℕ
  requiredBlocks : List String
  maxLength_pos : 1 ≤ maxLength
  minLength_le : minLength ≤ maxLength
  requiredBlocks_stripped : ∀ block ∈ requiredBlocks, Text.strip block = block ∧ block ≠ ""

/-- The rules of a request from their fields, or the paths of those that fail. -/
def templateValidationRules (minLength maxLength : ℤ) (requiredBlocks : List String) :
    Except (List String) TemplateValidationRules :=
  let normalized := (requiredBlocks.map fun block => Text.strip (Text.trim block)).eraseDups
  if h : 0 ≤ minLength ∧ 1 ≤ maxLength ∧ "" ∉ normalized then
    if hle : minLength ≤ maxLength then
      .ok {
        minLength := minLength.toNat
        maxLength := maxLength.toNat
        requiredBlocks := normalized
        maxLength_pos := by omega
        minLength_le := by omega
        requiredBlocks_stripped := by
          intro block hblock
          have hstripped := List.mem_eraseDups.mp hblock
          rw [List.mem_map] at hstripped
          obtain ⟨given, -, rfl⟩ := hstripped
          exact ⟨Text.strip_strip _, fun hempty => h.2.2 (hempty ▸ hblock)⟩ }
    else .error ["validation"]
  else .error ((if 0 ≤ minLength then [] else ["validation.min_length"]) ++
    (if 1 ≤ maxLength then [] else ["validation.max_length"]) ++
    if "" ∈ normalized then ["validation.required_blocks"] else [])

/-- `^[A-Za-z][A-Za-z0-9_]{0,63}$` (`CONTEXT_KEY_PATTERN`). -/
def contextKeyPattern (s : String) : Bool :=
  Text.matchesHeadTail (fun c => Text.isAsciiUpper c || Text.isAsciiLower c)
    (fun c => Text.isAsciiAlnum c || c == '_') 63 s

def templateBodyAndContextChecks (templateBody : String) (context : JSONObject) :
    List (String × Bool) :=
  [("template_body", hasLength 1 50000 templateBody),
    ("context", context.all fun item => contextKeyPattern item.1 && !isPrivateName item.1)]

structure TemplateRequestFields where
  templateBody : String
  context : JSONObject
  validation : TemplateValidationRules

def TemplateRequestFields.checks (f : TemplateRequestFields) : List (String × Bool) :=
  templateBodyAndContextChecks f.templateBody f.context

abbrev TemplateRenderRequest : Type := Validated TemplateRequestFields.checks

/-- What `render` is called with: a request, or a mapping to make one of. -/
inductive RenderPayload : Type where
  | request (given : TemplateRenderRequest)
  | mapping (templateBody : String) (context : JSONObject) (minLength maxLength : ℤ)
      (requiredBlocks : List String)

/-- The request of a payload: `TemplateRenderRequest.model_validate` of a mapping. -/
def RenderPayload.toRequest : RenderPayload → Except SharedException TemplateRenderRequest
  | .request given => .ok given
  | .mapping templateBody context minLength maxLength requiredBlocks =>
      let templateBody := Text.trim templateBody
      let context := MessengerAdapter.trimmedObject context
      match templateValidationRules minLength maxLength requiredBlocks with
      | .ok validation => Validated.make "TemplateRenderRequest" TemplateRequestFields.checks
          ⟨templateBody, context, validation⟩
      | .error paths => .error (.validationError "TemplateRenderRequest"
          (((templateBodyAndContextChecks templateBody context).filter fun c => !c.2).map Prod.fst
            ++ paths))

structure TemplateRenderResult where
  content : String
  contentLength : ℕ
  requiredBlocks : List String
  deriving DecidableEq

/-- `_validate_rendered_content`. -/
def validateRenderedContent (content : String) (validation : TemplateValidationRules) :
    Except TemplateEngineException Unit :=
  let strippedContent := Text.strip content
  let missingBlocks := validation.requiredBlocks.filter fun block =>
    decide (¬ block.toList <:+: content.toList)
  let violations :=
    (if strippedContent.length < validation.minLength then
      ["длина результата меньше min_length (" ++ toString strippedContent.length ++ " < " ++
        toString validation.minLength ++ ")"] else []) ++
    (if validation.maxLength < content.length then
      ["длина результата больше max_length (" ++ toString content.length ++ " > " ++
        toString validation.maxLength ++ ")"] else []) ++
    if missingBlocks ≠ [] then
      ["отсутствуют обязательные блоки: " ++ ", ".intercalate missingBlocks] else []
  refuseIf (violations ≠ []) (.validation violations)

/-! ## The engine -/

section Engine

variable {Template : Type} (env : JinjaEnvironment Template)

/-- What `render` does with a request whose template was compiled; the content that is returned is
trimmed (`str_strip_whitespace`). -/
def renderCompiled (request : TemplateRenderRequest)
    (compiled : Except TemplateEngineException Template) :
    Except TemplateEngineException TemplateRenderResult := do
  let template ← compiled
  let content ← (env.render template request.fields.context).mapError caughtInRender
  validateRenderedContent content request.fields.validation
  return ⟨Text.trim content, content.length,
    request.fields.validation.requiredBlocks.map Text.trim⟩

/-- `TemplateEngine.render`, with the templates kept so far. -/
def renderTemplate (maxCacheSize : ℕ) (templateCache : Dict String Template)
    (payload : RenderPayload) :
    Except TemplateEngineException TemplateRenderResult × Dict String Template :=
  match payload.toRequest with
  | .error e => (.error (.raised e), templateCache)
  | .ok request =>
      let (compiled, templateCache') :=
        memoized (compileTemplate env) maxCacheSize templateCache request.fields.templateBody
      (renderCompiled env request compiled, templateCache')

end Engine

end MediaCenter.Cglr
