import MediaCenter.Library.Unwinding
import MediaCenter.Model.Cglr.TemplateEngine

/-!
# A cache that nobody sees

Only bodies whose syntax tree passed are kept, with the template that compiling them gives; so a
render answers as on a fresh engine that keeps nothing, at every size and after any calls.  What
it returns comes from a tree without an unsafe node at any depth, and meets its rules.
-/

set_option autoImplicit false

namespace MediaCenter.Cglr

open MediaCenter.Library MediaCenter.Shared

/-! ## Safe trees -/

/-- The node occurs in the tree, at some depth. -/
inductive OccursIn (node : TemplateNode) : TemplateNode → Prop where
  | here : OccursIn node node
  | inner {tree child : TemplateNode} (hchild : child ∈ tree.children) (h : OccursIn node child) :
      OccursIn node tree

/-- A call, call block, extends, import or include, a private attribute or private constant item
access, or a filter or test that is not allowed. -/
inductive UnsafeNode : TemplateNode → Prop where
  | type (type : UnsafeNodeType) (lineno : Option ℕ) (children : List TemplateNode) :
      UnsafeNode (.unsafeNode type lineno children)
  | attr {attr : String} (lineno : Option ℕ) (children : List TemplateNode)
      (h : isPrivateName attr = true) : UnsafeNode (.getattr attr lineno children)
  | item {value : String} (lineno constLineno : Option ℕ) (node : TemplateNode)
      (h : isPrivateName value = true) :
      UnsafeNode (.getitem lineno node (.const (some value) constLineno))
  | filter {name : String} (lineno : Option ℕ) (children : List TemplateNode)
      (h : name ∉ safeFilters) : UnsafeNode (.filter name lineno children)
  | test {name : String} (lineno : Option ℕ) (children : List TemplateNode)
      (h : name ∉ safeTests) : UnsafeNode (.test name lineno children)

/-- No node at any depth is unsafe. -/
def SafeTree (tree : TemplateNode) : Prop := ∀ node, OccursIn node tree → ¬ UnsafeNode node

theorem mem_walkAll {node : TemplateNode} {children : List TemplateNode} :
    node ∈ walkAll children ↔ ∃ child ∈ children, node ∈ walkNodes child := by
  induction children with
  | nil => simp [walkAll]
  | cons child rest ih => rw [walkAll, List.mem_append, ih, List.exists_mem_cons_iff]

/-- The walk yields a node and then its children's walks. -/
theorem mem_walkNodes_iff {node tree : TemplateNode} :
    node ∈ walkNodes tree ↔ node = tree ∨ ∃ child ∈ tree.children, node ∈ walkNodes child := by
  cases tree with
  | unsafeNode type lineno children => rw [walkNodes, List.mem_cons, mem_walkAll]; rfl
  | getattr attr lineno children => rw [walkNodes, List.mem_cons, mem_walkAll]; rfl
  | getitem lineno inner arg =>
      rw [walkNodes, List.mem_cons, List.mem_append]
      simp [TemplateNode.children]
  | filter name lineno children => rw [walkNodes, List.mem_cons, mem_walkAll]; rfl
  | test name lineno children => rw [walkNodes, List.mem_cons, mem_walkAll]; rfl
  | const text lineno => simp [walkNodes, TemplateNode.children]
  | other lineno children => rw [walkNodes, List.mem_cons, mem_walkAll]; rfl

theorem mem_walkNodes_of_occursIn {node tree : TemplateNode} (h : OccursIn node tree) :
    node ∈ walkNodes tree := by
  induction h with
  | here => exact mem_walkNodes_iff.mpr (.inl rfl)
  | inner hchild _ ih => exact mem_walkNodes_iff.mpr (.inr ⟨_, hchild, ih⟩)

section Checks

variable {Template : Type} {env : JinjaEnvironment Template} {node tree : TemplateNode}

theorem not_unsafeNode_of_checked {u : Unit} (h : rejectUnsafeNode env node = .ok u) :
    ¬ UnsafeNode node := by
  intro hunsafe
  cases hunsafe with
  | type type lineno children => cases h
  | attr lineno children hprivate => exact refuseIf_eq_ok_iff.mp h hprivate
  | item lineno constLineno inner hprivate => exact refuseIf_eq_ok_iff.mp h hprivate
  | filter lineno children hname => exact refuseIf_eq_ok_iff.mp h hname
  | test lineno children hname => exact refuseIf_eq_ok_iff.mp h hname

theorem safeTree_of_rejectUnsafeNodes {u : Unit} (h : rejectUnsafeNodes env tree = .ok u) :
    SafeTree tree := by
  intro node hnode
  unfold rejectUnsafeNodes at h
  exact not_unsafeNode_of_checked
    ((forM_eq_ok_iff _ _).mp h node (mem_walkNodes_of_occursIn hnode))

/-- A body that compiles has been parsed to a safe tree. -/
theorem safeTree_of_compileTemplate {templateBody : String} {template : Template}
    (h : compileTemplate env templateBody = .ok template) :
    ∃ ast, env.parse templateBody = .ok ast ∧ SafeTree ast := by
  unfold compileTemplate validateTemplateAst at h
  simp only [bind_eq_ok_iff, mapError_eq_ok_iff] at h
  obtain ⟨u, ⟨ast, hparse, hchecked⟩, -⟩ := h
  exact ⟨ast, hparse, safeTree_of_rejectUnsafeNodes hchecked⟩

end Checks

/-! ## Rules -/

/-- The stripped content is long enough, the content is not too long, and every required block is
in it. -/
def MeetsRules (rules : TemplateValidationRules) (content : String) : Prop :=
  rules.minLength ≤ (Text.strip content).length ∧ content.length ≤ rules.maxLength ∧
    ∀ block ∈ rules.requiredBlocks, block.toList <:+: content.toList

theorem infix_dropWhile {p : Char → Bool} {block l : List Char} (hne : block ≠ [])
    (hhead : p (block.head hne) = false) (h : block <:+: l) : block <:+: l.dropWhile p := by
  induction l with
  | nil => exact h
  | cons c rest ih =>
      by_cases hc : p c = true
      · rw [List.dropWhile_cons_of_pos hc]
        rcases List.infix_cons_iff.mp h with hprefix | hrest
        · obtain ⟨behind, hbehind⟩ := hprefix
          cases block with
          | nil => exact absurd rfl hne
          | cons b bs =>
              obtain rfl : b = c := (List.cons.inj hbehind).1
              rw [List.head_cons, hc] at hhead
              cases hhead
        · exact ih hrest
      · rwa [List.dropWhile_cons_of_neg hc]

/-- A block that is stripped itself stays in the content when that is trimmed. -/
theorem infix_trim {block content : String} (hstrip : Text.strip block = block)
    (hempty : block ≠ "") (h : block.toList <:+: content.toList) :
    block.toList <:+: (Text.trim content).toList := by
  have hne : block.toList ≠ [] := fun hnil => hempty (String.toList_eq_nil_iff.mp hnil)
  obtain ⟨hhead, hlast⟩ :=
    Text.dropBoth_eq_self_iff.mp (Text.trim_eq_self_of_strip hstrip) hne
  unfold Text.trim
  rw [Text.toList_dropBoth, List.rdropWhile, ← List.reverse_infix, List.reverse_reverse]
  have hne' : block.toList.reverse ≠ [] := List.reverse_ne_nil_iff.mpr hne
  refine infix_dropWhile hne' ?_ (List.reverse_infix.mpr (infix_dropWhile hne hhead h))
  rwa [List.head_reverse]

theorem length_dropBoth_le (p : Char → Bool) (s : String) :
    (Text.dropBoth p s).length ≤ s.length := by
  rw [← String.length_toList, ← String.length_toList, Text.toList_dropBoth]
  exact ((List.rdropWhile_prefix p _).length_le).trans (List.dropWhile_suffix p).length_le

/-- What is returned meets the rules as what was rendered does. -/
theorem MeetsRules.trim {rules : TemplateValidationRules} {content : String}
    (h : MeetsRules rules content) : MeetsRules rules (Text.trim content) := by
  obtain ⟨hmin, hmax, hblocks⟩ := h
  refine ⟨?_, (length_dropBoth_le _ content).trans hmax, fun block hblock => ?_⟩
  · rwa [Text.strip_trim]
  · obtain ⟨hstrip, hempty⟩ := rules.requiredBlocks_stripped block hblock
    exact infix_trim hstrip hempty (hblocks block hblock)

theorem meetsRules_of_validateRenderedContent {content : String}
    {rules : TemplateValidationRules} {u : Unit}
    (h : validateRenderedContent content rules = .ok u) : MeetsRules rules content := by
  unfold validateRenderedContent at h
  have hnone := not_not.mp (refuseIf_eq_ok_iff.mp h)
  rw [List.append_eq_nil_iff, List.append_eq_nil_iff] at hnone
  obtain ⟨⟨hmin, hmax⟩, hblocks⟩ := hnone
  refine ⟨Nat.le_of_not_lt fun hlt => ?_, Nat.le_of_not_lt fun hlt => ?_, fun block hblock => ?_⟩
  · rw [if_pos hlt] at hmin
    cases hmin
  · rw [if_pos hlt] at hmax
    cases hmax
  · by_contra hmissing
    rw [if_pos] at hblocks
    · cases hblocks
    · exact List.ne_nil_of_mem (List.mem_filter.mpr ⟨hblock, decide_eq_true hmissing⟩)

/-! ## Renders -/

section Renders

variable {Template : Type} {env : JinjaEnvironment Template} {maxCacheSize : ℕ}
  {templateCache : Dict String Template} {payload : RenderPayload} {result : TemplateRenderResult}

/-- What a successful render says: a safe tree, and content that meets the rules. -/
def RendersSafely (env : JinjaEnvironment Template) (payload : RenderPayload)
    (result : TemplateRenderResult) : Prop :=
  ∃ request ast content, payload.toRequest = .ok request ∧
    env.parse request.fields.templateBody = .ok ast ∧ SafeTree ast ∧
      result.content = Text.trim content ∧
        MeetsRules request.fields.validation content ∧
          MeetsRules request.fields.validation result.content

theorem rendersSafely_of_renderCompiled {request : TemplateRenderRequest}
    (hpayload : payload.toRequest = .ok request)
    (h : renderCompiled env request (compileTemplate env request.fields.templateBody) =
      .ok result) : RendersSafely env payload result := by
  unfold renderCompiled at h
  simp only [bind_eq_ok_iff, mapError_eq_ok_iff] at h
  obtain ⟨template, hcompiled, content, -, u, hrules, hresult⟩ := h
  obtain ⟨ast, hparse, hsafe⟩ := safeTree_of_compileTemplate hcompiled
  obtain rfl := Except.ok.inj hresult
  have hmeets := meetsRules_of_validateRenderedContent hrules
  exact ⟨request, ast, content, hpayload, hparse, hsafe, rfl, hmeets, hmeets.trim⟩

/-- One render: it answers as a fresh engine without a cache, and keeps what compiles. -/
theorem renderTemplate_of_kept
    (h : Kept (compileTemplate env) maxCacheSize templateCache) (payload : RenderPayload) :
    (renderTemplate env maxCacheSize templateCache payload).1 =
        (renderTemplate env 0 Dict.empty payload).1 ∧
      Kept (compileTemplate env) maxCacheSize
        (renderTemplate env maxCacheSize templateCache payload).2 := by
  unfold renderTemplate
  cases hpayload : payload.toRequest with
  | error e => exact ⟨rfl, h⟩
  | ok request =>
      refine ⟨?_, kept_memoized h⟩
      dsimp only
      rw [memoized_fst h, memoized_fst (kept_empty (compileTemplate env) 0)]

theorem rendersSafely_of_fresh
    (h : (renderTemplate env 0 Dict.empty payload).1 = .ok result) :
    RendersSafely env payload result := by
  unfold renderTemplate at h
  cases hpayload : payload.toRequest with
  | error e =>
      rw [hpayload] at h
      cases h
  | ok request =>
      rw [hpayload] at h
      dsimp only at h
      rw [memoized_fst (kept_empty (compileTemplate env) 0)] at h
      exact rendersSafely_of_renderCompiled hpayload h

theorem kept_after (calls : List RenderPayload)
    (h : Kept (compileTemplate env) maxCacheSize templateCache) :
    Kept (compileTemplate env) maxCacheSize
      (after (renderTemplate env maxCacheSize) templateCache calls) := by
  induction calls generalizing templateCache with
  | nil => exact h
  | cons payload rest ih => exact ih (renderTemplate_of_kept h payload).2

end Renders

/-- Whatever was rendered before: every call answers as on a fresh engine that keeps nothing, the
cache is never too large and holds no body but with a safe tree, and a call that succeeds comes
from a safe tree and meets its rules. -/
theorem templateCache_invisible {Template : Type} (env : JinjaEnvironment Template)
    (maxCacheSize : ℕ) (calls : List RenderPayload) :
    (∀ answer ∈ answers (renderTemplate env maxCacheSize) Dict.empty calls,
      answer.2 = (renderTemplate env 0 Dict.empty answer.1).1 ∧
        ∀ result, answer.2 = .ok result → RendersSafely env answer.1 result) ∧
    (after (renderTemplate env maxCacheSize) Dict.empty calls).entries.length ≤ maxCacheSize ∧
    ∀ templateBody,
      (after (renderTemplate env maxCacheSize) Dict.empty calls).contains templateBody = true →
        ∃ ast, env.parse templateBody = .ok ast ∧ SafeTree ast := by
  have hempty := kept_empty (compileTemplate env) maxCacheSize
  have hkept := kept_after calls hempty
  refine ⟨fun answer hanswer => ?_, hkept.bound, fun templateBody hbody => ?_⟩
  · obtain ⟨earlier, payload, later, -, rfl⟩ := exists_split_of_mem_answers _ hanswer
    obtain ⟨hfresh, -⟩ := renderTemplate_of_kept (kept_after earlier hempty) payload
    exact ⟨hfresh, fun result hresult => rendersSafely_of_fresh (hfresh ▸ hresult)⟩
  · obtain ⟨template, htemplate⟩ := Dict.contains_iff_exists.mp hbody
    exact safeTree_of_compileTemplate (hkept.ok templateBody template htemplate)

end MediaCenter.Cglr
