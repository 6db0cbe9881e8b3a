import MediaCenter.Library.JoinedText
import MediaCenter.Model.Shared.Cache

/-!
# The keys of the tenant cache

No segment of a key holds a colon, so a key can be read back: the prefix, the tenant, the
namespace and the key of a call are those of its text, and the text of a namespace is the
start of the keys of that namespace alone.
-/

set_option autoImplicit false

namespace MediaCenter.Shared

open MediaCenter.Library

/-! ## Segments -/

/-- A text without a colon. -/
def ColonFree (s : String) : Prop := ':' ∉ s.toList

theorem normalizeKeySegment_eq_ok {value label s : String}
    (h : normalizeKeySegment value label = .ok s) :
    s = Text.strip value ∧ s ≠ "" ∧ ColonFree s ∧ s.toList.any Text.isSpace = false := by
  unfold normalizeKeySegment at h
  simp only at h
  split at h
  · cases h
  · rename_i hne
    split at h
    · cases h
    · rename_i hfree
      cases h
      rw [Bool.not_eq_true, Bool.or_eq_false_iff] at hfree
      refine ⟨rfl, hne, ?_, hfree.2⟩
      intro hmem
      have hcontains := List.contains_iff_mem.mpr hmem
      rw [hfree.1] at hcontains
      cases hcontains

/-- INTERNAL: a normal segment is its own normal form. -/
theorem normalizeKeySegment_idem {value label label' s : String}
    (h : normalizeKeySegment value label = .ok s) : normalizeKeySegment s label' = .ok s := by
  obtain ⟨hstrip, hne, hfree, hspace⟩ := normalizeKeySegment_eq_ok h
  have hself : Text.strip s = s := by
    rw [hstrip, Text.strip_strip]
  unfold normalizeKeySegment
  simp only [hself, if_neg hne, hspace, Bool.or_false]
  rw [if_neg]
  intro hcontains
  exact hfree (List.contains_iff_mem.mp hcontains)

/-! ## Texts -/

/-- The text of a key. -/
def keyText (keyPrefix tenantId namespaceName key : String) : String :=
  keyPrefix ++ ":tenant:" ++ tenantId ++ ":" ++ namespaceName ++ ":" ++ key

theorem toList_keyText (p t n k : String) : (keyText p t n k).toList =
    p.toList ++ ':' :: ("tenant".toList ++ ':' ::
      (t.toList ++ ':' :: (n.toList ++ ':' :: k.toList))) := by
  have htenant : ":tenant:".toList = ':' :: ("tenant".toList ++ [':']) := by decide
  have hcolon : ":".toList = [':'] := by decide
  unfold keyText
  simp only [String.toList_append, htenant, hcolon, List.append_assoc, List.cons_append,
    List.nil_append]

/-- INTERNAL: what follows the colons decides nothing about what stands before them. -/
theorem parts_eq_of_append_eq {p t n p' t' n' rest rest' : List Char} (hp : ':' ∉ p)
    (ht : ':' ∉ t) (hn : ':' ∉ n) (hp' : ':' ∉ p') (ht' : ':' ∉ t') (hn' : ':' ∉ n')
    (h : p ++ ':' :: ("tenant".toList ++ ':' :: (t ++ ':' :: (n ++ ':' :: rest))) =
      p' ++ ':' :: ("tenant".toList ++ ':' :: (t' ++ ':' :: (n' ++ ':' :: rest')))) :
    p = p' ∧ t = t' ∧ n = n' ∧ rest = rest' := by
  obtain ⟨hpeq, h⟩ := JoinedText.parts_eq_of_not_mem_left hp hp' h
  rw [List.append_cancel_left_eq, List.cons.injEq] at h
  obtain ⟨hteq, h⟩ := JoinedText.parts_eq_of_not_mem_left ht ht' h.2
  obtain ⟨hneq, h⟩ := JoinedText.parts_eq_of_not_mem_left hn hn' h
  exact ⟨hpeq, hteq, hneq, h⟩

theorem keyText_injective {p t n k p' t' n' k' : String} (hp : ColonFree p) (ht : ColonFree t)
    (hn : ColonFree n) (hp' : ColonFree p') (ht' : ColonFree t') (hn' : ColonFree n')
    (h : keyText p t n k = keyText p' t' n' k') : p = p' ∧ t = t' ∧ n = n' ∧ k = k' := by
  have hlist := congrArg String.toList h
  rw [toList_keyText, toList_keyText] at hlist
  obtain ⟨hpeq, hteq, hneq, hkeq⟩ := parts_eq_of_append_eq hp ht hn hp' ht' hn' hlist
  exact ⟨String.toList_inj.mp hpeq, String.toList_inj.mp hteq, String.toList_inj.mp hneq,
    String.toList_inj.mp hkeq⟩

/-- INTERNAL: the text of a namespace starts the keys of that namespace of that tenant. -/
theorem startsWith_keyText_iff {p t n t' n' : String} (hp : ColonFree p) (ht : ColonFree t)
    (hn : ColonFree n) (ht' : ColonFree t') (hn' : ColonFree n') (k : String) :
    InMemoryTenantCache.startsWith (keyText p t n "") (keyText p t' n' k) = true ↔
      t' = t ∧ n' = n := by
  unfold InMemoryTenantCache.startsWith
  rw [List.isPrefixOf_iff_prefix]
  constructor
  · rintro ⟨rest, hrest⟩
    rw [toList_keyText, toList_keyText] at hrest
    have hempty : "".toList = [] := by decide
    simp only [hempty, List.append_assoc, List.cons_append, List.nil_append] at hrest
    obtain ⟨_, hteq, hneq, _⟩ := parts_eq_of_append_eq hp ht hn hp ht' hn' hrest
    exact ⟨(String.toList_inj.mp hteq).symm, (String.toList_inj.mp hneq).symm⟩
  · rintro ⟨rfl, rfl⟩
    refine ⟨k.toList, ?_⟩
    have hempty : "".toList = [] := by decide
    rw [toList_keyText, toList_keyText]
    simp only [hempty, List.append_assoc, List.cons_append, List.nil_append]

/-! ## The keys of calls -/

section Calls

variable {options : CacheOptions} {caller : CacheCaller} {namespaceName key s : String}

theorem colonFree_keyPrefix (options : CacheOptions) : ColonFree options.keyPrefix :=
  (normalizeKeySegment_eq_ok options.keyPrefix_normal).2.2.1

theorem tenantCachePrefix_eq_ok_iff {context : TenantContext} {n : String} :
    tenantCachePrefix context n options.keyPrefix = .ok s ↔
      ∃ t, normalizeKeySegment context.tenantId "tenant_id" = .ok t ∧
        s = keyText options.keyPrefix t n "" := by
  unfold tenantCachePrefix
  rw [bind_eq_ok_iff]
  constructor
  · rintro ⟨p, hp, h⟩
    rw [normalizeKeySegment_idem options.keyPrefix_normal] at hp
    cases hp
    rw [bind_eq_ok_iff] at h
    obtain ⟨t, ht, hpure⟩ := h
    cases hpure
    refine ⟨t, ht, ?_⟩
    unfold keyText
    rw [String.append_empty]
  · rintro ⟨t, ht, rfl⟩
    refine ⟨options.keyPrefix, normalizeKeySegment_idem options.keyPrefix_normal, ?_⟩
    rw [bind_eq_ok_iff]
    refine ⟨t, ht, ?_⟩
    unfold keyText
    rw [String.append_empty]
    rfl

/-- The tenant of a caller, as its keys name it. -/
def tenantSegment (caller : CacheCaller) : Except SharedException String := do
  let context ← caller.resolve
  normalizeKeySegment context.tenantId "tenant_id"

theorem cacheKey_eq_ok_iff : cacheKey options caller namespaceName key = .ok s ↔
    ∃ t n k, tenantSegment caller = .ok t ∧ normalizeKeySegment namespaceName "namespace" = .ok n ∧
      normalizeKeySegment key "key" = .ok k ∧ s = keyText options.keyPrefix t n k := by
  have happend : ∀ t n k, keyText options.keyPrefix t n "" ++ k =
      keyText options.keyPrefix t n k := by
    intro t n k
    unfold keyText
    rw [String.append_empty]
  unfold cacheKey tenantSegment buildTenantCacheKey
  simp only [bind_eq_ok_iff]
  constructor
  · rintro ⟨context, hcontext, n, hn, k, hk, start, hstart, hpure⟩
    rw [tenantCachePrefix_eq_ok_iff] at hstart
    obtain ⟨t, ht, rfl⟩ := hstart
    cases hpure
    exact ⟨t, n, k, ⟨context, hcontext, ht⟩, hn, hk, happend t n k⟩
  · rintro ⟨t, n, k, ⟨context, hcontext, ht⟩, hn, hk, rfl⟩
    refine ⟨context, hcontext, n, hn, k, hk, keyText options.keyPrefix t n "", ?_, ?_⟩
    · exact tenantCachePrefix_eq_ok_iff.mpr ⟨t, ht, rfl⟩
    · rw [happend]
      rfl

theorem namespacePrefix_eq_ok_iff : namespacePrefix options caller namespaceName = .ok s ↔
    ∃ t n, tenantSegment caller = .ok t ∧ normalizeKeySegment namespaceName "namespace" = .ok n ∧
      s = keyText options.keyPrefix t n "" := by
  unfold namespacePrefix tenantSegment
  simp only [bind_eq_ok_iff]
  constructor
  · rintro ⟨context, hcontext, n, hn, hstart⟩
    rw [tenantCachePrefix_eq_ok_iff] at hstart
    obtain ⟨t, ht, rfl⟩ := hstart
    exact ⟨t, n, ⟨context, hcontext, ht⟩, hn, rfl⟩
  · rintro ⟨t, n, ⟨context, hcontext, ht⟩, hn, rfl⟩
    exact ⟨context, hcontext, n, hn, tenantCachePrefix_eq_ok_iff.mpr ⟨t, ht, rfl⟩⟩

theorem lockKey_eq_ok (h : lockKey options caller namespaceName key = .ok s) :
    ∃ t n k, tenantSegment caller = .ok t ∧ normalizeKeySegment namespaceName "namespace" = .ok n ∧
      normalizeKeySegment key "key" = .ok k ∧ ColonFree ("locks." ++ n) ∧
      s = keyText options.keyPrefix t ("locks." ++ n) k := by
  unfold lockKey at h
  rw [bind_eq_ok_iff] at h
  obtain ⟨n, hn, h⟩ := h
  rw [cacheKey_eq_ok_iff] at h
  obtain ⟨t, n', k, ht, hn', hk, rfl⟩ := h
  obtain ⟨hstrip, _, hfree, _⟩ := normalizeKeySegment_eq_ok hn'
  have hname : Text.strip ("locks." ++ n) = "locks." ++ n := by
    apply Text.dropBoth_of_forall_not
    intro c hc
    rw [String.toList_append, List.mem_append] at hc
    rcases hc with hlocks | hsegment
    · have hspace : ∀ c ∈ "locks.".toList, Text.isSpace c = false := by decide
      exact hspace c hlocks
    · have hspace := (normalizeKeySegment_eq_ok hn).2.2.2
      rw [List.any_eq_false] at hspace
      rw [← Bool.not_eq_true]
      exact hspace c hsegment
  rw [hname] at hstrip
  subst hstrip
  exact ⟨t, n, k, ht, hn, hk, hfree, rfl⟩

end Calls

end MediaCenter.Shared
