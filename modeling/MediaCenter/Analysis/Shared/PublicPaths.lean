import MediaCenter.Analysis.Shared.TokenCodec
import MediaCenter.Model.Shared.PublicPaths

/-!
# Which requests pass without a token

A path is public when it is one of the public paths up to trailing slashes, or goes on behind one
after a slash.  The middleware trims a request path as if it were a configured one: a path that
does not start with a slash makes the matching raise, and one with a space at its end is public
where it should not be.  The guard of `/admin` reads the path as it is, so `/admin` with a space
behind it passes both.
-/

set_option autoImplicit false

namespace MediaCenter.Shared

open MediaCenter.Library

/-! ## What is public -/

/-- The path is the public path up to trailing slashes, or goes on behind it after a slash. -/
def InPublicPath (publicPath path : String) : Prop :=
  rstripSlash path = rstripSlash publicPath ∨ ∃ rest, path = publicPath ++ "/" ++ rest

def IsPublic (publicPaths : List String) (path : String) : Prop :=
  ∃ publicPath ∈ publicPaths, InPublicPath publicPath path

/-- The path begins with two slashes, and the public path is the root. -/
def BelowRoot (publicPath path : String) : Prop :=
  publicPath = "/" ∧ ∃ rest, path = "//" ++ rest

/-! ## Slashes at the end -/

section Slashes

variable {s path publicPath : String}

theorem toList_rstripSlash (s : String) :
    (rstripSlash s).toList = s.toList.rdropWhile fun c => c = '/' := by
  unfold rstripSlash
  rw [String.toList_ofList]

theorem rstripSlash_of_getLast? (h : s.toList.getLast? ≠ some '/') : rstripSlash s = s := by
  rw [← String.toList_inj, toList_rstripSlash, List.rdropWhile_eq_self_iff]
  intro hne hlast
  rw [List.getLast?_eq_some_getLast hne, of_decide_eq_true hlast] at h
  exact h rfl

theorem exists_append_rstripSlash (s : String) : ∃ slashes, s = rstripSlash s ++ slashes := by
  obtain ⟨slashes, hslashes⟩ := List.rdropWhile_prefix (fun c => decide (c = '/')) (l := s.toList)
  refine ⟨String.ofList slashes, ?_⟩
  rw [← String.toList_inj, String.toList_append, toList_rstripSlash, String.toList_ofList]
  exact hslashes.symm

/-- INTERNAL: what is behind a slash is trimmed by itself, or was slashes only. -/
theorem rstripSlash_append (h : s.toList.getLast? ≠ some '/') (rest : String) :
    rstripSlash (s ++ "/" ++ rest) = s ∨
      ∃ rest', rstripSlash (s ++ "/" ++ rest) = s ++ "/" ++ rest' := by
  by_cases hslashes : rest.toList.rdropWhile (fun c => decide (c = '/')) = []
  · left
    rw [List.rdropWhile_eq_nil_iff] at hslashes
    have hs := rstripSlash_of_getLast? h
    rw [← String.toList_inj, toList_rstripSlash] at hs
    rw [← String.toList_inj, toList_rstripSlash, String.append_assoc, String.toList_append]
    unfold List.rdropWhile at hs ⊢
    rw [List.reverse_append, List.dropWhile_append_of_pos]
    · exact hs
    · intro c hc
      rw [List.mem_reverse, String.toList_append, List.mem_append] at hc
      rcases hc with hc | hc
      · simpa using hc
      · exact hslashes c hc
  · right
    refine ⟨rstripSlash rest, ?_⟩
    rw [← String.toList_inj, toList_rstripSlash]
    simp only [String.toList_append, toList_rstripSlash]
    unfold List.rdropWhile at hslashes ⊢
    rw [List.reverse_append, List.dropWhile_append, if_neg, List.reverse_append,
      List.reverse_reverse]
    rw [List.isEmpty_iff]
    intro hempty
    exact hslashes (by rw [hempty]; rfl)

end Slashes

/-! ## The matching -/

section Matching

variable {path publicPath normalized : String} {publicPaths kept : List String}

theorem normalizePublicPath_eq_ok_iff :
    normalizePublicPath path = .ok normalized ↔
      (Text.strip path).toList.head? = some '/' ∧
        normalized = if Text.strip path = "/" then "/" else rstripSlash (Text.strip path) := by
  unfold normalizePublicPath normalizeNamedPath
  dsimp only
  by_cases hempty : Text.strip path = ""
  · rw [if_pos hempty, hempty]
    simp
  rw [if_neg hempty]
  by_cases hhead : (Text.strip path).toList.head? = some '/'
  · rw [if_neg (not_not_intro hhead)]
    by_cases hroot : Text.strip path = "/"
    · rw [if_neg (not_not_intro hroot), if_pos hroot, hroot, Except.ok.injEq]
      exact ⟨fun h => ⟨rfl, h.symm⟩, fun h => h.2.symm⟩
    · rw [if_pos hroot, if_neg hroot, Except.ok.injEq]
      exact ⟨fun h => ⟨hhead, h.symm⟩, fun h => h.2.symm⟩
  · rw [if_pos hhead]
    exact ⟨fun h => (by cases h), fun h => absurd h.1 hhead⟩

/-- A normalised path is the root, or has no slash at its end. -/
theorem getLast?_of_normalizePublicPath (h : normalizePublicPath path = .ok normalized) :
    normalized = "/" ∨ normalized.toList.getLast? ≠ some '/' := by
  obtain ⟨-, rfl⟩ := normalizePublicPath_eq_ok_iff.mp h
  by_cases hroot : Text.strip path = "/"
  · rw [if_pos hroot]
    exact .inl rfl
  · rw [if_neg hroot]
    exact .inr (getLast?_rstripSlash _)

theorem isPrefixOf_iff_exists_append {front s : String} :
    front.toList.isPrefixOf s.toList = true ↔ ∃ rest, s = front ++ rest := by
  rw [List.isPrefixOf_iff_prefix]
  constructor
  · rintro ⟨rest, hrest⟩
    refine ⟨String.ofList rest, ?_⟩
    rw [← String.toList_inj, String.toList_append, String.toList_ofList, hrest]
  · rintro ⟨rest, rfl⟩
    rw [String.toList_append]
    exact List.prefix_append _ _

instance (publicPath path : String) : Decidable (InPublicPath publicPath path) :=
  decidable_of_iff (rstripSlash path = rstripSlash publicPath ∨
    (publicPath ++ "/").toList.isPrefixOf path.toList = true)
    (or_congr_right isPrefixOf_iff_exists_append)

instance (publicPath path : String) : Decidable (BelowRoot publicPath path) :=
  decidable_of_iff (publicPath = "/" ∧ "//".toList.isPrefixOf path.toList = true)
    (and_congr_right fun _ => isPrefixOf_iff_exists_append)

instance (publicPaths : List String) (path : String) : Decidable (IsPublic publicPaths path) :=
  inferInstanceAs (Decidable (∃ publicPath ∈ publicPaths, InPublicPath publicPath path))

/-- What `_is_public_path` compares with one public path. -/
def Covers (publicPath normalized : String) : Prop :=
  normalized = publicPath ∨ publicPath ≠ "/" ∧ ∃ rest, normalized = publicPath ++ "/" ++ rest

theorem isPublicPath_of_normalized (h : normalizePublicPath path = .ok normalized) :
    ∃ isPublic, isPublicPath path publicPaths = .ok isPublic ∧
      (isPublic = true ↔ ∃ publicPath ∈ publicPaths, Covers publicPath normalized) := by
  unfold isPublicPath
  rw [h]
  refine ⟨_, rfl, ?_⟩
  rw [List.any_eq_true]
  apply exists_congr
  intro publicPath
  apply and_congr_right
  intro _
  unfold Covers
  rw [Bool.or_eq_true, beq_iff_eq, Bool.and_eq_true, bne_iff_ne, isPrefixOf_iff_exists_append]

theorem isPublicPath_eq_ok {isPublic : Bool} (h : isPublicPath path publicPaths = .ok isPublic) :
    ∃ normalized, normalizePublicPath path = .ok normalized := by
  unfold isPublicPath at h
  obtain ⟨normalized, hok, -⟩ := bind_eq_ok_iff.mp h
  exact ⟨normalized, hok⟩

/-- INTERNAL: trailing slashes do not decide what goes on behind a public path. -/
theorem covers_rstripSlash_iff (hlast : publicPath.toList.getLast? ≠ some '/') :
    Covers publicPath (rstripSlash path) ↔ InPublicPath publicPath path := by
  have hne : publicPath ≠ "/" := by
    rintro rfl
    exact hlast rfl
  unfold Covers InPublicPath
  rw [rstripSlash_of_getLast? hlast]
  constructor
  · rintro (h | ⟨-, rest, hrest⟩)
    · exact .inl h
    · obtain ⟨slashes, hslashes⟩ := exists_append_rstripSlash path
      right
      refine ⟨rest ++ slashes, ?_⟩
      rw [hrest] at hslashes
      rw [hslashes, String.append_assoc]
  · rintro (h | ⟨rest, rfl⟩)
    · exact .inl h
    · rcases rstripSlash_append hlast rest with h | ⟨rest', h⟩
      · exact .inl h
      · exact .inr ⟨hne, rest', h⟩

theorem rstripSlash_ne_root (s : String) : rstripSlash s ≠ "/" := by
  intro h
  have hlast := getLast?_rstripSlash s
  rw [h] at hlast
  exact hlast rfl

theorem toList_slash : "/".toList = ['/'] := by decide

theorem exists_eq_slash_append (hhead : path.toList.head? = some '/') :
    ∃ rest, path = "/" ++ rest := by
  obtain ⟨rest, hrest⟩ := List.head?_eq_some_iff.mp hhead
  refine ⟨String.ofList rest, ?_⟩
  rw [← String.toList_inj, String.toList_append, toList_slash, String.toList_ofList, hrest]
  rfl

theorem not_belowRoot_root : ¬ BelowRoot publicPath "/" := by
  rintro ⟨-, rest, hrest⟩
  have hlength : "/".toList.length = ("//" ++ rest).toList.length := by rw [← hrest]
  have htwo : "//".toList = ['/', '/'] := by decide
  rw [String.toList_append, List.length_append, toList_slash, htwo, List.length_singleton,
    List.length_cons, List.length_singleton] at hlength
  omega

/-- INTERNAL: a path of slashes alone that is not the root begins with two. -/
theorem belowRoot_of_rstripSlash_eq (hhead : path.toList.head? = some '/') (hroot : path ≠ "/")
    (h : rstripSlash path = "") : BelowRoot "/" path := by
  obtain ⟨rest, rfl⟩ := exists_eq_slash_append hhead
  have hslashes : ∀ c ∈ ("/" ++ rest).toList, c = '/' := by
    rw [← String.toList_inj, toList_rstripSlash] at h
    have hall := List.rdropWhile_eq_nil_iff.mp h
    intro c hc
    exact of_decide_eq_true (hall c hc)
  have hrest : rest.toList.head? = some '/' := by
    cases hlist : rest.toList with
    | nil =>
        rw [String.toList_eq_nil_iff.mp hlist] at hroot
        exact absurd rfl hroot
    | cons c rest' =>
        rw [List.head?_cons, hslashes c]
        rw [String.toList_append, hlist]
        exact List.mem_append_right _ List.mem_cons_self
  obtain ⟨rest', rfl⟩ := exists_eq_slash_append hrest
  refine ⟨rfl, rest', ?_⟩
  rw [← String.append_assoc]
  rfl

/-- INTERNAL: only the root alone is the root; what begins with two slashes lies below it. -/
theorem covers_root_iff (hhead : path.toList.head? = some '/') :
    Covers "/" (if path = "/" then "/" else rstripSlash path) ↔
      InPublicPath "/" path ∧ ¬ BelowRoot "/" path := by
  by_cases hroot : path = "/"
  · subst hroot
    rw [if_pos rfl]
    exact iff_of_true (.inl rfl) ⟨.inl rfl, not_belowRoot_root⟩
  rw [if_neg hroot]
  apply iff_of_false
  · rintro (h | ⟨h, -⟩)
    · exact rstripSlash_ne_root path h
    · exact h rfl
  rintro ⟨hslashes | ⟨rest, hrest⟩, hbelow⟩
  · exact hbelow (belowRoot_of_rstripSlash_eq hhead hroot hslashes)
  · exact hbelow ⟨rfl, rest, hrest⟩

/-- INTERNAL: the root is public below an empty path alone. -/
theorem covers_root_of_getLast? (hlast : publicPath.toList.getLast? ≠ some '/') :
    Covers publicPath "/" ↔ InPublicPath publicPath "/" := by
  have hne : publicPath ≠ "/" := by
    rintro rfl
    exact hlast rfl
  have hempty : rstripSlash "/" = "" := by decide
  unfold Covers InPublicPath
  rw [rstripSlash_of_getLast? hlast, hempty, and_iff_right hne]
  constructor
  · rintro (h | h)
    · exact absurd h.symm hne
    · exact .inr h
  · rintro (rfl | h)
    · exact .inr ⟨"", rfl⟩
    · exact .inr h

/-- The middleware goes by the trimmed path, but for a root with two slashes. -/
theorem covers_iff (hhead : path.toList.head? = some '/')
    (hlast : publicPath = "/" ∨ publicPath.toList.getLast? ≠ some '/') :
    Covers publicPath (if path = "/" then "/" else rstripSlash path) ↔
      InPublicPath publicPath path ∧ ¬ BelowRoot publicPath path := by
  rcases hlast with rfl | hlast
  · exact covers_root_iff hhead
  have hbelow : ¬ BelowRoot publicPath path := by
    rintro ⟨rfl, -⟩
    exact hlast rfl
  rw [and_iff_left hbelow]
  by_cases hroot : path = "/"
  · subst hroot
    rw [if_pos rfl]
    exact covers_root_of_getLast? hlast
  · rw [if_neg hroot]
    exact covers_rstripSlash_iff hlast

end Matching

/-! ## Requests of a service -/

section Requests

variable {σ : Type} (py : Stdlib) (codec : SegmentCodec) (auditSink : Bool)

/-- The middleware can be put together, the matching does not raise, and the request passes
without a token exactly when its path is public. -/
def ServesExactly (config : ServiceTemplateConfig) (path : String) : Prop :=
  ∃ m, publicPathTenantContextMiddleware py codec auditSink config = .ok m ∧
    ∃ route, m.route path = .ok route ∧ (route = .app ↔ IsPublic config.publicPaths path)

/-- The config's paths can be normalised once more, the request path starts with a slash but for
its spaces, and it is public exactly when it is without them, among the paths so normalised, and
not by two slashes below the root. -/
def PlainPath (publicPaths : List String) (path : String) : Prop :=
  ∃ kept, normalizePublicPaths publicPaths = .ok kept ∧
    (Text.strip path).toList.head? = some '/' ∧
    (IsPublic publicPaths path ↔ ∃ publicPath ∈ kept,
      InPublicPath publicPath (Text.strip path) ∧ ¬ BelowRoot publicPath (Text.strip path))

variable {py codec auditSink}

theorem normalizePublicPaths_eq_ok_iff {paths normalized : List String} :
    normalizePublicPaths paths = .ok normalized ↔
      paths.mapM normalizePublicPath = .ok normalized ∧ normalized.length ≠ 0 ∧
        normalized.Nodup := by
  unfold normalizePublicPaths
  simp only [bind_eq_ok_iff, refuseIf_eq_ok_iff, not_not]
  constructor
  · rintro ⟨normalized, hmapM, -, hlength, -, hnodup, ⟨⟩⟩
    exact ⟨hmapM, hlength, hnodup⟩
  · rintro ⟨hmapM, hlength, hnodup⟩
    exact ⟨normalized, hmapM, (), hlength, (), hnodup, rfl⟩

theorem getLast?_of_mem_normalizePublicPaths {paths normalized : List String} {publicPath : String}
    (h : normalizePublicPaths paths = .ok normalized) (hmem : publicPath ∈ normalized) :
    publicPath = "/" ∨ publicPath.toList.getLast? ≠ some '/' := by
  obtain ⟨path, -, hpath⟩ := exists_of_mem_mapM (normalizePublicPaths_eq_ok_iff.mp h).1 hmem
  exact getLast?_of_normalizePublicPath hpath

theorem publicPathTenantContextMiddleware_eq_ok_iff {config : ServiceTemplateConfig}
    {m : PublicPathTenantContextMiddleware} :
    publicPathTenantContextMiddleware py codec auditSink config = .ok m ↔
      normalizePublicPaths config.publicPaths = .ok m.publicPaths ∧
        m.securedApp = ⟨py, codec, config.jwtSecret, config.expectedIssuer,
          config.expectedAudience, auditSink⟩ := by
  unfold publicPathTenantContextMiddleware
  rw [bind_eq_ok_iff]
  constructor
  · rintro ⟨publicPaths, h, ⟨⟩⟩
    exact ⟨h, rfl⟩
  · rintro ⟨h, hsecured⟩
    obtain ⟨publicPaths, securedApp⟩ := m
    subst hsecured
    exact ⟨publicPaths, h, rfl⟩

variable {m : PublicPathTenantContextMiddleware} {path normalized : String}

/-- What the middleware does with a path that it can normalise. -/
theorem route_of_normalized (h : normalizePublicPath path = .ok normalized) :
    ∃ route, m.route path = .ok route ∧
      (route = .app ↔ ∃ publicPath ∈ m.publicPaths, Covers publicPath normalized) := by
  obtain ⟨isPublic, hok, hiff⟩ := @isPublicPath_of_normalized path normalized m.publicPaths h
  unfold PublicPathTenantContextMiddleware.route
  rw [hok]
  refine ⟨_, rfl, ?_⟩
  rw [← hiff]
  cases isPublic with
  | false => exact ⟨fun h => (by cases h), fun h => (by cases h)⟩
  | true => exact ⟨fun _ => rfl, fun _ => rfl⟩

theorem exists_normalized_of_route {route : PublicPathRoute} (h : m.route path = .ok route) :
    ∃ normalized, normalizePublicPath path = .ok normalized := by
  unfold PublicPathTenantContextMiddleware.route at h
  obtain ⟨isPublic, hok, -⟩ := bind_eq_ok_iff.mp h
  exact isPublicPath_eq_ok hok

/-- INTERNAL: where a request goes, said of the path without its spaces. -/
theorem route_of_head? {config : ServiceTemplateConfig}
    (hm : publicPathTenantContextMiddleware py codec auditSink config = .ok m)
    (hhead : (Text.strip path).toList.head? = some '/') :
    ∃ route, m.route path = .ok route ∧ (route = .app ↔ ∃ publicPath ∈ m.publicPaths,
      InPublicPath publicPath (Text.strip path) ∧ ¬ BelowRoot publicPath (Text.strip path)) := by
  obtain ⟨hkept, -⟩ := publicPathTenantContextMiddleware_eq_ok_iff.mp hm
  obtain ⟨route, hroute, hiff⟩ :=
    @route_of_normalized m path _ (normalizePublicPath_eq_ok_iff.mpr ⟨hhead, rfl⟩)
  refine ⟨route, hroute, hiff.trans ?_⟩
  apply exists_congr
  intro publicPath
  apply and_congr_right
  intro hmem
  exact covers_iff hhead (getLast?_of_mem_normalizePublicPaths hkept hmem)

theorem servesExactly_iff {config : ServiceTemplateConfig} :
    ServesExactly py codec auditSink config path ↔ PlainPath config.publicPaths path := by
  constructor
  · rintro ⟨m, hm, route, hroute, hpublic⟩
    obtain ⟨normalized, hnormalized⟩ := exists_normalized_of_route hroute
    obtain ⟨hhead, -⟩ := normalizePublicPath_eq_ok_iff.mp hnormalized
    obtain ⟨route', hroute', hiff⟩ := route_of_head? hm hhead
    obtain rfl : route = route' := Except.ok.inj (hroute.symm.trans hroute')
    exact ⟨m.publicPaths, (publicPathTenantContextMiddleware_eq_ok_iff.mp hm).1, hhead,
      hpublic.symm.trans hiff⟩
  · rintro ⟨kept, hkept, hhead, hpublic⟩
    have hm : publicPathTenantContextMiddleware py codec auditSink config =
        .ok ⟨kept, ⟨py, codec, config.jwtSecret, config.expectedIssuer,
          config.expectedAudience, auditSink⟩⟩ :=
      publicPathTenantContextMiddleware_eq_ok_iff.mpr ⟨hkept, rfl⟩
    obtain ⟨route, hroute, hiff⟩ := @route_of_head? py codec auditSink _ path config hm hhead
    exact ⟨_, hm, route, hroute, hiff.trans hpublic.symm⟩

/-! ## The usual paths, and the degenerate ones -/

example : (normalizePublicPaths ["// /"]).bind normalizePublicPaths = .ok [""] := by
  decide

end Requests

/-! ## The admin area -/

section Admin

variable {σ : Type} (py : Stdlib) (codec : SegmentCodec) (auditSink : Bool)

/-- A request that passes without a token because of `/admin` is passed on only after
`require_s2s` accepted it. -/
def AdminGuarded (guard : AdminGuard σ) (config : BaseAppConfig) (request : AppRequest)
    (seen : σ) : Prop :=
  ∀ identity,
    (baseAppCall py codec auditSink guard config request seen).1 = .passedOn identity (.ok .app) →
      InPublicPath "/admin" (Text.strip request.path) →
        ∃ accepted, identity = some accepted ∧ (guard.requireS2s request seen).1 = .ok accepted

variable {py codec auditSink} {guard : AdminGuard σ} {request : AppRequest} {seen : σ}
  {config app : BaseAppConfig} {m : PublicPathTenantContextMiddleware}

theorem normalizeNamedPath_admin (label : String) :
    normalizeNamedPath label "/admin" = .ok "/admin" := by
  unfold normalizeNamedPath
  have hstrip : Text.strip "/admin" = "/admin" := by decide
  have hhead : "/admin".toList.head? = some '/' := by decide
  have hrstrip : rstripSlash "/admin" = "/admin" := by decide
  rw [hstrip]
  dsimp only
  rw [if_neg (by decide), if_neg (not_not_intro hhead), if_pos (by decide), hrstrip]

theorem publicPaths_of_replacePublicPaths {service replaced : ServiceTemplateConfig}
    {paths : List String} (h : service.replacePublicPaths paths = .ok replaced) :
    normalizePublicPaths paths = .ok replaced.publicPaths := by
  unfold ServiceTemplateConfig.replacePublicPaths at h
  split at h
  · cases h
  · rename_i publicPaths hpaths
    obtain rfl := Except.ok.inj h
    exact hpaths

theorem replacePublicPaths_of_normalized {service : ServiceTemplateConfig}
    {paths publicPaths : List String} (h : normalizePublicPaths paths = .ok publicPaths) :
    service.replacePublicPaths paths = .ok { service with
      publicPaths := publicPaths, publicPaths_normalized := ⟨paths, h⟩ } := by
  unfold ServiceTemplateConfig.replacePublicPaths
  split
  · rename_i e he
    rw [h] at he
    cases he
  · rename_i normalized hnormalized
    obtain rfl := Except.ok.inj (h.symm.trans hnormalized)
    rfl

/-- A base app has `/admin` among its public paths. -/
theorem admin_mem_publicPaths (h : createBaseApp config = .ok app) :
    "/admin" ∈ app.service.publicPaths := by
  unfold createBaseApp basePublicPaths at h
  obtain ⟨paths, hpaths, h⟩ := bind_eq_ok_iff.mp h
  obtain ⟨service, hservice, happ⟩ := bind_eq_ok_iff.mp h
  obtain rfl := Except.ok.inj happ
  obtain ⟨normalizedPaths, hmapM, hpaths⟩ := bind_eq_ok_iff.mp hpaths
  obtain rfl := Except.ok.inj hpaths
  have hbase : "/admin" ∈ normalizedPaths := by
    rw [mem_mapM_iff hmapM]
    refine ⟨"/admin", ?_, normalizeNamedPath_admin "path"⟩
    exact List.mem_append_left _ (List.mem_append_right _ (by decide))
  obtain ⟨hnormalized, -⟩ :=
    normalizePublicPaths_eq_ok_iff.mp (publicPaths_of_replacePublicPaths hservice)
  rw [mem_mapM_iff hnormalized]
  exact ⟨"/admin", List.mem_eraseDups.mpr hbase, normalizeNamedPath_admin "public path"⟩

theorem admin_mem_kept
    (hm : publicPathTenantContextMiddleware py codec auditSink app.service = .ok m)
    (h : createBaseApp config = .ok app) : "/admin" ∈ m.publicPaths := by
  obtain ⟨hkept, -⟩ := publicPathTenantContextMiddleware_eq_ok_iff.mp hm
  rw [mem_mapM_iff (normalizePublicPaths_eq_ok_iff.mp hkept).1]
  exact ⟨"/admin", admin_mem_publicPaths h, normalizeNamedPath_admin "public path"⟩

/-- The guard asks where the path of the URL is an admin path. -/
theorem adminGuarded_of_isAdminPath (h : isAdminPath (guard.urlPath request) = true) :
    AdminGuarded py codec auditSink guard app request seen := by
  intro identity hrun _
  unfold baseAppCall at hrun
  cases hm : publicPathTenantContextMiddleware py codec auditSink app.service with
  | error e =>
      rw [hm] at hrun
      cases hrun
  | ok m =>
      rw [hm] at hrun
      dsimp only at hrun
      unfold baseAdminS2sGuard at hrun
      rw [if_pos h] at hrun
      rcases hanswer : guard.requireS2s request seen with ⟨answer, seen'⟩
      rw [hanswer] at hrun
      cases answer with
      | error failure => cases hrun
      | ok accepted =>
          obtain ⟨hidentity, -⟩ := BaseAppRun.passedOn.inj hrun
          exact ⟨accepted, hidentity.symm, rfl⟩

/-- INTERNAL: where the guard does not ask, what lies in `/admin` passes unasked. -/
theorem isAdminPath_of_adminGuarded (happ : createBaseApp config = .ok app)
    (hserves : ServesExactly py codec auditSink app.service request.path)
    (hguarded : AdminGuarded py codec auditSink guard app request seen)
    (hadmin : InPublicPath "/admin" (Text.strip request.path)) :
    isAdminPath (guard.urlPath request) = true := by
  by_contra hopen
  obtain ⟨m, hm, route, hroute, -⟩ := hserves
  obtain ⟨normalized, hnormalized⟩ := exists_normalized_of_route hroute
  obtain ⟨hhead, -⟩ := normalizePublicPath_eq_ok_iff.mp hnormalized
  obtain ⟨route', hroute', hiff⟩ := route_of_head? hm hhead
  have hroot : ¬ BelowRoot "/admin" (Text.strip request.path) := by
    rintro ⟨h, -⟩
    exact absurd h (by decide)
  obtain rfl : route' = .app := hiff.mpr ⟨"/admin", admin_mem_kept hm happ, hadmin, hroot⟩
  have hrun : (baseAppCall py codec auditSink guard app request seen).1 =
      .passedOn none (.ok .app) := by
    unfold baseAppCall baseAdminS2sGuard
    rw [hm]
    dsimp only
    rw [if_neg hopen, hroute']
  obtain ⟨accepted, hsome, -⟩ := hguarded none hrun hadmin
  cases hsome

end Admin

/-- Requests of a service are served exactly where their paths are plain; those of a base app
are, and the ones in `/admin` guarded, where the URL's path is an admin path besides. -/
theorem publicPaths_exact_iff (py : Stdlib) (codec : SegmentCodec) (auditSink : Bool) :
    (∀ (config : ServiceTemplateConfig) (path : String),
      ServesExactly py codec auditSink config path ↔ PlainPath config.publicPaths path) ∧
    ∀ {σ : Type} (guard : AdminGuard σ) (config app : BaseAppConfig) (request : AppRequest)
      (seen : σ), createBaseApp config = .ok app →
        ((ServesExactly py codec auditSink app.service request.path ∧
            AdminGuarded py codec auditSink guard app request seen) ↔
          (PlainPath app.service.publicPaths request.path ∧
            (InPublicPath "/admin" (Text.strip request.path) →
              isAdminPath (guard.urlPath request) = true))) := by
  refine ⟨fun config path => servesExactly_iff, ?_⟩
  intro σ guard config app request seen happ
  rw [← @servesExactly_iff py codec auditSink request.path app.service]
  constructor
  · rintro ⟨hserves, hguarded⟩
    exact ⟨hserves, isAdminPath_of_adminGuarded happ hserves hguarded⟩
  · rintro ⟨hserves, hadmin⟩
    refine ⟨hserves, ?_⟩
    intro identity hrun hin
    exact adminGuarded_of_isAdminPath (hadmin hin) identity hrun hin

namespace Reference

def publicService : ServiceTemplateConfig where
  jwtSecret := [115]
  expectedIssuer := none
  expectedAudience := none
  publicPaths := ["/health"]
  publicPaths_normalized := ⟨["/health/"], by decide⟩

def baseService : ServiceTemplateConfig where
  jwtSecret := [115]
  expectedIssuer := none
  expectedAudience := none
  publicPaths := ["/health", "/ready", "/info", "/admin"]
  publicPaths_normalized := ⟨["/health", "/ready", "/info", "/admin"], by decide⟩

/-- A guard that knows one service, and reads the path of the scope. -/
def serviceGuard : AdminGuard Unit where
  urlPath request := request.path
  requireS2s _ seen := (.ok ⟨"ledger", .sharedSecret⟩, seen)

def pathRequest (path : String) : AppRequest := ⟨"GET", path, ⟨[], 0⟩⟩

theorem createBaseApp_publicService :
    createBaseApp ⟨publicService, none, none, none⟩ = .ok ⟨baseService, none, none, none⟩ := by
  have hpaths : basePublicPaths ⟨publicService, none, none, none⟩ =
      .ok baseService.publicPaths := by decide
  have hnormalized : normalizePublicPaths baseService.publicPaths =
      .ok baseService.publicPaths := by decide
  unfold createBaseApp
  rw [hpaths, bind_eq_ok_iff]
  refine ⟨_, rfl, ?_⟩
  rw [replacePublicPaths_of_normalized hnormalized]
  rfl

theorem middleware_baseService :
    publicPathTenantContextMiddleware stdlib segmentCodec false baseService =
      .ok ⟨baseService.publicPaths, ⟨stdlib, segmentCodec, [115], none, none, false⟩⟩ := by
  rw [publicPathTenantContextMiddleware_eq_ok_iff]
  exact ⟨by decide, rfl⟩

end Reference

open Reference in
/-- A service with `/health` alone and a request for it, and the same service as a base app and a
request for its admin area, which the guard lets pass. -/
theorem publicPaths_exact_health :
    ServesExactly stdlib segmentCodec false publicService
      "/health/" ∧
    ServesExactly stdlib segmentCodec false baseService
      "/admin/log-level" ∧
    AdminGuarded stdlib segmentCodec false serviceGuard
      ⟨baseService, none, none, none⟩ (pathRequest "/admin/log-level") () ∧
    (baseAppCall stdlib segmentCodec false serviceGuard
      ⟨baseService, none, none, none⟩ (pathRequest "/admin/log-level") ()).1 =
        .passedOn (some ⟨"ledger", .sharedSecret⟩) (.ok .app) := by
  have hexact := publicPaths_exact_iff stdlib segmentCodec false
  have hbase := hexact.2 serviceGuard ⟨publicService, none, none, none⟩
    ⟨baseService, none, none, none⟩ (pathRequest "/admin/log-level") ()
    createBaseApp_publicService
  obtain ⟨hserves, hguarded⟩ :=
    hbase.mpr ⟨⟨baseService.publicPaths, by decide⟩, fun _ => by decide⟩
  refine ⟨(hexact.1 _ _).mpr ⟨["/health"], by decide⟩, hserves, hguarded, ?_⟩
  unfold baseAppCall baseAdminS2sGuard
  rw [middleware_baseService]
  dsimp only
  rw [if_pos (by decide)]
  have happ : isPublicPath "/admin/log-level" baseService.publicPaths = .ok true := by
    decide
  unfold PublicPathTenantContextMiddleware.route pathRequest
  rw [happ]
  rfl

open Reference in
/-- `/admin` with a space behind it: the request passes without a token and unasked. -/
theorem not_publicPaths_exact :
    createBaseApp ⟨publicService, none, none, none⟩ =
        .ok ⟨baseService, none, none, none⟩ ∧
      ¬ ServesExactly stdlib segmentCodec false baseService
        "/admin " ∧
      ¬ AdminGuarded stdlib segmentCodec false serviceGuard
        ⟨baseService, none, none, none⟩ (pathRequest "/admin ") () := by
  refine ⟨createBaseApp_publicService, ?_, ?_⟩
  · rintro ⟨m, hm, route, hroute, hpublic⟩
    obtain rfl := Except.ok.inj (middleware_baseService.symm.trans hm)
    have happ : isPublicPath "/admin " baseService.publicPaths = .ok true := by
      decide
    unfold PublicPathTenantContextMiddleware.route at hroute
    rw [happ] at hroute
    have hnot : ¬ IsPublic baseService.publicPaths "/admin " := by decide
    exact hnot (hpublic.mp (Except.ok.inj hroute).symm)
  · intro hguarded
    have hrun : (baseAppCall stdlib segmentCodec false serviceGuard
        ⟨baseService, none, none, none⟩ (pathRequest "/admin ") ()).1 =
          .passedOn none (.ok .app) := by
      unfold baseAppCall baseAdminS2sGuard
      rw [middleware_baseService]
      dsimp only
      rw [if_neg (by decide)]
      have happ : isPublicPath "/admin " baseService.publicPaths = .ok true := by
        decide
      unfold PublicPathTenantContextMiddleware.route pathRequest
      rw [happ]
      rfl
    obtain ⟨accepted, hsome, -⟩ := hguarded none hrun (by decide)
    cases hsome

end MediaCenter.Shared
