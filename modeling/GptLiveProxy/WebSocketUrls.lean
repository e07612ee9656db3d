import GptLiveProxy.CallIds
import GptLiveProxy.ConfigSound
import GptLiveProxy.UpstreamUrls
import GptLiveProxy.UrlExtension

/-!
# What a WebSocket URL parses to

A base URL is validated as the parser reads it, and extended as it is spelled. The two agree when
the spelling is literal where the builders look at it: the scheme, a trailing `/v1`, and the end.
`LiteralBase` is that condition on the text of the base, and `IsVerbatim` is the one on the inbound
path; together they are exactly when the URL parses to the base's host, port, and path.
-/

namespace GptLiveProxy
open CharText WebUrl

def wsScheme (scheme : Text) : Text :=
  if scheme = "https".toList then "wss".toList else "ws".toList

/-- The base path without trailing slashes and without one trailing `/v1`. -/
def basePath (base : Url) : Text := removeSuffix "/v1".toList (trimEnd '/' (pathText base.path))

/-- The URL parses to the base under the WebSocket scheme, with the request path appended. -/
def ExtendsBase (urls : Externals) (base : Url) (path url : Text) : Prop :=
  ∃ parsed, parse urls url = .ok parsed ∧ parsed.scheme = wsScheme base.scheme ∧
    parsed.host = base.host ∧ parsed.port = base.port ∧ pathText parsed.path = basePath base ++ path

/-- A base spelled the way the builders extend it: with a literal scheme, with a visible end, and,
trailing slashes aside, with a last path segment that is either a literal `/v1` or neither empty
nor `v1` in another spelling. -/
structure LiteralBase (base : Text) : Prop where
  scheme : "http://".toList <+: base ∨ "https://".toList <+: base
  visible : ∀ c ∈ base.getLast?, isControlOrSpace c = false
  segment : "/v1".toList <:+ trimEnd '/' base → pathOf (trimEnd '/' base) ≠ []
  other : ¬ "/v1".toList <:+ trimEnd '/' base →
    (closedPath (pathOf (trimEnd '/' base))).getLast? ≠ some [] ∧
      (closedPath (pathOf (trimEnd '/' base))).getLast? ≠ some "v1".toList

/-- What follows `/v1` in a request: the rest of the path, and the query with its question mark. -/
structure IsRequest (path query : Text) : Prop where
  slash : path.head? = some '/'
  plain : ∀ c ∈ path, endsPath c = false
  start : ∀ c ∈ query.head?, endsPath c = true
  visible : ∀ c ∈ path ++ query, isControlOrSpace c = false

section Paths
variable {path : Text}

theorem v1_slashFree : ∀ c ∈ "v1".toList, isSlash c = false := by
  intro c hc
  simpa using List.all_eq_true.mp (rfl : "v1".toList.all (fun c => !isSlash c) = true) c hc

theorem v1_canonical : IsCanonical "v1".toList :=
  ⟨fun c hc => List.all_eq_true.mp (rfl : "v1".toList.all isWritten = true) c hc, rfl⟩

theorem root_path (front : Text) (n : Nat) :
    removeSuffix "/v1".toList (trimEnd '/' (pathText (parsePath (front ++ List.replicate n '/')))) =
      pathText (rootSegments "v1".toList (closedPath front)) :=
  root_parsePath front n v1_slashFree

/-- A base path that keeps its last segment: it is extended exactly when that segment stays. -/
theorem path_appended_iff (front : Text) (n : Nat) :
    pathText (parsePath (front ++ ("/v1".toList ++ path))) =
        removeSuffix "/v1".toList
          (trimEnd '/' (pathText (parsePath (front ++ List.replicate n '/')))) ++
          ("/v1".toList ++ path) ↔
      IsVerbatim ("/v1".toList ++ path) ∧ (closedPath front).getLast? ≠ some [] ∧
        (closedPath front).getLast? ≠ some "v1".toList := by
  have hfree : SlashFree (rootSegments "v1".toList (closedPath front)) := fun s hs =>
    slashFree_closedPath front s ((prefix_rootSegments _ _).subset hs)
  rw [parsePath_append front (rfl : ("/v1".toList ++ path).head? = some '/'), root_path,
    resolve_eq_iff (canonical_closedPath front) hfree rfl, eq_comm, rootSegments_eq_self_iff]

/-- A base path that ends in a literal `/v1`: the request path takes its place. -/
theorem path_replaced_iff (front : Text) (n : Nat) :
    pathText (parsePath (front ++ ("/v1".toList ++ path))) =
        removeSuffix "/v1".toList
          (trimEnd '/' (pathText (parsePath (front ++ "/v1".toList ++ List.replicate n '/')))) ++
          ("/v1".toList ++ path) ↔
      IsVerbatim ("/v1".toList ++ path) := by
  have hclosed : closedPath (front ++ "/v1".toList) = closedPath front ++ ["v1".toList] :=
    closedPath_append_segment front v1_canonical
  have hroot : rootSegments "v1".toList (closedPath (front ++ "/v1".toList)) = closedPath front := by
    rw [hclosed, rootSegments_concat _ (by decide), if_pos rfl]
  rw [parsePath_append front (rfl : ("/v1".toList ++ path).head? = some '/'), root_path, hroot,
    resolve_eq_iff (canonical_closedPath front) (slashFree_closedPath front) rfl]
  exact and_iff_left rfl

theorem path_of_host_ne (n : Nat) (hslash : path.head? = some '/') :
    pathText (parsePath path) ≠
      removeSuffix "/v1".toList (trimEnd '/' (pathText (parsePath (List.replicate n '/')))) ++
        ("/v1".toList ++ path) := by
  have hbase := root_path [] n
  have hextended := parsePath_append [] hslash
  rw [List.nil_append] at hbase hextended
  have hempty : pathText (rootSegments "v1".toList (closedPath [])) = [] := rfl
  rw [hbase, hempty, hextended, List.nil_append]
  intro h
  have hsegments := (resolve_eq_iff (List.forall_mem_nil _)
    (List.forall_mem_singleton.mpr v1_slashFree) hslash).mp h
  cases hsegments.2

end Paths

/-- A scheme, the WebSocket scheme that takes its place, and the default port they share. -/
structure Rewritten (name ws : Text) (port : Nat) : Prop where
  base : SpecialScheme name port
  socket : SpecialScheme ws port
  rewrite : ∀ t, rewriteScheme (name ++ "://".toList ++ t) = ws ++ "://".toList ++ t
  scheme : wsScheme name = ws

theorem https_rewritten : Rewritten "https".toList "wss".toList 443 where
  base := https_special
  socket := wss_special
  rewrite t := by
    change rewriteScheme ("https://".toList ++ t) = _
    rw [rewriteScheme, dropPrefix?_append]
    rfl
  scheme := rfl

theorem http_rewritten : Rewritten "http".toList "ws".toList 80 where
  base := http_special
  socket := ws_special
  rewrite t := by
    have hnot : ("http://".toList ++ t).dropPrefix? "https://".toList = none := by
      rw [dropPrefix?_append_right t (fun h => absurd h (by decide))]
      rfl
    change rewriteScheme ("http://".toList ++ t) = _
    rw [rewriteScheme, hnot, dropPrefix?_append]
    rfl
  scheme := rfl

def versionPart (trimmed : Text) : Text := if "/v1".toList <:+ trimmed then [] else "/v1".toList

theorem apiRoot_eq (base : Text) :
    apiRoot base = trimEnd '/' base ++ versionPart (trimEnd '/' base) := by
  rw [apiRoot, stripV1Suffix, versionPart]
  split_ifs with hv1
  · obtain ⟨front, hfront⟩ := hv1
    rw [← hfront, removeSuffix_append, List.append_nil]
  · rw [removeSuffix_of_not_suffix hv1]

section Literal
variable {urls : Externals} {name ws : Text} {port : Nat} {text kept : Text} {n : Nat} {base : Url}

theorem slashes_visible (n : Nat) : ∀ c ∈ List.replicate n '/', isControlOrSpace c = false := by
  intro c hc
  rw [List.eq_of_mem_replicate hc]
  rfl

theorem exists_kept (hname : SpecialScheme name port)
    (h : parse urls (name ++ "://".toList ++ text) = .ok base) :
    ∃ kept n, text = kept ++ List.replicate n '/' ∧
      trimEnd '/' (name ++ "://".toList ++ text) = name ++ "://".toList ++ kept := by
  obtain ⟨authority, hauthority, -⟩ := (parse_special_eq_ok hname).mp h
  have hauthority := ne_nil_of_parseAuthority hauthority
  obtain ⟨n, htext⟩ := exists_trimEnd '/' text
  have hkept : trimEnd '/' text ≠ [] := by
    intro hempty
    apply hauthority
    rw [htext, hempty, List.nil_append, cleanEnd_of_last (fun c hc => slashes_visible n c
      (List.mem_of_getLast? hc)), untabbed_eq_self (slashes_visible n), List.dropWhile_eq_nil_iff]
    intro c hc
    rw [List.eq_of_mem_replicate hc]
    rfl
  refine ⟨trimEnd '/' text, n, htext, ?_⟩
  conv_lhs => rw [htext]
  rw [← List.append_assoc, trimEnd_append_replicate]
  apply trimEnd_eq_self
  rw [List.getLast?_append_of_ne_nil _ hkept]
  exact trimEnd_getLast '/' text

/-- A base with a visible end and its extension share their authority; the tails go on from one
path text. -/
theorem extension_parses (pair : Rewritten name ws port)
    (h : parse urls (name ++ "://".toList ++ (kept ++ List.replicate n '/')) = .ok base)
    (hvisible : ∀ c ∈ (kept ++ List.replicate n '/').getLast?, isControlOrSpace c = false) :
    ∃ authority, base = urlOf name authority (tailText (untabbed kept) ++ List.replicate n '/') ∧
      ∀ rest : Text, rest.head? = some '/' → (∀ c ∈ rest, isControlOrSpace c = false) →
        parse urls (ws ++ "://".toList ++ (kept ++ rest)) =
          .ok (urlOf ws authority (tailText (untabbed kept) ++ rest)) := by
  obtain ⟨authority, hauthority, hurl⟩ := (parse_special_eq_ok pair.base).mp h
  have hclean : cleanEnd (kept ++ List.replicate n '/') = untabbed kept ++ List.replicate n '/' := by
    rw [cleanEnd_of_last hvisible, untabbed_append, untabbed_eq_self (slashes_visible n)]
  rw [hclean] at hauthority hurl
  have hkept : (untabbed kept).dropWhile isSlash ≠ [] := by
    intro hempty
    apply ne_nil_of_parseAuthority hauthority
    rw [List.dropWhile_append, hempty]
    simp [isSlash]
  have hslashes : ∀ c ∈ (List.replicate n '/').head?, endsAuthority c = true := by
    intro c hc
    rw [List.eq_of_mem_replicate (List.mem_of_head? hc)]
    rfl
  rw [(authority_append hkept hslashes).1] at hauthority
  rw [(authority_append hkept hslashes).2] at hurl
  refine ⟨authority, hurl.symm, fun rest hslash hrest => ?_⟩
  have hne : rest ≠ [] := by
    rintro rfl
    cases hslash
  have hends : ∀ c ∈ rest.head?, endsAuthority c = true := by
    intro c hc
    rw [Option.mem_def, hslash] at hc
    obtain rfl := Option.some.inj hc
    rfl
  rw [parse_special_eq_ok pair.socket, cleanEnd_append hne hrest]
  exact ⟨authority, by rw [(authority_append hkept hends).1]; exact hauthority,
    by rw [(authority_append hkept hends).2]⟩

theorem version_suffix (hname : SpecialScheme name port)
    (hv1 : "/v1".toList <:+ name ++ "://".toList ++ kept) :
    tailText (untabbed kept) = [] ∨ "/v1".toList <:+ tailText (untabbed kept) := by
  have hfiltered : "/v1".toList <:+ name ++ "://".toList ++ untabbed kept := by
    have hsuffix := hv1.filter fun c => !isTabOrNewline c
    rwa [← untabbed, ← untabbed, untabbed_append, untabbed_append, hname.kept] at hsuffix
  have htail : tailText (untabbed kept) <:+ name ++ "://".toList ++ untabbed kept :=
    ((List.dropWhile_suffix _).trans (List.dropWhile_suffix _)).trans (List.suffix_append _ _)
  rcases List.suffix_or_suffix_of_suffix htail hfiltered with hshort | hlong
  · have hhead := tailText_head (untabbed kept)
    change tailText (untabbed kept) <:+ ['/', 'v', '1'] at hshort
    simp only [List.suffix_cons_iff, List.suffix_nil] at hshort
    rcases hshort with heq | heq | heq | heq
    · exact .inr (heq ▸ List.suffix_rfl)
    · rw [heq] at hhead
      cases hhead 'v' rfl
    · rw [heq] at hhead
      cases hhead '1' rfl
    · exact .inl heq
  · exact .inr hlong

theorem IsRequest.ends {path query : Text} (h : IsRequest path query) :
    (path ++ query).head? = some '/' := by
  rw [List.head?_append, h.slash]
  rfl

theorem v1_plain {c : Char} (hc : c ∈ "/v1".toList) :
    endsPath c = false ∧ isControlOrSpace c = false := by
  have hall := List.all_eq_true.mp
    (rfl : "/v1".toList.all (fun c => !endsPath c && !isControlOrSpace c) = true) c hc
  simpa using hall

theorem versionPart_visible (trimmed : Text) : ∀ c ∈ versionPart trimmed, isControlOrSpace c = false := by
  rw [versionPart]
  split_ifs
  · exact List.forall_mem_nil _
  · exact fun c hc => (v1_plain hc).2

theorem versionPart_plain (trimmed : Text) : ∀ c ∈ versionPart trimmed, endsPath c = false := by
  rw [versionPart]
  split_ifs
  · exact List.forall_mem_nil _
  · exact fun c hc => (v1_plain hc).1

theorem versionPart_head (trimmed : Text) {rest : Text} (h : rest.head? = some '/') :
    (versionPart trimmed ++ rest).head? = some '/' := by
  rw [versionPart]
  split_ifs
  · exact h
  · rfl

/-- Only the path can tell the extension of a base with a visible end from what it should be. -/
theorem extendsBase_iff_path (pair : Rewritten name ws port)
    (h : parse urls (name ++ "://".toList ++ (kept ++ List.replicate n '/')) = .ok base)
    (hvisible : ∀ c ∈ (kept ++ List.replicate n '/').getLast?, isControlOrSpace c = false)
    (hbase : IsBaseUrl base) {path query : Text} (hrequest : IsRequest path query) (trimmed : Text) :
    ExtendsBase urls base ("/v1".toList ++ path)
        (ws ++ "://".toList ++ (kept ++ (versionPart trimmed ++ (path ++ query)))) ↔
      pathText (parsePath (tailText (untabbed kept) ++ (versionPart trimmed ++ path))) =
        removeSuffix "/v1".toList (trimEnd '/' (pathText (parsePath
          (tailText (untabbed kept) ++ List.replicate n '/')))) ++ ("/v1".toList ++ path) := by
  obtain ⟨authority, rfl, hextended⟩ := extension_parses pair h hvisible
  have hplain := tail_of_plain hbase.query hbase.fragment
  have hfront : ∀ c ∈ tailText (untabbed kept), endsPath c = false :=
    fun c hc => hplain c (List.mem_append_left _ hc)
  have hpath : ∀ c ∈ tailText (untabbed kept) ++ (versionPart trimmed ++ path),
      endsPath c = false := by
    intro c hc
    rcases List.mem_append.mp hc with hmem | hmem
    · exact hfront c hmem
    · exact (List.mem_append.mp hmem).elim (versionPart_plain trimmed c) (hrequest.plain c)
  have hparsed := hextended (versionPart trimmed ++ (path ++ query))
    (versionPart_head trimmed hrequest.ends) (by
      intro c hc
      exact (List.mem_append.mp hc).elim (versionPart_visible trimmed c) (hrequest.visible c))
  have hread : (urlOf ws authority (tailText (untabbed kept) ++
      (versionPart trimmed ++ (path ++ query)))).path =
        parsePath (tailText (untabbed kept) ++ (versionPart trimmed ++ path)) := by
    rw [← List.append_assoc (versionPart trimmed), ← List.append_assoc]
    exact congrArg parsePath (takeWhile_path hpath hrequest.start)
  have hbasepath : (urlOf name authority (tailText (untabbed kept) ++ List.replicate n '/')).path =
      parsePath (tailText (untabbed kept) ++ List.replicate n '/') := by
    have hnone : ∀ c ∈ ([] : Text).head?, endsPath c = true := by simp
    have hwhole := takeWhile_path hplain hnone
    rw [List.append_nil] at hwhole
    exact congrArg parsePath hwhole
  simp only [ExtendsBase, hparsed, basePath, hbasepath]
  constructor
  · rintro ⟨parsed, hok, -, -, -, hpathText⟩
    cases hok
    rw [← hread]
    exact hpathText
  · intro hpathText
    exact ⟨_, rfl, pair.scheme.symm, rfl, rfl, by rw [hread]; exact hpathText⟩

theorem extendsBase_of_visible (pair : Rewritten name ws port)
    (h : parse urls (name ++ "://".toList ++ (kept ++ List.replicate n '/')) = .ok base)
    (hvisible : ∀ c ∈ (kept ++ List.replicate n '/').getLast?, isControlOrSpace c = false)
    (hbase : IsBaseUrl base) {path query : Text} (hrequest : IsRequest path query) {trimmed : Text}
    (htrimmed : trimmed = name ++ "://".toList ++ kept) :
    ExtendsBase urls base ("/v1".toList ++ path)
        (ws ++ "://".toList ++ (kept ++ (versionPart trimmed ++ (path ++ query)))) ↔
      (("/v1".toList <:+ trimmed → pathOf trimmed ≠ []) ∧
        (¬ "/v1".toList <:+ trimmed → (closedPath (pathOf trimmed)).getLast? ≠ some [] ∧
          (closedPath (pathOf trimmed)).getLast? ≠ some "v1".toList)) ∧
        IsVerbatim ("/v1".toList ++ path) := by
  rw [extendsBase_iff_path pair h hvisible hbase hrequest]
  have hpathOf : pathOf trimmed = tailText (untabbed kept) := htrimmed ▸ pathOf_special pair.base kept
  rw [hpathOf]
  by_cases hv1 : "/v1".toList <:+ trimmed
  · have hpart : versionPart trimmed = [] := if_pos hv1
    rw [hpart, List.nil_append, and_iff_left fun hnot => absurd hv1 hnot, forall_prop_of_true hv1]
    rcases version_suffix pair.base (htrimmed ▸ hv1) with hempty | ⟨front, hfront⟩
    · rw [hempty]
      exact iff_of_false (path_of_host_ne n hrequest.slash) fun hboth => hboth.1 rfl
    · rw [← hfront, List.append_assoc front "/v1".toList path]
      refine (path_replaced_iff front n).trans (and_iff_right ?_).symm
      exact List.append_ne_nil_of_right_ne_nil front (by decide)
  · have hpart : versionPart trimmed = "/v1".toList := if_neg hv1
    rw [hpart, path_appended_iff, and_comm, and_iff_right fun hyes => absurd hyes hv1,
      forall_prop_of_true hv1]

section ControlEnd
variable {front dropped : Text}

theorem authorityText_control (hkept : front.dropWhile isSlash ≠ []) (htail : tailText front = [])
    (hend : ∀ d ∈ dropped, isControlOrSpace d = true) (rest : Text) :
    authorityText (front ++ (dropped ++ '/' :: rest)) = authorityText front ++ dropped := by
  have hfree : ∀ d ∈ authorityText front ++ dropped, (!endsAuthority d) = true := by
    intro d hd
    rcases List.mem_append.mp hd with hauth | hdropped
    · have hkeep := List.mem_takeWhile_imp hauth
      exact hkeep
    · rw [endsAuthority_control (hend d hdropped)]
      rfl
  have hwhole : front.dropWhile isSlash = authorityText front := by
    rw [authorityText, List.takeWhile_eq_self_iff.mpr (List.dropWhile_eq_nil_iff.mp htail)]
  rw [authorityText, dropWhile_append_of_ne_nil _ hkept, hwhole, ← List.append_assoc,
    List.takeWhile_append_of_pos hfree]
  exact List.append_nil _

theorem tailText_control (hkept : front.dropWhile isSlash ≠ []) (htail : tailText front ≠ [])
    (path query : Text) :
    tailText (front ++ (dropped ++ ("/v1".toList ++ (path ++ query)))) =
      (tailText front ++ dropped) ++ ("/v1".toList ++ path) ++ query := by
  rw [tailText, dropWhile_append_of_ne_nil _ hkept, dropWhile_append_of_ne_nil _ htail]
  simp only [List.append_assoc, tailText]

theorem plain_control (hend : ∀ d ∈ dropped, isControlOrSpace d = true)
    (hfront : ∀ d ∈ tailText front, endsPath d = false) {path : Text}
    (hpath : ∀ d ∈ path, endsPath d = false) :
    ∀ d ∈ tailText front ++ dropped ++ ("/v1".toList ++ path), endsPath d = false := by
  intro d hd
  rcases List.mem_append.mp hd with hbefore | hafter
  · rcases List.mem_append.mp hbefore with hkept | hdropped
    · exact hfront d hkept
    · exact endsPath_of_endsAuthority (endsAuthority_control (hend d hdropped))
  · rcases List.mem_append.mp hafter with hv1 | hmem
    · exact (v1_plain hv1).1
    · exact hpath d hmem

theorem dropped_control {text : Text} {c : Char} (hlast : text.getLast? = some c)
    (hcontrol : c.toNat < 0x20) (htab : isTabOrNewline c = false) :
    c ∈ untabbed (text.rtakeWhile isControlOrSpace) := by
  obtain ⟨before, rfl⟩ := List.getLast?_eq_some_iff.mp hlast
  have hspace : isControlOrSpace c = true := decide_eq_true (Nat.le_of_lt hcontrol)
  rw [List.rtakeWhile_concat_pos _ _ _ hspace, untabbed_append]
  apply List.mem_append_right
  exact List.mem_filter.mpr ⟨List.mem_singleton_self c, by rw [htab]; rfl⟩

end ControlEnd

/-- A base that ends in a control character: the character is dropped from the base and kept in
its extension. -/
theorem not_extendsBase_of_control (hhosts : RejectsControls urls.parseHost)
    (pair : Rewritten name ws port) (h : parse urls (name ++ "://".toList ++ text) = .ok base)
    (hbase : IsBaseUrl base) {c : Char} (hlast : text.getLast? = some c)
    (hcontrol : c.toNat < 0x20) (htab : isTabOrNewline c = false) {path query : Text}
    (hrequest : IsRequest path query) :
    ¬ ExtendsBase urls base ("/v1".toList ++ path)
      (ws ++ "://".toList ++ (text ++ ("/v1".toList ++ (path ++ query)))) := by
  rintro ⟨parsed, hparsed, -, -, -, hpath⟩
  obtain ⟨authority, hauthority, rfl⟩ := (parse_special_eq_ok pair.base).mp h
  obtain ⟨authority', hauthority', rfl⟩ := (parse_special_eq_ok pair.socket).mp hparsed
  have hplain := tail_of_plain hbase.query hbase.fragment
  have hrest : ∀ d ∈ "/v1".toList ++ (path ++ query), isControlOrSpace d = false := by
    intro d hd
    exact (List.mem_append.mp hd).elim (fun hv1 => (v1_plain hv1).2) (hrequest.visible d)
  rw [cleanEnd_append (by simp) hrest, untabbed_eq_cleanEnd, List.append_assoc] at hauthority' hpath
  have hkept := ne_nil_of_parseAuthority hauthority
  generalize hfront : cleanEnd text = front at *
  have hend : ∀ d ∈ untabbed (text.rtakeWhile isControlOrSpace), isControlOrSpace d = true :=
    fun d hd => List.mem_rtakeWhile_imp (List.mem_of_mem_filter hd)
  have hmem := dropped_control hlast hcontrol htab
  generalize untabbed (text.rtakeWhile isControlOrSpace) = dropped at *
  by_cases htail : tailText front = []
  · -- the character ends the authority
    have htext := authorityText_control hkept htail hend ("v1".toList ++ (path ++ query))
    have hat : '@' ∉ dropped := by
      intro hmem
      cases hend _ hmem
    exact parseAuthority_control hhosts hat hmem hcontrol authority' (htext ▸ hauthority')
  · -- the character ends the last segment of the path
    have hfree := plain_control hend hplain hrequest.plain
    have hnone : ∀ d ∈ ([] : Text).head?, endsPath d = true := by simp
    have hbasepath := takeWhile_path hplain hnone
    rw [List.append_nil] at hbasepath
    simp only [basePath, urlOf, tailText_control hkept htail, takeWhile_path hfree hrequest.start,
      hbasepath] at hpath
    have hroot := root_path (tailText front) 0
    rw [List.replicate_zero, List.append_nil] at hroot
    have hslashFree : SlashFree (rootSegments "v1".toList (closedPath (tailText front))) :=
      fun s hs => slashFree_closedPath _ s ((prefix_rootSegments _ _).subset hs)
    rw [hroot, parsePath_append (tailText front ++ dropped) rfl] at hpath
    have hsegments := (resolve_eq_iff (canonical_closedPath _) hslashFree rfl).mp hpath
    exact closedPath_control htail hend hmem hsegments.2

end Literal

section Spelled
variable {urls : Externals} {base : Text} {url : Url}

/-- The scheme tests of the builders see the base, not what they append to it. -/
theorem literal_of_extended {scheme : Text} (hv : 'v' ∉ scheme) (hone : '1' ∉ scheme)
    (hslashes : ∃ front, scheme = front ++ ['/'] ++ ['/']) {rest : Text}
    (h : scheme <+: trimEnd '/' base ++ (versionPart (trimEnd '/' base) ++ rest)) : scheme <+: base := by
  obtain ⟨n, hbase⟩ := exists_trimEnd '/' base
  have hlast := trimEnd_getLast '/' base
  generalize trimEnd '/' base = trimmed at *
  rcases List.prefix_or_prefix_of_prefix h ( List.prefix_append trimmed _) with hin | hout
  · rw [hbase]
    exact hin.trans (List.prefix_append _ _)
  · exfalso
    obtain ⟨more, rfl⟩ := hout
    obtain ⟨front, hfront⟩ := hslashes
    rw [List.prefix_append_right_inj, versionPart] at h
    split_ifs at h with hv1
    · exact hone (List.mem_append_left more (hv1.subset (by simp)))
    · change more <+: '/' :: 'v' :: '1' :: rest at h
      match more with
      | [] =>
        apply hlast
        rw [List.append_nil] at hfront
        rw [hfront, List.getLast?_concat]
      | [c] =>
        obtain ⟨rfl, -⟩ := List.cons_prefix_cons.mp h
        apply hlast
        rw [List.append_cancel_right hfront, List.getLast?_concat]
      | c :: d :: more =>
        obtain ⟨rfl, htail⟩ := List.cons_prefix_cons.mp h
        obtain ⟨rfl, -⟩ := List.cons_prefix_cons.mp htail
        exact hv (by simp)

/-- Without a literal scheme the URL keeps the scheme of the base. -/
theorem not_extendsBase_of_spelling (hliteral : ¬("http://".toList <+: base ∨ "https://".toList <+: base))
    (h : parse urls base = .ok url) (hbase : IsBaseUrl url) {path query : Text}
    (hrequest : IsRequest path query) :
    ¬ ExtendsBase urls url ("/v1".toList ++ path) (rewriteScheme (apiRoot base ++ (path ++ query))) := by
  rintro ⟨parsed, hparsed, hscheme, -⟩
  have hunchanged : rewriteScheme (apiRoot base ++ (path ++ query)) =
      trimEnd '/' base ++ (versionPart (trimEnd '/' base) ++ (path ++ query)) := by
    rw [apiRoot_eq, List.append_assoc, rewriteScheme]
    rw [dropPrefix?_eq_none.mpr fun hhttps => hliteral (.inr
      (literal_of_extended (by decide) (by decide) ⟨"https:".toList, rfl⟩ hhttps))]
    simp only
    rw [dropPrefix?_eq_none.mpr fun hhttp => hliteral (.inl
      (literal_of_extended (by decide) (by decide) ⟨"http:".toList, rfl⟩ hhttp))]
  rw [hunchanged] at hparsed
  obtain ⟨n, htrimmed⟩ := exists_trimEnd '/' base
  have hcolon : ':' ∉ List.replicate n '/' := fun hmem => by cases List.eq_of_mem_replicate hmem
  have hne : versionPart (trimEnd '/' base) ++ (path ++ query) ≠ [] := by
    intro hempty
    have hhead := versionPart_head (trimEnd '/' base) hrequest.ends
    rw [hempty] at hhead
    cases hhead
  have hvisible : ∀ c ∈ versionPart (trimEnd '/' base) ++ (path ++ query),
      isControlOrSpace c = false := by
    intro c hc
    exact (List.mem_append.mp hc).elim (versionPart_visible _ c) (hrequest.visible c)
  have hsame := parse_scheme_extended (htrimmed ▸ h) (slashes_visible n) hcolon hne hvisible hparsed
  rw [hscheme] at hsame
  rcases hbase.scheme with hhttp | hhttps
  · rw [hhttp] at hsame
    revert hsame
    decide
  · rw [hhttps] at hsame
    revert hsame
    decide

theorem exists_control_end {t : Text} (h : ¬ ∀ c ∈ t.getLast?, isControlOrSpace c = false) :
    ∃ c, t.getLast? = some c ∧ isControlOrSpace c = true := by
  cases hlast : t.getLast? with
  | none =>
    rw [hlast] at h
    exact absurd (fun c hc => by cases hc) h
  | some c =>
    refine ⟨c, rfl, ?_⟩
    rw [← Bool.not_eq_false]
    intro hvisible
    rw [hlast] at h
    apply h
    intro d hd
    obtain rfl := Option.some.inj hd
    exact hvisible

theorem control_of_not_whitespace {c : Char} (hcontrol : isControlOrSpace c = true)
    (hspace : isWhitespace c = false) : c.toNat < 0x20 ∧ isTabOrNewline c = false := by
  have hle : c.toNat ≤ 0x20 := of_decide_eq_true hcontrol
  constructor
  · refine lt_of_le_of_ne hle fun heq => ?_
    simp [isWhitespace, heq] at hspace
  · rw [Bool.eq_false_iff]
    intro htab
    simp only [isTabOrNewline, Bool.or_eq_true, beq_iff_eq] at htab
    rcases htab with (rfl | rfl) | rfl <;> cases hspace

/-- A validated base is extended as it parses exactly when it is spelled literally and the request
path is read verbatim. -/
theorem extendsBase_iff (hhosts : RejectsControls urls.parseHost) (htrim : trim base = base)
    (h : parse urls base = .ok url) (hbase : IsBaseUrl url) {path query : Text}
    (hrequest : IsRequest path query) :
    ExtendsBase urls url ("/v1".toList ++ path) (rewriteScheme (apiRoot base ++ (path ++ query))) ↔
      LiteralBase base ∧ IsVerbatim ("/v1".toList ++ path) := by
  by_cases hliteral : "http://".toList <+: base ∨ "https://".toList <+: base
  · obtain ⟨name, ws, port, text, pair, rfl⟩ : ∃ name ws port text, Rewritten name ws port ∧
        base = name ++ "://".toList ++ text := by
      rcases hliteral with ⟨text, rfl⟩ | ⟨text, rfl⟩
      · exact ⟨_, _, _, text, http_rewritten, rfl⟩
      · exact ⟨_, _, _, text, https_rewritten, rfl⟩
    obtain ⟨kept, n, rfl, htrimmed⟩ := exists_kept pair.base h
    have hurl : rewriteScheme (apiRoot (name ++ "://".toList ++ (kept ++ List.replicate n '/')) ++
        (path ++ query)) = ws ++ "://".toList ++ (kept ++ (versionPart (name ++ "://".toList ++ kept) ++
          (path ++ query))) := by
      rw [apiRoot_eq, htrimmed, List.append_assoc, List.append_assoc (name ++ "://".toList),
        pair.rewrite]
    rw [hurl]
    have hlast : (name ++ "://".toList ++ (kept ++ List.replicate n '/')).getLast? =
        (kept ++ List.replicate n '/').getLast? := by
      apply List.getLast?_append_of_ne_nil
      intro hempty
      obtain ⟨authority, hauthority, -⟩ := (parse_special_eq_ok pair.base).mp h
      rw [hempty] at hauthority
      cases hauthority
    by_cases hvisible : ∀ c ∈ (kept ++ List.replicate n '/').getLast?, isControlOrSpace c = false
    · rw [extendsBase_of_visible pair h hvisible hbase hrequest rfl]
      constructor
      · rintro ⟨hroot, hverbatim⟩
        refine ⟨⟨hliteral, hlast ▸ hvisible, ?_, ?_⟩, hverbatim⟩
        · rw [htrimmed]
          exact hroot.1
        · rw [htrimmed]
          exact hroot.2
      · rintro ⟨hbase, hverbatim⟩
        have hsegment := hbase.segment
        have hother := hbase.other
        rw [htrimmed] at hsegment hother
        exact ⟨⟨hsegment, hother⟩, hverbatim⟩
    · refine iff_of_false ?_ fun hboth => hvisible (hlast ▸ hboth.1.visible)
      obtain ⟨c, hc, hcontrol⟩ := exists_control_end hvisible
      obtain rfl : n = 0 := by
        by_contra hn
        rw [List.getLast?_append_of_ne_nil _ (by simpa using hn)] at hc
        rw [List.eq_of_mem_replicate (List.mem_of_getLast? hc)] at hcontrol
        cases hcontrol
      rw [List.replicate_zero, List.append_nil] at hc hlast h htrim
      have hspace : isWhitespace c = false := by
        apply @trimMatches_getLast isWhitespace (name ++ "://".toList ++ kept)
        rw [← trim, htrim, hlast, hc]
        rfl
      obtain ⟨hlow, htab⟩ := control_of_not_whitespace hcontrol hspace
      have hpart : versionPart (name ++ "://".toList ++ kept) = "/v1".toList := by
        refine if_neg fun hv1 => ?_
        obtain ⟨front, hfront⟩ := hv1
        have hone := congrArg List.getLast? hfront
        rw [hlast, hc, List.getLast?_append_of_ne_nil _ (by simp)] at hone
        obtain rfl : '1' = c := Option.some.inj hone
        cases hcontrol
      rw [hpart]
      exact not_extendsBase_of_control hhosts pair h hbase hc hlow htab hrequest
  · exact iff_of_false (not_extendsBase_of_spelling hliteral h hbase hrequest)
      fun hboth => hliteral hboth.1.scheme

end Spelled

/-- What an HTTP URI guarantees of its path and its query. -/
structure Uri.WellFormed (uri : Uri) : Prop where
  path : ∀ c ∈ uri.path, endsPath c = false ∧ isControlOrSpace c = false
  query : ∀ query ∈ uri.query, ∀ c ∈ query, isControlOrSpace c = false

/-- The path of a request that follows `/v1`. -/
def requestPath (request : Text) : Text :=
  "/v1".toList ++ request.takeWhile fun c => !endsPath c

section Requests

theorem callIdChar_facts {c : Char} (h : isCallIdChar c = true) :
    isWritten c = true ∧ c.toLower ∉ ".%".toList ∧ endsPath c = false ∧
      isControlOrSpace c = false := by
  have hall := @forall_ascii (fun c => isCallIdChar c = true →
    isWritten c = true ∧ c.toLower ∉ ".%".toList ∧ endsPath c = false ∧ isControlOrSpace c = false)
    (by decide +kernel) c (isCallIdChar_ascii h)
  exact hall h

theorem solid_of_callIdChars {segment : Text} (h : ∀ c ∈ segment, isCallIdChar c = true) :
    isDot segment = false := by
  rw [Bool.eq_false_iff]
  intro hdot
  have hmarked := List.all_eq_true.mp
    (rfl : dotTexts.all (fun t => t.any fun c => ".%".toList.contains c) = true) _
    ((isDot_iff segment).mp hdot)
  obtain ⟨d, hd, hmark⟩ := List.any_eq_true.mp hmarked
  obtain ⟨c, hc, rfl⟩ := List.mem_map.mp hd
  exact (callIdChar_facts (h c hc)).2.1 (List.contains_iff_mem.mp hmark)

theorem verbatim_of_chars {path : Text} (h : ∀ c ∈ path, c = '/' ∨ isCallIdChar c = true) :
    IsVerbatim path := by
  refine ⟨fun c hc => (h c hc).imp_right fun hchar => (callIdChar_facts hchar).1, ?_⟩
  intro segment hsegment
  apply solid_of_callIdChars
  intro c hc
  apply (h c (mem_of_mem_rawSegments hsegment hc)).resolve_left
  rintro rfl
  cases slashFree_rawSegments path segment hsegment _ hc

theorem request_of_chars {path query : Text} (hslash : path.head? = some '/')
    (hpath : ∀ c ∈ path, c = '/' ∨ isCallIdChar c = true)
    (hstart : ∀ c ∈ query.head?, endsPath c = true)
    (hquery : ∀ c ∈ query, isControlOrSpace c = false) :
    IsRequest path query ∧ requestPath (path ++ query) = "/v1".toList ++ path := by
  have hplain : ∀ c ∈ path, endsPath c = false := by
    intro c hc
    rcases hpath c hc with rfl | hchar
    · rfl
    · exact (callIdChar_facts hchar).2.2.1
  refine ⟨⟨hslash, hplain, hstart, fun c hc => ?_⟩, ?_⟩
  · rcases List.mem_append.mp hc with hmem | hmem
    · rcases hpath c hmem with rfl | hchar
      · rfl
      · exact (callIdChar_facts hchar).2.2.2
    · exact hquery c hmem
  · rw [requestPath, takeWhile_path hplain hstart]

/-- A request whose path the parser reads verbatim. -/
def IsPlainRequest (request : Text) : Prop :=
  ∃ path query, request = path ++ query ∧ IsRequest path query ∧
    requestPath request = "/v1".toList ++ path ∧ IsVerbatim ("/v1".toList ++ path)

theorem plainRequest_of_chars {path query : Text} (hslash : path.head? = some '/')
    (hpath : ∀ c ∈ path, c = '/' ∨ isCallIdChar c = true)
    (hstart : ∀ c ∈ query.head?, endsPath c = true)
    (hquery : ∀ c ∈ query, isControlOrSpace c = false) : IsPlainRequest (path ++ query) := by
  obtain ⟨hrequest, hread⟩ := request_of_chars hslash hpath hstart hquery
  refine ⟨path, query, rfl, hrequest, hread, verbatim_of_chars fun c hc => ?_⟩
  rcases List.mem_append.mp hc with hv1 | hmem
  · have hall := List.all_eq_true.mp
      (rfl : "/v1".toList.all (fun c => c == '/' || isCallIdChar c) = true) c hv1
    simpa using hall
  · exact hpath c hmem

theorem encodeQueryComponent_visible (value : Text) :
    ∀ c ∈ encodeQueryComponent value, isControlOrSpace c = false := by
  have hliteral : ∀ b : UInt8, isQueryLiteral b = true →
      (!isControlOrSpace (Char.ofNat b.toNat)) = true := by
    apply HeaderValue.forall_byte
    decide +kernel
  intro c hc
  simpa using forall_encodeQueryComponent (fun c => !isControlOrSpace c) hliteral rfl value c hc

theorem pathChars_of_all {literal : Text}
    (h : literal.all (fun c => c == '/' || isCallIdChar c) = true) :
    ∀ c ∈ literal, c = '/' ∨ isCallIdChar c = true := by
  intro c hc
  simpa using List.all_eq_true.mp h c hc

theorem pathChars_callId {literal callId : Text}
    (h : literal.all (fun c => c == '/' || isCallIdChar c) = true) (hid : IsCallId callId) :
    ∀ c ∈ literal ++ callId, c = '/' ∨ isCallIdChar c = true := by
  intro c hc
  exact (List.mem_append.mp hc).elim (pathChars_of_all h c) fun hmem => .inr (hid.alphabet c hmem)

theorem visible_append {literal more : Text}
    (h : literal.all (fun c => !isControlOrSpace c) = true)
    (hmore : ∀ c ∈ more, isControlOrSpace c = false) :
    ∀ c ∈ literal ++ more, isControlOrSpace c = false := by
  intro c hc
  rcases List.mem_append.mp hc with hmem | hmem
  · simpa using List.all_eq_true.mp h c hmem
  · exact hmore c hmem

theorem callId_visible {callId : Text} (h : IsCallId callId) :
    ∀ c ∈ callId, isControlOrSpace c = false :=
  fun c hc => (callIdChar_facts (h.alphabet c hc)).2.2.2

theorem queryStart (rest : Text) : ∀ c ∈ ('?' :: rest).head?, endsPath c = true := by
  intro c hc
  cases hc
  rfl

theorem plainRequest_path {literal callId : Text} (hslash : literal.head? = some '/')
    (h : literal.all (fun c => c == '/' || isCallIdChar c) = true) (hid : IsCallId callId) :
    IsPlainRequest (literal ++ callId) := by
  have hhead : (literal ++ callId).head? = some '/' := by
    rw [List.head?_append, hslash]
    rfl
  have hplain := @plainRequest_of_chars _ [] hhead (pathChars_callId h hid) (by simp) (by simp)
  rwa [List.append_nil] at hplain

theorem plainRequest_query {request literal key value : Text}
    (hrequest : request = literal ++ '?' :: key) (hslash : literal.head? = some '/')
    (h : literal.all (fun c => c == '/' || isCallIdChar c) = true)
    (hkey : key.all (fun c => !isControlOrSpace c) = true)
    (hvalue : ∀ c ∈ value, isControlOrSpace c = false) : IsPlainRequest (request ++ value) := by
  rw [hrequest, List.append_assoc, List.cons_append]
  refine plainRequest_of_chars hslash (pathChars_of_all h) (queryStart _) ?_
  exact List.forall_mem_cons.mpr ⟨rfl, visible_append hkey hvalue⟩

theorem plainRequest_call {callId : Text} (hid : IsCallId callId) :
    IsPlainRequest ("/realtime?intent=quicksilver&call_id=".toList ++ callId) := by
  have hrequest : "/realtime?intent=quicksilver&call_id=".toList =
      "/realtime".toList ++ '?' :: "intent=quicksilver&call_id=".toList := by decide +kernel
  exact plainRequest_query hrequest (by decide +kernel) (by decide +kernel) (by decide +kernel)
    (callId_visible hid)

theorem plainRequest_live {callId : Text} (hid : IsCallId callId) :
    IsPlainRequest ("/live/".toList ++ callId) :=
  plainRequest_path (by decide +kernel) (by decide +kernel) hid

theorem SidebandTarget.plainRequest {target : SidebandTarget} (h : IsCallId target.callId) :
    IsPlainRequest target.request := by
  cases target with
  | framelessPath callId => exact plainRequest_live h
  | realtimeCallsPath callId => exact plainRequest_path (by decide +kernel) (by decide +kernel) h
  | realtimeQuery callId => exact plainRequest_call h

theorem privateRequest_plain {classified : ClassifiedWebSocket} {request : Text}
    (hid : ∀ callId, classified.target = .existingCall callId → IsCallId callId)
    (h : privateRequest classified.selection.dialect classified.target = .ok request) :
    IsPlainRequest request := by
  obtain ⟨target, dialect, transport, sessionKind, credential⟩ := classified
  cases target with
  | translation model => cases dialect <;> cases h
  | standalone model =>
    have hvisible := encodeQueryComponent_visible model
    cases dialect with
    | officialGa => cases h
    | quicksilverV1 =>
      cases h
      have hrequest : "/realtime?intent=quicksilver&model=".toList =
          "/realtime".toList ++ '?' :: "intent=quicksilver&model=".toList := by decide +kernel
      exact plainRequest_query hrequest (by decide +kernel) (by decide +kernel) (by decide +kernel)
        hvisible
    | frameless =>
      cases h
      have hrequest : "/live?model=".toList = "/live".toList ++ '?' :: "model=".toList := by
        decide +kernel
      exact plainRequest_query hrequest (by decide +kernel) (by decide +kernel) (by decide +kernel)
        hvisible
  | existingCall callId =>
    have hcall := hid callId rfl
    cases dialect with
    | officialGa => cases h
    | quicksilverV1 =>
      cases h
      exact plainRequest_call hcall
    | frameless =>
      cases h
      exact plainRequest_live hcall

theorem Uri.WellFormed.request {uri : Uri} (h : uri.WellFormed) (hv1 : uri.UnderV1) :
    ∃ path query, IsRequest path query ∧ uri.path = "/v1".toList ++ path ∧
      uri.pathAndQuery.drop 3 = path ++ query := by
  obtain ⟨rest, hpath⟩ := hv1
  refine ⟨'/' :: rest, uri.query.elim [] ('?' :: ·), ⟨rfl, ?_, ?_, ?_⟩, hpath.symm, ?_⟩
  · intro c hc
    exact (h.path c (hpath ▸ List.mem_append_right "/v1".toList hc)).1
  · cases uri.query with
    | none => simp
    | some query =>
      intro c hc
      cases hc
      rfl
  · intro c hc
    rcases List.mem_append.mp hc with hmem | hmem
    · exact (h.path c (hpath ▸ List.mem_append_right "/v1".toList hmem)).2
    · cases hquery : uri.query with
      | none =>
        rw [hquery] at hmem
        cases hmem
      | some query =>
        rw [hquery] at hmem
        rcases List.mem_cons.mp hmem with rfl | htail
        · rfl
        · exact h.query query hquery c htail
  · have hall : uri.pathAndQuery = "/v1/".toList ++ (rest ++ uri.query.elim [] ('?' :: ·)) := by
      simp [Uri.pathAndQuery, ← hpath]
    rw [hall]
    rfl

end Requests

theorem extendsBase_plain_iff {urls : Externals} {base request : Text} {url : Url}
    (hhosts : RejectsControls urls.parseHost) (htrim : trim base = base)
    (h : parse urls base = .ok url) (hbase : IsBaseUrl url) (hrequest : IsPlainRequest request) :
    ExtendsBase urls url (requestPath request) (rewriteScheme (apiRoot base ++ request)) ↔
      LiteralBase base := by
  obtain ⟨path, query, rfl, hrequest, hread, hverbatim⟩ := hrequest
  rw [hread, extendsBase_iff hhosts htrim h hbase hrequest]
  exact and_iff_left hverbatim

/-- The WebSocket URLs of a validated base parse to the base exactly when it is spelled literally;
for the official builder, the inbound path must be read verbatim too. -/
theorem websocket_urls_extend_base {urls : Externals} (hhosts : RejectsControls urls.parseHost)
    {raw base : Text} (hvalid : validateBaseUrl urls raw = .ok base) :
    ∃ parsed, parse urls base = .ok parsed ∧
      (∀ uri : Uri, uri.UnderV1 → uri.WellFormed →
        ∃ url, officialWebsocketUrl base uri = .ok url ∧
          (ExtendsBase urls parsed uri.path url ↔ LiteralBase base ∧ IsVerbatim uri.path)) ∧
      (∀ target : SidebandTarget, IsCallId target.callId →
        (ExtendsBase urls parsed (requestPath target.request) (sidebandUpstreamUrl base false target) ↔
          LiteralBase base)) ∧
      ∀ classified : ClassifiedWebSocket, classified.IsPrivate →
        (∀ callId, classified.target = .existingCall callId → IsCallId callId) →
        ∃ request url, privateRequest classified.selection.dialect classified.target = .ok request ∧
          privateWebsocketUrl base false classified = .ok url ∧
          (ExtendsBase urls parsed (requestPath request) url ↔ LiteralBase base) := by
  obtain ⟨htrimmed, parsed, hparsed, hbase⟩ := validateBaseUrl_eq_ok hvalid
  have htrim : trim base = base := by rw [htrimmed, trim_trim]
  refine ⟨parsed, hparsed, fun uri hv1 hformed => ?_, fun target hid => ?_, ?_⟩
  · obtain ⟨path, query, hrequest, hpath, hdrop⟩ := hformed.request hv1
    refine ⟨rewriteScheme (apiRoot base ++ (path ++ query)), ?_, ?_⟩
    · rw [officialWebsocketUrl, officialUrl_eq base hv1, hdrop]
      rfl
    · rw [hpath]
      exact extendsBase_iff hhosts htrim hparsed hbase hrequest
  · exact extendsBase_plain_iff hhosts htrim hparsed hbase (SidebandTarget.plainRequest hid)
  · intro classified hprivate hid
    obtain ⟨request, hrequest, -⟩ := privateWebsocketUrl_eq base hprivate
    refine ⟨request, rewriteScheme (apiRoot base ++ request), hrequest, ?_, ?_⟩
    · rw [privateWebsocketUrl, hrequest]
      rfl
    · exact extendsBase_plain_iff hhosts htrim hparsed hbase (privateRequest_plain hid hrequest)

def visibleHosts : Externals where
  parseHost host :=
    if host.all (fun c => 0x20 ≤ c.toNat) then .ok (toAsciiLowercase host)
    else .error "invalid international domain name"
  parseOther _ _ := .error "unsupported scheme"

theorem visibleHosts_rejectControls : RejectsControls visibleHosts.parseHost := by
  intro text host h c hc
  simp only [visibleHosts] at h
  split_ifs at h with hall
  simpa using List.all_eq_true.mp hall c hc

def translationsUri : Uri := ⟨none, none, "/v1/realtime/translations".toList, some "model=m".toList⟩

theorem translationsUri_wellFormed : translationsUri.UnderV1 ∧ translationsUri.WellFormed := by
  refine ⟨⟨"realtime/translations".toList, rfl⟩, ?_, ?_⟩
  · intro c hc
    have hall := List.all_eq_true.mp (rfl : "/v1/realtime/translations".toList.all
      (fun c => !endsPath c && !isControlOrSpace c) = true) c hc
    simpa using hall
  · intro query hquery c hc
    cases hquery
    simpa using List.all_eq_true.mp
      (rfl : "model=m".toList.all (fun c => !isControlOrSpace c) = true) c hc

theorem versioned_base_extended : ∃ base parsed url,
    validateBaseUrl visibleHosts base = .ok base ∧
      officialWebsocketUrl base translationsUri = .ok url ∧
        ExtendsBase visibleHosts parsed translationsUri.path url := by
  have hvalid : validateBaseUrl visibleHosts "https://relay.test/api/v1/".toList =
      .ok "https://relay.test/api/v1/".toList := by decide +kernel
  obtain ⟨parsed, -, hofficial, -⟩ := websocket_urls_extend_base visibleHosts_rejectControls hvalid
  obtain ⟨hv1, hformed⟩ := translationsUri_wellFormed
  obtain ⟨url, hurl, hextends⟩ := hofficial translationsUri hv1 hformed
  refine ⟨_, parsed, url, hvalid, hurl, hextends.mpr ⟨⟨.inr ?_, ?_, ?_, ?_⟩, ?_⟩⟩
  · exact ⟨"relay.test/api/v1/".toList, rfl⟩
  · intro c hc
    cases hc
    rfl
  · intro _
    decide +kernel
  · intro hnot
    exact absurd (by decide +kernel) hnot
  · exact verbatim_of_chars (pathChars_of_all rfl)

/-- A scheme in upper case is accepted and never rewritten. -/
theorem upper_case_scheme_not_rewritten : ∃ base parsed url,
    RejectsControls visibleHosts.parseHost ∧ validateBaseUrl visibleHosts base = .ok base ∧
      parse visibleHosts base = .ok parsed ∧ translationsUri.UnderV1 ∧ translationsUri.WellFormed ∧
        officialWebsocketUrl base translationsUri = .ok url ∧
          ¬ ExtendsBase visibleHosts parsed translationsUri.path url := by
  obtain ⟨hv1, hformed⟩ := translationsUri_wellFormed
  refine ⟨"HTTPS://api.openai.com".toList, _, "HTTPS://api.openai.com/v1/realtime/translations?model=m".toList,
    visibleHosts_rejectControls, by decide +kernel, rfl, hv1, hformed, by decide +kernel, ?_⟩
  rintro ⟨parsed, hparsed, hscheme, -⟩
  have hread : parse visibleHosts
      "HTTPS://api.openai.com/v1/realtime/translations?model=m".toList = .ok _ := rfl
  rw [hread] at hparsed
  cases hparsed
  revert hscheme
  decide

end GptLiveProxy
