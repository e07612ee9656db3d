import GptLiveProxy.UrlPaths

/-!
# Parsing a URL that is extended

A URL that spells its scheme literally is read from its authority on. Text after a slash leaves
the authority alone, so an extended URL has the host and the port of the URL it extends, and its
path goes on from the segments closed before the extension. Control characters are only dropped at
the ends: inside, they break the authority or change the last segment.
-/

namespace WebUrl
open CharText

/-- What the parser reads of a text whose beginning it keeps. -/
def cleanEnd (t : Text) : Text := (t.rdropWhile isControlOrSpace).filter fun c => !isTabOrNewline c

/-- The text without the characters that the parser skips everywhere. -/
def untabbed (t : Text) : Text := t.filter fun c => !isTabOrNewline c

def authorityText (t : Text) : Text := (t.dropWhile isSlash).takeWhile fun c => !endsAuthority c

def tailText (t : Text) : Text := (t.dropWhile isSlash).dropWhile fun c => !endsAuthority c

/-- The path text of an input that more text follows. -/
def pathOf (input : Text) : Text :=
  match splitScheme (untabbed input) with
  | none => []
  | some (_, rest) => tailText rest

section Cleaning

theorem rdropWhile_append_of_self {p : Char → Bool} {a : Text} (b : Text)
    (h : a.rdropWhile p = a) : (a ++ b).rdropWhile p = a ++ b.rdropWhile p := by
  induction b using List.reverseRecOn with
  | nil => simpa using h
  | append_singleton b c ih =>
    rw [← List.append_assoc]
    by_cases hc : p c
    · rw [List.rdropWhile_concat_pos p _ c hc, List.rdropWhile_concat_pos p _ c hc, ih]
    · rw [List.rdropWhile_concat_neg p _ c hc, List.rdropWhile_concat_neg p _ c hc,
        List.append_assoc]

theorem rdropWhile_eq_self {p : Char → Bool} {t : Text} (h : ∀ c ∈ t.getLast?, p c = false) :
    t.rdropWhile p = t := by
  rw [List.rdropWhile_eq_self_iff]
  intro hne
  rw [h _ (List.getLast?_eq_some_getLast hne)]
  exact Bool.false_ne_true

theorem untabbed_append (a b : Text) : untabbed (a ++ b) = untabbed a ++ untabbed b :=
  List.filter_append a b

theorem untabbed_eq_self {t : Text} (h : ∀ c ∈ t, isControlOrSpace c = false) : untabbed t = t := by
  rw [untabbed, List.filter_eq_self]
  intro c hc
  cases htab : isTabOrNewline c with
  | false => rfl
  | true =>
    simp only [isTabOrNewline, Bool.or_eq_true, beq_iff_eq] at htab
    have hcontrol := h c hc
    rcases htab with (rfl | rfl) | rfl <;> cases hcontrol

theorem cleanEnd_of_last {t : Text} (h : ∀ c ∈ t.getLast?, isControlOrSpace c = false) :
    cleanEnd t = untabbed t := by
  rw [cleanEnd, rdropWhile_eq_self h, untabbed]

/-- A visible end is kept, and so is everything before it but tabs and line breaks. -/
theorem cleanEnd_append {t rest : Text} (hne : rest ≠ [])
    (h : ∀ c ∈ rest, isControlOrSpace c = false) : cleanEnd (t ++ rest) = untabbed t ++ rest := by
  rw [cleanEnd_of_last, untabbed_append, untabbed_eq_self h]
  intro c hc
  rw [List.getLast?_append_of_ne_nil t hne] at hc
  exact h c (List.mem_of_getLast? hc)

/-- The skipped end of a text holds nothing but control characters and spaces. -/
theorem untabbed_eq_cleanEnd (t : Text) :
    untabbed t = cleanEnd t ++ untabbed (t.rtakeWhile isControlOrSpace) := by
  rw [cleanEnd, ← untabbed, ← untabbed_append, List.rdropWhile_append_rtakeWhile]

end Cleaning

section Schemes

/-- A special scheme and what its literal spelling means to the parser. -/
structure SpecialScheme (name : Text) (port : Nat) : Prop where
  split : ∀ rest, splitScheme (name ++ ':' :: rest) = some (name, rest)
  port : specialPort name = some port
  clean : ∀ t, clean (name ++ "://".toList ++ t) = name ++ "://".toList ++ cleanEnd t
  kept : untabbed name = name

theorem clean_literal {front : Text} (hhead : ∀ c ∈ front.head?, isControlOrSpace c = false)
    (hlast : ∀ c ∈ front.getLast?, isControlOrSpace c = false) (hne : front ≠ [])
    (hkept : untabbed front = front) (t : Text) : clean (front ++ t) = front ++ cleanEnd t := by
  have hdrop : (front ++ t).dropWhile isControlOrSpace = front ++ t := by
    obtain ⟨c, rest, rfl⟩ := List.exists_cons_of_ne_nil hne
    simp [hhead c rfl]
  rw [clean, trimMatches, hdrop, rdropWhile_append_of_self t (rdropWhile_eq_self hlast),
    List.filter_append, ← untabbed, hkept, cleanEnd]

theorem https_special : SpecialScheme "https".toList 443 where
  split _ := rfl
  port := rfl
  clean := clean_literal (by simp [isControlOrSpace]) (by simp [isControlOrSpace]) (by simp) rfl
  kept := rfl

theorem http_special : SpecialScheme "http".toList 80 where
  split _ := rfl
  port := rfl
  clean := clean_literal (by simp [isControlOrSpace]) (by simp [isControlOrSpace]) (by simp) rfl
  kept := rfl

theorem wss_special : SpecialScheme "wss".toList 443 where
  split _ := rfl
  port := rfl
  clean := clean_literal (by simp [isControlOrSpace]) (by simp [isControlOrSpace]) (by simp) rfl
  kept := rfl

theorem ws_special : SpecialScheme "ws".toList 80 where
  split _ := rfl
  port := rfl
  clean := clean_literal (by simp [isControlOrSpace]) (by simp [isControlOrSpace]) (by simp) rfl
  kept := rfl

variable {externals : Externals} {name : Text} {port : Nat}

theorem parse_special_eq_ok (hname : SpecialScheme name port) {t : Text} {url : Url} :
    parse externals (name ++ "://".toList ++ t) = .ok url ↔
      ∃ authority, parseAuthority externals port (authorityText (cleanEnd t)) = .ok authority ∧
        urlOf name authority (tailText (cleanEnd t)) = url := by
  have hsplit : splitScheme (clean (name ++ "://".toList ++ t)) =
      some (name, '/' :: '/' :: cleanEnd t) := by
    rw [hname.clean, List.append_assoc]
    exact hname.split _
  simp only [parse, hsplit, hname.port, parseSpecial_eq_ok]
  exact Iff.rfl

theorem pathOf_special (hname : SpecialScheme name port) (t : Text) :
    pathOf (name ++ "://".toList ++ t) = tailText (untabbed t) := by
  have hsplit : splitScheme (untabbed (name ++ "://".toList ++ t)) =
      some (name, '/' :: '/' :: untabbed t) := by
    rw [untabbed_append, untabbed_append, hname.kept, List.append_assoc]
    exact hname.split _
  simp only [pathOf, hsplit]
  rfl

end Schemes

section Authorities
variable {externals : Externals}

theorem dropWhile_append_of_ne_nil {p : Char → Bool} {a : Text} (b : Text) (h : a.dropWhile p ≠ []) :
    (a ++ b).dropWhile p = a.dropWhile p ++ b := by
  rw [List.dropWhile_append, if_neg (by simpa using h)]

theorem takeWhile_append_of_ne_nil {p : Char → Bool} {a : Text} (b : Text) (h : a.dropWhile p ≠ []) :
    (a ++ b).takeWhile p = a.takeWhile p := by
  induction a with
  | nil => exact absurd rfl h
  | cons c a ih =>
    cases hc : p c with
    | false => simp [hc]
    | true =>
      rw [List.dropWhile_cons_of_pos hc] at h
      rw [List.cons_append, List.takeWhile_cons_of_pos hc, List.takeWhile_cons_of_pos hc, ih h]

/-- Text after a slash is not part of an authority. -/
theorem authority_append {t rest : Text} (ht : t.dropWhile isSlash ≠ [])
    (hrest : ∀ c ∈ rest.head?, endsAuthority c = true) :
    authorityText (t ++ rest) = authorityText t ∧ tailText (t ++ rest) = tailText t ++ rest := by
  rw [authorityText, authorityText, tailText, tailText, dropWhile_append_of_ne_nil rest ht]
  by_cases htail : (t.dropWhile isSlash).dropWhile (fun c => !endsAuthority c) = []
  · have hnone : rest.takeWhile (fun c => !endsAuthority c) = [] := by
      cases rest with
      | nil => rfl
      | cons c rest => simp [hrest c rfl]
    have hdrop : rest.dropWhile (fun c => !endsAuthority c) = rest := by
      cases rest with
      | nil => rfl
      | cons c rest => simp [hrest c rfl]
    have hall := List.dropWhile_eq_nil_iff.mp htail
    rw [List.takeWhile_append_of_pos hall, List.dropWhile_append_of_pos hall, hnone, hdrop, htail,
      List.append_nil, List.takeWhile_eq_self_iff.mpr hall]
    exact ⟨rfl, rfl⟩
  · exact ⟨takeWhile_append_of_ne_nil rest htail, dropWhile_append_of_ne_nil rest htail⟩

theorem tailText_head (t : Text) : ∀ c ∈ (tailText t).head?, endsAuthority c = true := by
  intro c hc
  have hnot := dropWhile_head (fun c => !endsAuthority c) (t.dropWhile isSlash) c hc
  simpa using hnot

theorem ne_nil_of_parseAuthority {default : Nat} {t : Text} {authority : Authority}
    (h : parseAuthority externals default (authorityText t) = .ok authority) :
    t.dropWhile isSlash ≠ [] := by
  intro hempty
  rw [authorityText, hempty] at h
  cases h

end Authorities

section Paths

/-- The segments that a path closes when more text follows it. -/
def closedPath (path : Text) : List Text := closed [] (rawSegments path)

theorem canonical_closedPath (path : Text) : ∀ s ∈ closedPath path, IsCanonical s :=
  canonical_closed (List.forall_mem_nil _) (slashFree_rawSegments path)

theorem slashFree_closedPath (path : Text) : SlashFree (closedPath path) :=
  fun s hs => (canonical_closedPath path s hs).slashFree

theorem rawSegments_ne_nil {path : Text} (h : path ≠ []) : rawSegments path ≠ [] := by
  obtain ⟨c, t, rfl⟩ := List.exists_cons_of_ne_nil h
  exact List.splitOnP_ne_nil isSlash t

theorem parsePath_append (front : Text) {path : Text} (hslash : path.head? = some '/') :
    parsePath (front ++ path) = resolve (closedPath front) (rawSegments path) := by
  have hne : path ≠ [] := by
    rintro rfl
    cases hslash
  rw [parsePath, if_neg (List.append_ne_nil_of_right_ne_nil front hne), rawSegments_append hslash,
    resolve_append [] _ (rawSegments_ne_nil hne)]
  rfl

/-- Trailing slashes and a last dot segment only leave empty segments behind. -/
theorem parsePath_slashes (path : Text) (n : Nat) :
    ∃ m, parsePath (path ++ List.replicate n '/') = closedPath path ++ List.replicate m [] := by
  cases n with
  | succ n =>
    have hslash : (List.replicate (n + 1) '/').head? = some '/' := rfl
    refine ⟨n + 1, ?_⟩
    have hraw : rawSegments (List.replicate (n + 1) '/') = List.replicate (n + 1) [] :=
      rawSegments_slashes [] (n + 1)
    rw [parsePath_append path hslash, hraw, resolve_canonical]
    intro s hs
    rw [List.eq_of_mem_replicate hs]
    exact .empty
  | zero =>
    rw [List.replicate_zero, List.append_nil]
    by_cases hempty : path = []
    · subst hempty
      exact ⟨1, rfl⟩
    · rw [parsePath, if_neg hempty, closedPath]
      rcases List.eq_nil_or_concat (rawSegments path) with hnil | ⟨front, segment, hconcat⟩
      · exact absurd hnil (rawSegments_ne_nil hempty)
      · rw [hconcat, List.concat_eq_append, resolve_concat]
        split_ifs
        · exact ⟨1, rfl⟩
        · exact ⟨0, rfl⟩

/-- What remains of a base path, as a text, without trailing slashes and one trailing segment. -/
theorem root_parsePath (path : Text) (n : Nat) {last : Text} (hlast : ∀ c ∈ last, isSlash c = false) :
    removeSuffix ('/' :: last) (trimEnd '/' (pathText (parsePath (path ++ List.replicate n '/')))) =
      pathText (rootSegments last (closedPath path)) := by
  obtain ⟨m, hm⟩ := parsePath_slashes path n
  rw [hm, pathText_append, pathText_replicate, trimEnd_append_replicate,
    removeSuffix_trimEnd_pathText (slashFree_closedPath path) hlast]

theorem closedPath_append_segment (front : Text) {segment : Text} (h : IsCanonical segment) :
    closedPath (front ++ '/' :: segment) = closedPath front ++ [segment] := by
  rw [closedPath, rawSegments_append_slash, List.splitOnP_eq_singleton h.slashFree, closed_append]
  change closeSegment (closedPath front) segment = _
  rw [closeSegment_solid _ h.solid, h.encode_eq]

end Paths

section Plain
variable {name : Text} {authority : Authority}

theorem takeWhile_path {path rest : Text} (hpath : ∀ c ∈ path, endsPath c = false)
    (hrest : ∀ c ∈ rest.head?, endsPath c = true) :
    (path ++ rest).takeWhile (fun c => !endsPath c) = path := by
  have hall : ∀ c ∈ path, (!endsPath c) = true := fun c hc => by rw [hpath c hc]; rfl
  rw [List.takeWhile_append_of_pos hall]
  cases rest with
  | nil => exact List.append_nil path
  | cons c rest => simp [hrest c rfl]

/-- Without a query and a fragment, the whole tail is the path. -/
theorem tail_of_plain {tail : Text} (hquery : (urlOf name authority tail).query = none)
    (hfragment : (urlOf name authority tail).fragment = none) : ∀ c ∈ tail, endsPath c = false := by
  simp only [urlOf] at hquery hfragment
  have hempty : tail.dropWhile (fun c => !endsPath c) = [] := by
    cases hrest : tail.dropWhile (fun c => !endsPath c) with
    | nil => rfl
    | cons c rest =>
      have hends : endsPath c = true := by
        have hnot := dropWhile_head (fun c => !endsPath c) tail c (by rw [hrest]; rfl)
        simpa using hnot
      rw [hrest] at hquery hfragment
      simp only [endsPath, Bool.or_eq_true, beq_iff_eq] at hends
      rcases hends with rfl | rfl
      · cases hquery
      · cases hfragment
  intro c hc
  simpa using List.dropWhile_eq_nil_iff.mp hempty c hc

end Plain

section Controls

theorem mem_splitPort {c : Char} (hc : c ≠ ':') {inside : Bool} {t : Text} (h : c ∈ t) :
    c ∈ (splitPort inside t).1 ∨ ∃ port, (splitPort inside t).2 = some port ∧ c ∈ port := by
  induction t generalizing inside with
  | nil => cases h
  | cons d t ih =>
    rw [splitPort]
    split_ifs with hcolon hopen hclose
    · refine .inr ⟨t, rfl, ?_⟩
      exact (List.mem_cons.mp h).resolve_left fun heq => hc (heq.trans hcolon.1)
    all_goals
      rcases List.mem_cons.mp h with rfl | htail
      · exact .inl List.mem_cons_self
      · exact (ih htail).imp_left (List.mem_cons_of_mem _)

theorem mem_splitLast {sep c : Char} {t rest : Text} (hrest : sep ∉ rest) (hc : c ∈ rest) :
    c ∈ (splitLast sep (t ++ rest)).2 := by
  have hreverse : sep ∉ rest.reverse := fun h => hrest (List.mem_reverse.mp h)
  rw [splitLast, List.reverse_append, splitOnce_append_left hreverse]
  cases splitOnce sep t.reverse with
  | none => exact List.mem_append_right _ hc
  | some parts =>
    change c ∈ (rest.reverse ++ parts.1).reverse
    rw [List.reverse_append, List.reverse_reverse]
    exact List.mem_append_right _ hc

/-- A host text with a control character is no host. -/
def RejectsControls (parseHost : Text → Except String Text) : Prop :=
  ∀ text host, parseHost text = .ok host → ∀ c ∈ text, 0x20 ≤ c.toNat

variable {externals : Externals}

theorem parsePort_digits {default : Nat} {digits : Text} {port : Option Nat}
    (h : parsePort default digits = .ok port) : ∀ c ∈ digits, isAsciiDigit c = true := by
  rw [parsePort] at h
  split at h
  · cases h
  · rename_i n hn
    exact digitsValue_chars hn

/-- A control character at the end of an authority is in its host or in its port. -/
theorem parseAuthority_control (hhosts : RejectsControls externals.parseHost) {default : Nat}
    {t rest : Text} {c : Char} (hrest : '@' ∉ rest) (hc : c ∈ rest) (hcontrol : c.toNat < 0x20)
    (authority : Authority) : parseAuthority externals default (t ++ rest) ≠ .ok authority := by
  intro h
  obtain ⟨-, hhost, hport, -⟩ := parseAuthority_eq_ok.mp h
  have hcolon : c ≠ ':' := by
    rintro rfl
    exact absurd hcontrol (by decide)
  have hmem : c ∈ (splitLast '@' (t ++ rest)).2 := mem_splitLast hrest hc
  rcases mem_splitPort hcolon hmem with hin | ⟨port, hsome, hin⟩
  · have hhigh := hhosts _ _ hhost c hin
    omega
  · rw [hsome] at hport
    have hdigit := parsePort_digits hport c hin
    have hge : '0'.toNat ≤ c.toNat := by
      simp only [isAsciiDigit, Bool.and_eq_true, decide_eq_true_eq] at hdigit
      exact hdigit.1
    change 48 ≤ c.toNat at hge
    omega

theorem endsAuthority_control {c : Char} (h : isControlOrSpace c = true) : endsAuthority c = false := by
  rw [Bool.eq_false_iff]
  intro hends
  simp only [endsAuthority, isSlash, Bool.or_eq_true, beq_iff_eq] at hends
  rcases hends with ((rfl | rfl) | rfl) | rfl <;> cases h

theorem endsPath_of_endsAuthority {c : Char} (h : endsAuthority c = false) : endsPath c = false := by
  simp only [endsAuthority, Bool.or_eq_false_iff] at h
  simp [endsPath, h.1.2, h.2]

theorem lower_control (c : Char) (h : isControlOrSpace c = true) :
    c.toLower ∉ ".%2e".toList := by
  have hall : ∀ n : Fin 33, (Char.ofNat n).toLower ∉ ".%2e".toList := by decide +kernel
  have hlt : c.toNat < 33 := Nat.lt_succ_of_le (of_decide_eq_true h)
  have hc := hall ⟨c.toNat, hlt⟩
  rwa [Char.ofNat_toNat] at hc

/-- A dot segment has no control characters. -/
theorem not_dot_of_control {segment : Text} {c : Char} (hc : c ∈ segment)
    (hcontrol : isControlOrSpace c = true) : isDot segment = false := by
  rw [Bool.eq_false_iff]
  intro hdot
  have hlower : c.toLower ∈ toAsciiLowercase segment := List.mem_map_of_mem hc
  have hchars : ∀ t ∈ dotTexts, ∀ d ∈ t, d ∈ ".%2e".toList := by
    intro t ht d hd
    have hall := List.all_eq_true.mp
      (rfl : dotTexts.all (fun t => t.all (fun d => ".%2e".toList.contains d)) = true) t ht
    simpa using List.all_eq_true.mp hall d hd
  exact lower_control c hcontrol (hchars _ ((isDot_iff segment).mp hdot) _ hlower)

/-- Control characters at the end of a path make its last segment another one. -/
theorem closedPath_control {path rest : Text} {last : Text} {c : Char} (hpath : path ≠ [])
    (hrest : ∀ d ∈ rest, isControlOrSpace d = true) (hc : c ∈ rest) :
    closedPath (path ++ rest) ≠ rootSegments last (closedPath path) := by
  obtain ⟨slash, t, rfl⟩ := List.exists_cons_of_ne_nil hpath
  have hslash : ∀ d ∈ rest, isSlash d = false := by
    intro d hd
    have hends := endsAuthority_control (hrest d hd)
    simp only [endsAuthority, Bool.or_eq_false_iff] at hends
    exact hends.1.1
  obtain ⟨front, segment, first, after, hsplit, hlast, hsplit'⟩ := splitOnP_append isSlash t rest
  rw [List.splitOnP_eq_singleton hslash] at hlast
  obtain ⟨rfl, rfl⟩ := List.cons.inj hlast
  have hclosed : closedPath (slash :: t ++ rest) =
      closed [] front ++ [percentEncode pathSet (segment ++ rest)] := by
    change closed [] ((t ++ rest).splitOnP isSlash) = _
    rw [hsplit', closed_append]
    exact closeSegment_solid _
      (not_dot_of_control (List.mem_append_right segment hc) (hrest c hc))
  have hbase : closedPath (slash :: t) = closeSegment (closed [] front) segment := by
    change closed [] (t.splitOnP isSlash) = _
    rw [hsplit, closed_append]
    rfl
  intro heq
  have hstart : closed [] front ++ [percentEncode pathSet (segment ++ rest)] <+:
      closeSegment (closed [] front) segment := by
    rw [← hclosed, heq, hbase]
    exact prefix_rootSegments last _
  cases hdot : isDot segment with
  | true =>
    have hlen := (hstart.trans (closeSegment_dot _ hdot)).length_le
    rw [List.length_append, List.length_singleton] at hlen
    omega
  | false =>
    rw [closeSegment_solid _ hdot, List.prefix_append_right_inj] at hstart
    obtain ⟨hencoded, -⟩ := List.cons_prefix_cons.mp hstart
    rw [percentEncode_append] at hencoded
    have hnil := percentEncode_eq_nil.mp (List.append_right_eq_self.mp hencoded)
    rw [hnil] at hc
    cases hc

end Controls

section Spelling
variable {externals : Externals}

theorem parse_scheme {input : Text} {url : Url} (h : parse externals input = .ok url) :
    ∃ rest, splitScheme (clean input) = some (url.scheme, rest) := by
  unfold parse at h
  split at h
  · cases h
  · rename_i scheme rest hsplit
    refine ⟨rest, hsplit.trans ?_⟩
    split at h
    · obtain ⟨authority, -, rfl⟩ := parseSpecial_eq_ok.mp h
      rfl
    · cases hother : externals.parseOther scheme rest with
      | error e =>
        rw [hother] at h
        cases h
      | ok other =>
        rw [hother] at h
        cases h
        rfl

theorem splitScheme_append {t name rest : Text} (h : splitScheme t = some (name, rest)) (more : Text) :
    splitScheme (t ++ more) = some (name, rest ++ more) := by
  rw [splitScheme] at h ⊢
  split_ifs at h with hhead
  obtain ⟨parts, hparts, heq⟩ := Option.map_eq_some_iff.mp h
  obtain ⟨hsplit, hchars⟩ := Option.filter_eq_some_iff.mp hparts
  obtain ⟨rfl, rfl⟩ := Prod.mk.inj heq
  have hhead' : (t ++ more).head?.any isAsciiAlphabetic = true := by
    cases t with
    | nil => cases hhead
    | cons c t => exact hhead
  rw [if_pos hhead', splitOnce_append_right hsplit]
  simp [Option.filter_some, hchars]

theorem splitScheme_of_append {t more name rest : Text} (hmore : ':' ∉ more)
    (h : splitScheme (t ++ more) = some (name, rest)) : ∃ rest', splitScheme t = some (name, rest') := by
  cases hsplit : splitOnce ':' t with
  | some parts =>
    have happend := splitOnce_append_right (a := parts.1) (b := parts.2) hsplit more
    rw [splitScheme, happend] at h
    split_ifs at h with hhead
    obtain ⟨parts', hparts', heq⟩ := Option.map_eq_some_iff.mp h
    obtain ⟨hsome, hchars⟩ := Option.filter_eq_some_iff.mp hparts'
    obtain rfl := Option.some.inj hsome
    obtain ⟨rfl, -⟩ := Prod.mk.inj heq
    have hhead' : t.head?.any isAsciiAlphabetic = true := by
      cases t with
      | nil => cases hsplit
      | cons c t => exact hhead
    refine ⟨parts.2, ?_⟩
    rw [splitScheme, if_pos hhead', hsplit]
    simp [Option.filter_some, hchars]
  | none =>
    have hnone : splitOnce ':' (t ++ more) = none :=
      splitOnce_eq_none.mpr fun hmem =>
        (List.mem_append.mp hmem).elim (splitOnce_eq_none.mp hsplit) hmore
    rw [splitScheme, hnone] at h
    split_ifs at h
    cases h

/-- What the parser reads when visible text follows. -/
theorem clean_append (t : Text) {rest : Text} (hne : rest ≠ [])
    (hrest : ∀ c ∈ rest, isControlOrSpace c = false) :
    clean (t ++ rest) = untabbed (t.dropWhile isControlOrSpace) ++ rest := by
  have hdrop : (t ++ rest).dropWhile isControlOrSpace = t.dropWhile isControlOrSpace ++ rest := by
    rw [List.dropWhile_append]
    split_ifs with hempty
    · obtain ⟨c, more, rfl⟩ := List.exists_cons_of_ne_nil hne
      rw [List.isEmpty_iff.mp hempty]
      simp [hrest c List.mem_cons_self]
    · rfl
  rw [clean, trimMatches, hdrop]
  exact cleanEnd_append hne hrest

theorem prefix_clean (t : Text) : clean t <+: untabbed (t.dropWhile isControlOrSpace) :=
  (List.rdropWhile_prefix isControlOrSpace (t.dropWhile isControlOrSpace)).filter _

/-- Extending a URL after its scheme keeps the scheme it parses with. -/
theorem parse_scheme_extended {t more rest : Text} {url url' : Url}
    (h : parse externals (t ++ more) = .ok url) (hmore : ∀ c ∈ more, isControlOrSpace c = false)
    (hcolon : ':' ∉ more) (hne : rest ≠ []) (hrest : ∀ c ∈ rest, isControlOrSpace c = false)
    (h' : parse externals (t ++ rest) = .ok url') : url'.scheme = url.scheme := by
  obtain ⟨after, hscheme⟩ := parse_scheme h
  obtain ⟨after', hscheme'⟩ := parse_scheme h'
  have hstart : ∃ kept, splitScheme (untabbed (t.dropWhile isControlOrSpace)) =
      some (url.scheme, kept) := by
    by_cases hempty : more = []
    · subst hempty
      rw [List.append_nil] at hscheme
      obtain ⟨dropped, hdropped⟩ := prefix_clean t
      exact ⟨_, hdropped ▸ splitScheme_append hscheme dropped⟩
    · rw [clean_append t hempty hmore] at hscheme
      exact splitScheme_of_append hcolon hscheme
  obtain ⟨kept, hkept⟩ := hstart
  rw [clean_append t hne hrest, splitScheme_append hkept rest] at hscheme'
  exact (Prod.mk.inj (Option.some.inj hscheme')).1.symm

end Spelling

end WebUrl
