import GptLiveProxy.TextPieces
import GptLiveProxy.UrlParser

/-!
# Paths of parsed URLs

A parsed path is a list of segments without separators, without characters that the parser would
encode, and without dot segments. Its text determines the list. What is appended to a path text is
resolved from the segments closed before it, and the parser reads the addition verbatim exactly
when the addition is free of dot segments and of characters it would rewrite.
-/

namespace WebUrl
open CharText

/-- Characters of a parsed segment. -/
def isWritten (c : Char) : Bool := !pathSet c && !isSlash c

def isDot (segment : Text) : Bool := isSingleDot segment || isDoubleDot segment

/-- A segment as the parser leaves it. -/
structure IsCanonical (segment : Text) : Prop where
  written : ∀ c ∈ segment, isWritten c = true
  solid : isDot segment = false

def SlashFree (path : List Text) : Prop := ∀ segment ∈ path, ∀ c ∈ segment, isSlash c = false

/-- The segments after those that a slash follows. -/
def closed (path segments : List Text) : List Text := segments.foldl closeSegment path

section Dots

def dotTexts : List Text :=
  [".".toList, "%2e".toList, "..".toList, ".%2e".toList, "%2e.".toList, "%2e%2e".toList]

theorem isDot_iff (segment : Text) : isDot segment = true ↔ toAsciiLowercase segment ∈ dotTexts := by
  simp only [isDot, isSingleDot, isDoubleDot, dotTexts, Bool.or_eq_true, beq_iff_eq, List.mem_cons,
    List.not_mem_nil, or_false, or_assoc]

/-- The only escape inside a dot segment is the one of the dot. -/
theorem escape_in_dot (b : UInt8) (t : Text) (ht : t ∈ dotTexts)
    (h : toAsciiLowercase (escapeByte b) <:+: t) : b = 0x2e := by
  have hall : ∀ n : Fin 256, ∀ t ∈ dotTexts,
      toAsciiLowercase (escapeByte (UInt8.ofNat n)) <:+: t → UInt8.ofNat n = 0x2e := by
    decide +kernel
  have hb := hall ⟨b.toNat, b.toNat_lt⟩ t ht
  rw [UInt8.ofNat_toNat] at hb
  exact hb h

theorem exists_escape {c : Char} (h : pathSet c = true) :
    ∃ b ∈ String.utf8EncodeChar c, b ≠ 0x2e := by
  by_cases hc : c.toNat < 128
  · refine ⟨UInt8.ofNat c.toNat, by rw [utf8EncodeChar_ascii hc]; exact List.mem_singleton_self _, ?_⟩
    intro hdot
    have hnat := congrArg UInt8.toNat hdot
    rw [UInt8.toNat_ofNat', Nat.mod_eq_of_lt (by omega)] at hnat
    have hperiod : c = '.' := by
      rw [← Char.ofNat_toNat c, hnat]
      rfl
    rw [hperiod] at h
    cases h
  · obtain ⟨b, hb, hhigh⟩ := exists_high_byte (Nat.le_of_not_lt hc)
    refine ⟨b, hb, ?_⟩
    rintro rfl
    exact absurd hhigh (by decide)

/-- Encoding makes no dot segment. -/
theorem isDot_of_percentEncode {segment : Text}
    (h : isDot (percentEncode pathSet segment) = true) : isDot segment = true := by
  by_cases hall : ∀ c ∈ segment, pathSet c = false
  · rwa [percentEncode_eq_self hall] at h
  · exfalso
    push Not at hall
    obtain ⟨c, hc, hset⟩ := hall
    rw [Bool.ne_false_iff] at hset
    obtain ⟨b, hb, hne⟩ := exists_escape hset
    obtain ⟨front, back, rfl⟩ := List.append_of_mem hc
    obtain ⟨before, after, hbytes⟩ := List.append_of_mem hb
    have hpart : escapeByte b <:+: percentEncode pathSet (front ++ c :: back) := by
      refine ⟨percentEncode pathSet front ++ before.flatMap escapeByte,
        after.flatMap escapeByte ++ percentEncode pathSet back, ?_⟩
      rw [← List.singleton_append, percentEncode_append, percentEncode_append]
      simp [percentEncode, encodeChar, hset, hbytes]
    exact hne (escape_in_dot b _ ((isDot_iff _).mp h) (hpart.map Char.toLower))

end Dots

section Canonical

theorem isWritten_of_escape {c : Char} (h : c ∈ "%0123456789ABCDEF".toList) : isWritten c = true :=
  List.all_eq_true.mp (rfl : "%0123456789ABCDEF".toList.all isWritten = true) c h

theorem IsCanonical.empty : IsCanonical [] := ⟨List.forall_mem_nil _, rfl⟩

theorem IsCanonical.slashFree {segment : Text} (h : IsCanonical segment) :
    ∀ c ∈ segment, isSlash c = false := by
  intro c hc
  simpa [isWritten] using (Bool.and_eq_true_iff.mp (h.written c hc)).2

theorem IsCanonical.encode {segment : Text} (hslash : ∀ c ∈ segment, isSlash c = false)
    (hdot : isDot segment = false) : IsCanonical (percentEncode pathSet segment) := by
  refine ⟨fun c hc => ?_, Bool.eq_false_iff.mpr fun h => ?_⟩
  · rcases mem_percentEncode hc with ⟨hmem, hset⟩ | hescape
    · rw [isWritten, hset, hslash c hmem]
      rfl
    · exact isWritten_of_escape hescape
  · rw [isDot_of_percentEncode h] at hdot
    cases hdot

theorem IsCanonical.encode_eq {segment : Text} (h : IsCanonical segment) :
    percentEncode pathSet segment = segment := by
  apply percentEncode_eq_self
  intro c hc
  simpa [isWritten] using (Bool.and_eq_true_iff.mp (h.written c hc)).1

theorem closeSegment_solid (path : List Text) {segment : Text} (h : isDot segment = false) :
    closeSegment path segment = path ++ [percentEncode pathSet segment] := by
  obtain ⟨hsingle, hdouble⟩ := Bool.or_eq_false_iff.mp h
  simp [closeSegment, hsingle, hdouble]

theorem closeSegment_dot (path : List Text) {segment : Text} (h : isDot segment = true) :
    closeSegment path segment <+: path := by
  simp only [closeSegment]
  split_ifs with hdouble hsingle
  · exact List.dropLast_prefix path
  · exact List.prefix_rfl
  · simp [isDot, hdouble, hsingle] at h

theorem finishSegment_eq (path : List Text) (segment : Text) :
    finishSegment path segment =
      closeSegment path segment ++ if isDot segment then [[]] else [] := by
  simp only [finishSegment, closeSegment, isDot]
  split_ifs with hdouble hsingle <;> simp_all

theorem canonical_closeSegment {path : List Text} {segment : Text}
    (hpath : ∀ s ∈ path, IsCanonical s) (hslash : ∀ c ∈ segment, isSlash c = false) :
    ∀ s ∈ closeSegment path segment, IsCanonical s := by
  intro s hs
  cases hdot : isDot segment with
  | true => exact hpath s ((closeSegment_dot path hdot).subset hs)
  | false =>
    rw [closeSegment_solid path hdot] at hs
    rcases List.mem_append.mp hs with hmem | hlast
    · exact hpath s hmem
    · obtain rfl := List.mem_singleton.mp hlast
      exact .encode hslash hdot

theorem canonical_closed {path segments : List Text} (hpath : ∀ s ∈ path, IsCanonical s)
    (hslash : SlashFree segments) : ∀ s ∈ closed path segments, IsCanonical s := by
  induction segments generalizing path with
  | nil => exact hpath
  | cons segment segments ih =>
    obtain ⟨hsegment, hsegments⟩ := List.forall_mem_cons.mp hslash
    exact ih (canonical_closeSegment hpath hsegment) hsegments

end Canonical

section Resolve

theorem closed_append (path front back : List Text) :
    closed path (front ++ back) = closed (closed path front) back := List.foldl_append

theorem resolve_cons (path : List Text) (segment : Text) {segments : List Text}
    (h : segments ≠ []) :
    resolve path (segment :: segments) = resolve (closeSegment path segment) segments := by
  cases segments with
  | nil => exact absurd rfl h
  | cons next segments => rfl

theorem resolve_append (path front : List Text) {back : List Text} (h : back ≠ []) :
    resolve path (front ++ back) = resolve (closed path front) back := by
  induction front generalizing path with
  | nil => rfl
  | cons segment front ih =>
    rw [List.cons_append, resolve_cons path segment (List.append_ne_nil_of_right_ne_nil front h), ih]
    rfl

theorem resolve_concat (path front : List Text) (segment : Text) :
    resolve path (front ++ [segment]) =
      closed path (front ++ [segment]) ++ if isDot segment then [[]] else [] := by
  rw [resolve_append path front (List.cons_ne_nil segment []), closed_append]
  exact finishSegment_eq _ segment

theorem canonical_resolve {path segments : List Text} (hpath : ∀ s ∈ path, IsCanonical s)
    (hslash : SlashFree segments) : ∀ s ∈ resolve path segments, IsCanonical s := by
  rcases List.eq_nil_or_concat segments with rfl | ⟨front, segment, rfl⟩
  · exact hpath
  · rw [List.concat_eq_append] at hslash ⊢
    rw [resolve_concat]
    intro s hs
    rcases List.mem_append.mp hs with hmem | hlast
    · exact canonical_closed hpath hslash s hmem
    · split_ifs at hlast
      · obtain rfl := List.mem_singleton.mp hlast
        exact .empty
      · cases hlast

/-- Canonical segments are appended as they are. -/
theorem closed_canonical (path : List Text) {segments : List Text}
    (h : ∀ s ∈ segments, IsCanonical s) : closed path segments = path ++ segments := by
  induction segments generalizing path with
  | nil => exact (List.append_nil path).symm
  | cons segment segments ih =>
    obtain ⟨hsegment, hsegments⟩ := List.forall_mem_cons.mp h
    change closed (closeSegment path segment) segments = _
    rw [closeSegment_solid path hsegment.solid, hsegment.encode_eq, ih _ hsegments,
      List.append_assoc, List.singleton_append]

theorem resolve_canonical (path : List Text) {segments : List Text}
    (h : ∀ s ∈ segments, IsCanonical s) : resolve path segments = path ++ segments := by
  rcases List.eq_nil_or_concat segments with rfl | ⟨front, segment, rfl⟩
  · exact (List.append_nil path).symm
  · rw [List.concat_eq_append] at h ⊢
    have hlast := h segment (by simp)
    rw [resolve_concat, closed_canonical path h, hlast.solid]
    exact List.append_nil _

end Resolve

section Texts

theorem pathText_append (a b : List Text) : pathText (a ++ b) = pathText a ++ pathText b := by
  simp [pathText]

theorem pathText_singleton (segment : Text) : pathText [segment] = '/' :: segment := by
  simp [pathText]

theorem pathText_replicate (n : Nat) : pathText (List.replicate n []) = List.replicate n '/' := by
  induction n with
  | zero => rfl
  | succ n ih =>
    rw [List.replicate_succ, List.replicate_succ, ← ih]
    rfl

theorem slashFree_splitOnP (t : Text) : SlashFree (t.splitOnP isSlash) := by
  induction t with
  | nil => simp [SlashFree]
  | cons c t ih =>
    obtain ⟨first, rest, hsplit⟩ := List.exists_cons_of_ne_nil (List.splitOnP_ne_nil isSlash t)
    rw [List.splitOnP_cons_eq_if_modifyHead]
    rw [hsplit] at ih ⊢
    split_ifs with hc
    · exact List.forall_mem_cons.mpr ⟨List.forall_mem_nil _, ih⟩
    · rw [List.modifyHead_cons]
      obtain ⟨hfirst, hrest⟩ := List.forall_mem_cons.mp ih
      exact List.forall_mem_cons.mpr
        ⟨List.forall_mem_cons.mpr ⟨Bool.eq_false_iff.mpr hc, hfirst⟩, hrest⟩

theorem slashFree_rawSegments (t : Text) : SlashFree (rawSegments t) := by
  cases t with
  | nil => exact List.forall_mem_nil _
  | cons c t => exact slashFree_splitOnP t

theorem rawSegments_append_slash (t w : Text) :
    rawSegments (t ++ '/' :: w) = rawSegments t ++ w.splitOnP isSlash := by
  cases t with
  | nil => rfl
  | cons c t => exact List.splitOnP_append_cons t w rfl

theorem rawSegments_append {t path : Text} (h : path.head? = some '/') :
    rawSegments (t ++ path) = rawSegments t ++ rawSegments path := by
  obtain ⟨w, rfl⟩ := List.head?_eq_some_iff.mp h
  exact rawSegments_append_slash t w

theorem rawSegments_slashes (t : Text) (n : Nat) :
    rawSegments (t ++ List.replicate n '/') = rawSegments t ++ List.replicate n [] := by
  induction n with
  | zero => simp
  | succ n ih =>
    rw [List.replicate_succ', List.replicate_succ', ← List.append_assoc, rawSegments_append_slash, ih,
      List.append_assoc]
    rfl

/-- The text of a path determines its segments. -/
theorem rawSegments_pathText {path : List Text} (h : SlashFree path) :
    rawSegments (pathText path) = path := by
  induction path using List.reverseRecOn with
  | nil => rfl
  | append_singleton path segment ih =>
    have hsegment := h segment (by simp)
    rw [pathText_append, pathText_singleton, rawSegments_append_slash,
      ih fun s hs => h s (by simp [hs]), List.splitOnP_eq_singleton hsegment]

theorem pathText_injective {path path' : List Text} (h : SlashFree path) (h' : SlashFree path')
    (heq : pathText path = pathText path') : path = path' := by
  rw [← rawSegments_pathText h, heq, rawSegments_pathText h']

theorem pathText_splitOnP {t : Text} (h : '\\' ∉ t) : pathText (t.splitOnP isSlash) = '/' :: t := by
  induction t with
  | nil => rfl
  | cons c t ih =>
    obtain ⟨hc, ht⟩ := not_or.mp (mt List.mem_cons.mpr h)
    obtain ⟨first, rest, hsplit⟩ := List.exists_cons_of_ne_nil (List.splitOnP_ne_nil isSlash t)
    have htail := ih ht
    rw [List.splitOnP_cons_eq_if_modifyHead]
    rw [hsplit] at htail ⊢
    split_ifs with hslash
    · have hc' : c = '/' := by
        simp only [isSlash, Bool.or_eq_true, beq_iff_eq] at hslash
        exact hslash.resolve_right fun heq => hc heq.symm
      rw [hc', ← htail]
      rfl
    · change '/' :: (first ++ pathText rest) = _ at htail
      change '/' :: c :: (first ++ pathText rest) = _
      rw [(List.cons.inj htail).2]

theorem pathText_rawSegments {path : Text} (hslash : path.head? = some '/') (h : '\\' ∉ path) :
    pathText (rawSegments path) = path := by
  obtain ⟨w, rfl⟩ := List.head?_eq_some_iff.mp hslash
  exact pathText_splitOnP fun hmem => h (List.mem_cons_of_mem _ hmem)

theorem mem_pathText {path : List Text} {c : Char} (h : c ∈ pathText path) :
    c = '/' ∨ ∃ segment ∈ path, c ∈ segment := by
  obtain ⟨segment, hsegment, hc⟩ := List.mem_flatMap.mp h
  exact (List.mem_cons.mp hc).imp_right fun hmem => ⟨segment, hsegment, hmem⟩

theorem mem_of_mem_splitOnP {t segment : Text} {c : Char} (hsegment : segment ∈ t.splitOnP isSlash)
    (hc : c ∈ segment) : c ∈ t := by
  induction t generalizing segment with
  | nil =>
    obtain rfl := List.mem_singleton.mp hsegment
    cases hc
  | cons d t ih =>
    obtain ⟨first, rest, hsplit⟩ := List.exists_cons_of_ne_nil (List.splitOnP_ne_nil isSlash t)
    rw [List.splitOnP_cons_eq_if_modifyHead] at hsegment
    rw [hsplit] at hsegment ih
    split_ifs at hsegment with hslash
    · rcases List.mem_cons.mp hsegment with rfl | hmem
      · cases hc
      · exact List.mem_cons_of_mem _ (ih hmem hc)
    · rw [List.modifyHead_cons] at hsegment
      rcases List.mem_cons.mp hsegment with rfl | hmem
      · rcases List.mem_cons.mp hc with rfl | hfirst
        · exact List.mem_cons_self
        · exact List.mem_cons_of_mem _ (ih List.mem_cons_self hfirst)
      · exact List.mem_cons_of_mem _ (ih (List.mem_cons_of_mem _ hmem) hc)

theorem mem_of_mem_rawSegments {path segment : Text} {c : Char} (hsegment : segment ∈ rawSegments path)
    (hc : c ∈ segment) : c ∈ path := by
  cases path with
  | nil => cases hsegment
  | cons slash t => exact List.mem_cons_of_mem _ (mem_of_mem_splitOnP hsegment hc)

end Texts

section Verbatim

/-- The parser reads the path as it stands. -/
structure IsVerbatim (path : Text) : Prop where
  chars : ∀ c ∈ path, c = '/' ∨ isWritten c = true
  solid : ∀ segment ∈ rawSegments path, isDot segment = false

theorem IsVerbatim.no_backslash {path : Text} (h : ∀ c ∈ path, c = '/' ∨ isWritten c = true) :
    '\\' ∉ path := by
  intro hmem
  rcases h _ hmem with heq | hwritten
  · exact absurd heq (by decide)
  · cases hwritten

theorem IsVerbatim.canonical {path : Text} (h : IsVerbatim path) :
    ∀ s ∈ rawSegments path, IsCanonical s := by
  intro s hs
  refine ⟨fun c hc => ?_, h.solid s hs⟩
  have hslash := slashFree_rawSegments path s hs c hc
  rcases h.chars c (mem_of_mem_rawSegments hs hc) with rfl | hwritten
  · cases hslash
  · exact hwritten

/-- A path that follows closed segments is read verbatim exactly when nothing in it is rewritten,
and then it follows those segments and no others. -/
theorem resolve_eq_iff {front front' : List Text} {path : Text}
    (hfront : ∀ s ∈ front, IsCanonical s) (hfront' : SlashFree front')
    (hslash : path.head? = some '/') :
    pathText (resolve front (rawSegments path)) = pathText front' ++ path ↔
      IsVerbatim path ∧ front = front' := by
  constructor
  · intro h
    have hresolved := canonical_resolve hfront (slashFree_rawSegments path)
    have hchars : ∀ c ∈ path, c = '/' ∨ isWritten c = true := by
      intro c hc
      have hmem : c ∈ pathText (resolve front (rawSegments path)) := by
        rw [h]
        exact List.mem_append_right _ hc
      exact (mem_pathText hmem).imp_right fun ⟨segment, hsegment, hcs⟩ =>
        (hresolved segment hsegment).written c hcs
    have hsegments : resolve front (rawSegments path) = front' ++ rawSegments path := by
      apply pathText_injective
      · exact fun s hs => (hresolved s hs).slashFree
      · intro s hs
        exact (List.mem_append.mp hs).elim (hfront' s) (slashFree_rawSegments path s)
      · rw [h, pathText_append, pathText_rawSegments hslash (IsVerbatim.no_backslash hchars)]
    have hverbatim : IsVerbatim path := by
      refine ⟨hchars, fun s hs => ?_⟩
      exact (hresolved s (hsegments ▸ List.mem_append_right _ hs)).solid
    rw [resolve_canonical front hverbatim.canonical] at hsegments
    exact ⟨hverbatim, List.append_cancel_right hsegments⟩
  · rintro ⟨hverbatim, rfl⟩
    rw [resolve_canonical front hverbatim.canonical, pathText_append,
      pathText_rawSegments hslash (IsVerbatim.no_backslash hverbatim.chars)]

end Verbatim

section Roots

/-- The segments left without trailing empty ones. -/
def trimSegments (path : List Text) : List Text := path.rdropWhile (· = [])

/-- The segments left without trailing empty ones and without one trailing segment. -/
def rootSegments (last : Text) (path : List Text) : List Text :=
  if (trimSegments path).getLast? = some last then (trimSegments path).dropLast
  else trimSegments path

theorem prefix_trimSegments (path : List Text) : trimSegments path <+: path :=
  List.rdropWhile_prefix _ path

theorem trimEnd_pathText {path : List Text} (h : SlashFree path) :
    trimEnd '/' (pathText path) = pathText (trimSegments path) := by
  induction path using List.reverseRecOn with
  | nil => rfl
  | append_singleton path segment ih =>
    rw [trimSegments, pathText_append, pathText_singleton]
    by_cases hempty : segment = []
    · subst hempty
      rw [List.rdropWhile_concat_pos _ _ _ (by simp), ← trimSegments,
        ← ih fun s hs => h s (by simp [hs])]
      exact trimEnd_append_replicate '/' (pathText path) 1
    · rw [List.rdropWhile_concat_neg _ _ _ (by simpa using hempty), pathText_append,
        pathText_singleton]
      apply trimEnd_eq_self
      rw [List.getLast?_append_of_ne_nil _ (List.cons_ne_nil '/' segment)]
      intro hlast
      rw [List.getLast?_cons_of_ne_nil hempty] at hlast
      have hslash := h segment (by simp) '/' (List.mem_of_getLast? hlast)
      cases hslash

theorem removeSuffix_pathText {path : List Text} {last : Text} (h : SlashFree path)
    (hlast : ∀ c ∈ last, isSlash c = false) :
    removeSuffix ('/' :: last) (pathText path) =
      pathText (if path.getLast? = some last then path.dropLast else path) := by
  split_ifs with hpath
  · obtain ⟨front, rfl⟩ := List.getLast?_eq_some_iff.mp hpath
    rw [pathText_append, pathText_singleton, removeSuffix_append, List.dropLast_concat]
  · apply removeSuffix_of_not_suffix
    rintro ⟨front, hfront⟩
    have hsegments := congrArg rawSegments hfront
    rw [rawSegments_append_slash, rawSegments_pathText h, List.splitOnP_eq_singleton hlast] at hsegments
    apply hpath
    rw [← hsegments, List.getLast?_concat]

theorem removeSuffix_trimEnd_pathText {path : List Text} {last : Text} (h : SlashFree path)
    (hlast : ∀ c ∈ last, isSlash c = false) :
    removeSuffix ('/' :: last) (trimEnd '/' (pathText path)) = pathText (rootSegments last path) := by
  have htrimmed : SlashFree (trimSegments path) :=
    fun s hs => h s ((prefix_trimSegments path).subset hs)
  rw [trimEnd_pathText h, removeSuffix_pathText htrimmed hlast, rootSegments]

theorem prefix_rootSegments (last : Text) (path : List Text) : rootSegments last path <+: path := by
  rw [rootSegments]
  split_ifs
  · exact List.IsPrefix.trans ( List.dropLast_prefix _) (prefix_trimSegments path)
  · exact prefix_trimSegments path

theorem rootSegments_concat {last segment : Text} (path : List Text) (h : segment ≠ []) :
    rootSegments last (path ++ [segment]) = if segment = last then path else path ++ [segment] := by
  have htrim : trimSegments (path ++ [segment]) = path ++ [segment] :=
    List.rdropWhile_concat_neg _ _ _ (by simpa using h)
  rw [rootSegments, htrim, List.getLast?_concat, List.dropLast_concat]
  simp only [Option.some.injEq]

/-- Nothing is removed from a path that ends in another segment. -/
theorem rootSegments_eq_self_iff {last : Text} {path : List Text} :
    rootSegments last path = path ↔ path.getLast? ≠ some [] ∧ path.getLast? ≠ some last := by
  cases path using List.reverseRecOn with
  | nil => simp [rootSegments, trimSegments]
  | append_singleton path segment =>
    rw [List.getLast?_concat, ne_eq, ne_eq, Option.some.injEq, Option.some.injEq]
    have hshort {short : List Text} (h : short <+: path) : short ≠ path ++ [segment] := by
      rintro rfl
      have hlen := h.length_le
      rw [List.length_append, List.length_singleton] at hlen
      omega
    by_cases hempty : segment = []
    · subst hempty
      have htrim : trimSegments (path ++ [[]]) = trimSegments path :=
        List.rdropWhile_concat_pos _ _ _ (by simp)
      have hroot : rootSegments last (path ++ [[]]) = rootSegments last path := by
        rw [rootSegments, htrim, rootSegments]
      rw [hroot]
      exact iff_of_false (hshort (prefix_rootSegments last path)) fun h => h.1 rfl
    · rw [rootSegments_concat path hempty]
      split_ifs with hlast
      · exact iff_of_false (hshort List.prefix_rfl) fun h => h.2 hlast
      · exact iff_of_true rfl ⟨hempty, hlast⟩

end Roots

end WebUrl
