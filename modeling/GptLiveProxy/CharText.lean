import Mathlib.Data.List.DropRight
import Mathlib.Data.List.Basic

/-!
# Text as a list of scalar values

`Text` stands for a Rust `str`. The operations follow the documented behaviour of `str::trim`,
`str::trim_matches`, `eq_ignore_ascii_case`, `split_ascii_whitespace`, `split_once`, and the
integer parsers; lengths in bytes go through the UTF-8 encoding. The lemmas recover the shape of
a text from its words, and the words of a trimmed text from its shape.
-/

namespace CharText

abbrev Text := List Char

/-- The Unicode `White_Space` property, as `char::is_whitespace` decides it. -/
def isWhitespace (c : Char) : Bool :=
  let n := c.toNat
  (0x09 ≤ n && n ≤ 0x0d) || n == 0x20 || n == 0x85 || n == 0xa0 || n == 0x1680 ||
    (0x2000 ≤ n && n ≤ 0x200a) || n == 0x2028 || n == 0x2029 || n == 0x202f || n == 0x205f ||
    n == 0x3000

/-- Space, tab, line feed, form feed, and carriage return; not the vertical tab. -/
def isAsciiWhitespace (c : Char) : Bool :=
  c == ' ' || c == '\t' || c == '\n' || c == '\x0c' || c == '\r'

def isAsciiAlphanumeric (c : Char) : Bool :=
  ('a' ≤ c && c ≤ 'z') || ('A' ≤ c && c ≤ 'Z') || ('0' ≤ c && c ≤ '9')

def isAsciiDigit (c : Char) : Bool := '0' ≤ c && c ≤ '9'

def isAsciiHexdigit (c : Char) : Bool :=
  isAsciiDigit c || ('a' ≤ c && c ≤ 'f') || ('A' ≤ c && c ≤ 'F')

def trimMatches (p : Char → Bool) (t : Text) : Text := (t.dropWhile p).rdropWhile p

def trim (t : Text) : Text := trimMatches isWhitespace t

def toAsciiLowercase (t : Text) : Text := t.map Char.toLower

def eqIgnoreAsciiCase (a b : Text) : Bool := toAsciiLowercase a == toAsciiLowercase b

def splitAsciiWhitespace (t : Text) : List Text :=
  (t.splitOnP isAsciiWhitespace).filter (fun w => !w.isEmpty)

/-- The text before and after the first occurrence of the separator. -/
def splitOnce (sep : Char) : Text → Option (Text × Text)
  | [] => none
  | c :: t => if c = sep then some ([], t) else (splitOnce sep t).map fun r => (c :: r.1, r.2)

def utf8 (t : Text) : List UInt8 := t.flatMap String.utf8EncodeChar

/-- `str::len`, the length in bytes. -/
def byteLen (t : Text) : Nat := (utf8 t).length

def digitsValue (acc : Nat) : Text → Option Nat
  | [] => some acc
  | c :: t => if isAsciiDigit c then digitsValue (acc * 10 + (c.toNat - '0'.toNat)) t else none

/-- The `FromStr` of an unsigned integer type with the given largest value: an optional plus
sign, then at least one digit, with overflow rejected. -/
def parseUnsigned (max : Nat) (t : Text) : Option Nat :=
  let digits := match t with
    | '+' :: rest => rest
    | t => t
  if digits = [] then none else (digitsValue 0 digits).filter (· ≤ max)

theorem forall_ascii {P : Char → Prop} (h : ∀ n : Fin 128, P (Char.ofNat n)) {c : Char}
    (hc : c.toNat < 128) : P c := by
  have hn := h ⟨c.toNat, hc⟩
  rwa [Char.ofNat_toNat] at hn

theorem isAsciiAlphanumeric_ascii {c : Char} (h : isAsciiAlphanumeric c = true) : c.toNat < 128 := by
  have hle {a b : Char} (h : a ≤ b) : a.toNat ≤ b.toNat := h
  simp only [isAsciiAlphanumeric, Bool.or_eq_true, Bool.and_eq_true, decide_eq_true_eq] at h
  rcases h with (⟨-, h⟩ | ⟨-, h⟩) | ⟨-, h⟩
  all_goals exact Nat.lt_of_le_of_lt (hle h) (by decide)

theorem utf8_injective {a b : Text} (h : utf8 a = utf8 b) : a = b := by
  have henc : a.utf8Encode = b.utf8Encode := by
    change (utf8 a).toByteArray = (utf8 b).toByteArray
    rw [h]
  have hdec := List.utf8Decode?_utf8Encode (l := a)
  rw [henc, List.utf8Decode?_utf8Encode] at hdec
  simpa using hdec.symm

theorem digitsValue_chars {acc n : Nat} {t : Text} (h : digitsValue acc t = some n) :
    ∀ c ∈ t, isAsciiDigit c = true := by
  induction t generalizing acc with
  | nil => simp
  | cons c t ih =>
    simp only [digitsValue] at h
    split_ifs at h with hc
    exact List.forall_mem_cons.mpr ⟨hc, ih h⟩

theorem parseUnsigned_chars {max n : Nat} {t : Text} (h : parseUnsigned max t = some n) :
    ∀ c ∈ t, isAsciiDigit c = true ∨ c = '+' := by
  simp only [parseUnsigned] at h
  split_ifs at h
  obtain ⟨hvalue, -⟩ := Option.filter_eq_some_iff.mp h
  have hdigits := digitsValue_chars hvalue
  intro c hc
  split at hdigits
  · rcases List.mem_cons.mp hc with rfl | hrest
    · exact .inr rfl
    · exact .inl (hdigits c hrest)
  · exact .inl (hdigits c hc)

/-- A character other than the separator stands in one of the pieces. -/
theorem exists_piece {sep c : Char} {t : Text} (hc : c ∈ t) (hne : c ≠ sep) :
    ∃ piece ∈ t.splitOn sep, c ∈ piece := by
  induction t with
  | nil => cases hc
  | cons d t ih =>
    obtain ⟨first, rest, hsplit⟩ := List.exists_cons_of_ne_nil (List.splitOn_ne_nil sep t)
    rw [List.splitOn_cons_eq_if_modifyHead]
    split_ifs with hsep
    · have htail : c ∈ t := (List.mem_cons.mp hc).resolve_left (fun h => hne (h.trans (by simpa using hsep)))
      obtain ⟨piece, hpiece, hmem⟩ := ih htail
      exact ⟨piece, List.mem_cons_of_mem _ hpiece, hmem⟩
    · rw [hsplit, List.modifyHead_cons]
      rcases List.mem_cons.mp hc with rfl | htail
      · exact ⟨c :: first, List.mem_cons_self, List.mem_cons_self⟩
      · obtain ⟨piece, hpiece, hmem⟩ := ih htail
        rw [hsplit] at hpiece
        rcases List.mem_cons.mp hpiece with rfl | hrest
        · exact ⟨d :: piece, List.mem_cons_self, List.mem_cons_of_mem _ hmem⟩
        · exact ⟨piece, List.mem_cons_of_mem _ hrest, hmem⟩

theorem sep_notMem_piece {sep : Char} {t piece : Text} (h : piece ∈ t.splitOn sep) : sep ∉ piece := by
  induction t generalizing piece with
  | nil =>
    obtain rfl := List.mem_singleton.mp h
    exact List.not_mem_nil
  | cons c t ih =>
    obtain ⟨first, rest, hsplit⟩ := List.exists_cons_of_ne_nil (List.splitOn_ne_nil sep t)
    rw [hsplit] at ih
    rw [List.splitOn_cons_eq_if_modifyHead, hsplit] at h
    split_ifs at h with hsep
    · rcases List.mem_cons.mp h with rfl | hmem
      · exact List.not_mem_nil
      · exact ih hmem
    · rcases List.mem_cons.mp h with rfl | hmem
      · have hfirst := ih List.mem_cons_self
        simp only [List.mem_cons, not_or]
        exact ⟨fun heq => hsep (by simp [heq]), hfirst⟩
      · exact ih (List.mem_cons_of_mem _ hmem)

section Trim
variable (p : Char → Bool)

theorem trimMatches_append_left {pre : Text} (hpre : ∀ c ∈ pre, p c) (t : Text) :
    trimMatches p (pre ++ t) = trimMatches p t := by
  have hnil : pre.dropWhile p = [] := List.dropWhile_eq_nil_iff.mpr hpre
  simp [trimMatches, List.dropWhile_append, hnil]

theorem rdropWhile_append_right {post : Text} (hpost : ∀ c ∈ post, p c) (t : Text) :
    (t ++ post).rdropWhile p = t.rdropWhile p := by
  induction post using List.reverseRecOn with
  | nil => simp
  | append_singleton post c ih =>
    rw [← List.append_assoc, List.rdropWhile_concat_pos p _ _ (hpost c (by simp))]
    exact ih fun d hd => hpost d (by simp [hd])

/-- Trimming removes a padding on either side of a text that begins and ends outside it. -/
theorem trimMatches_pad {pre post t : Text} (hpre : ∀ c ∈ pre, p c) (hpost : ∀ c ∈ post, p c)
    (hhead : ∀ c ∈ t.head?, p c = false) (hlast : ∀ c ∈ t.getLast?, p c = false) :
    trimMatches p (pre ++ t ++ post) = t := by
  rw [List.append_assoc, trimMatches_append_left p hpre]
  cases t with
  | nil =>
    have hdrop : post.dropWhile p = [] := List.dropWhile_eq_nil_iff.mpr hpost
    simp [trimMatches, hdrop]
  | cons c t =>
    have hc : p c = false := hhead c rfl
    have hdrop : ((c :: t) ++ post).dropWhile p = (c :: t) ++ post := by simp [hc]
    rw [trimMatches, hdrop, rdropWhile_append_right p hpost, List.rdropWhile_eq_self_iff]
    intro hne
    simpa using hlast _ (List.getLast?_eq_some_getLast hne)

theorem trimMatches_eq_self {t : Text} (hhead : ∀ c ∈ t.head?, p c = false)
    (hlast : ∀ c ∈ t.getLast?, p c = false) : trimMatches p t = t := by
  simpa using @trimMatches_pad p [] [] t (by simp) (by simp) hhead hlast

theorem exists_pad_of_trimMatches (t : Text) :
    ∃ pre post, t = pre ++ trimMatches p t ++ post ∧ (∀ c ∈ pre, p c) ∧ ∀ c ∈ post, p c := by
  refine ⟨t.takeWhile p, (t.dropWhile p).rtakeWhile p, ?_, fun c hc => List.mem_takeWhile_imp hc,
    fun c hc => List.mem_rtakeWhile_imp hc⟩
  rw [trimMatches, List.append_assoc, List.rdropWhile_append_rtakeWhile,
    List.takeWhile_append_dropWhile]

theorem dropWhile_head (t : Text) : ∀ c ∈ (t.dropWhile p).head?, p c = false := by
  intro c hc
  have hnot := List.head?_dropWhile_not p t
  rw [Option.mem_def] at hc
  simpa only [hc] using hnot

theorem trimMatches_head {t : Text} : ∀ c ∈ (trimMatches p t).head?, p c = false := by
  intro c hc
  obtain ⟨s, hs⟩ := List.rdropWhile_prefix p (t.dropWhile p)
  apply dropWhile_head p t
  rw [Option.mem_def] at hc ⊢
  rw [← hs, List.head?_append]
  change ((t.dropWhile p).rdropWhile p).head? = some c at hc
  simp [hc]

theorem trimMatches_getLast {t : Text} : ∀ c ∈ (trimMatches p t).getLast?, p c = false := by
  intro c hc
  obtain ⟨hne, rfl⟩ := List.mem_getLast?_eq_getLast hc
  have hnot := List.rdropWhile_last_not p (t.dropWhile p) hne
  exact Bool.eq_false_iff.mpr hnot

end Trim

section Words

theorem splitAsciiWhitespace_append_cons {c : Char} (hc : isAsciiWhitespace c) (t u : Text) :
    splitAsciiWhitespace (t ++ c :: u) = splitAsciiWhitespace t ++ splitAsciiWhitespace u := by
  simp [splitAsciiWhitespace, List.splitOnP_append_cons t u hc]

theorem splitAsciiWhitespace_cons_ws {c : Char} (hc : isAsciiWhitespace c) (t : Text) :
    splitAsciiWhitespace (c :: t) = splitAsciiWhitespace t := by
  simpa [splitAsciiWhitespace] using splitAsciiWhitespace_append_cons hc [] t

theorem splitAsciiWhitespace_append_ws {pre : Text} (hpre : ∀ c ∈ pre, isAsciiWhitespace c)
    (t : Text) : splitAsciiWhitespace (pre ++ t) = splitAsciiWhitespace t := by
  induction pre with
  | nil => rfl
  | cons c pre ih =>
    rw [List.cons_append, splitAsciiWhitespace_cons_ws (hpre c (by simp))]
    exact ih fun d hd => hpre d (by simp [hd])

theorem splitAsciiWhitespace_word {w : Text} (hne : w ≠ [])
    (hw : ∀ c ∈ w, isAsciiWhitespace c = false) : splitAsciiWhitespace w = [w] := by
  simp [splitAsciiWhitespace, List.splitOnP_eq_singleton hw, hne]

theorem splitAsciiWhitespace_word_cons {w : Text} (hne : w ≠ [])
    (hw : ∀ c ∈ w, isAsciiWhitespace c = false) {c : Char} (hc : isAsciiWhitespace c) (t : Text) :
    splitAsciiWhitespace (w ++ c :: t) = w :: splitAsciiWhitespace t := by
  rw [splitAsciiWhitespace_append_cons hc, splitAsciiWhitespace_word hne hw, List.singleton_append]

theorem splitAsciiWhitespace_eq_nil {t : Text} :
    splitAsciiWhitespace t = [] ↔ ∀ c ∈ t, isAsciiWhitespace c := by
  constructor
  · intro h
    induction t with
    | nil => simp
    | cons c t ih =>
      by_cases hc : isAsciiWhitespace c
      · rw [splitAsciiWhitespace_cons_ws hc] at h
        simpa [hc] using ih h
      · exfalso
        have hsplit : c :: t = (c :: t).takeWhile (fun d => !isAsciiWhitespace d) ++
            (c :: t).dropWhile (fun d => !isAsciiWhitespace d) := by simp
        have hne : (c :: t).takeWhile (fun d => !isAsciiWhitespace d) ≠ [] := by simp [hc]
        have hw : ∀ d ∈ (c :: t).takeWhile (fun d => !isAsciiWhitespace d),
            isAsciiWhitespace d = false := fun d hd => by simpa using List.mem_takeWhile_imp hd
        cases hrest : (c :: t).dropWhile (fun d => !isAsciiWhitespace d) with
        | nil =>
          rw [hrest, List.append_nil] at hsplit
          rw [hsplit, splitAsciiWhitespace_word hne hw] at h
          simp at h
        | cons e rest =>
          have he : isAsciiWhitespace e := by
            have hnot := List.head?_dropWhile_not (fun d => !isAsciiWhitespace d) (c :: t)
            simpa [hrest] using hnot
          rw [hsplit, hrest, splitAsciiWhitespace_word_cons hne hw he] at h
          simp at h
  · intro h
    simpa [splitAsciiWhitespace] using splitAsciiWhitespace_append_ws h []

theorem splitAsciiWhitespace_append_right {post : Text} (hpost : ∀ c ∈ post, isAsciiWhitespace c)
    (t : Text) : splitAsciiWhitespace (t ++ post) = splitAsciiWhitespace t := by
  cases post with
  | nil => rw [List.append_nil]
  | cons c post =>
    have hnil : splitAsciiWhitespace post = [] :=
      splitAsciiWhitespace_eq_nil.mpr fun d hd => hpost d (by simp [hd])
    rw [splitAsciiWhitespace_append_cons (hpost c (by simp)), hnil, List.append_nil]

/-- The first word, what stands before it, and what follows it. -/
theorem exists_of_splitAsciiWhitespace_cons {t w : Text} {ws : List Text}
    (h : splitAsciiWhitespace t = w :: ws) :
    ∃ pre rest, t = pre ++ w ++ rest ∧ (∀ c ∈ pre, isAsciiWhitespace c) ∧ w ≠ [] ∧
      (∀ c ∈ w, isAsciiWhitespace c = false) ∧ splitAsciiWhitespace rest = ws ∧
      ∀ c ∈ rest.head?, isAsciiWhitespace c := by
  have hpre : ∀ c ∈ t.takeWhile isAsciiWhitespace, isAsciiWhitespace c :=
    fun c hc => List.mem_takeWhile_imp hc
  have ht := List.takeWhile_append_dropWhile (p := isAsciiWhitespace) (l := t)
  have hhead := dropWhile_head isAsciiWhitespace t
  generalize t.dropWhile isAsciiWhitespace = u at ht hhead
  rw [← ht, splitAsciiWhitespace_append_ws hpre] at h
  have hv : ∀ c ∈ u.takeWhile (fun d => !isAsciiWhitespace d), isAsciiWhitespace c = false :=
    fun c hc => by simpa using List.mem_takeWhile_imp hc
  have hne : u.takeWhile (fun d => !isAsciiWhitespace d) ≠ [] := by
    cases u with
    | nil => simp [splitAsciiWhitespace] at h
    | cons c u => simp [hhead c rfl]
  have hu := List.takeWhile_append_dropWhile (p := fun d => !isAsciiWhitespace d) (l := u)
  have hrest := dropWhile_head (fun d => !isAsciiWhitespace d) u
  generalize u.takeWhile (fun d => !isAsciiWhitespace d) = v at hu hv hne
  generalize u.dropWhile (fun d => !isAsciiWhitespace d) = rest at hu hrest
  have hwords : splitAsciiWhitespace u = v :: splitAsciiWhitespace rest := by
    rw [← hu]
    cases rest with
    | nil =>
      rw [List.append_nil, splitAsciiWhitespace_word hne hv]
      rfl
    | cons c r =>
      have hc : isAsciiWhitespace c := by simpa using hrest c rfl
      rw [splitAsciiWhitespace_word_cons hne hv hc, splitAsciiWhitespace_cons_ws hc]
  rw [hwords] at h
  obtain ⟨rfl, rfl⟩ := List.cons.inj h
  exact ⟨t.takeWhile isAsciiWhitespace, rest, by rw [List.append_assoc, hu, ht], hpre, hne, hv, rfl,
    fun c hc => by simpa using hrest c hc⟩

end Words

end CharText
