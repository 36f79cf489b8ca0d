import FlowScript.Export.Dot
import FlowScript.Proofs.Text.Basic

/-!
# Reading names in DOT

To a reader of DOT a name is a word, a numeral, markup between angle brackets or
a string between quotes. In a string a quote may stand behind a backslash, which
is dropped, and a line feed behind a backslash is dropped with it; any other
backslash is kept, together with the character behind it. So what the program
writes between quotes is read again as it was iff it is *closed*: with each
backslash taken together with the character behind it, none stands in front of a
quote or at the end.

All this is said of names that start like words and are on one line (`IsName`), as
the ids of nodes are.

* `readName_quote`: a closed name is read as it was written;
* `isClosed_of_readName_quote`: of a name that is not closed, no reading begins
  with it.
-/

namespace FlowScript.Dot

variable {c : Char} {s t rest r : Text}

/-! ## The reader -/

/-- A character of a bare word: letters, digits and underscores of the ASCII range,
    and whatever is beyond it. -/
def isNameChar (c : Char) : Bool :=
  isWordChar c || 0x80 ≤ c.toNat

/-- A character of a bare word that may be its first. -/
def isNameStart (c : Char) : Bool :=
  isWordStart c || 0x80 ≤ c.toNat

/-- A blank between names and signs. -/
def isSpace (c : Char) : Bool :=
  c == ' ' || c == '\t' || c == '\n' || c == '\r'

/-- The text without the blanks in front. -/
def skipSpace (s : Text) : Text :=
  s.dropWhile isSpace

/-- A reading with more in front of what has been read. -/
def behind (start : Text) (read : Text × Text) : Text × Text :=
  (start ++ read.1, read.2)

/-- What a string stands for, from behind its opening quote, and what follows its
    closing one. -/
def readQuoted : Text → Option (Text × Text)
  | [] => none
  | '"' :: rest => some ([], rest)
  | '\\' :: c :: rest =>
    if c = '"' then (readQuoted rest).map (behind ['"'])
    else if c = '\n' then readQuoted rest
    else (readQuoted rest).map (behind ['\\', c])
  | c :: rest => (readQuoted rest).map (behind [c])

/-- What is in markup, from behind its opening bracket, and what follows its closing
    one; `depth` brackets are open inside it. -/
def readMarkup : (depth : Nat) → Text → Option (Text × Text)
  | _, [] => none
  | 0, '>' :: rest => some ([], rest)
  | depth + 1, '>' :: rest => (readMarkup depth rest).map (behind ['>'])
  | depth, '<' :: rest => (readMarkup (depth + 1) rest).map (behind ['<'])
  | depth, c :: rest => (readMarkup depth rest).map (behind [c])

/-- The numeral at the front of a text, and what follows it. -/
def readNumeral (s : Text) : Option (Text × Text) :=
  let sign := if s.head? = some '-' then ['-'] else []
  let whole := (s.drop sign.length).takeWhile Char.isDigit
  let fraction :=
    match s.drop (sign ++ whole).length with
    | '.' :: rest => '.' :: rest.takeWhile Char.isDigit
    | _ => []
  let numeral := sign ++ whole ++ fraction
  if isNumeral numeral then some (numeral, s.drop numeral.length) else none

/-- The word at the front of a text, unless it is a keyword, and what follows it. -/
def readWord (s : Text) : Option (Text × Text) :=
  let word := s.takeWhile isNameChar
  if keywords.contains (Text.lower word) then none else some (word, s.dropWhile isNameChar)

/-- The name at the front of a text, behind blanks, and what follows it. Names that
    are put together by plus signs are not read. -/
def readName (s : Text) : Option (Text × Text) :=
  match skipSpace s with
  | [] => none
  | '"' :: rest => readQuoted rest
  | '<' :: rest => readMarkup 0 rest
  | c :: rest => if isNameStart c then readWord (c :: rest) else readNumeral (c :: rest)

/-! ## Strings -/

/-- With each backslash taken together with the character behind it, none stands in
    front of a quote or at the end. -/
def isClosed : Text → Bool
  | [] => true
  | ['\\'] => false
  | '\\' :: c :: rest => c ≠ '"' && isClosed rest
  | _ :: rest => isClosed rest

theorem isClosed_cons (hc : c ≠ '\\') : isClosed (c :: s) = isClosed s :=
  isClosed.eq_4 c s (fun h _ => hc h) fun _ _ h _ => hc h

/-- A text is taken apart from the front, a backslash together with what stands
    behind it. -/
theorem pair_induction {P : Text → Prop} (nil : P []) (single : P ['\\'])
    (pair : ∀ c s, P s → P ('\\' :: c :: s)) (cons : ∀ c s, c ≠ '\\' → P s → P (c :: s))
    (s : Text) : P s := by
  induction s using isClosed.induct with
  | case1 => exact nil
  | case2 => exact single
  | case3 c s ih => exact pair c s ih
  | case4 c s hsingle hpair ih =>
    refine cons c s ?_ ih
    rintro rfl
    cases s with
    | nil => exact hsingle rfl rfl
    | cons d s => exact hpair d s rfl rfl

/-- A text without backslashes is closed. -/
theorem isClosed_of_not_mem (h : '\\' ∉ s) : isClosed s = true := by
  induction s with
  | nil => rfl
  | cons c s ih =>
    rw [List.mem_cons, not_or] at h
    rw [isClosed_cons (Ne.symm h.1), ih h.2]

/-- What a backslash stands in front of is not escaped again. -/
theorem escapeQuotes_backslash (c : Char) (s : Text) :
    escapeQuotes false ('\\' :: c :: s) = '\\' :: c :: escapeQuotes false s := by
  rw [escapeQuotes, if_pos rfl, escapeQuotes]
  split
  · rfl
  · split
    · rfl
    · rfl

theorem escapeQuotes_quote (s : Text) :
    escapeQuotes false ('"' :: s) = '\\' :: '"' :: escapeQuotes false s := by
  rw [escapeQuotes, if_neg (by decide), if_pos rfl, if_neg (by decide)]

theorem escapeQuotes_cons (hc : c ≠ '\\') (hquote : c ≠ '"') :
    escapeQuotes false (c :: s) = c :: escapeQuotes false s := by
  rw [escapeQuotes, if_neg hc, if_neg hquote]

theorem readQuoted_backslash (hquote : c ≠ '"') (hfeed : c ≠ '\n') :
    readQuoted ('\\' :: c :: s) = (readQuoted s).map (behind ['\\', c]) := by
  rw [readQuoted, if_neg hquote, if_neg hfeed]

theorem readQuoted_escaped_quote :
    readQuoted ('\\' :: '"' :: s) = (readQuoted s).map (behind ['"']) := by
  rw [readQuoted, if_pos rfl]

theorem readQuoted_cons (hc : c ≠ '\\') (hquote : c ≠ '"') :
    readQuoted (c :: s) = (readQuoted s).map (behind [c]) :=
  readQuoted.eq_4 c s (fun h => hquote h) fun _ _ h _ => hc h

/-- A character other than a backslash is read as it was, a quote too. -/
theorem readQuoted_escapeQuotes_cons (hc : c ≠ '\\') :
    readQuoted (escapeQuotes false (c :: s) ++ rest) =
      (readQuoted (escapeQuotes false s ++ rest)).map (behind [c]) := by
  by_cases hquote : c = '"'
  · rw [hquote, escapeQuotes_quote]
    exact readQuoted_escaped_quote
  · rw [escapeQuotes_cons hc hquote]
    exact readQuoted_cons hc hquote

/-- What is closed is read as it was. -/
theorem readQuoted_escapeQuotes (hfeed : '\n' ∉ s) (h : isClosed s = true) (rest : Text) :
    readQuoted (escapeQuotes false s ++ '"' :: rest) = some (s, rest) := by
  induction s using pair_induction with
  | nil => rfl
  | single => cases h
  | pair c s ih =>
    simp only [isClosed, Bool.and_eq_true, decide_eq_true_eq] at h
    simp only [List.mem_cons, not_or] at hfeed
    rw [escapeQuotes_backslash, List.cons_append, List.cons_append,
      readQuoted_backslash h.1 (Ne.symm hfeed.2.1), ih hfeed.2.2 h.2]
    rfl
  | cons c s hc ih =>
    rw [isClosed_cons hc] at h
    rw [readQuoted_escapeQuotes_cons hc, ih (fun hmem => hfeed (List.mem_cons_of_mem _ hmem)) h]
    rfl

theorem of_map_behind {start : Text} {read : Option (Text × Text)}
    (h : read.map (behind start) = some (t, r)) : ∃ u, read = some (u, r) ∧ t = start ++ u := by
  obtain ⟨⟨u, v⟩, hread, heq⟩ := Option.map_eq_some_iff.1 h
  obtain ⟨rfl, rfl⟩ := Prod.mk.inj heq
  exact ⟨u, hread, rfl⟩

/-- Of what is not closed, no reading begins with it: the first backslash that stands
    in front of a quote is dropped. -/
theorem isClosed_of_readQuoted (hfeed : '\n' ∉ s)
    (h : readQuoted (escapeQuotes false s ++ '"' :: rest) = some (t, r)) (hst : s <+: t) :
    isClosed s = true := by
  induction s using pair_induction generalizing t with
  | nil => rfl
  | single =>
    -- The closing quote is taken for one that is escaped.
    obtain ⟨u, -, rfl⟩ := of_map_behind (readQuoted_escaped_quote.symm.trans h)
    exact absurd (List.cons_prefix_cons.1 hst).1 (by decide)
  | pair c s ih =>
    simp only [List.mem_cons, not_or] at hfeed
    rw [escapeQuotes_backslash, List.cons_append, List.cons_append] at h
    by_cases hquote : c = '"'
    · rw [hquote, readQuoted_escaped_quote] at h
      obtain ⟨u, -, rfl⟩ := of_map_behind h
      exact absurd (List.cons_prefix_cons.1 hst).1 (by decide)
    · rw [readQuoted_backslash hquote (Ne.symm hfeed.2.1)] at h
      obtain ⟨u, hread, rfl⟩ := of_map_behind h
      have hsu : s <+: u := (List.cons_prefix_cons.1 (List.cons_prefix_cons.1 hst).2).2
      rw [isClosed, ih hfeed.2.2 hread hsu, Bool.and_true, decide_eq_true_iff]
      exact hquote
  | cons c s hc ih =>
    rw [readQuoted_escapeQuotes_cons hc] at h
    obtain ⟨u, hread, rfl⟩ := of_map_behind h
    rw [isClosed_cons hc]
    exact ih (fun hmem => hfeed (List.mem_cons_of_mem _ hmem)) hread
      (List.cons_prefix_cons.1 hst).2

/-! ## Names -/

/-- A name that starts like a word and is on one line. -/
structure IsName (s : Text) : Prop where
  /-- The first character could be that of a word. -/
  starts : ∃ c rest, s = c :: rest ∧ isWordStart c = true
  /-- There is no line feed. -/
  feedless : '\n' ∉ s

/-- In front of a character that starts no word there is a name, if it is in one. -/
theorem IsName.of_append (h : IsName (s ++ c :: t)) (hc : isWordStart c = false) : IsName s := by
  obtain ⟨⟨d, rest, heq, hd⟩, hfeed⟩ := h
  refine ⟨?_, fun hmem => hfeed (List.mem_append_left _ hmem)⟩
  cases s with
  | nil =>
    obtain ⟨rfl, -⟩ := List.cons.inj heq
    rw [hd] at hc
    cases hc
  | cons b s =>
    obtain ⟨rfl, -⟩ := List.cons.inj heq
    exact ⟨b, s, rfl, hd⟩

theorem ne_of_isWordStart {d : Char} (hc : isWordStart c = true) (hd : isWordStart d = false) :
    c ≠ d := by
  rintro rfl
  rw [hc] at hd
  cases hd

theorem isSpace_of_isWordStart (hc : isWordStart c = true) : isSpace c = false := by
  simp only [isSpace, Bool.or_eq_false_iff, beq_eq_false_iff_ne]
  exact ⟨⟨⟨ne_of_isWordStart hc (by decide), ne_of_isWordStart hc (by decide)⟩,
    ne_of_isWordStart hc (by decide)⟩, ne_of_isWordStart hc (by decide)⟩

theorem isDigit_of_isWordStart (hc : isWordStart c = true) : c.isDigit = false := by
  have hdigits : ∀ n < 58, 48 ≤ n → isWordStart (Char.ofNat n) = false := by decide
  refine Bool.eq_false_iff.2 fun hdigit => ?_
  rw [Char.isDigit, Bool.and_eq_true, decide_eq_true_eq, decide_eq_true_eq] at hdigit
  have hlow : 48 ≤ c.toNat := hdigit.1
  have hhigh : c.toNat ≤ 57 := hdigit.2
  have hfalse := hdigits c.toNat (by omega) hlow
  rw [Char.ofNat_toNat, hc] at hfalse
  cases hfalse

/-- What starts like a word is no numeral. -/
theorem isNumeral_cons_of_isWordStart (hc : isWordStart c = true) (s : Text) :
    isNumeral (c :: s) = false := by
  have hminus : c ≠ '-' := ne_of_isWordStart hc (by decide)
  have hpoint : c ≠ '.' := ne_of_isWordStart hc (by decide)
  have hdigit := isDigit_of_isWordStart hc
  rw [isNumeral.eq_2 (c :: s) fun rest heq => hminus (List.cons.inj heq).1, isUnsigned]
  simp [hdigit, hpoint]

theorem dropLastLineFeed_of_not_mem (h : '\n' ∉ s) : dropLastLineFeed s = s := by
  rw [dropLastLineFeed]
  split
  · next rest heq =>
    exact absurd (List.mem_reverse.1 (heq ▸ List.mem_cons_self)) h
  · rfl

/-- A name is written bare if it is a word and no keyword, and otherwise between
    quotes. -/
theorem IsName.quote_cases (h : IsName s) :
    (quote s = s ∧ isWord s = true ∧ keywords.contains (Text.lower s) = false) ∨
      quote s = '"' :: (escapeQuotes false s ++ ['"']) := by
  obtain ⟨⟨c, rest, rfl, hc⟩, hfeed⟩ := h
  have hmarkup : isMarkup (c :: rest) = false := by
    have hopen : c ≠ '<' := ne_of_isWordStart hc (by decide)
    simp [isMarkup, hopen]
  have hbare : isBare (c :: rest) =
      (isWord (c :: rest) && !keywords.contains (Text.lower (c :: rest))) := by
    rw [isBare, dropLastLineFeed_of_not_mem hfeed, isNumeral_cons_of_isWordStart hc, Bool.or_false]
  rw [quote, hmarkup, Bool.false_or, hbare]
  split
  · next h =>
    rw [Bool.and_eq_true, Bool.not_eq_true'] at h
    exact .inl ⟨rfl, h⟩
  · exact .inr rfl

theorem isWordChar_of_isWordStart (hc : isWordStart c = true) : isWordChar c = true := by
  rw [isWordStart, Bool.or_eq_true] at hc
  rw [isWordChar, Char.isAlphanum, Bool.or_eq_true, Bool.or_eq_true]
  exact hc.imp_left .inl

theorem isWordChar_of_mem (h : isWord s = true) : ∀ c ∈ s, isWordChar c = true := by
  cases s with
  | nil => cases h
  | cons c s =>
    rw [isWord, Bool.and_eq_true, List.all_eq_true] at h
    exact List.forall_mem_cons.2 ⟨isWordChar_of_isWordStart h.1, h.2⟩

/-- A word has no backslash in it. -/
theorem isClosed_of_isWord (h : isWord s = true) : isClosed s = true :=
  isClosed_of_not_mem fun hmem => absurd (isWordChar_of_mem h _ hmem) (by decide)

/-- A word is read up to what cannot belong to it. -/
theorem readName_word (hword : isWord s = true) (hkey : keywords.contains (Text.lower s) = false)
    (hrest : ∀ c, rest.head? = some c → isNameChar c = false) :
    readName (s ++ rest) = some (s, rest) := by
  have hchars : ∀ c ∈ s, isNameChar c = true := fun c hc => by
    rw [isNameChar, isWordChar_of_mem hword c hc, Bool.true_or]
  have hstop : rest.takeWhile isNameChar = [] ∧ rest.dropWhile isNameChar = rest := by
    cases rest with
    | nil => exact ⟨rfl, rfl⟩
    | cons c rest => simp [hrest c rfl]
  have hread : readWord (s ++ rest) = some (s, rest) := by
    rw [readWord, List.takeWhile_append_of_pos hchars, List.dropWhile_append_of_pos hchars,
      hstop.1, hstop.2, List.append_nil]
    simp only [hkey, Bool.false_eq_true, if_false]
  cases s with
  | nil => cases hword
  | cons c s =>
    rw [isWord, Bool.and_eq_true] at hword
    have hquote : c ≠ '"' := ne_of_isWordStart hword.1 (by decide)
    have hopen : c ≠ '<' := ne_of_isWordStart hword.1 (by decide)
    have hskip : skipSpace (c :: s ++ rest) = c :: (s ++ rest) :=
      List.dropWhile_cons_of_neg (by simp [isSpace_of_isWordStart hword.1])
    have hstart : isNameStart c = true := by rw [isNameStart, hword.1, Bool.true_or]
    rw [readName, hskip]
    split
    · next heq => cases heq
    · next heq => exact absurd (List.cons.inj heq).1 hquote
    · next heq => exact absurd (List.cons.inj heq).1 hopen
    · next heq =>
      obtain ⟨rfl, rfl⟩ := List.cons.inj heq
      rw [if_pos hstart]
      exact hread

theorem readName_quoted (s : Text) : readName ('"' :: s) = readQuoted s := rfl

/-- A closed name is read as it was written. -/
theorem readName_quote (h : IsName s) (hclosed : isClosed s = true)
    (hrest : ∀ c, rest.head? = some c → isNameChar c = false) :
    readName (quote s ++ rest) = some (s, rest) := by
  rcases h.quote_cases with ⟨hquote, hword, hkey⟩ | hquote
  · rw [hquote, readName_word hword hkey hrest]
  · rw [hquote, List.cons_append, readName_quoted, List.append_assoc, List.singleton_append,
      readQuoted_escapeQuotes h.feedless hclosed]

/-- Of a name that is not closed, no reading begins with it. -/
theorem isClosed_of_readName_quote (h : IsName s)
    (hread : readName (quote s ++ rest) = some (t, r)) (hst : s <+: t) : isClosed s = true := by
  rcases h.quote_cases with ⟨-, hword, -⟩ | hquote
  · exact isClosed_of_isWord hword
  · rw [hquote, List.cons_append, readName_quoted, List.append_assoc,
      List.singleton_append] at hread
    exact isClosed_of_readQuoted h.feedless hread hst

example : readName (quote "n_a\"b".toList ++ ":c".toList) =
      some ("n_a\"b".toList, ":c".toList) ∧
    readName (quote "n_a\\\"b".toList) = some ("n_a\"b".toList, []) ∧
    readName (quote "n_a\\".toList) = none := by decide +kernel

end FlowScript.Dot
