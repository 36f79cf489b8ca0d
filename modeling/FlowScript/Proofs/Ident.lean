import FlowScript.Ident
import FlowScript.Proofs.Text.Base64
import FlowScript.Proofs.Text.Digit
import FlowScript.Proofs.Text.Trim
import FlowScript.Proofs.Text.Utf8
import Mathlib.Data.List.Nodup

/-!
# The two kinds of ids

A numeral is the token of its numbered id (`token?_numbered`), and the ids that
have a token are the numbered ids of numerals, perhaps with one line feed
behind (`token?_eq_some_iff`). So a token tells two numbered ids apart unless
they differ in that line feed only (`token_eq_token_iff`).

The label of an encoded id is the trimmed label that it was made from
(`label_labelled`), so labels with the same id are the same but for blanks at
their ends (`trim_eq_of_labelled_eq`), and no encoded id is a numbered one.

* `nodup_map_token_iff`: which numbered ids have distinct tokens;
* `labelled_reversible`: what an encoded id is, and that the label can be read
  back from it.
-/

namespace FlowScript.Ident

open Text (isNumeral isDigit)

variable {token id s t : Text}

/-! ## Numbered ids -/

theorem numbered_injective (h : numbered s = numbered t) : s = t :=
  (List.cons.inj (List.cons.inj h).2).2

/-- A numeral is the token of its id, and of its id with a line feed behind it. -/
theorem token?_numbered_append (h : isNumeral token = true) {after : Text}
    (hafter : after = [] ∨ after = ['\n']) : token? (numbered token ++ after) = some token := by
  obtain ⟨hne, hd⟩ := Text.isNumeral_iff.1 h
  have hfeed : isDigit '\n' = false := by decide
  have hspan : Text.spanDigits (token ++ after) = (token, after) :=
    Text.spanDigits_append hd (by rcases hafter with rfl | rfl <;> simp [hfeed])
  simpa [numbered, token?, hspan, hne] using or_iff_not_imp_left.1 hafter

theorem token?_numbered (h : isNumeral token = true) : token? (numbered token) = some token := by
  have heq := token?_numbered_append h (.inl rfl)
  rwa [List.append_nil] at heq

theorem token_numbered (h : isNumeral token = true) : Ident.token (numbered token) = token := by
  rw [Ident.token, token?_numbered h]
  rfl

theorem isNumbered_numbered (h : isNumeral token = true) : isNumbered (numbered token) = true := by
  rw [isNumbered, token?_numbered h]
  rfl

/-- Only the id of a numeral has a token; a line feed may follow it. -/
theorem eq_of_token? (h : token? id = some token) :
    isNumeral token = true ∧ (id = numbered token ∨ id = numbered token ++ ['\n']) := by
  rw [token?.eq_def] at h
  -- The prefix, then digits, then nothing or a line feed; otherwise no token.
  split at h
  · next rest =>
    split at h
    next digits after hspan =>
    obtain ⟨rfl, hd, -⟩ := Text.spanDigits_spec hspan
    split at h
    · next hcond =>
      obtain rfl := Option.some.inj h
      simp only [Bool.and_eq_true, Bool.not_eq_true', List.isEmpty_eq_false_iff, Bool.or_eq_true,
        beq_iff_eq] at hcond
      refine ⟨Text.isNumeral_iff.2 ⟨hcond.1, hd⟩, hcond.2.imp (fun hr => ?_) fun hr => ?_⟩
      · rw [hr, List.append_nil, numbered]
      · rw [hr, numbered, List.cons_append, List.cons_append]
    · cases h
  · cases h

theorem token?_eq_some_iff : token? id = some token ↔
    isNumeral token = true ∧ (id = numbered token ∨ id = numbered token ++ ['\n']) := by
  refine ⟨eq_of_token?, ?_⟩
  rintro ⟨hnum, rfl | rfl⟩
  · exact token?_numbered hnum
  · exact token?_numbered_append hnum (.inr rfl)

theorem isNumbered_iff : isNumbered id = true ↔
    ∃ t, isNumeral t = true ∧ (id = numbered t ∨ id = numbered t ++ ['\n']) := by
  simp only [isNumbered, Option.isSome_iff_exists, token?_eq_some_iff]

/-- A numbered id has its token. -/
theorem token?_eq_some_token (h : isNumbered id = true) : token? id = some (Ident.token id) := by
  obtain ⟨token, htoken⟩ := Option.isSome_iff_exists.1 h
  rw [Ident.token, htoken]
  rfl

theorem isNumeral_token (h : isNumbered id = true) : isNumeral (Ident.token id) = true :=
  (eq_of_token? (token?_eq_some_token h)).1

theorem unbroken_numbered (h : Text.Unbroken s) : Text.Unbroken (numbered s) := by
  rw [numbered, Text.unbroken_cons, Text.unbroken_cons]
  exact ⟨by decide, by decide, h⟩

/-- On one line a numbered id is that of a numeral. -/
theorem exists_numeral_of_isNumbered (hid : isNumbered id = true) (hunbroken : Text.Unbroken id) :
    ∃ token, isNumeral token = true ∧ id = numbered token := by
  obtain ⟨token, hnum, heq | heq⟩ := isNumbered_iff.1 hid
  · exact ⟨token, hnum, heq⟩
  · rw [heq, Text.unbroken_append] at hunbroken
    exact absurd (hunbroken.2 '\n' List.mem_cons_self) (by decide)

/-- On one line only numerals have numbered ids. -/
theorem isNumbered_numbered_iff (hs : Text.Unbroken s) :
    isNumbered (numbered s) = true ↔ isNumeral s = true := by
  refine ⟨fun h => ?_, isNumbered_numbered⟩
  obtain ⟨token, hnum, heq⟩ := exists_numeral_of_isNumbered h (unbroken_numbered hs)
  exact numbered_injective heq ▸ hnum

/-! ## Ids with the same token -/

/-- The texts are the same, or become so with one line feed behind one of them. -/
def SameButFeed (s t : Text) : Prop :=
  s = t ∨ t = s ++ ['\n'] ∨ s = t ++ ['\n']

instance (s t : Text) : Decidable (SameButFeed s t) :=
  inferInstanceAs (Decidable (_ ∨ _))

/-- A numbered id that ends in a line feed has the token of what is in front of it. -/
theorem token_append_feed (h : isNumbered (s ++ ['\n']) = true) :
    Ident.token (s ++ ['\n']) = Ident.token s := by
  obtain ⟨t, hnum, heq | heq⟩ := isNumbered_iff.1 h
  · have hfeed : '\n' ∈ numbered t := heq ▸ List.mem_append_right s List.mem_cons_self
    have hunbroken := unbroken_numbered (Text.isNumeral_inked hnum).unbroken
    exact absurd (hunbroken '\n' hfeed) (by decide)
  · rw [heq, Ident.token, token?_numbered_append hnum (.inr rfl),
      List.append_cancel_right heq, token_numbered hnum]
    rfl

/-- Only a line feed at the end is not told apart by the tokens of numbered ids. -/
theorem token_eq_token_iff (hs : isNumbered s = true) (ht : isNumbered t = true) :
    Ident.token s = Ident.token t ↔ SameButFeed s t := by
  constructor
  · intro heq
    obtain ⟨-, hs⟩ := eq_of_token? (token?_eq_some_token hs)
    obtain ⟨-, ht⟩ := eq_of_token? (token?_eq_some_token ht)
    rw [← heq] at ht
    rcases hs with hs | hs <;> rcases ht with ht | ht
    · exact .inl (hs.trans ht.symm)
    · exact .inr (.inl (hs ▸ ht))
    · exact .inr (.inr (ht ▸ hs))
    · exact .inl (hs.trans ht.symm)
  · rintro (rfl | rfl | rfl)
    · rfl
    · exact (token_append_feed ht).symm
    · exact token_append_feed hs

/-- Numbered ids have distinct tokens iff they are distinct and none of them is
    there with a line feed behind it, too. -/
theorem nodup_map_token_iff {ids : List Text} (h : ∀ id ∈ ids, isNumbered id = true) :
    (ids.map Ident.token).Nodup ↔ ids.Nodup ∧ ∀ id ∈ ids, id ++ ['\n'] ∉ ids := by
  constructor
  · intro hnodup
    refine ⟨hnodup.of_map _, fun id hid hfeed => ?_⟩
    have heq := List.inj_on_of_nodup_map hnodup hfeed hid (token_append_feed (h _ hfeed))
    simp at heq
  · rintro ⟨hnodup, hfeed⟩
    refine hnodup.map_on fun s hs t ht heq => ?_
    rcases (token_eq_token_iff (h s hs) (h t ht)).1 heq with rfl | rfl | rfl
    · rfl
    · exact absurd ht (hfeed s hs)
    · exact absurd hs (hfeed t ht)

/-! ## Encoded ids -/

/-- The id of a label is on one line, whatever the label is. -/
theorem unbroken_labelled (label : Text) : Text.Unbroken (labelled label) := by
  have hsymbol : ∀ n < 64, Text.isBreak (Text.Base64.symbol n) = false := by decide
  rw [labelled, Text.unbroken_cons, Text.unbroken_cons]
  refine ⟨by decide, by decide, fun c hc => ?_⟩
  obtain ⟨n, hn, rfl⟩ := Text.Base64.exists_symbol_of_mem_encode _ c hc
  exact hsymbol n hn

/-- The id is made from a token on one line, or from a label. -/
def Made (id : Text) : Prop :=
  (∃ token, Text.Unbroken token ∧ id = numbered token) ∨ ∃ label, id = labelled label

/-- Ids are on one line. -/
theorem Made.unbroken (h : Made id) : Text.Unbroken id := by
  obtain ⟨token, htoken, rfl⟩ | ⟨label, rfl⟩ := h
  · exact unbroken_numbered htoken
  · exact unbroken_labelled label

/-- An encoded id is no numbered one. -/
theorem isNumbered_labelled (label : Text) : isNumbered (labelled label) = false := rfl

/-- Blanks at the ends of a label do not matter. -/
theorem labelled_trim (s : Text) : labelled (Text.trim s) = labelled s := by
  rw [labelled, Text.trim_trim, labelled]

theorem decode?_encode (s : Text) : decode? (Text.Base64.encode (Text.Utf8.encode s)) = some s := by
  rw [decode?, Text.Base64.decode_encode]
  simp [Text.Utf8.decode_encode, Except.toOption]

/-- The label of an encoded id is the one that it was made from, trimmed. -/
theorem label_labelled (s : Text) : label (labelled s) = Text.trim s := by
  have h : label (labelled s) =
      (decode? (Text.Base64.encode (Text.Utf8.encode (Text.trim s)))).getD (labelled s) := rfl
  rw [h, decode?_encode, Option.getD_some]

/-- Labels with the same id are the same but for blanks at their ends. -/
theorem trim_eq_of_labelled_eq (h : labelled s = labelled t) : Text.trim s = Text.trim t := by
  rw [← label_labelled, h, label_labelled]

/-- A whole label has its id, and one with halves has none. -/
theorem labelledRaw_of_isWhole {h : Text.Halves} (hs : h.isWhole s = true) :
    labelledRaw h s = .ok (labelled s) := by
  rw [labelledRaw, Text.Halves.encode, h.isWhole_trim, if_pos hs, labelled]

theorem labelledRaw_of_not_isWhole {h : Text.Halves} (hs : h.isWhole s = false) :
    labelledRaw h s = .error (.unencodable (h.stray (Text.trim s))) := by
  rw [labelledRaw, Text.Halves.encode, h.isWhole_trim, if_neg (Bool.eq_false_iff.1 hs)]

/-- The symbols of an encoded id stand for the bytes of the trimmed label. -/
theorem exists_labelled_eq (s : Text) : ∃ symbols, labelled s = 't' :: '_' :: symbols ∧
    Text.Base64.Represents symbols ((Text.trim s).flatMap String.utf8EncodeChar) := by
  refine ⟨_, rfl, ?_⟩
  rw [← Text.Utf8.encode_eq_flatMap]
  exact Text.Base64.represents_encode _

/-- Encoded ids are a reversible code. The label of such an id is the one that it was
    made from, trimmed; so labels have the same id iff they are the same once they
    are trimmed. The id is a mark and symbols of the alphabet of addresses, which
    stand for the label in UTF-8, and it is no numbered one. -/
theorem labelled_reversible (s t : Text) :
    label (labelled s) = Text.trim s ∧
      (labelled s = labelled t ↔ Text.trim s = Text.trim t) ∧
      (∃ symbols, labelled s = 't' :: '_' :: symbols ∧
        (∀ c ∈ symbols, c ∈ Text.Base64.alphabet) ∧
        Text.Base64.Represents symbols ((Text.trim s).flatMap String.utf8EncodeChar)) ∧
      isNumbered (labelled s) = false := by
  refine ⟨label_labelled s, ⟨trim_eq_of_labelled_eq, fun htrim => ?_⟩, ?_, isNumbered_labelled s⟩
  · rw [← labelled_trim, htrim, labelled_trim]
  · obtain ⟨symbols, heq, h⟩ := exists_labelled_eq s
    exact ⟨symbols, heq, h.mem_alphabet, h⟩

example : labelled " ü?>\t".toList = "t_w7w_Pg".toList ∧
    label "t_w7w_Pg".toList = "ü?>".toList := by decide +kernel

end FlowScript.Ident
