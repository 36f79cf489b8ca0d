import FlowScript.Proofs.Script.Division
import FlowScript.Proofs.Script.NumberedMeaning

/-!
# Lines as they may be spelled

A *route* is what someone means by a line of hops: a target to start from, and legs
that lead from target to target, each with an arrow of some spelling, perhaps a
label between pipes, and blanks wherever there may be some (`Route`). Whatever the
spelling, both notations read the route that is meant (`Route.read_text`).

Segment by segment (`IsSegment`): what stands between two arrows is read as one hop,
and no dash at its end is taken for a part of the arrow behind it. So the arrows of
the line are those that are meant (`ofLine_append_legs`).
-/

namespace FlowScript

open Text (Unbroken inkedTexts inkOf isBlank isDigit trim)

variable {s t : Text}

/-! ## Spellings -/

/-- Blanks within a line, or none. -/
structure Gap where
  /-- The blanks. -/
  text : Text
  /-- They are blanks. -/
  isBlankText : Text.isBlankText text = true
  /-- None of them ends the line. -/
  unbroken : Unbroken text

theorem Gap.blank (gap : Gap) : ∀ c ∈ gap.text, isBlank c = true :=
  List.all_eq_true.1 gap.isBlankText

/-- A target with blanks around it, which may stand wherever a hop leads. -/
structure Stop where
  /-- The blanks in front of the target. -/
  before : Gap
  /-- The target. -/
  target : Text
  /-- The blanks behind the target. -/
  after : Gap
  /-- A hop can lead to it. -/
  isTarget : IsTarget target
  /-- It does not open like a label. -/
  no_pipe : target.head? ≠ some '|'
  /-- It takes no dash from an arrow. -/
  no_dash : target.getLast? ≠ some '-'

/-- The target as it is written. -/
def Stop.text (stop : Stop) : Text :=
  stop.before.text ++ (stop.target ++ stop.after.text)

/-- An edge label between pipes, with blanks in front of the pipes and around the
    label. -/
structure Tag where
  /-- The blanks in front of the pipes. -/
  before : Gap
  /-- The blanks behind the first pipe. -/
  left : Gap
  /-- The label. -/
  label : Text
  /-- The blanks in front of the second pipe. -/
  right : Gap
  /-- The label can be written between pipes. -/
  clean : EdgeLabel.Clean label
  /-- There is a label. -/
  ne_nil : label ≠ []

/-- What is written between the pipes. -/
def Tag.inside (tag : Tag) : Text :=
  tag.left.text ++ (tag.label ++ tag.right.text)

/-- The label as it is written. -/
def Tag.text (tag : Tag) : Text :=
  tag.before.text ++ ('|' :: tag.inside ++ ['|'])

/-- One step of a route: an arrow and the target to which it leads. -/
structure Leg where
  /-- The arrow. -/
  arrow : Arrow.Spelling
  /-- The label of the edge, if it has one. -/
  tag : Option Tag
  /-- The target. -/
  stop : Stop

namespace Leg

/-- The label of the edge; empty if it has none. -/
def label (leg : Leg) : Text :=
  (leg.tag.map Tag.label).getD []

/-- What is written behind the arrow. -/
def segment (leg : Leg) : Text :=
  (leg.tag.map Tag.text).getD [] ++ leg.stop.text

/-- The leg as it is written. -/
def text (leg : Leg) : Text :=
  leg.arrow.text ++ leg.segment

/-- The hop that is meant. -/
def hop (leg : Leg) : Hop :=
  ⟨leg.label, leg.stop.target, none⟩

end Leg

/-- A line of hops as someone means it. -/
structure Route where
  /-- Where it starts. -/
  start : Stop
  /-- The steps that it takes from there. -/
  legs : List Leg
  /-- There is a step. -/
  legs_ne_nil : legs ≠ []

/-- The links from target to target. -/
def Leg.linksFrom (source : Text) : List Leg → List Link
  | [] => []
  | leg :: rest => ⟨source, leg.stop.target, leg.label⟩ :: linksFrom leg.stop.target rest

namespace Route

/-- The line as it is written. -/
def text (r : Route) : Text :=
  r.start.text ++ r.legs.flatMap Leg.text

/-- The targets, in order. -/
def targets (r : Route) : List Text :=
  r.start.target :: r.legs.map fun leg => leg.stop.target

/-- The links that are meant. -/
def links (r : Route) : List Link :=
  Leg.linksFrom r.start.target r.legs

end Route

/-! ## Segments -/

/-- What stands between two arrows and is read as the hop. -/
structure IsSegment (s : Text) (hop : Hop) : Prop where
  /-- It is on one line. -/
  unbroken : Unbroken s
  /-- It has no arrow. -/
  no_arrow : Arrow.occursIn s = false
  /-- It takes no dash from the arrow behind it. -/
  no_dash : s.getLast? ≠ some '-'
  /-- It is read so. -/
  read : Hop.ofSegment s = hop

variable {hop : Hop}

theorem Stop.getLast?_text (stop : Stop) : stop.text.getLast? ≠ some '-' := by
  have hne : stop.target ++ stop.after.text ≠ [] := by simp [stop.isTarget.ne_nil]
  rw [Stop.text, List.getLast?_append_of_ne_nil _ hne]
  intro hlast
  by_cases hnil : stop.after.text = []
  · rw [hnil, List.append_nil] at hlast
    exact stop.no_dash hlast
  · -- The last character is one of the blanks.
    rw [List.getLast?_append_of_ne_nil _ hnil] at hlast
    exact Text.ne_of_isBlank (stop.after.blank _ (List.mem_of_getLast? hlast)) (by decide) rfl

theorem Stop.unbroken_text (stop : Stop) : Unbroken stop.text := by
  rw [Stop.text, Text.unbroken_append, Text.unbroken_append]
  exact ⟨stop.before.unbroken, stop.isTarget.unbroken, stop.after.unbroken⟩

theorem Stop.not_occursIn_text (stop : Stop) : Arrow.occursIn stop.text = false := by
  rw [Stop.text, Arrow.occursIn_append_of_isBlank stop.before.blank,
    Arrow.occursIn_append_right_of_isBlank stop.after.blank, stop.isTarget.no_arrow]

theorem Stop.trim_text (stop : Stop) : trim stop.text = stop.target := by
  rw [Stop.text, Text.trim_append_of_forall stop.before.blank,
    Text.trim_append_right_of_forall stop.after.blank, stop.isTarget.trimmed]

/-- A target is read as it is meant. -/
theorem Stop.isSegment (stop : Stop) : IsSegment stop.text ⟨[], stop.target, none⟩ where
  unbroken := stop.unbroken_text
  no_arrow := stop.not_occursIn_text
  no_dash := stop.getLast?_text
  read := by
    rw [Hop.ofSegment_bare (by rw [stop.trim_text]; exact stop.no_pipe), stop.trim_text]

/-- Between the pipes stands the label, apart from blanks. -/
theorem Tag.trim_inside (tag : Tag) : trim tag.inside = tag.label := by
  rw [inside, Text.trim_append_of_forall tag.left.blank,
    Text.trim_append_right_of_forall tag.right.blank, tag.clean.trimmed]

theorem Tag.not_occursIn_inside (tag : Tag) : Arrow.occursIn tag.inside = false := by
  rw [inside, Arrow.occursIn_append_of_isBlank tag.left.blank,
    Arrow.occursIn_append_right_of_isBlank tag.right.blank, tag.clean.no_arrow]

theorem Tag.no_pipe_inside (tag : Tag) : '|' ∉ tag.inside := by
  have hblank (gap : Gap) : '|' ∉ gap.text := fun hmem =>
    Text.ne_of_isBlank (gap.blank _ hmem) (by decide) rfl
  simp only [inside, List.mem_append, not_or]
  exact ⟨hblank tag.left, tag.clean.no_pipe, hblank tag.right⟩

theorem Tag.unbroken_text (tag : Tag) : Unbroken tag.text := by
  have hpipe : Text.isBreak '|' = false := by decide
  simp only [text, inside, Text.unbroken_append, Text.unbroken_cons]
  exact ⟨tag.before.unbroken, ⟨hpipe, tag.left.unbroken, tag.clean.unbroken, tag.right.unbroken⟩,
    hpipe, Text.unbroken_nil⟩

/-- Blanks around a label with its pipes and a target are trimmed away, and those
    within stay. -/
theorem Tag.trim_text_append (tag : Tag) (stop : Stop) : trim (tag.text ++ stop.text) =
    '|' :: tag.inside ++ '|' :: (stop.before.text ++ stop.target) := by
  have htrimmed :
      Text.Trimmed ('|' :: tag.inside ++ '|' :: (stop.before.text ++ stop.target)) := by
    simpa using (by decide : Text.Trimmed ['|']).append_append stop.isTarget.trimmed (by simp)
      stop.isTarget.ne_nil (tag.inside ++ '|' :: stop.before.text)
  have htext : tag.text ++ stop.text = tag.before.text ++
      (('|' :: tag.inside ++ '|' :: (stop.before.text ++ stop.target)) ++ stop.after.text) := by
    simp [Tag.text, Stop.text]
  rw [htext, Text.trim_append_of_forall tag.before.blank,
    Text.trim_append_right_of_forall stop.after.blank, htrimmed]

/-- So is a target behind a label. -/
theorem Tag.isSegment (tag : Tag) (stop : Stop) :
    IsSegment (tag.text ++ stop.text) ⟨tag.label, stop.target, none⟩ where
  unbroken := Text.unbroken_append.2 ⟨tag.unbroken_text, stop.unbroken_text⟩
  no_arrow := by
    rw [Tag.text, List.append_assoc, List.append_assoc,
      Arrow.occursIn_append_of_isBlank tag.before.blank, List.singleton_append,
      Arrow.occursIn_append_cons (by decide) (by decide) (by decide), Arrow.occursIn_cons,
      tag.not_occursIn_inside, stop.not_occursIn_text]
    rfl
  no_dash := by
    rw [List.getLast?_append_of_ne_nil _ (by simp [Stop.text, stop.isTarget.ne_nil])]
    exact stop.getLast?_text
  read := by
    rw [Hop.ofSegment_labelled (tag.trim_text_append stop) tag.no_pipe_inside, tag.trim_inside,
      Text.trim_append_of_forall stop.before.blank, stop.isTarget.trimmed]

theorem Leg.isSegment (leg : Leg) : IsSegment leg.segment leg.hop := by
  obtain ⟨arrow, tag, stop⟩ := leg
  cases tag with
  | none => exact stop.isSegment
  | some tag => exact tag.isSegment stop

/-! ## Hops and links -/

/-- The hops of a line are those of its segments. -/
theorem ofLine_append_legs (h : IsSegment s hop) (legs : List Leg) :
    Hop.ofLine (s ++ legs.flatMap Leg.text) = hop :: legs.map Leg.hop := by
  have hline {s : Text} {hop : Hop} (h : IsSegment s hop) : Hop.ofLine s = [hop] := by
    rw [Hop.ofLine, Arrow.split_eq_singleton h.no_arrow, List.map_singleton, h.read]
  induction legs generalizing s hop with
  | nil => rw [List.flatMap_nil, List.append_nil, hline h, List.map_nil]
  | cons leg legs ih =>
    rw [List.flatMap_cons, Leg.text, List.append_assoc,
      Hop.ofLine_append_append (leg.arrow.stands h.no_dash), hline h, ih leg.isSegment]
    rfl

theorem ofHops_map_hop (hop : Hop) (legs : List Leg) :
    Link.ofHops (hop :: legs.map Leg.hop) = Leg.linksFrom hop.target legs := by
  induction legs generalizing hop with
  | nil => rfl
  | cons leg legs ih => exact congrArg _ (ih leg.hop)

namespace Route

/-- The hops that are meant. -/
def hops (r : Route) : List Hop :=
  ⟨[], r.start.target, none⟩ :: r.legs.map Leg.hop

theorem ofLine_text (r : Route) : Hop.ofLine r.text = r.hops :=
  ofLine_append_legs r.start.isSegment r.legs

theorem filter_hops (r : Route) : r.hops.filter Hop.hasTarget = r.hops := by
  have hstop (stop : Stop) (label : Text) : Hop.hasTarget ⟨label, stop.target, none⟩ = true :=
    Hop.hasTarget_iff.2 stop.isTarget.ne_nil
  refine List.filter_eq_self.2 ?_
  rw [hops, List.forall_mem_cons, List.forall_mem_map]
  exact ⟨hstop r.start [], fun leg _ => hstop leg.stop leg.label⟩

theorem links_eq (r : Route) : Link.ofHops (r.hops.filter Hop.hasTarget) = r.links := by
  rw [r.filter_hops]
  exact ofHops_map_hop ⟨[], r.start.target, none⟩ r.legs

theorem unbroken_text (r : Route) : Unbroken r.text := by
  refine Text.unbroken_append.2 ⟨r.start.unbroken_text, fun c hc => ?_⟩
  obtain ⟨leg, -, hc⟩ := List.mem_flatMap.1 hc
  rcases List.mem_append.1 hc with hc | hc
  · exact (leg.arrow.stands (s := []) (by simp)).unbroken c hc
  · exact leg.isSegment.unbroken c hc

/-- The line begins with an arrow behind its first target, so there is one in it. -/
theorem exists_text_eq (r : Route) : ∃ arrow after, r.text = r.start.text ++ (arrow ++ after) ∧
    Arrow.Stands r.start.text arrow := by
  obtain ⟨leg, legs, hlegs⟩ := List.exists_cons_of_ne_nil r.legs_ne_nil
  refine ⟨leg.arrow.text, leg.segment ++ legs.flatMap Leg.text, ?_,
    leg.arrow.stands r.start.getLast?_text⟩
  rw [text, hlegs, List.flatMap_cons, Leg.text, List.append_assoc]

theorem occursIn_text (r : Route) : Arrow.occursIn r.text = true := by
  obtain ⟨arrow, after, htext, harrow⟩ := r.exists_text_eq
  rw [htext]
  exact Arrow.occursIn_append_right _ (Arrow.occursIn_of_opens (harrow.opens_append after))

theorem trim_text_ne_nil (r : Route) : trim r.text ≠ [] := by
  obtain ⟨arrow, after, htext, harrow⟩ := r.exists_text_eq
  rw [htext]
  exact harrow.trim_ne_nil _ _

/-- The hops of the line do not change when it is trimmed. -/
theorem ofLine_trim_text (r : Route) : Hop.ofLine (trim r.text) = r.hops := by
  rw [Hop.ofLine_trim, r.ofLine_text]

/-! ## In the chain notation -/

/-- A line of its own is one chain. -/
theorem unwrappedLines_text (r : Route) :
    ∃ i, Wrap.unwrappedLines r.text = [i] ∧ i.text = trim r.text := by
  have htexts : (Wrap.unwrappedLines r.text).map Text.InkedLine.text = [trim r.text] := by
    rw [Wrap.map_text_unwrappedLines, Text.inkedTexts_of_unbroken r.unbroken_text,
      Text.inkOf_singleton_of_ne_nil r.trim_text_ne_nil]
    rfl
  obtain ⟨i, hlines, htext⟩ := List.map_eq_singleton_iff.1 htexts
  exact ⟨i, hlines, htext⟩

/-- The route is a chain without anything wrong in it. -/
theorem read_chain (r : Route) (htwo : ∃ a ∈ r.targets, ∃ b ∈ r.targets, a ≠ b) :
    Chain.read r.text =
      .recognized chainDialect (.labelled r.targets.eraseDups r.links) [] := by
  obtain ⟨i, hlines, hi⟩ := r.unwrappedLines_text
  have hhops : Chain.hops i = r.hops := by
    rw [Chain.hops, hi, r.ofLine_trim_text, r.filter_hops]
  have htargets : r.hops.map Hop.target = r.targets := by
    simp [hops, targets, Leg.hop]
  have hlabels : Chain.labels [i] = r.targets.eraseDups := by
    rw [Chain.labels, List.flatMap_singleton, hhops, htargets]
  have hlinks : Chain.links [i] = r.links := by
    rw [Chain.links, List.flatMap_singleton, hhops, ← r.filter_hops, r.links_eq]
  -- No hop is malformed, and in front of the first target there is no label.
  have hnotes : [i].flatMap Chain.notes = [] := by
    have hcomplaints : r.hops.filterMap Hop.complaint = [] := by simp [hops, Leg.hop]
    rw [List.flatMap_singleton, Chain.notes, hhops, hi, r.ofLine_trim_text, hcomplaints]
    rfl
  rw [Chain.read_eq_recognized_iff, hlines, hlabels, hlinks, hnotes]
  exact ⟨r.occursIn_text, Text.two_le_length_eraseDups_iff.2 htwo, rfl, rfl, rfl⟩

/-! ## In the numbered notation -/

/-- Neither digits nor a point come behind a target. -/
theorem head?_gap_append (gap : Gap) (arrow : Arrow.Spelling) (rest : Text) :
    ∀ c, (gap.text ++ (arrow.text ++ rest)).head? = some c → isDigit c = false ∧ c ≠ '.' := by
  intro c hc
  cases hgap : gap.text with
  | nil =>
    rw [hgap, List.nil_append] at hc
    cases arrow with
    | short =>
      obtain rfl : '→' = c := Option.some.inj hc
      decide
    | dashed n =>
      obtain rfl : '-' = c := Option.some.inj hc
      decide
  | cons b blanks =>
    rw [hgap] at hc
    obtain rfl : b = c := Option.some.inj hc
    have hblank : isBlank b = true := gap.blank b (by simp [hgap])
    refine ⟨Bool.eq_false_iff.2 fun hdigit => ?_, Text.ne_of_isBlank hblank (by decide)⟩
    rw [Text.isBlank_of_isDigit hdigit] at hblank
    cases hblank

/-- The line opens like a definition only if its first target does. -/
theorem not_opensDefinition_trim_text (r : Route)
    (h : ¬Numbered.OpensDefinition r.start.target) : ¬Numbered.OpensDefinition (trim r.text) := by
  intro hopens
  obtain ⟨leg, legs, hlegs⟩ := List.exists_cons_of_ne_nil r.legs_ne_nil
  have hleft : Text.trimLeft r.text = r.start.target ++
      (r.start.after.text ++ (leg.arrow.text ++ (leg.segment ++ legs.flatMap Leg.text))) := by
    rw [text, hlegs, List.flatMap_cons, Leg.text, Stop.text, List.append_assoc, List.append_assoc,
      List.append_assoc, Text.trimLeft, List.dropWhile_append_of_pos r.start.before.blank,
      ← Text.trimLeft, r.start.isTarget.trimmed.trimLeft_append r.start.isTarget.ne_nil]
  -- Blanks at the end of the line make no difference to how it opens.
  obtain ⟨after, htrim, -⟩ := Text.exists_trimLeft_eq r.text
  have hopens := hopens.append after
  rw [← htrim, hleft] at hopens
  exact h (hopens.of_append (head?_gap_append _ _ _))

theorem isConnection_trim_text (r : Route) (h : ¬Numbered.OpensDefinition r.start.target) :
    Numbered.isConnection (trim r.text) = true := by
  rw [Numbered.isConnection, Numbered.definedToken?_eq_none_iff.2
    (r.not_opensDefinition_trim_text h), Arrow.occursIn_trim, r.occursIn_text]
  rfl

/-- Among the lines of a text the line means its links. -/
theorem connectionLinks_lines (r : Route) (h : ¬Numbered.OpensDefinition r.start.target)
    (above below : List Text) : Numbered.connectionLinks (inkOf (above ++ r.text :: below)) =
      Numbered.connectionLinks (inkOf above) ++ r.links ++
        Numbered.connectionLinks (inkOf below) := by
  have hline : Numbered.connectionLinks (inkOf [r.text]) = r.links := by
    rw [Text.inkOf_singleton_of_ne_nil r.trim_text_ne_nil, Numbered.connectionLinks,
      List.filter_cons_of_pos (r.isConnection_trim_text h), List.filter_nil,
      List.flatMap_singleton, r.ofLine_trim_text, r.links_eq]
  rw [Text.inkOf_append, Text.inkOf_cons, Numbered.connectionLinks_append,
    Numbered.connectionLinks_append, hline, List.append_assoc]

/-- Every line of hops is read as it is meant, in whatever way it is spelled: on its
    own as a chain, if two of its targets differ, and among the lines of a text with
    definitions as a connection, unless its first target opens like a definition. -/
theorem read_text (r : Route) :
    ((∃ a ∈ r.targets, ∃ b ∈ r.targets, a ≠ b) →
      Chain.read r.text =
        .recognized chainDialect (.labelled r.targets.eraseDups r.links) []) ∧
    ∀ (s : Text) (above below : List Text), Text.lines s = above ++ r.text :: below →
      (∃ line ∈ inkedTexts s, Numbered.OpensDefinition line) →
      ¬Numbered.OpensDefinition r.start.target →
        ∃ nodes notes, Numbered.read s = .recognized numberedDialect
          (.numbered nodes (Numbered.connectionLinks (inkOf above) ++ r.links ++
            Numbered.connectionLinks (inkOf below))) notes := by
  refine ⟨r.read_chain, fun s above below hlines hs h => ?_⟩
  obtain ⟨dialect, sketch, notes, hread⟩ := Numbered.read_recognized_iff.2 hs
  obtain ⟨-, rfl, rfl, -⟩ := Numbered.read_eq_recognized_iff.1 hread
  refine ⟨(Numbered.draft s).nodes, notes, ?_⟩
  rw [hread, (Numbered.follows_draft s).links, Text.inkedTexts_eq_inkOf, hlines,
    r.connectionLinks_lines h]

/-- A route with arrows of each spelling, and with blanks and labels in some places. -/
def mixed : Route where
  start := ⟨⟨" ".toList, by decide, by decide⟩, "3".toList, ⟨"\t".toList, by decide, by decide⟩,
    ⟨⟨by decide, by decide, by decide⟩, by decide⟩, by decide, by decide⟩
  legs := [
    { arrow := .dashed 2
      tag := some ⟨⟨" ".toList, by decide, by decide⟩, ⟨"  ".toList, by decide, by decide⟩,
        "a, b".toList, ⟨" ".toList, by decide, by decide⟩,
        ⟨by decide, by decide, by decide, by decide⟩, by decide⟩
      stop := ⟨⟨[], by decide, by decide⟩, "4.".toList, ⟨" ".toList, by decide, by decide⟩,
        ⟨⟨by decide, by decide, by decide⟩, by decide⟩, by decide, by decide⟩ },
    { arrow := .short
      tag := none
      stop := ⟨⟨[], by decide, by decide⟩, "3".toList, ⟨[], by decide, by decide⟩,
        ⟨⟨by decide, by decide, by decide⟩, by decide⟩, by decide, by decide⟩ },
    { arrow := .dashed 0
      tag := some ⟨⟨[], by decide, by decide⟩, ⟨[], by decide, by decide⟩, "c".toList,
        ⟨[], by decide, by decide⟩, ⟨by decide, by decide, by decide, by decide⟩, by decide⟩
      stop := ⟨⟨" ".toList, by decide, by decide⟩, "x|y".toList, ⟨" ".toList, by decide, by decide⟩,
        ⟨⟨by decide, by decide, by decide⟩, by decide⟩, by decide, by decide⟩ }]
  legs_ne_nil := by decide

/-- For instance the route `mixed`, on its own and among definitions. -/
theorem read_text_mixed :
    mixed.text = " 3\t---> |  a, b |4. →3->|c| x|y ".toList ∧
    Chain.read mixed.text = .recognized chainDialect
      (.labelled ["3".toList, "4.".toList, "x|y".toList]
        [⟨"3".toList, "4.".toList, "a, b".toList⟩, ⟨"4.".toList, "3".toList, []⟩,
          ⟨"3".toList, "x|y".toList, "c".toList⟩]) [] ∧
    ∃ nodes notes, Numbered.read ("4->4\n".toList ++ mixed.text ++ "\r\n3. A".toList) =
      .recognized numberedDialect (.numbered nodes
        [⟨"4".toList, "4".toList, []⟩, ⟨"3".toList, "4.".toList, "a, b".toList⟩,
          ⟨"4.".toList, "3".toList, []⟩, ⟨"3".toList, "x|y".toList, "c".toList⟩]) notes := by
  obtain ⟨hchain, hnumbered⟩ := read_text mixed
  refine ⟨by decide, hchain ⟨"3".toList, by decide, "4.".toList, by decide, by decide⟩, ?_⟩
  exact hnumbered _ ["4->4".toList] ["3. A".toList] (by decide +kernel)
    ⟨"3. A".toList, by decide +kernel, by decide⟩ (by decide)

end Route

end FlowScript
