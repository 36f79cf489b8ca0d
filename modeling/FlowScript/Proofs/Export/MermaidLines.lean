import FlowScript.Chart.Write
import FlowScript.Export.Mermaid
import FlowScript.Proofs.Chart.Build
import FlowScript.Proofs.Chart.Write

/-!
# What a Mermaid flowchart says of its chart

A flowchart has a line for each node and for each edge, behind one that names the
direction. Labels are free text, and an edge label may look like an arrow and a node
or like another edge. Still the lines can be told apart and taken apart: the name at
the front is followed by a bracket on the line of a node and by a blank on that of an
edge, the last word on the line of an edge is the name of its target, and what stands
between the two names is the arrow, with the label in it (`readLine`).

So the *drawing* of a chart, that is, the labels of its nodes and its edges between
places, is read from the flowchart (`exists_write`), and charts that are drawn
differently are written differently (`write_determines`).
-/

namespace FlowScript

open Text (ofNat)

/-- A node that is added has a label. -/
def Addition.isLabelled : Addition → Bool
  | .node n => n.label.isSome
  | .edge _ => true

namespace Mermaid

/-! ## Drawings -/

/-- What a flowchart shows. -/
structure Drawing where
  /-- The labels of the nodes, in order. -/
  labels : List Text
  /-- The edges, in order: the places of the nodes where they start and end, and
      their labels. -/
  edges : List (Nat × Nat × Text)
  deriving DecidableEq

/-- The drawing of a chart. -/
def drawing (c : Chart) : Drawing where
  labels := c.nodes.map fun n => sanitize n.caption
  edges := c.edges.map fun e =>
    (c.nodeIds.idxOf e.source, c.nodeIds.idxOf e.target, sanitize e.caption)

/-! ## The reader -/

/-- What a line shows. -/
inductive Item where
  /-- A node with its label. -/
  | node (label : Text)
  /-- An edge between the nodes at two places. -/
  | edge (source target : Nat) (label : Text)

/-- The label of a node. -/
def Item.label? : Item → Option Text
  | node label => some label
  | edge .. => none

/-- The ends and the label of an edge. -/
def Item.edge? : Item → Option (Nat × Nat × Text)
  | node _ => none
  | edge source target label => some (source, target, label)

/-- A character inside a name. -/
def isNameChar (c : Char) : Bool :=
  c != ' ' && c != '['

/-- The place that a name stands for. -/
def placeOf (name : Text) : Nat :=
  Text.numeralValue (name.drop 1)

/-- The label in an arrow; empty if the arrow has none. -/
def labelIn (arrow : Text) : Text :=
  match Text.after? "-- ".toList arrow with
  | some rest => rest.take (rest.length - 4)
  | none => []

/-- What a line shows, if it is that of a node or an edge. -/
def readLine (line : Text) : Option Item :=
  let name := (line.drop 4).takeWhile isNameChar
  match (line.drop 4).dropWhile isNameChar with
  | '[' :: '"' :: rest => some (.node (rest.take (rest.length - 2)))
  | ' ' :: rest => (Text.cutLast? ' ' rest).map fun (arrow, target) =>
      .edge (placeOf name) (placeOf target) (labelIn arrow)
  | _ => none

/-- The drawing that a flowchart shows. -/
def read (s : Text) : Drawing :=
  let items := (s.splitOn '\n').tail.filterMap readLine
  ⟨items.filterMap Item.label?, items.filterMap Item.edge?⟩

variable {c : Chart} {direction label name rest : Text} {d : Char} {nodes : List Node} {place : Nat}

/-! ## Labels -/

/-- A character that delimits labels, or ends a line. -/
def isDelimiter (c : Char) : Bool :=
  c ∈ ['"', '(', ')', '|', '\n']

/-- A label has no delimiters once it has been written by codes. -/
theorem isDelimiter_of_mem_sanitize (h : d ∈ sanitize label) : isDelimiter d = false := by
  obtain ⟨e, -, he⟩ := List.mem_flatMap.1 h
  have hcodes : ∀ code ∈ ["#quot;".toList, "#40;".toList, "#41;".toList, "#124;".toList,
      "<br/>".toList], ∀ d ∈ code, isDelimiter d = false := by
    simp [isDelimiter]
  simp only [List.forall_mem_cons] at hcodes
  rw [sanitizeChar] at he
  -- One case for each character that has a code, and one for all others.
  split at he
  · exact hcodes.1 d he
  · split at he
    · exact hcodes.2.1 d he
    · split at he
      · exact hcodes.2.2.1 d he
      · split at he
        · exact hcodes.2.2.2.1 d he
        · split at he
          · exact hcodes.2.2.2.2.1 d he
          · rw [List.mem_singleton.1 he]
            simp [isDelimiter, *]

theorem feed_not_mem_sanitize : '\n' ∉ sanitize label :=
  fun h => absurd (isDelimiter_of_mem_sanitize h) (by decide)

/-! ## Names -/

theorem placeOf_nameAt (place : Nat) : placeOf (nameAt place) = place :=
  Text.numeralValue_ofNat place

theorem not_mem_nameAt (hd : Text.isDigit d = false) (hN : d ≠ 'N') : d ∉ nameAt place := by
  rw [nameAt, List.mem_cons, not_or]
  exact ⟨hN, Text.not_mem_of_isNumeral (Text.isNumeral_ofNat place) hd⟩

theorem isNameChar_of_mem_nameAt (h : d ∈ nameAt place) : isNameChar d = true := by
  have hblank : d ≠ ' ' := by
    rintro rfl
    exact not_mem_nameAt (by decide) (by decide) h
  have hbracket : d ≠ '[' := by
    rintro rfl
    exact not_mem_nameAt (by decide) (by decide) h
  simp [isNameChar, hblank, hbracket]

/-- A name at the front is read up to a character that cannot belong to it. -/
theorem span_nameAt (place : Nat) (hd : isNameChar d = false) (rest : Text) :
    (nameAt place ++ d :: rest).takeWhile isNameChar = nameAt place ∧
      (nameAt place ++ d :: rest).dropWhile isNameChar = d :: rest := by
  have hname : ∀ e ∈ nameAt place, isNameChar e = true := fun e he => isNameChar_of_mem_nameAt he
  have hstop : ¬isNameChar d = true := Bool.eq_false_iff.1 hd
  rw [List.takeWhile_append_of_pos hname, List.dropWhile_append_of_pos hname,
    List.takeWhile_cons_of_neg hstop, List.dropWhile_cons_of_neg hstop, List.append_nil]
  exact ⟨rfl, rfl⟩

/-! ## Lines -/

theorem labelIn_plain : labelIn "-->".toList = [] := by
  decide

theorem labelIn_labelled (label : Text) :
    labelIn ("-- ".toList ++ label ++ " -->".toList) = label := by
  rw [labelIn, List.append_assoc, Text.after?_append]
  simp

theorem nodeLine_eq (place : Nat) (label : Text) : nodeLine place label =
    "    ".toList ++ nameAt place ++ "[\"".toList ++ sanitize label ++ "\"]".toList := rfl

theorem edgeLine_nil (source target : Text) : edgeLine source target [] =
    "    ".toList ++ source ++ " --> ".toList ++ target := rfl

theorem edgeLine_cons (source target : Text) (d : Char) (label : Text) :
    edgeLine source target (d :: label) = "    ".toList ++ source ++
      (" -- ".toList ++ sanitize (d :: label) ++ " --> ".toList) ++ target := rfl

/-- The line of a node shows it. -/
theorem readLine_nodeLine (place : Nat) (label : Text) :
    readLine (nodeLine place label) = some (.node (sanitize label)) := by
  have hline : (nodeLine place label).drop 4 =
      nameAt place ++ '[' :: '"' :: (sanitize label ++ "\"]".toList) := by
    rw [nodeLine_eq]
    simp
  obtain ⟨-, hdrop⟩ := span_nameAt place (d := '[') (by decide)
    ('"' :: (sanitize label ++ "\"]".toList))
  rw [readLine, hline, hdrop]
  simp

/-- The line of an edge shows it, whatever its label looks like. -/
theorem readLine_edgeLine (i j : Nat) (label : Text) :
    readLine (edgeLine (nameAt i) (nameAt j) label) = some (.edge i j (sanitize label)) := by
  -- Between the names stand a blank, the arrow and another blank.
  have hline : ∃ arrow, (edgeLine (nameAt i) (nameAt j) label).drop 4 =
      nameAt i ++ ' ' :: (arrow ++ ' ' :: nameAt j) ∧ labelIn arrow = sanitize label := by
    cases label with
    | nil => exact ⟨"-->".toList, by rw [edgeLine_nil]; simp, labelIn_plain⟩
    | cons d rest =>
      exact ⟨"-- ".toList ++ sanitize (d :: rest) ++ " -->".toList,
        by rw [edgeLine_cons]; simp, labelIn_labelled _⟩
  obtain ⟨arrow, hline, hlabel⟩ := hline
  obtain ⟨htake, hdrop⟩ := span_nameAt i (d := ' ') (by decide)
    (arrow ++ ' ' :: nameAt j)
  have hblank : ' ' ∉ nameAt j := not_mem_nameAt (by decide) (by decide)
  rw [readLine, hline, hdrop, htake]
  simp only [Text.cutLast?_append hblank, Option.map_some, placeOf_nameAt, hlabel]

theorem feed_not_mem_nodeLine : '\n' ∉ nodeLine place label := by
  have hname : '\n' ∉ nameAt place := not_mem_nameAt (by decide) (by decide)
  rw [nodeLine_eq]
  simp [hname, feed_not_mem_sanitize]

theorem feed_not_mem_edgeLine (i j : Nat) (label : Text) :
    '\n' ∉ edgeLine (nameAt i) (nameAt j) label := by
  have hi : '\n' ∉ nameAt i := not_mem_nameAt (by decide) (by decide)
  have hj : '\n' ∉ nameAt j := not_mem_nameAt (by decide) (by decide)
  cases label with
  | nil =>
    rw [edgeLine_nil]
    simp [hi, hj]
  | cons d rest =>
    rw [edgeLine_cons]
    simp [hi, hj, feed_not_mem_sanitize]

/-! ## Flowcharts -/

theorem nodeLines_eq_ok (h : ∀ n ∈ nodes, n.label.isSome = true) (place : Nat) :
    nodeLines place nodes = .ok (nodes.mapIdx fun i n => nodeLine (place + i) n.caption) := by
  induction nodes generalizing place with
  | nil => rfl
  | cons n nodes ih =>
    rw [List.forall_mem_cons] at h
    obtain ⟨label, hlabel⟩ := Option.isSome_iff_exists.1 h.1
    have hcaption : n.caption = label := by rw [Node.caption, hlabel, Option.getD_some]
    rw [nodeLines, hlabel]
    simp only [ih h.2, Except.map, List.mapIdx_cons, hcaption, Nat.add_zero, Nat.add_assoc,
      Nat.add_comm 1]

/-- The lines of a flowchart. -/
def lines (c : Chart) (direction : Text) : List Text :=
  ("graph ".toList ++ direction) :: ((c.nodes.mapIdx fun i n => nodeLine i n.caption) ++
    c.edges.map fun e => edgeLine (nameOf c e.source) (nameOf c e.target) e.caption)

/-- A chart whose nodes have labels is written line by line. -/
theorem write_eq_ok (h : ∀ n ∈ c.nodes, n.label.isSome = true) (direction : Text) :
    write c direction = .ok (Text.join ['\n'] (lines c direction)) := by
  rw [write, nodeLines_eq_ok h]
  simp only [Nat.zero_add]
  rfl

theorem length_lines (c : Chart) (direction : Text) :
    (lines c direction).length = 1 + c.nodes.length + c.edges.length := by
  simp only [lines, List.length_cons, List.length_append, List.length_mapIdx, List.length_map]
  omega

/-- None of the lines has a line feed in it. -/
theorem splitOn_join_lines (hd : '\n' ∉ direction) :
    (Text.join ['\n'] (lines c direction)).splitOn '\n' = lines c direction := by
  refine List.splitOn_intercalate '\n' (fun l hl => ?_) (List.cons_ne_nil _ _)
  rcases List.mem_cons.1 hl with rfl | hl
  · simp [hd]
  · rcases List.mem_append.1 hl with hl | hl
    · obtain ⟨i, hi, rfl⟩ := List.mem_mapIdx.1 hl
      exact feed_not_mem_nodeLine
    · obtain ⟨e, -, rfl⟩ := List.mem_map.1 hl
      exact feed_not_mem_edgeLine _ _ _

/-- The lines of nodes show the nodes, wherever these are. -/
theorem filterMap_readLine_nodes (nodes : List Node) :
    (nodes.mapIdx fun i n => nodeLine i n.caption).filterMap readLine =
      nodes.map fun n => Item.node (sanitize n.caption) := by
  have hread : (readLine ∘ fun p : Node × Nat => nodeLine p.2 p.1.caption) =
      some ∘ (fun n : Node => Item.node (sanitize n.caption)) ∘ Prod.fst :=
    funext fun p => readLine_nodeLine _ _
  rw [List.mapIdx_eq_zipIdx_map, List.filterMap_map, hread, List.filterMap_eq_map,
    ← List.map_map, List.zipIdx_map_fst]

/-- The lines of edges show the edges. -/
theorem filterMap_readLine_edges (c : Chart) :
    (c.edges.map fun e => edgeLine (nameOf c e.source) (nameOf c e.target) e.caption).filterMap
      readLine = (drawing c).edges.map fun e => Item.edge e.1 e.2.1 e.2.2 := by
  have hread : (readLine ∘ fun e : Edge =>
      edgeLine (nameOf c e.source) (nameOf c e.target) e.caption) = some ∘ fun e : Edge =>
        Item.edge (c.nodeIds.idxOf e.source) (c.nodeIds.idxOf e.target) (sanitize e.caption) :=
    funext fun e => readLine_edgeLine _ _ _
  rw [List.filterMap_map, hread, List.filterMap_eq_map, drawing, List.map_map]
  rfl

/-- The lines of a chart show its drawing. -/
theorem read_join_lines (hd : '\n' ∉ direction) :
    read (Text.join ['\n'] (lines c direction)) = drawing c := by
  have hlabels : Item.label? ∘ (fun n : Node => Item.node (sanitize n.caption)) =
      some ∘ fun n => sanitize n.caption := rfl
  have hnone : Item.label? ∘ (fun e : Nat × Nat × Text => Item.edge e.1 e.2.1 e.2.2) =
      fun _ => none := rfl
  have hedges : Item.edge? ∘ (fun e : Nat × Nat × Text => Item.edge e.1 e.2.1 e.2.2) = some := rfl
  have hnone' : Item.edge? ∘ (fun n : Node => Item.node (sanitize n.caption)) =
      fun _ => none := rfl
  rw [read, splitOn_join_lines hd, lines, List.tail_cons, List.filterMap_append,
    filterMap_readLine_nodes, filterMap_readLine_edges]
  simp only [List.filterMap_append, List.filterMap_map, hlabels, hnone, hedges, hnone',
    List.filterMap_eq_map, List.filterMap_none, List.filterMap_some, List.append_nil,
    List.nil_append]
  rfl

end Mermaid

namespace Chart

variable {c : Chart} {additions : List Addition}

/-- An addition of a node with a label, or of an edge, keeps all nodes labelled. -/
theorem isSome_label_write (hc : ∀ n ∈ c.nodes, n.label.isSome = true) {a : Addition}
    (h : a.isLabelled = true) : ∀ n ∈ (a.write.perform c).2.nodes, n.label.isSome = true := by
  cases a with
  | node n =>
    rw [Addition.write, Write.perform_bind, Write.perform_node]
    cases hadd : c.addNode n with
    | error _ => exact hc
    | ok c' =>
      obtain ⟨-, rfl⟩ := of_addNode hadd
      exact List.forall_mem_append.2 ⟨hc, List.forall_mem_singleton.2 h⟩
  | edge e =>
    -- An edge leaves the nodes alone.
    have hedge {e : NewEdge} {c' : Chart} {added : Edge} (hadd : c.addEdge e = .ok (c', added)) :
        ∀ n ∈ c'.nodes, n.label.isSome = true := by
      obtain ⟨-, ⟨id, -, -, -, rfl⟩ | ⟨-, -, rfl⟩⟩ := of_addEdge hadd
      · exact hc
      · exact hc
    rw [Addition.write, Write.perform_bind, Write.perform_edge]
    cases hadd : c.addEdge e with
    | error _ => exact hc
    | ok outcome => exact hedge hadd

theorem isSome_label_addAll (hc : ∀ n ∈ c.nodes, n.label.isSome = true)
    (h : ∀ a ∈ additions, a.isLabelled = true) :
    ∀ n ∈ (c.addAll additions).nodes, n.label.isSome = true := by
  induction additions generalizing c with
  | nil => exact hc
  | cons a rest ih =>
    rw [List.forall_mem_cons] at h
    exact ih (isSome_label_write hc h.1) h.2

end Chart

namespace Mermaid

/-- The flowchart of a chart whose nodes have labels can be written, line by line, and
    its drawing can be read from it. -/
theorem exists_write {c : Chart} {direction : Text} (h : ∀ n ∈ c.nodes, n.label.isSome = true)
    (hd : '\n' ∉ direction) : ∃ s, write c direction = .ok s ∧
      (s.splitOn '\n').length = 1 + c.nodes.length + c.edges.length ∧ read s = drawing c :=
  ⟨_, write_eq_ok h direction, by rw [splitOn_join_lines hd, length_lines], read_join_lines hd⟩

/-- A flowchart determines the drawing of its chart.

    After any history of additions to a new chart, of nodes with labels and of any
    edges, the chart can be written in every direction, on one line for the direction
    and one for each node and each edge. Another such chart that is written alike has as
    many nodes, the same labels and the same edges between the same places, where the
    place of an end is that of the node with its id. In labels nothing is left
    that delimits them. -/
theorem write_determines (name : Option Text) (metadata : Metadata) (additions : List Addition)
    (h : ∀ a ∈ additions, a.isLabelled = true) (direction : Text) (hd : '\n' ∉ direction) :
    let c := Chart.addAll { name, metadata } additions
    (∃ s, write c direction = .ok s ∧
      (s.splitOn '\n').length = 1 + c.nodes.length + c.edges.length) ∧
    (∀ (name' : Option Text) (metadata' : Metadata) (additions' : List Addition),
      (∀ a ∈ additions', a.isLabelled = true) →
      let c' := Chart.addAll { name := name', metadata := metadata' } additions'
      write c direction = write c' direction →
        c.nodes.length = c'.nodes.length ∧ drawing c = drawing c') ∧
    (∀ e ∈ c.edges, ∀ id ∈ [e.source, e.target],
      c.nodeIds.Nodup ∧ c.nodeIds[c.nodeIds.idxOf id]? = some id) ∧
    ∀ (label : Text), ∀ d ∈ sanitize label, d ∉ ['"', '(', ')', '|', '\n'] := by
  intro c
  have hlabels := Chart.isSome_label_addAll (c := { name, metadata }) (fun _ hn => nomatch hn) h
  obtain ⟨s, hs, hlength, hread⟩ := exists_write hlabels hd
  refine ⟨⟨s, hs, hlength⟩, fun name' metadata' additions' h' => ?_,
    fun e he id hid => ?_, fun label d hmem => ?_⟩
  · intro c' heq
    have hlabels' := Chart.isSome_label_addAll (c := { name := name', metadata := metadata' })
      (fun _ hn => nomatch hn) h'
    obtain ⟨s', hs', -, hread'⟩ := exists_write hlabels' hd
    obtain rfl : s = s' := Except.ok.inj (hs.symm.trans (heq.trans hs'))
    have hdrawing : drawing c = drawing c' := hread.symm.trans hread'
    have hlabels := congrArg (fun d => d.labels.length) hdrawing
    simp only [drawing, List.length_map] at hlabels
    exact ⟨hlabels, hdrawing⟩
  · have hstored : c.Stored := (Chart.stored_new name metadata).addAll additions
    obtain ⟨hsource, htarget⟩ := hstored.ends e he
    simp only [List.mem_cons, List.not_mem_nil, or_false] at hid
    rcases hid with rfl | rfl
    · exact ⟨hstored.nodup, List.getElem?_idxOf hsource⟩
    · exact ⟨hstored.nodup, List.getElem?_idxOf htarget⟩
  · have hclean := isDelimiter_of_mem_sanitize hmem
    simpa [isDelimiter] using hclean

/-- A label that ends like an arrow to another node is not taken for one. -/
theorem write_determines_with_arrow_in_label :
    let nodes : List Addition :=
      [.node { id := ['a'], label := some ['A'] }, .node { id := ['b'], label := some ['B'] }]
    let looped := Chart.addAll { name := none }
      (nodes ++ [.edge { source := ['a'], target := ['a'], label := "x --> N1 -- y".toList }])
    let linked := Chart.addAll { name := none }
      (nodes ++ [.edge { source := ['a'], target := ['b'], label := "x --> N0 -- y".toList }])
    (∃ s, write looped downward = .ok s ∧ (s.splitOn '\n').length = 4) ∧
      write looped downward ≠ write linked downward := by
  intro nodes looped linked
  obtain ⟨⟨s, hs, hlength⟩, hdetermines, -⟩ := write_determines none .none
    (nodes ++ [.edge { source := ['a'], target := ['a'], label := "x --> N1 -- y".toList }])
    (by decide) downward (by decide)
  refine ⟨⟨s, hs, hlength⟩, fun heq => ?_⟩
  obtain ⟨-, hdrawing⟩ := hdetermines none .none
    (nodes ++ [.edge { source := ['a'], target := ['b'], label := "x --> N0 -- y".toList }])
    (by decide) heq
  exact absurd hdrawing (by decide +kernel)

end Mermaid

end FlowScript
