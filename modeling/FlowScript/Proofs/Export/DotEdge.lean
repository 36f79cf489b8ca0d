import FlowScript.Proofs.Document.Lockstep
import FlowScript.Proofs.Document.Reached
import FlowScript.Proofs.Export.DotName

/-!
# The edges of a chart in DOT

The statement of a node gives its name, that of an edge the names of its ends.
An end may have a port and a compass point, each behind a colon, and the program
writes ends so that a colon in an id counts as one, while it puts the whole id of
a node between quotes. An id is *plain* if it is closed and has no colon.

Every statement is read from its own start, up to the names it begins with. Where it
ends is not asked, and that depends on its label: the label `<<>` opens a markup that
never closes, and a label that ends with a backslash leaves its quotes open. Either
swallows the statements behind it.

* `readStatement_edgeStatement_iff`: the statement of an edge is read as one
  between its ends iff both are plain;
* `edges_read_iff`: in a document that has been built, these are the edges that join
  nodes of the digraph, and an id that is not plain is that of a token that is no
  numeral.
-/

namespace FlowScript

namespace Dot

/-! ## The reader -/

/-- What a statement says. -/
inductive Statement where
  /-- There is a node. -/
  | node (id : Text)
  /-- There is an edge between two nodes. -/
  | edge (source target : Text)
  deriving DecidableEq

/-- The text behind a colon and a name, or behind the blanks if there is no colon. -/
def skipPort (s : Text) : Option Text :=
  match skipSpace s with
  | ':' :: rest => (readName rest).map Prod.snd
  | rest => some rest

/-- The node at the front of a text, and what follows it and its port and compass
    point. -/
def readEnd (s : Text) : Option (Text × Text) := do
  let (node, rest) ← readName s
  let rest ← skipPort rest
  let rest ← skipPort rest
  return (node, rest)

/-- What the statement at the front of a text says, if it is that of a node or an
    edge and no assignment. -/
def readStatement (s : Text) : Option Statement := do
  let (source, rest) ← readEnd s
  match skipSpace rest with
  | '-' :: '>' :: rest =>
    let (target, _) ← readEnd rest
    return .edge source target
  | '=' :: _ => none
  | _ => return .node source

/-! ## Ends of edges -/

/-- The name is written in the same way for a node and for an end of an edge, and it
    is read as it was written. -/
structure Plain (id : Text) : Prop where
  /-- No backslash hides a quote. -/
  closed : isClosed id = true
  /-- No colon divides it. -/
  undivided : ':' ∉ id

instance (id : Text) : Decidable (Plain id) :=
  decidable_of_iff (isClosed id = true ∧ ':' ∉ id)
    ⟨fun ⟨hclosed, hcolon⟩ => ⟨hclosed, hcolon⟩, fun h => ⟨h.closed, h.undivided⟩⟩

variable {c : Char} {s t r rest id label : Text} {e : Edge} {n : Node}

theorem quoteEnd_of_not_mem (h : ':' ∉ s) : quoteEnd s = quote s := by
  have hcut : Text.cut? ':' s = none := by
    rw [Option.eq_none_iff_forall_ne_some]
    rintro ⟨before, after⟩ hcut
    exact h ((Text.eq_append_of_cut? hcut).1 ▸ by simp)
  simp [quoteEnd, hcut]

/-- In front of a first colon stands the node, and nothing else is written in front
    of another colon. -/
theorem exists_quoteEnd_of_mem (h : ':' ∈ s) : ∃ node after more, s = node ++ ':' :: after ∧
    ':' ∉ node ∧ quoteEnd s = quote node ++ more ∧ ∀ c, more.head? = some c → c = ':' := by
  obtain ⟨node, after, rfl, hnode⟩ := List.eq_append_cons_of_mem h
  have hcut : Text.cut? ':' (node ++ ':' :: after) = some (node, after) := Text.cut?_append hnode
  simp only [quoteEnd, hcut, Option.getD_some]
  split
  · exact ⟨node, after, [], rfl, hnode, (List.append_nil _).symm, fun _ h => nomatch h⟩
  · exact ⟨node, after, _, rfl, hnode, rfl, fun c h => (Option.some.inj h).symm⟩

/-! ## Reading what is written -/

theorem skipSpace_cons (hc : isSpace c = true) : skipSpace (c :: s) = skipSpace s :=
  List.dropWhile_cons_of_pos hc

theorem skipSpace_cons_of_not (hc : isSpace c = false) : skipSpace (c :: s) = c :: s :=
  List.dropWhile_cons_of_neg (by simp [hc])

theorem skipPort_eq_some (h : skipSpace s = c :: rest) (hc : c ≠ ':') :
    skipPort s = some (c :: rest) := by
  rw [skipPort, h]
  split
  · next heq => exact absurd (List.cons.inj heq).1 hc
  · rfl

theorem readEnd_cons (hc : isSpace c = true) : readEnd (c :: s) = readEnd s := by
  rw [readEnd, readName, skipSpace_cons hc, ← readName, ← readEnd]

/-- A name that a sign follows, behind a blank, is all of an end. -/
theorem readEnd_eq_some (hname : readName s = some (t, ' ' :: c :: rest))
    (hc : isSpace c = false) (hcolon : c ≠ ':') : readEnd s = some (t, c :: rest) := by
  have hskip : skipSpace (' ' :: c :: rest) = c :: rest :=
    (skipSpace_cons (by decide)).trans (skipSpace_cons_of_not hc)
  simp only [readEnd, hname, Option.bind_eq_bind, Option.bind_some, skipPort_eq_some hskip hcolon,
    skipPort_eq_some (skipSpace_cons_of_not hc) hcolon, Option.pure_def]

theorem exists_readName_of_readEnd (h : readEnd s = some (t, r)) :
    ∃ rest, readName s = some (t, rest) := by
  rw [readEnd] at h
  simp only [Option.bind_eq_bind, Option.bind_eq_some_iff, Option.pure_def, Option.some.injEq,
    Prod.mk.injEq] at h
  obtain ⟨⟨name, rest⟩, hname, -, -, -, -, rfl, -⟩ := h
  exact ⟨rest, hname⟩

/-- A plain end is read as it was written. -/
theorem readEnd_quoteEnd (h : IsName s) (hplain : Plain s) (hc : isSpace c = false)
    (hcolon : c ≠ ':') : readEnd (quoteEnd s ++ ' ' :: c :: rest) = some (s, c :: rest) := by
  rw [quoteEnd_of_not_mem hplain.undivided]
  refine readEnd_eq_some (readName_quote h hplain.closed fun d hd => ?_) hc hcolon
  rw [← Option.some.inj hd]
  decide

/-- An end that is read as it was written is plain. -/
theorem plain_of_readEnd (h : IsName s)
    (hread : readEnd (quoteEnd s ++ ' ' :: rest) = some (s, r)) : Plain s := by
  obtain ⟨after, hname⟩ := exists_readName_of_readEnd hread
  by_cases hcolon : ':' ∈ s
  · -- Only what stands in front of the colon can be read, but that is not all.
    exfalso
    obtain ⟨node, port, more, rfl, -, hquote, hmore⟩ := exists_quoteEnd_of_mem hcolon
    have hnode : IsName node := h.of_append (by decide)
    rw [hquote, List.append_assoc] at hname
    have hclosed := isClosed_of_readName_quote hnode hname (List.prefix_append _ _)
    have hstop : ∀ c, (more ++ ' ' :: rest).head? = some c → isNameChar c = false := by
      intro c hc
      cases more with
      | nil => rw [← Option.some.inj hc]; decide
      | cons d more => rw [hmore c hc]; decide
    rw [readName_quote hnode hclosed hstop] at hname
    have hlen := congrArg (fun read => (read.map fun p => p.1.length)) hname
    simp at hlen
  · rw [quoteEnd_of_not_mem hcolon] at hname
    exact ⟨isClosed_of_readName_quote h hname List.prefix_rfl, hcolon⟩

/-! ## Statements -/

/-- The statement of a node that is not pinned. -/
def declaration (n : Node) : Text :=
  '\t' :: (quote n.id ++ " [label=".toList ++ quote (Text.replace '\n' ['\\', 'n'] n.caption)
    ++ ' ' :: "shape=box]\n".toList)

theorem nodeStatement_eq_ok (h : n.label = some label) :
    nodeStatement false n = .ok (declaration n) := by
  simp only [nodeStatement, h, declaration, Node.caption]
  rfl

/-- All nodes with labels have statements. -/
theorem mapM_nodeStatement {nodes : List Node} (h : ∀ n ∈ nodes, n.label = some n.caption) :
    nodes.mapM (nodeStatement false) = .ok (nodes.map declaration) := by
  induction nodes with
  | nil => rfl
  | cons n nodes ih =>
    rw [List.forall_mem_cons] at h
    rw [List.mapM_cons, nodeStatement_eq_ok h.1, ih h.2]
    rfl

theorem exists_declaration_eq (n : Node) :
    ∃ attributes : Text, declaration n = '\t' :: (quote n.id ++ ' ' :: '[' :: attributes) := by
  have hopen : " [label=".toList = ' ' :: '[' :: "label=".toList := rfl
  rw [declaration, hopen, List.append_assoc, List.append_assoc, List.cons_append, List.cons_append]
  exact ⟨_, rfl⟩

theorem exists_edgeStatement_eq (h : e.label = some label) : ∃ attributes : Text, edgeStatement e =
    '\t' :: (quoteEnd e.source ++ ' ' :: '-' :: '>' :: ' ' ::
      (quoteEnd e.target ++ ' ' :: '[' :: attributes)) := by
  have hopen : " [label=".toList = ' ' :: '[' :: "label=".toList := rfl
  have harrow : " -> ".toList = [' ', '-', '>', ' '] := rfl
  have hattributes : edgeAttributes e.label = " [label=".toList ++ quote label ++ [']'] := by
    rw [h]
    rfl
  rw [edgeStatement, hattributes, hopen, harrow]
  simp only [List.append_assoc, List.cons_append, List.nil_append]
  exact ⟨_, rfl⟩

/-- The statement of a node with a closed id declares it, whatever follows. -/
theorem readStatement_declaration (h : IsName n.id) (hclosed : isClosed n.id = true)
    (rest : Text) : readStatement (declaration n ++ rest) = some (.node n.id) := by
  obtain ⟨attributes, heq⟩ := exists_declaration_eq n
  have hname : readName (quote n.id ++ ' ' :: '[' :: (attributes ++ rest)) =
      some (n.id, ' ' :: '[' :: (attributes ++ rest)) :=
    readName_quote h hclosed fun c hc => by rw [← Option.some.inj hc]; decide
  have hend := readEnd_eq_some hname (by decide) (by decide)
  rw [heq, List.cons_append, List.append_assoc, List.cons_append, List.cons_append, readStatement,
    readEnd_cons (by decide), hend]
  rfl

/-- Behind an end and an arrow stands the other end. -/
theorem readStatement_arrow (h : readEnd s = some (t, '-' :: '>' :: rest)) :
    readStatement s = (readEnd rest).map fun read => .edge t read.1 := by
  have hskip : skipSpace ('-' :: '>' :: rest) = '-' :: '>' :: rest :=
    skipSpace_cons_of_not (by decide)
  simp only [readStatement, h, Option.bind_eq_bind, Option.bind_some, hskip, Option.pure_def]
  cases readEnd rest <;> rfl

theorem exists_readEnd_of_edge {source target : Text}
    (h : readStatement s = some (.edge source target)) :
    ∃ rest, readEnd s = some (source, rest) := by
  obtain ⟨⟨name, rest⟩, hend, hread⟩ := Option.bind_eq_some_iff.1 h
  refine ⟨rest, ?_⟩
  simp only at hread
  split at hread
  · obtain ⟨⟨other, more⟩, -, heq⟩ := Option.bind_eq_some_iff.1 hread
    obtain ⟨rfl, -⟩ := Statement.edge.inj (Option.some.inj heq)
    exact hend
  · cases hread
  · cases hread

/-- The statement of an edge is read as one between its ends iff both are plain. -/
theorem readStatement_edgeStatement_iff (hsource : IsName e.source) (htarget : IsName e.target)
    (hlabel : e.label = some label) (rest : Text) :
    readStatement (edgeStatement e ++ rest) = some (.edge e.source e.target) ↔
      Plain e.source ∧ Plain e.target := by
  obtain ⟨attributes, heq⟩ := exists_edgeStatement_eq hlabel
  have hwritten : readStatement (edgeStatement e ++ rest) = readStatement ('\t' ::
      (quoteEnd e.source ++ ' ' :: '-' :: '>' :: ' ' ::
        (quoteEnd e.target ++ ' ' :: '[' :: (attributes ++ rest)))) := by
    rw [heq]
    simp only [List.cons_append, List.append_assoc]
  -- Behind a plain source the arrow is read, and then the target.
  have harrow (hs : Plain e.source) : readStatement (edgeStatement e ++ rest) =
      (readEnd (quoteEnd e.target ++ ' ' :: '[' :: (attributes ++ rest))).map
        fun read => .edge e.source read.1 := by
    rw [hwritten, readStatement_arrow ((readEnd_cons (by decide)).trans
      (readEnd_quoteEnd hsource hs (by decide) (by decide))), readEnd_cons (by decide)]
  constructor
  · intro hread
    obtain ⟨more, hend⟩ := exists_readEnd_of_edge (hwritten ▸ hread)
    rw [readEnd_cons (by decide)] at hend
    have hs := plain_of_readEnd hsource hend
    rw [harrow hs, Option.map_eq_some_iff] at hread
    obtain ⟨⟨target, more⟩, hend, heq⟩ := hread
    obtain ⟨-, rfl⟩ := Statement.edge.inj heq
    exact ⟨hs, plain_of_readEnd htarget hend⟩
  · rintro ⟨hs, ht⟩
    rw [harrow hs, readEnd_quoteEnd htarget ht (by decide) (by decide)]
    rfl

/-- A chart whose nodes have labels is written statement by statement. -/
theorem write_eq_ok {chart : Chart} (h : ∀ n ∈ chart.nodes, n.label = some n.caption)
    (rankdir : Option Text) : write chart rankdir false = .ok (opening (chart.name.getD []) rankdir
      ++ (chart.nodes.map declaration).flatten ++ chart.edges.flatMap edgeStatement
      ++ "\x7d\n".toList) := by
  rw [write, mapM_nodeStatement h]
  rfl

end Dot

/-! ## Ids of nodes -/

namespace Ident

variable {id : Text}

theorem Made.isName (h : Made id) : Dot.IsName id where
  starts := by
    obtain ⟨token, -, rfl⟩ | ⟨label, rfl⟩ := h
    · exact ⟨'n', '_' :: token, rfl, by decide⟩
    · exact ⟨'t', _, rfl, by decide⟩
  feedless hmem := absurd (h.unbroken _ hmem) (by decide)

/-- The only ids that may not be plain are those of tokens that are no numerals. -/
theorem Made.plain_or (h : Made id) :
    Dot.Plain id ∨ ∃ token, id = numbered token ∧ Text.isNumeral token = false := by
  obtain ⟨token, -, rfl⟩ | ⟨label, rfl⟩ := h
  · cases hnum : Text.isNumeral token with
    | true =>
      have hslash : '\\' ∉ token := Text.not_mem_of_isNumeral hnum (by decide)
      have hcolon : ':' ∉ token := Text.not_mem_of_isNumeral hnum (by decide)
      exact .inl ⟨Dot.isClosed_of_not_mem (by simp [numbered, hslash]),
        by simp [numbered, hcolon]⟩
    | false => exact .inr ⟨token, rfl, hnum⟩
  · obtain ⟨symbols, heq, hsymbols⟩ := exists_labelled_eq label
    have hslash : '\\' ∉ symbols := fun h => absurd (hsymbols.mem_alphabet _ h) (by decide)
    have hcolon : ':' ∉ symbols := fun h => absurd (hsymbols.mem_alphabet _ h) (by decide)
    rw [heq]
    exact .inl ⟨Dot.isClosed_of_not_mem (by simp [hslash]), by simp [hcolon]⟩

end Ident

/-! ## Documents -/

namespace Document

variable {d : Document} {s id : Text} {n : Node}

/-- The nodes of a text have labels. -/
theorem Built.label_eq (h : Built d s) (hn : n ∈ d.chart.nodes) : n.label = some n.caption :=
  label_of_mem_plan (n := n.unplaced) (h.nodes ▸ List.mem_map_of_mem hn)

/-- A node with a closed id is declared by its statement. -/
theorem Built.exists_declaration (h : Built d s) (hid : id ∈ d.chart.nodeIds)
    (hclosed : Dot.isClosed id = true) : ∃ t ∈ d.chart.nodes.map Dot.declaration, ∀ rest,
      Dot.readStatement (t ++ rest) = some (.node id) := by
  obtain ⟨n, hn, rfl⟩ := List.mem_map.1 hid
  exact ⟨_, List.mem_map_of_mem hn,
    Dot.readStatement_declaration (h.made hid).isName hclosed⟩

/-- The edges of a document that has been built, as a reader takes them that is at the
    start of a statement.

    The digraph is its opening, a statement for each node, and one for each edge. Read
    from its own start, and whatever follows it, the statement of an edge is that of an
    edge between its two ends, which other statements declare when read from theirs, iff
    both ends are plain. Only the ids of tokens that are no numerals may not be plain.

    This is not the digraph read from end to end. Labels are not looked at, and there are
    some that swallow the statements behind them, as in `1.<<>`, `2.B`, `1->2`. -/
theorem edges_read_iff (d : Document) (s : Text) (h : (d.build s).2 = none) :
    let c := (d.build s).1.chart
    ∃ declarations, c.nodes.mapM (Dot.nodeStatement false) = .ok declarations ∧
      Dot.write c (some Dot.downward) false = .ok (Dot.opening (c.name.getD [])
        (some Dot.downward) ++ declarations.flatten ++ c.edges.flatMap Dot.edgeStatement
        ++ "\x7d\n".toList) ∧
      (∀ e ∈ c.edges, ∀ rest,
        (Dot.readStatement (Dot.edgeStatement e ++ rest) = some (.edge e.source e.target) ∧
          ∀ id ∈ [e.source, e.target], ∃ t ∈ declarations, ∀ rest,
            Dot.readStatement (t ++ rest) = some (.node id)) ↔
        Dot.Plain e.source ∧ Dot.Plain e.target) ∧
      ∀ id ∈ c.nodeIds,
        Dot.Plain id ∨ ∃ token, id = Ident.numbered token ∧ Text.isNumeral token = false := by
  intro c
  have hbuilt := of_build h
  have hlabels : ∀ n ∈ c.nodes, n.label = some n.caption := fun n hn => hbuilt.label_eq hn
  refine ⟨_, Dot.mapM_nodeStatement hlabels, Dot.write_eq_ok hlabels _, fun e he rest => ?_,
    fun id hid => (hbuilt.made hid).plain_or⟩
  obtain ⟨hs, ht⟩ := hbuilt.sound.mem_nodeIds_of_mem_edges e he
  obtain ⟨l, -, -, -, hlabel⟩ := Chart.exists_of_mem_edgesOf (hbuilt.edges_eq ▸ he)
  rw [Dot.readStatement_edgeStatement_iff (hbuilt.made hs).isName (hbuilt.made ht).isName hlabel]
  refine and_iff_left_of_imp fun hplain => ?_
  rw [List.forall_mem_cons, List.forall_mem_singleton]
  exact ⟨hbuilt.exists_declaration hs hplain.1.closed,
    hbuilt.exists_declaration ht hplain.2.closed⟩

/-- A token with a blank in it is written between quotes, and found again. -/
theorem edges_read_iff_blank : let c := ((new none {}).build "1.A\n1->b c".toList).1.chart
    ((new none {}).build "1.A\n1->b c".toList).2 = none ∧
      c.edges.map Edge.target = ["n_b c".toList] ∧ ∀ e ∈ c.edges, ∀ rest,
        Dot.readStatement (Dot.edgeStatement e ++ rest) = some (.edge e.source e.target) := by
  intro c
  have hbuilds : ((new none {}).build "1.A\n1->b c".toList).2 = none :=
    build_default_eq_none rfl (by decide)
  obtain ⟨_, -, -, hedges, -⟩ := edges_read_iff (new none {}) "1.A\n1->b c".toList hbuilds
  have hplain : ∀ e ∈ c.edges, Dot.Plain e.source ∧ Dot.Plain e.target := by decide +kernel
  exact ⟨hbuilds, by decide +kernel, fun e he rest => ((hedges e he rest).2 (hplain e he)).1⟩

/-- A token with a colon in it is taken for a node and a port, and there is no such
    node. -/
theorem edge_leads_to_no_node : let c := ((new none {}).build "1.A\n1->a:b".toList).1.chart
    c.edges.map (fun e => (e.source, e.target)) = [("n_1".toList, "n_a:b".toList)] ∧
      c.edges.map (fun e => Dot.readStatement (Dot.edgeStatement e)) =
        [some (.edge "n_1".toList "n_a".toList)] ∧
      c.nodes.map (fun n => Dot.readStatement (Dot.declaration n)) =
        [some (.node "n_1".toList), some (.node "n_a:b".toList)] := by
  decide +kernel

end Document

end FlowScript
