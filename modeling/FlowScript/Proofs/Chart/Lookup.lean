import FlowScript.Chart.Payload
import FlowScript.Proofs.Chart.Write
import Mathlib.Data.List.Induction

/-!
# The lookups of a payload

Beside the edges a payload has two lookups, one for each end: under a node they
list the ids of the edges that have the node at that end. They are filled edge by
edge, each edge going to the end of one list, so the edges under a node are in order
and no list is empty (`get?_edgeLookup`), and all lists together have each id as
often as the edges have (`perm_idsOf_edgeLookup`).

Main statement: what this says of the payload of every chart that was new once
(`lookups_agree`).
-/

namespace FlowScript

open Table (get? keys put)

/-! ## Parts of a value -/

namespace Json

/-- The members of an object; no other value has any. -/
def members : Json → Table Json
  | object members => members
  | _ => []

/-- The elements of an array; no other value has any. -/
def elements : Json → List Json
  | array elements => elements
  | _ => []

/-- The value under a name, and null if there is none. -/
def under (name : Text) (v : Json) : Json :=
  (get? v.members name).getD null

/-- The characters of a string. -/
def characters? : Json → Option Text
  | string s => some s
  | _ => none

end Json

/-- The lookup of a payload that has the given name. -/
def lookupIn (payload : Json) (name : Text) : Table Json :=
  ((payload.under "graph".toList).under name).members

/-- The ids in all lists of a lookup together. -/
def listedIds (lookup : Table Json) : List Text :=
  lookup.flatMap fun entry => entry.2.elements.filterMap Json.characters?

/-- The ids of the edges that have the node `v` at an end, in order. -/
def idsAt (endpoint : Edge → Text) (v : Text) (edges : List Edge) : List Text :=
  (edges.filter fun e => endpoint e = v).map Edge.id

/-- A lookup of the payload of a chart agrees with the edges, of which it knows one
    end. -/
structure LookupAgrees (c : Chart) (name : Text) (endpoint : Edge → Text) : Prop where
  /-- Under a node are the ids of the edges that have it at that end, in order, and
      without such edges there is nothing under it. -/
  edges_under : ∀ v, get? (lookupIn c.toJson name) v =
    if idsAt endpoint v c.edges = [] then none
    else some (.array ((idsAt endpoint v c.edges).map .string))
  /-- It names nodes of the payload. -/
  names_nodes : ∀ v ∈ keys (lookupIn c.toJson name),
    ∃ n ∈ (c.toJson.under "nodes".toList).elements, (n.under "id".toList).characters? = some v
  /-- It lists each edge once. -/
  lists_once : ∀ id ∈ c.edgeIds, (listedIds (lookupIn c.toJson name)).count id = 1
  /-- It lists nothing else. -/
  lists_edges : ∀ id ∈ listedIds (lookupIn c.toJson name), id ∈ c.edgeIds

variable {c : Chart} {edges : List Edge} {endpoint : Edge → Text} {v : Text}

/-! ## Filling a lookup -/

/-- The ids in all lists of a table together. -/
def idsOf (t : Table (List Text)) : List Text :=
  t.flatMap Prod.snd

/-- An id at the end of the list under a name is one more id. -/
theorem perm_idsOf_put (t : Table (List Text)) (v id : Text) :
    (idsOf (put t v ((get? t v).getD [] ++ [id]))).Perm (id :: idsOf t) := by
  induction t with
  | nil => exact List.Perm.refl _
  | cons entry rest ih =>
    obtain ⟨w, ids⟩ := entry
    by_cases hw : w = v
    · rw [put, get?, if_pos hw, if_pos hw, Option.getD_some]
      simp only [idsOf, List.flatMap_cons, List.append_assoc, List.singleton_append]
      exact List.perm_middle
    · rw [put, get?, if_neg hw, if_neg hw]
      exact (ih.append_left ids).trans List.perm_middle

theorem edgeLookup_append_singleton (endpoint : Edge → Text) (edges : List Edge) (e : Edge) :
    edgeLookup endpoint (edges ++ [e]) =
      put (edgeLookup endpoint edges) (endpoint e)
        ((get? (edgeLookup endpoint edges) (endpoint e)).getD [] ++ [e.id]) := by
  rw [edgeLookup, List.foldl_append]
  rfl

/-- All lists together have each id as often as the edges have. -/
theorem perm_idsOf_edgeLookup (endpoint : Edge → Text) (edges : List Edge) :
    (idsOf (edgeLookup endpoint edges)).Perm (edges.map Edge.id) := by
  induction edges using List.reverseRecOn with
  | nil => exact List.Perm.refl _
  | append_singleton edges e ih =>
    rw [edgeLookup_append_singleton, List.map_append, List.map_singleton]
    exact (perm_idsOf_put _ _ _).trans
      ((ih.cons e.id).trans (List.perm_append_singleton _ _).symm)

theorem idsAt_append_singleton (endpoint : Edge → Text) (v : Text) (edges : List Edge) (e : Edge) :
    idsAt endpoint v (edges ++ [e]) =
      if endpoint e = v then idsAt endpoint v edges ++ [e.id] else idsAt endpoint v edges := by
  rw [idsAt, List.filter_append, List.map_append]
  split
  · next h => rw [List.filter_cons_of_pos (by simpa using h)]; rfl
  · next h => rw [List.filter_cons_of_neg (by simpa using h)]; exact List.append_nil _

/-- Under a name are the ids of the edges with that end, in order. -/
theorem get?_edgeLookup (endpoint : Edge → Text) (edges : List Edge) (v : Text) :
    get? (edgeLookup endpoint edges) v =
      if idsAt endpoint v edges = [] then none else some (idsAt endpoint v edges) := by
  induction edges using List.reverseRecOn with
  | nil => rfl
  | append_singleton edges e ih =>
    rw [edgeLookup_append_singleton, idsAt_append_singleton]
    by_cases h : endpoint e = v
    · subst h
      rw [Table.get?_put_self, if_pos rfl, if_neg (by simp), ih]
      split
      · next hnil => rw [hnil, Option.getD_none]
      · rw [Option.getD_some]
    · rw [Table.get?_put_of_ne _ _ (Ne.symm h), if_neg h, ih]

/-- The names are ends of edges. -/
theorem exists_of_mem_keys_edgeLookup (h : v ∈ keys (edgeLookup endpoint edges)) :
    ∃ e ∈ edges, endpoint e = v := by
  rw [← Table.isSome_get?_iff, get?_edgeLookup] at h
  have hne : edges.filter (fun e => endpoint e = v) ≠ [] := by
    intro hnil
    rw [idsAt, hnil] at h
    cases h
  obtain ⟨e, he⟩ := List.exists_mem_of_ne_nil _ hne
  obtain ⟨hmem, hend⟩ := List.mem_filter.1 he
  exact ⟨e, hmem, of_decide_eq_true hend⟩

/-! ## Lookups in payloads -/

theorem get?_members_lookupJson (t : Table (List Text)) (v : Text) :
    get? (lookupJson t).members v = (get? t v).map fun ids => .array (ids.map .string) := by
  rw [lookupJson, Json.members]
  induction t with
  | nil => rfl
  | cons entry rest ih =>
    rw [List.map_cons, get?, get?]
    split
    · rfl
    · exact ih

theorem keys_members_lookupJson (t : Table (List Text)) :
    keys (lookupJson t).members = keys t := by
  rw [lookupJson, Json.members, keys, List.map_map]
  rfl

theorem listedIds_members_lookupJson (t : Table (List Text)) :
    listedIds (lookupJson t).members = idsOf t := by
  rw [lookupJson, Json.members, listedIds, List.flatMap_map, idsOf]
  refine List.flatMap_congr fun entry _ => ?_
  simp only [Json.elements, List.filterMap_map]
  exact List.filterMap_some

namespace Chart

/-- A lookup that is filled with the edges of a stored chart agrees with them. -/
theorem Stored.lookupAgrees (h : c.Stored) {name : Text}
    (hlookup : lookupIn c.toJson name = (lookupJson (edgeLookup endpoint c.edges)).members)
    (hends : ∀ e ∈ c.edges, endpoint e ∈ c.nodeIds) : LookupAgrees c name endpoint where
  edges_under v := by
    rw [hlookup, get?_members_lookupJson, get?_edgeLookup]
    split <;> rfl
  names_nodes v hv := by
    rw [hlookup, keys_members_lookupJson] at hv
    obtain ⟨e, he, rfl⟩ := exists_of_mem_keys_edgeLookup hv
    obtain ⟨n, hn, heq⟩ := List.mem_map.1 (hends e he)
    exact ⟨n.toJson, List.mem_map_of_mem hn, congrArg some heq⟩
  lists_once id hid := by
    rw [hlookup, listedIds_members_lookupJson, (perm_idsOf_edgeLookup _ _).count_eq]
    exact List.count_eq_one_of_mem h.distinct hid
  lists_edges id hid := by
    rw [hlookup, listedIds_members_lookupJson, (perm_idsOf_edgeLookup _ _).mem_iff] at hid
    exact hid

/-- After any history of additions to a new chart the lookups of its payload agree
    with its edges. -/
theorem lookups_agree (name : Option Text) (metadata : Metadata) (additions : List Addition) :
    let c := addAll { name, metadata } additions
    LookupAgrees c "incomingEdges".toList Edge.target ∧
      LookupAgrees c "outgoingEdges".toList Edge.source := by
  intro c
  have h : c.Stored := (stored_new name metadata).addAll additions
  exact ⟨h.lookupAgrees rfl fun e he => (h.ends e he).2,
    h.lookupAgrees rfl fun e he => (h.ends e he).1⟩

/-- For instance a loop and two edges side by side. -/
example :
    let c := addAll { name := none } [.node { id := ['a'], label := none },
      .node { id := ['b'], label := none }, .edge { source := ['a'], target := ['a'] },
      .edge { source := ['a'], target := ['b'] }, .edge { source := ['a'], target := ['b'] }]
    (listedIds (lookupIn c.toJson "outgoingEdges".toList) =
        ["e0".toList, "e1".toList, "e2".toList]) ∧
      keys (lookupIn c.toJson "incomingEdges".toList) = [['a'], ['b']] := by
  decide +kernel

end Chart

end FlowScript
