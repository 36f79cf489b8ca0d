import FlowScript.Command.Disk
import FlowScript.Proofs.Text.Basic
import Mathlib.Data.List.Induction

/-!
# Making folders

Where names lead is said by the names alone, as two points lead back (`reach`). A disk
decides only whether they can be followed: a file in the way, or a name that is too
long, is a trouble for good, and a folder that is missing can be made. So a way is
*clear* if no file stands on it or at its end and no name in it is too long (`Clear`).

Making folders only adds folders where nothing was (`Extends`). It ends with a folder
at the end of the way if the way is clear, and otherwise with a trouble; this is what
`Provided` says, first of one folder (`provided_provideFolder`) and then, by induction
on the names from the last one, of a folder with all that it is in
(`provided_provideFoldersTo`).
-/

namespace FlowScript.Disk

variable {d d' d'' : Disk} {l l' : Location} {name root : Text} {names outer : List Text}
  {trouble : FileTrouble} {p : Path} {outcome : Disk × Option Fault} {bytes : List UInt8}

/-! ## Ways -/

/-- Where a name leads from a location. -/
def step (l : Location) (name : Text) : Location :=
  if name = ['.', '.'] then l.dropLast else l ++ [name]

/-- Where names lead from a location. -/
def reach (l : Location) (names : List Text) : Location :=
  names.foldl step l

theorem reach_append_singleton (l : Location) (names : List Text) (name : Text) :
    reach l (names ++ [name]) = step (reach l names) name := by
  rw [reach, List.foldl_append]
  rfl

/-- The name leads back, or is not too long. -/
def IsShort (name : Text) : Prop :=
  name = ['.', '.'] ∨ byteLength name ≤ nameLimit

instance (name : Text) : Decidable (IsShort name) :=
  inferInstanceAs (Decidable (_ ∨ _))

/-- Nothing is in the way from a location along names. -/
structure Clear (d : Disk) (l : Location) (names : List Text) : Prop where
  /-- No name is too long. -/
  short : ∀ name ∈ names, IsShort name
  /-- Neither on the way nor at its end is a file. -/
  free : ∀ before, before <+: names → ∀ bytes, d.entry? (reach l before) ≠ some (.file bytes)

theorem clear_nil : Clear d l [] ↔ ∀ bytes, d.entry? l ≠ some (.file bytes) := by
  refine ⟨fun h => h.free [] List.nil_prefix, fun h => ⟨fun _ hname => ?_, fun before hpre => ?_⟩⟩
  · exact absurd hname List.not_mem_nil
  · rw [List.prefix_nil.1 hpre]
    exact h

theorem clear_append_singleton : Clear d l (names ++ [name]) ↔ Clear d l names ∧ IsShort name ∧
    ∀ bytes, d.entry? (reach l (names ++ [name])) ≠ some (.file bytes) := by
  constructor
  · rintro ⟨hshort, hfree⟩
    rw [List.forall_mem_append, List.forall_mem_singleton] at hshort
    exact ⟨⟨hshort.1, fun before hpre => hfree before (hpre.trans (List.prefix_append _ _))⟩,
      hshort.2, hfree _ List.prefix_rfl⟩
  · rintro ⟨⟨hshort, hfree⟩, hname, hend⟩
    refine ⟨List.forall_mem_append.2 ⟨hshort, List.forall_mem_singleton.2 hname⟩,
      fun before hpre => ?_⟩
    rcases List.prefix_concat_iff.1 hpre with rfl | hpre
    · exact hend
    · exact hfree before hpre

/-! ## Following a way -/

/-- Where a name leads from a location, which has to be that of a folder. -/
def enter (d : Disk) (l : Location) (name : Text) : Except FileTrouble Location :=
  match d.entry? l with
  | none => .error .missing
  | some (.file _) => .error .notAFolder
  | some .folder => if IsShort name then .ok (step l name) else .error .nameTooLong

/-- Names are followed one by one. -/
theorem walk_cons (d : Disk) (l : Location) (name : Text) (rest : List Text) :
    d.walk l (name :: rest) = (d.enter l name).bind fun l => d.walk l rest := by
  rw [walk, enter]
  cases d.entry? l with
  | none => rfl
  | some e =>
    cases e with
    | file bytes => rfl
    | folder =>
      simp only [IsShort, step]
      by_cases hback : name = ['.', '.']
      · simp [hback, Except.bind]
      · by_cases hlong : nameLimit < byteLength name
        · simp [hback, hlong, Nat.not_le.2 hlong, Except.bind]
        · simp [hback, hlong, Nat.not_lt.1 hlong, Except.bind]

theorem walk_append_singleton (d : Disk) (l : Location) (names : List Text) (name : Text) :
    d.walk l (names ++ [name]) = (d.walk l names).bind fun l => d.enter l name := by
  induction names generalizing l with
  | nil =>
    rw [List.nil_append, walk_cons]
    simp only [walk, Except.bind]
    cases d.enter l name <;> rfl
  | cons first rest ih =>
    rw [List.cons_append, walk_cons, walk_cons]
    cases d.enter l first with
    | error trouble => rfl
    | ok l => exact ih l

/-- What comes of following a way: the place where the names lead, unless something on
    the way is missing, or in the way. -/
theorem walk_cases (d : Disk) (l : Location) (names : List Text) :
    (d.walk l names = .ok (reach l names) ∧
      (Clear d l names ↔ ∀ bytes, d.entry? (reach l names) ≠ some (.file bytes))) ∨
    d.walk l names = .error .missing ∨
    ∃ trouble, trouble ≠ .missing ∧ d.walk l names = .error trouble ∧ ¬Clear d l names := by
  induction names using List.reverseRecOn with
  | nil => exact .inl ⟨by rw [walk]; rfl, clear_nil⟩
  | append_singleton names name ih =>
    rw [walk_append_singleton]
    obtain ⟨hwalk, hclear⟩ | hwalk | ⟨trouble, hne, hwalk, hblocked⟩ := ih
    · rw [hwalk, Except.bind, enter]
      cases hentry : d.entry? (reach l names) with
      | none => exact .inr (.inl rfl)
      | some e =>
        rw [hentry] at hclear
        cases e with
        | file bytes =>
          refine .inr (.inr ⟨.notAFolder, by decide, rfl, fun h => ?_⟩)
          exact hclear.1 (clear_append_singleton.1 h).1 bytes rfl
        | folder =>
          have hfront : Clear d l names := hclear.2 fun bytes h => nomatch h
          by_cases hshort : IsShort name
          · refine .inl ⟨?_, ?_⟩
            · simp only [hshort, if_true, reach_append_singleton]
            · rw [clear_append_singleton]
              exact ⟨fun h => h.2.2, fun h => ⟨hfront, hshort, h⟩⟩
          · refine .inr (.inr ⟨.nameTooLong, by decide, ?_, fun h => ?_⟩)
            · simp only [hshort, if_false]
            · exact hshort (clear_append_singleton.1 h).2.1
    · exact .inr (.inl (by rw [hwalk]; rfl))
    · exact .inr (.inr ⟨trouble, hne, by rw [hwalk]; rfl,
        fun h => hblocked (clear_append_singleton.1 h).1⟩)

/-! ## More folders -/

theorem entry?_put (d : Disk) (l m : Location) (e : DiskEntry) : Disk.entry? (d.put l e) m =
    if m = [] then some .folder else if m = l then some e else d.entry? m := by
  have hfind : (d.entries.filter fun old => old.1 ≠ l).find? (fun old => old.1 = m) =
      if m = l then none else d.entries.find? fun old => old.1 = m := by
    split
    · next heq =>
      refine List.find?_eq_none.2 fun old hold => ?_
      simpa [heq] using (List.mem_filter.1 hold).2
    · next hne =>
      rw [List.find?_filter]
      congr 1
      funext old
      by_cases hold : old.1 = m <;> simp [hold, hne]
  rw [put, entry?, List.find?_append, hfind, entry?]
  by_cases hroot : m = []
  · rw [if_pos hroot, if_pos hroot]
  · by_cases heq : m = l
    · simp [heq]
    · simp [hroot, heq, Ne.symm heq]

/-- The disk has more folders, where nothing was, and is the same elsewhere. -/
structure Extends (d d' : Disk) : Prop where
  /-- Paths start in the same folder. -/
  here : d'.here = d.here
  /-- What is new is a folder. -/
  entry : ∀ l, d'.entry? l = d.entry? l ∨ d.entry? l = none ∧ d'.entry? l = some .folder

namespace Extends

theorem refl (d : Disk) : d.Extends d :=
  ⟨rfl, fun _ => .inl rfl⟩

theorem trans (h : d.Extends d') (h' : d'.Extends d'') : d.Extends d'' where
  here := h'.here.trans h.here
  entry l := by
    obtain heq' | ⟨hnone', hnew⟩ := h'.entry l
    · rw [heq']
      exact h.entry l
    · obtain heq | ⟨-, hnew'⟩ := h.entry l
      · exact .inr ⟨heq ▸ hnone', hnew⟩
      · rw [hnone'] at hnew'
        cases hnew'

/-- A folder is put where nothing was. -/
theorem of_put (h : d.entry? l = none) : d.Extends (d.put l .folder) where
  here := rfl
  entry m := by
    rw [entry?_put]
    by_cases hroot : m = []
    · rw [if_pos hroot, entry?, if_pos hroot]
      exact .inl rfl
    · rw [if_neg hroot]
      by_cases heq : m = l
      · rw [if_pos heq, heq]
        exact .inr ⟨h, rfl⟩
      · rw [if_neg heq]
        exact .inl rfl

/-- No file has been made, taken away or changed. -/
theorem file_iff (h : d.Extends d') (l : Location) (bytes : List UInt8) :
    d'.entry? l = some (.file bytes) ↔ d.entry? l = some (.file bytes) := by
  obtain heq | ⟨hnone, hnew⟩ := h.entry l
  · rw [heq]
  · simp [hnone, hnew]

theorem folder (h : d.Extends d') (hl : d.entry? l = some .folder) :
    d'.entry? l = some .folder := by
  obtain heq | ⟨-, hnew⟩ := h.entry l
  · rw [heq, hl]
  · exact hnew

/-- The same ways are clear. -/
theorem clear_iff (h : d.Extends d') : Clear d' l names ↔ Clear d l names := by
  constructor
  · exact fun hc => ⟨hc.short, fun before hpre bytes hfile =>
      hc.free before hpre bytes ((h.file_iff _ _).2 hfile)⟩
  · exact fun hc => ⟨hc.short, fun before hpre bytes hfile =>
      hc.free before hpre bytes ((h.file_iff _ _).1 hfile)⟩

/-- A way that could be followed still can. -/
theorem walk (h : d.Extends d') (hwalk : d.walk l names = .ok l') : d'.walk l names = .ok l' := by
  induction names generalizing l with
  | nil => exact hwalk
  | cons name rest ih =>
    rw [walk_cons, enter] at hwalk ⊢
    cases hentry : d.entry? l with
    | none =>
      rw [hentry] at hwalk
      cases hwalk
    | some e =>
      rw [hentry] at hwalk
      cases e with
      | file bytes => cases hwalk
      | folder =>
        rw [h.folder hentry]
        by_cases hshort : IsShort name
        · simp only [hshort, if_true, Except.bind] at hwalk ⊢
          exact ih hwalk
        · simp only [hshort, if_false, Except.bind] at hwalk
          cases hwalk

end Extends

/-! ## One folder -/

/-- The location where a path starts. -/
def start (d : Disk) (root : Text) : Location :=
  if root.isEmpty then d.here else []

/-- How it ends when folders are provided for a path: with a folder at its end, or with a
    trouble. -/
inductive Provided (d : Disk) (p : Path) : Disk × Option Fault → Prop
  /-- The way was clear, and there is a folder at its end. -/
  | done {d' : Disk} : Clear d (d.start p.root) p.parts → d.Extends d' →
      d'.walk (d.start p.root) p.parts = .ok (reach (d.start p.root) p.parts) →
      d'.entry? (reach (d.start p.root) p.parts) = some .folder → Provided d p (d', none)
  /-- The way was not clear. -/
  | blocked {d' : Disk} (trouble : FileTrouble) (path : Text) :
      ¬Clear d (d.start p.root) p.parts → d.Extends d' →
      Provided d p (d', some (.file trouble path))

/-- Folders that were made before change nothing about how it ends. -/
theorem Provided.of_extends (h : d.Extends d') (hp : Provided d' p outcome) :
    Provided d p outcome := by
  have hstart : d'.start p.root = d.start p.root := by rw [start, start, h.here]
  cases hp with
  | done hclear hextends hwalk hfolder =>
    rw [hstart] at hclear hwalk hfolder
    exact .done (h.clear_iff.1 hclear) (h.trans hextends) hwalk hfolder
  | blocked trouble path hclear hextends =>
    rw [hstart] at hclear
    exact .blocked trouble path (fun hc => hclear (h.clear_iff.2 hc)) (h.trans hextends)

/-- The path is short enough to be followed. -/
def IsShortPath (p : Path) : Prop :=
  byteLength p.text < pathLimit

theorem locate_eq (d : Disk) (h : IsShortPath p) :
    d.locate p = d.walk (d.start p.root) p.parts := by
  rw [locate, if_neg (Nat.not_le.2 h)]
  rfl

theorem makeFolder_eq (d : Disk) (p : Path) : d.makeFolder p =
    (d.locate p).bind fun l =>
      match d.entry? l with
      | none => .ok (d.put l .folder)
      | some _ => .error .taken := by
  rw [makeFolder]
  cases d.locate p with
  | error trouble => rfl
  | ok l =>
    simp only [bind, Except.bind]
    cases d.entry? l <;> rfl

theorem isFolder_eq (d : Disk) (p : Path) : d.isFolder p =
    match d.locate p with
    | .error _ => false
    | .ok l => d.entry? l = some .folder := by
  rw [isFolder, look]
  cases d.locate p with
  | error trouble => rfl
  | ok l =>
    simp only [bind, Except.bind]
    cases d.entry? l with
    | none => rfl
    | some e => cases e <;> rfl

/-- A folder is made where nothing is. -/
theorem provideFolder_eq (d : Disk) (p : Path) : d.provideFolder p =
    match d.locate p with
    | .error trouble => (d, some (.file trouble p.text))
    | .ok l =>
      match d.entry? l with
      | none => (d.put l .folder, none)
      | some .folder => (d, none)
      | some (.file _) => (d, some (.file .taken p.text)) := by
  cases hlocate : d.locate p with
  | error trouble => simp [provideFolder, makeFolder_eq, isFolder_eq, hlocate, Except.bind]
  | ok l =>
    cases hentry : d.entry? l with
    | none => simp [provideFolder, makeFolder_eq, hlocate, hentry, Except.bind]
    | some e =>
      cases e <;> simp [provideFolder, makeFolder_eq, isFolder_eq, hlocate, hentry, Except.bind]

/-- One folder is provided if nothing that it is in is missing. -/
theorem provided_provideFolder (h : IsShortPath p)
    (hwalk : d.walk (d.start p.root) p.parts ≠ .error .missing) :
    Provided d p (d.provideFolder p) := by
  rw [provideFolder_eq, locate_eq d h]
  obtain ⟨hok, hclear⟩ | hmissing | ⟨trouble, -, herror, hblocked⟩ :=
    walk_cases d (d.start p.root) p.parts
  · simp only [hok]
    cases hentry : d.entry? (reach (d.start p.root) p.parts) with
    | none =>
      rw [hentry] at hclear
      have hextends := Extends.of_put hentry
      refine .done (hclear.2 fun bytes h => nomatch h) hextends (hextends.walk hok) ?_
      rw [entry?_put]
      simp
    | some e =>
      rw [hentry] at hclear
      cases e with
      | folder => exact .done (hclear.2 fun bytes h => nomatch h) (.refl d) hok hentry
      | file bytes => exact .blocked _ _ (fun hc => hclear.1 hc bytes rfl) (.refl d)
  · exact absurd hmissing hwalk
  · simp only [herror]
    exact .blocked _ _ hblocked (.refl d)

/-! ## A folder and all that it is in -/

theorem byteLength_append (s t : Text) : byteLength (s ++ t) = byteLength s + byteLength t := by
  rw [byteLength, Text.Utf8.encode, List.flatMap_append, List.length_append]
  rfl

/-- The path of a folder is not longer than that of something in it. -/
theorem IsShortPath.of_append_singleton (h : IsShortPath ⟨root, names ++ [name]⟩) :
    IsShortPath ⟨root, names⟩ := by
  have hne : names ++ [name] ≠ [] := by simp
  have htext : (⟨root, names ++ [name]⟩ : Path).text =
      root ++ Text.join ['/'] (names ++ [name]) := by simp [Path.text]
  rw [IsShortPath, htext, byteLength_append] at h
  rw [IsShortPath, Path.text]
  split
  · decide
  · rw [byteLength_append]
    cases names with
    | nil =>
      rw [Text.join_nil]
      exact Nat.lt_of_le_of_lt (Nat.add_le_add_left (Nat.zero_le _) _) h
    | cons first rest =>
      rw [Text.join_append (List.cons_ne_nil _ _) (List.cons_ne_nil _ _), List.append_assoc,
        byteLength_append] at h
      exact Nat.lt_of_le_of_lt (Nat.add_le_add_left (Nat.le_add_right _ _) _) h

theorem makeFolder_eq_missing_iff (h : IsShortPath p) : d.makeFolder p = .error .missing ↔
    d.walk (d.start p.root) p.parts = .error .missing := by
  rw [makeFolder_eq, locate_eq d h]
  cases d.walk (d.start p.root) p.parts with
  | error trouble => simp [Except.bind]
  | ok l =>
    simp only [Except.bind]
    cases d.entry? l <;> simp

/-- A folder is provided together with those that it is in. -/
theorem provided_provideFoldersTo (h : IsShortPath ⟨root, outer.reverse⟩) :
    Provided d ⟨root, outer.reverse⟩ (d.provideFoldersTo root outer) := by
  induction outer generalizing d with
  | nil =>
    rw [provideFoldersTo]
    exact provided_provideFolder h (by simp [walk])
  | cons name outer ih =>
    rw [provideFoldersTo]
    split
    · next hmissing =>
      -- The folders that it is in come first, and then nothing is missing.
      rw [List.reverse_cons] at h ⊢
      have houter := ih (d := d) h.of_append_singleton
      generalize d.provideFoldersTo root outer = outcome at houter
      cases houter with
      | @done d' hclear hextends hwalk hfolder =>
        refine (provided_provideFolder h ?_).of_extends hextends
        have hstart : d'.start root = d.start root := by rw [start, start, hextends.here]
        rw [hstart, walk_append_singleton, hwalk, Except.bind, enter, hfolder]
        simp only
        split <;> simp
      | blocked trouble path hclear hextends =>
        exact .blocked trouble path (fun hc => hclear (clear_append_singleton.1 hc).1) hextends
    · next hother =>
      exact provided_provideFolder h fun hmissing =>
        hother ((makeFolder_eq_missing_iff h).2 hmissing)

/-- A path that is too long is of no use. -/
theorem provideFoldersTo_of_long (h : ¬IsShortPath ⟨root, outer.reverse⟩) :
    d.provideFoldersTo root outer =
      (d, some (.file .nameTooLong (⟨root, outer.reverse⟩ : Path).text)) := by
  have hlocate : d.locate ⟨root, outer.reverse⟩ = .error .nameTooLong := by
    rw [locate, if_pos (Nat.not_lt.1 h)]
  have hprovide : d.provideFolder ⟨root, outer.reverse⟩ =
      (d, some (.file .nameTooLong (⟨root, outer.reverse⟩ : Path).text)) := by
    rw [provideFolder_eq, hlocate]
  cases outer with
  | nil => exact hprovide
  | cons name outer =>
    rw [provideFoldersTo, makeFolder_eq, hlocate]
    exact hprovide

/-- The way to the path is clear, and the path is short enough to be followed. -/
structure Leads (d : Disk) (p : Path) : Prop where
  /-- The path is not too long. -/
  short : IsShortPath p
  /-- The way is clear. -/
  clear : Clear d (d.start p.root) p.parts

/-- How providing folders ends: well iff the path leads somewhere and has no null
    character in it. -/
theorem provideFolders_cases (d : Disk) (p : Path) :
    (p.hasNull = false ∧ d.Leads p ∧ ∃ d', d.provideFolders p = (d', none) ∧ d.Extends d') ∨
    (p.hasNull = true ∧ d.provideFolders p = (d, some .nullInPath)) ∨
    (p.hasNull = false ∧ ¬d.Leads p ∧
      ∃ d' trouble path, d.provideFolders p = (d', some (.file trouble path)) ∧ d.Extends d') := by
  rw [provideFolders]
  cases hnull : p.hasNull with
  | true => exact .inr (.inl ⟨rfl, rfl⟩)
  | false =>
    have hparts : p.parts.reverse.reverse = p.parts := List.reverse_reverse _
    by_cases hshort : IsShortPath p
    · have hshort' : IsShortPath ⟨p.root, p.parts.reverse.reverse⟩ := by rwa [hparts]
      have hprovided := provided_provideFoldersTo (d := d) hshort'
      rw [hparts] at hprovided
      generalize d.provideFoldersTo p.root p.parts.reverse = outcome at hprovided
      cases hprovided with
      | done hclear hextends hwalk hfolder =>
        exact .inl ⟨rfl, ⟨hshort, hclear⟩, _, rfl, hextends⟩
      | blocked trouble path hclear hextends =>
        exact .inr (.inr ⟨rfl, fun h => hclear h.clear, _, trouble, path, rfl, hextends⟩)
    · refine .inr (.inr ⟨rfl, fun h => hshort h.short, d, .nameTooLong, p.text, ?_, .refl d⟩)
      exact (provideFoldersTo_of_long (by rwa [hparts])).trans (by rw [hparts])

end FlowScript.Disk
