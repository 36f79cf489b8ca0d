import FlowScript.Command.Run
import FlowScript.Proofs.Command.Disk
import FlowScript.Proofs.Document.Rendered

/-!
# How a run of the command ends

A run that comes to nothing ends with code 1, if it was noticed while the input was read or
while the file was written: then the trouble is reported and no file has changed
(`Reported`). Neither a trouble with the folder of the file nor an option without its
setting is noticed so, and the run ends with a fault. What a run needs in order not
to end with a fault is that its settings can be followed on the disk
(`CanFollow`), apart from a document that can be built. The troubles are those that a
disk is modelled with (`FileTrouble`): permissions and a full disk are not among them.

A run ends in one of four ways (`Ends`). The last stage has two conditions, one for
coming to the end of the run and one for ending with a trouble of the disk; reading and
building only add to them.

* `ends_deliver`: how the last stage ends, for a document that can be written;
* `ends_convert`: how a run with settings ends;
* `run_reports_trouble`: when a run ends with a code, when with a trouble of the disk,
  and what holds of it once it ends with code 1;
* `run_raises_taken`: a run that ends with a trouble and reports nothing.
-/

namespace FlowScript.Command

open Options (Settings)

variable {r : Request} {s : Settings} {disk disk' : Disk} {d : Document} {name warned : Text}
  {able able' blocked blocked' : Prop} {report : Report}

/-! ## What a run needs, and what it reports -/

/-- The settings can be followed on the disk. -/
structure CanFollow (s : Settings) (disk : Disk) : Prop where
  /-- There is a format. -/
  format : s.format ≠ none
  /-- Unless the document is printed, there is a folder to write to, or a way to make
      it. -/
  folder : s.stdout = false → ∃ output, s.output = some output ∧
    (Path.ofText output).hasNull = false ∧ disk.Leads (Path.ofText output)

/-- A file is to be written, and the way to its folder is not clear. -/
structure IsBlocked (s : Settings) (disk : Disk) : Prop where
  /-- The document is not printed. -/
  writes : s.stdout = false
  /-- The path of the folder leads nowhere. -/
  folder : ∃ output, s.output = some output ∧ (Path.ofText output).hasNull = false ∧
    ¬disk.Leads (Path.ofText output)

/-- What a run needs that writes to a folder. -/
theorem canFollow_iff {output : Text} (hstdout : s.stdout = false)
    (houtput : s.output = some output) : CanFollow s disk ↔
      s.format ≠ none ∧ (Path.ofText output).hasNull = false ∧
        disk.Leads (Path.ofText output) := by
  constructor
  · intro h
    obtain ⟨output', houtput', hnull, hleads⟩ := h.folder hstdout
    obtain rfl := Option.some.inj (houtput.symm.trans houtput')
    exact ⟨h.format, hnull, hleads⟩
  · rintro ⟨hformat, hnull, hleads⟩
    exact ⟨hformat, fun _ => ⟨output, houtput, hnull, hleads⟩⟩

/-- What runs need that come to their end, and what stops others, exclude each other. -/
theorem CanFollow.not_isBlocked (h : CanFollow s disk) : ¬IsBlocked s disk := by
  rintro ⟨hstdout, output, houtput, hnull, hleads⟩
  exact hleads ((canFollow_iff hstdout houtput).1 h).2.2

theorem isBlocked_iff {output : Text} (hstdout : s.stdout = false)
    (houtput : s.output = some output) : IsBlocked s disk ↔
      (Path.ofText output).hasNull = false ∧ ¬disk.Leads (Path.ofText output) := by
  constructor
  · rintro ⟨-, output', houtput', hblocked⟩
    obtain rfl := Option.some.inj (houtput.symm.trans houtput')
    exact hblocked
  · exact fun hblocked => ⟨hstdout, output, houtput, hblocked⟩

/-- A failure has been reported: on standard error stands a message that starts with
    `Error`, behind warnings at most; nothing else has been printed, and all files are as
    they were on the disk. -/
structure Reported (disk : Disk) (report : Report) : Prop where
  /-- Nothing is printed on standard output. -/
  stdout : report.stdout = []
  /-- A message is printed on standard error. -/
  stderr : ∃ (warnings : List Text) (message : Text),
    report.stderr = warnings.flatMap warningLine ++ message ∧ "Error".toList <+: message
  /-- No file has changed. -/
  files : ∀ l bytes, disk.entry? l = some (.file bytes) → report.disk.entry? l = some (.file bytes)

/-! ## Ways to end -/

/-- How a run may end, if it comes to its end iff it is `able` to, and is stopped by a
    trouble of the disk iff it is `blocked`. -/
inductive Ends (disk : Disk) (able blocked : Prop) (report : Report) : Prop where
  /-- The run has done its work. -/
  | done (h : able) (houtcome : report.outcome = .ok 0)
  /-- The run has reported a failure. -/
  | failed (h : able) (houtcome : report.outcome = .ok 1) (hreported : Reported disk report)
  /-- A trouble of the disk is not reported. -/
  | stopped (h : blocked) (trouble : FileTrouble) (path : Text)
    (houtcome : report.outcome = .error (.file trouble path))
  /-- Another fault is not reported. -/
  | faulty (hable : ¬able) (hblocked : ¬blocked) (fault : Fault)
    (houtcome : report.outcome = .error fault)
    (hother : ∀ trouble path, fault ≠ .file trouble path)

namespace Ends

theorem congr (h : Ends disk able blocked report) (hable : able ↔ able')
    (hblocked : blocked ↔ blocked') : Ends disk able' blocked' report := by
  rwa [← hable, ← hblocked]

/-- The log has no part in how a run ends. -/
theorem with_log (h : Ends disk able blocked report) (log : List Text) :
    Ends disk able blocked { report with log } := by
  cases h with
  | done hable houtcome => exact .done hable houtcome
  | failed hable houtcome hreported =>
    exact .failed hable houtcome ⟨hreported.stdout, hreported.stderr, hreported.files⟩
  | stopped hblocked trouble path houtcome => exact .stopped hblocked trouble path houtcome
  | faulty hable hblocked fault houtcome hother =>
    exact .faulty hable hblocked fault houtcome hother

/-- The outcome says whether the run was able to come to its end. -/
theorem code_iff (h : Ends disk able blocked report) (hfree : able → ¬blocked) :
    report.outcome = .ok 0 ∨ report.outcome = .ok 1 ↔ able := by
  cases h with
  | done hable houtcome => exact iff_of_true (.inl houtcome) hable
  | failed hable houtcome => exact iff_of_true (.inr houtcome) hable
  | stopped hblocked trouble path houtcome =>
    exact iff_of_false (by simp [houtcome]) fun hable => hfree hable hblocked
  | faulty hable hblocked fault houtcome => exact iff_of_false (by simp [houtcome]) hable

/-- The outcome says whether the run was blocked. -/
theorem trouble_iff (h : Ends disk able blocked report) (hfree : able → ¬blocked) :
    (∃ trouble path, report.outcome = .error (.file trouble path)) ↔ blocked := by
  cases h with
  | done hable houtcome => exact iff_of_false (by simp [houtcome]) (hfree hable)
  | failed hable houtcome => exact iff_of_false (by simp [houtcome]) (hfree hable)
  | stopped hblocked trouble path houtcome => exact iff_of_true ⟨trouble, path, houtcome⟩ hblocked
  | faulty hable hblocked fault houtcome hother =>
    refine iff_of_false ?_ hblocked
    rintro ⟨trouble, path, hfault⟩
    exact hother trouble path (Except.error.inj (houtcome.symm.trans hfault))

/-- Code 1 stands for a failure that is reported. -/
theorem reported (h : Ends disk able blocked report) (hone : report.outcome = .ok 1) :
    Reported disk report := by
  cases h with
  | failed hable houtcome hreported => exact hreported
  | done hable houtcome => simp [houtcome] at hone
  | stopped hblocked trouble path houtcome => simp [houtcome] at hone
  | faulty hable hblocked fault houtcome => simp [houtcome] at hone

end Ends

/-! ## The last stage -/

theorem exists_warnings_eq (s : Text) (reading : Reading) :
    ∃ messages : List Text, warnings s reading = messages.flatMap warningLine := by
  cases reading with
  | recognized dialect sketch notes =>
    exact ⟨notes.map Note.message, by rw [warnings, List.flatMap_map]⟩
  | notApplicable reason =>
    rw [warnings]
    split
    · exact ⟨[], rfl⟩
    · exact ⟨[_], List.append_nil _ |>.symm⟩

/-- A document that can be written is, if the disk takes the file. -/
theorem exportDocument_eq {f : Format} {content stem : Text} (hrender : f.render d = .ok content)
    (hname : d.name = some stem) (folder : Path) (disk : Disk) :
    ∃ path bytes, exportDocument d f folder disk =
      match disk.write path bytes with
      | .ok disk => .ok (disk, path)
      | .error trouble => .error (.trouble trouble path) := by
  refine ⟨folder.child (Format.fileStem stem ++ f.extension d),
    Text.Utf8.encode (content ++ ['\n']), ?_⟩
  have htext : f.fileText d = .ok (content ++ ['\n']) := by
    rw [Format.fileText, hrender]
    rfl
  have hfile : f.fileName d = .ok (Format.fileStem stem ++ f.extension d) := by
    rw [Format.fileName, hname]
  rw [exportDocument, htext, hfile]
  simp only [Except.mapError, bind, Except.bind]
  generalize disk.write _ _ = written
  cases written <;> rfl

theorem chosenFormat_of_none (h : s.format = none) :
    ∃ name known, chosenFormat s = .error (.unknownFormat name known) :=
  ⟨_, _, by rw [chosenFormat, h]; rfl⟩

theorem chosenFormat_of_some {f : Format} (h : s.format = some f) : chosenFormat s = .ok f := by
  rw [chosenFormat, h]

/-- A document that is printed needs a format only. -/
theorem ends_deliver_of_stdout (hstdout : s.stdout = true)
    (hrender : ∀ f : Format, ∃ content, f.render d = .ok content) :
    Ends disk (s.format ≠ none) False (deliver s disk d name warned) := by
  rw [deliver, if_pos hstdout]
  cases hformat : s.format with
  | none =>
    obtain ⟨format, known, hchosen⟩ := chosenFormat_of_none hformat
    rw [hchosen]
    exact .faulty (by simp) id _ rfl (by simp)
  | some f =>
    obtain ⟨content, hcontent⟩ := hrender f
    rw [chosenFormat_of_some hformat]
    simp only [bind, Except.bind, hcontent]
    exact .done (by simp) rfl

theorem deliver_of_fault {fault : Fault} (hstdout : s.stdout = false)
    (h : provideOutput s disk = (disk', .error fault)) :
    (deliver s disk d name warned).outcome = .error fault := by
  rw [deliver, hstdout, h]
  rfl

/-- Once there is a folder, a document needs a format. Whatever may be wrong with the
    file is reported. -/
theorem ends_deliver_of_folder {folder : Path} (hstdout : s.stdout = false)
    (h : provideOutput s disk = (disk', .ok folder)) (hextends : disk.Extends disk')
    (hrender : ∀ f : Format, ∃ content, f.render d = .ok content)
    (hname : d.name.isSome = true) (warnings : List Text) :
    Ends disk (s.format ≠ none) False (deliver s disk d name (warnings.flatMap warningLine)) := by
  rw [deliver, hstdout, h]
  simp only [Bool.false_eq_true, if_false]
  cases hformat : s.format with
  | none =>
    obtain ⟨format, known, hchosen⟩ := chosenFormat_of_none hformat
    rw [hchosen]
    exact .faulty (by simp) id _ rfl (by simp)
  | some f =>
    obtain ⟨stem, hstem⟩ := Option.isSome_iff_exists.1 hname
    obtain ⟨content, hcontent⟩ := hrender f
    obtain ⟨path, bytes, hexport⟩ := exportDocument_eq hcontent hstem folder disk'
    rw [chosenFormat_of_some hformat]
    simp only [Except.mapError, bind, Except.bind, hexport]
    cases hwrite : disk'.write path bytes with
    | ok disk'' => exact .done (by simp) rfl
    | error trouble =>
      refine .failed (by simp) rfl ⟨rfl, ⟨warnings, "Error exporting ".toList ++ (name
        ++ (": ".toList ++ ((Fault.file trouble path.text).message ++ ['\n']))), ?_, ⟨_, rfl⟩⟩,
        fun l bytes hfile => ?_⟩
      · simp only [List.append_assoc]
      · exact (hextends.file_iff l bytes).2 hfile

theorem provideOutput_eq {output : Text} {fault? : Option Fault} (houtput : s.output = some output)
    (h : disk.provideFolders (Path.ofText output) = (disk', fault?)) : provideOutput s disk =
      (disk', match fault? with
        | none => .ok (Path.ofText output)
        | some fault => .error fault) := by
  rw [provideOutput, houtput]
  simp only [h]
  cases fault? <;> rfl

/-- How the last stage ends for a document that can be written. -/
theorem ends_deliver (s : Settings) (disk : Disk)
    (hrender : ∀ f : Format, ∃ content, f.render d = .ok content) (hname : d.name.isSome = true)
    (name : Text) (warnings : List Text) : Ends disk (CanFollow s disk) (IsBlocked s disk)
      (deliver s disk d name (warnings.flatMap warningLine)) := by
  cases hstdout : s.stdout with
  | true =>
    have hwrites : s.stdout ≠ false := by simp [hstdout]
    refine (ends_deliver_of_stdout hstdout hrender).congr ⟨fun hformat => ?_, CanFollow.format⟩
      (iff_of_false id fun h => hwrites h.writes)
    exact ⟨hformat, fun h => absurd h hwrites⟩
  | false =>
    cases houtput : s.output with
    | none =>
      have hprovide : provideOutput s disk = (disk, .error .noFolder) := by
        rw [provideOutput, houtput]
      refine .faulty (fun h => ?_) (fun h => ?_) _ (deliver_of_fault hstdout hprovide) (by simp)
      · obtain ⟨output, hsome, -⟩ := h.folder hstdout
        simp [houtput] at hsome
      · obtain ⟨output, hsome, -⟩ := h.folder
        simp [houtput] at hsome
    | some output =>
      rw [canFollow_iff hstdout houtput, isBlocked_iff hstdout houtput]
      -- One case for each way in which providing the folder may end.
      obtain ⟨hnull, hleads, disk', hfolders, hextends⟩ | ⟨hnull, hfolders⟩ |
        ⟨hnull, hleads, disk', trouble, path, hfolders, -⟩ :=
        disk.provideFolders_cases (Path.ofText output)
      · have hprovide := provideOutput_eq houtput hfolders
        exact (ends_deliver_of_folder hstdout hprovide hextends hrender hname warnings).congr
          ⟨fun hformat => ⟨hformat, hnull, hleads⟩, And.left⟩
          (iff_of_false id fun h => h.2 hleads)
      · have hprovide := provideOutput_eq houtput hfolders
        exact .faulty (by simp [hnull]) (by simp [hnull]) _ (deliver_of_fault hstdout hprovide)
          (by simp)
      · have hprovide := provideOutput_eq houtput hfolders
        exact .stopped ⟨hnull, hleads⟩ trouble path (deliver_of_fault hstdout hprovide)

/-! ## A whole run -/

/-- The document that is built from an input can be. -/
def CanBuild (input : Input) : Prop :=
  ((Document.new (some input.name) {}).build input.text).2 = none

/-- A trouble with the input is reported. -/
theorem ends_convert_of_error {e : InputError} (h : readInput r s.input = .error e) :
    Ends r.disk True False (convert s r) := by
  rw [convert, h]
  exact .failed trivial rfl
    ⟨rfl, ⟨[], _, rfl, ⟨": ".toList ++ e.message ++ ['\n'], rfl⟩⟩, fun _ _ h => h⟩

theorem ends_convert_of_fault {input : Input} (h : readInput r s.input = .ok input)
    (hbuild : ¬CanBuild input) : Ends r.disk False False (convert s r) := by
  obtain ⟨fault, hfault⟩ := Option.ne_none_iff_exists'.1 hbuild
  have hpair : (Document.new (some input.name) {}).build input.text =
      (((Document.new (some input.name) {}).build input.text).1, some fault) := Prod.ext rfl hfault
  refine .faulty id id fault ?_ ?_
  · rw [convert, h]
    simp only
    rw [hpair]
  · rcases Document.of_build_eq_some hfault with rfl | rfl
    · exact fun _ _ h => nomatch h
    · exact fun _ _ h => nomatch h

/-- A document that has been built comes to the last stage, and can be written. -/
theorem ends_convert_of_built {input : Input} (h : readInput r s.input = .ok input)
    (hbuild : CanBuild input) :
    Ends r.disk (CanFollow s r.disk) (IsBlocked s r.disk) (convert s r) := by
  have hpair : (Document.new (some input.name) {}).build input.text =
      (((Document.new (some input.name) {}).build input.text).1, none) := Prod.ext rfl hbuild
  have hname : ((Document.new (some input.name) {}).build input.text).1.name.isSome = true := by
    rw [Document.name_build]
    rfl
  obtain ⟨messages, hmessages⟩ := exists_warnings_eq input.text
    ((((Document.new (some input.name) {}).build input.text).1).reading.getD
      (.notApplicable .emptyInput))
  have hends := ends_deliver s r.disk (Document.exists_render rfl hbuild) hname input.name messages
  rw [← hmessages] at hends
  rw [convert, h]
  simp only
  rw [hpair]
  exact hends.with_log _

/-- How a run with settings ends. -/
theorem ends_convert (s : Settings) (r : Request) :
    Ends r.disk
      (∀ input, readInput r s.input = .ok input → CanBuild input ∧ CanFollow s r.disk)
      (∃ input, readInput r s.input = .ok input ∧ CanBuild input ∧ IsBlocked s r.disk)
      (convert s r) := by
  cases hinput : readInput r s.input with
  | error e => exact (ends_convert_of_error hinput).congr (by simp) (by simp)
  | ok input =>
    by_cases hbuild : CanBuild input
    · exact (ends_convert_of_built hinput hbuild).congr (by simp [hbuild]) (by simp [hbuild])
    · exact (ends_convert_of_fault hinput hbuild).congr (by simp [hbuild]) (by simp [hbuild])

/-- How a run ends whose arguments are accepted.

    It ends with code 0 or 1 iff the input, unless it cannot be read, can be built and the
    settings can be followed. In that case whatever goes wrong with the input or with the
    file is reported, and no file has changed. It ends with a trouble of the disk iff a
    file is to be written, and the way to its folder is not clear. Every input can be
    built that fits into a memory. -/
theorem run_reports_trouble (r : Request) (s : Settings) (h : Options.parse r.arguments = .ok s) :
    ((run r).outcome = .ok 0 ∨ (run r).outcome = .ok 1 ↔
      ∀ input, readInput r s.input = .ok input → CanBuild input ∧ CanFollow s r.disk) ∧
    ((∃ trouble path, (run r).outcome = .error (.file trouble path)) ↔
      ∃ input, readInput r s.input = .ok input ∧ CanBuild input ∧ IsBlocked s r.disk) ∧
    ((run r).outcome = .ok 1 → Reported r.disk (run r)) ∧
    ∀ input : Input, input.text.length < Document.sizeLimit → CanBuild input := by
  have hrun : run r = convert s r := by rw [run, h]
  have hends := ends_convert s r
  have hfree : (∀ input, readInput r s.input = .ok input → CanBuild input ∧ CanFollow s r.disk) →
      ¬∃ input, readInput r s.input = .ok input ∧ CanBuild input ∧ IsBlocked s r.disk := by
    rintro hable ⟨input, hinput, -, hblocked⟩
    exact (hable input hinput).2.not_isBlocked hblocked
  rw [hrun]
  exact ⟨hends.code_iff hfree, hends.trouble_iff hfree, hends.reported,
    fun input => Document.build_default_eq_none rfl⟩

/-- The file is to be written where a folder is. -/
def ontoFolder : Request where
  arguments := ["order.flow".toList, "-o".toList, "out".toList, "-f".toList, "dsl".toList]
  stdin := []
  disk :=
    { entries := [(["order.flow".toList], .file (Text.Utf8.encode "A -> B".toList)),
        (["out".toList], .folder), (["out".toList, "order.dsl".toList], .folder)]
      here := [] }
  threshold := none

/-- A folder in the place of the file is reported. -/
theorem run_reports_trouble_onto_folder : ∃ s, Options.parse ontoFolder.arguments = .ok s ∧
    CanFollow s ontoFolder.disk ∧ (run ontoFolder).outcome = .ok 1 ∧
      Reported ontoFolder.disk (run ontoFolder) := by
  have hparse : Options.parse ontoFolder.arguments =
    .ok ⟨"order.flow".toList, some "out".toList, some .numbered, false, false⟩ := rfl
  have hone : (run ontoFolder).outcome = .ok 1 := by decide +kernel
  obtain ⟨hends, -, hreported, -⟩ := run_reports_trouble ontoFolder _ hparse
  exact ⟨_, hparse, (hends.1 (.inr hone) ⟨"order".toList, "A -> B".toList⟩ rfl).2, hone,
    hreported hone⟩

/-- The folder to write to is to be made where the input is. -/
def ontoInput : Request where
  arguments := ["order.flow".toList, "-o".toList, "order.flow".toList]
  stdin := []
  disk :=
    { entries := [(["order.flow".toList], .file (Text.Utf8.encode "A -> B".toList))]
      here := [] }
  threshold := none

/-- A file in the place of the folder is not reported. -/
theorem run_raises_taken : (∃ s, Options.parse ontoInput.arguments = .ok s) ∧
    (run ontoInput).outcome = .error (.file .taken "order.flow".toList) ∧
      (run ontoInput).stderr = [] :=
  ⟨⟨_, rfl⟩, by decide +kernel, by decide +kernel⟩

end FlowScript.Command
