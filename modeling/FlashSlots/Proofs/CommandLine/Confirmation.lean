import Mathlib
import FlashSlots.CommandLine.Program
import FlashSlots.Proofs.Flash.Attempts
import FlashSlots.Proofs.Flash.Deployment
import FlashSlots.Proofs.Outcome
import FlashSlots.Proofs.Text.Blank

namespace FlashSlots

open Flash (Attempt Backend Report Request TransportError)

/-!
# Nothing is written before it is agreed

Between a command line and the first request to a programmer stand several
decisions: the programmer has to be known, the build has to be read and to fit
the slot, it must not be a dry run, and someone has to say yes.  As long as one
of them is missing, the command does not depend on what programmers do, and the
files stay as they are.

Once all of them are made, there is exactly one session.  What it asks for can
be seen at stations that note it in their files, and what the command reports
follows from the answers.
-/

namespace CommandLine

/-! ## Words for yes -/

/-- The first line of the answer is `y` or `yes`, in small letters or capitals,
with nothing but blanks around it. -/
def Yes (answer : ByteArray) : Prop :=
  ∃ before word after,
    String.fromUTF8? ⟨(firstLine answer).toArray⟩ =
      some (String.ofList (before ++ word ++ after)) ∧
    (∀ char ∈ before, Text.isBlank char = true) ∧
    word.map Char.toLower ∈ [['y'], ['y', 'e', 's']] ∧
    ∀ char ∈ after, Text.isBlank char = true

/-- The letters of a word for yes are no blanks. -/
theorem isBlank_of_yes {word : List Char}
    (yes : word.map Char.toLower ∈ [['y'], ['y', 'e', 's']]) :
    word ≠ [] ∧ ∀ char ∈ word, Text.isBlank char = false := by
  constructor
  · rintro rfl
    exact absurd yes (by decide)
  · intro char listed
    by_contra blank
    rw [Bool.not_eq_false] at blank
    have same := Text.toLower_of_isBlank blank
    have letter : char ∈ word.map Char.toLower := List.mem_map.mpr ⟨char, listed, same⟩
    have known : char ∈ ['y', 'e', 's'] := by
      simp only [List.mem_cons, List.not_mem_nil, or_false] at yes
      rcases yes with one | whole
      · rw [one] at letter
        exact List.mem_cons.mpr (.inl (List.mem_singleton.mp letter))
      · exact whole ▸ letter
    simp only [List.mem_cons, List.not_mem_nil, or_false] at known
    rcases known with rfl | rfl | rfl
    all_goals exact absurd blank (by decide)

theorem agrees_eq_ok_true_iff {answer : ByteArray} : agrees answer = .ok true ↔ Yes answer := by
  constructor
  · intro agreed
    unfold agrees at agreed
    split at agreed
    · cases agreed
    · next line decoded =>
      rcases Text.exists_blanks line.toList with ⟨before, after, parts, front, back⟩
      refine ⟨before, Text.trim line.toList, after, ?_, front, ?_, back⟩
      · rw [decoded, ← parts, String.ofList_toList]
      · simpa using agreed
  · rintro ⟨before, word, after, decoded, front, yes, back⟩
    rcases isBlank_of_yes yes with ⟨full, solid⟩
    unfold agrees
    rw [decoded]
    dsimp only
    rw [String.toList_ofList, Text.trim_of_blanks solid full front back]
    simpa using yes

theorem agrees_eq_error {answer : ByteArray} {cause : CommandError}
    (failed : agrees answer = .error cause) :
    cause = .unreadableAnswer ∧ String.fromUTF8? ⟨(firstLine answer).toArray⟩ = none := by
  unfold agrees at failed
  split at failed
  · next unreadable =>
    cases failed
    exact ⟨rfl, unreadable⟩
  · cases failed

/-! ## The decisions in front of a session -/

/-- The flash command from its settings to its end, with an answer in case it
asks. -/
def flashed (stations : Stations) (settings : Settings) (inputs : Inputs) (options : FlashOptions)
    (answer : ByteArray) (tree : FileTree) : Run :=
  Program.finish stations answer (Program.startFlashing stations settings inputs options tree)

/-- It is what the program does for a command line that asks to flash. -/
theorem run_flash [Compression.Writers] (stations : Stations) (extra : Option String)
    (inputs : Inputs) (options : FlashOptions) (answer : ByteArray) (tree : FileTree) :
    Program.run stations ⟨extra, .flash inputs options⟩ answer tree =
      flashed stations (Program.settings tree extra) inputs options answer tree :=
  rfl

section

variable (settings : Settings) (inputs : Inputs) (options : FlashOptions) (answer : ByteArray)
  (tree : FileTree)

/-- Every decision is made to write this plan with this programmer. -/
structure Agreed (backend : Backend) (plan : WritePlan) : Prop where
  registered : Backend.ofName? (options.apply settings).backend = some backend
  planned : ∃ build target, inputs.source.read tree = .ok build ∧
    inputs.choice.targetFor build = .ok target ∧ package target build = .ok plan
  meant : options.dryRun = false
  confirmed : options.noconfirm = true ∨ Yes answer

/-- A decision is against writing, and the command ends with this result. -/
inductive Stopped (stations : Stations) : Except CommandError String -> Prop where
  | unregistered (unknown : Backend.ofName? (options.apply settings).backend = none) :
    Stopped stations (.error (.unknownBackend (options.apply settings).backend))
  | unread {cause : CommandError} (unread : inputs.source.read tree = .error cause) :
    Stopped stations (.error cause)
  | unplaced {build : Build} {cause : CommandError} (read : inputs.source.read tree = .ok build)
      (unplaced : inputs.choice.targetFor build = .error cause) :
    Stopped stations (.error cause)
  | invalid {build : Build} {target : Layout.Target} {cause : PackageError}
      (read : inputs.source.read tree = .ok build)
      (placed : inputs.choice.targetFor build = .ok target)
      (invalid : package target build = .error cause) :
    Stopped stations (.error (.package cause))
  /-- A dry run says what would be done. -/
  | listed {backend : Backend} {plan : WritePlan} (dry : options.dryRun = true)
      (registered : Backend.ofName? (options.apply settings).backend = some backend)
      (planned : inputs.plan tree = .ok plan) :
    Stopped stations (.ok (describePlan plan ++ "\n" ++ "\n".intercalate
      (Flash.dryRun (stations backend (options.apply settings)).programmer options.mode plan)))
  | unreadable (asked : options.noconfirm = false)
      (unreadable : String.fromUTF8? ⟨(firstLine answer).toArray⟩ = none) :
    Stopped stations (.error .unreadableAnswer)
  | declined (asked : options.noconfirm = false) (declined : ¬ Yes answer) :
    Stopped stations (.error .declined)

end

/-- What the command reports about a session. -/
def reported (plan : WritePlan) : Except TransportError Report -> Except CommandError String
  | .ok report => .ok (describeReport plan report)
  | .error cause => .error (.transport cause)

/-- The stations with a record of what their programmers are asked for. -/
def Stations.noting (leave : List Request -> FileTree -> FileTree) (stations : Stations) :
    Stations :=
  fun backend settings => (stations backend settings).noting leave

/-- The programmers of the stations say the same about writes that are not
made. -/
def SameListings (stations others : Stations) : Prop :=
  ∀ backend settings,
    (others backend settings).programmer.describe = (stations backend settings).programmer.describe

theorem sameListings_noting (leave : List Request -> FileTree -> FileTree)
    (stations : Stations) : SameListings stations (stations.noting leave) :=
  fun _ _ => rfl

section

variable {settings : Settings} {inputs : Inputs} {options : FlashOptions} {answer : ByteArray}
  {tree : FileTree} {backend : Backend} {plan : WritePlan}

theorem Inputs.plan_eq_ok_iff : inputs.plan tree = .ok plan ↔
    ∃ build target, inputs.source.read tree = .ok build ∧
      inputs.choice.targetFor build = .ok target ∧ package target build = .ok plan := by
  simp only [Inputs.plan, bind_eq_ok_iff, mapError_eq_ok_iff, exists_and_left]

theorem stopped_of_unplanned {stations : Stations} {cause : CommandError}
    (unplanned : inputs.plan tree = .error cause) :
    Stopped settings inputs options answer tree stations (.error cause) := by
  simp only [Inputs.plan, bind_eq_error_iff] at unplanned
  rcases unplanned with unread | ⟨build, read, unplaced | ⟨target, placed, failed⟩⟩
  · exact .unread unread
  · exact .unplaced read unplaced
  · cases packaged : package target build with
    | error refusal =>
      rw [packaged] at failed
      cases failed
      exact .invalid read placed packaged
    | ok plan =>
      rw [packaged] at failed
      cases failed

section

variable (answer) (registered : Backend.ofName? (options.apply settings).backend = some backend)
  (planned : inputs.plan tree = .ok plan) (meant : options.dryRun = false) (stations : Stations)

include registered planned meant

theorem flashed_of_noconfirm (unasked : options.noconfirm = true) :
    flashed stations settings inputs options answer tree =
      let (result, left) := Proposal.carryOut stations
        ⟨options.apply settings, backend, options.mode, plan⟩ tree
      ⟨describePlan plan ++ "\n", result, left⟩ := by
  simp [flashed, Program.startFlashing, consider, registered, planned, meant, unasked,
    Program.finish]

theorem flashed_of_question (asked : options.noconfirm = false) :
    flashed stations settings inputs options answer tree =
      let proposal := ⟨options.apply settings, backend, options.mode, plan⟩
      let (result, left) := Proposal.answered stations proposal answer tree
      ⟨describePlan plan ++ "\n" ++ proposal.question, result, left⟩ := by
  simp [flashed, Program.startFlashing, consider, registered, planned, meant, asked,
    Program.finish]

end

/-- If one decision is missing, the command ends in the same way for all
stations, and the files stay as they are. -/
theorem stopped_of_not_agreed (stations : Stations)
    (missing : ¬ ∃ backend plan, Agreed settings inputs options answer tree backend plan) :
    Stopped settings inputs options answer tree stations
        (flashed stations settings inputs options answer tree).result ∧
      (flashed stations settings inputs options answer tree).tree = tree ∧
      ∀ others, SameListings stations others ->
        flashed others settings inputs options answer tree =
          flashed stations settings inputs options answer tree := by
  -- The decisions are made one after the other, and the first one that is missing ends it.
  cases registered : Backend.ofName? (options.apply settings).backend with
  | none =>
    have ended (others : Stations) : flashed others settings inputs options answer tree =
        ⟨"", .error (.unknownBackend (options.apply settings).backend), tree⟩ := by
      simp only [flashed, Program.startFlashing, consider, registered, Program.finish]
    rw [ended stations]
    exact ⟨.unregistered registered, rfl, fun others _ => ended others⟩
  | some backend =>
    cases planned : inputs.plan tree with
    | error cause =>
      have ended (others : Stations) : flashed others settings inputs options answer tree =
          ⟨"", .error cause, tree⟩ := by
        simp only [flashed, Program.startFlashing, consider, registered, planned, Program.finish]
      rw [ended stations]
      exact ⟨stopped_of_unplanned planned, rfl, fun others _ => ended others⟩
    | ok plan =>
      cases dry : options.dryRun with
      | true =>
        have ended (others : Stations) : flashed others settings inputs options answer tree =
            ⟨"", .ok (describePlan plan ++ "\n" ++ "\n".intercalate (Flash.dryRun
              (others backend (options.apply settings)).programmer options.mode plan)), tree⟩ := by
          simp only [flashed, Program.startFlashing, consider, registered, planned, dry, if_pos,
            Program.finish]
        rw [ended stations]
        refine ⟨.listed dry registered planned, rfl, fun others same => ?_⟩
        rw [ended others, Flash.dryRun, Flash.dryRun, same]
      | false =>
        have agreed (confirmed : options.noconfirm = true ∨ Yes answer) :
            Agreed settings inputs options answer tree backend plan :=
          ⟨registered, Inputs.plan_eq_ok_iff.mp planned, dry, confirmed⟩
        cases asked : options.noconfirm with
        | true => exact absurd ⟨backend, plan, agreed (.inl asked)⟩ missing
        | false =>
          have ended (others : Stations) :=
            flashed_of_question answer registered planned dry others asked
          simp only [Proposal.answered] at ended
          cases answered : agrees answer with
          | error cause =>
            rcases agrees_eq_error answered with ⟨rfl, unreadable⟩
            simp only [answered] at ended
            rw [ended stations]
            exact ⟨.unreadable asked unreadable, rfl, fun others _ => ended others⟩
          | ok yes =>
            cases yes with
            | true =>
              have yes := agrees_eq_ok_true_iff.mp answered
              exact absurd ⟨backend, plan, agreed (.inr yes)⟩ missing
            | false =>
              have declined : ¬ Yes answer := by
                rw [← agrees_eq_ok_true_iff, answered]
                intro impossible
                cases impossible
              simp only [answered] at ended
              rw [ended stations]
              exact ⟨.declined asked declined, rfl, fun others _ => ended others⟩

theorem carryOut_eq (stations : Stations) (proposal : Proposal) :
    proposal.carryOut stations tree =
      let (outcome, left) :=
        (stations proposal.backend proposal.settings).run proposal.mode proposal.plan tree
      (reported proposal.plan outcome.result, left) := by
  rcases ran : (stations proposal.backend proposal.settings).run proposal.mode proposal.plan tree
    with ⟨outcome, left⟩
  rw [Proposal.carryOut, ran]
  dsimp only
  cases outcome.result with
  | error cause => rfl
  | ok report => rfl

/-- Once every decision is made, there is a session at the station. -/
theorem flashed_of_agreed (agreed : Agreed settings inputs options answer tree backend plan) :
    ∃ printed, ∀ stations, flashed stations settings inputs options answer tree =
      let (outcome, left) :=
        (stations backend (options.apply settings)).run options.mode plan tree
      ⟨printed, reported plan outcome.result, left⟩ := by
  have planned := Inputs.plan_eq_ok_iff.mpr agreed.planned
  cases asked : options.noconfirm with
  | true =>
    refine ⟨describePlan plan ++ "\n", fun stations => ?_⟩
    rw [flashed_of_noconfirm answer agreed.registered planned agreed.meant stations asked,
      carryOut_eq]
  | false =>
    have yes : Yes answer := by
      rcases agreed.confirmed with unasked | yes
      · cases asked.symm.trans unasked
      · exact yes
    refine ⟨describePlan plan ++ "\n" ++
      Proposal.question ⟨options.apply settings, backend, options.mode, plan⟩, fun stations => ?_⟩
    rw [flashed_of_question answer agreed.registered planned agreed.meant stations asked]
    simp only [Proposal.answered, agrees_eq_ok_true_iff.mpr yes, carryOut_eq]

end

/-- As long as a decision is missing, nothing is asked of any programmer: the
command ends for the reason that is missing, in the same way whatever the
programmers do, and leaves the files as they are, so that a station has noted
nothing.  Once every decision is made, the programmer is asked for an attempt
at the plan, and the command reports what comes of the attempt. -/
theorem flashing_waits_for_agreement (stations : Stations) (settings : Settings) (inputs : Inputs)
    (options : FlashOptions) (answer : ByteArray) (tree : FileTree) :
    ((¬ ∃ backend plan, Agreed settings inputs options answer tree backend plan) ->
      Stopped settings inputs options answer tree stations
          (flashed stations settings inputs options answer tree).result ∧
        (flashed stations settings inputs options answer tree).tree = tree ∧
        (∀ others, SameListings stations others ->
          flashed others settings inputs options answer tree =
            flashed stations settings inputs options answer tree) ∧
        ∀ leave, (flashed (stations.noting leave) settings inputs options answer tree).tree =
          tree) ∧
    ∀ backend plan, Agreed settings inputs options answer tree backend plan ->
      ∃ record outcome,
        Attempt (stations backend (options.apply settings)).programmer.name options.mode plan
          record outcome ∧
        (flashed stations settings inputs options answer tree).result = reported plan outcome ∧
        ∀ leave, flashed (stations.noting leave) settings inputs options answer tree =
          { flashed stations settings inputs options answer tree with
            tree := leave record (flashed stations settings inputs options answer tree).tree } := by
  constructor
  · intro missing
    rcases stopped_of_not_agreed stations missing with ⟨stopped, kept, same⟩
    refine ⟨stopped, kept, same, fun leave => ?_⟩
    rw [same _ (sameListings_noting leave stations), kept]
  · intro backend plan agreed
    rcases flashed_of_agreed agreed with ⟨printed, carried⟩
    rcases (stations backend (options.apply settings)).run_noting options.mode plan tree with
      ⟨record, attempt, noted⟩
    refine ⟨record, _, attempt, ?_, fun leave => ?_⟩
    · rw [carried stations]
    · rw [carried (stations.noting leave), Stations.noting, noted leave, carried stations]

/-! ## Two answers -/

/-- The files of a small build. -/
def tinyTree : FileTree where
  home := ["bench"]
  nodes := [(["bench", "top.bit"], .file ⟨#[1, 2, 3, 4]⟩),
    (["bench", "m.json"], .file Package.tinyBuild.manifest.toJson),
    (["bench", "fw.bin"], .file ⟨#[7, 8, 9]⟩)]

def tinyInputs : Inputs := ⟨.slot 1, .loose "top.bit" "m.json" ["fw.bin"]⟩

theorem read_tinyTree : tinyInputs.source.read tinyTree = .ok Package.tinyBuild := by
  have manifest : tinyTree.read "m.json" = .ok Package.tinyBuild.manifest.toJson := rfl
  have parsed : Manifest.parse Package.tinyBuild.manifest.toJson =
      .ok Package.tinyBuild.manifest := Manifest.parseOctets_render _
  have bitstream : tinyTree.read "top.bit" = .ok ⟨#[1, 2, 3, 4]⟩ := rfl
  have firmware : ["fw.bin"].mapM (BuildSource.readArtifact tinyTree) =
      .ok [⟨"fw.bin", ⟨#[7, 8, 9]⟩⟩] := rfl
  change BuildSource.readLoose tinyTree "top.bit" "m.json" ["fw.bin"] = _
  rw [BuildSource.readLoose, manifest, bitstream, firmware]
  dsimp only [Except.mapError, bind, Except.bind]
  rw [parsed]
  rfl

/-- The stations at which everything works and nothing happens. -/
def idleStations : Stations := fun _ _ =>
  { State := FileTree
    programmer :=
      { name := "idle"
        acquire := (.ok (), ·)
        write := fun _ _ _ _ => (.ok (), ·)
        release := (.ok (), ·)
        describe := fun _ op => op.describe }
    setUp := id
    files := id }

/-- Ask, and write into flash. -/
def plainOptions : FlashOptions := ⟨false, false, false, none, none⟩

/-- A yes with a blank and a capital is followed by an attempt, and a no leaves
the files alone. -/
theorem tinyTree_answered :
    (Agreed .standard tinyInputs plainOptions ⟨#[0x20, 0x59, 0x65, 0x73, 0x0A]⟩ tinyTree .loader
        Package.tinyPlan ∧
      ∃ record outcome, Attempt "idle" .persistent Package.tinyPlan record outcome ∧
        (flashed idleStations .standard tinyInputs plainOptions ⟨#[0x20, 0x59, 0x65, 0x73, 0x0A]⟩
          tinyTree).result = reported Package.tinyPlan outcome) ∧
    (¬ ∃ backend plan, Agreed .standard tinyInputs plainOptions ⟨#[0x6E, 0x0A]⟩ tinyTree backend
        plan) ∧
      (flashed idleStations .standard tinyInputs plainOptions ⟨#[0x6E, 0x0A]⟩ tinyTree).tree =
        tinyTree := by
  have yes : agrees ⟨#[0x20, 0x59, 0x65, 0x73, 0x0A]⟩ = .ok true := by cbv
  have no : agrees ⟨#[0x6E, 0x0A]⟩ = .ok false := by cbv
  have agreed : Agreed .standard tinyInputs plainOptions ⟨#[0x20, 0x59, 0x65, 0x73, 0x0A]⟩ tinyTree
      .loader Package.tinyPlan :=
    ⟨rfl, ⟨_, _, read_tinyTree, rfl, Package.package_tinyBuild⟩, rfl,
      .inr (agrees_eq_ok_true_iff.mp yes)⟩
  have missing : ¬ ∃ backend plan,
      Agreed .standard tinyInputs plainOptions ⟨#[0x6E, 0x0A]⟩ tinyTree backend plan := by
    rintro ⟨backend, plan, agreed⟩
    rcases agreed.confirmed with unasked | yes
    · cases unasked
    · cases no.symm.trans (agrees_eq_ok_true_iff.mpr yes)
  refine ⟨⟨agreed, ?_⟩, missing, ?_⟩
  · rcases (flashing_waits_for_agreement idleStations _ _ _ _ _).2 _ _ agreed with
      ⟨record, outcome, attempt, result, _⟩
    exact ⟨record, outcome, attempt, result⟩
  · exact ((flashing_waits_for_agreement idleStations _ _ _ _ _).1 missing).2.1

end CommandLine
end FlashSlots
