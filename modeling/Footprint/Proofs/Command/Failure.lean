import Footprint.Proofs.Command.Request
import Footprint.Proofs.Workspace.Isolation
import Footprint.Proofs.Workspace.Reached

namespace Footprint

namespace Disk

variable {disk : Disk}

def visible (disk : Disk) (place : Path × String) : Store := (disk.directory place.1).visible place.2

/-- Every directory is one that handles have come to. -/
def Reached (disk : Disk) : Prop :=
  ∀ path directory, (path, directory) ∈ disk → ∃ desk : Desk, desk.Reached ∧ desk.directory = directory

def Sound (disk : Disk) : Prop := ∀ path directory, (path, directory) ∈ disk → directory.Sound

theorem Reached.sound (reached : disk.Reached) : disk.Sound := by
  intro path directory member
  obtain ⟨desk, reached, rfl⟩ := reached path directory member
  exact reached.orderly.directory

theorem Sound.put (sound : disk.Sound) {directory : Directory} (sound' : directory.Sound) (path : Path) :
    (disk.put path directory).Sound := by
  intro other known member
  rcases List.mem_append.mp member with old | new
  · exact sound other known (List.mem_of_mem_filter old)
  · cases List.mem_singleton.mp new
    exact sound'

theorem entry?_directory (disk : Disk) (path : Path) (file : String) :
    Directory.entry? (disk.directory path) file = Directory.entry? ((disk.lookup path).getD .missing) file := by
  unfold Disk.directory
  split
  case h_1 found | h_2 found =>
    rw [found]
    split
    · rfl
    · split <;> rfl
  case h_3 found =>
    rw [found]
    rfl

theorem Sound.directory (sound : disk.Sound) (path : Path) : (disk.directory path).Sound := by
  intro file database found
  rw [entry?_directory] at found
  cases listed : disk.lookup path with
  | none =>
    rw [listed] at found
    cases found
  | some directory =>
    rw [listed] at found
    exact sound path directory (mem_of_lookup listed) file database found

theorem visible_put (disk : Disk) (path : Path) (directory : Directory) (place : Path × String) :
    (disk.put path directory).visible place =
      if place.1 = path then directory.visible place.2 else disk.visible place := by
  have listed : (disk.put path directory).lookup place.1 = _ := lookup_replaced disk path directory place.1
  split
  case isTrue own =>
    refine Directory.visible_congr ?_
    rw [entry?_directory, listed, if_pos (beq_iff_eq.mpr own)]
    rfl
  case isFalse other =>
    refine Directory.visible_congr ?_
    rw [entry?_directory, listed, if_neg (by simpa using other), ← entry?_directory]

theorem visible_put_folder (disk : Disk) (path : Path) (place : Path × String) :
    (disk.put path (.folder (disk.directory path).entries)).visible place = disk.visible place := by
  rw [visible_put]
  split
  case isTrue own =>
    rw [visible, own]
    rfl
  case isFalse => rfl

end Disk

/-- What remains of the rows at several places after a failure: all of them, and possibly a new domain. -/
def Request.Remains {ι : Type} (request : Request) (before after : ι → Store) : Prop :=
  (∀ i, after i = before i) ∨
    ∃ i, DomainStays (before i) request (after i) ∧ ∀ other, other ≠ i → after other = before other

namespace Request.Remains

variable {request : Request} {disk : Disk} {path : Path}

theorem put {after : Directory} (remains : request.Remains (disk.directory path).visible after.visible) :
    request.Remains disk.visible (disk.put path after).visible := by
  rcases remains with same | ⟨file, stays, others⟩
  · refine .inl fun place => ?_
    rw [Disk.visible_put]
    split
    case isTrue own => rw [same, Disk.visible, own]
    case isFalse => rfl
  · refine .inr ⟨(path, file), ?_, fun place different => ?_⟩
    · rw [Disk.visible_put, if_pos rfl]
      exact stays
    · rw [Disk.visible_put]
      split
      case isTrue own =>
        rw [others place.2 fun same => different (Prod.ext own same), Disk.visible, own]
      case isFalse => rfl

theorem congr {ι : Type} {before between after : ι → Store} (same : ∀ i, between i = before i)
    (remains : request.Remains between after) : request.Remains before after := by
  obtain rfl : between = before := funext same
  exact remains

end Request.Remains

namespace Command

variable {engine : Sql.Engine} {d : Directory} {disk : Disk} {request : Request} {workspace file : String}

theorem of_reported {result : Except Fault Answer} (failed : (reported result).code ≠ 0) :
    Request.isDone result = false ∧ (reported result).output = "" := by
  cases result with
  | error fault => exact ⟨rfl, rfl⟩
  | ok answer =>
    cases answer with
    | error message => exact ⟨rfl, rfl⟩
    | ok lines => exact absurd rfl failed

theorem executeOn_remains (sound : d.Sound) (failed : (executeOn engine d workspace file request).2.code ≠ 0) :
    (executeOn engine d workspace file request).2.output = "" ∧
      request.Remains d.visible (executeOn engine d workspace file request).1.visible := by
  have opening (other : String) := Directory.visible_openFile sound file other
  cases opened : d.openFile file with
  | mk after result =>
    rw [opened] at opening
    cases result with
    | error fault =>
      rw [executeOn_of_refused opened]
      exact ⟨rfl, .inl opening⟩
    | ok database =>
      have opens := Directory.openFile_snd_eq_ok.mp (congrArg Prod.snd opened)
      obtain rfl := opens.eq sound
      have orderly : Session.Orderly { database := ⟨true, .initial, d.visible file⟩, enforced := true } :=
        .of_settled rfl rfl (.head (sound.visible file))
      have leaves := Request.leaves_of_failed orderly.sound rfl engine request
      cases run : Footprint.perform (perform engine request)
          { database := ⟨true, .initial, d.visible file⟩, enforced := true } with
      | mk result t =>
        rw [run] at leaves
        rw [executeOn_of_opened opened run] at failed ⊢
        obtain ⟨refused, silent⟩ := of_reported failed
        refine ⟨silent, ?_⟩
        -- No rows were changed by opening the file, so that all that counts is what the request wrote to it.
        have written (other : String) : (after.put file (.database t.database)).visible other =
            if other = file then t.database.visible else d.visible other := by
          rw [Directory.visible_put, opening other]
          rfl
        rcases leaves refused with same | ⟨store, made, stays⟩
        · refine .inl fun other => ?_
          rw [written, same]
          split
          case isTrue own =>
            rw [own]
            rfl
          case isFalse => rfl
        · refine .inr ⟨file, ?_, fun other different => ?_⟩
          · rw [written, if_pos rfl, made]
            exact stays
          · rw [written, if_neg different]

def FailsCleanly (disk : Disk) (request : Request) (result : Disk × Report) : Prop :=
  result.2.code ≠ 0 → result.2.output = "" ∧ request.Remains disk.visible result.1.visible

theorem failsCleanly_failed (disk : Disk) (request : Request) (text : String) :
    FailsCleanly disk request (disk, Command.failed text) := fun _ => ⟨rfl, .inl fun _ => rfl⟩

theorem executeAt_failsCleanly (sound : disk.Sound) (location : Location) (workspace : String) (request : Request) :
    FailsCleanly disk request (executeAt engine disk location workspace request) := by
  unfold executeAt
  cases location with
  | memory =>
    intro failed
    have empty : Directory.Sound (.folder []) := nofun
    exact ⟨(executeOn_remains empty failed).1, .inl fun _ => rfl⟩
  | file path =>
    dsimp only
    split
    · exact failsCleanly_failed _ _ _
    · split
      case h_1 entries held =>
        split
        · exact failsCleanly_failed _ _ _
        · intro failed
          obtain ⟨silent, remains⟩ := executeOn_remains (held ▸ sound.directory _) failed
          exact ⟨silent, .put (held ▸ remains)⟩
      case h_2 => exact failsCleanly_failed _ _ _

theorem execute_failsCleanly (sound : disk.Sound) (site : Site) (request : Request) :
    FailsCleanly disk request (execute engine disk site request) := by
  unfold execute
  cases prepared : (disk.directory site.directory).prepared site.workspace with
  | error fault => exact failsCleanly_failed _ _ _
  | ok made =>
    obtain ⟨-, -, rfl⟩ := Directory.prepared_eq_ok.mp prepared
    have sound' : Directory.Sound (.folder (disk.directory site.directory).entries) := sound.directory site.directory
    intro failed
    obtain ⟨silent, remains⟩ := executeAt_failsCleanly (sound.put sound' site.directory) _ _ _ failed
    exact ⟨silent, remains.congr (disk.visible_put_folder site.directory)⟩

def Invocation.lacksValue (i : Invocation) : Prop := i.workspace = none ∨ i.dataDir = some none

theorem Invocation.lacksValue_of_site {i : Invocation} {settings : Settings}
    (lacking : i.site settings = .error .lackingValue) : i.lacksValue := by
  unfold Invocation.site at lacking
  split at lacking
  case h_1 unnamed => exact .inl unnamed
  case h_2 => cases lacking
  case h_3 unplaced =>
    right
    unfold Invocation.directory? at unplaced
    split at unplaced
    case h_1 named asked =>
      rw [asked, Option.map_eq_none_iff.mp unplaced]
    case h_2 => cases unplaced

/-- A command is carried out unless an option lacks its value. If it fails, it prints no output, and all rows of all
    workspaces are as before. Only the addition of a subdomain whose value is refused, or for whose domain no id is
    left, leaves something: its domain, if that is new. -/
theorem run_failing_leaves_workspaces {settings : Settings} {words : List AnyText} {invocation : Invocation}
    (reached : disk.Reached) (accepted : read settings.defaultWorkspace words = .run invocation) :
    (run? engine settings disk words = none ∧ invocation.lacksValue) ∨
      ∃ after report, run? engine settings disk words = some (after, report) ∧ (report.code ≠ 0 → report.output = "" ∧
        ((∀ place, after.visible place = disk.visible place) ∨
          ∃ place, Request.DomainStays (disk.visible place) invocation.request (after.visible place) ∧
            ∀ other, other ≠ place → after.visible other = disk.visible other)) := by
  unfold run?
  rw [accepted]
  dsimp only
  split
  case h_1 lacking => exact .inl ⟨rfl, Invocation.lacksValue_of_site lacking⟩
  case h_2 fault refused =>
    exact .inr ⟨disk, _, rfl, failsCleanly_failed disk invocation.request (errorText fault)⟩
  case h_3 site placed =>
    exact .inr ⟨_, _, rfl, execute_failsCleanly reached.sound site invocation.request⟩

/-- A URL whose subdomain is not known is refused, and the domain that is stored remains alone. -/
theorem run_failing_leaves_workspaces_of_unknown_subdomain :
    let settings : Settings := ⟨"recongraph", false, Path.ofString "/data", "default"⟩
    let place := (Path.ofString "/data", "default.db")
    let insertion : Session.Call := .event (.operation (.insertDomain (.text "example.com"))) rfl
    let desk := ((Desk.openWorkspace {} "h" "default").2.run "h" insertion.action).2
    let disk : Disk := [(place.1, desk.directory)]
    ∃ after report,
      run? .basic settings disk ["add", "url", "https://a.example.com/", "a.example.com"] = some (after, report) ∧
      report.code = 1 ∧ report.output = "" ∧ after.visible place = disk.visible place ∧
      (disk.visible place).rows.map Row.subject = [.domain "example.com"] := by
  intro settings place insertion desk disk
  have reached : disk.Reached := by
    intro path directory member
    cases List.mem_singleton.mp member
    have start : Desk.Reached {} := .bare nofun
    exact ⟨desk, (start.establish "h" "default").call "h" insertion, rfl⟩
  let words : List AnyText := ["add", "url", "https://a.example.com/", "a.example.com"]
  let request : Request := .add .url (some (.plain "https://a.example.com/")) (some (.plain "a.example.com"))
  have accepted : read settings.defaultWorkspace words = .run ⟨some "default", none, request⟩ := by decide +kernel
  obtain ⟨⟨after, report⟩, ran, code⟩ : ∃ result, run? .basic settings disk words = some result ∧ result.2.code = 1 :=
    Option.map_eq_some_iff.mp (by decide +kernel)
  have failed : report.code ≠ 0 := ne_of_eq_of_ne code (by decide)
  obtain ⟨unanswered, -⟩ | ⟨after', report', ran', cleanly⟩ := run_failing_leaves_workspaces reached accepted
  · cases unanswered.symm.trans ran
  · cases ran'.symm.trans ran
    obtain ⟨silent, same | ⟨_, stays, -⟩⟩ := cleanly failed
    · exact ⟨after, report, ran, code, silent, same place, by decide +kernel⟩
    · cases stays

/-- An empty text is refused as a subdomain, and the new domain that came with it stays. -/
theorem refused_subdomain_leaves_domain :
    let settings : Settings := ⟨"recongraph", false, Path.ofString "/data", "default"⟩
    let place := (Path.ofString "/data", "default.db")
    Disk.Reached [] ∧ (Disk.visible [] place).rows = [] ∧
      (run? .basic settings [] ["add", "subdomain", "", "example.com"]).map (fun (after, report) =>
        (report.code, report.output, (after.visible place).rows.map Row.subject)) =
          some (1, "", [.domain "example.com"]) :=
  ⟨nofun, by decide +kernel, by decide +kernel⟩

end Command
end Footprint
