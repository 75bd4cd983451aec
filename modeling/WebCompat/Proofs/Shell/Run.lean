import WebCompat.Proofs.Lookup.Settings
import WebCompat.Proofs.Report.Confinement
import WebCompat.Proofs.Shell.Dotenv
import WebCompat.Proofs.Text.Span
import WebCompat.Shell.Run

/-!
How the command ends. Whether it fails, and with which error, is decided by its arguments, the files
and the variables before anything is looked up; what a service answers only shows in the output.

Owns: which commands fail; that two services never make a difference to how a run ends; and that an
analysis without lookups depends neither on a service nor on the variables, unless a variable that
the nearest file `.env` assigns cannot be held.
-/

namespace WebCompat

open Arguments (Command)

/-! ## What a command needs -/

/-- Whether a file is there and holds a text. -/
def Files.Holds (files : Files) (path text : String) : Prop :=
  files.read path = .ok (Text.stringBytes text)

/-- The kind of a file: the language if one is given, else what the path tells. -/
def DocumentKind.ofFile (path : String) (language : Option String) : DocumentKind :=
  (language.map DocumentKind.ofLanguageId).getD (DocumentKind.ofPath (Text.stringBytes path))

/-- Whether a word of a text is at a line and a column, which count from zero. -/
def DocumentKind.HasWordAt (kind : DocumentKind) (text : String) (line column : Nat) : Prop :=
  ∃ lineText word, (Text.lines text)[line]? = some lineText ∧
    Text.IsWordAt kind.inWord lineText column word

/-- Whether a command fails: its file holds no text; it makes lookups, and a variable is set to a
text that cannot be used for them; or it asks for a word where there is none. -/
def Arguments.Command.Fails (files : Files) (environment : Environment) : Command → Prop
  | .analyze path _ isOffline _ =>
      (¬ ∃ text, files.Holds path text) ∨ (isOffline = false ∧ Settings.IsUnusable environment)
  | .hover path line column language _ =>
      line = 0 ∨ column = 0 ∨ (¬ ∃ text, files.Holds path text) ∨
        Settings.IsUnusable environment ∨
        ∃ text, files.Holds path text ∧
          ¬ (DocumentKind.ofFile path language).HasWordAt text (line - 1) (column - 1)

theorem Files.readText_eq_ok_iff {files : Files} {path text : String} :
    files.readText path = .ok text ↔ files.Holds path text := by
  unfold readText Holds
  cases files.read path with
  | error => simp [bind, Except.bind]
  | ok content =>
      simp only [bind, Except.bind, Except.ok.injEq, ← Text.ofBytes?_eq_some_iff]
      cases Text.ofBytes? content <;> simp [pure, Except.pure]

namespace World

variable (world : World)

theorem document_eq_ok_iff {path : String} {language : Option String} {kind : DocumentKind}
    {text : String} :
    world.document path language = .ok (kind, text) ↔
      kind = DocumentKind.ofFile path language ∧ world.files.Holds path text := by
  rw [← Files.readText_eq_ok_iff]
  unfold document DocumentKind.ofFile
  cases world.files.readText path with
  | error => simp [bind, Except.bind, Except.mapError]
  | ok content => simp [bind, Except.bind, Except.mapError, pure, Except.pure, eq_comm]

/-- A document is there if its file holds a text, whatever its language. -/
theorem exists_document_iff (path : String) (language : Option String) :
    (∃ document, world.document path language = .ok document) ↔
      ∃ text, world.files.Holds path text := by
  simp only [Prod.exists, document_eq_ok_iff, exists_and_left, exists_eq_left]

/-- A client can be set up unless a variable cannot be used. -/
theorem exists_client_iff :
    (∃ client, world.client = .ok client) ↔ ¬ Settings.IsUnusable world.environment := by
  rw [← Settings.exists_client_iff]
  unfold client
  cases (Settings.ofEnvironment world.environment).bind Client.ofSettings <;>
    simp [Except.mapError]

end World

theorem DocumentKind.hasWordAt_iff {kind : DocumentKind} {text : String} {line column : Nat} :
    kind.HasWordAt text line column ↔
      ∃ span, ((Text.lines text)[line]?.bind fun lineText => wordAt? kind lineText column) =
        some span := by
  unfold HasWordAt
  simp only [exists_and_left, ← Text.exists_spanAt?_iff, Option.bind_eq_some_iff]
  constructor
  · rintro ⟨lineText, isLine, span, isFound⟩
    exact ⟨span, lineText, isLine, isFound⟩
  · rintro ⟨span, lineText, isLine, isFound⟩
    exact ⟨lineText, isLine, span, isFound⟩

/-! ## One command -/

/-- The error of a command, if it failed. -/
def failureOf : Written → Option RunError
  | .ok _ => none
  | .error error => some error

namespace World

variable (world : World)

private theorem failureOf_analyze (path : String) (language : Option String) (isOffline : Bool)
    (format : Arguments.OutputFormat) :
    failureOf (world.analyze path language isOffline format).1 =
      match world.document path language, isOffline, world.client with
      | .error error, _, _ => some error
      | .ok _, false, .error error => some error
      | .ok _, _, _ => none := by
  unfold analyze
  cases world.document path language with
  | error error => rfl
  | ok document =>
      cases isOffline with
      | true => rfl
      | false => cases world.client <;> rfl

private theorem failureOf_hover (path : String) (line column : Nat) (language : Option String)
    (isJson : Bool) :
    failureOf (world.hover path line column language isJson).1 =
      if line = 0 ∨ column = 0 then some .notFromOne
      else
        match world.document path language, world.client with
        | .error error, _ => some error
        | .ok _, .error error => some error
        | .ok (kind, text), .ok _ =>
            match
              ((Text.lines text)[line - 1]?).bind fun lineText => wordAt? kind lineText (column - 1)
            with
            | some _ => none
            | none => some (.noWord line column) := by
  unfold hover
  split
  · rfl
  · cases world.document path language with
    | error error => rfl
    | ok document =>
        cases world.client with
        | error error => rfl
        | ok client =>
            dsimp only
            unfold HoverReport.at?
            cases (Text.lines document.2)[line - 1]? with
            | none => rfl
            | some lineText =>
                dsimp only [Option.bind_some]
                cases wordAt? document.1 lineText (column - 1) <;> rfl

/-- **The service makes no difference to the failure of a command.** Both lookups of an analysis and
the lookup of a hover report absorb whatever error there is. -/
theorem failureOf_perform (service : Service) (command : Command) :
    failureOf ({ world with service := service }.perform command).1 =
      failureOf (world.perform command).1 := by
  cases command with
  | analyze path language isOffline format =>
      unfold perform
      dsimp only
      rw [failureOf_analyze, failureOf_analyze]
      rfl
  | hover path line column language isJson =>
      unfold perform
      dsimp only
      rw [failureOf_hover, failureOf_hover]
      rfl

/-- A command has no error exactly if it has what it needs. -/
theorem failureOf_perform_eq_none_iff (command : Command) :
    failureOf (world.perform command).1 = none ↔
      ¬ command.Fails world.files world.environment := by
  have needsClient := world.exists_client_iff
  cases command with
  | analyze path language isOffline format =>
      dsimp only [perform, Arguments.Command.Fails]
      rw [failureOf_analyze, ← world.exists_document_iff path language]
      cases world.document path language with
      | error error => simp
      | ok document =>
          cases isOffline with
          | true => simp
          | false => cases isClient : world.client <;> simp_all
  | hover path line column language isJson =>
      dsimp only [perform, Arguments.Command.Fails]
      rw [failureOf_hover, ← world.exists_document_iff path language]
      by_cases notFromOne : line = 0 ∨ column = 0
      · rw [if_pos notFromOne]
        grind
      · rw [if_neg notFromOne]
        cases isDocument : world.document path language with
        | error error => simp
        | ok document =>
            obtain ⟨kind, text⟩ := document
            obtain ⟨rfl, holds⟩ := world.document_eq_ok_iff.mp isDocument
            cases isClient : world.client with
            | error error => simp_all
            | ok client =>
                have holdsOnly (other : String) : world.files.Holds path other ↔ other = text := by
                  rw [← Files.readText_eq_ok_iff] at holds ⊢
                  rw [holds]
                  simp [eq_comm]
                have isUsable := needsClient.mp ⟨client, isClient⟩
                simp only [holdsOnly, exists_eq_left, DocumentKind.hasWordAt_iff]
                cases (Text.lines text)[line - 1]?.bind fun lineText =>
                    wordAt? (DocumentKind.ofFile path language) lineText (column - 1) with
                | none => simp
                | some span => simp_all

end World

/-! ## The variables of a run -/

namespace Files

variable {files : Files} {content : List UInt8}

/-- Whether a search for a file goes on behind a path: nothing is there, or a directory. -/
def IsPassed (files : Files) (path : String) : Prop :=
  files.read path = .error .missing ∨ files.read path = .error .isDirectory

/-- Whether some bytes are those of the nearest file with a name, in the current directory or in
one above it. -/
def IsNearest (files : Files) (name : String) (content : List UInt8) : Prop :=
  ∃ level ≤ files.levels, files.read (pathAbove name level) = .ok content ∧
    ∀ lower < level, files.IsPassed (pathAbove name lower)

private theorem firstOf?_cons_of_isPassed {path : String} (passed : files.IsPassed path)
    (paths : List String) : files.firstOf? (path :: paths) = files.firstOf? paths := by
  rcases passed with missing | directory
  · rw [firstOf?, missing]
  · rw [firstOf?, directory]

private theorem firstOf?_cons_of_not_isPassed {path : String} (stops : ¬ files.IsPassed path)
    (paths : List String) : files.firstOf? (path :: paths) = (files.read path).toOption := by
  rw [firstOf?]
  cases isRead : files.read path with
  | ok found => rfl
  | error error =>
      cases error with
      | missing => exact absurd (.inl isRead) stops
      | isDirectory => exact absurd (.inr isRead) stops
      | notDirectory | nameTooLong | notText | other => rfl

/-- What a search finds among several paths. The induction is on the paths. -/
theorem firstOf?_eq_some_iff {paths : List String} :
    files.firstOf? paths = some content ↔
      ∃ (place : Nat) (path : String), paths[place]? = some path ∧
        files.read path = .ok content ∧
        ∀ lower < place, ∀ earlier, paths[lower]? = some earlier → files.IsPassed earlier := by
  induction paths with
  | nil => simp [firstOf?]
  | cons path paths inductionHypothesis =>
      by_cases passed : files.IsPassed path
      · rw [firstOf?_cons_of_isPassed passed, inductionHypothesis]
        constructor
        · rintro ⟨place, found, isPath, isRead, earlierPassed⟩
          refine ⟨place + 1, found, isPath, isRead, ?_⟩
          intro lower below earlier isEarlier
          cases lower with
          | zero =>
              cases isEarlier
              exact passed
          | succ lower => exact earlierPassed lower (Nat.lt_of_succ_lt_succ below) earlier isEarlier
        · rintro ⟨place, found, isPath, isRead, earlierPassed⟩
          cases place with
          | zero =>
              cases isPath
              rcases passed with missing | directory
              · exact nomatch missing.symm.trans isRead
              · exact nomatch directory.symm.trans isRead
          | succ place =>
              exact ⟨place, found, isPath, isRead, fun lower below =>
                earlierPassed (lower + 1) (Nat.succ_lt_succ below)⟩
      · rw [firstOf?_cons_of_not_isPassed passed]
        constructor
        · intro found
          cases isRead : files.read path with
          | ok other =>
              rw [isRead] at found
              cases found
              exact ⟨0, path, rfl, isRead, fun _ below => absurd below (Nat.not_lt_zero _)⟩
          | error =>
              rw [isRead] at found
              cases found
        · rintro ⟨place, found, isPath, isRead, earlierPassed⟩
          cases place with
          | zero =>
              cases isPath
              rw [isRead]
              rfl
          | succ place => exact absurd (earlierPassed 0 (Nat.succ_pos place) path rfl) passed

/-- **The search upwards finds the nearest file.** -/
theorem nearest?_eq_some_iff {name : String} :
    files.nearest? name = some content ↔ files.IsNearest name content := by
  have atLevel : ∀ (level : Nat) (path : String),
      ((List.range (files.levels + 1)).map (pathAbove name))[level]? = some path ↔
        level ≤ files.levels ∧ pathAbove name level = path := by
    intro level path
    simp only [List.getElem?_eq_some_iff, List.length_map, List.length_range, List.getElem_map,
      List.getElem_range, exists_prop, Nat.lt_succ_iff]
  rw [nearest?, firstOf?_eq_some_iff]
  simp only [atLevel]
  constructor
  · rintro ⟨level, _, ⟨within, rfl⟩, isRead, lowerPassed⟩
    exact ⟨level, within, isRead, fun lower below =>
      lowerPassed lower below _ ⟨Nat.le_trans (Nat.le_of_lt below) within, rfl⟩⟩
  · rintro ⟨level, within, isRead, lowerPassed⟩
    refine ⟨level, _, ⟨within, rfl⟩, isRead, ?_⟩
    rintro lower below _ ⟨_, rfl⟩
    exact lowerPassed lower below

example :
    let files : Files :=
      ⟨fun path =>
        if path = ".env" then .error .isDirectory
        else if path = "../../.env" then .ok [65] else .error .missing, 2⟩
    files.nearest? ".env" = some [65] := by
  decide +kernel

/-- The variables that are set when the arguments are read: those of the environment and of the
nearest file `.env`, if there is one and the environment can hold what it assigns. -/
def loadedEnvironment? (files : Files) (environment : Environment) : Option Environment :=
  match files.nearest? ".env" with
  | some content => Dotenv.load? environment content
  | none => some environment

/-- Whether neither the environment nor the nearest file `.env` has a zero byte. -/
def HaveNoZero (files : Files) (environment : Environment) : Prop :=
  (∀ name value, environment name = some value → 0 ∉ value) ∧
    ∀ content, files.IsNearest ".env" content → 0 ∉ content

private theorem exists_loadedEnvironment? {environment : Environment}
    (noZero : files.HaveNoZero environment) :
    ∃ loaded, files.loadedEnvironment? environment = some loaded := by
  unfold loadedEnvironment?
  cases isContent : files.nearest? ".env" with
  | none => exact ⟨environment, rfl⟩
  | some content =>
      exact Dotenv.exists_load? noZero.1 (noZero.2 content (nearest?_eq_some_iff.mp isContent))

end Files

/-! ## A run -/

section Run

variable {files : Files} {environment : Environment} (service : Service) (arguments : List String)

/-- Loading variables changes the environment and nothing else. -/
theorem World.withDotenv?_eq :
    withDotenv? ⟨files, environment, service⟩ =
      (files.loadedEnvironment? environment).map fun loaded => ⟨files, loaded, service⟩ := by
  unfold withDotenv? Files.loadedEnvironment?
  dsimp only
  cases files.nearest? ".env" <;> rfl

theorem Outcome.error_ofWritten (written : Written) :
    (ofWritten written).error = (failureOf written).map RunError.message := by
  cases written <;> rfl

theorem Outcome.exitCode_ofWritten (written : Written) :
    (ofWritten written).exitCode = if failureOf written = none then 0 else 1 := by
  cases written <;> rfl

/-- What a run does, by whether the variables can be loaded and what the arguments ask for. -/
theorem run_eq :
    run ⟨files, environment, service⟩ arguments =
      match files.loadedEnvironment? environment, Arguments.command arguments with
      | none, _ => (.aborted, [])
      | some _, .error stop => (.ofStop stop, [])
      | some loaded, .ok command =>
          (.ofWritten (World.perform ⟨files, loaded, service⟩ command).1,
            (World.perform ⟨files, loaded, service⟩ command).2) := by
  unfold run
  rw [World.withDotenv?_eq]
  cases files.loadedEnvironment? environment with
  | none => rfl
  | some loaded => cases Arguments.command arguments <;> rfl

/-- Two services make no difference to how a run ends. -/
theorem sameEnd_run (one other : Service) :
    (run ⟨files, environment, one⟩ arguments).1.exitCode =
        (run ⟨files, environment, other⟩ arguments).1.exitCode ∧
      (run ⟨files, environment, one⟩ arguments).1.error =
        (run ⟨files, environment, other⟩ arguments).1.error := by
  rw [run_eq one, run_eq other]
  cases files.loadedEnvironment? environment with
  | none => exact ⟨rfl, rfl⟩
  | some loaded =>
      cases Arguments.command arguments with
      | error stop => exact ⟨rfl, rfl⟩
      | ok command =>
          have sameFailure := World.failureOf_perform ⟨files, loaded, other⟩ one command
          simp only [Outcome.exitCode_ofWritten, Outcome.error_ofWritten]
          rw [sameFailure]
          exact ⟨rfl, rfl⟩

/-- The exit code of a command for which the variables are loaded. -/
theorem exitCode_run_iff {loaded : Environment} {command : Command}
    (isLoaded : files.loadedEnvironment? environment = some loaded)
    (isCommand : Arguments.command arguments = .ok command) :
    ((run ⟨files, environment, service⟩ arguments).1.exitCode = 1 ↔
        command.Fails files loaded) ∧
      ((run ⟨files, environment, service⟩ arguments).1.exitCode = 0 ↔
        ¬ command.Fails files loaded) := by
  have noError := World.failureOf_perform_eq_none_iff ⟨files, loaded, service⟩ command
  rw [run_eq, isLoaded, isCommand]
  dsimp only
  rw [Outcome.exitCode_ofWritten]
  split
  · rename_i isNone
    simp [noError.mp isNone]
  · rename_i isSome
    simpa using fun succeeds => isSome (noError.mpr succeeds)

/-- An analysis without lookups depends on nothing but the files. -/
theorem World.analyze_offline_eq (loaded others : Environment) (one other : Service)
    (path : String) (language : Option String) (format : Arguments.OutputFormat) :
    World.analyze ⟨files, loaded, one⟩ path language true format =
      World.analyze ⟨files, others, other⟩ path language true format := by
  have sameDocument : document ⟨files, loaded, one⟩ path language =
      document ⟨files, others, other⟩ path language := rfl
  unfold analyze
  rw [sameDocument]
  split
  · rfl
  · rw [if_pos rfl, if_pos rfl]

section Offline

variable {arguments : List String} {path : String} {language : Option String}
  {format : Arguments.OutputFormat}
  (isCommand : Arguments.command arguments = .ok (.analyze path language true format))

include isCommand

/-- A run without lookups makes no request. -/
theorem requests_run_offline : (run ⟨files, environment, service⟩ arguments).2 = [] := by
  rw [run_eq, isCommand]
  cases files.loadedEnvironment? environment with
  | none => rfl
  | some loaded =>
      exact World.analyze_offline_requests ⟨files, loaded, service⟩ path language format

/-- A run without lookups is the same under another service and another environment, if the nearest
file `.env` can be loaded into both. -/
theorem run_offline_eq {others : Environment} (other : Service)
    (canLoad : (files.loadedEnvironment? environment).isSome = true)
    (canLoadOthers : (files.loadedEnvironment? others).isSome = true) :
    run ⟨files, others, other⟩ arguments = run ⟨files, environment, service⟩ arguments := by
  obtain ⟨loaded, isLoaded⟩ := Option.isSome_iff_exists.mp canLoad
  obtain ⟨otherLoaded, isOtherLoaded⟩ := Option.isSome_iff_exists.mp canLoadOthers
  rw [run_eq, run_eq, isLoaded, isOtherLoaded, isCommand]
  dsimp only [World.perform]
  rw [World.analyze_offline_eq otherLoaded loaded other service]

end Offline

/-- **What a service answers does not decide how the command ends.** For any two services the exit
code and the error are the same. The variables can be loaded at least where there is no zero byte;
then a command ends with 1 exactly if it fails, and with 0 otherwise, whatever the service does. An
analysis without lookups sends nothing, and does the same for all variables that can be loaded. -/
theorem run_ends_regardless_of_service (files : Files) (environment : Environment)
    (arguments : List String) :
    (∀ one other : Service,
      (run ⟨files, environment, one⟩ arguments).1.exitCode =
          (run ⟨files, environment, other⟩ arguments).1.exitCode ∧
        (run ⟨files, environment, one⟩ arguments).1.error =
          (run ⟨files, environment, other⟩ arguments).1.error) ∧
      (files.HaveNoZero environment →
        ∃ loaded, files.loadedEnvironment? environment = some loaded) ∧
      (∀ loaded, files.loadedEnvironment? environment = some loaded →
        ∀ command, Arguments.command arguments = .ok command → ∀ service : Service,
          ((run ⟨files, environment, service⟩ arguments).1.exitCode = 1 ↔
              command.Fails files loaded) ∧
            ((run ⟨files, environment, service⟩ arguments).1.exitCode = 0 ↔
              ¬ command.Fails files loaded)) ∧
      ∀ path language format,
        Arguments.command arguments = .ok (.analyze path language true format) →
          ∀ service : Service,
            (run ⟨files, environment, service⟩ arguments).2 = [] ∧
              ∀ (others : Environment) (other : Service),
                (files.loadedEnvironment? environment).isSome = true →
                  (files.loadedEnvironment? others).isSome = true →
                    run ⟨files, others, other⟩ arguments =
                      run ⟨files, environment, service⟩ arguments := by
  refine ⟨sameEnd_run arguments, Files.exists_loadedEnvironment?, ?_, ?_⟩
  · intro loaded isLoaded command isCommand service
    exact exitCode_run_iff service arguments isLoaded isCommand
  · intro path language format isCommand service
    exact ⟨requests_run_offline service isCommand, fun others other =>
      run_offline_eq service isCommand other⟩

end Run

/-- An empty file `a`, and a file `.env` whose only value has a NUL. -/
def unheldRetries : Files :=
  Files.ofEntries [(".env", Text.stringBytes "BASELINE_MAX_RETRIES=a\x00\n"), ("a", [])]

/-- An analysis without lookups of a file that holds a text, and yet it ends neither with 1 nor with
0, unless the variable is set already. -/
theorem offline_analysis_aborts_over_nul :
    let arguments := ["analyze", "a", "--offline"]
    let command := Command.analyze "a" none true .terminal
    let unset : Environment := fun _ => none
    let set : Environment := fun name =>
      if name = Settings.retriesVariable then some (Text.stringBytes "1") else none
    Arguments.command arguments = .ok command ∧
      ¬ command.Fails unheldRetries unset ∧
      (run ⟨unheldRetries, unset, .silent⟩ arguments).1.exitCode = 101 ∧
      (run ⟨unheldRetries, set, .silent⟩ arguments).1.exitCode = 0 := by
  refine ⟨by decide +kernel, ?_, by decide +kernel, by decide +kernel⟩
  have holds : unheldRetries.read "a" = .ok (Text.stringBytes "") := by decide +kernel
  rintro (holdsNone | ⟨isOnline, _⟩)
  · exact holdsNone ⟨"", holds⟩
  · cases isOnline

end WebCompat
