import AnalysisDesk.Proofs.Text.Trim
import AnalysisDesk.Settings.Resolution

/-! # Which source decides a setting
Each setting has sources in a fixed order, and the first one with more than blanks decides. What
stands below it counts for nothing, not even for being checked. What comes of all of it is told by
rules: a configuration that cannot be loaded is reported before anything else, then the endpoint is
checked, then the address of an image. -/

namespace AnalysisDesk.Settings

open AnalysisDesk.CommandLine (Options)
open AnalysisDesk.Files (FileFault Folder)
open AnalysisDesk.Text (isBlank trimBlank isBlankText)

/-! ## Blank sources -/

/-- A source has no value, or one of blanks only. -/
def Blank (source : Option String) : Prop :=
  ∀ text, source = some text → ∀ c ∈ text.toList, isBlank c = true

/-- Nothing is left of a text after trimming if and only if all of it is blank. -/
theorem isBlankText_iff {text : String} :
    isBlankText text = true ↔ ∀ c ∈ text.toList, isBlank c = true := by
  unfold isBlankText
  rw [List.isEmpty_iff]
  constructor
  · intro nothing c member
    obtain ⟨⟨front, back, cut, blankFront, blankBack⟩, -, -⟩ := Text.trimsTo_trimBlank text.toList
    rw [nothing, List.append_nil] at cut
    rw [cut, List.mem_append] at member
    exact member.elim (blankFront c) (blankBack c)
  · intro blank
    have none (c : Char) : c ∉ ([] : List Char) := List.not_mem_nil
    refine Text.TrimsTo.trimBlank_eq ⟨⟨text.toList, [], by simp, blank, ?_⟩, ?_, ?_⟩
    · exact fun c inside => absurd inside (none c)
    · exact fun c first => absurd (List.mem_of_head? first) (none c)
    · exact fun c last => absurd (List.mem_of_getLast? last) (none c)

theorem blank_none : Blank none := nofun

theorem blank_some_iff {text : String} : Blank (some text) ↔ isBlankText text = true := by
  rw [isBlankText_iff]
  exact ⟨fun blank => blank text rfl, fun blank _ same => Option.some.inj same ▸ blank⟩

/-- A blank source counts as none, and any other is kept as it is. -/
theorem written_eq (source : Option String) :
    Blank source ∧ written source = none ∨
      ∃ text, source = some text ∧ ¬ Blank source ∧ written source = some text := by
  cases source with
  | none => exact .inl ⟨blank_none, written_none⟩
  | some text =>
    cases blank : isBlankText text with
    | true => exact .inl ⟨blank_some_iff.mpr blank, written_of_isBlankText blank⟩
    | false =>
      have visible : ¬ Blank (some text) := by
        rw [blank_some_iff, blank]
        exact Bool.false_ne_true
      exact .inr ⟨text, rfl, visible, written_of_not_isBlankText blank⟩

/-! ## What is taken -/

/-- **What is taken from sources**: the value of the first one with more than blanks, as it is. -/
inductive Takes : List (Option String) → Option String → Prop
  /-- No source is left. -/
  | nothing : Takes [] none
  /-- A blank source is passed over. -/
  | pass {source : Option String} {sources : List (Option String)} {taken : Option String}
      (blank : Blank source) (rest : Takes sources taken) : Takes (source :: sources) taken
  /-- The first source with more than blanks decides. -/
  | take {text : String} (visible : ¬ Blank (some text)) (sources : List (Option String)) :
      Takes (some text :: sources) (some text)

/-- Only one thing is taken. -/
theorem Takes.unique {sources : List (Option String)} {taken taken' : Option String}
    (h : Takes sources taken) (h' : Takes sources taken') : taken = taken' := by
  induction h with
  | nothing =>
    cases h'
    rfl
  | pass blank rest ih =>
    cases h' with
    | pass blank' rest' => exact ih rest'
    | take visible => exact absurd blank visible
  | take visible sources =>
    cases h' with
    | pass blank' rest' => exact absurd blank' visible
    | take => rfl

/-- A further source goes before what is taken from the others. -/
theorem Takes.cons (source : Option String) {sources : List (Option String)}
    {taken : Option String} (rest : Takes sources taken) :
    Takes (source :: sources) ((written source).or taken) := by
  rcases written_eq source with ⟨blank, same⟩ | ⟨text, rfl, visible, same⟩
  · rw [same]
    exact .pass blank rest
  · rw [same]
    exact .take visible sources

/-- The first written one of three sources is what is taken from them. -/
theorem takes_firstWritten (flag environment config : Option String) :
    Takes [flag, environment, config] (firstWritten flag environment config) := by
  have last := Takes.nothing.cons config
  rw [Option.or_none] at last
  exact (last.cons environment).cons flag

/-- **Sources alike**: they agree down to the first one with more than blanks, but for how they are
blank above it. -/
inductive Alike : List (Option String) → List (Option String) → Prop
  | nothing : Alike [] []
  /-- Both are blank here. -/
  | pass {source source' : Option String} {sources sources' : List (Option String)}
      (blank : Blank source) (blank' : Blank source') (rest : Alike sources sources') :
      Alike (source :: sources) (source' :: sources')
  /-- Both have the same value here, and whatever they like below. -/
  | take {text : String} (visible : ¬ Blank (some text)) (sources sources' : List (Option String)) :
      Alike (some text :: sources) (some text :: sources')

/-- The same is taken from sources alike. -/
theorem Takes.alike {sources sources' : List (Option String)} {taken : Option String}
    (h : Takes sources taken) (alike : Alike sources sources') : Takes sources' taken := by
  induction alike generalizing taken with
  | nothing => exact h
  | pass blank blank' rest ih =>
    cases h with
    | pass _ remaining => exact .pass blank' (ih remaining)
    | take visible => exact absurd blank visible
  | take visible sources sources' =>
    cases h with
    | pass blank => exact absurd blank visible
    | take => exact .take visible sources'

/-! ## Addresses of the web -/

/-- **An address of the web** begins with one of two schemes, and then there is something that is no
slash. -/
def WebAddress (url : String) : Prop :=
  ∃ start c rest, (start = "http://" ∨ start = "https://") ∧
    url.toList = start.toList ++ c :: rest ∧ c ≠ '/'

/-- Just the addresses of the web pass. -/
theorem isWebAddress_iff {url : String} : isWebAddress url = true ↔ WebAddress url := by
  unfold isWebAddress WebAddress
  rw [List.any_eq_true]
  constructor
  · rintro ⟨start, member, accepted⟩
    obtain ⟨c, rest, whole, visible⟩ :
        ∃ c rest, url.toList = start ++ c :: rest ∧ c ≠ '/' := by
      split at accepted
      · rename_i c rest begun cut
        obtain ⟨behind, whole⟩ := List.isPrefixOf_iff_prefix.mp begun
        rw [← whole, List.drop_left] at cut
        exact ⟨c, rest, by rw [← whole, cut], by simpa using accepted⟩
      · cases accepted
    simp only [webPrefixes, List.mem_cons, List.not_mem_nil, or_false] at member
    rcases member with rfl | rfl
    · exact ⟨"http://", c, rest, .inl rfl, whole, visible⟩
    · exact ⟨"https://", c, rest, .inr rfl, whole, visible⟩
  · rintro ⟨start, c, rest, begins, whole, visible⟩
    refine ⟨start.toList, ?_, ?_⟩
    · rcases begins with rfl | rfl
      · exact List.mem_cons_self
      · exact List.mem_cons_of_mem _ List.mem_cons_self
    · have begun : start.toList.isPrefixOf url.toList = true :=
        List.isPrefixOf_iff_prefix.mpr ⟨c :: rest, whole.symm⟩
      rw [begun, whole, List.drop_left]
      simpa using visible

theorem checkUrl_of_webAddress {url : String} (web : WebAddress url) : checkUrl url = .ok url :=
  if_pos (isWebAddress_iff.mpr web)

theorem checkUrl_of_not_webAddress {url : String} (other : ¬ WebAddress url) :
    checkUrl url = .error (.invalidUrl url) :=
  if_neg fun accepted => other (isWebAddress_iff.mp accepted)

/-! ## Loading -/

/-- **Where a configuration is read from**: from the path of the flag, there or not, and without one
from the usual path if there is something. -/
inductive ReadFrom (options : Options) (folder : Folder) : String → Prop
  | named {path : String} (flag : options.config = some path) : ReadFrom options folder path
  | usual (unnamed : options.config = none) (there : folder.contains "lexzig.toml" = true) :
      ReadFrom options folder "lexzig.toml"

/-- **What comes of loading a configuration.** -/
inductive Loads (options : Options) (folder : Folder) : Except Fault Config → Prop
  /-- It cannot be read. -/
  | unreadable {path : String} {cause : FileFault} (place : ReadFrom options folder path)
      (fault : folder.readText path = .error cause) :
      Loads options folder (.error (.unreadable path cause))
  /-- Its text is no configuration. -/
  | wrong {path text : String} {fault : ConfigFault} (place : ReadFrom options folder path)
      (content : folder.readText path = .ok text) (fails : Config.read text = .error fault) :
      Loads options folder (.error (.config text fault))
  /-- Its text is one. -/
  | read {path text : String} {config : Config} (place : ReadFrom options folder path)
      (content : folder.readText path = .ok text) (holds : Config.read text = .ok config) :
      Loads options folder (.ok config)
  /-- There is none, and none was asked for. -/
  | absent (unnamed : options.config = none) (missing : folder.contains "lexzig.toml" = false) :
      Loads options folder (.ok .empty)

/-- The path of a place that a configuration is read from. -/
theorem ReadFrom.configPath?_eq {options : Options} {folder : Folder} {path : String}
    (place : ReadFrom options folder path) :
    configPath? options (folder.contains defaultConfigPath) = some path := by
  unfold configPath?
  cases place with
  | named flag => rw [flag]
  | usual unnamed there =>
    rw [unnamed]
    exact if_pos there

/-- A configuration that is read from a path is what the path holds. -/
theorem ReadFrom.loadConfig_eq {options : Options} {folder : Folder} {path : String}
    (place : ReadFrom options folder path) :
    loadConfig options folder = configOf path (folder.readText path) := by
  rw [loadConfig, place.configPath?_eq]

/-- A place to read from leads to one of the outcomes. -/
theorem ReadFrom.loads {options : Options} {folder : Folder} {path : String}
    (place : ReadFrom options folder path) :
    Loads options folder (loadConfig options folder) := by
  rw [place.loadConfig_eq]
  cases content : folder.readText path with
  | error cause => exact .unreadable place content
  | ok text =>
    cases outcome : Config.read text with
    | error fault =>
      simp only [configOf, outcome]
      exact .wrong place content outcome
    | ok config =>
      simp only [configOf, outcome]
      exact .read place content outcome

/-- Without a flag and without anything at the usual path, nothing is read. -/
theorem loadConfig_of_absent {options : Options} {folder : Folder} (unnamed : options.config = none)
    (missing : folder.contains "lexzig.toml" = false) :
    loadConfig options folder = .ok .empty := by
  have nowhere : configPath? options (folder.contains defaultConfigPath) = none := by
    rw [configPath?, unnamed]
    exact if_neg (by rw [defaultConfigPath, missing]; exact Bool.false_ne_true)
  rw [loadConfig, nowhere]

/-- **Loading** comes to just what the rules say. -/
theorem loadConfig_eq_iff {options : Options} {folder : Folder} {loaded : Except Fault Config} :
    loadConfig options folder = loaded ↔ Loads options folder loaded := by
  constructor
  · rintro rfl
    cases named : options.config with
    | some path => exact (ReadFrom.named named).loads
    | none =>
      cases there : folder.contains "lexzig.toml" with
      | true => exact (ReadFrom.usual named there).loads
      | false =>
        rw [loadConfig_of_absent named there]
        exact .absent named there
  · intro loads
    cases loads with
    | unreadable place fault => simp only [place.loadConfig_eq, configOf, fault]
    | wrong place content fails => simp only [place.loadConfig_eq, configOf, content, fails]
    | read place content holds => simp only [place.loadConfig_eq, configOf, content, holds]
    | absent unnamed missing => exact loadConfig_of_absent unnamed missing

/-! ## Settling -/

/-- The sources of the endpoint, the first one first. -/
def apiUrlSources (options : Options) (environment : Environment) (config : Config) :
    List (Option String) :=
  [options.apiUrl, environment "LEXZIG_API_URL", config.apiUrl]

/-- The sources of the address of an image, the first one first. -/
def imageUrlSources (options : Options) (environment : Environment) (config : Config) :
    List (Option String) :=
  [options.imageUrl, environment "LEXZIG_IMAGE_URL", config.imageUrl]

/-- The path of the journal. -/
def journalPath (options : Options) (temporary : String) : String :=
  options.logFile.getD (temporary ++ "/" ++ defaultLogName)

/-- **What settings come of a configuration**, loaded or not. -/
inductive Settles (built : Option String) (options : Options) (environment : Environment)
    (temporary : String) : Except Fault Config → Except Fault Resolved → Prop
  /-- A configuration that could not be loaded is reported, whatever the other sources say. -/
  | unloaded (fault : Fault) :
      Settles built options environment temporary (.error fault) (.error fault)
  /-- Then an endpoint that is no address of the web is. -/
  | badApiUrl {config : Config} {found : Option String}
      (taken : Takes (apiUrlSources options environment config) found)
      (bad : ¬ WebAddress (found.getD (usualApiUrl built))) :
      Settles built options environment temporary (.ok config)
        (.error (.invalidUrl (found.getD (usualApiUrl built))))
  /-- Then the address of an image that is none. -/
  | badImageUrl {config : Config} {found : Option String} {imageUrl : String}
      (taken : Takes (apiUrlSources options environment config) found)
      (good : WebAddress (found.getD (usualApiUrl built)))
      (takenImage : Takes (imageUrlSources options environment config) (some imageUrl))
      (bad : ¬ WebAddress imageUrl) :
      Settles built options environment temporary (.ok config) (.error (.invalidUrl imageUrl))
  /-- Otherwise what was taken is settled, and the usual endpoint if nothing was. -/
  | settled {config : Config} {found imageUrl : Option String}
      (taken : Takes (apiUrlSources options environment config) found)
      (good : WebAddress (found.getD (usualApiUrl built)))
      (takenImage : Takes (imageUrlSources options environment config) imageUrl)
      (goodImage : ∀ url, imageUrl = some url → WebAddress url) :
      Settles built options environment temporary (.ok config)
        (.ok ⟨found.getD (usualApiUrl built), imageUrl, journalPath options temporary⟩)

section

variable {built : Option String} {options : Options} {environment : Environment}
  {temporary : String}

/-- What is taken from the sources of the endpoint is chosen. -/
theorem chosenApiUrl_eq {config : Config} {found : Option String}
    (taken : Takes (apiUrlSources options environment config) found) :
    chosenApiUrl built options environment config = found.getD (usualApiUrl built) :=
  congrArg (Option.getD · (usualApiUrl built)) ((takes_firstWritten _ _ _).unique taken)

/-- What is taken from the sources of the address of an image is chosen. -/
theorem chosenImageUrl_eq {config : Config} {found : Option String}
    (taken : Takes (imageUrlSources options environment config) found) :
    chosenImageUrl options environment config = found :=
  (takes_firstWritten _ _ _).unique taken

/-- What the rules say is what settings are resolved to. -/
theorem Settles.resolve_eq {loaded : Except Fault Config} {result : Except Fault Resolved}
    (settles : Settles built options environment temporary loaded result) :
    resolve built options environment temporary loaded = result := by
  cases settles with
  | unloaded fault => rfl
  | badApiUrl taken bad =>
    simp only [resolve, bind, Except.bind, chosenApiUrl_eq taken, checkUrl_of_not_webAddress bad]
  | badImageUrl taken good takenImage bad =>
    simp only [resolve, bind, Except.bind, chosenApiUrl_eq taken, checkUrl_of_webAddress good,
      chosenImageUrl_eq takenImage, checkUrl_of_not_webAddress bad, Except.map]
  | @settled config found imageUrl taken good takenImage goodImage =>
    simp only [resolve, bind, Except.bind, chosenApiUrl_eq taken, checkUrl_of_webAddress good,
      chosenImageUrl_eq takenImage]
    cases imageUrl with
    | none => rfl
    | some url =>
      simp only [checkUrl_of_webAddress (goodImage url rfl), Except.map]
      rfl

/-- The rules always say something. -/
theorem exists_settles (built : Option String) (options : Options) (environment : Environment)
    (temporary : String) (loaded : Except Fault Config) :
    ∃ result, Settles built options environment temporary loaded result := by
  cases loaded with
  | error fault => exact ⟨_, .unloaded fault⟩
  | ok config =>
    have taken : Takes (apiUrlSources options environment config) _ := takes_firstWritten _ _ _
    have takenImage : Takes (imageUrlSources options environment config) _ :=
      takes_firstWritten _ _ _
    by_cases good : WebAddress ((firstWritten options.apiUrl (environment "LEXZIG_API_URL")
      config.apiUrl).getD (usualApiUrl built))
    · cases image : firstWritten options.imageUrl (environment "LEXZIG_IMAGE_URL")
          config.imageUrl with
      | none =>
        rw [image] at takenImage
        exact ⟨_, .settled taken good takenImage nofun⟩
      | some url =>
        rw [image] at takenImage
        by_cases goodImage : WebAddress url
        · exact ⟨_, .settled taken good takenImage fun _ same => Option.some.inj same ▸ goodImage⟩
        · exact ⟨_, .badImageUrl taken good takenImage goodImage⟩
    · exact ⟨_, .badApiUrl taken good⟩

/-- **Settings are resolved** to just what the rules say. -/
theorem resolve_eq_iff {loaded : Except Fault Config} {result : Except Fault Resolved} :
    resolve built options environment temporary loaded = result ↔
      Settles built options environment temporary loaded result := by
  constructor
  · rintro rfl
    obtain ⟨result, settles⟩ := exists_settles built options environment temporary loaded
    rw [settles.resolve_eq]
    exact settles
  · exact Settles.resolve_eq

/-! ## What the rules entail -/

/-- What is settled is an address of the web, and so is that of an image. -/
theorem Settles.webAddress {loaded : Except Fault Config} {settings : Resolved}
    (settles : Settles built options environment temporary loaded (.ok settings)) :
    WebAddress settings.apiUrl ∧ ∀ url, settings.imageUrl = some url → WebAddress url := by
  cases settles with
  | settled taken good takenImage goodImage => exact ⟨good, goodImage⟩

/-- The same is settled from sources alike, if the journal has the same path. -/
theorem Settles.alike {options' : Options} {environment' : Environment} {temporary' : String}
    {config config' : Config} {result : Except Fault Resolved}
    (settles : Settles built options environment temporary (.ok config) result)
    (alike : Alike (apiUrlSources options environment config)
      (apiUrlSources options' environment' config'))
    (alikeImage : Alike (imageUrlSources options environment config)
      (imageUrlSources options' environment' config'))
    (journal : journalPath options temporary = journalPath options' temporary') :
    Settles built options' environment' temporary' (.ok config') result := by
  cases settles with
  | badApiUrl taken bad => exact .badApiUrl (taken.alike alike) bad
  | badImageUrl taken good takenImage bad =>
    exact .badImageUrl (taken.alike alike) good (takenImage.alike alikeImage) bad
  | settled taken good takenImage goodImage =>
    rw [journal]
    exact .settled (taken.alike alike) good (takenImage.alike alikeImage) goodImage

end

/-- **Settings go by priority.** Loading and resolving come to just what the rules say, one outcome
each. Hence sources that stand below the deciding one change nothing, nor does it matter whether a
source is blank or missing; and what is settled are addresses of the web. -/
theorem resolve_by_priority (built : Option String) (options : Options)
    (environment : Environment) (temporary : String) :
    (∀ folder loaded, loadConfig options folder = loaded ↔ Loads options folder loaded) ∧
    (∀ loaded result, resolve built options environment temporary loaded = result ↔
      Settles built options environment temporary loaded result) ∧
    (∀ options' environment' temporary' config config',
      Alike (apiUrlSources options environment config)
        (apiUrlSources options' environment' config') →
      Alike (imageUrlSources options environment config)
        (imageUrlSources options' environment' config') →
      journalPath options temporary = journalPath options' temporary' →
      resolve built options environment temporary (.ok config) =
        resolve built options' environment' temporary' (.ok config')) ∧
    ∀ loaded settings, resolve built options environment temporary loaded = .ok settings →
      WebAddress settings.apiUrl ∧ ∀ url, settings.imageUrl = some url → WebAddress url := by
  refine ⟨fun _ _ => loadConfig_eq_iff, fun _ _ => resolve_eq_iff, ?_, ?_⟩
  · intro options' environment' temporary' config config' alike alikeImage journal
    obtain ⟨result, settles⟩ := exists_settles built options environment temporary (.ok config)
    rw [settles.resolve_eq, (settles.alike alike alikeImage journal).resolve_eq]
  · intro loaded settings resolved
    exact (resolve_eq_iff.mp resolved).webAddress

/-- A flag hides an address in the environment that would not pass, and blanks are no image. -/
theorem flag_hides_environment :
    resolve none ⟨some "http://flag", none, none, none⟩ (fun _ => some " ") "/tmp"
        (.ok ⟨some "ftp://config", none⟩) =
      resolve none ⟨some "http://flag", some "\t", none, none⟩
        (fun name => if name = "LEXZIG_API_URL" then some "nowhere" else none) "/tmp"
        (.ok .empty) := by
  have blank (text : String) (h : isBlankText text = true) : Blank (some text) :=
    blank_some_iff.mpr h
  have visible : ¬ Blank (some "http://flag") := by
    rw [blank_some_iff]
    decide
  refine (resolve_by_priority none _ _ _).2.2.1 _ _ _ _ _ (.take visible _ _) ?_ rfl
  exact .pass blank_none (blank "\t" (by decide))
    (.pass (blank " " (by decide)) blank_none (.pass blank_none blank_none .nothing))

end AnalysisDesk.Settings
