import SqlDialects.CommandLine.Run
import SqlDialects.Session.Rehearsal

/-! The url of the database that a command connects to. The option of the command line goes before
the environment, and the environment before the configuration. An empty url in the environment does
not replace the url of the configuration when that is loaded, but it stands in for an option that is
not given. -/

namespace SqlDialects

theorem Dialect.eq_config_of_ofUrl {url : String} {error : Error} (h : ofUrl url = .error error) :
    ∃ cause, error = .config cause := by
  unfold ofUrl at h
  split at h
  · cases h
  · cases h
    exact ⟨_, rfl⟩

namespace Config

/-- The configuration with another url, or with none. -/
def withUrl (config : Config) (url : Option String) : Config := { config with url := url }

theorem withUrl_inj {config : Config} {url url' : Option String} :
    config.withUrl url = config.withUrl url' ↔ url = url' :=
  ⟨fun h => congrArg Config.url h, fun h => h ▸ rfl⟩

theorem connection_eq {config : Config} {url : String} (h : config.url = some url) :
    config.connection = config.dialect.elim (Dialect.ofUrl url) .ok >>= fun dialect =>
      if dialect = .sqlServer then .error (.config .noDriver)
      else .ok ⟨url, dialect, config.maxConnections⟩ := by
  rw [Config.connection, h]
  cases config.dialect with
  | some dialect => cases dialect <;> rfl
  | none =>
    dsimp only [Option.elim_none]
    cases Dialect.ofUrl url with
    | error error => rfl
    | ok dialect => cases dialect <;> rfl

/-- A connection to some url can only fail for want of a dialect or of a driver. -/
theorem connection_of_url {config : Config} {url : String} (h : config.url = some url) :
    (∃ dialect, config.connection = .ok ⟨url, dialect, config.maxConnections⟩) ∨
      ∃ cause, config.connection = .error (.config cause) := by
  cases hdialect : config.dialect.elim (Dialect.ofUrl url) .ok with
  | error error =>
    have hcause : ∃ cause, error = .config cause := by
      cases hchosen : config.dialect with
      | some dialect =>
        rw [hchosen, Option.elim_some] at hdialect
        cases hdialect
      | none =>
        rw [hchosen, Option.elim_none] at hdialect
        exact Dialect.eq_config_of_ofUrl hdialect
    obtain ⟨cause, rfl⟩ := hcause
    rw [connection_eq h, hdialect]
    exact .inr ⟨cause, rfl⟩
  | ok dialect =>
    rw [connection_eq h, hdialect]
    by_cases hserver : dialect = .sqlServer
    · subst hserver
      exact .inr ⟨.noDriver, rfl⟩
    · refine .inl ⟨dialect, ?_⟩
      show (if dialect = .sqlServer then _ else _) = _
      rw [if_neg hserver]

theorem url_of_connection {config : Config} {connection : Connection}
    (h : config.connection = .ok connection) : config.url = some connection.url := by
  cases hurl : config.url with
  | none =>
    rw [Config.connection, hurl] at h
    cases h
  | some url =>
    obtain ⟨dialect, hok⟩ | ⟨cause, herror⟩ := connection_of_url hurl
    · cases h.symm.trans hok
      rfl
    · cases h.symm.trans herror

end Config

/-- Whether no command ever fails at a database in these words. -/
def Driver.NeverSays {σ : Type} (driver : Driver σ) (message : String) : Prop :=
  ∀ connection (inspection : Inspection) error,
    driver.run connection (inspection.session connection.dialect) = .error error →
      error.message ≠ message

namespace Failure

/-- The first letter tells this message from those of connections that are not possible. -/
theorem head?_noUrl : noUrl.message.toList.head? = some 'n' := by rfl

theorem head?_rejected_config (cause : ConfigError) :
    (rejected (.config cause)).message.toList.head? = some 'C' := by
  have hstart : "Configuration error: ".toList = 'C' :: "onfiguration error: ".toList := by rfl
  show ("Configuration error: " ++ cause.message).toList.head? = _
  rw [String.toList_append, hstart]
  rfl

end Failure

namespace Report

variable {σ : Type}

theorem message_eq_of_ofFailure_eq {output output' : String} {failure failure' : Failure}
    (h : ofFailure output failure = ofFailure output' failure') :
    failure.message = failure'.message := by
  have herrors : "Error: " ++ failure.message ++ "\n" = "Error: " ++ failure'.message ++ "\n" :=
    congrArg Report.errors h
  simpa using herrors

theorem connect_of_noUrl {config : Config} (h : config.url = none) (driver : Driver σ)
    (inspection : Inspection) (verbose : Bool) :
    connect driver inspection config verbose = ofFailure "" .noUrl := by
  rw [connect, h]

/-- With a url, a command says that there is none only in the words of the database. -/
theorem connect_ne_noUrl {config : Config} (h : config.url ≠ none) {driver : Driver σ}
    (hdriver : driver.NeverSays Failure.noUrl.message) (inspection : Inspection) (verbose : Bool) :
    connect driver inspection config verbose ≠ ofFailure "" .noUrl := by
  obtain ⟨url, hurl⟩ := Option.ne_none_iff_exists'.mp h
  intro heq
  rw [connect, hurl] at heq
  dsimp only at heq
  split at heq
  case h_1 error hanswer =>
    have hmessage : error.message = Failure.noUrl.message := message_eq_of_ofFailure_eq heq
    obtain ⟨dialect, hconnection⟩ | ⟨cause, hconnection⟩ := Config.connection_of_url hurl
    · rw [hconnection] at hanswer
      exact hdriver _ inspection error hanswer hmessage
    · rw [hconnection] at hanswer
      cases hanswer
      have hhead := Failure.head?_rejected_config cause
      rw [show (Failure.rejected (.config cause)).message = Failure.noUrl.message from hmessage,
        Failure.head?_noUrl] at hhead
      cases hhead
  case h_2 => cases congrArg Report.status heq

/-- Only what the driver does with the connection of the configuration matters. -/
theorem connect_congr {config : Config} {driver other : Driver σ}
    (hdatabase : other.database = driver.database)
    (hconnect : ∀ connection, config.connection = .ok connection →
      other.connect connection = driver.connect connection)
    (inspection : Inspection) (verbose : Bool) :
    connect other inspection config verbose = connect driver inspection config verbose := by
  have hanswer : (config.connection >>= fun connection =>
        other.run connection (inspection.session connection.dialect)) =
      config.connection >>= fun connection =>
        driver.run connection (inspection.session connection.dialect) := by
    cases hconnection : config.connection with
    | error error => rfl
    | ok connection =>
      show other.run connection _ = driver.run connection _
      rw [Driver.run, Driver.run, hconnect connection hconnection, hdatabase]
  rw [connect, connect, hanswer]

end Report

namespace Surroundings

variable {σ : Type}

/-- The configuration without the environment. -/
def ownConfig (world : Surroundings σ) (path : Option String) : Except Failure Config :=
  { world with url := none }.loadConfig path

/-- A url of the environment that is not empty replaces that of the file. -/
theorem loadConfig_of_url {world : Surroundings σ} {url : String} (hurl : world.url = some url)
    (hempty : url ≠ "") (path : Option String) :
    world.loadConfig path = (world.ownConfig path).map fun config => config.withUrl (some url) := by
  have hpure (change : Config → Config) (config : Config) :
      (pure config : Except Failure Config).map change = pure (change config) := rfl
  unfold ownConfig loadConfig
  cases path <|> world.configFiles.head? with
  | none => simp [hurl, hpure, Config.withUrl]
  | some path =>
    dsimp only
    cases world.read path with
    | error reason => rfl
    | ok text =>
      dsimp only
      cases Config.ofText? text with
      | none => rfl
      | some config => simp [hurl, hpure, Config.withUrl]

theorem loadConfig_eq (world : Surroundings σ) (path : Option String) :
    world.loadConfig path = (world.ownConfig path).map fun config =>
      config.withUrl (world.url.filter (· != "") <|> config.url) := by
  have hsame : (world.ownConfig path).map (fun config => config.withUrl config.url) =
      world.ownConfig path := by
    cases world.ownConfig path <;> rfl
  obtain ⟨read, files, url, input, driver⟩ := world
  cases url with
  | none => exact hsame.symm
  | some url =>
    by_cases hempty : url = ""
    · subst hempty
      exact hsame.symm
    · have hfilter : (some url).filter (· != "") = some url := by simp [Option.filter, hempty]
      rw [loadConfig_of_url rfl hempty, hfilter]
      rfl

theorem configOf_eq (world : Surroundings σ) (invocation : Invocation) :
    world.configOf invocation = (world.ownConfig invocation.configPath).map fun config =>
      config.withUrl (invocation.databaseUrl <|> world.url <|> config.url) := by
  rw [configOf, loadConfig_eq]
  cases world.ownConfig invocation.configPath with
  | error failure => rfl
  | ok config =>
    cases hoption : invocation.databaseUrl <;> cases hurl : world.url <;> rfl

end Surroundings

namespace Report

/-- Whether a command connects with this url and no other one, or says that there is none. -/
structure UsesUrl (world : Surroundings σ) (arguments : List String) (invocation : Invocation)
    (config : Config) (url : Option String) : Prop where
  settled : world.configOf invocation = .ok (config.withUrl url)
  report : ∃ inspection, invocation.command = .inspect inspection ∧
    ofArguments world arguments =
      connect world.driver inspection (config.withUrl url) invocation.verbose
  connected : ∀ connection, (config.withUrl url).connection = .ok connection →
    url = some connection.url
  /-- What the driver does at other urls does not matter. -/
  others : ∀ driver : Driver σ, driver.database = world.driver.database →
    (∀ connection, url = some connection.url →
      driver.connect connection = world.driver.connect connection) →
    ofArguments { world with driver := driver } arguments = ofArguments world arguments
  missing : url = none → ofArguments world arguments = ofFailure "" .noUrl
  found : url ≠ none → world.driver.NeverSays Failure.noUrl.message →
    ofArguments world arguments ≠ ofFailure "" .noUrl

variable {world : Surroundings σ} {arguments : List String} {invocation : Invocation}
  {inspection : Inspection}

theorem ofArguments_eq_connect {config : Config}
    (harguments : Invocation.ofArguments? arguments = some (.invoke invocation))
    (hcommand : invocation.command = .inspect inspection)
    (hconfig : world.configOf invocation = .ok config) :
    ofArguments world arguments = connect world.driver inspection config invocation.verbose := by
  simp only [ofArguments, harguments, ofInvocation, hconfig, hcommand]

theorem UsesUrl.of_configOf {config : Config} {url : Option String}
    (harguments : Invocation.ofArguments? arguments = some (.invoke invocation))
    (hcommand : invocation.command = .inspect inspection)
    (hconfig : world.configOf invocation = .ok (config.withUrl url)) :
    UsesUrl world arguments invocation config url where
  settled := hconfig
  report := ⟨inspection, hcommand, ofArguments_eq_connect harguments hcommand hconfig⟩
  connected := fun _ h => Config.url_of_connection h
  others := by
    intro driver hdatabase hconnect
    have hconfig' : { world with driver := driver }.configOf invocation =
        .ok (config.withUrl url) := hconfig
    rw [ofArguments_eq_connect harguments hcommand hconfig,
      ofArguments_eq_connect harguments hcommand hconfig']
    exact connect_congr hdatabase (fun connection h => hconnect connection
      (Config.url_of_connection h)) inspection invocation.verbose
  missing := by
    intro hurl
    rw [ofArguments_eq_connect harguments hcommand hconfig]
    exact connect_of_noUrl hurl _ _ _
  found := by
    intro hurl hdriver
    rw [ofArguments_eq_connect harguments hcommand hconfig]
    exact connect_ne_noUrl hurl hdriver inspection invocation.verbose

/-- A command that needs a database uses the url of the option, else that of the environment, else
that of the configuration. An empty url of the environment counts as one: with such a url and
without the option, the url is not that of the configuration, which may be none. -/
theorem usesUrl_of_configuration_iff {config : Config}
    (harguments : Invocation.ofArguments? arguments = some (.invoke invocation))
    (hcommand : invocation.command = .inspect inspection)
    (hconfig : world.ownConfig invocation.configPath = .ok config) :
    UsesUrl world arguments invocation config
      (invocation.databaseUrl <|> world.url <|> config.url) ∧
    (UsesUrl world arguments invocation config
      (invocation.databaseUrl <|> world.url.filter (· != "") <|> config.url) ↔
      ¬(invocation.databaseUrl = none ∧ world.url = some "" ∧ config.url ≠ some "")) := by
  have hsettled : world.configOf invocation =
      .ok (config.withUrl (invocation.databaseUrl <|> world.url <|> config.url)) := by
    rw [world.configOf_eq, hconfig]
    rfl
  refine ⟨.of_configOf harguments hcommand hsettled, ?_⟩
  constructor
  · rintro ⟨hother, -, -, -, -, -⟩ ⟨hoption, hempty, hurl⟩
    have hsame := Config.withUrl_inj.1 (Except.ok.inj (hsettled.symm.trans hother))
    rw [hoption, hempty] at hsame
    exact hurl hsame.symm
  · intro h
    have hsame : (invocation.databaseUrl <|> world.url.filter (· != "") <|> config.url) =
        (invocation.databaseUrl <|> world.url <|> config.url) := by
      cases hoption : invocation.databaseUrl with
      | some url => rfl
      | none =>
        cases henvironment : world.url with
        | none => rfl
        | some url =>
          by_cases hempty : url = ""
          · have hurl : config.url = some "" := Decidable.byContradiction fun hurl =>
              h ⟨hoption, henvironment.trans (congrArg some hempty), hurl⟩
            rw [hurl, hempty]
            rfl
          · simp [Option.filter, hempty]
    rw [hsame]
    exact .of_configOf harguments hcommand hsettled

/-- A url of the environment that is not empty is used. -/
theorem usesUrl_of_environment :
    let driver : Driver Rehearsal :=
      ⟨fun connection => .ok { responses := [[⟨["name"], [.string connection.url]⟩]] },
        Rehearsal.database⟩
    let world : Surroundings Rehearsal :=
      ⟨fun _ => .error "", [], some "postgres://db/app", "", driver⟩
    UsesUrl world ["database"] { command := .inspect .database } {} (some "postgres://db/app") ∧
      ofArguments world ["database"] = ofOutput "postgres://db/app\n" := by
  intro driver world
  have harguments : Invocation.ofArguments? ["database"] =
      some (.invoke { command := .inspect .database }) := by
    rfl
  have hconfig : world.ownConfig none = .ok {} := rfl
  have huses := (usesUrl_of_configuration_iff harguments rfl hconfig).2.2 (by decide)
  exact ⟨huses, by rfl⟩

/-- An empty url of the environment is used where there is no other url, and in place of the one of
the configuration. -/
theorem not_usesUrl_of_empty_environment :
    let driver : Driver Rehearsal := ⟨fun _ => .ok {}, Rehearsal.database⟩
    let bare : Surroundings Rehearsal := ⟨fun _ => .error "", [], some "", "", driver⟩
    let configured : Surroundings Rehearsal :=
      ⟨fun _ => .ok "[database]\nurl = \"sqlite://app\"\n", ["c.toml"], some "", "", driver⟩
    let config : Config := { url := some "sqlite://app" }
    let refused : Report :=
      ⟨1, "", "Error: Configuration error: cannot infer a dialect from database url scheme ''\n"⟩
    (bare.ownConfig none = .ok {} ∧ ofArguments bare ["tables"] = refused ∧
      ¬UsesUrl bare ["tables"] { command := .inspect .tables } {} none) ∧
    configured.ownConfig none = .ok config ∧ ofArguments configured ["tables"] = refused ∧
      ¬UsesUrl configured ["tables"] { command := .inspect .tables } config
        (some "sqlite://app") := by
  refine ⟨⟨rfl, by rfl, fun h => ?_⟩, by rfl, by rfl, fun h => ?_⟩
  · have hempty : some "" = (none : Option String) := congrArg Config.url (Except.ok.inj h.settled)
    cases hempty
  · have hempty : some "" = some "sqlite://app" := congrArg Config.url (Except.ok.inj h.settled)
    exact absurd hempty (by decide)

end Report

end SqlDialects
