import TestMatrix.Plan.Generation
import TestMatrix.Text.Replace

/-!
# The matrix of the database driver

A `Profile` is the definition of the matrix that the driver is tested with: its axes, its
constraints, and the selectors that some row has to match whatever is drawn (`goals`). There are
two of them, because only one repository has self-hosted runners.
-/

namespace TestMatrix

/-- A definition of the matrix. -/
structure Profile where
  /-- Whether there are self-hosted runners. -/
  selfHosted : Bool := false
deriving DecidableEq, Repr, Inhabited

namespace Profile

/-- The early-access version of Java, which is to be had from one distribution only. -/
def earlyAccessJava : String := "22"

/-- The repository that has self-hosted runners. -/
def canonicalRepository : String := "pgjdbc/pgjdbc"

/-- The axes whose titles make up the name of a row. -/
def nameAxes : List String :=
  ["java_version", "java_distribution", "pg_version", "query_mode", "scram", "ssl", "hash", "os",
    "server_tz", "tz", "locale", "check_anorm_sbt", "gss", "replication", "slow_tests"]

/-- The profile of a repository. -/
def ofRepository (repository : Option String) : Profile :=
  ⟨repository == some canonicalRepository⟩

/-! ## Axes -/

/-- A setting with nothing but a token. -/
def plainSetting (token : String) : Setting := { token }

/-- A setting with a weight and perhaps a title of its own. -/
def weighted (token : String) (weight : Float) (title : Option String := none) : Setting :=
  { token, weight, title }

/-- An axis whose titles are the tokens after some words. -/
def labelled (name label : String) (tokens : List String) : Axis :=
  { name, settings := tokens.map plainSetting, titleRule := some fun s => label ++ s.token }

/-- An axis that turns a feature on or off, with the weights of the two settings. -/
def toggle (name : String) (yes no : Float) : Axis where
  name := name
  settings := [weighted "yes" yes, weighted "no" no]
  titleRule := some fun s => if s.token == "yes" then name else "no_" ++ name

/-- The distributions of Java with their vendors. -/
def distributionAxis : Axis where
  name := "java_distribution"
  settings :=
    [("corretto", "amazon"), ("liberica", "bellsoft"), ("microsoft", "microsoft"),
      ("oracle", "oracle"), ("temurin", "eclipse"), ("zulu", "azul")].map fun (token, vendor) =>
        { token, attributes := [("vendor", vendor)] }

/-- The time zones that client and server are run in. -/
def zones : List String := ["America/New_York", "Pacific/Chatham", "UTC"]

/-- The operating systems of the runners. -/
def systemAxis (p : Profile) : Axis where
  name := "os"
  settings := (["ubuntu-latest"] ++ if p.selfHosted then ["self-hosted"] else []).map plainSetting
  titleRule := some fun s => Text.replaceAll s.token "-latest" ""

/-- The locales with their languages and countries. -/
def localeAxis : Axis where
  name := "locale"
  settings :=
    [("de", "DE"), ("fr", "FR"), ("ru", "RU"), ("tr", "TR")].map fun (language, country) =>
      { token := language ++ "_" ++ country
        attributes := [("country", country), ("language", language)] }
  titleRule := some fun s =>
    (s.attribute? "language").getD "" ++ "_" ++ (s.attribute? "country").getD ""

/-- The axes in the order in which they are added. -/
def axes (p : Profile) : List Axis :=
  [distributionAxis,
    labelled "java_version" "Java " ["8", "11", "17", "21", earlyAccessJava],
    labelled "pg_version" "PG "
      ["8.4", "9.0", "9.1", "9.2", "9.3", "9.4", "9.5", "9.6", "10", "11", "12", "13", "14"],
    labelled "tz" "client_tz " zones,
    labelled "server_tz" "server_tz " zones,
    p.systemAxis,
    { name := "hash"
      settings := [weighted "regular" 42 (some ""), weighted "same" 1 (some "same hashcode")] },
    localeAxis,
    { name := "query_mode"
      settings := [weighted "simple" 2 (some "simple query"), weighted "extendedForPrepared" 2,
        weighted "extended" 10 (some ""), weighted "extendedCacheEverything" 2] },
    toggle "replication" 10 10,
    toggle "slow_tests" 1 10,
    toggle "scram" 10 10,
    toggle "ssl" 10 10,
    toggle "gss" 2 10,
    toggle "xa" 10 10,
    { name := "check_anorm_sbt", settings := [weighted "no" 10 (some "")] }]

/-! ## Constraints -/

/-- A feature must be off before some version of the server. -/
def needsServer (axis token bound : String) : Constraint :=
  .exclude (({} : Selector).having axis token |>.matching "pg_version" (.below bound))

/-- Java versions that come from Oracle: the early-access one, and all from 17 on. -/
def oracleJava : Matcher :=
  .satisfies (earlyAccessJava ++ " or >= 17") fun s =>
    s.token == earlyAccessJava || Text.versionAtLeast s.token "17"

/-- The constraints in the order in which they are added. -/
def constraints (p : Profile) : List Constraint :=
  [.imply (({} : Selector).having "java_version" earlyAccessJava)
      (({} : Selector).having "java_distribution" "oracle"),
    needsServer "ssl" "yes" "9.3",
    needsServer "scram" "yes" "10",
    needsServer "replication" "yes" "9.6",
    needsServer "query_mode" "simple" "9.1",
    .imply (({} : Selector).having "java_distribution" "microsoft")
      (({} : Selector).matching "java_version" (.atLeast "11")),
    .imply (({} : Selector).having "java_distribution" "oracle")
      (({} : Selector).matching "java_version" oracleJava),
    .exclude (({} : Selector).having "gss" "yes"
      |>.matching "os" (.anyOf ["windows-latest", "macos-latest", "self-hosted"]))] ++
  if p.selfHosted then [needsServer "os" "self-hosted" "9.3"] else []

/-! ## Definition -/

/-- Takes one step after the other up to the first that fails, and keeps what was done till then. -/
def takeSteps : List (Plan → Plan × Except ConfigError Unit) → Plan →
    Plan × Except ConfigError Unit
  | [], plan => (plan, .ok ())
  | step :: rest, plan =>
    match step plan with
    | (plan, .ok ()) => takeSteps rest plan
    | (plan, .error e) => (plan, .error e)

/-- The steps that lay down the matrix: axes, name pattern, constraints. -/
def steps (p : Profile) : List (Plan → Plan × Except ConfigError Unit) :=
  p.axes.map (fun a plan => plan.insertAxis a) ++ [fun plan => plan.nameBy nameAxes] ++
    p.constraints.map (fun c plan => plan.constrain c)

/-- Lays down the matrix in a plan. -/
def layOut (p : Profile) (plan : Plan) : Plan × Except ConfigError Unit := takeSteps p.steps plan

/-! ## Goals -/

/-- The selectors of some tokens of one axis. -/
def each (axis : String) (tokens : List String) : List Selector :=
  tokens.map fun token => ({} : Selector).having axis token

/-- What some row has to match, the rarest first: a row that is made for a rare setting often covers
others on the way. First and last settings are those that the plan has. -/
def goals (p : Profile) (plan : Plan) : List Selector :=
  let java := plan.tokens "java_version"
  let server := plan.tokens "pg_version"
  each "hash" ["same"] ++ each "scram" ["yes"] ++ each "java_version" [earlyAccessJava] ++
  each "pg_version" (server.head?.toList ++ server.getLast?.toList) ++
  each "query_mode" ["simple"] ++
  each "java_version" (java.head?.toList ++ ["17"] ++ java.dropLast.getLast?.toList) ++
  each "ssl" ["yes"] ++ each "os" ["ubuntu-latest"] ++
  (if p.selfHosted then each "os" ["self-hosted"] else []) ++
  ["query_mode", "gss", "xa", "ssl", "replication"].flatMap fun axis =>
    each axis (plan.tokens axis)

end Profile

end TestMatrix
