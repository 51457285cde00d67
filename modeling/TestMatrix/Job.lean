import TestMatrix.Profile
import TestMatrix.Text.Version

/-!
# Jobs

A job is the flat object that the workflow reads: the fields of a row, and the fields that follow
from them, such as the arguments of the virtual machines. `Job.ofRow` makes the job of a row. Half
of the jobs whose virtual machine can do so stress its compiler; which ones is decided by one draw
for each of them, so that jobs can be made again from the seed.
-/

namespace TestMatrix.Job

/-- The arguments that set the locale. -/
def localeArguments (r : Row) : List String :=
  let part (key : String) : String := ((r.setting? "locale").bind (·.attribute? key)).getD ""
  ["-Duser.country=" ++ part "country", "-Duser.language=" ++ part "language"]

/-- The tag expression of the tests to run: untagged tests, and those of the features that are on.
-/
def testTags (r : Row) : String :=
  let on (axis tag : String) : List String := if r.tokenOf axis == "yes" then [tag] else []
  " | ".intercalate
    (["none()"] ++ on "replication" "replication" ++
      on "slow_tests" "org.postgresql.test.SlowTests" ++ on "xa" "xa")

/-- The arguments of the virtual machine that runs the tests. -/
def testArguments (r : Row) : String :=
  " ::: ".intercalate
    ((if r.tokenOf "hash" == "same" then
        ["-XX:+UnlockExperimentalVMOptions", "-XX:hashCode=2"] else []) ++
      ["-Djava.security.egd=file:/dev/./urandom"])

/-- The arguments that stress the compiler, as far as the version of Java has them. -/
def stressArguments (java : String) : List String :=
  let since (version : String) (argument : String) : List String :=
    if Text.versionAtLeast java version then [argument] else []
  ["-XX:+UnlockDiagnosticVMOptions", "-XX:+StressGCM", "-XX:+StressLCM"] ++
    since "16" "-XX:+StressIGVN" ++ since "17" "-XX:+StressCCP"

/-- Whether the virtual machine of a row can stress its compiler. -/
def canStress (r : Row) : Bool := r.tokenOf "java_distribution" != "semeru"

/-- The fields that do not depend on the draw, with their values; a field without a value is left
out of the job. -/
def derivedFields (r : Row) : List (String × Option Json) :=
  let distribution := r.tokenOf "java_distribution"
  let java := r.tokenOf "java_version"
  let isEarly := java == Profile.earlyAccessJava
  let vendor := (r.setting? "java_distribution").bind (·.attribute? "vendor")
  let website := if isEarly then "jdk.java.net" else "oracle.com"
  let deploys := r.tokenOf "gss" == "yes" || r.tokenOf "check_anorm_sbt" == "yes"
  [("java_vendor", vendor.map .text),
    ("oracle_java_website", if distribution == "oracle" then some (.text website) else none),
    ("non_ea_java_version", some (.text (if isEarly then "" else java))),
    ("extraGradleArgs", some (.text (" ".intercalate (localeArguments r)))),
    ("includeTestTags", some (.text (testTags r))),
    ("deploy_to_maven_local", if deploys then some (.bool true) else none),
    ("testExtraJvmArgs", some (.text (testArguments r)))]

/-- Puts the fields that have a value into an object. -/
def putFields (o : Json.Object) (fields : List (String × Option Json)) : Json.Object :=
  fields.foldl (fun o field => match field.2 with
    | some value => o.put field.1 value
    | none => o) o

/-- The job of a row, given whether it stresses the compiler. -/
def ofRowWith (r : Row) (stress : Bool) : Json.Object :=
  let arguments := localeArguments r ++
    if stress then stressArguments (r.tokenOf "java_version") else []
  let name := r.name ++ if stress then ", stress JIT" else ""
  putFields r.toObject (derivedFields r ++
      [("extraJvmArgs", some (.text (" ".intercalate arguments))), ("name", some (.text name))])
    |>.without "hash"

/-- The job of a row, and the stream after the draw that it may take. -/
def ofRow (r : Row) (stream : RandomStream) : Json.Object × RandomStream :=
  if canStress r then
    let (value, stream) := stream.draw
    (ofRowWith r (0.5 < value), stream)
  else (ofRowWith r false, stream)

/-- The jobs of some rows, drawing from the stream in their order. -/
def ofRows : List Row → RandomStream → List Json.Object × RandomStream
  | [], stream => ([], stream)
  | r :: rest, stream =>
    let (job, stream) := ofRow r stream
    let (jobs, stream) := ofRows rest stream
    (job :: jobs, stream)

end TestMatrix.Job
