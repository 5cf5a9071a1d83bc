import CommandTelemetry.Setting.Environment

/-!
# The installed package

What is known about the program as it is installed, and the version and schema under which its spans
are recorded. The version that the environment names goes before the installed one.
-/

namespace CommandTelemetry

/-- The program as it is installed on a host. -/
structure Package where
  /-- The version, unless the program runs without being installed. -/
  version : Option String := some "0.1.0"
  language : String
  toolkit : Option String
  deriving Repr

/-- The version of a program that is not installed. -/
def developmentVersion : String := "0.0.0-dev"

def Package.shownVersion (p : Package) : String := p.version.getD developmentVersion

/-- What instrumentation says about itself. -/
structure Instrumentation where
  version : Option String
  schemaUrl : Option String
  deriving DecidableEq, Repr

def Instrumentation.ofEnvironment (env : Environment) (installed : Option String) :
    Instrumentation where
  version := (env.text? "CMDTRACE_SERVICE_VERSION").orElse fun _ => installed
  schemaUrl := (env.text? "CMDTRACE_OTEL_SCHEMA_URL").orElse fun _ => env.text? "OTEL_SCHEMA_URL"

/-- What stands in place of a version that is not known. -/
def unknownVersion : String := "unknown"

/-- The version under which spans are recorded. -/
def Instrumentation.scopeVersion (i : Instrumentation) : String := i.version.getD unknownVersion

/-- The version under which an installed program records its spans, where no variable is set. -/
def usualVersion : String := "0.1.0"

/-- The instrumentation of an installed program where no variable is set. -/
def usualInstrumentation : Instrumentation where
  version := some usualVersion
  schemaUrl := none

end CommandTelemetry
