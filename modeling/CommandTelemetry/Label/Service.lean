/-!
# Service labels

A request host is reduced to a service and a host suffix, both taken from a table of well-known
domains, so that no tenant's name reaches telemetry. The table is ordered: the first entry whose
name is a suffix of the host decides, so specific names stand before general ones.
-/

namespace CommandTelemetry

/-- A host suffix and the service that it belongs to. -/
structure Domain where
  name : String
  service : String
  deriving DecidableEq, Repr

namespace Label

/-- The label of everything that no table knows. -/
def other : String := "other"

structure Service where
  service : String
  host : String
  deriving DecidableEq, Repr

def unknownService : Service := ⟨other, other⟩

/-- The name of a domain ends the host. -/
def Domain.covers (d : Domain) (host : String) : Bool := d.name.toList.isSuffixOf host.toList

/-- The labels of a host. -/
def resolveService (domains : List Domain) (host : String) : Service :=
  match domains.find? fun d => Domain.covers d host with
  | some d => ⟨d.service, d.name⟩
  | none => unknownService

/-- The well-known domains. -/
def wellKnownDomains : List Domain :=
  [⟨"dev.azure.com", "azdo"⟩,
   ⟨"management.azure.com", "arm"⟩,
   ⟨"management.core.windows.net", "arm"⟩,
   ⟨"graph.microsoft.com", "graph"⟩,
   ⟨"graph.windows.net", "graph"⟩,
   ⟨"login.microsoftonline.com", "aad"⟩,
   ⟨"vault.azure.net", "keyvault"⟩,
   ⟨"azurecr.io", "acr"⟩,
   ⟨"azconfig.io", "appconfig"⟩,
   ⟨"azure-api.net", "apim"⟩,
   ⟨"azurecontainerapps.io", "containerapps"⟩,
   ⟨"azurestaticapps.net", "staticwebapp"⟩,
   ⟨"azurewebsites.net", "appservice"⟩,
   ⟨"blob.core.windows.net", "storage"⟩,
   ⟨"documents.azure.com", "cosmosdb"⟩,
   ⟨"api.github.com", "github"⟩,
   ⟨"github.com", "github"⟩,
   ⟨"pypi.org", "pypi"⟩,
   ⟨"registry.npmjs.org", "npm"⟩,
   ⟨"docker.io", "docker"⟩]

end Label

end CommandTelemetry
