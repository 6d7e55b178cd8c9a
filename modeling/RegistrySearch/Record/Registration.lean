import RegistrySearch.Record.TypedValue
import RegistrySearch.Text.Normal

/-!
# Registrations

Records of the shapes that services are usually registered with: an ordinary service, a client whose
secret expires, and a service with a policy for the attributes that it is told.
-/

namespace RegistrySearch.Record

open Json (Value)

/-- The class of ordinary registrations. -/
def serviceClass : String := "org.apereo.cas.services.CasRegisteredService"

/-- The class of registrations of clients with a secret. -/
def oauthServiceClass : String :=
  "org.apereo.cas.support.oauth.services.OAuthRegisteredService"

/-- The pattern of the addresses of a service, from its name. -/
def addressPattern (name : String) : String :=
  "https://" ++ Text.toLower name ++ ".example.org/.*"

/-- A registration of an ordinary service. -/
def service (id : Int64) (name serviceId : String) : Record :=
  .object [("@class", .string serviceClass), ("description", .string ("Description of " ++ name)),
    ("evalOrder", .int id.toInt), ("id", .int id.toInt), ("name", .string name),
    ("serviceId", .string serviceId)]

/-- A registration of a client whose secret expires. -/
def oauthService (id : Int64) (name : String) (expiration : Int64) (enabled : Bool) : Record :=
  .object [("@class", .string oauthServiceClass),
    ("clientSecretExpiration", .int expiration.toInt), ("enabled", .bool enabled),
    ("evalOrder", .int id.toInt), ("id", .int id.toInt), ("name", .string name),
    ("serviceId", .string (addressPattern name)), ("type", .string "oauth")]

/-- A registration whose release of attributes has a policy of a type. -/
def serviceWithPolicy (id : Int64) (name policyType : String) : Record :=
  .object [("@class", .string serviceClass),
    ("attributeReleasePolicy", .object [("type", .string policyType)]), ("id", .int id.toInt),
    ("name", .string name), ("serviceId", .string (addressPattern name))]

end RegistrySearch.Record
