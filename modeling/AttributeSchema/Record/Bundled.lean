import AttributeSchema.Record.Shape
/-!
# The bundled records

The native records for which a configuration format is published: the connection of a provider, the
client of an agent, and access tokens.
-/

namespace AttributeSchema.Bundled

open Shape

def text (name : String) (rest : Shape) : Shape := leaf name .text rest

/-- The credentials and the end point of a remote service. -/
def providerConfig : Record :=
  ⟨"ProviderConfig", text "host" (text "username" (text "password" done))⟩

def httpBasicAuth : Record := ⟨"HttpBasicAuth", text "username" (text "password" done)⟩

def tlsConfig : Record :=
  ⟨"TlsConfig",
    text "address" (text "ca_file" (leaf "ca_pem" .bytes (text "cert_file" (text "key_file"
      (leaf "insecure_skip_verify" .bool done)))))⟩

def config : Record :=
  ⟨"Config",
    text "address" (text "scheme" (text "path_prefix" (text "datacenter"
      (leaf "wait_time" .duration (text "token" (text "namespace" (text "partition"
        (optional "http_auth" httpBasicAuth.name httpBasicAuth.shape
          (nested "tls_config" tlsConfig.name tlsConfig.shape
            (leaf "headers" .stringMap (untagged "wait_index" (.integer .u64) done)))))))))))⟩

def aclTokenPolicyLink : Record := ⟨"AclTokenPolicyLink", text "id" (text "name" done)⟩

def aclServiceIdentity : Record :=
  ⟨"AclServiceIdentity", text "service_name" (leaf "datacenters" .stringList done)⟩

def aclToken : Record :=
  ⟨"AclToken",
    text "accessor_id" (text "secret_id" (text "description" (leaf "local" .bool
      (leaf "expiration_ttl" .duration (leaf "create_time" .timestamp
        (leaf "create_index" (.integer .u64)
          (list "policies" aclTokenPolicyLink.name aclTokenPolicyLink.shape
            (list "service_identities" aclServiceIdentity.name aclServiceIdentity.shape
              (untagged "modify_index" (.integer .u64) done)))))))))⟩

def units : List (String × Record) :=
  [("provider", providerConfig), ("consul_config", config), ("acl_token", aclToken)]

def records : List (String × Record) :=
  [("provider", providerConfig), ("consul_config", config), ("consul_config", httpBasicAuth),
    ("consul_config", tlsConfig), ("acl_token", aclToken), ("acl_token", aclTokenPolicyLink),
    ("acl_token", aclServiceIdentity)]

/-! ### What is published -/

def providerConfigAttributes : Attributes :=
  .ofList
    [("host", .optional (.leaf .string)), ("username", .optional (.leaf .string)),
      ("password", .optional (.leaf .string))]

def httpBasicAuthAttributes : Attributes :=
  .ofList [("username", .optional (.leaf .string)), ("password", .optional (.leaf .string))]

def tlsConfigAttributes : Attributes :=
  .ofList
    [("address", .optional (.leaf .string)), ("ca_file", .optional (.leaf .string)),
      ("ca_pem", .optional (.leaf .string)), ("cert_file", .optional (.leaf .string)),
      ("key_file", .optional (.leaf .string)), ("insecure_skip_verify", .optional (.leaf .bool))]

def configAttributes : Attributes :=
  .ofList
    [("address", .optional (.leaf .string)), ("scheme", .optional (.leaf .string)),
      ("path_prefix", .optional (.leaf .string)), ("datacenter", .optional (.leaf .string)),
      ("wait_time", .optional (.leaf .string)), ("token", .optional (.leaf .string)),
      ("namespace", .optional (.leaf .string)), ("partition", .optional (.leaf .string)),
      ("http_auth", .optional (.nested httpBasicAuthAttributes)),
      ("tls_config", .optional (.nested tlsConfigAttributes)),
      ("headers", .optional (.leaf .mapOfStringToString))]

def aclTokenPolicyLinkAttributes : Attributes :=
  .ofList [("id", .optional (.leaf .string)), ("name", .optional (.leaf .string))]

def aclServiceIdentityAttributes : Attributes :=
  .ofList
    [("service_name", .optional (.leaf .string)), ("datacenters", .optional (.leaf .listOfString))]

def aclTokenAttributes : Attributes :=
  .ofList
    [("accessor_id", .optional (.leaf .string)), ("secret_id", .optional (.leaf .string)),
      ("description", .optional (.leaf .string)), ("local", .optional (.leaf .bool)),
      ("expiration_ttl", .optional (.leaf .string)), ("create_time", .optional (.leaf .string)),
      ("create_index", .optional (.leaf .number)),
      ("policies", .optional (.nestedList aclTokenPolicyLinkAttributes)),
      ("service_identities", .optional (.nestedList aclServiceIdentityAttributes))]

def schemas : SortedMap Attributes :=
  .ofList
    [("provider", providerConfigAttributes), ("consul_config", configAttributes),
      ("acl_token", aclTokenAttributes)]

end AttributeSchema.Bundled
