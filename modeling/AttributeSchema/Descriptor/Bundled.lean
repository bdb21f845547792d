import AttributeSchema.Descriptor.Describe
/-!
# The bundled descriptors

The tables of the bundled records and the units in which they are generated.
-/

namespace AttributeSchema.Bundled

namespace Table

open Descriptor (ofFields)

def tagged (name : String) (type : Descriptor) : Field := .mk name type name

def text (name : String) : Field := tagged name .string

/-- The credentials and the end point of a remote service. -/
def providerConfig : Descriptor :=
  ofFields "ProviderConfig" "provider::ProviderConfig"
    [text "host", text "username", text "password"]

def httpBasicAuth : Descriptor :=
  ofFields "HttpBasicAuth" "consul::HttpBasicAuth" [text "username", text "password"]

def tlsConfig : Descriptor :=
  ofFields "TlsConfig" "consul::TlsConfig"
    [text "address", text "ca_file", tagged "ca_pem" (.sequence (.integer .u8)), text "cert_file",
      text "key_file", tagged "insecure_skip_verify" .bool]

def config : Descriptor :=
  ofFields "Config" "consul::Config"
    [text "address", text "scheme", text "path_prefix", text "datacenter",
      tagged "wait_time" .duration, text "token", text "namespace", text "partition",
      tagged "http_auth" (.optional httpBasicAuth), tagged "tls_config" tlsConfig,
      tagged "headers" (.sortedMap .string .string), .mk "wait_index" (.integer .u64) ""]

def aclTokenPolicyLink : Descriptor :=
  ofFields "AclTokenPolicyLink" "acl::AclTokenPolicyLink" [text "id", text "name"]

def aclServiceIdentity : Descriptor :=
  ofFields "AclServiceIdentity" "acl::AclServiceIdentity"
    [text "service_name", tagged "datacenters" (.sequence .string)]

def aclToken : Descriptor :=
  ofFields "AclToken" "acl::AclToken"
    [text "accessor_id", text "secret_id", text "description", tagged "local" .bool,
      tagged "expiration_ttl" .duration, tagged "create_time" .timestamp,
      tagged "create_index" (.integer .u64), tagged "policies" (.sequence aclTokenPolicyLink),
      tagged "service_identities" (.sequence aclServiceIdentity),
      .mk "modify_index" (.integer .u64) ""]

def all : List Descriptor :=
  [providerConfig, config, httpBasicAuth, tlsConfig, aclToken, aclTokenPolicyLink,
    aclServiceIdentity]

def units : List GenerationUnit :=
  [⟨"provider", ["attrgen_definitions::provider"], providerConfig, []⟩,
    ⟨"consul_config", ["attrgen_definitions::consul"], config, [httpBasicAuth, tlsConfig]⟩,
    ⟨"acl_token", ["attrgen_definitions::acl"], aclToken, [aclTokenPolicyLink, aclServiceIdentity]⟩]

end Table

end AttributeSchema.Bundled
