import ClientRegistration.Text.Basic
namespace ClientRegistration

inductive Endpoint where
  | all
  | discovery
  | token
  | tokenRevocation
  | introspection
  | jwks
  | userinfo
  | clientRegistration
  | clientConfiguration
deriving DecidableEq

namespace Endpoint

def list : List Endpoint :=
  [all, discovery, token, tokenRevocation, introspection, jwks, userinfo, clientRegistration,
    clientConfiguration]

def name : Endpoint → Text
  | .all => "all"
  | .discovery => "discovery"
  | .token => "token"
  | .tokenRevocation => "token_revocation"
  | .introspection => "introspection"
  | .jwks => "jwks"
  | .userinfo => "userinfo"
  | .clientRegistration => "client_registration"
  | .clientConfiguration => "client_configuration"

def label : Endpoint → Text
  | .all => "ALL"
  | .discovery => "DISCOVERY"
  | .token => "TOKEN"
  | .tokenRevocation => "TOKEN_REVOCATION"
  | .introspection => "INTROSPECTION"
  | .jwks => "JWKS"
  | .userinfo => "USERINFO"
  | .clientRegistration => "CLIENT_REGISTRATION"
  | .clientConfiguration => "CLIENT_CONFIGURATION"

def ofName? (t : Text) : Option Endpoint := list.find? (·.name = t)

end Endpoint

end ClientRegistration
