import ResourceGuard.Text.Vocabulary

/-! # Secure virtual resources

A device keeps its security data in eleven well-known resources. A URI
designates one of them when its path, the part before any query, is exactly the
resource's canonical URI: case, slashes and blanks all count. -/
namespace ResourceGuard

/-- The well-known resources that hold security data. -/
inductive VirtualResource where
  /-- access control list -/
  | acl
  /-- access manager's access control list -/
  | amacl
  /-- credentials -/
  | cred
  /-- certificate revocation list -/
  | crl
  /-- ownership transfer methods -/
  | doxm
  /-- direct pairing -/
  | dpairing
  /-- pairing configuration -/
  | pconf
  /-- provisioning status -/
  | pstat
  /-- services -/
  | svc
  /-- signed access control list -/
  | sacl
  /-- security version -/
  | ver
  deriving DecidableEq

instance : Vocabulary VirtualResource where
  all := [.acl, .amacl, .cred, .crl, .doxm, .dpairing, .pconf, .pstat, .svc, .sacl, .ver]
  name
    | .acl => "Acl"
    | .amacl => "Amacl"
    | .cred => "Cred"
    | .crl => "Crl"
    | .doxm => "Doxm"
    | .dpairing => "Dpairing"
    | .pconf => "Pconf"
    | .pstat => "Pstat"
    | .svc => "Svc"
    | .sacl => "Sacl"
    | .ver => "Ver"
  mem_all a := by cases a <;> decide
  name_injective a b := by cases a <;> cases b <;> decide

/-- The path of a URI: what stands before the first question mark. -/
def pathOf (uri : String) : String := String.ofList (uri.toList.takeWhile (· != '?'))

namespace VirtualResource

/-- The canonical URI. -/
def uri : VirtualResource → String
  | acl => "/oic/sec/acl"
  | amacl => "/oic/sec/amacl"
  | cred => "/oic/sec/cred"
  | crl => "/oic/sec/crl"
  | doxm => "/oic/sec/doxm"
  | dpairing => "/oic/sec/dpairing"
  | pconf => "/oic/sec/pconf"
  | pstat => "/oic/sec/pstat"
  | svc => "/oic/sec/svc"
  | sacl => "/oic/sec/sacl"
  | ver => "/oic/sec/ver"

/-- The resource a URI designates, if it is one of the eleven. -/
def classify (uri : String) : Option VirtualResource :=
  (Vocabulary.all (α := VirtualResource)).find? fun k => k.uri == pathOf uri

/-- Where a revocation list is provisioned: a security URI outside the eleven. -/
def provisioningCrlUri : String := "/oic/credprov/crl"

/-- The URI names security data, classified or not. -/
def isSecurityUri (uri : String) : Bool :=
  (classify uri).isSome || pathOf uri == provisioningCrlUri

end VirtualResource

/-- What an ordinary resource is called where a virtual one shows its URI. -/
def resourceText : Option VirtualResource → String
  | some k => k.uri
  | none => "not-an-svr"

/-- The name of a classification, the ordinary one included. -/
def resourceName : Option VirtualResource → String
  | some k => Vocabulary.name k
  | none => "NotAnSvr"

end ResourceGuard
