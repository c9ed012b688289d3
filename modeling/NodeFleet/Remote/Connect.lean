import NodeFleet.Credential.Certificate
import NodeFleet.Credential.Pem
import NodeFleet.Credential.PrivateKey
import NodeFleet.Target
import NodeFleet.Text.Quoted
import NodeFleet.Url

/-!
# Setting up a connection

A connection is set up without contacting the server.  The address has to be well formed.
If a file with certificates is given, the connection is encrypted: the address must
then be a URL with a host, a certificate of the client needs its key and the other way
round, and the files have to hold what they are given for.
-/

namespace NodeFleet.Remote

/-- A file that a configuration names. -/
structure NamedFile where
  path : String
  /-- The contents, if the file can be read. -/
  contents : Option String

/-- What a file is given for. -/
inductive FileRole where
  /-- The certificates that the server's is checked against. -/
  | authority
  | clientCertificate
  | clientKey
  deriving DecidableEq

/-- What a file is called in messages. -/
def FileRole.name : FileRole → String
  | .authority => "CA certificate"
  | .clientCertificate => "client certificate"
  | .clientKey => "client key"

/-- Why no connection is set up. -/
inductive ConnectError where
  /-- The address is ill-formed. -/
  | invalidEndpoint (endpoint : String)
  /-- A file cannot be read. -/
  | unreadable (role : FileRole) (path : String)
  /-- The address names no host. -/
  | noHost
  /-- Only one of certificate and key of the client is given. -/
  | unpaired
  /-- The files or the host do not serve for encryption. -/
  | unusable
  deriving DecidableEq

/-- The wording of a failure. -/
def ConnectError.message : ConnectError → String
  | .invalidEndpoint endpoint => "Invalid endpoint URL: " ++ endpoint
  | .unreadable role path =>
      "Failed to read " ++ role.name ++ " from " ++ Text.Quoted.quotePath path
  | .noHost => "No host in endpoint URL"
  | .unpaired => "client certificate and key must be configured together"
  | .unusable => "Failed to apply TLS configuration"

/-- The files for an encrypted connection. -/
structure Credentials where
  /-- The certificates that the server's is checked against; without them nothing is encrypted. -/
  authority : Option NamedFile := none
  certificate : Option NamedFile := none
  key : Option NamedFile := none

/-- The contents of a file. -/
def NamedFile.read (role : FileRole) (file : NamedFile) : Except ConnectError String :=
  match file.contents with
  | some contents => .ok contents
  | none => .error (.unreadable role file.path)

/-- The host of an address. -/
def hostOf (endpoint : String) : Except ConnectError Url.Host :=
  match Url.read? endpoint with
  | none => .error (.invalidEndpoint endpoint)
  | some url =>
      match url.host with
      | some host => .ok host
      | none => .error .noHost

/-- The certificate and the key of the client, if both are given. -/
def Credentials.identity (c : Credentials) : Except ConnectError (Option (String × String)) :=
  match c.certificate, c.key with
  | some certificate, some key => do
      let certificate ← certificate.read .clientCertificate
      let key ← key.read .clientKey
      return some (certificate, key)
  | none, none => .ok none
  | _, _ => .error .unpaired

/-! ## Names that certificates are issued for -/

/-- The longest label of a name. -/
def maxLabel : Nat := 63

/-- The longest name. -/
def maxName : Nat := 253

/-- Whether a text is a label: letters, digits, hyphens and underscores, no hyphen at its ends. -/
def isLabel (cs : List Char) : Bool :=
  cs ≠ [] && cs.length ≤ maxLabel && cs.head? ≠ some '-' && cs.getLast? ≠ some '-' &&
    cs.all fun c => c.isAlphanum || c = '-' || c = '_'

/-- Whether a certificate can be issued for a host.  The last label of a name is no number, unless
the name is an address of four bytes. -/
def isCertifiable : Url.Host → Bool
  | .four _ => true
  | .eight _ => false
  | .name s =>
      let labels := Url.labels s.toList
      (Url.readBytes? s.toList).isSome ||
        (s.length ≤ maxName && labels.all isLabel && labels.getLast?.any (!·.all Char.isDigit))

/-! ## The connection -/

/-- Whether every certificate in a text can be checked against. -/
def areAuthorities (text : String) : Bool :=
  match Pem.certificates? text with
  | some certificates => certificates.all Certificate.isAuthority
  | none => false

/-- Whether texts hold certificates and a key.  The certificates of a client are only sent. -/
def isIdentity (certificate key : String) : Bool :=
  (Pem.certificates? certificate).isSome && ((Pem.key? key).map PrivateKey.isKey).getD false

/-- Whether the files and the host serve for an encrypted connection. -/
def isUsable (authority : String) (identity : Option (String × String)) (host : Url.Host) : Bool :=
  areAuthorities authority && isCertifiable host &&
    identity.all fun (certificate, key) => isIdentity certificate key

/-- Prepares the encryption of a connection. -/
def secure (endpoint : String) (credentials : Credentials) (authority : NamedFile) :
    Except ConnectError Unit := do
  let contents ← authority.read .authority
  let host ← hostOf endpoint
  let identity ← credentials.identity
  if isUsable contents identity host then return () else throw .unusable

/-- Sets up a connection and returns its address. -/
def connect (endpoint : String) (credentials : Credentials) : Except ConnectError String := do
  if !Target.isWellFormed endpoint then throw (.invalidEndpoint endpoint)
  match credentials.authority with
  | some authority => secure endpoint credentials authority
  | none => pure ()
  return endpoint

end NodeFleet.Remote
