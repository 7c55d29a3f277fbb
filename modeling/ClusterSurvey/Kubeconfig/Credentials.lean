import ClusterSurvey.Api.Address
import ClusterSurvey.Base64
import ClusterSurvey.Files
import ClusterSurvey.Kubeconfig.Basic
import ClusterSurvey.Text.Quoted
import ClusterSurvey.Text.Utf8

/-! What a user shows to a cluster, and what may be wrong with it. -/
namespace ClusterSurvey

abbrev FileReader := String → Except FileFault String

inductive MaterialFault where
  | notBase64 (fault : Base64.Fault)
  | unreadable (path : String) (fault : FileFault)
  deriving DecidableEq, Repr

namespace MaterialFault

def message : MaterialFault → String
  | notBase64 fault => "failed to decode base64 data: " ++ fault.message
  | unreadable path fault => "failed to read file '" ++ Text.quoted path ++ "': " ++ fault.message

def sources : MaterialFault → List String
  | notBase64 fault => [fault.message]
  | unreadable _ fault => [fault.message]

end MaterialFault

namespace Material

/-- What is given, if anything is. A file need not hold text. -/
def load (m : Material) (file : FileReader) : Except MaterialFault (Option String) :=
  match m.data, m.file with
  | some data, _ =>
    match Base64.decode data with
    | .ok bytes => .ok (some (Text.decodeUtf8 bytes))
    | .error fault => .error (.notBase64 fault)
  | none, some path =>
    match file path with
    | .ok text => .ok (some text)
    | .error .notText => .ok (some "")
    | .error fault => .error (.unreadable path fault)
  | none, none => .ok none

end Material

inductive IdentityFault where
  | unsupported (provider : String)
  | noToken
  | noSource
  | noCommand
  | notStarted (fault : FileFault)
  | unreadableToken (path : String) (fault : FileFault)
  deriving DecidableEq, Repr

namespace IdentityFault

def message : IdentityFault → String
  | unsupported provider =>
    "failed exec auth: Authentication with provider " ++ provider ++ " not supported"
  | noToken => "failed exec auth: No id-token for oidc Authentication provider"
  | noSource =>
    "failed exec auth: Enable oauth feature to use Google Application Credentials-based " ++
      "token source"
  | noCommand => "command must be specified to use exec authentication plugin"
  | notStarted fault => "unable to run auth exec: " ++ fault.message
  | unreadableToken path fault =>
    "failed to read token file '" ++ Text.quoted path ++ "': " ++ fault.message

def sources : IdentityFault → List String
  | notStarted fault | unreadableToken _ fault => [fault.message]
  | _ => []

end IdentityFault

def tokenSetting : String := "id-token"

def IdentityProvider.check (p : IdentityProvider) : Except IdentityFault Unit :=
  let hasToken := p.settings.any fun e => e.1 = tokenSetting
  if p.name = "oidc" then if hasToken then .ok () else .error .noToken
  else if p.name = "gcp" then
    if hasToken then .ok ()
    else if p.settings.any fun e => e.1 = "cmd-path" then .error (.notStarted .missing)
    else .error .noSource
  else .error (.unsupported p.name)

def IdentityProgram.check (p : IdentityProgram) : Except IdentityFault Unit :=
  match p.command with
  | none => .error .noCommand
  | some _ => .error (.notStarted .missing)

inductive ClientFault where
  | proxy (address : String)
  | identity (fault : IdentityFault)
  | noPrivateKey
  | noCertificate
  | badHeader
  deriving DecidableEq, Repr

namespace ClientFault

/-- The kinds of proxies that could be used, with what would be needed for that. -/
def proxyFeatures : List (String × String) :=
  [("http://", "kube/http-proxy"), ("socks5://", "kube/socks5")]

def message : ClientFault → String
  | proxy address =>
    let start := address.toList.map Char.toLower
    let reason :=
      match proxyFeatures.find? fun e => e.1.toList.isPrefixOf start with
      | some (_, feature) => " requires the disabled feature " ++ Text.quoted feature
      | none => " uses an unsupported protocol"
    "configured proxy " ++ address ++ reason
  | identity fault => "auth error: " ++ fault.message
  | noPrivateKey =>
    "identity PEM is missing a private key: the key must be PKCS8 or RSA/PKCS1"
  | noCertificate => "identity PEM is missing certificate"
  | badHeader => "HttpError: failed to parse header value"

def sources : ClientFault → List String
  | proxy _ => []
  | identity fault => fault.message :: fault.sources
  | noPrivateKey | noCertificate => []
  | badHeader => ["failed to parse header value"]

end ClientFault

namespace User

/-- What keeps a user from showing who they are, if anything does. Of what they may show the first
that is there counts. -/
def checkIdentity (u : User) (file : FileReader) : Except IdentityFault Unit :=
  match u.provider, u.name, u.password, u.token, u.tokenFile, u.program with
  | some provider, _, _, _, _, _ => provider.check
  | none, some _, some _, _, _, _ => .ok ()
  | none, _, _, some _, _, _ => .ok ()
  | none, _, _, none, some path, _ =>
    match file path with
    | .ok _ => .ok ()
    | .error fault => .error (.unreadableToken path fault)
  | none, _, _, none, none, some program => program.check
  | none, _, _, none, none, none => .ok ()

def sectionLabels (text : String) : List String :=
  (text.splitOn "-----BEGIN ").tail.map fun s => (s.splitOn "-----").headD ""

/-- What is wrong with the key and the certificate of a user. Only together do they count. -/
def checkCertificate (u : User) (file : FileReader) : Except ClientFault Unit :=
  match u.certificate.load file, u.key.load file with
  | .ok (some certificate), .ok (some key) =>
    let labels := sectionLabels key ++ sectionLabels certificate
    if !labels.any (·.endsWith "PRIVATE KEY") then .error .noPrivateKey
    else if !labels.contains "CERTIFICATE" then .error .noCertificate
    else .ok ()
  | _, _ => .ok ()

def isHeaderChar (c : Char) : Bool := c = '\t' || (0x20 ≤ c.toNat && c.toNat ≠ 0x7F)

/-- Whether the names that the user acts under can be sent. -/
def hasSendableNames (u : User) : Bool :=
  (u.impersonated.toList ++ u.groups).all fun name => name.toList.all isHeaderChar

def check (u : User) (file : FileReader) : Except ClientFault Unit := do
  (u.checkIdentity file).mapError .identity
  u.checkCertificate file
  unless u.hasSendableNames do throw .badHeader

end User

end ClusterSurvey
