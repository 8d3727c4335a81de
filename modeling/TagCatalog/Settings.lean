import TagCatalog.Exchange.RetryPolicy
import TagCatalog.Files
import TagCatalog.Json.Form
import TagCatalog.Json.Shape
import TagCatalog.Wire.Format

/-!
Settings of a client.

* `Settings.standard`: what holds for every setting that is not given.
* `Settings.shape`, `Settings.form`, `Settings.toJson`: settings in JSON.
* `Settings.fault?`: what makes settings unusable.
* `Settings.ofFile`: the settings in a file.
-/

namespace TagCatalog

/-- How often requests are tried. -/
structure RetrySettings where
  maxAttempts : UInt32
  baseDelayMillis : UInt64
  deriving Repr, DecidableEq

namespace RetrySettings

/-- Four attempts, the first wait one second. -/
def standard : RetrySettings := ⟨4, 1000⟩

/-- The policy that these settings describe. -/
def policy (r : RetrySettings) : RetryPolicy :=
  .ofAttempts r.maxAttempts (.ofMillis r.baseDelayMillis)

/-- The settings as JSON. -/
def toJson (r : RetrySettings) : Json :=
  .object [("max_attempts", .ofNat r.maxAttempts.toNat),
    ("base_delay_ms", .ofNat r.baseDelayMillis.toNat)]

/-- Reads the settings; what is not given is standard. -/
def shape : Shape RetrySettings := fun room j => do
  let f ← Fields.ofJson ["max_attempts", "base_delay_ms"] room j
  let maxAttempts ← f.withDefault "max_attempts" Shape.word32 standard.maxAttempts
  let baseDelay ← f.withDefault "base_delay_ms" Shape.word64 standard.baseDelayMillis
  return ⟨maxAttempts, baseDelay⟩

/-- The form of the JSON of the settings. -/
def form : Json.Form :=
  .fields "RetryConfig" [("max_attempts", .word32), ("base_delay_ms", .word64)] []

end RetrySettings

/-- Reads the word for a format. -/
def WireFormat.shape : Shape WireFormat := Shape.choice [("flat", flat), ("table", table)]

/-- The form of the JSON of a format. -/
def WireFormat.form : Json.Form := .choice ["flat", "table"]

/-- Settings of a client. -/
structure Settings where
  /-- Where the service is. -/
  apiUrl : String
  /-- The user in whose name changes are made. -/
  user : UserId
  requestTimeoutMillis : UInt64
  connectTimeoutMillis : UInt64
  retry : RetrySettings
  /-- The format of the service's search responses. -/
  wireFormat : WireFormat
  /-- The token to start with. -/
  token : Option String
  /-- The number of results fetched at once when all are wanted. -/
  batchSize : UInt64
  deriving Repr, DecidableEq

/-- What makes settings unusable. -/
inductive SettingsFault
  | url (url : String)
  | noAttempts
  | noBatch
  | noTimeout
  deriving Repr, DecidableEq

/-- The wording of a fault. -/
def SettingsFault.message (fault : SettingsFault) : String :=
  "invalid config: " ++ match fault with
    | url s => "api_url must be http(s), got " ++ Text.quoted s
    | noAttempts => "retry.max_attempts must be > 0"
    | noBatch => "batch_size must be > 0"
    | noTimeout => "request_timeout_ms must be > 0"

namespace Settings

/-- The settings of a client of a local service. -/
def standard : Settings where
  apiUrl := "http://localhost:1420"
  user := 1
  requestTimeoutMillis := 30000
  connectTimeoutMillis := 5000
  retry := .standard
  wireFormat := .flat
  token := none
  batchSize := 65536

instance : Inhabited Settings := ⟨standard⟩

/-- Settings for a service at a given place, with a first wait of one millisecond. -/
def quick (apiUrl : String) : Settings := { standard with apiUrl, retry := ⟨4, 1⟩ }

/-- The settings as JSON. -/
def toJson (s : Settings) : Json :=
  .object [("api_url", .text s.apiUrl), ("user_id", .ofNat s.user.toNat),
    ("request_timeout_ms", .ofNat s.requestTimeoutMillis.toNat),
    ("connect_timeout_ms", .ofNat s.connectTimeoutMillis.toNat), ("retry", s.retry.toJson),
    ("wire_format", .text s.wireFormat.name), ("token", .ofOption .text s.token),
    ("batch_size", .ofNat s.batchSize.toNat)]

/-- Reads settings; what is not given is standard. -/
def shape : Shape Settings := fun room j => do
  let f ← Fields.ofJson ["api_url", "user_id", "request_timeout_ms", "connect_timeout_ms", "retry",
    "wire_format", "token", "batch_size"] room j
  let apiUrl ← f.withDefault "api_url" Shape.text standard.apiUrl
  let user ← f.withDefault "user_id" Shape.word64 standard.user
  let requestTimeout ← f.withDefault "request_timeout_ms" Shape.word64 standard.requestTimeoutMillis
  let connectTimeout ← f.withDefault "connect_timeout_ms" Shape.word64 standard.connectTimeoutMillis
  let retry ← f.withDefault "retry" RetrySettings.shape standard.retry
  let wireFormat ← f.withDefault "wire_format" WireFormat.shape standard.wireFormat
  let token ← f.withDefault "token" (Shape.optional Shape.text) standard.token
  let batchSize ← f.withDefault "batch_size" Shape.word64 standard.batchSize
  return ⟨apiUrl, user, requestTimeout, connectTimeout, retry, wireFormat, token, batchSize⟩

/-- The form of the JSON of settings. -/
def form : Json.Form :=
  .fields "ClientConfig" [("api_url", .text), ("user_id", .word64),
    ("request_timeout_ms", .word64), ("connect_timeout_ms", .word64),
    ("retry", RetrySettings.form), ("wire_format", WireFormat.form), ("token", .optional .text),
    ("batch_size", .word64)] []

/-- What makes settings unusable: first the address, then the attempts, the batches, the time. -/
def fault? (s : Settings) : Option SettingsFault :=
  if ¬ (s.apiUrl.startsWith "http://" ∨ s.apiUrl.startsWith "https://") then some (.url s.apiUrl)
  else if s.retry.maxAttempts = 0 then some .noAttempts
  else if s.batchSize = 0 then some .noBatch
  else if s.requestTimeoutMillis = 0 then some .noTimeout
  else none

/-- The address of a path at the service. -/
def endpoint (s : Settings) (path : String) : String :=
  String.ofList (s.apiUrl.toList.reverse.dropWhile (· = '/')).reverse ++ path

end Settings

/-! ### Loading -/

/-- What keeps settings from being loaded. -/
inductive LoadFault
  | file (fault : FileFault)
  /-- The text is not that of settings. -/
  | notSettings (flaw : Option Json.Diagnosis)
  | unusable (fault : SettingsFault)
  deriving Repr, DecidableEq

/-- The settings in the bytes of a file, if there is one. -/
def Settings.ofFile (file : Option Bytes) : Except LoadFault Settings :=
  match textOfFile file with
  | .error fault => .error (.file fault)
  | .ok s => match shape.read (Utf8.encode s) with
    | none => .error (.notSettings (form.diagnose (Utf8.encode s)))
    | some settings => match settings.fault? with
      | some fault => .error (.unusable fault)
      | none => .ok settings

end TagCatalog
