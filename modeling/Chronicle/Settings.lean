import Chronicle.Net.SocketAddress
import Chronicle.Number.Numeral
import Chronicle.Text.Blank
import Chronicle.Text.Quoted

/-!
# Settings

What the service is told by its environment when it starts. All but the database may be left out.
The first setting that cannot be used counts.
-/

namespace Chronicle

structure Settings where
  database : String
  address : Net.SocketAddress
  /-- The folder the guides are loaded from. -/
  guideFolder : String
  maxConnections : UInt32
  /-- Where traces are sent to, if anywhere. -/
  traces : Option String

inductive SettingsFault where
  | noDatabase
  | service (f : Number.NumeralFault)
  | address
  /-- The number of connections as it was given. -/
  | connections (given : String)
  deriving DecidableEq

def SettingsFault.detail : SettingsFault → String
  | .noDatabase => "DATABASE_URL environment variable must be set"
  | .service f => "PORT must be a valid u16: " ++ f.message
  | .address => "invalid HOST:PORT combination: invalid socket address syntax"
  | .connections given =>
    "DATABASE_MAX_CONNECTIONS must be a positive integer, got " ++ Text.quoted given

def SettingsFault.message (f : SettingsFault) : String := "configuration error: " ++ f.detail

namespace Settings

/-- The number of the service on its host. -/
def service (given : Option String) : Except SettingsFault Nat :=
  match given with
  | none => .ok 3000
  | some s => (Number.ofNumeral 0xFFFF s).mapError .service

def connections (given : Option String) : Except SettingsFault UInt32 :=
  match given with
  | none => .ok 10
  | some s =>
    match Number.ofNumeral 0xFFFFFFFF s with
    | .ok n => if n = 0 then .error (.connections s) else .ok (UInt32.ofNat n)
    | .error _ => .error (.connections s)

/-- The settings in an environment. A blank place for traces is none. -/
def ofEnvironment (lookup : String → Option String) : Except SettingsFault Settings := do
  let some database := lookup "DATABASE_URL" | throw .noDatabase
  let service ← service (lookup "PORT")
  let host := (lookup "HOST").getD "0.0.0.0"
  let some address := Net.SocketAddress.ofText? (host ++ ":" ++ toString service) | throw .address
  let maxConnections ← connections (lookup "DATABASE_MAX_CONNECTIONS")
  return {
    database
    address
    guideFolder := (lookup "GUIDE_DIR").getD "guides"
    maxConnections
    traces := (lookup "OTEL_EXPORTER_OTLP_ENDPOINT").filter (! Text.blank ·) }

end Settings
end Chronicle
