import OrderDesk.Decimal.Reader
import OrderDesk.Text.Basic

/-!
# Configuration

Named values from outside that say how the desk is run.  A blank value counts as none.
-/

namespace OrderDesk

/-- How log lines are written. -/
inductive LogFormat where
  /-- For people. -/
  | pretty
  /-- For machines. -/
  | json
  deriving DecidableEq, Repr

/-- The configuration. -/
structure Config where
  /-- Key to the chat service. -/
  telegramBotToken : String
  /-- Where the database is; without it everything is kept in memory. -/
  databaseUrl : Option String
  /-- Seconds that one turn may take. -/
  handlerTimeoutSecs : UInt64
  /-- Roubles for a yuan. -/
  yuanRate : Float
  /-- Where the rate of the day is published. -/
  rateSourceUrl : Option String
  /-- Seconds that a fetched rate serves. -/
  rateTtlSecs : UInt64
  /-- Where the settings of the operator are. -/
  settingsPath : Option String
  /-- Where the phrase files are. -/
  localesDir : Option String
  /-- How log lines are written. -/
  logFormat : LogFormat
  deriving Repr

/-- Why there is no configuration. -/
inductive ConfigError where
  /-- The key to the chat service is missing. -/
  | missingToken
  /-- The value of the given name is no whole number. -/
  | notWhole (name : String)
  /-- The value of the given name is no number. -/
  | notNumber (name : String)
  deriving DecidableEq, Repr

/-- The wording of what is wrong with a configuration. -/
def ConfigError.message : ConfigError → String
  | missingToken => "TELEGRAM_BOT_TOKEN must be set"
  | notWhole name => name ++ " must be a whole number"
  | notNumber name => name ++ " must be a number"

namespace Config

/-- A whole number under the given name. -/
def whole (get : String → Option String) (name : String) (otherwise : UInt64) : Except ConfigError UInt64 :=
  match get name with
  | none => .ok otherwise
  | some v => match Decimal.uint64? v.toList with
    | some n => .ok n
    | none => .error (.notWhole name)

/-- A number under the given name. -/
def number (get : String → Option String) (name : String) (otherwise : Float) : Except ConfigError Float :=
  match get name with
  | none => .ok otherwise
  | some v => match Decimal.float? v with
    | some x => .ok x
    | none => .error (.notNumber name)

/-- The configuration that named values make. -/
def ofLookup (lookup : String → Option String) : Except ConfigError Config := do
  let get := fun name => (lookup name).filter fun v => !(Text.trimmed v.toList).isEmpty
  let some token := get "TELEGRAM_BOT_TOKEN" | throw .missingToken
  let timeout ← whole get "HANDLER_TIMEOUT_SECS" 10
  let rate ← number get "YUAN_RATE" 11.96
  let ttl ← whole get "RATE_TTL_SECS" 3600
  return { telegramBotToken := token
           databaseUrl := get "DATABASE_URL"
           handlerTimeoutSecs := timeout
           yuanRate := rate
           rateSourceUrl := get "RATE_SOURCE_URL"
           rateTtlSecs := ttl
           settingsPath := get "BOT_SETTINGS_PATH"
           localesDir := get "LOCALES_DIR"
           logFormat := if get "LOG_FORMAT" = some "json" then .json else .pretty }

end Config

end OrderDesk
