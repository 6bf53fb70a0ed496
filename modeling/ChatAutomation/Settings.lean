import ChatAutomation.Schema
import ChatAutomation.Text.Digit

/-!
# Settings

The settings of the application. They are given as arguments or by environment variables, whose names
may be written in any case; an argument wins.
-/
namespace ChatAutomation

structure Settings where
  environment : String
  apiVersion : String
  autoReply : Bool
  respondGroups : Bool
  agentPrompt : String
  logLevel : String
  blockedContacts : String
  blockWord : String
  allowedGroups : String
  mongoUri : String
  mongoDatabase : String
  maxPoolSize : Int
  minPoolSize : Int
  accessToken : Option String
  phoneId : Option String
  verifyToken : Option String
  apiBaseUrl : String
  geminiKey : Option String
  openaiKey : Option String
  geminiModel : String
  openaiModel : String
  requestTimeout : Binary64
  defaultDelay : Binary64
  deriving Repr

namespace Settings

def modelName : String := "Settings"

def defaultPrompt : String := "Você é um assistente prestativo."

def defaultBaseUrl : String := "https://graph.facebook.com/v18.0"

def nullableText (es : Entries Value) (k : String) : Checked (Option String) :=
  Schema.optional es k (Schema.nullable Schema.text) none

/-- The id of the sending phone consists of digits. -/
def readPhoneId (v : Value) : Checked (Option String) :=
  (Schema.nullable Schema.text v).refine (fun s => (s.map Text.isAllDigits).getD true)
    "WHATSAPP_PHONE_ID must contain only digits"

/-- A delay takes some time. -/
def readDelay (v : Value) : Checked Binary64 :=
  (Schema.number v).refine (fun x => !(x.lt .zero || x.isZero))
    "DEFAULT_DELAY_SECONDS must be greater than zero"

def ofEntries (es : Entries Value) : Checked Settings :=
  let text (k default : String) := Schema.optional es k Schema.text default
  Settings.mk <$> text "environment" "production"
    <*> text "api_version" "v1"
    <*> Schema.optional es "auto_reply" Schema.switch true
    <*> Schema.optional es "respond_groups" Schema.switch false
    <*> text "agent_prompt" defaultPrompt
    <*> text "log_level" "INFO"
    <*> text "blocked_contacts" ""
    <*> text "block_word" "parar"
    <*> text "allowed_groups" ""
    <*> text "mongo_uri" "mongodb://localhost:27017"
    <*> text "mongo_db_name" "flowbot"
    <*> Schema.optional es "max_pool_size" Schema.count 10
    <*> Schema.optional es "min_pool_size" Schema.count 1
    <*> nullableText es "whatsapp_access_token"
    <*> Schema.optional es "whatsapp_phone_id" readPhoneId none
    <*> nullableText es "whatsapp_verify_token"
    <*> text "whatsapp_api_base_url" defaultBaseUrl
    <*> nullableText es "gemini_api_key"
    <*> nullableText es "openai_api_key"
    <*> text "ai_model_gemini" "gemini-2.5-flash"
    <*> text "ai_model_openai" "gpt-4o-mini"
    <*> Schema.optional es "http_request_timeout" Schema.number (.ofDecimal false 15 0)
    <*> Schema.optional es "default_delay_seconds" readDelay (.ofDecimal false 1 0)

/-- Entries with their names in lower case; of several spellings of a name the last one counts. -/
def lowerNames (es : Entries Value) : Entries Value :=
  Entries.ofList (es.map fun e => (Text.lower e.1, e.2))

/-- The settings that the arguments and the environment give. -/
def read (given environment : Entries Value) : Checked Settings :=
  ofEntries (Entries.putAll (lowerNames environment) (lowerNames given))

def textOrNull : Option String → Value
  | some s => .text s
  | none => .null

/-- The settings by name. -/
def fields (s : Settings) : Entries Value :=
  [("environment", .text s.environment), ("api_version", .text s.apiVersion),
    ("auto_reply", .bool s.autoReply), ("respond_groups", .bool s.respondGroups),
    ("agent_prompt", .text s.agentPrompt), ("log_level", .text s.logLevel),
    ("blocked_contacts", .text s.blockedContacts), ("block_word", .text s.blockWord),
    ("allowed_groups", .text s.allowedGroups), ("mongo_uri", .text s.mongoUri),
    ("mongo_db_name", .text s.mongoDatabase), ("max_pool_size", .int s.maxPoolSize),
    ("min_pool_size", .int s.minPoolSize),
    ("whatsapp_access_token", textOrNull s.accessToken),
    ("whatsapp_phone_id", textOrNull s.phoneId),
    ("whatsapp_verify_token", textOrNull s.verifyToken),
    ("whatsapp_api_base_url", .text s.apiBaseUrl), ("gemini_api_key", textOrNull s.geminiKey),
    ("openai_api_key", textOrNull s.openaiKey), ("ai_model_gemini", .text s.geminiModel),
    ("ai_model_openai", .text s.openaiModel), ("http_request_timeout", .float s.requestTimeout),
    ("default_delay_seconds", .float s.defaultDelay)]

/-- Is a credential there, and not empty? -/
def isSet (s : Option String) : Bool := (s.map fun s => !s.isEmpty).getD false

/-- What the application cannot do for want of credentials. -/
def missingCredentials (s : Settings) : List String :=
  (if isSet s.accessToken && isSet s.phoneId then []
    else ["WhatsApp credentials are not configured; outbound messages will fail."]) ++
  (if isSet s.verifyToken then []
    else ["WHATSAPP_VERIFY_TOKEN is not set; webhook verification will be rejected."]) ++
  (if isSet s.geminiKey || isSet s.openaiKey then []
    else ["No AI API key configured; ai_response nodes will reply with the fallback text."])

end Settings
end ChatAutomation
