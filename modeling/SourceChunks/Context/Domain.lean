import SourceChunks.Pattern.Building
import SourceChunks.Pattern.Scan

/-! The business domain of a declaration, of a file and of a chunk, told by words in the text and in
the name or path. The first domain with a word wins. -/

namespace SourceChunks

inductive Domain where
  | financial | ecommerce | authentication | dataProcessing | communication | analytics
  | userManagement | financialServices | contentManagement | analyticsReporting
  deriving DecidableEq, Repr

namespace Domain

def tag : Domain → Text
  | financial => "Financial"
  | ecommerce => "E-commerce"
  | authentication => "Authentication"
  | dataProcessing => "Data Processing"
  | communication => "Communication"
  | analytics => "Analytics"
  | userManagement => "User Management"
  | financialServices => "Financial Services"
  | contentManagement => "Content Management"
  | analyticsReporting => "Analytics & Reporting"

def paymentWords : List Text := ["processor", "gateway", "method", "transaction"]

/-- A financial word anywhere, or a payment in the text together with one of its words. -/
def isFinancial (words : List Text) (text label : Text) : Bool :=
  Text.hasAny text words || Text.hasAny label words ||
    (Text.has text "payment" && Text.hasAny text paymentWords)

/-- The first domain with a word in the text or in the label. -/
def firstNamed (domains : List (Domain × List Text)) (text label : Text) : Option Domain :=
  (domains.find? fun d => Text.hasAny text d.2 || Text.hasAny label d.2).map (·.1)

/-! ### Declarations -/

def nodeFinancialWords : List Text :=
  ["transaction", "billing", "invoice", "finance", "accounting", "money", "currency", "fee", "charge"]

def nodeWords : List (Domain × List Text) := [
  (ecommerce, ["order", "cart", "checkout", "product", "inventory", "shipping"]),
  (authentication, ["auth", "login", "register", "user", "password", "token", "session"]),
  (dataProcessing, ["data", "process", "transform", "parse", "validate", "serialize"]),
  (communication, ["message", "email", "notification", "chat", "sms", "communication"]),
  (analytics, ["analytics", "report", "dashboard", "metric", "tracking", "statistics"])]

def ofNode (name content : Text) : Option Domain :=
  let text := lowercase content
  let label := lowercase name
  if isFinancial nodeFinancialWords text label then some financial else firstNamed nodeWords text label

/-! ### Files -/

def fileFinancialWords : List Text :=
  ["transaction", "billing", "invoice", "finance", "accounting", "fee", "charge", "currency"]

def fileWords : List (Domain × List Text) := [
  (ecommerce, ["order", "cart", "checkout", "product", "inventory"]),
  (authentication, ["auth", "login", "register", "user", "password", "token"]),
  (communication, ["message", "email", "notification", "chat", "sms"])]

def ofFile (content path : Text) : Option Domain :=
  let text := lowercase content
  let label := lowercase path
  if isFinancial fileFinancialWords text label then some financial else firstNamed fileWords text label

/-! ### Chunks -/

def businessWords : List (Domain × List String) := [
  (ecommerce, ["order", "cart", "checkout", "payment", "product", "inventory"]),
  (userManagement, ["user", "auth", "login", "register", "profile", "account"]),
  (financialServices, ["transaction", "billing", "invoice", "payment", "finance", "accounting"]),
  (contentManagement, ["content", "article", "blog", "post", "media", "upload"]),
  (analyticsReporting, ["analytics", "report", "dashboard", "metric", "tracking", "statistics"]),
  (communication, ["message", "chat", "notification", "email", "sms", "communication"])]

/-- One of the words, not in the middle of a word of small letters. -/
def wordStart (words : List String) : Pattern := Pattern.notAfter Char.isLower ++ Pattern.oneOf words

def ofChunk (content path : Text) : Option Domain :=
  let text := lowercase content
  let label := lowercase path
  (businessWords.find? fun d => (wordStart d.2).occursIn text || (wordStart d.2).occursIn label).map (·.1)

end Domain

end SourceChunks
